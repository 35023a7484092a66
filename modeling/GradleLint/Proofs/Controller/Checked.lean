import GradleLint.Proofs.Controller.Supersession
import GradleLint.Proofs.Output.Records

/-!
# Completions never fail half-way

Between the end of a process and the outcome of its request much is checked: the output goes
into a buffer that may have been released, exit, records, diagnostics and outcome are validated,
the numeral of the status must not be too long, and the request may have its outcome already.
`checkedOutcome` makes all these checks.  `checkedOutcome_eq` says that none of them fails: at
every moment of a run, for every output and every status that a process can have, the checks
give the outcome that the completion records.

The lines of the output are read under a guard that passes over those that cannot be read, so
reading adds no check.  Pids stand for numbers of the operating system, whose numerals are short.
-/

namespace GradleLint
namespace Controller

/-- What can stop a completion before the request has its outcome. -/
inductive Obstacle where
  | capture (e : CaptureError)
  | invalid (issues : List Issue)
  /-- A number has too many digits to be written. -/
  | oversized
  /-- The request has its outcome already. -/
  | settled
deriving DecidableEq, Repr

/-- Goes on with a valid value. -/
def accept {α : Type} : Validated α → Except Obstacle α
  | .valid a => .ok a
  | .invalid issues => .error (.invalid issues)

/-- The failure of a tool is described with the numeral of its status. -/
def checkNumeral (status : Int) : Except Obstacle Unit :=
  if (Text.ofNat status.natAbs).length ≤ Numeral.digitLimit then .ok () else .error .oversized

/-- Classifies a finished process and validates the outcome. -/
def checkedClassify (e : Exit) (output : Text) (path : Path) (g : Grammar) (current : Bool) :
    Except Obstacle Outcome := do
  let o := classify e output path (some g) current
  if o.kind = .toolError then checkNumeral e.status
  accept (Outcome.readAs o.kind o.toValue)

/-- Anchors the records of an outcome and validates each diagnostic. -/
def checkedAnchor (text : Text) : Outcome → Except Obstacle Outcome
  | .issues records _ => do
    let diagnostics ← records.mapM fun r => accept (Diagnostic.read (r.anchor text).toValue)
    return .issues records diagnostics
  | o => return o

/-- The outcome of an ended process for its document, with every check on the way to it. -/
def checkedOutcome (proc : Process) (pid : Nat) (request : Request) (doc : Document)
    (status : Int) (output : Text) (current : Bool) : Except Obstacle Outcome := do
  let capture ← (proc.capture.append output).mapError .capture
  let e ← accept (Exit.read (Exit.toValue ⟨some pid, proc.args, status⟩))
  let captured ← capture.text.mapError .capture
  let o ← checkedClassify e captured doc.path request.grammar current
  let o ← checkedAnchor doc.content o
  if request.progress = .pending then return o else throw .settled

/-- A status that an operating system gives to a process: a number of 32 bits, signed or not. -/
def IsStatus (status : Int) : Prop := -2147483648 ≤ status ∧ status < 4294967296

lemma checkNumeral_of_isStatus {status : Int} (h : IsStatus status) :
    checkNumeral status = .ok () := by
  obtain ⟨hlo, hhi⟩ := h
  have hsmall : status.natAbs < 10 ^ 10 := by omega
  have hlen : (Text.ofNat status.natAbs).length ≤ 10 :=
    (Nat.length_toDigits_le_iff (by decide) (by decide)).mpr hsmall
  exact if_pos (Nat.le_trans hlen (by decide))

lemma checkedClassify_eq {e : Exit} (h : IsStatus e.status) (output : Text) (path : Path)
    (g : Grammar) (current : Bool) :
    checkedClassify e output path g current = .ok (classify e output path (some g) current) := by
  have hread := Outcome.readAs_toValue (positive_classify e output path (some g) current)
  simp only [checkedClassify, checkNumeral_of_isStatus h, hread]
  split <;> rfl

lemma checkedAnchor_eq (text : Text) (o : Outcome) :
    checkedAnchor text o = .ok (o.anchor text) := by
  cases o with
  | issues records diagnostics =>
    have hmap : ∀ l : List Record,
        (l.mapM fun r => accept (Diagnostic.read (r.anchor text).toValue)) =
          Except.ok (l.map (Record.anchor text)) := by
      intro l
      induction l with
      | nil => rfl
      | cons r l ih =>
        rw [List.mapM_cons, Diagnostic.read_toValue, ih]
        rfl
    rw [checkedAnchor, hmap]
    rfl
  | noIssues => rfl
  | toolError d => rfl
  | superseded pid => rfl

/-- No check fails for a process that has not been dealt with. -/
lemma checkedOutcome_eq {proc : Process} {request : Request} {status : Int}
    (hfresh : proc.capture = .empty) (hpending : request.progress = .pending)
    (hstatus : IsStatus status) (pid : Nat) (doc : Document) (output : Text) (current : Bool) :
    checkedOutcome proc pid request doc status output current =
      .ok (outcomeOf proc pid request doc status output current) := by
  have hcapture : (proc.capture.append output).mapError Obstacle.capture =
      .ok (.live [output]) := by
    rw [hfresh]
    rfl
  have htext : (Capture.live [output]).text.mapError Obstacle.capture = .ok output := by
    simp [Capture.text, Except.mapError]
  have hexit : accept (Exit.read (Exit.toValue ⟨some pid, proc.args, status⟩)) =
      .ok ⟨some pid, proc.args, status⟩ := by
    rw [Exit.read_toValue]
    rfl
  unfold checkedOutcome
  simp only [hcapture, htext, hexit, bind, Except.bind, checkedAnchor_eq, hpending, if_true]
  rw [checkedClassify_eq hstatus]
  rfl

end Controller
end GradleLint
