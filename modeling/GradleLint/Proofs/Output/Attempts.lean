import GradleLint.Proofs.Output.Records

/-!
# Reading output never fails

A line is read step by step: it is cut into fields, a field is asked for by its number, the
location must have two parts, each of them must be a numeral that is not too long, and the record
must pass its validation.  `Grammar.attempt` takes these steps, each of which can fail in its own
way, and `attemptRecords` reads the lines of an output under a guard that passes over a missing
item and over a value of no use, and over nothing else.  `attempt_eq` compares a step-by-step
reading with `Grammar.readLine`, and `attemptRecords_eq` says that no failure ever gets past the
guard.
-/

namespace GradleLint

/-- What can go wrong on the way through a line. -/
inductive Trouble where
  /-- A list is asked for an item that it does not have. -/
  | noItem
  /-- A value is of the right type and of no use all the same: a text that is no numeral or one
  that is too long, parts that are not two, a record that does not pass its validation. -/
  | badValue
  /-- A value is of the wrong type. -/
  | badType
deriving DecidableEq, Repr

namespace Trouble

/-- Whether reading goes on to the next line. -/
def isPassedOver : Trouble → Bool
  | noItem => true
  | badValue => true
  | badType => false

/-! ## The steps of reading a line -/

/-- An item of a list by its number. -/
def item (ts : List Text) (i : Nat) : Except Trouble Text :=
  match ts[i]? with
  | some t => .ok t
  | none => .error noItem

/-- The two items of a list. -/
def pair : List Text → Except Trouble (Text × Text)
  | [a, b] => .ok (a, b)
  | _ => .error badValue

/-- The integer that a numeral stands for. -/
def integer (t : Text) : Except Trouble Int :=
  match Numeral.parse? t with
  | some n => .ok n
  | none => .error badValue

/-- A record once its data are validated. -/
def validate (r : Record) : Except Trouble Record :=
  match Record.read r.toValue with
  | .valid r => .ok r
  | .invalid _ => .error badValue

/-- Reads a line written by the Kotlin compiler, step by step. -/
def readKotlin (t : Text) : Except Trouble Record := do
  let fields := t.fields ':'
  let location ← item fields 2
  let (row, column) ← pair ((location.trimBy isLocationBracket).pieces ',' ' ')
  let message := Text.trim (Text.join [':'] (fields.drop 3))
  let marker ← item fields 0
  let line ← integer row
  let column ← integer column
  validate ⟨.ofMarker marker, line, column, message⟩

/-- Reads a line written by the Java compiler, step by step. -/
def readJava (t : Text) : Except Trouble Record := do
  let fields := t.fields ':'
  let line ← integer (← item fields 1)
  let message ← item fields 2
  validate ⟨.error, line, 1, message⟩

end Trouble

/-- Reads a line in the given grammar, step by step. -/
def Grammar.attempt : Grammar → Text → Except Trouble Record
  | .kotlin => Trouble.readKotlin
  | .java => Trouble.readJava

/-- Reads lines in order; trouble that is not passed over ends the reading. -/
def Grammar.attemptLines (g : Grammar) (name : Text) : List Text → Except Trouble (List Record)
  | [] => .ok []
  | line :: rest =>
    if Text.includes name line.dropCarriageReturn then
      match g.attempt line.dropCarriageReturn with
      | .ok r => (r :: ·) <$> attemptLines g name rest
      | .error e => if e.isPassedOver then attemptLines g name rest else .error e
    else attemptLines g name rest

/-- Reads an output for the file at `path`, step by step. -/
def attemptRecords (path : Path) (grammar : Option Grammar) (output : Text) :
    Except Trouble (List Record) :=
  match grammar.or (Grammar.ofPath? path) with
  | none => .ok []
  | some g => g.attemptLines path.name (output.fields '\n')

/-! ## Validated records -/

/-- The data of a record that is not well placed do not pass. -/
lemma Record.read_toValue_of_not_positive {r : Record} (h : ¬ r.Positive) :
    ∃ issues, Record.read r.toValue = .invalid issues := by
  rw [read_toValue_eq]
  cases hissues : r.issues with
  | nil => exact absurd (r.issues_eq_nil_iff.mp hissues) h
  | cons i is => exact ⟨_, rfl⟩

/-! ## What goes wrong, step by step and at once -/

/-- The trouble behind an error in a line. -/
def LineError.trouble : LineError → Trouble
  | .fieldMissing => .noItem
  | .badNumber => .badValue
  | .notPositive _ _ => .badValue

lemma LineError.trouble_isPassedOver (e : LineError) : e.trouble.isPassedOver = true := by
  cases e <;> rfl

lemma Trouble.validate_eq (severity : Severity) (line column : Int) (message : Text) :
    validate ⟨severity, line, column, message⟩ =
      (Record.checked severity line column message).mapError LineError.trouble := by
  by_cases h : Record.Positive ⟨severity, line, column, message⟩
  · have hchecked : Record.checked severity line column message =
        .ok ⟨severity, line, column, message⟩ := if_pos h
    rw [validate, Record.read_toValue h, hchecked]
    rfl
  · have hchecked : Record.checked severity line column message =
        .error (.notPositive (line < 1) (column < 1)) := if_neg h
    obtain ⟨issues, hissues⟩ := Record.read_toValue_of_not_positive h
    rw [validate, hissues, hchecked]
    rfl

lemma Trouble.readKotlin_eq (t : Text) :
    Trouble.readKotlin t = (GradleLint.readKotlin t).mapError LineError.trouble := by
  unfold Trouble.readKotlin GradleLint.readKotlin readLocation
  rcases t.fields ':' with _ | ⟨marker, _ | ⟨path, _ | ⟨location, message⟩⟩⟩
  · rfl
  · rfl
  · rfl
  · simp only [item, List.getElem?_cons_succ, List.getElem?_cons_zero, List.drop_succ_cons,
      List.drop_zero, bind, Except.bind]
    generalize (location.trimBy isLocationBracket).pieces ',' ' ' = parts
    rcases parts with _ | ⟨row, _ | ⟨column, _ | ⟨more, rest⟩⟩⟩
    · rfl
    · rfl
    · simp only [pair, integer]
      cases Numeral.parse? row with
      | none => rfl
      | some line =>
        cases Numeral.parse? column with
        | none => rfl
        | some column => exact validate_eq _ line column _
    · rfl

lemma Trouble.readJava_eq (t : Text) :
    Trouble.readJava t = (GradleLint.readJava t).mapError LineError.trouble := by
  unfold Trouble.readJava GradleLint.readJava
  rcases t.fields ':' with _ | ⟨path, _ | ⟨number, rest⟩⟩
  · rfl
  · rfl
  · simp only [item, integer, List.getElem?_cons_succ, List.getElem?_cons_zero, bind, Except.bind]
    cases Numeral.parse? number with
    | none => rfl
    | some line =>
      cases rest with
      | nil => rfl
      | cons message more => exact validate_eq .error line 1 message

/-- Taken step by step, reading a line gives the same record or the trouble behind the same
error. -/
lemma Grammar.attempt_eq (g : Grammar) (line : Text) :
    g.attempt line = (g.readLine line).mapError LineError.trouble := by
  cases g with
  | kotlin => exact Trouble.readKotlin_eq line
  | java => exact Trouble.readJava_eq line

/-! ## Whole outputs -/

lemma Grammar.attemptLines_eq (g : Grammar) (name : Text) (lines : List Text) :
    g.attemptLines name lines = .ok (lines.filterMap (g.recordOf? name)) := by
  induction lines with
  | nil => rfl
  | cons line rest ih =>
    rw [attemptLines, ih, attempt_eq, List.filterMap_cons]
    simp only [recordOf?]
    by_cases hname : Text.includes name line.dropCarriageReturn = true
    · rw [if_pos hname, if_pos hname]
      cases g.readLine line.dropCarriageReturn with
      | ok r => rfl
      | error e =>
        show (if e.trouble.isPassedOver then _ else _) = _
        rw [if_pos e.trouble_isPassedOver]
        rfl
    · rw [if_neg hname, if_neg hname]

/-- No trouble gets past the guard, whatever the output. -/
lemma attemptRecords_eq (path : Path) (grammar : Option Grammar) (output : Text) :
    attemptRecords path grammar output = .ok (recordsFor path grammar output) := by
  unfold attemptRecords recordsFor
  cases grammar.or (Grammar.ofPath? path) with
  | none => rfl
  | some g => exact g.attemptLines_eq path.name (output.fields '\n')

end GradleLint
