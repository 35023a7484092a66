import GradleLint.Proofs.Cli.Command

/-!
# The exit status of a run

A run ends in one of five ways (`World.Fate`): a step of the setup fails and the failure is handled
or is not, or the setup gives a plan and its process starts, is refused, or cannot be.  The exit
status follows from the way (`World.lint_status`): it is the verdict of the build if its process has
started, and two otherwise, except where nobody handles the failure.
-/

namespace GradleLint

variable {w : World} {o : LintOptions} {plan : Plan} {build : BuildScript}

/-! ## What is seen of an ending -/

/-- Whether a build process is entered as started. -/
def Occurrence.isStart : Occurrence → Bool
  | .event (.logged (.started _ _ _)) => true
  | _ => false

namespace Ending

/-- Whether a build process has started. -/
def started (e : Ending) : Bool := e.occurrences.any Occurrence.isStart

/-- Whether the run has broken off. -/
def brokeOff : Ending → Bool
  | .unhandled _ _ _ => true
  | _ => false

end Ending

/-! ## Failures that nobody handles -/

namespace SetupError

/-- The failure of a path, other than that of the file, that is behind a failure of the setup. -/
def path? : SetupError → Option PathError
  | .path e => some e
  | .root (.path e) => some e
  | .tool (.path e) => some e
  | .settings (.path e) => some e
  | .root (.settings (.path e)) => some e
  | _ => none

/-- The failure to load settings that is behind a failure of the setup. -/
def settings? : SetupError → Option SettingsError
  | .settings e => some e
  | .root (.settings e) => some e
  | _ => none

/-- Nobody handles the failure: the file cannot be made absolute, for whatever reason, or another
path cannot be used and it is not the operating system that fails, or settings have bytes that are
not UTF-8 or an integer that is too long. -/
def Escapes (e : SetupError) : Prop :=
  (∃ p, e = .file p) ∨ (∃ p, e.path? = some p ∧ ∀ s, p ≠ .system s) ∨
    e.settings? = some .notUtf8 ∨ ∃ digits, e.settings? = some (.oversizedInteger digits)

lemma unhandledPath?_eq_none_iff (p : PathError) :
    unhandledPath? p = none ↔ ∃ s, p = .system s := by
  cases p <;> simp [unhandledPath?]

lemma unhandledSettings?_eq_none_iff (e : SettingsError) :
    unhandledSettings? e = none ↔
      (∀ p, e = .path p → ∃ s, p = .system s) ∧ e ≠ .notUtf8 ∧
        ∀ digits, e ≠ .oversizedInteger digits := by
  cases e <;> simp [unhandledSettings?, unhandledPath?_eq_none_iff]

/-- Exactly the failures that escape are not handled. -/
lemma unhandled?_eq_none_iff (e : SetupError) : e.unhandled? = none ↔ ¬ e.Escapes := by
  cases e with
  | file p => simp [unhandled?, Escapes]
  | path p => simp [unhandled?, Escapes, path?, settings?, unhandledPath?_eq_none_iff]
  | unsupported u => simp [unhandled?, Escapes, path?, settings?]
  | root r =>
    cases r with
    | path p => simp [unhandled?, Escapes, path?, settings?, unhandledPath?_eq_none_iff]
    | settings s =>
      cases s <;> simp [unhandled?, Escapes, path?, settings?, unhandledSettings?_eq_none_iff]
    | noProject file => simp [unhandled?, Escapes, path?, settings?]
  | settings s =>
    cases s <;> simp [unhandled?, Escapes, path?, settings?, unhandledSettings?_eq_none_iff]
  | tool t =>
    cases t <;> simp [unhandled?, Escapes, path?, settings?, unhandledPath?_eq_none_iff]

end SetupError

/-! ## How a run ends -/

namespace World

/-- How a run ends, with what is seen of its ending. -/
inductive Fate (w : World) (o : LintOptions) (build : BuildScript) (e : Ending) : Prop
  /-- The setup fails, and the failure is reported. -/
  | failed {failure : SetupError} (hsetUp : w.setUp o = .error failure)
      (hescapes : ¬ failure.Escapes) (hstatus : e.status = 2) (hstarted : e.started = false)
      (hbrokeOff : e.brokeOff = false)
  /-- The setup fails, and nobody handles the failure. -/
  | escaped {failure : SetupError} (hsetUp : w.setUp o = .error failure)
      (hescapes : failure.Escapes) (hstatus : e.status = 1) (hstarted : e.started = false)
      (hbrokeOff : e.brokeOff = true)
  /-- The process of the build starts. -/
  | started {plan : Plan} (hsetUp : w.setUp o = .ok plan) (hrefusal : build.refusal = none)
      (hstatus : e.status = if build.status = 0 then 0 else if build.status = 1 then 1 else 2)
      (hstarted : e.started = true) (hbrokeOff : e.brokeOff = false)
  /-- The operating system refuses the process. -/
  | refused {plan : Plan} {failure : SystemError} (hsetUp : w.setUp o = .ok plan)
      (hrefusal : build.refusal = some (.system failure)) (hstatus : e.status = 2)
      (hstarted : e.started = false) (hbrokeOff : e.brokeOff = false)
  /-- No process can be as the plan has it, and nobody handles the complaint of the start. -/
  | unfit {plan : Plan} {message : Text} (hsetUp : w.setUp o = .ok plan)
      (hrefusal : build.refusal = some (.unfit message)) (hstatus : e.status = 1)
      (hstarted : e.started = false) (hbrokeOff : e.brokeOff = true)

/-- The report of a build that has started has the status of its process, as far as that is a
verdict. -/
lemma report?_outcome (d : Display) (plan : Plan) (build : BuildScript) :
    ∃ report, d.report? plan.document (plan.outcome build) =
      some (if build.status = 0 then 0 else if build.status = 1 then 1 else 2, report) := by
  unfold Plan.outcome
  rw [Run.buildOutcome_eq]
  split
  · exact ⟨_, rfl⟩
  · split
    · exact ⟨_, rfl⟩
    · exact ⟨_, rfl⟩

/-- What the ending of a plan shows. -/
lemma fate_of_plan (hsetUp : w.setUp o = .ok plan) (p : Presentation) :
    Fate w o build (w.lintPlan plan build p) := by
  have hcommand := normalizeCommand_of_setUp hsetUp
  cases hrefusal : build.refusal with
  | none =>
    obtain ⟨report, hreport⟩ := report?_outcome p.display plan build
    have hrun := runPlan_of_started hcommand hrefusal
    refine .started hsetUp hrefusal ?_ ?_ ?_
    all_goals simp only [lintPlan, hrun, hreport]
    all_goals rfl
  | some refusal =>
    cases refusal with
    | system failure =>
      have hrun := runPlan_of_refused hcommand hrefusal
      refine .refused hsetUp hrefusal ?_ ?_ ?_
      all_goals simp only [lintPlan, hrun]
      all_goals rfl
    | unfit message =>
      have hrun := runPlan_of_unfit hcommand hrefusal
      refine .unfit hsetUp hrefusal ?_ ?_ ?_
      all_goals simp only [lintPlan, hrun]
      all_goals rfl

lemma fate_of_failure {failure : SetupError} (hsetUp : w.setUp o = .error failure)
    (p : Presentation) : Fate w o build (failure.ending p) := by
  cases hunhandled : failure.unhandled? with
  | none =>
    have hescapes := failure.unhandled?_eq_none_iff.mp hunhandled
    refine .failed hsetUp hescapes ?_ ?_ ?_
    all_goals simp only [SetupError.ending, hunhandled]
    all_goals rfl
  | some u =>
    have hescapes : failure.Escapes := by
      by_contra h
      rw [failure.unhandled?_eq_none_iff.mpr h] at hunhandled
      cases hunhandled
    refine .escaped hsetUp hescapes ?_ ?_ ?_
    all_goals simp only [SetupError.ending, hunhandled]
    all_goals rfl

/-- Every run ends in one of the ways. -/
lemma fate_lint (w : World) (o : LintOptions) (build : BuildScript) (terminal : Bool) :
    Fate w o build (w.lint o build terminal) := by
  obtain ⟨p, hlint⟩ := w.lint_of_setUp o build terminal
  rw [hlint]
  cases hsetUp : w.setUp o with
  | error failure => exact fate_of_failure hsetUp p
  | ok plan => exact fate_of_plan hsetUp p

/-! ## The result -/

/-- The status is zero exactly when the process of the build has started and ended with zero.  It is
one when the process has started and ended with one, but also whenever the run breaks off.  In all
other cases it is two.  A process starts exactly when the setup succeeds and nothing is against the
process; the run breaks off exactly when a failure of the setup escapes, or when no process can be
as the plan has it. -/
theorem lint_status (w : World) (o : LintOptions) (build : BuildScript) (terminal : Bool) :
    let e := w.lint o build terminal
    (e.status = 0 ↔ e.started ∧ build.status = 0) ∧
    (e.status = 1 ↔ (e.started ∧ build.status = 1) ∨ e.brokeOff) ∧
    (e.status = 2 ↔ ¬ (e.started ∧ (build.status = 0 ∨ build.status = 1)) ∧ ¬ e.brokeOff) ∧
    (e.started ↔ (∃ plan, w.setUp o = .ok plan) ∧ build.refusal = none) ∧
    (e.brokeOff ↔ (∃ failure, w.setUp o = .error failure ∧ failure.Escapes) ∨
      (∃ plan, w.setUp o = .ok plan) ∧ ∃ message, build.refusal = some (.unfit message)) := by
  intro e
  have hfate : Fate w o build e := w.fate_lint o build terminal
  cases hfate with
  | failed hsetUp hescapes hstatus hstarted hbrokeOff =>
    simp [hsetUp, hescapes, hstatus, hstarted, hbrokeOff]
  | escaped hsetUp hescapes hstatus hstarted hbrokeOff =>
    simp [hsetUp, hescapes, hstatus, hstarted, hbrokeOff]
  | started hsetUp hrefusal hstatus hstarted hbrokeOff =>
    simp only [hsetUp, hrefusal, hstatus, hstarted, hbrokeOff]
    by_cases h0 : build.status = 0
    · simp [h0]
    · by_cases h1 : build.status = 1
      · simp [h1]
      · simp [h0, h1]
  | refused hsetUp hrefusal hstatus hstarted hbrokeOff =>
    simp [hsetUp, hrefusal, hstatus, hstarted, hbrokeOff]
  | unfit hsetUp hrefusal hstatus hstarted hbrokeOff =>
    simp [hsetUp, hrefusal, hstatus, hstarted, hbrokeOff]

/-- A file, a link that leads to itself, and a settings file that is not in UTF-8. -/
def brokenProject : World :=
  { files := .ofEntries [
      (["p", "A.kt"], .file [] false), (["p", "L.kt"], .link "L.kt"),
      (["p", ".buildlint.toml"], .file [0xff] false)]
    cwd := ["home"], environment := [] }

/-- The home of a user nobody knows, a link that leads to itself, and settings that are not in
UTF-8: the status says that there are issues, but no build has started. -/
theorem status_one_without_build :
    let unknownUser := brokenProject.lint { file := "~nosuchuser123/A.kt" } {} false
    let loop := brokenProject.lint { file := "/p/L.kt" } {} false
    let undecodable := brokenProject.lint { file := "/p/A.kt", root := some "/p" } {} false
    (unknownUser.status = 1 ∧ unknownUser.started = false) ∧
    (loop.status = 1 ∧ loop.started = false) ∧
    (undecodable.status = 1 ∧ undecodable.started = false) := by
  refine ⟨⟨?_, ?_⟩, ⟨?_, ?_⟩, ?_, ?_⟩
  all_goals cbv

end World
end GradleLint
