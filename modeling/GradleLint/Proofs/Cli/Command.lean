import GradleLint.Proofs.Cli.OneBuild
import GradleLint.Proofs.Cli.Setup
import GradleLint.Proofs.Project.Executable
import GradleLint.Proofs.Settings.Loading

/-!
# The command that a run launches

A run whose setup succeeds asks for one process, that of its plan, and one whose setup fails asks
for none (`World.lint_launches`).  The program of the command is a regular path from the root, so
nothing is changed or looked up on the way from the plan to the process.
-/

namespace GradleLint

variable {w : World} {o : LintOptions} {plan : Plan}

/-! ## What a run asks for -/

/-- The process that is asked for in an occurrence. -/
def Occurrence.launch? : Occurrence → Option Launch
  | .event (.launched l) => some l
  | _ => none

namespace Ending

/-- What happened before the end. -/
def occurrences : Ending → List Occurrence
  | .usage _ => []
  | .exit occurrences _ _ => occurrences
  | .unhandled occurrences _ _ => occurrences

/-- The processes that were asked for, in order. -/
def launches (e : Ending) : List Launch := e.occurrences.filterMap Occurrence.launch?

end Ending

lemma SetupError.occurrences_ending (e : SetupError) (p : Presentation) :
    (e.ending p).occurrences = [] := by
  unfold ending
  split <;> rfl

namespace World

lemma occurrences_lintPlan (w : World) (plan : Plan) (build : BuildScript) (p : Presentation) :
    (w.lintPlan plan build p).occurrences = (w.runPlan plan build).1 := by
  unfold lintPlan
  dsimp only
  split
  · rename_i h
    rw [h]
    rfl
  · rename_i h
    rw [h]
    split <;> rfl

/-- The build of a plan whose command stands as it is asks for the process of the plan, once. -/
lemma launches_runPlan (hcommand : w.normalizeCommand plan.command = .ok plan.command)
    (build : BuildScript) :
    (w.runPlan plan build).1.filterMap Occurrence.launch? = [plan.launch] := by
  cases hrefusal : build.refusal with
  | none =>
    rw [runPlan_of_started hcommand hrefusal]
    rfl
  | some refusal =>
    cases refusal with
    | system e =>
      rw [runPlan_of_refused hcommand hrefusal]
      rfl
    | unfit message =>
      rw [runPlan_of_unfit hcommand hrefusal]
      rfl

/-! ## The result -/

/-- The command of a run stands as it is, whatever the search path. -/
lemma normalizeCommand_of_succeeds {x : Preparation} (h : x.Succeeds w o) (w' : World) :
    w'.normalizeCommand (x.command o) = .ok (x.command o) := by
  obtain ⟨hregular, habs⟩ := buildExecutable_regular h.executable
  simp only [Preparation.command, List.cons_append, List.nil_append]
  exact w'.normalizeCommand_of_regular hregular habs _

lemma normalizeCommand_of_setUp (h : w.setUp o = .ok plan) :
    w.normalizeCommand plan.command = .ok plan.command := by
  obtain ⟨x, hx, rfl⟩ := setUp_eq_ok_iff.mp h
  exact normalizeCommand_of_succeeds hx w

/-- When every step of the setup succeeds, exactly one process is asked for: the command that the
results of the steps ask for, in the root of the project and with the environment as it is.  Its
program is absolute and not looked up again.  When some step fails, no process is asked for. -/
theorem lint_launches (w : World) (o : LintOptions) (build : BuildScript) (terminal : Bool) :
    (∀ x : Preparation, x.Succeeds w o →
      (w.lint o build terminal).launches = [⟨x.command o, x.root.toText, none⟩] ∧
      x.executable.isAbsolute ∧
      ∀ w' : World, w'.normalizeCommand (x.command o) = .ok (x.command o)) ∧
    ((¬ ∃ x : Preparation, x.Succeeds w o) → (w.lint o build terminal).launches = []) := by
  obtain ⟨p, hlint⟩ := w.lint_of_setUp o build terminal
  refine ⟨fun x hx => ⟨?_, (buildExecutable_regular hx.executable).2,
    normalizeCommand_of_succeeds hx⟩, fun hfails => ?_⟩
  · rw [setUp_eq_ok_iff.mpr ⟨x, hx, rfl⟩] at hlint
    rw [Ending.launches, hlint, occurrences_lintPlan]
    exact launches_runPlan (normalizeCommand_of_succeeds hx w) build
  · cases hsetUp : w.setUp o with
    | error e =>
      rw [hsetUp] at hlint
      rw [Ending.launches, hlint, e.occurrences_ending]
      rfl
    | ok plan =>
      obtain ⟨x, hx, -⟩ := setUp_eq_ok_iff.mp hsetUp
      exact absurd ⟨x, hx⟩ hfails

/-- A project with a wrapper, one file and settings of its own. -/
def oneProject : World :=
  { files := .ofEntries [
      (["p", "gradlew"], .file [] true), (["p", "A.kt"], .file (Utf8.encode "val x = 1\n") false),
      (["p", ".buildlint.toml"], .file (Utf8.encode "extra-flags = ['-s']\n") false)]
    cwd := ["p"], environment := [] }

/-- The results of the steps for the file of the project. -/
def onePreparation : Preparation where
  file := .ofText "/p/A.kt"
  grammar := .kotlin
  root := .ofText "/p"
  config := { extraFlags := ["-s"] }
  executable := .ofText "/p/gradlew"
  task := "compileKotlin"
  document := .create (.ofText "/p/A.kt") "val x = 1\n" [] 0

theorem launches_of_one_project :
    (oneProject.lint { file := "A.kt", root := some "/p", flags := ["--info"] } {} false).launches =
      [⟨["/p/gradlew", "--quiet", "--console", "plain", "clean", "compileKotlin", "-s", "--info"],
        "/p", none⟩] := by
  have hproject : oneProject.projectSection (.ofText "/p") = .ok [] := by cbv
  have hown : oneProject.readToml (.ofText "/p" / .ofText settingsFileName) =
      .ok [("extra-flags", .list [.text "-s"])] := by cbv
  have hx : onePreparation.Succeeds oneProject
      { file := "A.kt", root := some "/p", flags := ["--info"] } :=
    { file := ⟨.ofText "A.kt", rfl, by cbv⟩
      grammar := rfl
      root := by cbv
      config := (loadSettings_of_files hproject hown []).trans rfl
      executable := by cbv
      task := rfl
      document := by cbv }
  exact ((oneProject.lint_launches _ {} false).1 onePreparation hx).1

end World
end GradleLint
