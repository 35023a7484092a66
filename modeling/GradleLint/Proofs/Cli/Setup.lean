import GradleLint.Cli.Lint
import Mathlib.Tactic.Common

/-!
# Setting up a run

Everything before the build is one chain of steps (`World.setUp`), and a run ends by what comes of
it: with the failure of a step, or with the build of the plan (`World.lint_of_setUp`).  The chain
gives a plan exactly when every step of it succeeds (`World.setUp_eq_ok_iff`), and the results of
the steps make up the plan (`Preparation.plan`).
-/

namespace GradleLint

variable {w : World} {o : LintOptions} {build : BuildScript} {terminal : Bool}

/-! ## The chain of steps -/

/-- Finds everything that a run needs. -/
def World.setUp (w : World) (o : LintOptions) : Except SetupError Plan := do
  let (file, grammar, root, settings) ← w.locateRun o
  w.planRun o file grammar root settings

/-- A run ends with the failure of its setup, or with the build of the plan. -/
lemma World.lint_of_setUp (w : World) (o : LintOptions) (build : BuildScript) (terminal : Bool) :
    ∃ p, w.lint o build terminal =
      match w.setUp o with
      | .error e => e.ending p
      | .ok plan => w.lintPlan plan build p := by
  unfold World.lint World.setUp
  dsimp only
  cases hlocate : w.locateRun o with
  | error e => exact ⟨_, rfl⟩
  | ok located =>
    obtain ⟨file, grammar, root, settings⟩ := located
    dsimp only [bind, Except.bind]
    cases hplan : w.planRun o file grammar root settings with
    | error e => exact ⟨_, rfl⟩
    | ok plan => exact ⟨_, rfl⟩

/-! ## The results of the steps -/

/-- The results of the steps of a setup. -/
structure Preparation where
  file : Path
  grammar : Grammar
  root : Path
  /-- The settings of the root. -/
  config : Settings
  executable : Path
  /-- The task that compiles the file. -/
  task : Text
  document : Document

namespace Preparation

variable (x : Preparation)

/-- Every step of the setup succeeds, with these results. -/
structure Succeeds (w : World) (o : LintOptions) : Prop where
  file : ∃ p, w.expandHome (.ofText o.file) = .ok p ∧ w.resolve p = .ok x.file
  grammar : Grammar.require x.file = .ok x.grammar
  root : w.chooseRoot o x.file = .ok x.root
  config : w.loadSettings x.root [] = .ok x.config
  executable : w.buildExecutable x.root x.config = .ok x.executable
  task : compileTask x.file x.config = .ok x.task
  document : w.loadDocument x.file [] = .ok x.document

/-- The command that the results ask for. -/
def command (o : LintOptions) : List Text :=
  [x.executable.toText]
    ++ (if x.config.quiet then ["--quiet".toList] else [])
    ++ (if x.config.plainConsole then ["--console".toList, "plain".toList] else [])
    ++ (if !o.hasErrors && x.config.cleanWhenClean then ["clean".toList] else [])
    ++ [x.task] ++ x.config.extraFlags ++ o.flags

/-- The plan that the results make up. -/
def plan (o : LintOptions) : Plan where
  document := x.document
  grammar := x.grammar
  root := x.root
  settings := { x.config with extraFlags := x.config.extraFlags ++ o.flags }
  command := x.command o

lemma buildCommand_eq (o : LintOptions) :
    buildCommand x.executable.toText
        ((if !o.hasErrors && x.config.cleanWhenClean then ["clean".toList] else []) ++ [x.task])
        { x.config with extraFlags := x.config.extraFlags ++ o.flags } = x.command o := by
  simp only [buildCommand, command, List.append_assoc]

end Preparation

/-- The tasks of a run are the compile task, perhaps behind a clean. -/
lemma selectTasks_eq (file : Path) (hasErrors : Bool) (config : Settings) :
    selectTasks file hasErrors config = (compileTask file config).map fun task =>
      (if !hasErrors && config.cleanWhenClean then ["clean".toList] else []) ++ [task] := by
  unfold selectTasks
  cases compileTask file config with
  | error e => rfl
  | ok task =>
    dsimp only [bind, Except.bind, Except.map]
    split <;> rfl

/-- A setup that succeeds gives the plan that the results of its steps make up. -/
lemma World.exists_preparation {plan : Plan} (h : w.setUp o = .ok plan) :
    ∃ x : Preparation, x.Succeeds w o ∧ plan = x.plan o := by
  obtain ⟨⟨file, grammar, root, settings⟩, hlocate, hplan⟩ := Except.ok_of_bind h
  obtain ⟨expanded, hexpand, hlocate⟩ := Except.ok_of_bind hlocate
  obtain ⟨file', hfile, hlocate⟩ := Except.ok_of_bind hlocate
  obtain ⟨grammar', hgrammar, hlocate⟩ := Except.ok_of_bind hlocate
  obtain ⟨root', hroot, hlocate⟩ := Except.ok_of_bind hlocate
  obtain ⟨settings', hsettings, hlocate⟩ := Except.ok_of_bind hlocate
  cases hlocate
  obtain ⟨config, hconfig, rfl⟩ := Except.ok_of_map hsettings
  obtain ⟨executable, hexecutable, hplan⟩ := Except.ok_of_bind hplan
  obtain ⟨tasks, htasks, hplan⟩ := Except.ok_of_bind hplan
  obtain ⟨document, hdocument, hplan⟩ := Except.ok_of_bind hplan
  have htasks := Except.ok_of_mapError htasks
  rw [selectTasks_eq] at htasks
  obtain ⟨task, htask, rfl⟩ := Except.ok_of_map htasks
  obtain rfl := Except.ok.inj hplan
  let x : Preparation := ⟨file, grammar, root, config, executable, task, document⟩
  have hx : x.Succeeds w o :=
    { file := ⟨expanded, Except.ok_of_mapError hexpand, Except.ok_of_mapError hfile⟩
      grammar := Except.ok_of_mapError hgrammar
      root := hroot
      config := Except.ok_of_mapError hconfig
      executable := Except.ok_of_mapError hexecutable
      task := htask
      document := Except.ok_of_mapError hdocument }
  refine ⟨x, hx, ?_⟩
  rw [x.buildCommand_eq o]
  rfl

/-- If every step succeeds, so does the setup. -/
lemma World.setUp_of_succeeds {x : Preparation} (h : x.Succeeds w o) :
    w.setUp o = .ok (x.plan o) := by
  obtain ⟨expanded, hexpand, hfile⟩ := h.file
  have hexecutable : w.buildExecutable x.root
      { x.config with extraFlags := x.config.extraFlags ++ o.flags } = .ok x.executable :=
    h.executable
  have htask : compileTask x.file
      { x.config with extraFlags := x.config.extraFlags ++ o.flags } = .ok x.task := h.task
  simp only [setUp, locateRun, planRun, chooseSettings, hexpand, hfile, h.grammar, h.root, h.config,
    hexecutable, selectTasks_eq, htask, h.document, bind, Except.bind, Except.mapError, Except.map,
    pure, Except.pure, x.buildCommand_eq o]
  rfl

/-- The setup succeeds exactly when every step does. -/
lemma World.setUp_eq_ok_iff {plan : Plan} :
    w.setUp o = .ok plan ↔ ∃ x : Preparation, x.Succeeds w o ∧ plan = x.plan o := by
  refine ⟨exists_preparation, ?_⟩
  rintro ⟨x, hx, rfl⟩
  exact setUp_of_succeeds hx

end GradleLint
