import GradleLint.Project.Tasks
import Mathlib.Data.List.Infix

/-!
# Source sets and the place of a project

A file lies in a test source set if two neighbouring parts of its path are `src` and the name of
such a set (`Path.isTestSource_iff`).  All parts of the path count, also those of the directories
above the project, so the tasks for a file may depend on where the project is.

They do in one case only (`selectTasks_under`): no task is named in the settings, the path within
the project lies in no test source set, and `src` and the name of a test source set stand next to
each other in the path of the project, or where the two paths are joined.
-/

namespace GradleLint

/-! ## Test source sets -/

/-- Somewhere among the parts `src` and the name of a test source set stand next to each other. -/
def NamesTestSet (parts : List Text) : Prop :=
  ∃ set ∈ testSourceSets, ["src".toList, set] <:+: parts

lemma not_pair_infix_singleton {α : Type} {x y a : α} : ¬ [x, y] <:+: [a] :=
  fun h => by simpa using h.length_le

lemma pair_infix_cons_cons {α : Type} {x y a b : α} {l : List α} :
    [x, y] <:+: a :: b :: l ↔ (a = x ∧ b = y) ∨ [x, y] <:+: b :: l := by
  rw [List.infix_cons_iff, List.cons_prefix_cons, List.cons_prefix_cons]
  simp [eq_comm]

/-- Two neighbours in a joined list stand in its second part, or in the first with the head of the
second. -/
lemma pair_infix_append {α : Type} {x y : α} {front l : List α} :
    [x, y] <:+: front ++ l ↔ [x, y] <:+: front ++ l.take 1 ∨ [x, y] <:+: l := by
  induction front with
  | nil =>
    rw [List.nil_append, List.nil_append]
    exact ⟨.inr, fun h => h.elim (·.trans (List.take_prefix 1 l).isInfix) id⟩
  | cons a front ih =>
    cases front with
    | nil =>
      cases l with
      | nil => simp
      | cons b l =>
        simp [pair_infix_cons_cons, not_pair_infix_singleton]
    | cons b front =>
      simp only [List.cons_append] at ih ⊢
      rw [pair_infix_cons_cons, ih, pair_infix_cons_cons, or_assoc]

lemma NamesTestSet.append_iff {front parts : List Text} :
    NamesTestSet (front ++ parts) ↔ NamesTestSet (front ++ parts.take 1) ∨ NamesTestSet parts := by
  unfold NamesTestSet
  rw [← exists_or]
  refine exists_congr fun set => ?_
  rw [pair_infix_append, and_or_left]

lemma hasTestSourceSet_iff (parts : List Text) :
    hasTestSourceSet parts = true ↔ NamesTestSet parts := by
  unfold NamesTestSet
  induction parts with
  | nil => simp [hasTestSourceSet]
  | cons a parts ih =>
    cases parts with
    | nil =>
      simp [hasTestSourceSet, not_pair_infix_singleton]
    | cons b parts =>
      simp only [hasTestSourceSet, Bool.or_eq_true, ih, pair_infix_cons_cons, and_or_left,
        exists_or]
      refine or_congr_left ?_
      simp [and_comm]

lemma Path.isTestSource_iff (p : Path) : p.isTestSource = true ↔ NamesTestSet p.parts :=
  hasTestSourceSet_iff p.parts

/-! ## The task for a file -/

variable {root p : Path} {g : Grammar} {s : Settings}

/-- The settings name a task, and not an empty one. -/
def Settings.NamesTask (s : Settings) (g : Grammar) : Prop := ∃ c t, s.taskFor g = some (c :: t)

lemma compileTask_of_namesTask (hg : Grammar.require p = .ok g) (h : s.NamesTask g) :
    ∃ task, s.taskFor g = some task ∧ compileTask p s = .ok task := by
  obtain ⟨c, t, htask⟩ := h
  refine ⟨c :: t, htask, ?_⟩
  unfold compileTask
  rw [hg]
  dsimp only [bind, Except.bind]
  rw [htask]
  rfl

lemma compileTask_of_not_namesTask (hg : Grammar.require p = .ok g) (h : ¬ s.NamesTask g) :
    compileTask p s = .ok (g.task p.isTestSource) := by
  unfold compileTask
  rw [hg]
  dsimp only [bind, Except.bind]
  split
  · rename_i c t htask
    exact absurd ⟨c, t, htask⟩ h
  · rfl

/-- Tasks are the same exactly when the compile tasks are. -/
lemma selectTasks_eq_iff {q : Path} {task task' : Text} (h : compileTask p s = .ok task)
    (h' : compileTask q s = .ok task') (hasErrors : Bool) :
    selectTasks p hasErrors s = selectTasks q hasErrors s ↔ task = task' := by
  unfold selectTasks
  rw [h, h']
  dsimp only [bind, Except.bind, pure, Except.pure]
  split <;> simp

/-- Main and test sources have different tasks. -/
lemma Grammar.task_eq_iff (g : Grammar) {test test' : Bool} :
    g.task test = g.task test' ↔ test = test' := by
  cases g <;> cases test <;> cases test' <;> decide

lemma Path.div_parts (hp : p.anchor = .relative) : (root / p).parts = root.parts ++ p.parts := by
  show (root.resolveAgainst p).parts = _
  simp [resolveAgainst, isAbsolute, hp]

/-- A file has the same name wherever it lies. -/
lemma Path.name_div (hp : p.anchor = .relative) (hparts : p.parts ≠ []) :
    (root / p).name = p.name := by
  rw [name, name, div_parts hp, List.getLast?_append_of_ne_nil _ hparts]

lemma Grammar.require_div (hp : p.anchor = .relative) (hg : Grammar.require p = .ok g) :
    Grammar.require (root / p) = .ok g := by
  have hparts : p.parts ≠ [] := by
    rintro hnil
    obtain ⟨a, parts⟩ := p
    obtain rfl : parts = [] := hnil
    cases hg
  have hsuffix : (root / p).suffix = p.suffix := by
    unfold Path.suffix
    rw [Path.name_div hp hparts]
  rw [← hg]
  unfold require ofPath?
  rw [hsuffix, Path.name_div hp hparts]

/-! ## The result -/

/-- The tasks for a file do not depend on where its project is, except when the settings name no
task for it, the path within the project lies in no test source set, and the path of the project,
with the first part of that path behind it, names one. -/
theorem selectTasks_under (hp : p.anchor = .relative) (hg : Grammar.require p = .ok g)
    (root : Path) (hasErrors : Bool) (s : Settings) :
    selectTasks (root / p) hasErrors s = selectTasks p hasErrors s ↔
      s.NamesTask g ∨ NamesTestSet p.parts ∨ ¬ NamesTestSet (root.parts ++ p.parts.take 1) := by
  have hunder : Grammar.require (root / p) = .ok g := Grammar.require_div hp hg
  by_cases hnames : s.NamesTask g
  · obtain ⟨task, htask, hcompile⟩ := compileTask_of_namesTask hg hnames
    obtain ⟨task', htask', hcompile'⟩ := compileTask_of_namesTask hunder hnames
    rw [selectTasks_eq_iff hcompile' hcompile]
    exact iff_of_true (Option.some.inj (htask'.symm.trans htask)) (.inl hnames)
  · rw [selectTasks_eq_iff (compileTask_of_not_namesTask hunder hnames)
      (compileTask_of_not_namesTask hg hnames), g.task_eq_iff, Bool.eq_iff_iff,
      Path.isTestSource_iff, Path.isTestSource_iff, Path.div_parts hp, NamesTestSet.append_iff]
    simp only [hnames, false_or]
    tauto

/-- A directory `src` above the project, and one called `test` beside it, make no test source. -/
theorem tasks_below_src :
    Grammar.require (.ofText "tests/A.kt") = .ok .kotlin ∧
      selectTasks (.ofText "/test/src" / .ofText "tests/A.kt") true {} =
        selectTasks (.ofText "tests/A.kt") true {} := by
  refine ⟨rfl, (selectTasks_under rfl rfl (.ofText "/test/src") true {}).mpr (.inr (.inr ?_))⟩
  rw [← hasTestSourceSet_iff]
  decide

/-- A main source is compiled as a test when its project lies below `src/test`, and a file in a
directory `test` when its project is a directory `src`. -/
theorem tasks_depend_on_place :
    selectTasks (.ofText "A.kt") true {} = .ok ["compileKotlin"] ∧
      selectTasks (.ofText "/home/src/test/project" / .ofText "A.kt") true {} =
        .ok ["compileTestKotlin"] ∧
      selectTasks (.ofText "test/A.kt") true {} = .ok ["compileKotlin"] ∧
      selectTasks (.ofText "/home/src" / .ofText "test/A.kt") true {} =
        .ok ["compileTestKotlin"] :=
  ⟨rfl, rfl, rfl, rfl⟩

end GradleLint
