import GradleLint.Project.Root
import GradleLint.Proofs.Data.FirstHit
import GradleLint.Proofs.World.Resolved
import Mathlib

/-!
# Which directories are searched for a root

The search for a project root goes up along the path as it is written.  It looks at the directories
that the shortenings of the path stand for (`World.climb`), and these need not lie above one
another: a relative path ends at the working directory, a name before `..` is gone back to, and a
link is left by the directory that holds it.

The root is one of these directories, and it depends on nothing else in the spelling of the path
(`World.findRoot_of_climb`).  So a path has the root of the directory that it stands for whenever
its shortenings stand for what is above that directory.
-/

namespace GradleLint

namespace World

variable {w : World} {file start : Path}

/-! ## Going up -/

/-- What the path and all that is above it stand for, in this order. -/
def climb (w : World) (start : Path) : List (Except PathError Path) :=
  start.selfAndAncestors.map w.resolve

/-- The directory itself if it has one of the markers. -/
def rootAt (w : World) (markers : List Text) (dir : Path) : Except PathError (Option Path) := do
  return if ← w.hasMarker dir markers then some dir else none

/-- Looks for one of the markers in a directory, if it is one that can be told. -/
def rootIn (w : World) (markers : List Text) (dir : Except PathError Path) :
    Except PathError (Option Path) :=
  dir >>= w.rootAt markers

lemma nearestWith_eq (w : World) (start : Path) (markers : List Text) :
    w.nearestWith start markers = (w.climb start).findSomeM? (w.rootIn markers) := by
  unfold nearestWith climb
  induction start.selfAndAncestors with
  | nil => rfl
  | cons p ps ih =>
    rw [searchUp, List.map_cons, List.findSomeM?, ← ih]
    cases w.resolve p with
    | error e => rfl
    | ok dir => rfl

/-- The first of the directories with a root marker, or else the first with a fallback marker. -/
def firstRoot (w : World) (s : Settings) (dirs : List (Except PathError Path)) :
    Except PathError (Option Path) := do
  match ← dirs.findSomeM? (w.rootIn s.rootMarkers) with
  | some root => return some root
  | none => dirs.findSomeM? (w.rootIn s.fallbackMarkers)

/-- A search depends only on the directories that it climbs. -/
lemma findRoot_eq_firstRoot (hstart : w.startDirectory file = .ok start) (s : Settings) :
    w.findRoot file s = w.firstRoot s (w.climb start) := by
  unfold findRoot firstRoot
  rw [hstart, ← nearestWith_eq, ← nearestWith_eq]
  rfl

lemma firstRoot_eraseDups (w : World) (s : Settings) (dirs : List (Except PathError Path)) :
    w.firstRoot s dirs.eraseDups = w.firstRoot s dirs := by
  unfold firstRoot
  rw [findSomeM?_eraseDups, findSomeM?_eraseDups]

lemma eq_of_rootAt {markers : List Text} {dir root : Path}
    (h : w.rootAt markers dir = .ok (some root)) : dir = root := by
  obtain ⟨marked, -, h⟩ := Except.ok_of_bind h
  cases marked <;> cases h
  rfl

lemma eq_of_rootIn {markers : List Text} {dir : Except PathError Path} {root : Path}
    (h : w.rootIn markers dir = .ok (some root)) : dir = .ok root := by
  obtain ⟨dir, rfl, h⟩ := Except.ok_of_bind h
  rw [eq_of_rootAt h]

lemma mem_of_firstRoot {s : Settings} {dirs : List (Except PathError Path)} {root : Path}
    (h : w.firstRoot s dirs = .ok (some root)) : .ok root ∈ dirs := by
  obtain ⟨found, hfound, h⟩ := Except.ok_of_bind h
  cases found with
  | some root' =>
    cases h
    obtain ⟨dir, hdir, htest⟩ := mem_of_findSomeM? hfound
    rwa [← eq_of_rootIn htest]
  | none =>
    obtain ⟨dir, hdir, htest⟩ := mem_of_findSomeM? h
    rwa [← eq_of_rootIn htest]

/-! ## Resolved directories -/

/-- Going up from a settled path leads through what is above it. -/
lemma Settled.climb_eq {dir : Path} (h : w.Settled dir) :
    w.climb dir = dir.selfAndAncestors.map .ok :=
  List.map_congr_left fun _ hq => (h.of_mem_selfAndAncestors hq).resolve_eq

lemma Resolved.climb_eq {dir : Path} (h : w.Resolved dir) :
    w.climb dir = dir.selfAndAncestors.map .ok :=
  h.settled.climb_eq

/-- The search for the root of a resolved directory starts there. -/
lemma Resolved.startDirectory_eq {dir : Path} (h : w.Resolved dir)
    (hdir : w.isDirectory dir.toText = .ok true) : w.startDirectory dir = .ok dir := by
  have hexpand : w.expandHome dir = .ok dir := by
    unfold expandHome
    rw [h.anchor]
  rw [startDirectory, hexpand]
  show (do return if ← w.isDirectory dir.toText then dir else dir.parent :
    Except PathError Path) = _
  rw [hdir]
  rfl

/-- The directories that are climbed start with what the path stands for. -/
lemma resolve_of_climb {dir : Path}
    (h : (w.climb start).eraseDups = dir.selfAndAncestors.map .ok) : w.resolve start = .ok dir := by
  obtain ⟨above, habove⟩ := start.selfAndAncestors_eq_cons
  obtain ⟨rest, hrest⟩ := dir.selfAndAncestors_eq_cons
  rw [climb, habove, hrest, List.map_cons, List.eraseDups_cons, List.map_cons] at h
  exact (List.cons.inj h).1

/-! ## The result -/

/-- The root found from a path is one of the directories that the search climbs, and any other path
from which it climbs the same ones, apart from repetitions, has the same root.  If they are what is
above a resolved directory, then the path stands for that directory and has its root, which is
above it. -/
theorem findRoot_of_climb (hstart : w.startDirectory file = .ok start) (s : Settings) :
    (∀ root, w.findRoot file s = .ok (some root) → .ok root ∈ w.climb start) ∧
    (∀ {file' start' : Path}, w.startDirectory file' = .ok start' →
      (w.climb start').eraseDups = (w.climb start).eraseDups →
      w.findRoot file' s = w.findRoot file s) ∧
    ∀ {dir : Path}, w.Resolved dir → w.isDirectory dir.toText = .ok true →
      (w.climb start).eraseDups = dir.selfAndAncestors.map .ok →
      w.resolve start = .ok dir ∧ w.findRoot file s = w.findRoot dir s ∧
        ∀ root, w.findRoot file s = .ok (some root) → root ∈ dir.selfAndAncestors := by
  rw [findRoot_eq_firstRoot hstart]
  refine ⟨fun root => mem_of_firstRoot, fun hstart' heq => ?_, fun {dir} hdir hexists heq => ?_⟩
  · rw [findRoot_eq_firstRoot hstart', ← firstRoot_eraseDups, heq, firstRoot_eraseDups]
  · have hsame : w.firstRoot s (dir.selfAndAncestors.map .ok) = w.firstRoot s (w.climb start) := by
      rw [← heq, firstRoot_eraseDups]
    refine ⟨resolve_of_climb heq, ?_, fun root hroot => ?_⟩
    · rw [findRoot_eq_firstRoot (hdir.startDirectory_eq hexists), hdir.climb_eq, hsame]
    · obtain ⟨dir', hmem, hroot⟩ := List.mem_map.mp (mem_of_firstRoot (hsame.trans hroot))
      rwa [← Except.ok.inj hroot]

/-- A project with a link to a directory in it, and a directory beside another project. -/
def linkedProject : World :=
  { files := .ofEntries [
      (["p", "settings.gradle"], .file [] false), (["p", "sub", "A.kt"], .file [] false),
      (["l"], .link "p"), (["m"], .link "/p/sub"),
      (["b", "settings.gradle"], .file [] false), (["c", "A.kt"], .file [] false)]
    cwd := ["p", "sub"], environment := [] }

/-- Through a link and back over a name: what is climbed is above the directory, some of it
twice. -/
theorem root_through_link :
    linkedProject.findRoot (.ofText "/l/sub/../sub/A.kt") {} =
      linkedProject.findRoot (.ofText "/p/sub") {} := by
  let start : Path := ⟨.root, ["l", "sub", "..", "sub"]⟩
  have hstart : linkedProject.startDirectory (.ofText "/l/sub/../sub/A.kt") = .ok start := by cbv
  have hclimb : (linkedProject.climb start).eraseDups =
      (Path.ofText "/p/sub").selfAndAncestors.map .ok := by cbv
  have hdir : linkedProject.isDirectory (Path.ofText "/p/sub").toText = .ok true := by cbv
  have hresolved : linkedProject.Resolved (.ofText "/p/sub") := by
    refine ⟨rfl, by decide, fun above habove target => ?_⟩
    have hcases : above ∈ ([[], ["p".toList], ["p".toList, "sub".toList]] : List Place) :=
      (List.mem_inits _ _).mpr habove
    intro hlink
    fin_cases hcases <;> cases hlink
  exact ((findRoot_of_climb hstart {}).2.2 hresolved hdir hclimb).2.1

/-- A relative path does not reach the project above the working directory, a path with `..` has
the root of a project that it goes back over, and a link out of a project loses its root. -/
theorem root_depends_on_spelling :
    (linkedProject.startDirectory (.ofText "A.kt") = .ok (.ofText ".") ∧
      linkedProject.resolve (.ofText ".") = .ok (.ofText "/p/sub") ∧
      linkedProject.isDirectory "/p/sub" = .ok true ∧
      linkedProject.findRoot (.ofText "A.kt") {} = .ok none ∧
      linkedProject.findRoot (.ofText "/p/sub") {} = .ok (some (.ofText "/p"))) ∧
    (linkedProject.startDirectory (.ofText "/b/../c/A.kt") = .ok (.ofText "/b/../c") ∧
      linkedProject.resolve (.ofText "/b/../c") = .ok (.ofText "/c") ∧
      linkedProject.isDirectory "/c" = .ok true ∧
      linkedProject.findRoot (.ofText "/b/../c/A.kt") {} = .ok (some (.ofText "/b")) ∧
      linkedProject.findRoot (.ofText "/c") {} = .ok none) ∧
    (linkedProject.startDirectory (.ofText "/m/A.kt") = .ok (.ofText "/m") ∧
      linkedProject.resolve (.ofText "/m") = .ok (.ofText "/p/sub") ∧
      linkedProject.findRoot (.ofText "/m/A.kt") {} = .ok none) := by
  refine ⟨⟨?_, ?_, ?_, ?_, ?_⟩, ⟨?_, ?_, ?_, ?_, ?_⟩, ?_, ?_, ?_⟩
  all_goals cbv

end World
end GradleLint
