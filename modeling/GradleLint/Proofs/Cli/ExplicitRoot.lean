import GradleLint.Cli.Lint
import GradleLint.Proofs.Project.Discovery
import GradleLint.Proofs.World.Circles

/-!
# Giving the root that is found anyway

A run finds the root of its file or is given one, and one that is given is resolved first.  So it
makes no difference to give the root that is found if that root is its own resolution: the
settings, the build and all that is printed are the same (`World.lint_with_found_root`).

What is found is the resolution of a directory above the file.  It is its own resolution unless a
link leads in a circle on the way to the file (`World.CircleFree.resolve_root`); then resolving
twice may come to something else than resolving once.
-/

namespace GradleLint
namespace World

variable {w : World} {o : LintOptions} {p file start root : Path} {s : Settings}

/-! ## Roots that are found -/

lemma expandHome_of_isAbsolute (h : p.isAbsolute) : w.expandHome p = .ok p := by
  unfold expandHome
  split
  · rename_i hanchor _
    rw [Path.isAbsolute, hanchor] at h
    cases h
  · rfl

/-- The search for the root of a file starts at the file or in its directory. -/
lemma mem_of_startDirectory (hfile : file.isAbsolute) (h : w.startDirectory file = .ok start) :
    start ∈ file.selfAndAncestors := by
  obtain ⟨p, hp, h⟩ := Except.ok_of_bind h
  rw [expandHome_of_isAbsolute hfile] at hp
  obtain rfl := Except.ok.inj hp
  obtain ⟨isDirectory, -, h⟩ := Except.ok_of_bind h
  obtain rfl := Except.ok.inj h
  rw [Path.mem_selfAndAncestors_iff]
  cases isDirectory with
  | true => exact ⟨rfl, List.prefix_refl _⟩
  | false => exact ⟨rfl, List.dropLast_prefix _⟩

/-- A root that is found is what the file or a directory above it stands for. -/
lemma exists_resolve_of_discoverRoot (hfile : file.isAbsolute)
    (h : w.discoverRoot file = .ok (root, s)) :
    ∃ dir ∈ file.selfAndAncestors, w.resolve dir = .ok root := by
  have hstart : ∃ start, w.startDirectory file = .ok start := by
    obtain ⟨start, hstart, -⟩ := Except.ok_of_bind h
    exact ⟨start, Except.ok_of_mapError hstart⟩
  obtain ⟨start, hstart⟩ := hstart
  obtain ⟨-, -, -, hroot⟩ := (discoverRoot_eq_ok_iff hstart).mp h
  rw [findRoot_eq_firstRoot hstart] at hroot
  obtain ⟨dir, hdir, hresolve⟩ := List.mem_map.mp (mem_of_firstRoot hroot)
  exact ⟨dir, Path.mem_selfAndAncestors_trans (mem_of_startDirectory hfile hstart) hdir, hresolve⟩

/-- Where no link leads in a circle, the root that is found is its own resolution. -/
lemma CircleFree.resolve_root (h : w.CircleFree file) (hfile : w.resolve p = .ok file)
    (hdiscover : w.discoverRoot file = .ok (root, s)) : w.resolve root = .ok root := by
  obtain ⟨hregular, habsolute⟩ := resolve_regular hfile
  obtain ⟨dir, hdir, hroot⟩ := exists_resolve_of_discoverRoot habsolute hdiscover
  have hslash : Place.SlashFree file.parts := fun part hpart => (hregular part hpart).2.2
  have hdirAbsolute : dir.isAbsolute := by
    rwa [Path.isAbsolute, (Path.mem_shortenings hdir).1]
  exact (h.of_mem_selfAndAncestors habsolute hslash hdir).resolve_resolve hdirAbsolute hroot

/-! ## Roots that are given -/

/-- A run is given the root that it would find, and has everything else as before. -/
lemma locateRun_with_root (hexpand : w.expandHome (.ofText o.file) = .ok p)
    (hfile : w.resolve p = .ok file) (hdiscover : w.discoverRoot file = .ok (root, s))
    (hroot : w.resolve (.ofText root.toText) = .ok root) :
    w.locateRun { o with root := some root.toText } = w.locateRun { o with root := none } := by
  have hchoose : w.chooseRoot { o with root := some root.toText } file =
      w.chooseRoot { o with root := none } file := by
    dsimp only [chooseRoot]
    rw [hroot, hdiscover]
    rfl
  unfold locateRun
  dsimp only
  rw [hexpand]
  simp only [Except.mapError, bind, Except.bind, hfile, hchoose]
  rfl

/-- A run that is given the root that it would find, if that is its own resolution, has the same
settings, starts the same build and prints and ends in the same way.  Without circles on the way to
the file the root is its own resolution. -/
theorem lint_with_found_root (hexpand : w.expandHome (.ofText o.file) = .ok p)
    (hfile : w.resolve p = .ok file) (hdiscover : w.discoverRoot file = .ok (root, s)) :
    (w.CircleFree file → w.resolve root = .ok root) ∧
    (w.resolve root = .ok root →
      w.locateRun { o with root := some root.toText } = w.locateRun { o with root := none } ∧
      ∀ (build : BuildScript) (terminal : Bool),
        w.lint { o with root := some root.toText } build terminal =
          w.lint { o with root := none } build terminal) := by
  refine ⟨fun h => h.resolve_root hfile hdiscover, fun hroot => ?_⟩
  have hspelling : .ofText root.toText = root := Path.ofText_toText (resolve_regular hroot).1
  have hlocate := locateRun_with_root hexpand hfile hdiscover (by rwa [hspelling])
  refine ⟨hlocate, fun build terminal => ?_⟩
  unfold lint
  rw [hlocate]
  rfl

/-- A project with a wrapper, and a link to it. -/
def wrappedProject : World :=
  { files := .ofEntries [
      (["p", "gradlew"], .file [] true), (["p", "sub", "A.kt"], .file [] false), (["l"], .link "p")]
    cwd := [], environment := [], cwd_slashFree := Place.slashFree_nil }

/-- A project that is reached through a link is found at the place that the link leads to, and may
be given there. -/
theorem found_root_through_link :
    let o : LintOptions := { file := "/l/sub/A.kt" }
    wrappedProject.locateRun { o with root := some "/p" } =
        .ok (.ofText "/p/sub/A.kt", .kotlin, .ofText "/p", {}) ∧
      wrappedProject.lint { o with root := some "/p" } {} true = wrappedProject.lint o {} true := by
  intro o
  have hfile : wrappedProject.resolve (.ofText "/l/sub/A.kt") = .ok (.ofText "/p/sub/A.kt") := by
    cbv
  have hdiscover : wrappedProject.discoverRoot (.ofText "/p/sub/A.kt") = .ok (.ofText "/p", {}) := by
    cbv
  have hlocate : wrappedProject.locateRun o =
      .ok (.ofText "/p/sub/A.kt", .kotlin, .ofText "/p", {}) := by cbv
  have hresolved : wrappedProject.Resolved (.ofText "/p/sub/A.kt") := by decide
  have hfound := lint_with_found_root (o := o) rfl hfile hdiscover
  have hsame := hfound.2 (hfound.1 hresolved.settled.circleFree)
  exact ⟨hsame.1.trans hlocate, hsame.2 {} true⟩

/-- A link in a circle, links through it, and a project with settings that are invalid. -/
def circularLinks : World :=
  { files := .ofEntries [
      (["loop"], .link "loop"), (["L"], .link "loop////M"), (["M"], .link "missing/../loop///p"),
      (["p", "settings.gradle"], .file [] false),
      (["p", ".buildlint.toml"], .file (Utf8.encode "quiet = 3\n") false),
      (["p", "sub", ".buildlint.toml"], .file (Utf8.encode "quiet = false\n") false)]
    cwd := [], environment := [], cwd_slashFree := Place.slashFree_nil }

/-- Behind a circle the root is found with two slashes in front, and resolving it once more takes
one of them away, so that the complaint about its settings is another. -/
theorem found_root_behind_circle :
    let o : LintOptions := { file := "/L/sub/A.kt", noEmoji := true }
    circularLinks.resolve (.ofText "/L/sub/A.kt") = .ok (.ofText "/M/sub/A.kt") ∧
      circularLinks.discoverRoot (.ofText "/M/sub/A.kt") = .ok (.ofText "//p", { quiet := false }) ∧
      circularLinks.lint o {} false =
        .exit [] 2 "Invalid buildlint configuration under //p\n" ∧
      circularLinks.lint { o with root := some "//p" } {} false =
        .exit [] 2 "Invalid buildlint configuration under /p\n" := by
  intro o
  let issues : List Issue := [⟨[.field "quiet"], .unreadableBool⟩]
  have hfound : circularLinks.locateRun o =
      .error (.settings (.invalid (.ofText "//p") issues)) := by cbv
  have hgiven : circularLinks.locateRun { o with root := some "//p" } =
      .error (.settings (.invalid (.ofText "/p") issues)) := by cbv
  refine ⟨by cbv, by cbv, ?_, ?_⟩
  · rw [lint, hfound]
    rfl
  · rw [lint, hgiven]
    rfl

end World
end GradleLint
