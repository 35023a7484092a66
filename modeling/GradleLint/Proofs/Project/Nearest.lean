import GradleLint.Proofs.Project.Climb
import GradleLint.Proofs.World.Lookup

/-!
# The nearest directory

The directories above a settled path lie above one another, so of those with a property one is the
deepest (`Path.Deepest`), and going up meets it first (`Path.deepest_iff`).

For the search for a root the property is to have a marker (`World.Marked`).  Whatever markers the
settings have, root markers go before fallback markers, however near these are
(`World.findRoot_nearest`).  What stands against it is only a marker that the operating system
refuses to look up (`World.RootSearchFails`): it ends the search, when no marker has been found
before, and the error of that look-up is the failure.
-/

namespace GradleLint

/-! ## What lies above what -/

namespace Path

variable {P : Path → Prop} {start dir other : Path}

lemma pairwise_shortenings (a : Anchor) (parts : List Text) :
    (shortenings a parts).Pairwise fun q r => r.parts <+: q.parts ∧ r.parts ≠ q.parts := by
  induction parts with
  | nil => exact List.pairwise_singleton _ _
  | cons part rest ih =>
    rw [shortenings, List.pairwise_append, List.pairwise_map]
    refine ⟨?_, List.pairwise_singleton _ _, ?_⟩
    · refine ih.imp fun h => ⟨List.cons_prefix_cons.mpr ⟨rfl, h.1⟩, fun heq => h.2 ?_⟩
      exact (List.cons.inj heq).2
    · rintro q hq r hr
      obtain ⟨q, -, rfl⟩ := List.mem_map.mp hq
      obtain rfl := List.mem_singleton.mp hr
      exact ⟨List.nil_prefix, (List.cons_ne_nil part q.parts).symm⟩

/-- Of two in the list of what is above a path, the later lies above the earlier. -/
lemma pairwise_selfAndAncestors (p : Path) :
    p.selfAndAncestors.Pairwise fun q r => r ∈ q.selfAndAncestors ∧ q ∉ r.selfAndAncestors := by
  refine (pairwise_shortenings p.anchor p.parts).imp_of_mem fun hq hr h => ?_
  have hanchor := (mem_shortenings hr).1.trans (mem_shortenings hq).1.symm
  refine ⟨mem_selfAndAncestors_iff.mpr ⟨hanchor, h.1⟩, fun hmem => h.2 ?_⟩
  exact h.1.eq_of_length_le (mem_selfAndAncestors_iff.mp hmem).2.length_le

/-- `dir` is the deepest with a property among `start` and what is above it: all others with the
property lie above `dir`. -/
structure Deepest (P : Path → Prop) (start dir : Path) : Prop where
  mem : dir ∈ start.selfAndAncestors
  holds : P dir
  above : ∀ other ∈ start.selfAndAncestors, P other → other ∈ dir.selfAndAncestors

lemma Deepest.unique (h : Deepest P start dir) (h' : Deepest P start other) : dir = other :=
  mem_selfAndAncestors_antisymm (h'.above dir h.mem h.holds) (h.above other h'.mem h'.holds)

/-- What comes before an entry in the list of what is above a path does not lie above that entry,
and what comes behind it does. -/
lemma above_of_split {below rest : List Path} (h : start.selfAndAncestors = below ++ dir :: rest) :
    (∀ q ∈ below, dir ∈ q.selfAndAncestors ∧ q ∉ dir.selfAndAncestors) ∧
      ∀ q ∈ rest, q ∈ dir.selfAndAncestors ∧ dir ∉ q.selfAndAncestors := by
  have hpairs := start.pairwise_selfAndAncestors
  rw [h, List.pairwise_append, List.pairwise_cons] at hpairs
  obtain ⟨-, ⟨hrest, -⟩, hbelow⟩ := hpairs
  exact ⟨fun q hq => hbelow q hq dir List.mem_cons_self, hrest⟩

/-- The deepest directory with a property is the first with it on the way up. -/
lemma deepest_iff : Deepest P start dir ↔ P dir ∧ ∃ below rest,
    start.selfAndAncestors = below ++ dir :: rest ∧ ∀ q ∈ below, ¬ P q := by
  constructor
  · intro h
    obtain ⟨below, rest, hsplit⟩ := List.append_of_mem h.mem
    refine ⟨h.holds, below, rest, hsplit, fun q hq hP => ?_⟩
    have hmem : q ∈ start.selfAndAncestors := hsplit ▸ List.mem_append_left _ hq
    exact ((above_of_split hsplit).1 q hq).2 (h.above q hmem hP)
  · rintro ⟨hP, below, rest, hsplit, hbelow⟩
    refine ⟨hsplit ▸ List.mem_append_right below List.mem_cons_self, hP, fun q hq hPq => ?_⟩
    rw [hsplit, List.mem_append, List.mem_cons] at hq
    obtain hq | rfl | hq := hq
    · exact absurd hPq (hbelow q hq)
    · exact mem_selfAndAncestors_self q
    · exact ((above_of_split hsplit).2 q hq).1

/-- A search that goes up ends at the deepest directory that does not answer with nothing. -/
lemma findSomeM?_selfAndAncestors {ε α : Type} {test : Path → Except ε (Option α)}
    {r : Except ε (Option α)} (hr : r ≠ .ok none) :
    start.selfAndAncestors.findSomeM? test = r ↔
      ∃ dir, Deepest (test · ≠ .ok none) start dir ∧ test dir = r := by
  rw [findSomeM?_eq_iff hr]
  constructor
  · rintro ⟨below, dir, rest, hsplit, hbelow, hdir⟩
    refine ⟨dir, deepest_iff.mpr ⟨hdir.trans_ne hr, below, rest, hsplit, fun q hq => ?_⟩, hdir⟩
    exact not_not.mpr (hbelow q hq)
  · rintro ⟨dir, hdeepest, hdir⟩
    obtain ⟨-, below, rest, hsplit, hbelow⟩ := deepest_iff.mp hdeepest
    exact ⟨below, dir, rest, hsplit, fun q hq => not_not.mp (hbelow q hq), hdir⟩

end Path

namespace World

variable {w : World} {file start dir root : Path} {markers : List Text} {s : Settings}

/-! ## Markers in a directory -/

/-- Something is at the marker, taken from the directory, links followed. -/
def Has (w : World) (dir : Path) (marker : Text) : Prop :=
  ∃ entry, w.entry? (dir / .ofText marker).toText = .ok entry

/-- The marker can be looked up in the directory, and nothing is there. -/
def Lacks (w : World) (dir : Path) (marker : Text) : Prop :=
  (∀ e, ¬ w.Refuses (dir / .ofText marker).toText e) ∧ ¬ w.Has dir marker

/-- The directory has one of the markers. -/
def Marked (w : World) (markers : List Text) (dir : Path) : Prop := ∃ m ∈ markers, w.Has dir m

/-- The directory has none of the markers, and all of them can be looked up. -/
def Bare (w : World) (markers : List Text) (dir : Path) : Prop := ∀ m ∈ markers, w.Lacks dir m

/-- The operating system refuses to look a marker up in the directory, with an error, and the
markers before it are not there. -/
def MarkersFail (w : World) (markers : List Text) (dir : Path) (e : PathError) : Prop :=
  ∃ before m after, markers = before ++ m :: after ∧ (∀ b ∈ before, w.Lacks dir b) ∧
    ∃ cause, w.Refuses (dir / .ofText m).toText cause ∧ e = .ofLocate (dir / .ofText m).toText cause

lemma Bare.not_marked (h : w.Bare markers dir) : ¬ w.Marked markers dir :=
  fun ⟨m, hm, hhas⟩ => (h m hm).2 hhas

/-- The directory itself if it has a marker. -/
def rootBy (w : World) (dir : Path) (marker : Text) : Except PathError (Option Path) := do
  return if ← w.occupied (dir / .ofText marker).toText then some dir else none

/-- Markers are looked for one after the other. -/
lemma rootAt_eq (w : World) (markers : List Text) (dir : Path) :
    w.rootAt markers dir = markers.findSomeM? (w.rootBy dir) := by
  induction markers with
  | nil => rfl
  | cons m markers ih =>
    rw [List.findSomeM?, ← ih]
    unfold rootAt rootBy
    rw [hasMarker]
    cases w.occupied (dir / .ofText m).toText with
    | error e => rfl
    | ok there => cases there <;> rfl

lemma rootBy_eq_none_iff {m : Text} : w.rootBy dir m = .ok none ↔ w.Lacks dir m := by
  have hlooked := w.looked (dir / .ofText m).toText
  unfold rootBy occupied Lacks Has
  generalize w.find (dir / .ofText m).toText = found at hlooked
  cases hlooked with
  | refused h => exact iff_of_false nofun fun hlacks => hlacks.1 _ h
  | there h => exact iff_of_false nofun fun hlacks => hlacks.2 ⟨_, h⟩
  | nowhere hrefused hnothing => exact iff_of_true rfl ⟨hrefused, not_exists.mpr hnothing⟩

lemma rootBy_eq_error_iff {m : Text} {e : PathError} : w.rootBy dir m = .error e ↔
    ∃ cause, w.Refuses (dir / .ofText m).toText cause ∧
      e = .ofLocate (dir / .ofText m).toText cause := by
  have hlooked := w.looked (dir / .ofText m).toText
  unfold rootBy occupied
  generalize w.find (dir / .ofText m).toText = found at hlooked
  cases hlooked with
  | refused h =>
    refine ⟨fun heq => ⟨_, h, (Except.error.inj heq).symm⟩, ?_⟩
    rintro ⟨cause, h', rfl⟩
    rw [h.unique h']
    rfl
  | there h =>
    refine iff_of_false nofun ?_
    rintro ⟨cause, h', -⟩
    cases h.symm.trans h'.1
  | nowhere hrefused _ =>
    refine iff_of_false nofun ?_
    rintro ⟨cause, h', -⟩
    exact hrefused cause h'

lemma has_of_rootBy {m : Text} (h : w.rootBy dir m = .ok (some root)) : w.Has dir m := by
  have hlooked := w.looked (dir / .ofText m).toText
  unfold rootBy occupied at h
  generalize w.find (dir / .ofText m).toText = found at hlooked h
  cases hlooked with
  | refused _ => cases h
  | there hentry => exact ⟨_, hentry⟩
  | nowhere _ _ => cases h

lemma rootAt_eq_none_iff : w.rootAt markers dir = .ok none ↔ w.Bare markers dir := by
  rw [rootAt_eq, findSomeM?_eq_ok_none_iff]
  exact forall₂_congr fun m _ => rootBy_eq_none_iff

lemma rootAt_eq_error_iff {e : PathError} :
    w.rootAt markers dir = .error e ↔ w.MarkersFail markers dir e := by
  rw [rootAt_eq, findSomeM?_eq_iff (by simp)]
  simp only [rootBy_eq_none_iff, rootBy_eq_error_iff]
  rfl

lemma marked_of_rootAt (h : w.rootAt markers dir = .ok (some root)) : w.Marked markers dir := by
  rw [rootAt_eq] at h
  obtain ⟨m, hm, hroot⟩ := mem_of_findSomeM? h
  exact ⟨m, hm, has_of_rootBy hroot⟩

/-! ## One search -/

/-- A marker cannot be looked up in the deepest directory that is not bare of markers. -/
def SearchFails (w : World) (start : Path) (markers : List Text) (e : PathError) : Prop :=
  ∃ dir, Path.Deepest (¬ w.Bare markers ·) start dir ∧ w.MarkersFail markers dir e

/-- Neither a directory nor any above it has one of the markers. -/
def NoneMarked (w : World) (start : Path) (markers : List Text) : Prop :=
  ∀ dir ∈ start.selfAndAncestors, ¬ w.Marked markers dir

/-- Going up from a settled path leads through what is above it. -/
lemma Settled.searchUp_eq {ε α : Type} (h : w.Settled start) (raise : PathError → ε)
    (test : Path → Except ε (Option α)) :
    w.searchUp raise test start.selfAndAncestors = start.selfAndAncestors.findSomeM? test := by
  have hall : ∀ dir ∈ start.selfAndAncestors, w.resolve dir = .ok dir :=
    fun dir hdir => (h.of_mem_selfAndAncestors hdir).resolve_eq
  generalize start.selfAndAncestors = dirs at hall ⊢
  induction dirs with
  | nil => rfl
  | cons dir dirs ih =>
    obtain ⟨hdir, hdirs⟩ := List.forall_mem_cons.mp hall
    rw [searchUp, hdir, List.findSomeM?, ← ih hdirs]
    rfl

lemma Settled.nearestWith_eq (h : w.Settled start) (markers : List Text) :
    w.nearestWith start markers = start.selfAndAncestors.findSomeM? (w.rootAt markers) :=
  h.searchUp_eq id _

/-- What a search from a settled directory comes to. -/
inductive Sought (w : World) (start : Path) (markers : List Text) :
    Except PathError (Option Path) → Prop
  | fails {e : PathError} (h : w.SearchFails start markers e) : Sought w start markers (.error e)
  | found {dir : Path} (h : Path.Deepest (w.Marked markers) start dir)
      (hfails : ∀ e, ¬ w.SearchFails start markers e) : Sought w start markers (.ok (some dir))
  | nothing (h : ∀ dir ∈ start.selfAndAncestors, w.Bare markers dir) :
      Sought w start markers (.ok none)

lemma Settled.sought (h : w.Settled start) (markers : List Text) :
    w.Sought start markers (w.nearestWith start markers) := by
  rw [h.nearestWith_eq]
  have hdeepest : ∀ {dir}, Path.Deepest (w.rootAt markers · ≠ .ok none) start dir →
      Path.Deepest (¬ w.Bare markers ·) start dir := fun hdir =>
    ⟨hdir.mem, mt rootAt_eq_none_iff.mpr hdir.holds,
      fun other hother hbare => hdir.above other hother (mt rootAt_eq_none_iff.mp hbare)⟩
  cases hsearch : start.selfAndAncestors.findSomeM? (w.rootAt markers) with
  | error e =>
    obtain ⟨dir, hdir, he⟩ := (Path.findSomeM?_selfAndAncestors (by simp)).mp hsearch
    exact .fails ⟨dir, hdeepest hdir, rootAt_eq_error_iff.mp he⟩
  | ok found =>
    cases found with
    | none =>
      exact .nothing fun dir hdir =>
        rootAt_eq_none_iff.mp (findSomeM?_eq_ok_none_iff.mp hsearch dir hdir)
    | some found =>
      obtain ⟨dir, hdir, hfound⟩ := (Path.findSomeM?_selfAndAncestors (by simp)).mp hsearch
      obtain rfl : dir = found := eq_of_rootAt hfound
      have hdir := hdeepest hdir
      refine .found ⟨hdir.mem, marked_of_rootAt hfound, fun other hother h => ?_⟩ fun e => ?_
      · exact hdir.above other hother fun hbare => hbare.not_marked h
      · rintro ⟨other, hother, h⟩
        obtain rfl := hdir.unique hother
        cases hfound.symm.trans (rootAt_eq_error_iff.mpr h)

/-! ## The result -/

/-- The search for root markers fails, or it finds all directories bare of them and the one for
fallback markers fails. -/
def RootSearchFails (w : World) (start : Path) (s : Settings) (e : PathError) : Prop :=
  w.SearchFails start s.rootMarkers e ∨
    ((∀ dir ∈ start.selfAndAncestors, w.Bare s.rootMarkers dir) ∧
      w.SearchFails start s.fallbackMarkers e)

lemma SearchFails.unique {e e' : PathError} (h : w.SearchFails start markers e)
    (h' : w.SearchFails start markers e') : e = e' := by
  obtain ⟨dir, hdir, h⟩ := h
  obtain ⟨dir', hdir', h'⟩ := h'
  obtain rfl := hdir.unique hdir'
  exact Except.error.inj ((rootAt_eq_error_iff.mpr h).symm.trans (rootAt_eq_error_iff.mpr h'))

lemma SearchFails.not_bare {e : PathError} (h : w.SearchFails start markers e) :
    ¬ ∀ dir ∈ start.selfAndAncestors, w.Bare markers dir := by
  obtain ⟨dir, hdir, -⟩ := h
  exact fun hbare => hdir.holds (hbare dir hdir.mem)

lemma RootSearchFails.unique {e e' : PathError} (h : w.RootSearchFails start s e)
    (h' : w.RootSearchFails start s e') : e = e' := by
  obtain h | ⟨hbare, h⟩ := h
  · obtain h' | ⟨hbare, -⟩ := h'
    · exact h.unique h'
    · exact absurd hbare h.not_bare
  · obtain h' | ⟨-, h'⟩ := h'
    · exact absurd hbare h'.not_bare
    · exact h.unique h'

/-- What comes of the search for a root, in the order in which it is decided. -/
inductive RootFound (w : World) (start : Path) (s : Settings) :
    Except PathError (Option Path) → Prop
  | fails {e : PathError} (h : w.RootSearchFails start s e) : RootFound w start s (.error e)
  | root {dir : Path} (h : ∀ e, ¬ w.RootSearchFails start s e)
      (hdir : Path.Deepest (w.Marked s.rootMarkers) start dir) :
      RootFound w start s (.ok (some dir))
  | fallback {dir : Path} (h : ∀ e, ¬ w.RootSearchFails start s e)
      (hroot : w.NoneMarked start s.rootMarkers)
      (hdir : Path.Deepest (w.Marked s.fallbackMarkers) start dir) :
      RootFound w start s (.ok (some dir))
  | nothing (h : ∀ e, ¬ w.RootSearchFails start s e) (hroot : w.NoneMarked start s.rootMarkers)
      (hfallback : w.NoneMarked start s.fallbackMarkers) : RootFound w start s (.ok none)

lemma rootFound (hstart : w.startDirectory file = .ok start) (hsettled : w.Settled start)
    (s : Settings) : RootFound w start s (w.findRoot file s) := by
  unfold findRoot
  rw [hstart]
  dsimp only [bind, Except.bind]
  have hroot := hsettled.sought s.rootMarkers
  generalize w.nearestWith start s.rootMarkers = found at hroot
  cases hroot with
  | fails h => exact .fails (.inl h)
  | @found dir hdir hfails =>
    refine .root (fun e h => ?_) hdir
    obtain h | ⟨hbare, -⟩ := h
    · exact hfails e h
    · exact (hbare dir hdir.mem).not_marked hdir.holds
  | nothing hbare =>
    have hnone : w.NoneMarked start s.rootMarkers := fun dir hdir => (hbare dir hdir).not_marked
    have hroot : ∀ e, ¬ w.SearchFails start s.rootMarkers e := fun e h => h.not_bare hbare
    have hfallback := hsettled.sought s.fallbackMarkers
    show RootFound w start s (w.nearestWith start s.fallbackMarkers)
    generalize w.nearestWith start s.fallbackMarkers = found at hfallback
    cases hfallback with
    | fails h => exact .fails (.inr ⟨hbare, h⟩)
    | found hdir hfails =>
      exact .fallback (fun e h => h.elim (hroot e) fun h => hfails e h.2) hnone hdir
    | nothing hbare' =>
      exact .nothing (fun e h => h.elim (hroot e) fun h => h.2.not_bare hbare') hnone
        fun dir hdir => (hbare' dir hdir).not_marked

lemma requireRoot_eq_ok_iff :
    w.requireRoot file s = .ok root ↔ w.findRoot file s = .ok (some root) := by
  unfold requireRoot
  cases w.findRoot file s with
  | error e => exact iff_of_false nofun nofun
  | ok found => cases found <;> simp [Except.mapError, bind, Except.bind, pure, Except.pure, throw,
      throwThe, MonadExceptOf.throw]

lemma requireRoot_eq_noProject_iff :
    w.requireRoot file s = .error (.noProject file) ↔ w.findRoot file s = .ok none := by
  unfold requireRoot
  cases w.findRoot file s with
  | error e => simp [Except.mapError, bind, Except.bind]
  | ok found => cases found <;> simp [Except.mapError, bind, Except.bind, pure, Except.pure, throw,
      throwThe, MonadExceptOf.throw]

/-- From a settled directory the root is the deepest directory with a root marker, or, if none has
one, the deepest with a fallback marker, and there is no root exactly if none has either.  The
search fails exactly when it comes to a marker that the operating system refuses to look up, and
then with the error of that look-up. -/
theorem findRoot_nearest (hstart : w.startDirectory file = .ok start)
    (hsettled : w.Settled start) (s : Settings) :
    (∀ e, w.findRoot file s = .error e ↔ w.RootSearchFails start s e) ∧
    ((∀ e, ¬ w.RootSearchFails start s e) →
      (∀ root, w.findRoot file s = .ok (some root) ↔
        Path.Deepest (w.Marked s.rootMarkers) start root ∨
          (w.NoneMarked start s.rootMarkers ∧
            Path.Deepest (w.Marked s.fallbackMarkers) start root)) ∧
      (w.findRoot file s = .ok none ↔
        w.NoneMarked start s.rootMarkers ∧ w.NoneMarked start s.fallbackMarkers) ∧
      (w.requireRoot file s = .error (.noProject file) ↔
        w.NoneMarked start s.rootMarkers ∧ w.NoneMarked start s.fallbackMarkers)) := by
  rw [requireRoot_eq_noProject_iff]
  have hfound := rootFound hstart hsettled s
  generalize w.findRoot file s = found at hfound
  cases hfound with
  | fails h =>
    refine ⟨fun e => ⟨fun heq => Except.error.inj heq ▸ h, fun h' => congrArg _ (h.unique h')⟩, ?_⟩
    exact fun hnot => absurd h (hnot _)
  | @root dir h hdir =>
    have hmarked : ¬ w.NoneMarked start s.rootMarkers := fun hnone => hnone dir hdir.mem hdir.holds
    refine ⟨fun e => iff_of_false nofun (h e), fun _ => ⟨fun root => ⟨?_, ?_⟩, ?_, ?_⟩⟩
    · rintro ⟨rfl⟩
      exact .inl hdir
    · rintro (hroot | ⟨hnone, -⟩)
      · rw [hdir.unique hroot]
      · exact absurd hnone hmarked
    all_goals exact iff_of_false nofun fun hnone => hmarked hnone.1
  | @fallback dir h hnone hdir =>
    have hmarked : ¬ w.NoneMarked start s.fallbackMarkers :=
      fun hnone => hnone dir hdir.mem hdir.holds
    refine ⟨fun e => iff_of_false nofun (h e), fun _ => ⟨fun root => ⟨?_, ?_⟩, ?_, ?_⟩⟩
    · rintro ⟨rfl⟩
      exact .inr ⟨hnone, hdir⟩
    · rintro (hroot | ⟨-, hroot⟩)
      · exact absurd hroot.holds (hnone root hroot.mem)
      · rw [hdir.unique hroot]
    all_goals exact iff_of_false nofun fun hnone => hmarked hnone.2
  | nothing h hnone hnone' =>
    refine ⟨fun e => iff_of_false nofun (h e), fun _ => ⟨fun root => ?_, ?_, ?_⟩⟩
    · refine iff_of_false nofun ?_
      rintro (hroot | ⟨-, hroot⟩)
      · exact hnone root hroot.mem hroot.holds
      · exact hnone' root hroot.mem hroot.holds
    all_goals exact iff_of_true rfl ⟨hnone, hnone'⟩

/-- A project with a part of its own in a directory, which has a build script. -/
def nestedProject : World :=
  { files := .ofEntries [
      (["p", "settings.gradle"], .file [] false), (["p", "sub", "build.gradle"], .file [] false),
      (["p", "sub", "A.kt"], .file [] false)]
    cwd := [], environment := [], cwd_slashFree := Place.slashFree_nil }

/-- The settings file of the project is preferred to the nearer build script. -/
theorem root_above_build_script :
    nestedProject.Marked ["build.gradle"] (.ofText "/p/sub") ∧
      nestedProject.findRoot (.ofText "/p/sub/A.kt") {} = .ok (some (.ofText "/p")) ∧
      Path.Deepest (nestedProject.Marked ["gradlew", "settings.gradle", "settings.gradle.kts"])
        (.ofText "/p/sub") (.ofText "/p") := by
  have hstart : nestedProject.startDirectory (.ofText "/p/sub/A.kt") = .ok (.ofText "/p/sub") := by
    cbv
  have hresolved : nestedProject.Resolved (.ofText "/p/sub") := by decide
  have hroot : nestedProject.findRoot (.ofText "/p/sub/A.kt") {} = .ok (some (.ofText "/p")) := by
    cbv
  have hsearch := findRoot_nearest hstart hresolved.settled {}
  have hfails : ∀ e, ¬ nestedProject.RootSearchFails (.ofText "/p/sub") {} e := by
    intro e h
    cases hroot.symm.trans ((hsearch.1 e).mpr h)
  refine ⟨⟨_, List.mem_singleton_self _, .file [] false, by cbv⟩, hroot, ?_⟩
  refine (((hsearch.2 hfails).1 _).mp hroot).resolve_right fun h => ?_
  exact h.1 (.ofText "/p") (by decide) ⟨"settings.gradle", by decide, .file [] false, by cbv⟩

set_option maxRecDepth 8000 in
/-- A root marker that is longer than a name may be ends the search before the fallback markers,
of which there is one. -/
theorem root_missed_for_long_marker :
    let s : Settings := { rootMarkers := [List.replicate 256 'a'] }
    nestedProject.startDirectory (.ofText "/p/sub/A.kt") = .ok (.ofText "/p/sub") ∧
      nestedProject.Resolved (.ofText "/p/sub") ∧
      nestedProject.NoneMarked (.ofText "/p/sub") s.rootMarkers ∧
      Path.Deepest (nestedProject.Marked s.fallbackMarkers) (.ofText "/p/sub") (.ofText "/p/sub") ∧
      ∃ e, nestedProject.findRoot (.ofText "/p/sub/A.kt") s = .error e := by
  have hlong : ∀ dir ∈ (Path.ofText "/p/sub").selfAndAncestors,
      nestedProject.Refuses (dir / .ofText (List.replicate 256 'a')).toText .nameTooLong := by
    intro dir hdir
    have hcases : dir ∈ [Path.ofText "/p/sub", .ofText "/p", .ofText "/"] := hdir
    fin_cases hcases <;> exact ⟨by cbv, rfl⟩
  refine ⟨by cbv, by decide, fun dir hdir => ?_, ⟨by decide, ?_, fun other hother _ => hother⟩, ?_⟩
  · rintro ⟨m, hm, entry, hentry⟩
    obtain rfl := List.mem_singleton.mp hm
    cases hentry.symm.trans (hlong dir hdir).1
  · exact ⟨"build.gradle", by decide, .file [] false, by cbv⟩
  · exact ⟨.system (.nameTooLong ("/p/sub/" ++ List.replicate 256 'a')), by cbv⟩

end World
end GradleLint
