import GradleLint.Proofs.World.Journey

/-!
# Files and the paths that they are resolved to

A file that is looked up is found by following links, and resolving a path follows them once more,
in another way.  The two agree (`World.resolve_of_file`) in a world as operating systems make it
(`World.Ordinary`), as long as each link on the way is met by a path that is not too long
(`World.InReach`).  The lookup is a journey (`FileSystem.goes_of_walk`), and so is what following
links does (`FileSystem.followSteps_of_goes`), and there is only one from the same start.  What the
lookup is allowed on that journey, following links is allowed as well: the directories above the end
of a route have all been searched on the way to it (`FileSystem.Route.Searched`).

The path that comes of it leads to the same file, unless the operating system refuses to look it up.
It starts at the root, while the lookup may have started at the working directory, above which a
directory need not be searched.  Where a link is out of reach, resolving a path may come to a place
where there is nothing.
-/

namespace GradleLint

/-! ## Trees -/

namespace FileTree

lemma find?_append (t : FileTree) (place more : Place) :
    t.find? (place ++ more) = (t.find? place).bind (·.find? more) := by
  induction place generalizing t with
  | nil => rfl
  | cons first rest ih => cases h : t.child? first <;> simp [find?, h, ih]

/-- Only in a directory something is found further down. -/
lemma exists_directory {t t' : FileTree} {name : Text} {more : Place}
    (h : t.find? (name :: more) = some t') : ∃ children, t = .directory children := by
  cases t with
  | file data executable => cases h
  | link target => cases h
  | directory children => exact ⟨children, rfl⟩

end FileTree

namespace FileSystem

variable {fs : FileSystem} {cwd place : Place} {data : Bytes} {executable : Bool}

/-! ## Looking up a place with a file -/

/-- No link is on the way to a place with a file. -/
lemma linkFree_of_file (h : fs.root.find? place = some (.file data executable)) :
    fs.LinkFree place := by
  rintro above ⟨more, rfl⟩ target hlink
  rw [FileTree.find?_append, hlink] at h
  cases more <;> cases h

/-- Names that lead to a file are walked along. -/
lemma walk_of_file {links : Nat} {steps : Place}
    (hsteps : ∀ s ∈ steps, IsName s ∧ octets s ≤ nameLimit) (hne : steps ≠ [])
    (hsearch : ∀ above, place <+: above → above <+: (place ++ steps).dropLast →
      above ∉ fs.unsearchable)
    (h : fs.root.find? (place ++ steps) = some (.file data executable)) :
    fs.walk links (fs.trailTo place) steps = .ok (place ++ steps, .file data executable) := by
  induction steps generalizing place with
  | nil => exact absurd rfl hne
  | cons s rest ih =>
    obtain ⟨⟨⟨hempty, hdot, hdots, -⟩, hshort⟩, hrest⟩ := List.forall_mem_cons.mp hsteps
    have hplace : place ∉ fs.unsearchable := by
      refine hsearch place (List.prefix_refl _) ?_
      rw [List.dropLast_append_of_ne_nil hne]
      exact List.prefix_append _ _
    have hsplit : place ++ s :: rest = (place ++ [s]) ++ rest := by simp
    rw [hsplit] at h hsearch ⊢
    obtain ⟨t, hfind, ht⟩ := Option.bind_eq_some_iff.mp ((FileTree.find?_append _ _ _).symm.trans h)
    have hchild : ((fs.trailTo place).tree fs.root).child? s = some t := by
      rw [FileTree.find?_concat] at hfind
      obtain ⟨above, habove, hchild⟩ := Option.bind_eq_some_iff.mp hfind
      rwa [tree_trailTo, habove]
    rw [walk, if_neg hempty, names_trailTo, if_neg hplace, if_neg hdot, if_neg hdots,
      if_neg hshort.not_gt, hchild]
    cases rest with
    | nil =>
      obtain rfl := Option.some.inj ht
      simp
    | cons s' rest =>
      obtain ⟨children, rfl⟩ := FileTree.exists_directory ht
      rw [← ih hrest (List.cons_ne_nil _ _)
        (fun above habove => hsearch above ((List.prefix_append _ _).trans habove)) h,
        ← cons_trailTo hchild]

/-! ## Directories that have been searched -/

namespace Route

variable {r : Route} {a : Anchor} {way : Trail} {step : Text × FileTree} {s : Text}

/-- Every directory from which a name led on along a way may be searched. -/
def SearchedAlong (fs : FileSystem) (cwd : Place) (a : Anchor) : Trail → Prop
  | [] => True
  | _ :: way => placeOf cwd (Route.path ⟨a, way⟩) ∉ fs.unsearchable ∧ SearchedAlong fs cwd a way

/-- Every directory above the end of a route may be searched. -/
def Searched (fs : FileSystem) (cwd : Place) (r : Route) : Prop :=
  SearchedAlong fs cwd r.anchor r.way

/-- So nothing above the last name of a way forbids to look at what it is the name of. -/
lemma SearchedAlong.above (h : SearchedAlong fs cwd a (step :: way)) :
    ∀ above ∈ (Route.path ⟨a, way⟩).selfAndAncestors, placeOf cwd above ∉ fs.unsearchable := by
  induction way generalizing step with
  | nil =>
    intro above habove
    obtain rfl := List.mem_singleton.mp (show above ∈ [Path.mk a []] from habove)
    exact h.1
  | cons last way ih =>
    rintro ⟨b, above⟩ habove
    obtain ⟨rfl, hparts⟩ := Path.mem_selfAndAncestors_iff.mp habove
    replace hparts : above <+: Trail.names way ++ [last.1] := by
      rwa [← Trail.names_cons last.1 last.2]
    obtain rfl | hparts := List.prefix_concat_iff.mp hparts
    · rw [← Trail.names_cons last.1 last.2]
      exact h.1
    · exact ih h.2 _ (Path.mem_selfAndAncestors_iff.mpr ⟨rfl, hparts⟩)

lemma parent_path_enter (r : Route) (s : Text) : (r.enter fs cwd s).path.parent = r.path := by
  refine congrArg (Path.mk r.anchor) ?_
  show (Trail.names ((s, _) :: r.way)).dropLast = r.way.names
  rw [Trail.names_cons, List.dropLast_concat]

namespace Searched

lemma enter (hcwd : ∀ s ∈ cwd, IsName s) (hr : r.LeadsTo fs cwd place)
    (h : r.Searched fs cwd) (hplace : place ∉ fs.unsearchable) :
    (r.enter fs cwd s).Searched fs cwd :=
  ⟨by rwa [← hr.placeOf_path hcwd] at hplace, h⟩

lemma oneUp (hcwd : ∀ s ∈ cwd, IsName s) (hr : r.LeadsTo fs cwd place)
    (h : r.Searched fs cwd) (hplace : place ∉ fs.unsearchable) :
    (r.oneUp fs cwd).Searched fs cwd := by
  rw [← hr.placeOf_path hcwd] at hplace
  obtain ⟨a, way⟩ := r
  cases way with
  | nil =>
    unfold Route.oneUp
    dsimp only
    split
    · exact ⟨hplace, h⟩
    · exact h
  | cons last way =>
    obtain ⟨name, t⟩ := last
    unfold Route.oneUp
    dsimp only
    split
    · exact ⟨hplace, h⟩
    · exact h.2

lemma startFrom (h : r.Searched fs cwd) (steps : List Text) :
    (r.startFrom steps).Searched fs cwd := by
  unfold Route.startFrom
  split
  · trivial
  · exact h

end Searched
end Route

/-! ## A lookup is a journey -/

/-- Links that are met on the way may all be looked at, for all that permissions say, and there are
at most so many of them. -/
structure Allowed (fs : FileSystem) (cwd : Place) (links : Nat) (met : List Path) : Prop where
  few : met.length ≤ links
  searched : ∀ p ∈ met, ∀ above ∈ p.parent.selfAndAncestors, placeOf cwd above ∉ fs.unsearchable

lemma Allowed.nil (links : Nat) : Allowed fs cwd links [] :=
  ⟨Nat.zero_le links, List.forall_mem_nil _⟩

lemma Allowed.cons {links : Nat} {met : List Path} {r : Route} {s : Text}
    (hs : (r.enter fs cwd s).Searched fs cwd) (h : Allowed fs cwd links met) :
    Allowed fs cwd (links + 1) ((r.enter fs cwd s).path :: met) := by
  refine ⟨Nat.succ_le_succ h.few, List.forall_mem_cons.mpr ⟨?_, h.searched⟩⟩
  rw [Route.parent_path_enter]
  exact hs.above

/-- The steps of a path are its parts, with single dots and an empty step among them. -/
lemma filter_stepsOf (t : Text) :
    (stepsOf t).filter (fun s => s ≠ [] ∧ s ≠ ['.']) = Path.partsOf t := by
  have hslash : (if t.getLast? = some '/' then [[]] else []).filter
      (fun s : Text => s ≠ [] ∧ s ≠ ['.']) = [] := by
    split <;> rfl
  rw [stepsOf, List.filter_append, hslash, List.append_nil, List.filter_filter, Path.partsOf]
  refine List.filter_congr fun s _ => ?_
  simp only [ne_eq, decide_not, Bool.decide_and, Bool.and_comm, Bool.and_self_left]

lemma mem_stepsOf {t s : Text} (hnull : '\x00' ∉ t) (h : s ∈ stepsOf t) :
    '/' ∉ s ∧ '\x00' ∉ s := by
  obtain h | h := List.mem_append.mp h
  · have h := (List.mem_filter.mp h).1
    exact ⟨Text.fields_slashFree t s h, fun hs => hnull (Text.mem_of_mem_fields h hs).1⟩
  · split at h
    · obtain rfl := List.mem_singleton.mp h
      exact ⟨List.not_mem_nil, List.not_mem_nil⟩
    · cases h

/-- Only to a link a name leads on as to one. -/
lemma target?_of_find? {r : Route} {s : Text} {t : FileTree} (hr : r.LeadsTo fs cwd place)
    (h : fs.root.find? (place ++ [s]) = some t) (ht : t.isLink = false) :
    (r.enter fs cwd s).target? = none := by
  refine Option.eq_none_iff_forall_ne_some.mpr fun target htarget => ?_
  rw [hr.target?_enter, h] at htarget
  exact FileTree.isLink_eq_false_iff.mp ht target (Option.some.inj htarget)

/-- A lookup that comes to a file goes on a journey to its place. -/
lemma goes_of_walk (hcwd : ∀ s ∈ cwd, IsName s) (hnull : ∀ l ∈ fs.root.links, '\x00' ∉ l.2)
    {links : Nat} {way : Trail} {steps : List Text} {found : Place}
    (h : fs.walk links way steps = .ok (found, .file data executable))
    (hsteps : ∀ s ∈ steps, '/' ∉ s ∧ '\x00' ∉ s) (hway : way = fs.trailTo place)
    (hshort : ∀ s ∈ place, octets s ≤ nameLimit) {r : Route} (hr : r.LeadsTo fs cwd place)
    (hsearched : r.Searched fs cwd) :
    (∃ met q, Goes fs cwd r (steps.filter fun s => s ≠ [] ∧ s ≠ ['.']) met q ∧
      q.LeadsTo fs cwd found ∧ Allowed fs cwd links met) ∧
      found ≠ [] ∧ fs.root.find? found = some (.file data executable) ∧
      ∀ s ∈ found, octets s ≤ nameLimit := by
  fun_induction walk fs links way steps generalizing place r
  case case1 => cases h
  case case2 ih =>
    rw [List.filter_cons_of_neg (by simp)]
    exact ih h (List.forall_mem_cons.mp hsteps).2 hway hshort hr hsearched
  case case3 => cases h
  case case4 ih =>
    rw [List.filter_cons_of_neg (by simp)]
    exact ih h (List.forall_mem_cons.mp hsteps).2 hway hshort hr hsearched
  case case5 way rest hsearch _ _ ih =>
    subst hway
    rw [names_trailTo] at hsearch
    have htail : (fs.trailTo place).tail = fs.trailTo place.dropLast := by
      rw [← List.drop_one, drop_trailTo, rdrop_succ, List.rdrop_zero]
    obtain ⟨⟨met, q, hgoes, hq⟩, hfound⟩ := ih h (List.forall_mem_cons.mp hsteps).2 htail
      (fun s hs => hshort s (List.mem_of_mem_dropLast hs)) hr.oneUp
      (hsearched.oneUp hcwd hr hsearch)
    rw [List.filter_cons_of_pos (by simp)]
    exact ⟨⟨met, q, .up hgoes, hq⟩, hfound⟩
  case case6 => cases h
  case case7 => cases h
  case case8 links way s rest hempty hsearch hdot hdots hname children hchild ih =>
    subst hway
    rw [names_trailTo] at hsearch
    obtain ⟨hs, hrest⟩ := List.forall_mem_cons.mp hsteps
    have hproper : IsName s := ⟨hempty, hdot, hdots, hs⟩
    have hfind := find?_of_child? (tree_trailTo fs place) hchild
    have hlength := List.forall_mem_append.mpr
      ⟨hshort, List.forall_mem_singleton.mpr (not_lt.mp hname)⟩
    obtain ⟨⟨met, q, hgoes, hq⟩, hfound⟩ := ih h hrest (cons_trailTo hchild) hlength
      (hr.enter hproper) (hsearched.enter hcwd hr hsearch)
    rw [List.filter_cons_of_pos (by simp [hempty, hdot])]
    exact ⟨⟨met, q, .name hproper (target?_of_find? hr hfind rfl) hgoes, hq⟩, hfound⟩
  case case9 links way s hempty hsearch hdot hdots hname data executable hchild =>
    subst hway
    obtain ⟨hs, -⟩ := List.forall_mem_cons.mp hsteps
    have hproper : IsName s := ⟨hempty, hdot, hdots, hs⟩
    have hfind := find?_of_child? (tree_trailTo fs place) hchild
    rw [names_trailTo] at h
    cases h
    rw [List.filter_cons_of_pos (by simp [hempty, hdot])]
    exact ⟨⟨[], _, .name hproper (target?_of_find? hr hfind rfl) .done, hr.enter hproper,
      .nil links⟩, List.append_ne_nil_of_right_ne_nil _ (List.cons_ne_nil _ _), hfind,
      List.forall_mem_append.mpr ⟨hshort, List.forall_mem_singleton.mpr (not_lt.mp hname)⟩⟩
  case case10 => cases h
  case case11 => cases h
  case case12 way s rest hempty hsearch hdot hdots hname target hchild links ih =>
    subst hway
    rw [names_trailTo] at hsearch
    obtain ⟨hs, hrest⟩ := List.forall_mem_cons.mp hsteps
    have hproper : IsName s := ⟨hempty, hdot, hdots, hs⟩
    have hfind := find?_of_child? (tree_trailTo fs place) hchild
    have htarget : '\x00' ∉ target := hnull _ (FileTree.mem_links hfind)
    obtain ⟨⟨met, q, hgoes, hq, hallowed⟩, hfound⟩ := ih h
      (fun s hs => (List.mem_append.mp hs).elim (mem_stepsOf htarget) (hrest s))
      (startOf_trailTo fs place target) (forall_mem_startPlace hshort target) (hr.startFrom target)
      (hsearched.startFrom _)
    rw [List.filter_append, filter_stepsOf] at hgoes
    rw [List.filter_cons_of_pos (by simp [hempty, hdot])]
    exact ⟨⟨_, q, .link hproper ((hr.target?_enter s target).mpr hfind) hgoes, hq,
      hallowed.cons (hsearched.enter hcwd hr hsearch)⟩, hfound⟩

/-- Looking up a text that leads to a file is the journey along its parts to the place of the
file. -/
lemma goes_of_locate (hcwd : ∀ s ∈ cwd, IsName s ∧ octets s ≤ nameLimit)
    (hnull : ∀ l ∈ fs.root.links, '\x00' ∉ l.2) {t : Text} {found : Place}
    (h : fs.locate cwd t = .ok (found, .file data executable)) :
    (∃ met q, Goes fs cwd (.ofText t) (Path.partsOf t) met q ∧
      q.LeadsTo fs cwd found ∧ Allowed fs cwd linkLimit met) ∧
      found ≠ [] ∧ fs.root.find? found = some (.file data executable) ∧
      ∀ s ∈ found, octets s ≤ nameLimit := by
  unfold locate at h
  split at h
  · cases h
  rename_i ht
  split at h
  · cases h
  split at h
  · cases h
  have hsteps : ∀ s ∈ stepsOf t, '/' ∉ s ∧ '\x00' ∉ s :=
    fun s hs => mem_stepsOf (by simpa using ht) hs
  have hsearched : (Route.ofText t).Searched fs cwd :=
    Route.Searched.startFrom (r := ⟨.relative, []⟩) trivial _
  rw [← filter_stepsOf]
  exact goes_of_walk (fun s hs => (hcwd s hs).1) hnull h hsteps (startOf_trailTo fs cwd t)
    (forall_mem_startPlace (fun s hs => (hcwd s hs).2) t) (.ofText fs cwd t) hsearched

/-! ## Journeys from the root -/

lemma Route.anchor_oneUp (r : Route) : (r.oneUp fs cwd).anchor = r.anchor := by
  unfold oneUp
  split <;> split <;> rfl

lemma Route.anchor_startFrom {r : Route} (h : r.anchor = .root) (steps : List Text) :
    (r.startFrom steps).anchor = .root := by
  unfold startFrom
  split
  · rfl
  · exact h

/-- What starts at the root stays there. -/
lemma Goes.anchor_root {r q : Route} {parts : List Text} {met : List Path}
    (h : Goes fs cwd r parts met q) (hr : r.anchor = .root) : q.anchor = .root := by
  induction h with
  | done => exact hr
  | up h ih => exact ih ((Route.anchor_oneUp _).trans hr)
  | name hs hlink h ih => exact ih hr
  | link hs hlink h ih => exact ih (Route.anchor_startFrom hr _)

end FileSystem

/-! ## Resolving what leads to a file -/

namespace World

/-- A world as operating systems make it: the names on the way to the working directory are names
that can be looked up, no link holds a null character, and the program can follow as many links as
the operating system does. -/
structure Ordinary (w : World) : Prop where
  cwd : ∀ s ∈ w.cwd, FileSystem.IsName s ∧ FileSystem.octets s ≤ FileSystem.nameLimit
  links : ∀ l ∈ w.files.root.links, '\x00' ∉ l.2
  depth : FileSystem.linkLimit ≤ w.depth

/-- Each link on the way along a path is met by a path that is not too long. -/
def InReach (w : World) (t : Text) : Prop :=
  ∀ met q, w.files.Goes w.cwd (.ofText t) (Path.partsOf t) met q →
    ∀ p ∈ met, FileSystem.octets p.toText ≤ FileSystem.pathLimit

variable {w : World} {t : Text} {p q : Path} {data : Bytes} {executable : Bool}

/-- Only the root ends in a slash, which asks for a directory. -/
lemma Settled.stepsOf_toText (h : w.Settled p) (hne : p.parts ≠ []) :
    FileSystem.stepsOf p.toText = p.parts := by
  have habs : p.isAbsolute := by rw [Path.isAbsolute, h.anchor]; rfl
  have hfields : p.toText.fields '/' = [] :: p.parts := by
    have hsteps := FileSystem.writtenSteps_toText habs fun s hs => (h.names s hs).2.2.2.1
    rwa [h.anchor, if_neg hne] at hsteps
  have hparts : p.parts.filter (· ≠ []) = p.parts :=
    List.filter_eq_self.mpr fun s hs => decide_eq_true (h.names s hs).1
  have hslash : p.toText.getLast? ≠ some '/' := by
    intro hlast
    obtain ⟨front, hfront⟩ := List.getLast?_eq_some_iff.mp hlast
    obtain ⟨first, rest, hfront'⟩ := List.exists_cons_of_ne_nil (Text.fields_ne_nil '/' front)
    rw [hfront, Text.fields_append_cons, hfront'] at hfields
    have hmem : [] ∈ rest ++ [[]] := List.mem_append_right rest List.mem_cons_self
    exact (h.names [] ((List.cons.inj hfields).2 ▸ hmem)).1 rfl
  rw [FileSystem.stepsOf, if_neg hslash, hfields, List.append_nil]
  exact hparts

/-- A settled path to a file leads there, unless the operating system refuses to look. -/
lemma Settled.entry?_of_file (h : w.Settled p) (hne : p.parts ≠ [])
    (hnames : ∀ s ∈ p.parts, FileSystem.octets s ≤ FileSystem.nameLimit)
    (hfind : w.files.root.find? p.parts = some (.file data executable))
    (hreach : w.files.Reaches w.cwd p) : w.entry? p.toText = .ok (.file data executable) := by
  have hnull : ¬ p.toText.contains '\x00' := by simpa using h.null_not_mem
  have hsome : p.toText ≠ [] := by
    rw [h.toText_eq]
    exact List.cons_ne_nil _ _
  obtain ⟨hshort, hsearch⟩ : FileSystem.octets p.toText ≤ FileSystem.pathLimit ∧
      w.files.Searchable p.parts.dropLast := by
    have hp : p = ⟨.root, p.parts.dropLast ++ [p.parts.getLast hne]⟩ := by
      rw [List.dropLast_append_getLast, ← h.anchor]
    rw [hp, FileSystem.reaches_root_iff _
      fun s hs => h.names s (List.mem_of_mem_dropLast hs), ← hp] at hreach
    exact hreach
  have hsearched : ∀ above : Place, [] <+: above → above <+: ([] ++ p.parts).dropLast →
      above ∉ w.files.unsearchable := fun above _ habove => hsearch above habove
  have hwalk : w.files.walk FileSystem.linkLimit [] p.parts =
      .ok (p.parts, .file data executable) :=
    FileSystem.walk_of_file (fun s hs => ⟨h.names s hs, hnames s hs⟩) hne hsearched
      (show w.files.root.find? ([] ++ p.parts) = _ from hfind)
  unfold entry? FileSystem.locate
  rw [if_neg hnull, if_neg hsome, if_neg hshort.not_gt, h.startOf_eq, h.stepsOf_toText hne, hwalk]
  rfl

/-- What leads to a file is resolved, if every link on the way is in reach, unless it is relative to
a working directory that has been removed; and the path that it is resolved to leads to the same
file, unless the operating system refuses to look there. -/
theorem resolve_of_file (hw : w.Ordinary) (h : w.entry? t = .ok (.file data executable))
    (hreach : w.InReach t) (hp : Path.ofText p.toText = Path.ofText t) :
    ((Path.ofText t).isAbsolute ∨ w.files.hasDirectory w.cwd → ∃ q, w.resolve p = .ok q) ∧
      ∀ q, w.resolve p = .ok q → w.files.Reaches w.cwd q →
        w.entry? q.toText = .ok (.file data executable) := by
  have hcwd : ∀ s ∈ w.cwd, FileSystem.IsName s := fun s hs => (hw.cwd s hs).1
  obtain ⟨⟨found, _⟩, hlocate, rfl⟩ := Except.ok_of_map h
  obtain ⟨⟨met, r, hgoes, hr, hallowed⟩, hne, hfind, hnames⟩ :=
    FileSystem.goes_of_locate hw.cwd hw.links hlocate
  have hmet : ∀ p ∈ met, w.files.Reaches w.cwd p := fun p hp =>
    ⟨hreach met r hgoes p hp, fun place hplace above habove heq =>
      hallowed.searched p hp above habove (heq ▸ hplace)⟩
  obtain ⟨hanchor, hparts⟩ := Path.mk.inj hp
  have hfollow : w.files.follow w.depth w.cwd p.toText = w.files.absolute w.cwd r.path := by
    rw [← hparts, ← FileSystem.Route.ofText_congr hanchor] at hgoes
    exact FileSystem.follow_of_goes hcwd hgoes hmet (hallowed.few.trans hw.depth)
  have hsettled : w.Settled ⟨.root, found⟩ :=
    ⟨rfl, hr.names hcwd, (FileSystem.linkFree_of_file hfind).settled⟩
  refine ⟨fun hthere => ?_, fun q hq => ?_⟩
  · have hroute : r.path.isAbsolute ∨ w.files.hasDirectory w.cwd := by
      refine hthere.imp_left fun habs => ?_
      have hstart : (FileSystem.Route.ofText t).anchor = .root := by
        rw [FileSystem.Route.ofText, FileSystem.Route.startFrom_writtenSteps, if_neg]
        exact bne_iff_ne.mp habs
      exact bne_iff_ne.mpr (show r.anchor ≠ .relative by rw [hgoes.anchor_root hstart]; decide)
    exact ⟨_, hsettled.resolve_of_follow (hfollow.trans (hr.absolute hcwd hroute))⟩
  · have habs := hfollow.symm.trans (follow_of_resolve hq)
    have hthere := (FileSystem.absolute_eq_ok_iff.mp habs).1
    obtain rfl := Except.ok.inj ((hr.absolute hcwd hthere).symm.trans habs)
    exact hsettled.entry?_of_file hne hnames hfind

end World
end GradleLint
