import GradleLint.Proofs.World.Ancestors
import GradleLint.Proofs.World.Spelling

/-!
# Resolved paths

A path from the root is resolved if its parts are proper names and no link is on the way.  It is
settled if no link is on the way that could be followed, which makes a difference only where the
operating system refuses to look: a path is too long, or leads through a directory that may not be
searched.

Following links leaves a settled path as it is (`World.Settled.resolve_eq`), whether anything exists
at its end or not, and the same goes for all that is above it
(`World.Settled.of_mem_selfAndAncestors`).
-/

namespace GradleLint

/-! ## Trees along a way -/

namespace FileTree

lemma find?_concat (t : FileTree) (place : Place) (name : Text) :
    t.find? (place ++ [name]) = (t.find? place).bind (·.child? name) := by
  induction place generalizing t with
  | nil => cases h : t.child? name <;> simp [find?, h]
  | cons first rest ih => cases h : t.child? first <;> simp [find?, h, ih]

/-- Whether something is a link. -/
def isLink : FileTree → Bool
  | link _ => true
  | _ => false

lemma isLink_eq_false_iff {t : FileTree} : t.isLink = false ↔ ∀ target, t ≠ link target := by
  cases t <;> simp [isLink]

end FileTree

lemma Trail.names_cons (name : Text) (t : FileTree) (way : Trail) :
    Trail.names ((name, t) :: way) = way.names ++ [name] := by
  rw [names, names, List.map_cons, List.reverse_cons]

namespace FileSystem

variable {fs : FileSystem}

lemma trailTo_concat (fs : FileSystem) (place : Place) (name : Text) :
    fs.trailTo (place ++ [name]) = (fs.trailTo place).enter fs.root name :=
  List.foldl_concat _ _ _ _

lemma names_foldl_enter (top : FileTree) (way : Trail) (names : Place) :
    (names.foldl (Trail.enter top) way).names = way.names ++ names := by
  induction names using List.reverseRecOn with
  | nil => exact (List.append_nil _).symm
  | append_singleton names name ih =>
    rw [List.foldl_concat, Trail.enter, Trail.names_cons, ih, List.append_assoc]

lemma names_trailTo (fs : FileSystem) (place : Place) : (fs.trailTo place).names = place :=
  names_foldl_enter fs.root [] place

/-- Where a way leads to what stands at a place, names lead on to what stands behind it, or to
nothing, which holds nothing. -/
lemma tree_foldl_enter {top : FileTree} {way : Trail} {place : Place}
    (h : way.tree top = (fs.root.find? place).getD (.directory [])) (names : Place) :
    (names.foldl (Trail.enter top) way).tree top =
      (fs.root.find? (place ++ names)).getD (.directory []) := by
  induction names using List.reverseRecOn with
  | nil => rwa [List.append_nil]
  | append_singleton names name ih =>
    rw [List.foldl_concat, ← List.append_assoc, FileTree.find?_concat]
    show (((names.foldl (Trail.enter top) way).tree top).child? name).getD (.directory []) = _
    rw [ih]
    cases fs.root.find? (place ++ names) <;> rfl

/-- A way leads to what stands at its end, or to nothing, which holds nothing. -/
lemma tree_trailTo (fs : FileSystem) (place : Place) :
    (fs.trailTo place).tree fs.root = (fs.root.find? place).getD (.directory []) :=
  tree_foldl_enter (show Trail.tree fs.root [] = (fs.root.find? []).getD (.directory []) from rfl)
    place

/-- What is found under a name prolongs the way to a place. -/
lemma cons_trailTo {place : Place} {name : Text} {child : FileTree}
    (h : ((fs.trailTo place).tree fs.root).child? name = some child) :
    (name, child) :: fs.trailTo place = fs.trailTo (place ++ [name]) := by
  rw [trailTo_concat, Trail.enter, h]
  rfl

/-! ## Lengths -/

lemma octets_append (s t : Text) : octets (s ++ t) = octets s + octets t := by
  induction s with
  | nil => exact (Nat.zero_add _).symm
  | cons c s ih => rw [List.cons_append, octets, octets, ih, Nat.add_assoc]

/-- What is above a path is written no longer. -/
lemma octets_toText_le {above place : Place} (h : above <+: place) :
    octets (Path.mk .root above).toText ≤ octets (Path.mk .root place).toText := by
  obtain ⟨more, hmore⟩ := Text.join_prefix ['/'] h
  show octets ('/' :: Text.join ['/'] above) ≤ octets ('/' :: Text.join ['/'] place)
  rw [← hmore, ← List.cons_append, octets_append]
  exact Nat.le_add_right _ _

/-! ## Names -/

/-- A name that means itself wherever it stands. -/
def IsName (s : Text) : Prop := s ≠ [] ∧ s ≠ ['.'] ∧ s ≠ ['.', '.'] ∧ '/' ∉ s ∧ '\x00' ∉ s

instance (s : Text) : Decidable (IsName s) :=
  inferInstanceAs (Decidable (s ≠ [] ∧ s ≠ ['.'] ∧ s ≠ ['.', '.'] ∧ '/' ∉ s ∧ '\x00' ∉ s))

lemma foldl_stepBack_of_names {steps : Place} (h : ∀ s ∈ steps, IsName s) (done : Place) :
    steps.foldl stepBack done = steps.reverse ++ done := by
  induction steps generalizing done with
  | nil => rfl
  | cons s rest ih =>
    obtain ⟨⟨hempty, hdot, hdots, -⟩, hrest⟩ := List.forall_mem_cons.mp h
    have hstep : stepBack done s = s :: done := by
      rw [stepBack, if_neg (by simp [hempty, hdot]), if_neg hdots]
    rw [List.foldl_cons, hstep, ih hrest, List.reverse_cons, List.append_assoc,
      List.singleton_append]

/-- Proper names are all left when steps are gone back over. -/
lemma collapse_of_names {names : Place} (h : ∀ s ∈ names, IsName s) : collapse names = names := by
  rw [collapse, foldl_stepBack_of_names h, List.append_nil, List.reverse_reverse]

/-! ## What can be looked at -/

/-- A place may be searched, and so may all that is above it. -/
def Searchable (fs : FileSystem) (place : Place) : Prop :=
  ∀ above, above <+: place → above ∉ fs.unsearchable

/-- Names from the root can be looked at if they are not too long together and the directory that
they lead to may be searched, with all that is above it. -/
lemma reaches_root_iff {place : Place} {name : Text} (cwd : Place) (h : ∀ s ∈ place, IsName s) :
    fs.Reaches cwd ⟨.root, place ++ [name]⟩ ↔
      octets (Path.mk .root (place ++ [name])).toText ≤ pathLimit ∧ fs.Searchable place := by
  have hplace : ∀ above, above <+: place → placeOf cwd ⟨.root, above⟩ = above :=
    fun above habove => collapse_of_names fun s hs => h s (habove.subset hs)
  have hparent : Path.parent ⟨.root, place ++ [name]⟩ = ⟨.root, place⟩ :=
    congrArg (Path.mk .root) List.dropLast_concat
  refine and_congr_right fun _ => ?_
  rw [hparent]
  constructor
  · intro hall above habove hmem
    exact hall above hmem ⟨.root, above⟩ (Path.mem_selfAndAncestors_iff.mpr ⟨rfl, habove⟩)
      (hplace above habove)
  · rintro hall barred hmem ⟨a, above⟩ habove rfl
    obtain ⟨rfl, habove⟩ := Path.mem_selfAndAncestors_iff.mp habove
    rw [hplace above habove] at hmem
    exact hall above habove hmem

/-- What is at the end of a path from the root does not depend on the working directory. -/
lemma reaches_root_congr (cwd cwd' : Place) (parts : List Text) :
    fs.Reaches cwd ⟨.root, parts⟩ ↔ fs.Reaches cwd' ⟨.root, parts⟩ := by
  refine and_congr_right fun _ => forall₂_congr fun _ _ => forall₂_congr fun above habove => ?_
  obtain ⟨a, above⟩ := above
  obtain ⟨rfl, -⟩ := Path.mem_selfAndAncestors_iff.mp habove
  rfl

lemma link?_root (cwd : Place) (way : Trail) :
    Route.link? fs cwd ⟨.root, way⟩ = Route.link? fs [] ⟨.root, way⟩ := by
  unfold Route.link?
  split
  · exact if_congr (reaches_root_congr cwd [] _) rfl rfl
  · rfl

/-! ## Links on the way -/

/-- No link stands at a place or on the way to it. -/
def LinkFree (fs : FileSystem) (place : Place) : Prop :=
  ∀ above, above <+: place → ∀ target, fs.root.find? above ≠ some (.link target)

/-- There are only so many places on the way to one. -/
lemma linkFree_iff {place : Place} :
    fs.LinkFree place ↔ ∀ above ∈ place.inits, (fs.root.find? above).all (!·.isLink) := by
  refine forall_congr' fun above => ?_
  rw [List.mem_inits]
  cases fs.root.find? above with
  | none => simp
  | some t => simp [FileTree.isLink_eq_false_iff]

instance (fs : FileSystem) (place : Place) : Decidable (fs.LinkFree place) :=
  decidable_of_iff _ linkFree_iff.symm

lemma LinkFree.above {place above : Place} (h : fs.LinkFree place) (habove : above <+: place) :
    fs.LinkFree above :=
  fun q hq => h q (hq.trans habove)

/-- A way that leads to no link has none to follow at its end. -/
lemma link?_trailTo {place : Place} (h : fs.LinkFree place) (cwd : Place) (a : Anchor) :
    Route.link? fs cwd ⟨a, fs.trailTo place⟩ = none := by
  unfold Route.link?
  split
  · rename_i name target rest hway
    replace hway : fs.trailTo place = (name, .link target) :: rest := hway
    have htree : FileTree.link target = (fs.root.find? place).getD (.directory []) := by
      rw [← tree_trailTo, hway]
      rfl
    cases hfind : fs.root.find? place with
    | none =>
      rw [hfind] at htree
      cases htree
    | some t =>
      rw [hfind] at htree
      exact absurd (hfind.trans (congrArg some htree.symm)) (h place (List.prefix_refl _) target)
  · rfl

/-- No link that can be followed stands at a place or on the way to it. -/
def Settled (fs : FileSystem) (place : Place) : Prop :=
  ∀ above, above <+: place → Route.link? fs [] ⟨.root, fs.trailTo above⟩ = none

lemma LinkFree.settled {place : Place} (h : fs.LinkFree place) : fs.Settled place :=
  fun _ habove => link?_trailTo (h.above habove) [] .root

lemma Settled.above {place above : Place} (h : fs.Settled place) (habove : above <+: place) :
    fs.Settled above :=
  fun q hq => h q (hq.trans habove)

lemma enter_trailTo (fs : FileSystem) (cwd place : Place) (name : Text) :
    Route.enter fs cwd ⟨.root, fs.trailTo place⟩ name = ⟨.root, fs.trailTo (place ++ [name])⟩ := by
  rw [trailTo_concat]
  rfl

/-- Following links along names without links to follow goes their way; empty steps go nowhere. -/
lemma followSteps_of_settled {cwd : Place} {depth : Nat} {busy : List Path}
    {known : List (Path × Route)} {place steps : Place} (hnames : ∀ s ∈ steps, s = [] ∨ IsName s)
    (h : fs.Settled (place ++ steps.filter (· ≠ []))) :
    followSteps fs cwd depth busy known ⟨.root, fs.trailTo place⟩ steps =
      .ok (.free ⟨.root, fs.trailTo (place ++ steps.filter (· ≠ []))⟩ known) := by
  induction steps generalizing place with
  | nil => rw [followSteps, List.filter_nil, List.append_nil]
  | cons s rest ih =>
    obtain ⟨rfl | ⟨hempty, hdot, hdots, -, hnull⟩, hrest⟩ := List.forall_mem_cons.mp hnames
    · rw [followSteps, if_pos (.inl rfl)]
      exact ih hrest h
    · have hsplit : place ++ (s :: rest).filter (· ≠ []) =
          (place ++ [s]) ++ rest.filter (· ≠ []) := by
        simp [hempty]
      rw [hsplit] at h ⊢
      have hlink := h (place ++ [s]) (List.prefix_append _ _)
      rw [followSteps, if_neg (by simp [hempty, hdot]), if_neg hdots, if_neg (by simpa using hnull)]
      simp only [enter_trailTo, link?_root cwd, hlink]
      exact ih hrest h

lemma walk_blanks {links : Nat} {way : Trail} {blanks : Place} (h : ∀ s ∈ blanks, s = []) :
    fs.walk links way blanks = .ok (way.names, .directory) := by
  induction blanks with
  | nil => rw [walk]
  | cons s rest ih =>
    obtain ⟨hs, hrest⟩ := List.forall_mem_cons.mp h
    rw [walk, if_pos hs, ih hrest]

/-- What is found at the end of a way stands at the place that it leads to. -/
lemma find?_of_child? {way : Trail} {place : Place} {name : Text} {child : FileTree}
    (hway : way.tree fs.root = (fs.root.find? place).getD (.directory []))
    (hchild : (way.tree fs.root).child? name = some child) :
    fs.root.find? (place ++ [name]) = some child := by
  rw [FileTree.find?_concat]
  rw [hway] at hchild
  cases hplace : fs.root.find? place with
  | none => simp [hplace, FileTree.child?] at hchild
  | some t => simpa [hplace] using hchild

/-- A link stands at the end of a way and can be looked at only if it can be followed there. -/
lemma Settled.not_link {place : Place} {name target : Text}
    (h : fs.Settled (place ++ [name])) (hreach : fs.Reaches [] ⟨.root, place ++ [name]⟩) :
    fs.root.find? (place ++ [name]) ≠ some (.link target) := by
  intro hfind
  have htree : (fs.trailTo (place ++ [name])).tree fs.root = .link target := by
    rw [tree_trailTo, hfind]
    rfl
  have hnames := names_trailTo fs (place ++ [name])
  have hnone := h _ (List.prefix_refl _)
  rw [trailTo_concat, Trail.enter] at htree hnames hnone
  replace htree : (((fs.trailTo place).tree fs.root).child? name).getD (.directory []) =
    .link target := htree
  rw [htree] at hnames hnone
  unfold Route.link? Route.path at hnone
  dsimp only at hnone
  rw [hnames, if_pos hreach] at hnone
  cases hnone

/-- Walking along names without links to follow meets none; empty steps at the end go nowhere. -/
lemma walk_of_settled {links : Nat} (place : Place) {steps blanks : Place}
    (hnames : ∀ s ∈ place ++ steps, IsName s) (hblanks : ∀ s ∈ blanks, s = [])
    (h : fs.Settled (place ++ steps))
    (hshort : octets (Path.mk .root (place ++ steps)).toText ≤ pathLimit)
    (hsearch : ∀ above, above <+: place → above ≠ place → above ∉ fs.unsearchable) :
    fs.walk links (fs.trailTo place) (steps ++ blanks) ≠ .error .tooManyLinks ∧
      fs.walk links (fs.trailTo place) (steps ++ blanks) ≠ .error .nullCharacter := by
  induction steps generalizing place with
  | nil =>
    rw [List.nil_append, walk_blanks hblanks]
    simp
  | cons s rest ih =>
    have hproper := List.forall_mem_append.mp hnames
    obtain ⟨hempty, hdot, hdots, -⟩ := (List.forall_mem_cons.mp hproper.2).1
    have hsplit : place ++ s :: rest = (place ++ [s]) ++ rest := by simp
    rw [hsplit] at h hshort hnames
    rw [List.cons_append, walk, if_neg hempty, names_trailTo]
    by_cases hplace : place ∈ fs.unsearchable
    · rw [if_pos hplace]
      simp
    have hon : fs.Searchable place := fun above habove => by
      by_cases hsame : above = place
      · exact hsame ▸ hplace
      · exact hsearch above habove hsame
    rw [if_neg hplace, if_neg hdot, if_neg hdots]
    split
    · simp
    · split
      · simp
      · rename_i children hfound
        rw [cons_trailTo hfound]
        refine ih _ hnames h hshort fun above habove hne => ?_
        exact hon above ((List.prefix_concat_iff.mp habove).resolve_left hne)
      · split <;> simp
      · rename_i target hfound
        have habove : place ++ [s] <+: (place ++ [s]) ++ rest := List.prefix_append _ _
        have hreach : fs.Reaches [] ⟨.root, place ++ [s]⟩ := (reaches_root_iff [] hproper.1).mpr
          ⟨(octets_toText_le habove).trans hshort, hon⟩
        exact absurd (find?_of_child? (tree_trailTo fs place) hfound)
          ((h.above habove).not_link hreach)

/-! ## Where following links ends -/

/-- Where following the links of a path ends. -/
def followed (fs : FileSystem) (depth : Nat) (cwd : Place) (t : Text) :
    Except FollowError Followed :=
  followSteps fs cwd depth [] [] (Route.startFrom ⟨.relative, []⟩ (writtenSteps t)) (writtenSteps t)

lemma follow_eq_bind (depth : Nat) (cwd : Place) (t : Text) :
    fs.follow depth cwd t = fs.followed depth cwd t >>= fun f => fs.absolute cwd f.path := rfl

lemma absolute_trailTo {cwd place : Place} {known : List (Path × Route)}
    (h : ∀ s ∈ place, IsName s) :
    fs.absolute cwd (Followed.free ⟨.root, fs.trailTo place⟩ known).path = .ok ⟨.root, place⟩ := by
  have hpath : (Followed.free ⟨.root, fs.trailTo place⟩ known).path = ⟨.root, place⟩ :=
    congrArg (Path.mk .root) (names_trailTo _ _)
  have hplace : placeOf cwd ⟨.root, place⟩ = place := collapse_of_names h
  rw [hpath, absolute, hplace]
  rfl

/-! ## The steps of a path -/

/-- A path from the root is written with an empty step for each slash in front. -/
lemma writtenSteps_toText {p : Path} (hp : p.isAbsolute) (hslash : Place.SlashFree p.parts) :
    writtenSteps p.toText =
      (Path.Anchor.toText p.anchor).map (fun _ => []) ++
        if p.parts = [] then [[]] else p.parts := by
  obtain ⟨a, parts⟩ := p
  by_cases hnil : parts = []
  · subst hnil
    cases a with
    | relative => cases hp
    | root => rfl
    | doubleRoot => rfl
  · have hjoin := Text.fields_join hslash hnil
    rw [if_neg hnil]
    cases a with
    | relative => cases hp
    | root => exact congrArg ([] :: ·) hjoin
    | doubleRoot => exact congrArg ([] :: [] :: ·) hjoin

end FileSystem

/-! ## Resolved paths -/

/-- A path from the root with proper names and without links on the way. -/
structure World.Resolved (w : World) (p : Path) : Prop where
  anchor : p.anchor = .root
  names : ∀ part ∈ p.parts, FileSystem.IsName part
  linkFree : w.files.LinkFree p.parts

instance (w : World) (p : Path) : Decidable (w.Resolved p) :=
  decidable_of_iff (p.anchor = .root ∧ (∀ part ∈ p.parts, FileSystem.IsName part) ∧
      w.files.LinkFree p.parts)
    ⟨fun h => ⟨h.1, h.2.1, h.2.2⟩, fun h => ⟨h.anchor, h.names, h.linkFree⟩⟩

/-- A path from the root with proper names and without links on the way that can be followed. -/
structure World.Settled (w : World) (p : Path) : Prop where
  anchor : p.anchor = .root
  names : ∀ part ∈ p.parts, FileSystem.IsName part
  settled : w.files.Settled p.parts

lemma World.Resolved.settled {w : World} {p : Path} (h : w.Resolved p) : w.Settled p :=
  ⟨h.anchor, h.names, h.linkFree.settled⟩

namespace World.Settled

variable {w : World} {p : Path}

lemma regular (h : w.Settled p) : p.Regular :=
  fun part hpart => ⟨(h.names part hpart).1, (h.names part hpart).2.1, (h.names part hpart).2.2.2.1⟩

lemma toText_eq (h : w.Settled p) : p.toText = '/' :: Text.join ['/'] p.parts := by
  rw [Path.toText, h.anchor]
  rfl

/-- The text of a settled path has its parts as fields, apart from empty ones. -/
lemma exists_fields (h : w.Settled p) :
    ∃ first rest, p.toText.fields '/' = [] :: first :: rest ∧
      (first :: rest).filter (· ≠ []) = p.parts := by
  have hfields : p.toText.fields '/' = [] :: (Text.join ['/'] p.parts).fields '/' := by
    rw [h.toText_eq]
    rfl
  by_cases hnil : p.parts = []
  · refine ⟨[], [], ?_, ?_⟩
    · rw [hfields, hnil]
      rfl
    · rw [hnil]
      rfl
  · obtain ⟨first, rest, hparts⟩ := List.exists_cons_of_ne_nil hnil
    refine ⟨first, rest, ?_, ?_⟩
    · rw [hfields, Text.fields_join (fun part hpart => (h.regular part hpart).2.2) hnil, hparts]
    · rw [← hparts, List.filter_eq_self]
      exact fun part hpart => decide_eq_true (h.regular part hpart).1

/-- Following the links of a settled path goes its way. -/
lemma followed_eq (h : w.Settled p) :
    w.files.followed w.depth w.cwd p.toText =
      .ok (.free ⟨.root, w.files.trailTo p.parts⟩ []) := by
  obtain ⟨first, rest, hfields, hparts⟩ := h.exists_fields
  have hnames : ∀ s ∈ first :: rest, s = [] ∨ FileSystem.IsName s := by
    intro s hs
    by_cases hempty : s = []
    · exact .inl hempty
    · exact .inr (h.names s (hparts ▸ List.mem_filter.mpr ⟨hs, decide_eq_true hempty⟩))
  have hsettled : w.files.Settled ([] ++ (first :: rest).filter (· ≠ [])) := by
    rw [hparts]
    exact h.settled
  rw [FileSystem.followed, FileSystem.writtenSteps, hfields]
  show FileSystem.followSteps w.files _ _ [] [] ⟨.root, w.files.trailTo []⟩
    ([] :: first :: rest) = _
  rw [FileSystem.followSteps, if_pos (.inl rfl), FileSystem.followSteps_of_settled hnames hsettled,
    hparts]
  rfl

lemma follow_eq (h : w.Settled p) : w.files.follow w.depth w.cwd p.toText = .ok p := by
  have hp : p = ⟨.root, p.parts⟩ := by
    rw [← h.anchor]
  rw [FileSystem.follow_eq_bind, h.followed_eq, hp]
  exact FileSystem.absolute_trailTo h.names

lemma null_not_mem (h : w.Settled p) : '\x00' ∉ p.toText := by
  rw [h.toText_eq]
  intro hmem
  obtain heq | hmem := List.mem_cons.mp hmem
  · cases heq
  · obtain hmem | ⟨part, hpart, hmem⟩ := Text.mem_join hmem
    · cases List.mem_singleton.mp hmem
    · exact (h.names part hpart).2.2.2.2 hmem

/-- The steps of a settled path are its parts; only the root itself ends in a slash. -/
lemma exists_stepsOf (h : w.Settled p) : ∃ blanks : Place, (∀ s ∈ blanks, s = []) ∧
    FileSystem.stepsOf p.toText = p.parts ++ blanks := by
  obtain ⟨first, rest, hfields, hparts⟩ := h.exists_fields
  refine ⟨if p.toText.getLast? = some '/' then [[]] else [], ?_, ?_⟩
  · split <;> simp
  · rw [FileSystem.stepsOf, hfields, ← hparts]
    rfl

lemma startOf_eq (h : w.Settled p) (way : Trail) : FileSystem.startOf way p.toText = [] := by
  have hanchor : Path.anchorOf p.toText = .root := by
    rw [h.toText_eq]
    exact Path.anchorOf_append (Path.head?_join_ne h.regular) .root
  rw [FileSystem.startOf, hanchor]
  rfl

/-- Looking a settled path up follows no links. -/
lemma entry?_ne (h : w.Settled p) :
    w.entry? p.toText ≠ .error .tooManyLinks ∧ w.entry? p.toText ≠ .error .nullCharacter := by
  obtain ⟨blanks, hblanks, hsteps⟩ := h.exists_stepsOf
  have hnull : ¬ p.toText.contains '\x00' := by simpa using h.null_not_mem
  have hne : p.toText ≠ [] := by
    rw [h.toText_eq]
    exact List.cons_ne_nil _ _
  unfold entry? FileSystem.locate
  rw [if_neg hnull, if_neg hne, h.startOf_eq, hsteps]
  split
  · simp [Except.map]
  · rename_i hlong
    have hshort :
        FileSystem.octets (Path.mk .root ([] ++ p.parts)).toText ≤ FileSystem.pathLimit := by
      rw [List.nil_append, ← h.anchor]
      exact not_lt.mp hlong
    have hwalk : w.files.walk FileSystem.linkLimit [] (p.parts ++ blanks) ≠ .error .tooManyLinks ∧
        w.files.walk FileSystem.linkLimit [] (p.parts ++ blanks) ≠ .error .nullCharacter :=
      FileSystem.walk_of_settled [] h.names hblanks h.settled hshort
        fun above habove hne => absurd (List.prefix_nil.mp habove) hne
    cases hresult : w.files.walk FileSystem.linkLimit [] (p.parts ++ blanks) with
    | ok found => simp [Except.map]
    | error e => simpa [Except.map, hresult] using hwalk

/-- What stands for a settled path is resolved to it. -/
lemma resolve_of_follow {q : Path} (h : w.Settled p)
    (hfollow : w.files.follow w.depth w.cwd q.toText = .ok p) : w.resolve q = .ok p := by
  obtain ⟨hloop, hnull⟩ := h.entry?_ne
  unfold resolve
  rw [hfollow]
  dsimp only [Except.mapError, bind, Except.bind]
  split
  · rename_i hentry
    exact absurd hentry hloop
  · rename_i hentry
    exact absurd hentry hnull
  · rfl

/-- Following links leaves a settled path as it is. -/
theorem resolve_eq (h : w.Settled p) : w.resolve p = .ok p :=
  h.resolve_of_follow h.follow_eq

end World.Settled

/-! ## What is above a path -/

/-- What is above a settled path is settled as well. -/
lemma World.Settled.of_mem_selfAndAncestors {w : World} {p q : Path} (h : w.Settled p)
    (hq : q ∈ p.selfAndAncestors) : w.Settled q := by
  obtain ⟨ha, hparts⟩ := Path.mem_shortenings hq
  exact ⟨ha.trans h.anchor, fun part hpart => h.names part (hparts.subset hpart),
    h.settled.above hparts⟩

end GradleLint
