import GradleLint.Proofs.World.Resolved
import Mathlib.Data.List.DropRight

/-!
# Places that routes lead to

A route from the root leads to the place that its names are.  A relative one goes up from the
working directory some number of times, and then down by names (`Route.LeadsTo`); it may go up more
often than there are directories above, and stays at the root.  At the end of a route stands what
stands at the place that it leads to (`Route.LeadsTo.target?_enter`), so routes to one place meet
the same links.  The route is determined by the path that it is written as
(`Route.LeadsTo.eq_of_path_eq`).
-/

namespace GradleLint

/-! ## The links of a tree -/

namespace FileTree

mutual

/-- The links of a tree, each by its place and its target. -/
def links : FileTree → List (Place × Text)
  | file _ _ => []
  | link target => [([], target)]
  | directory children => linksIn children

/-- The links of trees that stand side by side. -/
def linksIn : List (Text × FileTree) → List (Place × Text)
  | [] => []
  | (name, t) :: rest => (links t).map (fun l => (name :: l.1, l.2)) ++ linksIn rest

end

lemma mem_linksIn {children : List (Text × FileTree)} {name : Text} {child : FileTree}
    {l : Place × Text} (h : children.lookup name = some child) (hl : l ∈ child.links) :
    (name :: l.1, l.2) ∈ linksIn children := by
  obtain ⟨before, after, rfl, -⟩ := List.lookup_eq_some_iff.mp h
  clear h
  induction before with
  | nil => exact List.mem_append_left _ (List.mem_map_of_mem (f := fun l => (name :: l.1, l.2)) hl)
  | cons first before ih => exact List.mem_append_right _ ih

/-- A link that stands at a place is one of the links. -/
lemma mem_links {t : FileTree} {place : Place} {target : Text}
    (h : t.find? place = some (.link target)) : (place, target) ∈ t.links := by
  induction place generalizing t with
  | nil =>
    obtain rfl := Option.some.inj h
    exact List.mem_singleton_self _
  | cons name place ih =>
    cases t with
    | file data executable => cases h
    | link target => cases h
    | directory children =>
      cases hchild : children.lookup name with
      | none => simp [find?, child?, hchild] at h
      | some child =>
        simp only [find?, child?, hchild] at h
        exact mem_linksIn hchild (ih h)

end FileTree

namespace FileSystem

variable {fs : FileSystem} {cwd place : Place} {r r' : Route} {s : Text}

/-! ## Going up from the working directory -/

/-- Going up along the way to a place leads to what is above the place. -/
lemma drop_trailTo (fs : FileSystem) (place : Place) (n : Nat) :
    (fs.trailTo place).drop n = fs.trailTo (place.rdrop n) := by
  induction place using List.reverseRecOn generalizing n with
  | nil =>
    rw [List.rdrop_nil]
    exact List.drop_nil
  | append_singleton place name ih =>
    cases n with
    | zero => simp
    | succ n =>
      rw [trailTo_concat, List.rdrop_concat_succ, ← ih n]
      rfl

/-- The way that `n` steps up from the working directory make. -/
def upward (fs : FileSystem) (cwd : Place) : Nat → Trail
  | 0 => []
  | n + 1 => (['.', '.'], Trail.tree fs.root ((fs.trailTo cwd).drop (n + 1))) :: upward fs cwd n

lemma length_upward (cwd : Place) (n : Nat) : (upward fs cwd n).length = n := by
  induction n with
  | zero => rfl
  | succ n ih => rw [upward, List.length_cons, ih]

lemma names_upward (cwd : Place) (n : Nat) :
    (upward fs cwd n).names = List.replicate n ['.', '.'] := by
  induction n with
  | zero => rfl
  | succ n ih =>
    rw [List.replicate_succ', ← ih]
    exact List.reverse_cons

lemma tree_upward (n : Nat) :
    (upward fs cwd n).tree ((fs.trailTo cwd).tree fs.root) =
      (fs.root.find? (cwd.rdrop n)).getD (.directory []) := by
  rw [← tree_trailTo, ← drop_trailTo]
  cases n <;> rfl

lemma oneUp_upward (cwd : Place) (n : Nat) :
    Route.oneUp fs cwd ⟨.relative, upward fs cwd n⟩ = ⟨.relative, upward fs cwd (n + 1)⟩ := by
  cases n with
  | zero => rfl
  | succ n =>
    -- The last step gone is one up, so it is not taken back.
    show (⟨.relative, (['.', '.'], _) :: upward fs cwd (n + 1)⟩ : Route) = _
    rw [length_upward]
    rfl

lemma rdrop_succ (place : Place) (n : Nat) : place.rdrop (n + 1) = (place.rdrop n).dropLast := by
  rw [List.rdrop_eq_reverse_drop_reverse, List.rdrop_eq_reverse_drop_reverse,
    List.dropLast_reverse, List.tail_drop]

lemma foldl_stepBack_dots (n : Nat) (names : Place) :
    (List.replicate n ['.', '.']).foldl stepBack names = names.drop n := by
  induction n generalizing names with
  | zero => rfl
  | succ n ih =>
    rw [List.replicate_succ, List.foldl_cons, ih]
    cases names <;> simp [stepBack]

/-- The steps up at the front of a path are told apart from the names behind them. -/
lemma eq_of_dots_append {n n' : Nat} {names names' : Place} (h : ∀ s ∈ names, s ≠ ['.', '.'])
    (h' : ∀ s ∈ names', s ≠ ['.', '.'])
    (heq : List.replicate n ['.', '.'] ++ names = List.replicate n' ['.', '.'] ++ names') :
    n = n' ∧ names = names' := by
  induction n generalizing n' with
  | zero =>
    cases n' with
    | zero => exact ⟨rfl, heq⟩
    | succ n' =>
      obtain rfl : names = ['.', '.'] :: (List.replicate n' ['.', '.'] ++ names') := heq
      exact absurd rfl (h _ List.mem_cons_self)
  | succ n ih =>
    cases n' with
    | zero =>
      obtain rfl : ['.', '.'] :: (List.replicate n ['.', '.'] ++ names) = names' := heq
      exact absurd rfl (h' _ List.mem_cons_self)
    | succ n' =>
      obtain ⟨rfl, rfl⟩ := ih (List.cons.inj heq).2
      exact ⟨rfl, rfl⟩

/-! ## Where a route starts -/

/-- The place from which a text is gone: the root if a slash is in front. -/
def startPlace (place : Place) (t : Text) : Place :=
  if Path.anchorOf t = .relative then place else []

lemma forall_mem_startPlace {P : Text → Prop} (h : ∀ s ∈ place, P s) (t : Text) :
    ∀ s ∈ startPlace place t, P s := by
  unfold startPlace
  split
  · exact h
  · exact List.forall_mem_nil _

lemma startOf_trailTo (fs : FileSystem) (place : Place) (t : Text) :
    startOf (fs.trailTo place) t = fs.trailTo (startPlace place t) := by
  unfold startOf startPlace
  split <;> rfl

lemma anchorOf_slash (t : Text) : Path.anchorOf ('/' :: t) ≠ .relative := by
  unfold Path.anchorOf
  split <;> simp_all

lemma Route.startFrom_writtenSteps (r : Route) (t : Text) :
    r.startFrom (writtenSteps t) = if Path.anchorOf t = .relative then r else ⟨.root, []⟩ := by
  cases t with
  | nil => rfl
  | cons c t =>
    obtain ⟨first, rest, hfields⟩ := List.exists_cons_of_ne_nil (Text.fields_ne_nil '/' t)
    by_cases hc : c = '/'
    · subst hc
      have hsteps : writtenSteps ('/' :: t) = [] :: first :: rest := by
        rw [← hfields]
        rfl
      rw [hsteps, if_neg (anchorOf_slash t)]
      rfl
    · have hsteps : writtenSteps (c :: t) = (c :: first) :: rest := by
        simp [writtenSteps, Text.fields, hc, hfields, Text.consFirst]
      have hanchor : Path.anchorOf (c :: t) = .relative := by
        simp [Path.anchorOf, hc]
      rw [hsteps, if_pos hanchor]
      rfl

/-- Where following the links of a text starts. -/
def Route.ofText (t : Text) : Route := Route.startFrom ⟨.relative, []⟩ (writtenSteps t)

lemma Route.ofText_congr {t t' : Text} (h : Path.anchorOf t = Path.anchorOf t') :
    Route.ofText t = Route.ofText t' := by
  rw [ofText, ofText, startFrom_writtenSteps, startFrom_writtenSteps, h]

/-- A step up takes back a name that has been gone. -/
lemma Route.oneUp_of_name {t : FileTree} {rest : Trail} (cwd : Place)
    (hway : r.way = (s, t) :: rest) (hs : IsName s) :
    r.oneUp fs cwd = { r with way := rest } := by
  obtain ⟨a, way⟩ := r
  obtain rfl : way = (s, t) :: rest := hway
  exact if_neg hs.2.2.1

/-! ## Where a route leads -/

/-- The target of the link at the end of a route, however long the path. -/
def Route.target? (r : Route) : Option Text :=
  match r.way with
  | (_, .link target) :: _ => some target
  | _ => none

lemma Route.link?_eq (cwd : Place) (r : Route) :
    r.link? fs cwd = if fs.Reaches cwd r.path then r.target? else none := by
  obtain ⟨a, way⟩ := r
  cases way with
  | nil => exact (ite_self _).symm
  | cons step way =>
    obtain ⟨s, t⟩ := step
    cases t with
    | link target => rfl
    | file data executable => exact (ite_self _).symm
    | directory children => exact (ite_self _).symm

/-- A route leads to a place by names alone: down from the root, or up from the working directory
some number of times and then down. -/
inductive Route.LeadsTo (fs : FileSystem) (cwd : Place) : Route → Place → Prop
  | down {names : Place} (h : ∀ s ∈ names, IsName s) :
      LeadsTo fs cwd ⟨.root, fs.trailTo names⟩ names
  | around (n : Nat) {names : Place} (h : ∀ s ∈ names, IsName s) :
      LeadsTo fs cwd ⟨.relative, names.foldl (Trail.enter ((fs.trailTo cwd).tree fs.root))
        (upward fs cwd n)⟩ (cwd.rdrop n ++ names)

namespace Route.LeadsTo

/-- Where nothing is gone yet is the working directory. -/
lemma here (fs : FileSystem) (cwd : Place) : LeadsTo fs cwd ⟨.relative, []⟩ cwd := by
  have h : LeadsTo fs cwd _ _ := around 0 (List.forall_mem_nil IsName)
  rwa [List.rdrop_zero, List.append_nil] at h

/-- A name leads on to what has that name. -/
lemma enter (h : LeadsTo fs cwd r place) (hs : IsName s) :
    LeadsTo fs cwd (r.enter fs cwd s) (place ++ [s]) := by
  have hname := List.forall_mem_singleton.mpr hs
  cases h with
  | down h =>
    rw [enter_trailTo]
    exact .down (List.forall_mem_append.mpr ⟨h, hname⟩)
  | around n h =>
    rw [List.append_assoc]
    have hon : LeadsTo fs cwd _ _ := around n (List.forall_mem_append.mpr ⟨h, hname⟩)
    rwa [List.foldl_concat] at hon

/-- One step up leads to what is above, or stays at the root. -/
lemma oneUp (h : LeadsTo fs cwd r place) :
    LeadsTo fs cwd (r.oneUp fs cwd) place.dropLast := by
  cases h with
  | down h =>
    cases place using List.reverseRecOn with
    | nil => exact down h
    | append_singleton names s =>
      obtain ⟨hnames, hs⟩ := List.forall_mem_append.mp h
      rw [List.forall_mem_singleton] at hs
      rw [List.dropLast_concat, Route.oneUp_of_name _ (trailTo_concat fs names s) hs]
      exact .down hnames
  | @around n names h =>
    cases names using List.reverseRecOn with
    | nil =>
      rw [List.append_nil, ← rdrop_succ, ← List.append_nil (cwd.rdrop (n + 1))]
      show LeadsTo fs cwd (Route.oneUp fs cwd ⟨.relative, upward fs _ n⟩) _
      rw [oneUp_upward]
      exact .around (n + 1) h
    | append_singleton names s =>
      obtain ⟨hnames, hs⟩ := List.forall_mem_append.mp h
      rw [List.forall_mem_singleton] at hs
      rw [← List.append_assoc, List.dropLast_concat,
        Route.oneUp_of_name _ (List.foldl_concat _ _ _ _) hs]
      exact .around n hnames

/-- Steps start where they are written to start. -/
lemma startFrom (h : LeadsTo fs cwd r place) (t : Text) :
    LeadsTo fs cwd (r.startFrom (writtenSteps t)) (startPlace place t) := by
  rw [startFrom_writtenSteps, startPlace]
  split
  · exact h
  · exact .down (List.forall_mem_nil _)

lemma ofText (fs : FileSystem) (cwd : Place) (t : Text) :
    LeadsTo fs cwd (Route.ofText t) (startPlace cwd t) :=
  (here fs cwd).startFrom t

/-! ## What stands there -/

/-- At the end of a route stands what stands at its place. -/
lemma tree (h : LeadsTo fs cwd r place) :
    r.way.tree (if r.anchor = .relative then (fs.trailTo cwd).tree fs.root else fs.root) =
      (fs.root.find? place).getD (.directory []) := by
  cases h with
  | down h => exact tree_trailTo fs place
  | around n h => exact tree_foldl_enter (tree_upward n) _

/-- A name leads on to a link exactly if a link of that name stands at the place. -/
lemma target?_enter (h : LeadsTo fs cwd r place) (s target : Text) :
    (r.enter fs cwd s).target? = some target ↔
      fs.root.find? (place ++ [s]) = some (.link target) := by
  have htree := h.tree
  rw [FileTree.find?_concat]
  unfold Route.enter Trail.enter Route.target?
  dsimp only
  rw [htree]
  cases fs.root.find? place with
  | none => simp [FileTree.child?]
  | some t =>
    show _ ↔ t.child? s = _
    rw [Option.getD_some]
    cases t.child? s with
    | none => simp
    | some child => cases child <;> simp

/-! ## How it is written -/

lemma parts_down {names : Place} : (Route.path ⟨.root, fs.trailTo names⟩).parts = names :=
  names_trailTo fs names

lemma parts_around {top : FileTree} {cwd : Place} {n : Nat} {names : Place} :
    (Route.path ⟨.relative, names.foldl (Trail.enter top) (upward fs cwd n)⟩).parts =
      List.replicate n ['.', '.'] ++ names := by
  rw [← names_upward]
  exact names_foldl_enter _ _ _

/-- The path of a route names the place that it leads to. -/
lemma placeOf_path (hcwd : ∀ s ∈ cwd, IsName s) (h : LeadsTo fs cwd r place) :
    placeOf cwd r.path = place := by
  cases h with
  | down h =>
    show collapse (Route.path ⟨.root, fs.trailTo place⟩).parts = place
    rw [parts_down, collapse_of_names h]
  | @around n names h =>
    show collapse (cwd ++ (Route.path ⟨.relative, names.foldl _ (upward fs _ n)⟩).parts) = _
    rw [parts_around, collapse, List.foldl_append, List.foldl_append,
      foldl_stepBack_of_names hcwd, foldl_stepBack_of_names h, foldl_stepBack_dots,
      List.append_nil, List.reverse_append, List.reverse_reverse,
      List.rdrop_eq_reverse_drop_reverse]

lemma names (hcwd : ∀ s ∈ cwd, IsName s) (h : LeadsTo fs cwd r place) : ∀ s ∈ place, IsName s := by
  cases h with
  | down h => exact h
  | around n h =>
    exact List.forall_mem_append.mpr ⟨fun s hs => hcwd s (List.mem_of_mem_take hs), h⟩

/-- The absolute path that a route comes to names the place that it leads to. -/
lemma absolute (hcwd : ∀ s ∈ cwd, IsName s) (h : LeadsTo fs cwd r place)
    (hthere : r.path.isAbsolute ∨ fs.hasDirectory cwd) :
    fs.absolute cwd r.path = .ok ⟨.root, place⟩ := by
  refine absolute_eq_ok_iff.mpr ⟨hthere, ?_⟩
  rw [h.placeOf_path hcwd]
  cases h <;> rfl

/-- A route is known by the path that it is written as. -/
lemma eq_of_path_eq {place' : Place} (h : LeadsTo fs cwd r place) (h' : LeadsTo fs cwd r' place')
    (hpath : r.path = r'.path) : r = r' := by
  have hparts := congrArg Path.parts hpath
  cases h with
  | down h =>
    cases h' with
    | down h' =>
      rw [parts_down, parts_down] at hparts
      rw [hparts]
    | around n' h' => cases congrArg Path.anchor hpath
  | @around n names h =>
    cases h' with
    | down h' => cases congrArg Path.anchor hpath
    | @around n' names' h' =>
      rw [parts_around, parts_around] at hparts
      obtain ⟨rfl, rfl⟩ := eq_of_dots_append (fun s hs => (h s hs).2.2.1)
        (fun s hs => (h' s hs).2.2.1) hparts
      rfl

end Route.LeadsTo

end FileSystem
end GradleLint
