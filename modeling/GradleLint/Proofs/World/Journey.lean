import GradleLint.Proofs.World.Routes
import Mathlib.Data.List.Forall2

/-!
# Journeys

Going along the parts of a path with all links followed is a journey (`FileSystem.Goes`).  It has no
bound, keeps nothing and refuses no path for its length; what it notes are the paths by which links
are met.  There is only one journey from a route along given parts (`FileSystem.Goes.unique`), and
from routes to one place it meets as many links (`FileSystem.Goes.length_eq`).  So a link is not met
on the way to what it stands for (`FileSystem.Goes.not_mem_own`), as following it there would take
fewer links than following it takes.

That is why following links goes the whole journey, as long as every link is met by a path that can
be looked at, and no more links are met than can be followed inside one another
(`FileSystem.follow_of_goes`).  No link is met while it is followed, so none is taken for one that
leads back to itself.  And what is kept of a link is where the journey along its target ends, from
whichever route it is met again (`FileSystem.Knows`).
-/

namespace GradleLint
namespace FileSystem

/-- Going on from a route along parts, with the links on the way followed however long the paths to
them are: the paths by which links are met, and the route at the end. -/
inductive Goes (fs : FileSystem) (cwd : Place) : Route → List Text → List Path → Route → Prop
  | done {r : Route} : Goes fs cwd r [] [] r
  | up {r q : Route} {rest : List Text} {met : List Path}
      (h : Goes fs cwd (r.oneUp fs cwd) rest met q) : Goes fs cwd r (['.', '.'] :: rest) met q
  | name {r q : Route} {s : Text} {rest : List Text} {met : List Path} (hs : IsName s)
      (hlink : (r.enter fs cwd s).target? = none) (h : Goes fs cwd (r.enter fs cwd s) rest met q) :
      Goes fs cwd r (s :: rest) met q
  | link {r q : Route} {s target : Text} {rest : List Text} {met : List Path} (hs : IsName s)
      (hlink : (r.enter fs cwd s).target? = some target)
      (h : Goes fs cwd (r.startFrom (writtenSteps target)) (Path.partsOf target ++ rest) met q) :
      Goes fs cwd r (s :: rest) ((r.enter fs cwd s).path :: met) q

namespace Goes

section

variable {fs : FileSystem} {cwd : Place} {r r' q q' : Route} {parts : List Text}
  {met met' : List Path}

/-- Going along some parts and more is going along the first ones and then along the others. -/
lemma split {front back : List Text} (h : Goes fs cwd r (front ++ back) met q) :
    ∃ between met₁ met₂, Goes fs cwd r front met₁ between ∧ Goes fs cwd between back met₂ q ∧
      met = met₁ ++ met₂ := by
  generalize hparts : front ++ back = parts at h
  induction h generalizing front with
  | done =>
    obtain ⟨rfl, rfl⟩ := List.append_eq_nil_iff.mp hparts
    exact ⟨_, [], [], .done, .done, rfl⟩
  | up h ih =>
    obtain ⟨rfl, rfl⟩ | ⟨front, rfl, rfl⟩ := List.append_eq_cons_iff.mp hparts
    · exact ⟨_, [], _, .done, .up h, rfl⟩
    · obtain ⟨between, met₁, met₂, h₁, h₂, rfl⟩ := ih rfl
      exact ⟨between, met₁, met₂, .up h₁, h₂, rfl⟩
  | name hs hlink h ih =>
    obtain ⟨rfl, rfl⟩ | ⟨front, rfl, rfl⟩ := List.append_eq_cons_iff.mp hparts
    · exact ⟨_, [], _, .done, .name hs hlink h, rfl⟩
    · obtain ⟨between, met₁, met₂, h₁, h₂, rfl⟩ := ih rfl
      exact ⟨between, met₁, met₂, .name hs hlink h₁, h₂, rfl⟩
  | link hs hlink h ih =>
    obtain ⟨rfl, rfl⟩ | ⟨front, rfl, rfl⟩ := List.append_eq_cons_iff.mp hparts
    · exact ⟨_, [], _, .done, .link hs hlink h, rfl⟩
    · obtain ⟨between, met₁, met₂, h₁, h₂, rfl⟩ := ih (List.append_assoc _ _ _)
      exact ⟨between, _ :: met₁, met₂, .link hs hlink h₁, h₂, rfl⟩

/-- Where a link is met that can be looked at, the journey goes along its target and then along the
rest. -/
lemma of_link? {s target : Text} {steps : List Text}
    (h : Goes fs cwd r ((s :: steps).filter fun s => s ≠ [] ∧ s ≠ ['.']) met q)
    (hdot : ¬ (s = [] ∨ s = ['.'])) (hs : s ≠ ['.', '.'])
    (hlink : (r.enter fs cwd s).link? fs cwd = some target) :
    IsName s ∧ (r.enter fs cwd s).target? = some target ∧ ∃ between met₁ met₂,
      Goes fs cwd (r.startFrom (writtenSteps target)) (Path.partsOf target) met₁ between ∧
        Goes fs cwd between (steps.filter fun s => s ≠ [] ∧ s ≠ ['.']) met₂ q ∧
          met = (r.enter fs cwd s).path :: (met₁ ++ met₂) := by
  have htarget : (r.enter fs cwd s).target? = some target := by
    rw [Route.link?_eq] at hlink
    split at hlink
    · exact hlink
    · cases hlink
  rw [List.filter_cons_of_pos (by simpa using hdot)] at h
  cases h with
  | up h => exact absurd rfl hs
  | name _ hnone _ => cases hnone.symm.trans htarget
  | link hs hsome h =>
    cases hsome.symm.trans htarget
    obtain ⟨between, met₁, met₂, h₁, h₂, rfl⟩ := split h
    exact ⟨hs, htarget, between, met₁, met₂, h₁, h₂, rfl⟩

end

/-! ## Like journeys -/

/-- Routes so related meet the same links and stay related, however they go on. -/
structure Alike (fs : FileSystem) (cwd : Place) (R : Route → Route → Prop) : Prop where
  enter : ∀ {r r' s}, R r r' → IsName s → R (r.enter fs cwd s) (r'.enter fs cwd s)
  oneUp : ∀ {r r'}, R r r' → R (r.oneUp fs cwd) (r'.oneUp fs cwd)
  startFrom : ∀ {r r'} t, R r r' → R (r.startFrom (writtenSteps t)) (r'.startFrom (writtenSteps t))
  target? : ∀ {r r' s}, R r r' → (r.enter fs cwd s).target? = (r'.enter fs cwd s).target?

/-- Related routes go on to related ones, and the links on the way are met by such. -/
lemma of_alike {fs : FileSystem} {cwd : Place} {R : Route → Route → Prop} (hR : Alike fs cwd R)
    {r r' q q' : Route} {parts : List Text} {met met' : List Path} (hr : R r r')
    (h : Goes fs cwd r parts met q) (h' : Goes fs cwd r' parts met' q') :
    List.Forall₂ (fun p p' => ∃ r r', R r r' ∧ p = r.path ∧ p' = r'.path) met met' ∧ R q q' := by
  induction h generalizing r' met' with
  | done =>
    cases h'
    exact ⟨.nil, hr⟩
  | up h ih =>
    cases h' with
    | up h' => exact ih (hR.oneUp hr) h'
    | name hs _ _ => exact absurd rfl hs.2.2.1
    | link hs _ _ => exact absurd rfl hs.2.2.1
  | name hs hlink h ih =>
    cases h' with
    | up _ => exact absurd rfl hs.2.2.1
    | name _ _ h' => exact ih (hR.enter hr hs) h'
    | link _ hlink' _ => cases hlink.symm.trans ((hR.target? hr).trans hlink')
  | link hs hlink h ih =>
    cases h' with
    | up _ => exact absurd rfl hs.2.2.1
    | name _ hlink' _ => cases hlink.symm.trans ((hR.target? hr).trans hlink')
    | link _ hlink' h' =>
      cases hlink.symm.trans ((hR.target? hr).trans hlink')
      obtain ⟨hmet, hq⟩ := ih (hR.startFrom _ hr) h'
      exact ⟨.cons ⟨_, _, hR.enter hr hs, rfl, rfl⟩ hmet, hq⟩

/-- There is only one journey from a route along given parts. -/
lemma unique {fs : FileSystem} {cwd : Place} {r q q' : Route} {parts : List Text}
    {met met' : List Path} (h : Goes fs cwd r parts met q) (h' : Goes fs cwd r parts met' q') :
    met = met' ∧ q = q' := by
  have hR : Alike fs cwd Eq := by
    constructor
    all_goals intros; subst_vars; rfl
  obtain ⟨hmet, hq⟩ := of_alike hR rfl h h'
  refine ⟨List.forall₂_eq_eq_eq ▸ hmet.imp ?_, hq⟩
  rintro p p' ⟨r, _, rfl, rfl, rfl⟩
  rfl

section

variable {fs : FileSystem} {cwd place place' : Place} {r r' q q' : Route} {parts : List Text}
  {met met' : List Path} {s target : Text}

/-- From routes to one place the same number of links is met. -/
lemma length_eq (hr : r.LeadsTo fs cwd place) (hr' : r'.LeadsTo fs cwd place)
    (h : Goes fs cwd r parts met q) (h' : Goes fs cwd r' parts met' q') :
    met.length = met'.length := by
  have hR : Alike fs cwd
      (fun r r' => ∃ place, r.LeadsTo fs cwd place ∧ r'.LeadsTo fs cwd place) := by
    constructor
    · rintro r r' s ⟨place, hr, hr'⟩ hs
      exact ⟨_, hr.enter hs, hr'.enter hs⟩
    · rintro r r' ⟨place, hr, hr'⟩
      exact ⟨_, hr.oneUp, hr'.oneUp⟩
    · rintro r r' t ⟨place, hr, hr'⟩
      exact ⟨_, hr.startFrom t, hr'.startFrom t⟩
    · rintro r r' s ⟨place, hr, hr'⟩
      refine Option.ext fun target => ?_
      rw [hr.target?_enter, hr'.target?_enter]
  exact (of_alike hR ⟨place, hr, hr'⟩ h h').1.length_eq

lemma exists_leadsTo (hr : r.LeadsTo fs cwd place) (h : Goes fs cwd r parts met q) :
    ∃ place', q.LeadsTo fs cwd place' := by
  induction h generalizing place with
  | done => exact ⟨_, hr⟩
  | up h ih => exact ih hr.oneUp
  | name hs hlink h ih => exact ih (hr.enter hs)
  | link hs hlink h ih => exact ih (hr.startFrom _)

/-! ## Links that are met -/

lemma placeOf_enter (hcwd : ∀ s ∈ cwd, IsName s) (hr : r.LeadsTo fs cwd place) (hs : IsName s) :
    placeOf cwd (r.enter fs cwd s).path = place ++ [s] :=
  (hr.enter hs).placeOf_path hcwd

/-- A journey on which a link is met has more links to follow than what the link stands for. -/
lemma length_lt_of_mem (hcwd : ∀ s ∈ cwd, IsName s) (hr : r.LeadsTo fs cwd place)
    (h : Goes fs cwd r parts met q) (hr' : r'.LeadsTo fs cwd place')
    (hlink : fs.root.find? (place' ++ [s]) = some (.link target))
    (h' : Goes fs cwd (r'.startFrom (writtenSteps target)) (Path.partsOf target)
      met' q')
    (hmem : place' ++ [s] ∈ met.map (placeOf cwd)) : met'.length < met.length := by
  induction h generalizing place with
  | done => cases hmem
  | up h ih => exact ih hr.oneUp hmem
  | name hs _ h ih => exact ih (hr.enter hs) hmem
  | @link r q name target rest met hs hmet h ih =>
    rw [List.map_cons, placeOf_enter hcwd hr hs] at hmem
    obtain hsame | hmem := List.mem_cons.mp hmem
    · obtain ⟨rfl, hname⟩ := List.append_inj' hsame rfl
      obtain rfl := List.singleton_inj.mp hname
      rw [hr.target?_enter, hlink] at hmet
      cases hmet
      obtain ⟨between, met₁, met₂, h₁, -, rfl⟩ := split h
      have hlength := length_eq (hr'.startFrom _) (hr.startFrom _) h' h₁
      rw [List.length_cons, List.length_append]
      omega
    · exact (ih (hr.startFrom _) hmem).trans (Nat.lt_succ_self _)

/-- A link is not met on the way to what it stands for. -/
lemma not_mem_own (hcwd : ∀ s ∈ cwd, IsName s) (hr : r.LeadsTo fs cwd place)
    (hlink : fs.root.find? (place ++ [s]) = some (.link target))
    (h : Goes fs cwd (r.startFrom (writtenSteps target)) (Path.partsOf target)
      met q) : place ++ [s] ∉ met.map (placeOf cwd) :=
  fun hmem => lt_irrefl _ (length_lt_of_mem hcwd (hr.startFrom target) h hr hlink h hmem)

end

end Goes

/-! ## Following links on a journey -/

section

variable {fs : FileSystem} {cwd place : Place} {r q : Route} {busy met met' : List Path}
  {s target : Text}

/-- What is kept for the path to a link is where the journey along its target ends. -/
def Knows (fs : FileSystem) (cwd : Place) (p : Path) (q : Route) : Prop :=
  ∀ {r place s target met q'}, Route.LeadsTo fs cwd r place →
    (r.enter fs cwd s).path = p →
    (r.enter fs cwd s).target? = some target →
    Goes fs cwd (r.startFrom (writtenSteps target)) (Path.partsOf target) met q' →
      q' = q

lemma knows_of_goes (hr : r.LeadsTo fs cwd place)
    (hlink : (r.enter fs cwd s).target? = some target)
    (h : Goes fs cwd (r.startFrom (writtenSteps target)) (Path.partsOf target) met q) :
    Knows fs cwd (r.enter fs cwd s).path q := by
  intro r' place' s' target' met' q' hr' hpath hlink' h'
  obtain ⟨hanchor, hparts⟩ := Path.mk.inj hpath
  replace hparts : r'.way.names ++ [s'] = r.way.names ++ [s] := by
    simpa [Route.enter, Trail.enter, Trail.names] using hparts
  obtain ⟨hnames, hs⟩ := List.append_inj' hparts rfl
  obtain rfl := List.singleton_inj.mp hs
  obtain rfl := hr'.eq_of_path_eq hr (congrArg₂ Path.mk hanchor hnames)
  cases hlink.symm.trans hlink'
  exact (h'.unique h).2

/-- The links still to be met are others than those in `busy`, which are being followed, and they are
met by paths at whose ends one can look. -/
structure Pending (fs : FileSystem) (cwd : Place) (busy met : List Path) : Prop where
  unmet : ∀ p ∈ busy, placeOf cwd p ∉ met.map (placeOf cwd)
  reached : ∀ p ∈ met, fs.Reaches cwd p

namespace Pending

lemma nil (h : ∀ p ∈ met, fs.Reaches cwd p) : Pending fs cwd [] met :=
  ⟨List.forall_mem_nil _, h⟩

lemma mono (h : Pending fs cwd busy met) (hmet : met' ⊆ met) : Pending fs cwd busy met' :=
  ⟨fun p hp hmem => h.unmet p hp (List.map_subset _ hmet hmem), fun p hp => h.reached p (hmet hp)⟩

variable {p : Path}

lemma not_mem (h : Pending fs cwd busy (p :: met)) : p ∉ busy :=
  fun hp => h.unmet p hp List.mem_cons_self

/-- After a link the rest is to be met. -/
lemma rest (h : Pending fs cwd busy (p :: (met ++ met'))) : Pending fs cwd busy met' :=
  h.mono (List.subset_cons_of_subset _ (List.subset_append_right _ _))

/-- While a link that is met is followed, it is pending as well. -/
lemma enter (hcwd : ∀ s ∈ cwd, IsName s) (hr : r.LeadsTo fs cwd place) (hs : IsName s)
    (hlink : (r.enter fs cwd s).target? = some target)
    (hgoes : Goes fs cwd (r.startFrom (writtenSteps target)) (Path.partsOf target) met q)
    (h : Pending fs cwd busy ((r.enter fs cwd s).path :: (met ++ met'))) :
    Pending fs cwd ((r.enter fs cwd s).path :: busy) met := by
  have hmet := h.mono (List.subset_cons_of_subset _ (List.subset_append_left met met'))
  refine ⟨List.forall_mem_cons.mpr ⟨?_, hmet.unmet⟩, hmet.reached⟩
  rw [Goes.placeOf_enter hcwd hr hs]
  exact Goes.not_mem_own hcwd hr ((hr.target?_enter s target).mp hlink) hgoes

end Pending

/-- Where every link on a journey is met by a path that can be looked at, and there are not too many
of them, following links goes that journey. -/
lemma followSteps_of_goes (hcwd : ∀ s ∈ cwd, IsName s) {depth : Nat} {known : List (Path × Route)}
    {steps : List Text} (hr : r.LeadsTo fs cwd place)
    (h : Goes fs cwd r (steps.filter fun s => s ≠ [] ∧ s ≠ ['.']) met q)
    (hmet : Pending fs cwd busy met) (hknown : ∀ l ∈ known, Knows fs cwd l.1 l.2)
    (hdepth : met.length ≤ depth) :
    ∃ known', followSteps fs cwd depth busy known r steps = .ok (.free q known') ∧
      ∀ l ∈ known', Knows fs cwd l.1 l.2 := by
  fun_induction followSteps fs cwd depth busy known r steps generalizing met q place
  case case1 =>
    cases h
    exact ⟨_, rfl, hknown⟩
  case case2 hdot ih =>
    rw [List.filter_cons_of_neg (by simpa [or_iff_not_imp_left] using hdot)] at h
    exact ih hr h hmet hknown hdepth
  case case3 r rest hdot ih =>
    rw [List.filter_cons_of_pos (by simp)] at h
    cases h with
    | up h => exact ih hr.oneUp h hmet hknown hdepth
    | name hs _ _ => exact absurd rfl hs.2.2.1
    | link hs _ _ => exact absurd rfl hs.2.2.1
  case case4 r s rest hdot hdots hnull =>
    rw [List.filter_cons_of_pos (by simpa using hdot)] at h
    have hnull : '\x00' ∈ s := by simpa using hnull
    cases h with
    | up h => exact absurd rfl hdots
    | name hs _ _ => exact absurd hnull hs.2.2.2.2
    | link hs _ _ => exact absurd hnull hs.2.2.2.2
  case case5 r s rest hdot hdots _ next hnone ih =>
    rw [List.filter_cons_of_pos (by simpa using hdot)] at h
    cases h with
    | up h => exact absurd rfl hdots
    | name hs _ h => exact ih (hr.enter hs) h hmet hknown hdepth
    | link _ hlink _ =>
      rw [Route.link?_eq, if_pos (hmet.reached _ List.mem_cons_self), hlink] at hnone
      cases hnone
  case case6 r s rest hdot hdots _ next target hsome here q' hlookup ih =>
    obtain ⟨hs, hlink, between, met₁, met₂, h₁, h₂, rfl⟩ := h.of_link? hdot hdots hsome
    obtain ⟨before, after, hmem, -⟩ := List.lookup_eq_some_iff.mp hlookup
    have hq : between = q' :=
      hknown (here, q') (hmem ▸ List.mem_append_right before List.mem_cons_self) hr rfl hlink h₁
    obtain rfl := hq
    obtain ⟨place', hplace'⟩ := Goes.exists_leadsTo (hr.startFrom target) h₁
    rw [List.length_cons, List.length_append] at hdepth
    exact ih hplace' h₂ hmet.rest hknown (by omega)
  case case7 r s rest hdot hdots _ next target hsome here _ hmem =>
    obtain ⟨-, -, between, met₁, met₂, -, -, rfl⟩ := h.of_link? hdot hdots hsome
    exact absurd hmem hmet.not_mem
  case case8 r s rest hdot hdots _ next target hsome here _ _ =>
    obtain ⟨-, -, between, met₁, met₂, -, -, rfl⟩ := h.of_link? hdot hdots hsome
    exact absurd hdepth (Nat.not_succ_le_zero _)
  case case9 r s rest hdot hdots _ next target hsome here _ _ depth steps q' known' hinner ih₁ ih =>
    obtain ⟨hs, hlink, between, met₁, met₂, h₁, h₂, rfl⟩ := h.of_link? hdot hdots hsome
    rw [List.length_cons, List.length_append] at hdepth
    obtain ⟨known'', hfollow, hknown'⟩ := ih₁ (hr.startFrom target) h₁
      (hmet.enter hcwd hr hs hlink h₁) hknown (by omega)
    cases hinner.symm.trans hfollow
    obtain ⟨place', hplace'⟩ := Goes.exists_leadsTo (hr.startFrom target) h₁
    exact ih hplace' h₂ hmet.rest
      (List.forall_mem_cons.mpr ⟨knows_of_goes hr hlink h₁, hknown'⟩) (by omega)
  case case10 r s rest hdot hdots _ next target hsome here _ _ depth steps q' hinner ih₁ =>
    obtain ⟨hs, hlink, between, met₁, met₂, h₁, h₂, rfl⟩ := h.of_link? hdot hdots hsome
    rw [List.length_cons, List.length_append] at hdepth
    obtain ⟨known'', hfollow, -⟩ := ih₁ (hr.startFrom target) h₁
      (hmet.enter hcwd hr hs hlink h₁) hknown (by omega)
    cases hinner.symm.trans hfollow
  case case11 r s rest hdot hdots _ next target hsome here _ _ depth steps e hinner ih₁ =>
    obtain ⟨hs, hlink, between, met₁, met₂, h₁, h₂, rfl⟩ := h.of_link? hdot hdots hsome
    rw [List.length_cons, List.length_append] at hdepth
    obtain ⟨known'', hfollow, -⟩ := ih₁ (hr.startFrom target) h₁
      (hmet.enter hcwd hr hs hlink h₁) hknown (by omega)
    cases hinner.symm.trans hfollow

/-- Following the links of a text comes to where the journey along its parts ends, where every link
is met by a path that can be looked at and there are not too many of them. -/
theorem follow_of_goes (hcwd : ∀ s ∈ cwd, IsName s) {depth : Nat} {t : Text}
    (h : Goes fs cwd (.ofText t) (Path.partsOf t) met q) (hreach : ∀ p ∈ met, fs.Reaches cwd p)
    (hdepth : met.length ≤ depth) : fs.follow depth cwd t = fs.absolute cwd q.path := by
  obtain ⟨known, hfollow, -⟩ :=
    followSteps_of_goes hcwd (.ofText fs cwd t) h (.nil hreach) (List.forall_mem_nil _) hdepth
  have hfollowed : fs.followed depth cwd t = .ok (.free q known) := hfollow
  rw [follow_eq_bind, hfollowed]
  rfl

end

end FileSystem
end GradleLint
