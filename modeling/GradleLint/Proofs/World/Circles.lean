import GradleLint.Proofs.World.Routes

/-!
# Circles of links

Following the links of a path may meet one that leads back to itself.  Where it does not
(`World.CircleFree`), the path that comes of it is settled, so that following links again changes
nothing (`World.CircleFree.resolve_resolve`).

A link that leads in a circle is left as it stands together with the steps behind it, and the path
that they make is not followed.  It may hold other links, and with slashes in front of those steps
it may even lead somewhere else.
-/

namespace GradleLint
namespace FileSystem

variable {fs : FileSystem} {cwd : Place}

/-! ## Routes without links -/

/-- A route from the root on whose way no link can be followed. -/
def Route.Settled (fs : FileSystem) (r : Route) : Prop :=
  ∃ place : Place, r = ⟨.root, fs.trailTo place⟩ ∧ (∀ s ∈ place, IsName s) ∧ fs.Settled place

namespace Route

variable {r : Route}

lemma settled_top (fs : FileSystem) : Settled fs ⟨.root, []⟩ := by
  refine ⟨[], rfl, List.forall_mem_nil _, fun above habove => ?_⟩
  rw [List.prefix_nil.mp habove]
  rfl

lemma Settled.enter {name : Text} (h : r.Settled fs) (hname : IsName name)
    (hlink : (r.enter fs cwd name).link? fs cwd = none) : (r.enter fs cwd name).Settled fs := by
  obtain ⟨place, rfl, hnames, hsettled⟩ := h
  rw [enter_trailTo] at hlink ⊢
  rw [link?_root] at hlink
  refine ⟨place ++ [name], rfl, ?_, fun above habove => ?_⟩
  · exact List.forall_mem_append.mpr ⟨hnames, List.forall_mem_singleton.mpr hname⟩
  · obtain rfl | habove := List.prefix_concat_iff.mp habove
    · exact hlink
    · exact hsettled above habove

lemma Settled.oneUp (h : r.Settled fs) : (r.oneUp fs cwd).Settled fs := by
  obtain ⟨place, rfl, hnames, hsettled⟩ := h
  cases place using List.reverseRecOn with
  | nil => exact settled_top fs
  | append_singleton place name =>
    obtain ⟨hnames, hname⟩ := List.forall_mem_append.mp hnames
    rw [Route.oneUp_of_name cwd (trailTo_concat fs place name) (List.forall_mem_singleton.mp hname)]
    exact ⟨place, rfl, hnames, hsettled.above (List.prefix_append _ _)⟩

lemma Settled.startFrom (h : r.Settled fs) (steps : List Text) : (r.startFrom steps).Settled fs := by
  unfold Route.startFrom
  split
  · exact settled_top fs
  · exact h

end Route

/-- Where following links ends freely, no link is left on the way gone, nor on those that known links
stand for. -/
def Followed.Settled (fs : FileSystem) : Followed → Prop
  | .free r known => r.Settled fs ∧ ∀ link ∈ known, link.2.Settled fs
  | .looped _ => True

/-- Following links on from a route without links leaves none on the way. -/
lemma followSteps_settled {depth : Nat} {busy : List Path} {known : List (Path × Route)}
    {r : Route} {steps : List Text} (h : (Followed.free r known).Settled fs)
    (hsteps : Place.SlashFree steps) {f : Followed}
    (hf : followSteps fs cwd depth busy known r steps = .ok f) : f.Settled fs := by
  fun_induction followSteps generalizing f
  case case1 =>
    obtain rfl := Except.ok.inj hf
    exact h
  case case2 ih => exact ih h (List.forall_mem_cons.mp hsteps).2 hf
  case case3 ih => exact ih ⟨h.1.oneUp, h.2⟩ (List.forall_mem_cons.mp hsteps).2 hf
  case case4 => cases hf
  case case5 s rest hdot hdots hnull next hlink ih =>
    obtain ⟨hslash, hrest⟩ := List.forall_mem_cons.mp hsteps
    have hname : IsName s :=
      ⟨fun hs => hdot (.inl hs), fun hs => hdot (.inr hs), hdots, hslash, by simpa using hnull⟩
    exact ih ⟨h.1.enter hname hlink, h.2⟩ hrest hf
  case case6 q hlookup ih =>
    obtain ⟨before, after, hknown, -⟩ := List.lookup_eq_some_iff.mp hlookup
    have hq : q.Settled fs := h.2 _ (hknown ▸ List.mem_append_right before List.mem_cons_self)
    exact ih ⟨hq, h.2⟩ (List.forall_mem_cons.mp hsteps).2 hf
  case case7 =>
    obtain rfl := Except.ok.inj hf
    trivial
  case case8 => cases hf
  case case9 _ _ _ _ _ _ _ _ hinner ihinner ih =>
    have hq := ihinner ⟨h.1.startFrom _, h.2⟩ (writtenSteps_slashFree _) hinner
    exact ih ⟨hq.1, List.forall_mem_cons.mpr hq⟩ (List.forall_mem_cons.mp hsteps).2 hf
  case case10 =>
    obtain rfl := Except.ok.inj hf
    trivial
  case case11 => cases hf

/-! ## Circles above a path -/

/-- Where no circle is met along all steps, none is met along the first ones. -/
lemma exists_free_of_append {depth : Nat} {busy : List Path} {known : List (Path × Route)}
    {r : Route} {steps more : List Text} {q : Route} {known' : List (Path × Route)}
    (h : followSteps fs cwd depth busy known r (steps ++ more) = .ok (.free q known')) :
    ∃ q known', followSteps fs cwd depth busy known r steps = .ok (.free q known') := by
  fun_induction followSteps fs cwd depth busy known r steps
  case case1 => exact ⟨_, _, rfl⟩
  case case2 hdot ih =>
    rw [List.cons_append, followSteps, if_pos hdot] at h
    exact ih h
  case case3 hdot ih =>
    rw [List.cons_append, followSteps, if_neg hdot, if_pos rfl] at h
    exact ih h
  case case4 hdot hdots hnull =>
    rw [List.cons_append, followSteps, if_neg hdot, if_neg hdots, if_pos hnull] at h
    cases h
  case case5 hdot hdots hnull next hlink ih =>
    rw [List.cons_append, followSteps, if_neg hdot, if_neg hdots, if_neg hnull] at h
    simp only [next, hlink] at h
    exact ih h
  case case6 hdot hdots hnull next target hlink here q hknown ih =>
    rw [List.cons_append, followSteps, if_neg hdot, if_neg hdots, if_neg hnull] at h
    simp only [next, here, hlink, hknown] at h
    exact ih h
  case case7 hdot hdots hnull next target hlink here hknown hbusy =>
    rw [List.cons_append, followSteps, if_neg hdot, if_neg hdots, if_neg hnull] at h
    simp only [next, here, hlink, hknown, if_pos hbusy] at h
    cases h
  case case8 hdot hdots hnull next target hlink here hknown hbusy =>
    rw [List.cons_append, followSteps, if_neg hdot, if_neg hdots, if_neg hnull] at h
    simp only [next, here, hlink, hknown, if_neg hbusy] at h
    cases h
  case case9 hdot hdots hnull next target hlink here hknown hbusy depth steps q known hinner _ ih =>
    rw [List.cons_append, followSteps, if_neg hdot, if_neg hdots, if_neg hnull] at h
    simp only [next, here, hlink, hknown, if_neg hbusy] at h
    rw [hinner] at h
    exact ih h
  case case10 hdot hdots hnull next target hlink here hknown hbusy depth steps q hinner _ =>
    rw [List.cons_append, followSteps, if_neg hdot, if_neg hdots, if_neg hnull] at h
    simp only [next, here, hlink, hknown, if_neg hbusy] at h
    rw [hinner] at h
    cases h
  case case11 hdot hdots hnull next target hlink here hknown hbusy depth steps e hinner _ =>
    rw [List.cons_append, followSteps, if_neg hdot, if_neg hdots, if_neg hnull] at h
    simp only [next, here, hlink, hknown, if_neg hbusy] at h
    rw [hinner] at h
    cases h

/-! ## Where a path from the root starts -/

/-- The links of a path from the root are followed from the root. -/
lemma startFrom_toText {p : Path} (hp : p.isAbsolute) (r : Route) :
    r.startFrom (writtenSteps p.toText) = ⟨.root, []⟩ := by
  obtain ⟨t, ht⟩ : ∃ t, p.toText = '/' :: t := by
    obtain ⟨a, parts⟩ := p
    cases a with
    | relative => cases hp
    | root => exact ⟨_, rfl⟩
    | doubleRoot => exact ⟨_, rfl⟩
  rw [ht, Route.startFrom_writtenSteps, if_neg (anchorOf_slash t)]

end FileSystem

/-! ## Paths without circles -/

namespace World

variable {w : World} {p q : Path}

/-- No link on the way of a path leads back to itself. -/
def CircleFree (w : World) (p : Path) : Prop :=
  ∃ r known, w.files.followed w.depth w.cwd p.toText = .ok (.free r known)

lemma Settled.circleFree (h : w.Settled p) : w.CircleFree p := ⟨_, _, h.followed_eq⟩

/-- What is above a path without circles has none on its way either. -/
theorem CircleFree.of_mem_selfAndAncestors (h : w.CircleFree p) (hp : p.isAbsolute)
    (hslash : Place.SlashFree p.parts) (hq : q ∈ p.selfAndAncestors) : w.CircleFree q := by
  obtain ⟨r, known, h⟩ := h
  obtain ⟨hanchor, more, hmore⟩ := Path.mem_shortenings hq
  have hq : q.isAbsolute := by rwa [Path.isAbsolute, hanchor]
  have hqslash : Place.SlashFree q.parts := fun part hpart =>
    hslash part (hmore ▸ List.mem_append_left _ hpart)
  unfold CircleFree FileSystem.followed at *
  rw [FileSystem.startFrom_toText hp, FileSystem.writtenSteps_toText hp hslash] at h
  rw [FileSystem.startFrom_toText hq, FileSystem.writtenSteps_toText hq hqslash]
  by_cases hnil : q.parts = []
  · -- At the root there are only empty steps.
    rw [if_pos hnil]
    refine ⟨⟨.root, []⟩, [], ?_⟩
    cases q.anchor <;> simp [Path.Anchor.toText, FileSystem.followSteps]
  · have hne : p.parts ≠ [] := by
      rw [← hmore]
      exact List.append_ne_nil_of_left_ne_nil hnil _
    rw [if_neg hne, ← hanchor, ← hmore, ← List.append_assoc] at h
    rw [if_neg hnil]
    exact FileSystem.exists_free_of_append h

/-- Without circles a path from the root stands for a settled one. -/
theorem CircleFree.settled (h : w.CircleFree p) (hp : p.isAbsolute) (hq : w.resolve p = .ok q) :
    w.Settled q := by
  obtain ⟨r, known, h⟩ := h
  have hfollow := follow_of_resolve hq
  rw [FileSystem.follow_eq_bind, h] at hfollow
  rw [FileSystem.followed, FileSystem.startFrom_toText hp] at h
  obtain ⟨⟨place, rfl, hnames, hsettled⟩, -⟩ := FileSystem.followSteps_settled
    ⟨FileSystem.Route.settled_top w.files, List.forall_mem_nil _⟩
    (FileSystem.writtenSteps_slashFree _) h
  obtain rfl := Except.ok.inj ((FileSystem.absolute_trailTo hnames).symm.trans hfollow)
  exact ⟨rfl, hnames, hsettled⟩

/-- Without circles, following links twice is the same as following them once. -/
theorem CircleFree.resolve_resolve (h : w.CircleFree p) (hp : p.isAbsolute)
    (hq : w.resolve p = .ok q) : w.resolve q = .ok q :=
  (h.settled hp hq).resolve_eq

end World
end GradleLint
