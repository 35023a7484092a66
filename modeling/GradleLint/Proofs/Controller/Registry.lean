import GradleLint.Controller.Step
import Mathlib.Tactic.Common

/-!
# The registry

The registry is a list of pairs; everything that follows reads it through `Controller.current?`,
the partial map from identities to processes that it stands for.  `KeysDistinct` says that the
list is such a map: no identity has two entries, so that `mem_registry_iff` holds.

Displacing the process of an identity and shutting down are removals of keys
(`displace_controller`, `shutdown_controller`).  All that a displacement shows to the outside is
about the process it removes (`mem_displace_events`).
-/

namespace GradleLint
namespace Controller

/-- No identity has two entries in the registry. -/
def KeysDistinct (s : Controller) : Prop := (s.registry.map (·.1)).Nodup

/-! ## Look-ups -/

lemma lookup_filter_ne (l : List (Text × Nat)) (identity other : Text) :
    (l.filter (·.1 ≠ identity)).lookup other =
      if other = identity then none else l.lookup other := by
  induction l with
  | nil => simp
  | cons e l ih =>
    obtain ⟨key, p⟩ := e
    by_cases hk : key = identity
    · rw [List.filter_cons_of_neg (by simp [hk]), ih]
      by_cases ho : other = identity
      · simp [ho]
      · have hne : (other == key) = false := by simp [hk, ho]
        simp [ho, List.lookup_cons, hne]
    · rw [List.filter_cons_of_pos (by simp [hk]), List.lookup_cons, List.lookup_cons, ih]
      by_cases ho : other = identity
      · have hne : (other == key) = false := by simpa [ho] using Ne.symm hk
        simp only [hne, if_pos ho]
      · simp [ho]

@[simp] lemma deregister_requests (s : Controller) (identity : Text) :
    (s.deregister identity).requests = s.requests := rfl

@[simp] lemma deregister_processes (s : Controller) (identity : Text) :
    (s.deregister identity).processes = s.processes := rfl

@[simp] lemma current?_deregister (s : Controller) (identity other : Text) :
    (s.deregister identity).current? other =
      if other = identity then none else s.current? other :=
  lookup_filter_ne s.registry identity other

/-- Only the process of the identity goes. -/
lemma current?_deregister_eq_some {s : Controller} {identity other : Text} {p : Nat} :
    (s.deregister identity).current? other = some p ↔
      s.current? other = some p ∧ other ≠ identity := by
  rw [current?_deregister]
  by_cases ho : other = identity <;> simp [ho]

lemma current?_register (s : Controller) (identity other : Text) (p : Nat)
    (h : s.current? identity = none) :
    (s.register identity p).current? other =
      if other = identity then some p else s.current? other := by
  have happ : (s.register identity p).current? other =
      (s.current? other).or ([(identity, p)].lookup other) := by
    simp [current?, register, List.lookup_append]
  rw [happ]
  by_cases ho : other = identity
  · rw [ho, h]
    simp
  · have hne : (other == identity) = false := by simp [ho]
    simp [ho, List.lookup_cons, hne]

lemma mem_iff_lookup_of_nodup {l : List (Text × Nat)} (h : (l.map (·.1)).Nodup)
    (identity : Text) (p : Nat) : (identity, p) ∈ l ↔ l.lookup identity = some p := by
  induction l with
  | nil => simp
  | cons e l ih =>
    obtain ⟨key, q⟩ := e
    rw [List.map_cons, List.nodup_cons] at h
    rw [List.mem_cons, List.lookup_cons, ih h.2]
    by_cases hk : identity = key
    · subst hk
      have hnone : l.lookup identity = none := by
        rw [List.lookup_eq_none_iff]
        intro e he
        have hne : identity ≠ e.1 := by
          rintro rfl
          exact h.1 (List.mem_map.mpr ⟨e, he, rfl⟩)
        simpa using hne
      simp [hnone, eq_comm]
    · have hne : (identity == key) = false := by simp [hk]
      simp [hk, hne]

/-- A registry without two entries for one identity is the map that look-ups see. -/
lemma KeysDistinct.mem_registry_iff {s : Controller} (h : s.KeysDistinct) (identity : Text)
    (p : Nat) : (identity, p) ∈ s.registry ↔ s.current? identity = some p :=
  mem_iff_lookup_of_nodup h identity p

lemma current?_eq_none_iff (s : Controller) (identity : Text) :
    s.current? identity = none ↔ identity ∉ s.registry.map (·.1) := by
  rw [current?, List.lookup_eq_none_iff]
  simp only [List.mem_map, bne_iff_ne, ne_eq, not_exists, not_and]
  exact ⟨fun h e he heq => h e he heq.symm, fun h e he heq => h e he heq.symm⟩

lemma KeysDistinct.deregister {s : Controller} (h : s.KeysDistinct) (identity : Text) :
    (s.deregister identity).KeysDistinct :=
  List.Nodup.sublist (List.filter_sublist.map _) h

lemma KeysDistinct.register {s : Controller} (h : s.KeysDistinct) {identity : Text} (p : Nat)
    (hnone : s.current? identity = none) : (s.register identity p).KeysDistinct := by
  rw [current?_eq_none_iff] at hnone
  simpa [KeysDistinct, Controller.register, List.nodup_append, List.nodup_cons] using
    ⟨h, fun a b hb hab => hnone (hab ▸ List.mem_map_of_mem hb)⟩

/-! ## Displacing -/

/-- Displacing takes the entry of the identity away, if there is one. -/
lemma displace_controller (s : Controller) (identity : Text) :
    (s.displace identity).1 = s.deregister identity := by
  unfold displace
  cases h : s.current? identity with
  | some p => rfl
  | none =>
    rw [current?_eq_none_iff] at h
    have hfilter : s.registry.filter (·.1 ≠ identity) = s.registry := by
      rw [List.filter_eq_self]
      intro e he
      have : e.1 ≠ identity := fun heq => h (heq ▸ List.mem_map_of_mem he)
      simpa using this
    simp only [Controller.deregister, hfilter]

/-- What is shown about a displaced process: the log entry, the kill unless the process has
ended, and the log entry of a kill that failed. -/
inductive IsDisplacement (p : Nat) (identity : Text) : Event → Prop where
  | superseding : IsDisplacement p identity (.logged (.superseding (pidOf p) identity))
  | killed : IsDisplacement p identity (.killed (pidOf p))
  | killFailed (e : SystemError) : IsDisplacement p identity (.logged (.killFailed (pidOf p) e))

lemma mem_displaceEvents {p : Nat} {proc : Process} {identity : Text} {e : Event}
    (h : e ∈ displaceEvents p proc identity) : IsDisplacement p identity e := by
  unfold displaceEvents killProcess at h
  by_cases hended : proc.ended.isSome
  · simp only [hended, if_true, Option.map_none, Option.toList_none, List.append_nil,
      List.mem_singleton] at h
    exact h ▸ .superseding
  · simp only [hended, Bool.false_eq_true, if_false, List.cons_append, List.nil_append,
      List.mem_cons, Option.mem_toList, Option.map_eq_some_iff] at h
    obtain rfl | rfl | ⟨failure, -, rfl⟩ := h
    · exact .superseding
    · exact .killed
    · exact .killFailed failure

lemma displace_events_of_none {s : Controller} {identity : Text} (hc : s.current? identity = none) :
    (s.displace identity).2.1 = [] := by
  simp [displace, hc]

lemma displace_events_of_current {s : Controller} {identity : Text} {p : Nat}
    {proc : Process} (hc : s.current? identity = some p) (hp : s.processes[p]? = some proc) :
    (s.displace identity).2.1 = displaceEvents p proc identity := by
  simp [displace, hc, hp]

/-- All that a displacement shows is about the process that was current. -/
lemma mem_displace_events {s : Controller} {identity : Text} {e : Event}
    (h : e ∈ (s.displace identity).2.1) :
    ∃ p, s.current? identity = some p ∧ IsDisplacement p identity e := by
  unfold displace at h
  cases hc : s.current? identity with
  | none => simp [hc] at h
  | some p =>
    refine ⟨p, rfl, ?_⟩
    cases hp : s.processes[p]? with
    | none => simp [hc, hp] at h
    | some proc =>
      simp only [hc, hp] at h
      exact mem_displaceEvents h

/-- What a displacement shows does not depend on the entries of other identities. -/
lemma displace_deregister_of_ne (s : Controller) {identity other : Text} (h : other ≠ identity) :
    ((s.deregister identity).displace other).2.1 = (s.displace other).2.1 := by
  simp only [displace, current?_deregister, if_neg h, deregister_processes]
  cases s.current? other <;> rfl

lemma displaceAll_cons (s : Controller) (identity : Text) (rest : List Text) :
    s.displaceAll (identity :: rest) =
      (((s.deregister identity).displaceAll rest).1,
        (s.displace identity).2.1 ++ ((s.deregister identity).displaceAll rest).2) := by
  rw [displaceAll, ← displace_controller]

/-- All that several displacements show is about processes that were current. -/
lemma mem_displaceAll_events {s : Controller} {identities : List Text} {e : Event}
    (h : e ∈ (s.displaceAll identities).2) :
    ∃ identity ∈ identities, ∃ p, s.current? identity = some p ∧ IsDisplacement p identity e := by
  induction identities generalizing s with
  | nil => exact absurd h List.not_mem_nil
  | cons first rest ih =>
    rw [displaceAll_cons, List.mem_append] at h
    obtain h | h := h
    · obtain ⟨p, hc, hd⟩ := mem_displace_events h
      exact ⟨first, List.mem_cons_self, p, hc, hd⟩
    · obtain ⟨identity, hmem, p, hc, hd⟩ := ih h
      exact ⟨identity, List.mem_cons_of_mem first hmem, p,
        (current?_deregister_eq_some.mp hc).1, hd⟩

/-- Of all that several displacements show, a filter that keeps nothing but what is about one
identity keeps what the displacement of this identity alone would show. -/
lemma filter_displaceAll_of {s : Controller} {identity : Text} {f : Event → Bool}
    (hf : ∀ other, other ≠ identity → ∀ e ∈ (s.displace other).2.1, f e = false)
    (identities : List Text) :
    (s.displaceAll identities).2.filter f =
      if identity ∈ identities then (s.displace identity).2.1.filter f else [] := by
  induction identities generalizing s with
  | nil => rfl
  | cons first rest ih =>
    have hmem : ∀ other, ∀ e ∈ ((s.deregister first).displace other).2.1,
        e ∈ (s.displace other).2.1 := by
      intro other e he
      by_cases ho : other = first
      · rw [displace_events_of_none (by simp [ho])] at he
        exact absurd he List.not_mem_nil
      · rwa [displace_deregister_of_ne s ho] at he
    rw [displaceAll_cons, List.filter_append,
      ih fun other hne e he => hf other hne e (hmem other e he)]
    by_cases ho : first = identity
    · have hgone : (s.deregister first).current? identity = none := by simp [ho]
      rw [displace_events_of_none hgone, List.filter_nil, ite_self, List.append_nil, ho,
        if_pos List.mem_cons_self]
    · have hnone : (s.displace first).2.1.filter f = [] := by
        rw [List.filter_eq_nil_iff]
        intro e he
        simp [hf first ho e he]
      rw [hnone, List.nil_append, displace_deregister_of_ne s (Ne.symm ho)]
      simp only [List.mem_cons, Ne.symm ho, false_or]

/-- Displacing several processes takes their entries away. -/
lemma displaceAll_controller (s : Controller) (identities : List Text) :
    (s.displaceAll identities).1 =
      { s with registry := s.registry.filter (·.1 ∉ identities) } := by
  induction identities generalizing s with
  | nil =>
    have hall : s.registry.filter (·.1 ∉ ([] : List Text)) = s.registry := by
      rw [List.filter_eq_self]
      simp
    rw [displaceAll, hall]
  | cons identity rest ih =>
    simp only [displaceAll, displace_controller, ih, Controller.deregister, List.filter_filter]
    congr 1
    apply List.filter_congr
    intro e _
    simp [Bool.and_comm]

/-- Nothing is registered after a shutdown. -/
lemma shutdown_controller (s : Controller) : s.shutdown.1 = { s with registry := [] } := by
  rw [shutdown, displaceAll_controller]
  congr 1
  rw [List.filter_eq_nil_iff]
  intro e he
  have hmem : e.1 ∈ s.registry.map (·.1) := List.mem_map_of_mem he
  simpa using ⟨e.2, he⟩

end Controller
end GradleLint
