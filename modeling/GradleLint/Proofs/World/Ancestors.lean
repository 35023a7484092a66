import GradleLint.Path
import Mathlib.Data.List.Infix

/-!
# What is above a path

A path together with all that is above it is the list of the paths with the same anchor whose parts
are the first ones of its parts (`Path.mem_selfAndAncestors_iff`).  So lying above is a partial
order, and what is above one path lies in a line (`Path.above_or_above`).
-/

namespace GradleLint
namespace Path

/-- A path is the first in the list of what is above it. -/
lemma selfAndAncestors_eq_cons (p : Path) : ∃ rest, p.selfAndAncestors = p :: rest := by
  obtain ⟨a, parts⟩ := p
  unfold selfAndAncestors
  induction parts with
  | nil => exact ⟨[], rfl⟩
  | cons part parts ih =>
    obtain ⟨rest, hrest⟩ := ih
    dsimp only at hrest ⊢
    rw [shortenings, hrest]
    exact ⟨_, rfl⟩

lemma mem_selfAndAncestors_self (p : Path) : p ∈ p.selfAndAncestors := by
  obtain ⟨rest, hrest⟩ := p.selfAndAncestors_eq_cons
  rw [hrest]
  exact List.mem_cons_self

lemma mem_shortenings {a : Anchor} {parts : List Text} {q : Path}
    (h : q ∈ shortenings a parts) : q.anchor = a ∧ q.parts <+: parts := by
  induction parts generalizing q with
  | nil =>
    obtain rfl := List.mem_singleton.mp h
    exact ⟨rfl, List.prefix_refl _⟩
  | cons part rest ih =>
    obtain h | h := List.mem_append.mp h
    · obtain ⟨q, hq, rfl⟩ := List.mem_map.mp h
      obtain ⟨ha, hparts⟩ := ih hq
      exact ⟨ha, List.cons_prefix_cons.mpr ⟨rfl, hparts⟩⟩
    · obtain rfl := List.mem_singleton.mp h
      exact ⟨rfl, List.nil_prefix⟩

lemma mem_selfAndAncestors_iff {p q : Path} :
    q ∈ p.selfAndAncestors ↔ q.anchor = p.anchor ∧ q.parts <+: p.parts := by
  refine ⟨mem_shortenings, ?_⟩
  obtain ⟨a, parts⟩ := p
  obtain ⟨b, above⟩ := q
  rintro ⟨rfl, hparts⟩
  show Path.mk b above ∈ shortenings b parts
  dsimp only at hparts
  induction parts generalizing above with
  | nil =>
    obtain rfl := List.prefix_nil.mp hparts
    exact List.mem_singleton_self _
  | cons part rest ih =>
    rw [shortenings, List.mem_append, List.mem_map]
    obtain rfl | ⟨above, rfl, habove⟩ := List.prefix_cons_iff.mp hparts
    · exact .inr (List.mem_singleton_self _)
    · exact .inl ⟨⟨b, above⟩, ih above habove, rfl⟩

lemma mem_selfAndAncestors_trans {p q r : Path} (hq : q ∈ p.selfAndAncestors)
    (hr : r ∈ q.selfAndAncestors) : r ∈ p.selfAndAncestors := by
  rw [mem_selfAndAncestors_iff] at *
  exact ⟨hr.1.trans hq.1, hr.2.trans hq.2⟩

lemma mem_selfAndAncestors_antisymm {p q : Path} (hq : q ∈ p.selfAndAncestors)
    (hp : p ∈ q.selfAndAncestors) : q = p := by
  rw [mem_selfAndAncestors_iff] at hq hp
  obtain ⟨a, parts⟩ := p
  obtain ⟨b, above⟩ := q
  exact congrArg₂ Path.mk hq.1 (hq.2.eq_of_length_le hp.2.length_le)

/-- Of two above the same path, one lies above the other. -/
lemma above_or_above {p q r : Path} (hq : q ∈ p.selfAndAncestors) (hr : r ∈ p.selfAndAncestors) :
    q ∈ r.selfAndAncestors ∨ r ∈ q.selfAndAncestors := by
  rw [mem_selfAndAncestors_iff] at *
  obtain h | h := List.prefix_or_prefix_of_prefix hq.2 hr.2
  · exact .inl ⟨hq.1.trans hr.1.symm, h⟩
  · exact .inr (mem_selfAndAncestors_iff.mpr ⟨hr.1.trans hq.1.symm, h⟩)

end Path
end GradleLint
