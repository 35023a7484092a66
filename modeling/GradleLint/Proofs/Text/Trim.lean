import GradleLint.Text.Blank
import Mathlib.Data.List.DropRight
import Mathlib.Tactic.Common

/-!
# Trimming

Trimming is `List.dropWhile` followed by `List.rdropWhile`.  Characters of the trimmed kind can
be put around a text without changing what trimming leaves (`trimBy_append`), and what is left
neither starts nor ends with one, so that trimming it again changes nothing (`trimBy_trimBy`).
These two facts are all there is to it (`isTrimOf_iff`).
-/

namespace GradleLint
namespace Text

variable {p : Char → Bool}

lemma trimBy_eq (p : Char → Bool) (t : Text) : trimBy p t = (t.dropWhile p).rdropWhile p := rfl

/-- A text that does not start or end with such characters stays. -/
lemma trimBy_of_ends {t : Text} (hfirst : ∀ c ∈ t.head?, p c = false)
    (hlast : ∀ c ∈ t.getLast?, p c = false) : trimBy p t = t := by
  have hdrop : t.dropWhile p = t := by
    cases t with
    | nil => rfl
    | cons c r => exact List.dropWhile_cons_of_neg (by simp [hfirst c rfl])
  rw [trimBy_eq, hdrop, List.rdropWhile_eq_self_iff]
  intro hne
  simp [hlast _ (List.getLast?_eq_some_getLast hne)]

/-- A text between two others that hold no such characters is not reached. -/
lemma trimBy_between {first last : Text} (hfirst : ∀ c ∈ first, p c = false) (hne : first ≠ [])
    (hlast : ∀ c ∈ last, p c = false) (hne' : last ≠ []) (t : Text) :
    trimBy p (first ++ t ++ last) = first ++ t ++ last := by
  refine trimBy_of_ends (fun c hc => ?_) fun c hc => ?_
  · rw [List.append_assoc, List.head?_append_of_ne_nil _ hne] at hc
    exact hfirst c (List.mem_of_mem_head? hc)
  · rw [List.getLast?_append_of_ne_nil _ hne'] at hc
    exact hlast c (List.mem_of_mem_getLast? hc)

/-- Trimmed characters around a text do not count. -/
lemma trimBy_append {before behind : Text} (hbefore : ∀ c ∈ before, p c = true)
    (hbehind : ∀ c ∈ behind, p c = true) (t : Text) :
    trimBy p (before ++ t ++ behind) = trimBy p t := by
  have hend : ∀ r : Text, (r ++ behind).rdropWhile p = r.rdropWhile p := by
    intro r
    simp only [List.rdropWhile, List.reverse_append]
    rw [List.dropWhile_append_of_pos fun c hc => hbehind c (List.mem_reverse.mp hc)]
  rw [trimBy_eq, trimBy_eq, List.append_assoc, List.dropWhile_append_of_pos hbefore]
  by_cases hall : ∀ c ∈ t, p c = true
  · -- Nothing is left of either text.
    have hnone : ∀ r : Text, (∀ c ∈ r, p c = true) → r.dropWhile p = [] :=
      fun r hr => List.dropWhile_eq_nil_iff.mpr hr
    rw [hnone t hall, hnone (t ++ behind)]
    intro c hc
    exact (List.mem_append.mp hc).elim (hall c) (hbehind c)
  · have hsome : t.dropWhile p ≠ [] := fun h => hall (List.dropWhile_eq_nil_iff.mp h)
    rw [List.dropWhile_append, if_neg (by simpa using hsome), hend]

/-- A trimmed text ends with no trimmed character. -/
lemma trimBy_getLast? {t : Text} {c : Char} (h : c ∈ (trimBy p t).getLast?) : p c = false := by
  obtain ⟨hne, rfl⟩ := List.mem_getLast?_eq_getLast h
  exact Bool.eq_false_iff.mpr (List.rdropWhile_last_not p (t.dropWhile p) hne)

/-- A trimmed text starts with no trimmed character. -/
lemma trimBy_head? {t : Text} {c : Char} (h : c ∈ (trimBy p t).head?) : p c = false := by
  obtain ⟨rest, hrest⟩ := List.rdropWhile_prefix p (t.dropWhile p)
  have hhead : (t.dropWhile p).head? = some c := by
    rw [← hrest, List.head?_append, show ((t.dropWhile p).rdropWhile p).head? = some c from h]
    rfl
  have hnot := List.head?_dropWhile_not p t
  rwa [hhead] at hnot

lemma trimBy_trimBy (p : Char → Bool) (t : Text) : trimBy p (trimBy p t) = trimBy p t :=
  trimBy_of_ends (fun _ => trimBy_head?) fun _ => trimBy_getLast?

lemma mem_of_mem_trimBy {t : Text} {c : Char} (h : c ∈ trimBy p t) : c ∈ t :=
  (List.dropWhile_suffix p).subset ((List.rdropWhile_prefix p (t.dropWhile p)).subset h)

/-- What is left of `t` without the characters at both ends that satisfy `p`. -/
structure IsTrimOf (p : Char → Bool) (u t : Text) : Prop where
  cut : ∃ before behind : Text,
    (∀ c ∈ before, p c = true) ∧ (∀ c ∈ behind, p c = true) ∧ t = before ++ u ++ behind
  first : ∀ c ∈ u.head?, p c = false
  last : ∀ c ∈ u.getLast?, p c = false

lemma isTrimOf_iff {p : Char → Bool} {u t : Text} : IsTrimOf p u t ↔ t.trimBy p = u := by
  constructor
  · rintro ⟨⟨before, behind, hbefore, hbehind, rfl⟩, hfirst, hlast⟩
    rw [trimBy_append hbefore hbehind, trimBy_of_ends hfirst hlast]
  · rintro rfl
    refine ⟨⟨t.takeWhile p, (t.dropWhile p).rtakeWhile p, fun c => List.mem_takeWhile_imp,
      fun c => List.mem_rtakeWhile_imp, ?_⟩, fun c => trimBy_head?, fun c => trimBy_getLast?⟩
    rw [trimBy_eq, List.append_assoc, List.rdropWhile_append_rtakeWhile,
      List.takeWhile_append_dropWhile]

end Text
end GradleLint
