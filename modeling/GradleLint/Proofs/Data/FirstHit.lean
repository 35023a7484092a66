import Mathlib.Tactic.Common

/-!
# First hits

A search through a list asks one entry after the other and ends at the first that does not answer
with nothing, be it a hit or a failure (`findSomeM?_eq_iff`).  So an entry that answers with nothing
may be asked again, or be left out.
-/

namespace GradleLint

variable {ε α β : Type} {test : α → Except ε (Option β)}

/-! ## What ends a search -/

lemma findSomeM?_cons_of_none {a : α} (ha : test a = .ok none) (l : List α) :
    (a :: l).findSomeM? test = l.findSomeM? test := by
  rw [List.findSomeM?, ha]
  rfl

lemma findSomeM?_cons_of_ne {a : α} (ha : test a ≠ .ok none) (l : List α) :
    (a :: l).findSomeM? test = test a := by
  rw [List.findSomeM?]
  match htest : test a with
  | .error e => rfl
  | .ok (some b) => rfl
  | .ok none => exact absurd htest ha

lemma findSomeM?_eq_ok_none_iff {l : List α} :
    l.findSomeM? test = .ok none ↔ ∀ a ∈ l, test a = .ok none := by
  induction l with
  | nil => exact iff_of_true rfl (List.forall_mem_nil _)
  | cons a l ih =>
    rw [List.forall_mem_cons]
    by_cases ha : test a = .ok none
    · rw [findSomeM?_cons_of_none ha, ih, and_iff_right ha]
    · rw [findSomeM?_cons_of_ne ha]
      exact iff_of_false ha fun h => ha h.1

/-- A search ends with the answer of an entry before which all others answer with nothing. -/
lemma findSomeM?_eq_iff {l : List α} {r : Except ε (Option β)} (hr : r ≠ .ok none) :
    l.findSomeM? test = r ↔ ∃ before a after, l = before ++ a :: after ∧
      (∀ b ∈ before, test b = .ok none) ∧ test a = r := by
  induction l with
  | nil =>
    refine iff_of_false (fun h => hr h.symm) ?_
    rintro ⟨before, a, after, hl, -⟩
    exact List.append_ne_nil_of_right_ne_nil before (List.cons_ne_nil a after) hl.symm
  | cons a l ih =>
    by_cases ha : test a = .ok none
    · rw [findSomeM?_cons_of_none ha, ih]
      constructor
      · rintro ⟨before, b, after, rfl, hbefore, hb⟩
        exact ⟨a :: before, b, after, rfl, List.forall_mem_cons.mpr ⟨ha, hbefore⟩, hb⟩
      · rintro ⟨before, b, after, hl, hbefore, hb⟩
        cases before with
        | nil =>
          obtain ⟨rfl, -⟩ := List.cons.inj hl
          exact absurd (hb.symm.trans ha) hr
        | cons c before =>
          obtain ⟨rfl, rfl⟩ := List.cons.inj hl
          exact ⟨before, b, after, rfl, (List.forall_mem_cons.mp hbefore).2, hb⟩
    · rw [findSomeM?_cons_of_ne ha]
      constructor
      · exact fun h => ⟨[], a, l, rfl, List.forall_mem_nil _, h⟩
      · rintro ⟨before, b, after, hl, hbefore, hb⟩
        cases before with
        | nil =>
          obtain ⟨rfl, -⟩ := List.cons.inj hl
          exact hb
        | cons c before =>
          obtain ⟨rfl, rfl⟩ := List.cons.inj hl
          exact absurd (hbefore a List.mem_cons_self) ha

lemma mem_of_findSomeM? {l : List α} {b : β} (h : l.findSomeM? test = .ok (some b)) :
    ∃ a ∈ l, test a = .ok (some b) := by
  obtain ⟨before, a, after, rfl, -, ha⟩ := (findSomeM?_eq_iff (by simp)).mp h
  exact ⟨a, List.mem_append_right before List.mem_cons_self, ha⟩

/-! ## Repeated entries -/

/-- Where a test finds nothing at an entry, it does not matter whether the entry is there again. -/
lemma findSomeM?_filter [DecidableEq α] {a : α} (ha : test a = .ok none) (l : List α) :
    (l.filter fun b => !b == a).findSomeM? test = l.findSomeM? test := by
  induction l with
  | nil => rfl
  | cons b l ih =>
    by_cases hb : b = a
    · subst hb
      rw [findSomeM?_cons_of_none ha, ← ih]
      simp
    · simp only [List.filter_cons, beq_eq_false_iff_ne.mpr hb, Bool.not_false, if_true,
        List.findSomeM?, ih]

/-- The first hit in a list is found without looking at anything twice. -/
lemma findSomeM?_eraseDups [DecidableEq α] (test : α → Except ε (Option β)) (l : List α) :
    l.eraseDups.findSomeM? test = l.findSomeM? test := by
  match l with
  | [] => rfl
  | a :: l =>
    have hrest := findSomeM?_eraseDups test (l.filter fun b => !b == a)
    rw [List.eraseDups_cons]
    by_cases ha : test a = .ok none
    · rw [findSomeM?_cons_of_none ha, findSomeM?_cons_of_none ha, hrest, findSomeM?_filter ha]
    · rw [findSomeM?_cons_of_ne ha, findSomeM?_cons_of_ne ha]
termination_by l.length
decreasing_by exact Nat.lt_succ_of_le (List.length_filter_le _ _)

end GradleLint
