import GradleLint.Data.Value
import Mathlib.Data.List.Nodup

/-!
# Tables as maps

A table is read through `Table.get?`, and `Table.put` is the one way to build it name by name.  A
table so built has every name once (`Table.Distinct`), so that the order of its entries does not
matter to what it means.
-/

namespace GradleLint
namespace Table

/-- No name has two values. -/
def Distinct (t : Table) : Prop := t.names.Nodup

lemma get?_append (t u : Table) (name : Text) :
    Table.get? (t ++ u) name = (t.get? name).or (u.get? name) := by
  induction t with
  | nil => rfl
  | cons e t ih =>
    obtain ⟨k, v⟩ := e
    by_cases hk : k = name <;> simp [get?, hk, ih]

lemma get?_eq_none_of_not_mem {t : Table} {name : Text} (h : name ∉ t.names) :
    t.get? name = none := by
  induction t with
  | nil => rfl
  | cons e t ih =>
    obtain ⟨k, v⟩ := e
    obtain ⟨hk, ht⟩ : name ≠ k ∧ name ∉ names t := by simpa [names] using h
    simp [get?, Ne.symm hk, ih ht]

lemma get?_put (t : Table) (name other : Text) (v : Value) :
    (t.put name v).get? other = if name = other then some v else t.get? other := by
  induction t with
  | nil => rfl
  | cons e t ih =>
    obtain ⟨k, w⟩ := e
    by_cases hk : k = name
    · subst hk
      by_cases ho : k = other <;> simp [put, get?, ho]
    · by_cases ho : k = other
      · subst ho
        simp [put, get?, hk, Ne.symm hk]
      · simp [put, get?, hk, ho, ih]

lemma names_put (t : Table) (name : Text) (v : Value) :
    (t.put name v).names = if name ∈ t.names then t.names else t.names ++ [name] := by
  induction t with
  | nil => rfl
  | cons e t ih =>
    obtain ⟨k, w⟩ := e
    by_cases hk : k = name
    · simp [put, names, hk]
    · have hne : name ≠ k := Ne.symm hk
      unfold names at ih
      by_cases ht : name ∈ t.map (·.1) <;> simp [put, names, hk, hne, ht, ih]

lemma Distinct.put {t : Table} (h : t.Distinct) (name : Text) (v : Value) :
    (t.put name v).Distinct := by
  unfold Distinct
  rw [names_put]
  split
  · exact h
  · rename_i hmem
    exact List.Nodup.append h (List.nodup_singleton name) (by simpa using hmem)

end Table
end GradleLint
