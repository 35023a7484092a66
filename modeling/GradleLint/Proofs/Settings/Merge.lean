import GradleLint.Proofs.Data.Table
import GradleLint.Settings.Layers
import Mathlib.Data.List.Induction

/-!
# Merged layers, one name at a time

What a name stands for once layers are merged depends on what it stands for in each layer, and on
nothing else there: `get?_mergeLayers` says so for any number of layers.  Within one layer, of
several spellings of a name the last one counts (`get?_canonical`).

The merge does not associate.  A value that is no table hides all that is below it, while two
tables on top of each other become one; `Value.stack` is the fold in which this happens.
-/

namespace GradleLint

/-! ## The canonical spelling -/

namespace Table

/-- The entries of a layer that have a canonical name. -/
def spelled (t : Table) (name : Text) : Table := t.filter fun e => canonicalName e.1 = name

lemma get?_canonicalInto (t es : Table) (name : Text) :
    (canonicalInto t es).get? name =
      ((es.spelled name).getLast?.map (·.2.canonical)).or (t.get? name) := by
  induction es generalizing t with
  | nil => simp [canonicalInto, spelled]
  | cons e es ih =>
    obtain ⟨k, v⟩ := e
    rw [canonicalInto, ih, get?_put]
    by_cases hk : canonicalName k = name
    · have hcons : spelled ((k, v) :: es) name = (k, v) :: spelled es name := by
        simp [spelled, hk]
      rw [hcons, if_pos hk, List.getLast?_cons]
      cases (spelled es name).getLast? <;> simp
    · simp [spelled, hk]

/-- In the canonical spelling a name stands for what its last spelling stands for. -/
lemma get?_canonical (t : Table) (name : Text) :
    t.canonical.get? name = (t.spelled name).getLast?.map (·.2.canonical) := by
  rw [canonical, get?_canonicalInto]
  simp [get?]

lemma Distinct.canonicalInto {t : Table} (h : t.Distinct) (es : Table) :
    (canonicalInto t es).Distinct := by
  induction es generalizing t with
  | nil => simpa [Table.canonicalInto] using h
  | cons e es ih =>
    obtain ⟨k, v⟩ := e
    rw [Table.canonicalInto]
    exact ih (h.put _ _)

lemma distinct_canonical (t : Table) : t.canonical.Distinct :=
  Distinct.canonicalInto (t := []) List.nodup_nil t

end Table

/-- The value has every name once, if it is a table. -/
def Value.Distinct (v : Value) : Prop := ∀ es, v = .table es → Table.Distinct es

lemma Value.distinct_canonical (v : Value) : v.canonical.Distinct := by
  cases v with
  | table es =>
    rw [Value.canonical]
    rintro _ ⟨⟩
    exact Table.distinct_canonical es
  | _ => simp [Value.Distinct, Value.canonical]

lemma Table.distinct_of_get?_canonical {t : Table} {name : Text} {v : Value}
    (h : t.canonical.get? name = some v) : v.Distinct := by
  rw [get?_canonical, Option.map_eq_some_iff] at h
  obtain ⟨e, -, rfl⟩ := h
  exact e.2.distinct_canonical

/-! ## Merging two layers -/

/-- A name stands for what it stood for in the lower layer, unless the upper layer has it. -/
lemma Table.get?_merge (lower : Table) {upper : Table} (h : upper.Distinct) (name : Text) :
    (lower.merge upper).get? name =
      match upper.get? name with
      | none => lower.get? name
      | some v => some (Value.over (lower.get? name) v) := by
  induction upper generalizing lower with
  | nil => rfl
  | cons e es ih =>
    obtain ⟨k, v⟩ := e
    obtain ⟨hk, hes⟩ : k ∉ names es ∧ Table.Distinct es := by
      simpa [Table.Distinct, names] using h
    rw [Table.merge, ih _ hes, get?_put]
    by_cases ho : k = name
    · subst ho
      simp [get?, get?_eq_none_of_not_mem hk]
    · simp [get?, ho]

/-- A value that is no table replaces what is below it. -/
lemma Value.over_of_not_table {v : Value} (h : ∀ es, v ≠ .table es) (lower : Option Value) :
    Value.over lower v = v := by
  cases v with
  | table es => exact absurd rfl (h es)
  | _ => rfl

/-- A table on top of anything is a table again. -/
lemma Value.over_table (lower : Option Value) (es : Table) :
    ∃ merged, Value.over lower (.table es) = .table merged := by
  unfold Value.over
  split <;> exact ⟨_, rfl⟩

/-! ## Merging any number of layers -/

/-- What a name stands for in the merge of layers that have these values for it, lowest first. -/
def Value.stack (vs : List Value) : Option Value :=
  vs.foldl (fun lower v => some (Value.over lower v)) none

@[simp] lemma Value.stack_concat (vs : List Value) (v : Value) :
    Value.stack (vs ++ [v]) = some (Value.over (Value.stack vs) v) := by
  simp [Value.stack]

/-- The values of a name in the layers that have it, lowest first. -/
def valuesOf (layers : List Table) (name : Text) : List Value := layers.filterMap (·.get? name)

lemma valuesOf_concat (layers : List Table) (layer : Table) (name : Text) :
    valuesOf (layers ++ [layer]) name = valuesOf layers name ++ (layer.get? name).toList := by
  cases h : layer.get? name <;> simp [valuesOf, h]

lemma mergeLayers_concat (layers : List Table) (layer : Table) :
    mergeLayers (layers ++ [layer]) = (mergeLayers layers).merge layer.canonical := by
  simp [mergeLayers]

/-- What a name stands for in merged layers depends on its values in the layers alone. -/
theorem get?_mergeLayers (layers : List Table) (name : Text) :
    (mergeLayers layers).get? name =
      Value.stack (valuesOf (layers.map Table.canonical) name) := by
  induction layers using List.reverseRecOn with
  | nil => rfl
  | append_singleton layers layer ih =>
    rw [mergeLayers_concat, Table.get?_merge _ layer.distinct_canonical, ih, List.map_append,
      List.map_singleton, valuesOf_concat]
    cases layer.canonical.get? name <;> simp

end GradleLint
