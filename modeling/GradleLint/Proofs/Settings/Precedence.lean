import GradleLint.Proofs.Settings.Merge
import GradleLint.Proofs.Settings.Reading
import GradleLint.Settings.Load

/-!
# Which layer a setting comes from

Loading settings merges three layers and reads the result.  `layered` is the table that should be
read, written down without merging: every setting has its value from the last layer that has it,
and only `output`, which is itself a table, is put together of several layers.  For it, a value
that is no table is a barrier: the tables after the last barrier count, each output setting being
that of the last of them which has it; if there are none, the barrier itself is the value.

That loading gives what `layered` reads as is `loadSettings_layered`.  The two tables need not be
the same, because the merge also goes into tables that stand where a scalar should; these are
refused either way (`Alike`).
-/

namespace GradleLint

/-! ## The table that should be read -/

/-- The value of a name in the last of the layers that have it. -/
def lastValue (layers : List Table) (name : Text) : Option Value :=
  (valuesOf layers name).getLast?

/-- The last values of some names; a name that no layer has is absent. -/
def lastValues (names : List Text) (layers : List Table) : Table :=
  names.filterMap fun name => (lastValue layers name).map fun v => (name, v)

/-- The table that a value is, if it is one. -/
def Value.table? : Value → Option Table
  | .table t => some t
  | _ => none

/-- The tables that come after the last value that is no table, in order. -/
def tablesOnTop (vs : List Value) : List Table :=
  ((vs.reverse.takeWhile (·.table?.isSome)).filterMap Value.table?).reverse

/-- The value of `output` when layers give it these values, lowest first: the tables on top as one
table of output settings, or the last value if no table is on top. -/
def layeredOutput (vs : List Value) : Option Value :=
  match tablesOnTop vs with
  | [] => vs.getLast?
  | tables => some (.table (lastValues outputNames tables))

/-- The data that layers stand for, each setting on its own. -/
def layered (layers : List Table) : Table :=
  lastValues (settingNames.filter (· ≠ "output".toList)) layers ++
    ((layeredOutput (valuesOf layers "output")).map fun v => ("output".toList, v)).toList

/-- The settings of a directory as read from data. -/
def settingsOf (root : Path) (data : Table) : Except SettingsError Settings :=
  match Settings.ofTable data with
  | .valid s => .ok s
  | .invalid issues => .error (.invalid root issues)

/-! ## Looking up last values -/

lemma lastValue_concat (layers : List Table) (layer : Table) (name : Text) :
    lastValue (layers ++ [layer]) name = (layer.get? name).or (lastValue layers name) := by
  rw [lastValue, valuesOf_concat]
  cases layer.get? name <;> simp [lastValue]

lemma get?_lastValues {names : List Text} (layers : List Table) {name : Text}
    (h : name ∈ names) : (lastValues names layers).get? name = lastValue layers name := by
  induction names with
  | nil => exact absurd h List.not_mem_nil
  | cons other rest ih =>
    unfold lastValues at ih ⊢
    by_cases ho : other = name
    · subst ho
      cases hv : lastValue layers other with
      | some v => simp [hv, Table.get?]
      | none =>
        -- The name is absent, also where it comes again.
        rw [List.filterMap_cons_none (by simp [hv])]
        apply Table.get?_eq_none_of_not_mem
        intro hmem
        obtain ⟨⟨k, v⟩, he, rfl⟩ := List.mem_map.mp hmem
        obtain ⟨k', -, hk'⟩ := List.mem_filterMap.mp he
        obtain ⟨v', hv', heq⟩ := Option.map_eq_some_iff.mp hk'
        obtain ⟨rfl, rfl⟩ := Prod.mk.inj heq
        exact absurd (hv'.symm.trans hv) (by simp)
    · have hrest := ih (List.mem_of_ne_of_mem (Ne.symm ho) h)
      cases hv : lastValue layers other with
      | some v => simpa [hv, Table.get?, ho] using hrest
      | none => simpa [hv] using hrest

lemma lastValues_names_subset (names : List Text) (layers : List Table) {name : Text}
    (h : name ∈ (lastValues names layers).names) : name ∈ names := by
  obtain ⟨⟨k, v⟩, he, rfl⟩ := List.mem_map.mp h
  obtain ⟨k', hmem, hk'⟩ := List.mem_filterMap.mp he
  obtain ⟨v', -, heq⟩ := Option.map_eq_some_iff.mp hk'
  obtain ⟨rfl, rfl⟩ := Prod.mk.inj heq
  exact hmem

lemma get?_layered_of_ne (layers : List Table) {name : Text} (hmem : name ∈ settingNames)
    (hne : name ≠ "output") : (layered layers).get? name = lastValue layers name := by
  have hplain : name ∈ settingNames.filter (· ≠ "output".toList) :=
    List.mem_filter.mpr ⟨hmem, decide_eq_true hne⟩
  rw [layered, Table.get?_append, get?_lastValues layers hplain]
  cases layeredOutput (valuesOf layers "output") with
  | none => simp [Table.get?]
  | some v =>
    show (lastValue layers name).or (if "output".toList = name then some v else none) = _
    rw [if_neg (Ne.symm hne), Option.or_none]

lemma get?_layered_output (layers : List Table) :
    (layered layers).get? "output" = layeredOutput (valuesOf layers "output") := by
  have habsent : "output".toList ∉
      (lastValues (settingNames.filter (· ≠ "output".toList)) layers).names := by
    intro h
    exact of_decide_eq_true (List.mem_filter.mp (lastValues_names_subset _ _ h)).2 rfl
  rw [layered, Table.get?_append, Table.get?_eq_none_of_not_mem habsent, Option.none_or]
  cases layeredOutput (valuesOf layers "output") with
  | none => rfl
  | some v => exact if_pos rfl

/-! ## Settings other than `output` -/

lemma alike_over (lower : Option Value) (v : Value) : Alike (some (Value.over lower v)) (some v) := by
  cases v with
  | table es =>
    obtain ⟨merged, hmerged⟩ := Value.over_table lower es
    rw [hmerged]
    exact .tables merged es
  | _ => exact .same _

/-- The merge of some values is the last of them, up to the content of a table. -/
lemma alike_stack (vs : List Value) : Alike (Value.stack vs) vs.getLast? := by
  induction vs using List.reverseRecOn with
  | nil => exact .same none
  | append_singleton vs v =>
    rw [Value.stack_concat, List.getLast?_concat]
    exact alike_over _ v

/-! ## The setting `output` -/

@[simp] lemma tablesOnTop_concat_table (vs : List Value) (t : Table) :
    tablesOnTop (vs ++ [.table t]) = tablesOnTop vs ++ [t] := by
  simp [tablesOnTop, Value.table?]

lemma tablesOnTop_concat_of_not_table (vs : List Value) {v : Value} (h : v.table? = none) :
    tablesOnTop (vs ++ [v]) = [] := by
  simp [tablesOnTop, h]

/-- What the merge of values of `output` is: the last one if no table is on top, and else a table
that has for each name what the last of the tables on top has for it. -/
inductive Stacked (vs : List Value) : Prop where
  | barrier (htop : tablesOnTop vs = []) (h : Value.stack vs = vs.getLast?)
    (hlast : ∀ t, vs.getLast? ≠ some (.table t))
  | tables (merged : Table) (htop : tablesOnTop vs ≠ []) (h : Value.stack vs = some (.table merged))
    (hget : ∀ name, Alike (merged.get? name) (lastValue (tablesOnTop vs) name))

lemma stacked (vs : List Value) (hdistinct : ∀ v ∈ vs, v.Distinct) : Stacked vs := by
  induction vs using List.reverseRecOn with
  | nil => exact .barrier rfl rfl (by simp)
  | append_singleton vs v ih =>
    cases htable : v.table? with
    | none =>
      have hnot : ∀ es, v ≠ .table es := by
        rintro es rfl
        exact absurd htable (by simp [Value.table?])
      refine .barrier (tablesOnTop_concat_of_not_table vs htable) ?_ ?_
      · rw [Value.stack_concat, Value.over_of_not_table hnot, List.getLast?_concat]
      · simpa using hnot
    | some t =>
      obtain rfl : v = .table t := by
        cases v <;> simp_all [Value.table?]
      have ht : t.Distinct := hdistinct _ (by simp) t rfl
      cases ih fun v hv => hdistinct v (List.mem_append_left _ hv) with
      | barrier htop h hlast =>
        -- The first table after a barrier stands alone.
        refine .tables t (by simp) ?_ fun name => ?_
        · rw [Value.stack_concat, h]
          unfold Value.over
          split
          · rename_i below heq
            exact absurd heq (hlast below)
          · rfl
        · rw [tablesOnTop_concat_table, htop, lastValue_concat]
          simpa [lastValue, valuesOf] using Alike.same (t.get? name)
      | tables merged htop h hget =>
        refine .tables (merged.merge t) (by simp) ?_ fun name => ?_
        · rw [Value.stack_concat, h]
          rfl
        · rw [tablesOnTop_concat_table, Table.get?_merge merged ht, lastValue_concat]
          cases t.get? name with
          | none => exact hget name
          | some v => exact alike_over _ v

/-- The merge of values of `output` reads as what should be read. -/
lemma read_stack_output (vs : List Value) (hdistinct : ∀ v ∈ vs, v.Distinct) :
    (Value.stack vs).map OutputSettings.read = (layeredOutput vs).map OutputSettings.read := by
  cases stacked vs hdistinct with
  | barrier htop h => simp [layeredOutput, htop, h]
  | tables merged htop h hget =>
    have hlayered : layeredOutput vs =
        some (.table (lastValues outputNames (tablesOnTop vs))) := by
      unfold layeredOutput
      split
      · contradiction
      · rfl
    rw [h, hlayered, Option.map_some, Option.map_some]
    refine congrArg some (OutputSettings.ofTable_congr fun name hmem => ?_)
    rw [get?_lastValues _ hmem]
    exact hget name

/-! ## Layers as they are loaded -/

/-- Merged layers read as the data in which each setting stands on its own. -/
theorem ofTable_mergeLayers (layers : List Table) :
    Settings.ofTable (mergeLayers layers) =
      Settings.ofTable (layered (layers.map Table.canonical)) := by
  refine Settings.ofTable_congr (fun name hmem hne => ?_) ?_
  · rw [get?_mergeLayers, get?_layered_of_ne _ hmem hne]
    exact alike_stack _
  · rw [get?_mergeLayers, get?_layered_output]
    refine read_stack_output _ fun v hv => ?_
    obtain ⟨t, ht, hget⟩ := List.mem_filterMap.mp hv
    obtain ⟨layer, -, rfl⟩ := List.mem_map.mp ht
    exact Table.distinct_of_get?_canonical hget

lemma settingsOfLayers_eq (root : Path) (layers : List Table) :
    settingsOfLayers root layers = settingsOf root (layered (layers.map Table.canonical)) := by
  have h := ofTable_mergeLayers layers
  unfold settingsOfLayers settingsOf
  generalize Settings.ofTable (mergeLayers layers) = read at h ⊢
  subst h
  rfl

end GradleLint
