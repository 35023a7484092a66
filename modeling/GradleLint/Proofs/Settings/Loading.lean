import GradleLint.Proofs.Settings.Precedence
import Mathlib

/-!
# What loading settings comes to

The settings of a directory are those that `layered` says, and names that are no settings have no
part in them (`World.loadSettings_layered`).

A layer may hold such names at its top or under `output`.  `Table.known` drops them.  Loading gives
the same with and without them, because dropping names goes through the canonical spelling
(`Table.canonical_only`) and everything behind it only looks up settings.
-/

namespace GradleLint

/-! ## Dropping names -/

lemma canonicalName_canonicalName (name : Text) :
    canonicalName (canonicalName name) = canonicalName name := by
  unfold canonicalName
  rw [List.map_map]
  refine List.map_congr_left fun c _ => ?_
  by_cases hc : c = '-' <;> simp [hc]

/-- The settings spell their own names in the canonical way. -/
lemma canonicalName_of_mem {name : Text} (h : name ∈ settingNames ++ outputNames) :
    canonicalName name = name := by
  have hall : ∀ name ∈ settingNames ++ outputNames, canonicalName name = name := by decide
  exact hall name h

namespace Table

/-- The entries whose names are, canonically spelled, among some names. -/
def only (names : List Text) (t : Table) : Table := t.filter fun e => names.contains (canonicalName e.1)

variable {names : List Text} {name : Text}

lemma only_cons (e : Text × Value) (t : Table) :
    only names (e :: t) =
      if canonicalName e.1 ∈ names then e :: only names t else only names t := by
  simp [only, List.filter_cons]

lemma get?_only (t : Table) (h : canonicalName name ∈ names) :
    (t.only names).get? name = t.get? name := by
  induction t with
  | nil => rfl
  | cons e t ih =>
    obtain ⟨k, v⟩ := e
    rw [only_cons]
    by_cases hk : k = name
    · subst hk
      simp [get?, h]
    · by_cases hmem : canonicalName k ∈ names <;> simp [get?, hk, hmem, ih]

lemma only_put (t : Table) (v : Value) :
    (t.put name v).only names =
      if canonicalName name ∈ names then (t.only names).put name v else t.only names := by
  induction t with
  | nil => by_cases h : canonicalName name ∈ names <;> simp [put, only, h]
  | cons e t ih =>
    obtain ⟨k, w⟩ := e
    by_cases hk : k = name
    · subst hk
      by_cases h : canonicalName k ∈ names <;> simp [put, only_cons, h]
    · by_cases h : canonicalName name ∈ names <;> by_cases hmem : canonicalName k ∈ names <;>
        simp_all [put, only_cons]

lemma canonicalInto_only (t es : Table) :
    canonicalInto (t.only names) (only names es) = (canonicalInto t es).only names := by
  induction es generalizing t with
  | nil => rfl
  | cons e es ih =>
    obtain ⟨k, v⟩ := e
    rw [canonicalInto, ← ih, only_put, canonicalName_canonicalName]
    by_cases h : canonicalName k ∈ names
    · rw [only_cons, if_pos h, if_pos h, canonicalInto]
    · rw [only_cons, if_neg h, if_neg h]

lemma canonical_only (t : Table) : (t.only names).canonical = t.canonical.only names :=
  canonicalInto_only [] t

end Table

/-- A value of `output` without the names that are no output settings. -/
def Value.knownOutput : Value → Value
  | .table es => .table (Table.only outputNames es)
  | v => v

/-- A layer without the names that are no settings. -/
def Table.known (t : Table) : Table :=
  (t.only settingNames).map fun e =>
    (e.1, if canonicalName e.1 = "output" then e.2.knownOutput else e.2)

lemma Value.canonical_knownOutput (v : Value) : v.knownOutput.canonical = v.canonical.knownOutput := by
  cases v with
  | table es =>
    show Value.table (Table.canonical (Table.only outputNames es)) =
      .table (Table.only outputNames (Table.canonical es))
    rw [Table.canonical_only]
  | _ => rfl

/-! ## Looking up what is known -/

lemma Table.spelled_known (t : Table) {name : Text} (h : name ∈ settingNames) :
    t.known.spelled name = (t.spelled name).map fun e =>
      (e.1, if name = "output" then e.2.knownOutput else e.2) := by
  unfold known spelled only
  rw [List.filter_map, List.filter_filter]
  have hfilter : ∀ e ∈ t, (decide (canonicalName e.1 = name) &&
      settingNames.contains (canonicalName e.1)) = decide (canonicalName e.1 = name) := by
    intro e _
    by_cases he : canonicalName e.1 = name <;> simp [he, h]
  show List.map _ (List.filter (fun e => decide (canonicalName e.1 = name) &&
    settingNames.contains (canonicalName e.1)) t) = _
  rw [List.filter_congr hfilter]
  refine List.map_congr_left fun e he => ?_
  rw [of_decide_eq_true (List.mem_filter.mp he).2]

lemma Table.get?_canonical_known (t : Table) {name : Text} (h : name ∈ settingNames) :
    t.known.canonical.get? name =
      (t.canonical.get? name).map fun v => if name = "output" then v.knownOutput else v := by
  rw [get?_canonical, get?_canonical, spelled_known t h, List.getLast?_map, Option.map_map,
    Option.map_map]
  refine congrFun (congrArg Option.map (funext fun e => ?_)) _
  by_cases hname : name = "output"
  · simp only [Function.comp_apply, if_pos hname, Value.canonical_knownOutput]
  · simp only [Function.comp_apply, if_neg hname]

lemma valuesOf_known (layers : List Table) {name : Text} (h : name ∈ settingNames) :
    valuesOf ((layers.map Table.known).map Table.canonical) name =
      (valuesOf (layers.map Table.canonical) name).map fun v =>
        if name = "output" then v.knownOutput else v := by
  simp only [valuesOf, List.filterMap_map, List.map_filterMap]
  exact List.filterMap_congr fun t _ => t.get?_canonical_known h

/-! ## What should be read -/

lemma tablesOnTop_map_knownOutput (vs : List Value) :
    tablesOnTop (vs.map Value.knownOutput) = (tablesOnTop vs).map (Table.only outputNames) := by
  have htable : ∀ v : Value, v.knownOutput.table? = v.table?.map (Table.only outputNames) := by
    intro v
    cases v <;> rfl
  have hsome : ((·.table?.isSome) ∘ Value.knownOutput) = fun v : Value => v.table?.isSome := by
    funext v
    simp [htable]
  have hcomp : Value.table? ∘ Value.knownOutput =
      fun v : Value => v.table?.map (Table.only outputNames) := funext htable
  rw [tablesOnTop, tablesOnTop, ← List.map_reverse, List.takeWhile_map, List.filterMap_map, hsome,
    hcomp, List.map_reverse, List.map_filterMap]

lemma lastValues_map_only (layers : List Table) :
    lastValues outputNames (layers.map (Table.only outputNames)) =
      lastValues outputNames layers := by
  refine List.filterMap_congr fun name hmem => ?_
  have hname : canonicalName name ∈ outputNames := by
    rwa [canonicalName_of_mem (List.mem_append_right _ hmem)]
  have hvalues : valuesOf (layers.map (Table.only outputNames)) name = valuesOf layers name := by
    rw [valuesOf, List.filterMap_map]
    exact List.filterMap_congr fun t _ => t.get?_only hname
  rw [lastValue, hvalues, lastValue]

lemma layeredOutput_map_knownOutput (vs : List Value) :
    layeredOutput (vs.map Value.knownOutput) = layeredOutput vs := by
  unfold layeredOutput
  rw [tablesOnTop_map_knownOutput]
  cases htop : tablesOnTop vs with
  | nil =>
    -- No table is on top, so the last value is none and stays as it is.
    show (vs.map Value.knownOutput).getLast? = vs.getLast?
    rw [List.getLast?_map]
    cases vs using List.reverseRecOn with
    | nil => rfl
    | append_singleton vs v =>
      cases v <;> simp_all [Value.knownOutput]
  | cons t ts =>
    show some (Value.table (lastValues outputNames ((t :: ts).map _))) = _
    rw [lastValues_map_only]

/-- Names that are no settings have no part in the data that layers stand for. -/
lemma layered_known (layers : List Table) :
    layered ((layers.map Table.known).map Table.canonical) = layered (layers.map Table.canonical) := by
  unfold layered
  congr 1
  · refine List.filterMap_congr fun name hmem => ?_
    obtain ⟨hname, hne⟩ := List.mem_filter.mp hmem
    have hplain : name ≠ "output" := of_decide_eq_true hne
    rw [lastValue, lastValue, valuesOf_known layers hname]
    simp only [if_neg hplain, List.map_id']
  · rw [valuesOf_known layers (by decide : "output".toList ∈ settingNames)]
    simp only [if_true, layeredOutput_map_knownOutput]

/-- Layers that differ in names that are no settings give the same settings. -/
lemma settingsOfLayers_of_known {layers others : List Table}
    (h : others.map Table.known = layers.map Table.known) (root : Path) :
    settingsOfLayers root others = settingsOfLayers root layers := by
  rw [settingsOfLayers_eq, settingsOfLayers_eq, ← layered_known, h, layered_known]

/-! ## Loading -/

namespace World

lemma loadSettings_of_files {w : World} {root : Path} {project own : Table}
    (hproject : w.projectSection root = .ok project)
    (hown : w.readToml (root / .ofText settingsFileName) = .ok own) (overrides : Table) :
    w.loadSettings root overrides = settingsOfLayers root [project, own, overrides] := by
  unfold loadSettings
  rw [hproject, hown]
  rfl

/-- The settings of a directory, or the issues with them, are those of the data in which every
setting has its value from the last layer that has it, and none if no layer has it, and in which
`output` is put together from the tables on top.  Names that are no settings change nothing. -/
theorem loadSettings_layered {w : World} {root : Path} {project own : Table} (overrides : Table)
    (hproject : w.projectSection root = .ok project)
    (hown : w.readToml (root / .ofText settingsFileName) = .ok own) :
    w.loadSettings root overrides =
        settingsOf root (layered ([project, own, overrides].map Table.canonical)) ∧
    (∀ name ∈ settingNames, name ≠ "output" →
      (layered ([project, own, overrides].map Table.canonical)).get? name =
          (valuesOf ([project, own, overrides].map Table.canonical) name).getLast? ∧
      ((layered ([project, own, overrides].map Table.canonical)).get? name = none ↔
        ∀ layer ∈ [project, own, overrides], layer.canonical.get? name = none)) ∧
    ∀ {w' : World} {project' own' : Table} (overrides' : Table),
      w'.projectSection root = .ok project' →
      w'.readToml (root / .ofText settingsFileName) = .ok own' →
      project'.known = project.known → own'.known = own.known →
      overrides'.known = overrides.known →
      w'.loadSettings root overrides' = w.loadSettings root overrides := by
  refine ⟨?_, fun name hmem hne => ?_, ?_⟩
  · rw [loadSettings_of_files hproject hown, settingsOfLayers_eq]
  · have hget := get?_layered_of_ne ([project, own, overrides].map Table.canonical) hmem hne
    refine ⟨hget, ?_⟩
    rw [hget, lastValue, List.getLast?_eq_none_iff, valuesOf, List.filterMap_eq_nil_iff]
    simp
  · intro w' project' own' overrides' hproject' hown' hp ho hv
    rw [loadSettings_of_files hproject' hown', loadSettings_of_files hproject hown]
    exact settingsOfLayers_of_known (by simp [hp, ho, hv]) root

/-- A directory with settings in both files. -/
def twoFiles : World :=
  { files := .ofEntries [
      (["p", "pyproject.toml"],
        .file (Utf8.encode "[tool.buildlint]\nquiet = false\noutput.emoji = false\n") false),
      (["p", ".buildlint.toml"], .file (Utf8.encode "output = 3\nuse-wrapper = false\n") false)]
    cwd := [], environment := [] }

/-- A number for `output` in the middle layer hides the table below it, and the layer on top starts
anew. -/
theorem settings_above_barrier :
    twoFiles.projectSection (.ofText "/p") =
        .ok [("quiet", .bool false), ("output", .table [("emoji", .bool false)])] ∧
    twoFiles.readToml (.ofText "/p" / .ofText settingsFileName) =
        .ok [("output", .int 3), ("use-wrapper", .bool false)] ∧
    twoFiles.loadSettings (.ofText "/p") [("output", .table [("color", .bool false)])] =
      .ok { quiet := false, useWrapper := false, output := { color := false } } := by
  have hproject : twoFiles.projectSection (.ofText "/p") =
      .ok [("quiet", .bool false), ("output", .table [("emoji", .bool false)])] := by cbv
  have hown : twoFiles.readToml (.ofText "/p" / .ofText settingsFileName) =
      .ok [("output", .int 3), ("use-wrapper", .bool false)] := by cbv
  have hload := loadSettings_layered [("output", .table [("color", .bool false)])] hproject hown
  exact ⟨hproject, hown, hload.1.trans rfl⟩

end World

end GradleLint
