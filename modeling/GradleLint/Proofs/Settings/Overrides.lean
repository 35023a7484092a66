import GradleLint.Proofs.Model.Codec
import GradleLint.Proofs.Settings.Failures

/-!
# Overrides that say everything

A layer is complete if it has a value for every setting and, under `output`, a table with a value
for every output setting.  Nothing of the layers below a complete one is left
(`ofTable_mergeLayers_of_complete`): a value that is no table replaces what was there, and the two
tables that meet under `output` become one in which all that is read is from above.  So it does not
matter what is wrong with the layers below, as long as there is a table to merge with.

The data of settings are complete and stand for these settings (`Settings.complete_toTable`,
`Settings.ofTable_toTable`).  Given as overrides they are loaded from every directory whose files
can be read at all (`World.loadSettings_toTable`).
-/

namespace GradleLint

/-! ## Complete layers -/

/-- A table with a value for every setting and for every output setting. -/
structure Table.Complete (t : Table) : Prop where
  settings : ∀ name ∈ settingNames, ∃ v, t.get? name = some v
  output : ∃ o : Table, t.get? "output" = some (.table o) ∧
    ∀ name ∈ outputNames, ∃ v, o.get? name = some v

/-- What has a value in the layer above is read from there. -/
lemma Table.alike_merge (below : Table) {above : Table} (h : above.Distinct) {name : Text}
    (hname : ∃ v, above.get? name = some v) :
    Alike ((below.merge above).get? name) (above.get? name) := by
  obtain ⟨v, hv⟩ := hname
  rw [Table.get?_merge below h, hv]
  exact alike_over (below.get? name) v

/-- A complete table of output settings hides what it is merged with. -/
lemma OutputSettings.read_over {o : Table} (h : o.Distinct)
    (hcomplete : ∀ name ∈ outputNames, ∃ v, o.get? name = some v) (below : Option Value) :
    OutputSettings.read (Value.over below (.table o)) = OutputSettings.read (.table o) := by
  unfold Value.over
  split
  · exact OutputSettings.ofTable_congr fun name hname => Table.alike_merge _ h (hcomplete name hname)
  · rfl

/-- What a complete layer stands for does not depend on the layers below it. -/
theorem ofTable_mergeLayers_of_complete (below : List Table) {layer : Table}
    (h : layer.canonical.Complete) :
    Settings.ofTable (mergeLayers (below ++ [layer])) = Settings.ofTable layer.canonical := by
  have hdistinct := layer.distinct_canonical
  rw [mergeLayers_concat]
  refine Settings.ofTable_congr (fun name hname _ => ?_) ?_
  · exact Table.alike_merge _ hdistinct (h.settings name hname)
  · obtain ⟨o, ho, hcomplete⟩ := h.output
    have hread := OutputSettings.read_over
      (Table.distinct_of_get?_canonical ho o rfl) hcomplete ((mergeLayers below).get? "output")
    rw [Table.get?_merge _ hdistinct, ho]
    exact congrArg some hread

/-! ## The data of settings -/

namespace Table

lemma put_of_not_mem {t : Table} {name : Text} (h : name ∉ t.names) (v : Value) :
    t.put name v = t ++ [(name, v)] := by
  induction t with
  | nil => rfl
  | cons e t ih =>
    obtain ⟨k, w⟩ := e
    obtain ⟨hk, ht⟩ : name ≠ k ∧ name ∉ names t := by simpa [names] using h
    rw [put, if_neg (Ne.symm hk), ih ht, List.cons_append]

/-- The names of a table are in the canonical spelling, and so are those within its values. -/
def Canonical (t : Table) : Prop := ∀ e ∈ t, canonicalName e.1 = e.1 ∧ e.2.canonical = e.2

lemma canonicalInto_of_canonical {t es : Table} (hdistinct : Distinct (t ++ es))
    (h : es.Canonical) : canonicalInto t es = t ++ es := by
  induction es generalizing t with
  | nil => rw [canonicalInto, List.append_nil]
  | cons e es ih =>
    obtain ⟨k, v⟩ := e
    obtain ⟨⟨hk, hv⟩, hes⟩ := List.forall_mem_cons.mp h
    have hnames : (t.names ++ k :: names es).Nodup := by
      simpa [Distinct, names] using hdistinct
    have hnew : k ∉ t.names := fun hmem =>
      (List.nodup_append'.mp hnames).2.2 hmem List.mem_cons_self
    dsimp only at hk hv
    rw [canonicalInto, hk, hv, put_of_not_mem hnew, ih, List.append_assoc, List.singleton_append]
    · rwa [List.append_assoc, List.singleton_append]
    · exact hes

lemma canonical_of_canonical {t : Table} (hdistinct : t.Distinct) (h : t.Canonical) :
    t.canonical = t :=
  canonicalInto_of_canonical hdistinct h

end Table

lemma Value.canonical_ofOption (t : Option Text) : (Value.ofOption t).canonical = .ofOption t := by
  cases t <;> simp [Value.ofOption, Value.canonical]

lemma OutputSettings.canonical_toTable (s : OutputSettings) : s.toTable.canonical = s.toTable := by
  refine Table.canonical_of_canonical (show outputNames.Nodup by decide) fun e he => ?_
  have hname := canonicalName_of_mem
    (List.mem_append_right settingNames (List.mem_map_of_mem (f := (·.1)) he))
  simp only [OutputSettings.toTable, List.mem_cons, List.not_mem_nil, or_false] at he
  obtain rfl | rfl | rfl := he <;> exact ⟨hname, by simp [Value.canonical]⟩

lemma Settings.canonical_toTable (s : Settings) : s.toTable.canonical = s.toTable := by
  refine Table.canonical_of_canonical (show settingNames.Nodup by decide) fun e he => ?_
  have hname := canonicalName_of_mem
    (List.mem_append_left outputNames (List.mem_map_of_mem (f := (·.1)) he))
  have houtput : Table.canonicalInto [] s.output.toTable = s.output.toTable :=
    s.output.canonical_toTable
  refine ⟨hname, ?_⟩
  simp only [Settings.toTable, List.mem_cons, List.not_mem_nil, or_false] at he
  obtain rfl | rfl | rfl | rfl | rfl | rfl | rfl | rfl | rfl | rfl | rfl := he <;>
    simp [Value.canonical, Value.canonical_ofOption, Value.ofTexts, houtput]

lemma Table.exists_of_mem_names {t : Table} {name : Text} (h : name ∈ t.names) :
    ∃ v, t.get? name = some v := by
  induction t with
  | nil => exact absurd h List.not_mem_nil
  | cons e t ih =>
    obtain ⟨k, v⟩ := e
    by_cases hk : k = name
    · exact ⟨v, if_pos hk⟩
    · rw [get?, if_neg hk]
      exact ih (List.mem_of_ne_of_mem (Ne.symm hk) h)

/-- The data of settings say everything. -/
lemma Settings.complete_toTable (s : Settings) : s.toTable.Complete :=
  ⟨fun _ hname => Table.exists_of_mem_names hname,
    s.output.toTable, rfl, fun _ hname => Table.exists_of_mem_names hname⟩

lemma Value.readTexts_ofTexts (ts : List Text) : Value.readTexts (.ofTexts ts) = .valid ts := by
  have hitems : ∀ t ∈ ts, Value.readText (.text t) = .valid t := fun _ _ => rfl
  exact Validated.items_map hitems 0

lemma Value.readOption_ofOption (t : Option Text) :
    Value.readOption Value.readText (.ofOption t) = .valid t := by
  cases t <;> rfl

lemma OutputSettings.read_toTable (s : OutputSettings) :
    OutputSettings.read (.table s.toTable) = .valid s := by
  simp only [read, Value.readTable, ofTable]
  rw [Table.fieldOr_valid (t := s.toTable) rfl (rfl : Value.readBool (.bool s.emoji) = _),
    Table.fieldOr_valid (t := s.toTable) rfl (rfl : Value.readBool (.bool s.color) = _),
    Table.fieldOr_valid (t := s.toTable) rfl (rfl : Value.readBool (.bool s.verbose) = _)]
  simp only [Validated.map_valid, Validated.seq_valid]

/-- Settings are read back from their data. -/
theorem Settings.ofTable_toTable (s : Settings) : Settings.ofTable s.toTable = .valid s := by
  have hfield : ∀ (name : Text) {α : Type} {v : Value} {a : α} {fallback : α}
      {read : Value → Validated α}, s.toTable.get? name = some v → read v = .valid a →
        s.toTable.fieldOr name fallback read = .valid a := fun _ => Table.fieldOr_valid
  unfold Settings.ofTable
  dsimp only
  rw [hfield "gradle_executable" rfl (a := s.gradleExecutable) rfl,
    hfield "use_wrapper" rfl (a := s.useWrapper) rfl,
    hfield "quiet" rfl (a := s.quiet) rfl,
    hfield "plain_console" rfl (a := s.plainConsole) rfl,
    hfield "extra_flags" rfl (Value.readTexts_ofTexts s.extraFlags),
    hfield "kotlin_task" rfl (Value.readOption_ofOption s.kotlinTask),
    hfield "java_task" rfl (Value.readOption_ofOption s.javaTask),
    hfield "clean_when_clean" rfl (a := s.cleanWhenClean) rfl,
    hfield "root_markers" rfl (Value.readTexts_ofTexts s.rootMarkers),
    hfield "fallback_markers" rfl (Value.readTexts_ofTexts s.fallbackMarkers),
    hfield "output" rfl s.output.read_toTable]
  simp only [Validated.map_valid, Validated.seq_valid]

/-! ## Loading -/

namespace World

variable {w : World} {root : Path} {overrides : Table} {s : Settings}

/-- Overrides that say everything are what is loaded, unless reading the files fails. -/
theorem loadSettings_of_complete (hcomplete : overrides.canonical.Complete)
    (hread : Settings.ofTable overrides.canonical = .valid s) :
    w.loadSettings root overrides = .ok s ↔
      (∃ project, w.Gives (root / .ofText projectFileName) project) ∧
        ∃ own, w.Gives (root / .ofText settingsFileName) own := by
  have hmasked : ∀ project own : Table,
      Settings.ofTable (mergeLayers [project.settingsSection, own, overrides]) = .valid s := by
    intro project own
    have hmerge := ofTable_mergeLayers_of_complete [project.settingsSection, own] hcomplete
    rw [List.cons_append, List.singleton_append] at hmerge
    exact hmerge.trans hread
  constructor
  · intro hload
    obtain ⟨r, h⟩ | ⟨e, h⟩ := w.answers_or_breaks root overrides
    · obtain rfl := (loadSettings_of_answers h).symm.trans hload
      cases h with
      | settings hproject hown _ => exact ⟨⟨_, hproject⟩, ⟨_, hown⟩⟩
    · cases (loadSettings_of_breaks h).symm.trans hload
  · rintro ⟨⟨project, hproject⟩, own, hown⟩
    exact loadSettings_of_answers (.settings hproject hown (hmasked project own))

/-- Settings given as overrides are what is loaded exactly from those directories both of whose
files are absent, or can be opened and hold a TOML document, whatever is in it. -/
theorem loadSettings_toTable (w : World) (root : Path) (s : Settings) :
    w.loadSettings root s.toTable = .ok s ↔
      (∃ project, w.Gives (root / .ofText projectFileName) project) ∧
        ∃ own, w.Gives (root / .ofText settingsFileName) own := by
  have hcanonical := s.canonical_toTable
  refine loadSettings_of_complete ?_ ?_
  · rw [hcanonical]
    exact s.complete_toTable
  · rw [hcanonical]
    exact s.ofTable_toTable

set_option maxRecDepth 8000 in
/-- In a directory whose name is too long there is no file, and still loading fails. -/
theorem overrides_lost_at_long_root :
    let w : World := { files := {}, cwd := [], environment := [] }
    let root : Path := .ofText ('/' :: List.replicate 256 'a')
    ¬ w.HasFile (root / .ofText projectFileName).toText ∧
      ¬ w.HasFile (root / .ofText settingsFileName).toText ∧
      ∃ e, w.loadSettings root (Settings.toTable {}) = .error e := by
  intro w root
  have hproject : w.Refuses (root / .ofText projectFileName).toText .nameTooLong := ⟨by cbv, rfl⟩
  have hown : w.Refuses (root / .ofText settingsFileName).toText .nameTooLong := ⟨by cbv, rfl⟩
  exact ⟨hproject.not_hasFile, hown.not_hasFile, _,
    loadSettings_of_breaks (.atProject (.refused hproject))⟩

end World
end GradleLint
