import GradleLint.Proofs.Settings.Loading

/-!
# The spelling of names

In a layer a hyphen and an underscore mean the same.  Exchanging one for the other in the names of a
layer, also of the tables within it, makes another layer with the same canonical spelling
(`Table.canonical_eq_of_respelled`), and as layers are brought to that spelling before they are merged,
nothing else changes.

So it does not depend on the spelling which layer wins.  `Value.at?` follows a path of names into
tables within tables.  What a layer has at the end of a path, other than a table, is found in the
merged layers under the canonical names of the path, unless a layer above it has something there or
on the way (`at?_mergeLayers`).  The names of one table must be distinct in the canonical spelling
for this, since of two spellings of one name only the later one counts.
-/

namespace GradleLint

/-! ## Other spellings -/

/-- Two characters are the same, or one is a hyphen and the other an underscore. -/
def SameInNames (c d : Char) : Prop := c = d ∨ (c = '-' ∧ d = '_') ∨ (c = '_' ∧ d = '-')

mutual

/-- A value with other spellings for some names of tables in it, but not in lists. -/
inductive Value.Respelled : Value → Value → Prop
  | same (v : Value) : Value.Respelled v v
  | table {es fs : List (Text × Value)} (h : Table.Respelled es fs) :
      Value.Respelled (.table es) (.table fs)

/-- A table with other spellings for some of its names and some names in its values. -/
inductive Table.Respelled : List (Text × Value) → List (Text × Value) → Prop
  | nil : Table.Respelled [] []
  | cons {k l : Text} {v u : Value} {es fs : List (Text × Value)}
      (hname : List.Forall₂ SameInNames k l) (hvalue : Value.Respelled v u)
      (hrest : Table.Respelled es fs) : Table.Respelled ((k, v) :: es) ((l, u) :: fs)

end

/-- Two characters have one canonical spelling exactly if they are the same in names. -/
lemma sameInNames_iff {c d : Char} :
    SameInNames c d ↔ (if c = '-' then '_' else c) = if d = '-' then '_' else d := by
  unfold SameInNames
  by_cases hc : c = '-' <;> by_cases hd : d = '-' <;> simp [hc, hd, eq_comm]

lemma canonicalName_eq_iff {k l : Text} :
    canonicalName k = canonicalName l ↔ List.Forall₂ SameInNames k l := by
  induction k generalizing l with
  | nil => cases l <;> simp [canonicalName]
  | cons c k ih =>
    cases l with
    | nil => simp [canonicalName]
    | cons d l =>
      rw [List.forall₂_cons, ← ih, sameInNames_iff]
      exact List.cons.injEq .. ▸ Iff.rfl

mutual

lemma Value.Respelled.canonical_eq {v u : Value} (h : v.Respelled u) : v.canonical = u.canonical := by
  cases h with
  | same => rfl
  | table h =>
    rw [Value.canonical, Value.canonical]
    exact congrArg Value.table (h.canonicalInto_eq [])

lemma Table.Respelled.canonicalInto_eq {es fs : List (Text × Value)} (h : Table.Respelled es fs)
    (t : Table) : Table.canonicalInto t es = Table.canonicalInto t fs := by
  cases h with
  | nil => rfl
  | cons hname hvalue hrest =>
    rw [Table.canonicalInto, Table.canonicalInto, canonicalName_eq_iff.mpr hname,
      hvalue.canonical_eq]
    exact hrest.canonicalInto_eq _

end

/-- All spellings of a layer are the same in the canonical spelling. -/
lemma Table.canonical_eq_of_respelled {t u : Table} (h : Table.Respelled t u) :
    t.canonical = u.canonical :=
  h.canonicalInto_eq []

/-- Layers that differ in the spelling of names give the same settings or the same issues. -/
theorem settingsOfLayers_respelled {layers others : List Table}
    (h : List.Forall₂ Table.Respelled layers others) (root : Path) :
    settingsOfLayers root others = settingsOfLayers root layers := by
  have hcanonical : others.map Table.canonical = layers.map Table.canonical := by
    induction h with
    | nil => rfl
    | cons hlayer _ ih => rw [List.map_cons, List.map_cons, ih, Table.canonical_eq_of_respelled hlayer]
  rw [settingsOfLayers_eq, settingsOfLayers_eq, hcanonical]

/-! ## Paths into tables -/

/-- What stands at the end of a path of names that leads through tables. -/
def Value.at? (v : Value) : List Text → Option Value
  | [] => some v
  | name :: path =>
    match v with
    | .table t => (Table.get? t name).bind (·.at? path)
    | _ => none

/-- Nothing stands at the end of a path or stops it on the way, whatever the spelling of the names
on it. -/
def Value.Silent (v : Value) : List Text → Prop
  | [] => False
  | name :: path =>
    match v with
    | .table t => ∀ e ∈ t, canonicalName e.1 = canonicalName name → e.2.Silent path
    | _ => False

mutual

/-- No table in the value, apart from those in lists, spells one name in two ways. -/
def Value.Unambiguous : Value → Prop
  | .table es => (es.map fun e => canonicalName e.1).Nodup ∧ Table.UnambiguousValues es
  | _ => True

/-- None of the values of some names holds a table that spells one name in two ways. -/
def Table.UnambiguousValues : List (Text × Value) → Prop
  | [] => True
  | (_, v) :: es => v.Unambiguous ∧ Table.UnambiguousValues es

end

namespace Table

variable {t : Table} {name : Text} {v : Value}

/-- What a name stands for in the canonical spelling comes from an entry with that name. -/
lemma exists_of_get?_canonical (h : t.canonical.get? (canonicalName name) = some v) :
    ∃ e ∈ t, canonicalName e.1 = canonicalName name ∧ v = e.2.canonical := by
  rw [get?_canonical, Option.map_eq_some_iff] at h
  obtain ⟨e, he, rfl⟩ := h
  obtain ⟨hmem, hname⟩ := List.mem_filter.mp (List.mem_of_getLast? he)
  exact ⟨e, hmem, of_decide_eq_true hname, rfl⟩

lemma mem_of_get? (h : t.get? name = some v) : (name, v) ∈ t := by
  induction t with
  | nil => cases h
  | cons e t ih =>
    obtain ⟨k, w⟩ := e
    rw [get?] at h
    split at h
    · rename_i hk
      obtain rfl := hk
      obtain rfl := Option.some.inj h
      exact List.mem_cons_self
    · exact List.mem_cons_of_mem _ (ih h)

/-- Without a second spelling of a name, what it stands for is found under its canonical spelling. -/
lemma get?_canonical_of_nodup (hdistinct : (t.map fun e => canonicalName e.1).Nodup)
    (h : t.get? name = some v) : t.canonical.get? (canonicalName name) = some v.canonical := by
  have hentry : (name, v) ∈ t.spelled (canonicalName name) :=
    List.mem_filter.mpr ⟨mem_of_get? h, decide_eq_true rfl⟩
  obtain ⟨e, hlast⟩ := List.getLast?_isSome.mpr (List.ne_nil_of_mem hentry) |> Option.isSome_iff_exists.mp
  obtain ⟨hmem, hname⟩ := List.mem_filter.mp (List.mem_of_getLast? hlast)
  obtain rfl : e = (name, v) :=
    List.inj_on_of_nodup_map hdistinct hmem (mem_of_get? h) (of_decide_eq_true hname)
  rw [get?_canonical, hlast]
  rfl

lemma unambiguous_of_mem (h : UnambiguousValues t) {e : Text × Value} (he : e ∈ t) :
    e.2.Unambiguous := by
  induction t with
  | nil => exact absurd he List.not_mem_nil
  | cons first t ih =>
    obtain ⟨k, w⟩ := first
    rw [UnambiguousValues] at h
    obtain rfl | he := List.mem_cons.mp he
    · exact h.1
    · exact ih h.2 he

end Table

/-! ## Paths into merged layers -/

namespace Value

variable {u v lower : Value} {path : List Text}

lemma canonical_of_not_table (h : ∀ es, v ≠ .table es) : v.canonical = v := by
  cases v with
  | table es => exact absurd rfl (h es)
  | _ => simp [Value.canonical]

lemma canonical_table (es : Table) : (Value.table es).canonical = .table (Table.canonical es) := by
  rw [Value.canonical, Table.canonical]

/-- Paths lead to the same place in the canonical spelling. -/
lemma at?_canonical (h : u.Unambiguous) (hat : u.at? path = some v) :
    u.canonical.at? (path.map canonicalName) = some v.canonical := by
  induction path generalizing u with
  | nil =>
    obtain rfl := Option.some.inj hat
    rfl
  | cons name path ih =>
    cases u with
    | table t =>
      obtain ⟨w, hw, hat⟩ := Option.bind_eq_some_iff.mp hat
      rw [Unambiguous] at h
      have hentry := Table.get?_canonical_of_nodup h.1 hw
      have hrest := ih (Table.unambiguous_of_mem h.2 (Table.mem_of_get? hw)) hat
      rw [canonical_table, List.map_cons, Value.at?, hentry]
      exact hrest
    | _ => cases hat

lemma over_none (v : Value) : Value.over none v = v := by
  cases v <;> rfl

/-- A table on top of anything has its own values on top of something. -/
lemma exists_over_table (below : Option Value) {es : Table} (h : es.Distinct) :
    ∃ merged : Table, Value.over below (.table es) = .table merged ∧ ∀ name w, es.get? name = some w →
      ∃ under, merged.get? name = some (Value.over under w) := by
  by_cases hbelow : ∃ t, below = some (.table t)
  · obtain ⟨t, rfl⟩ := hbelow
    refine ⟨Table.merge t es, rfl, fun name w hw => ⟨Table.get? t name, ?_⟩⟩
    rw [Table.get?_merge t h, hw]
  · have hover : Value.over below (.table es) = .table es := by
      unfold Value.over
      split
      · exact absurd ⟨_, rfl⟩ hbelow
      · rfl
    refine ⟨es, hover, fun name w hw => ⟨none, ?_⟩⟩
    rw [hw, over_none]

/-- What a layer has at the end of a path, other than a table, is there when it is put over
anything. -/
lemma at?_over (hleaf : ∀ es, v ≠ .table es)
    (hat : u.canonical.at? (path.map canonicalName) = some v) (below : Option Value) :
    (Value.over below u.canonical).at? (path.map canonicalName) = some v := by
  induction path generalizing u below with
  | nil =>
    obtain rfl : u.canonical = v := Option.some.inj hat
    rw [over_of_not_table hleaf]
    rfl
  | cons name path ih =>
    cases u with
    | table t =>
      rw [canonical_table] at hat ⊢
      obtain ⟨w, hw, hat⟩ := Option.bind_eq_some_iff.mp hat
      obtain ⟨e, -, -, rfl⟩ := Table.exists_of_get?_canonical hw
      obtain ⟨merged, hover, hmerged⟩ := exists_over_table below (Table.distinct_canonical t)
      obtain ⟨under, hget⟩ := hmerged _ _ hw
      rw [hover, List.map_cons, Value.at?, hget]
      exact ih hat under
    | _ => cases hat

/-- What stands at the end of a path stays when something is put over it that is silent there. -/
lemma at?_over_of_silent (hsilent : u.Silent path)
    (hat : lower.at? (path.map canonicalName) = some v) :
    (Value.over (some lower) u.canonical).at? (path.map canonicalName) = some v := by
  induction path generalizing u lower with
  | nil => exact absurd hsilent id
  | cons name path ih =>
    cases u with
    | table t =>
      cases lower with
      | table below =>
        obtain ⟨w, hw, hat⟩ := Option.bind_eq_some_iff.mp hat
        have hget := Table.get?_merge below (Table.distinct_canonical t) (canonicalName name)
        have hover : Value.over (some (.table below)) (.table (Table.canonical t)) =
            .table (Table.merge below (Table.canonical t)) := rfl
        rw [canonical_table, hover, List.map_cons, Value.at?, hget]
        cases habove : (Table.canonical t).get? (canonicalName name) with
        | none =>
          show (Table.get? below (canonicalName name)).bind _ = _
          rw [hw]
          exact hat
        | some x =>
          obtain ⟨e, he, hname, rfl⟩ := Table.exists_of_get?_canonical habove
          show (Value.over (Table.get? below (canonicalName name)) e.2.canonical).at? _ = _
          rw [hw]
          exact ih (hsilent e he hname) hat
      | _ => cases hat
    | _ => exact absurd hsilent id

end Value

/-- What a layer has at the end of a path, other than a table, is found in the merged layers under
the canonical names of the path, if the layers above are silent there. -/
theorem at?_mergeLayers (below : List Table) {layer : Table} {above : List Table} {path : List Text}
    {v : Value} (hdistinct : (Value.table layer).Unambiguous) (hleaf : ∀ es, v ≠ .table es)
    (hat : (Value.table layer).at? path = some v)
    (habove : ∀ upper ∈ above, (Value.table upper).Silent path) :
    (Value.table (mergeLayers (below ++ layer :: above))).at? (path.map canonicalName) = some v := by
  have hover : ∀ (layers : List Table) (upper : Table),
      Value.table (mergeLayers (layers ++ [upper])) =
        Value.over (some (.table (mergeLayers layers))) (Value.table upper).canonical := by
    intro layers upper
    rw [mergeLayers_concat, Value.canonical_table]
    rfl
  induction above using List.reverseRecOn with
  | nil =>
    rw [hover]
    have hcanonical := Value.at?_canonical hdistinct hat
    rw [Value.canonical_of_not_table hleaf] at hcanonical
    exact Value.at?_over hleaf hcanonical _
  | append_singleton above upper ih =>
    rw [← List.cons_append, ← List.append_assoc, hover]
    have hsilent := habove upper (List.mem_append_right above List.mem_cons_self)
    exact Value.at?_over_of_silent hsilent
      (ih fun other hother => habove other (List.mem_append_left _ hother))

/-! ## Loading -/

namespace World

/-- Spelling names of the three layers in other ways makes no difference to what is loaded.  What
one of the layers has at the end of a path, other than a table, is in the data that are read, under
the canonical names of the path, if the layers above it are silent there. -/
theorem loadSettings_respelled {w : World} {root : Path} {project own : Table} (overrides : Table)
    (hproject : w.projectSection root = .ok project)
    (hown : w.readToml (root / .ofText settingsFileName) = .ok own) :
    (∀ {w' : World} {project' own' overrides' : Table},
      w'.projectSection root = .ok project' →
      w'.readToml (root / .ofText settingsFileName) = .ok own' →
      Table.Respelled project project' → Table.Respelled own own' →
      Table.Respelled overrides overrides' →
      w'.loadSettings root overrides' = w.loadSettings root overrides) ∧
    ∃ merged : Table, w.loadSettings root overrides = settingsOf root merged ∧
      ∀ (below : List Table) (layer : Table) (above : List Table),
        [project, own, overrides] = below ++ layer :: above →
        (Value.table layer).Unambiguous →
        ∀ (path : List Text) (v : Value), (∀ es, v ≠ .table es) →
          (Value.table layer).at? path = some v →
          (∀ upper ∈ above, (Value.table upper).Silent path) →
          (Value.table merged).at? (path.map canonicalName) = some v := by
  refine ⟨?_, mergeLayers [project, own, overrides], ?_, ?_⟩
  · intro w' project' own' overrides' hproject' hown' hp ho hv
    rw [loadSettings_of_files hproject' hown', loadSettings_of_files hproject hown]
    exact settingsOfLayers_respelled (.cons hp (.cons ho (.cons hv .nil))) root
  · rw [loadSettings_of_files hproject hown]
    rfl
  · intro below layer above hlayers hdistinct path v hleaf hat habove
    rw [hlayers]
    exact at?_mergeLayers below hdistinct hleaf hat habove

/-- A directory with settings in both files. -/
def settingsFiles (project own : String) : World :=
  { files := .ofEntries [
      (["p", "pyproject.toml"], .file (Utf8.encode project) false),
      (["p", ".buildlint.toml"], .file (Utf8.encode own) false)]
    cwd := [], environment := [], cwd_slashFree := Place.slashFree_nil }

/-- Of two spellings of a setting the one in the upper layer counts, and exchanging the spellings
changes nothing. -/
theorem settings_in_two_spellings :
    let w := settingsFiles "[tool.buildlint]\nuse_wrapper = true\n" "use-wrapper = false\n"
    let w' := settingsFiles "[tool.buildlint]\nuse-wrapper = true\n" "use_wrapper = false\n"
    let overrides : Table := [("output", .table [("no-such", .int 1)])]
    w'.loadSettings (.ofText "/p") [("output", .table [("no_such", .int 1)])] =
        w.loadSettings (.ofText "/p") overrides ∧
      ∃ merged : Table, w.loadSettings (.ofText "/p") overrides = settingsOf (.ofText "/p") merged ∧
        (Value.table merged).at? ["use_wrapper"] = some (.bool false) ∧
        (Value.table merged).at? ["output", "no_such"] = some (.int 1) := by
  intro w w' overrides
  have hproject : w.projectSection (.ofText "/p") = .ok [("use_wrapper", .bool true)] := by cbv
  have hown : w.readToml (.ofText "/p" / .ofText settingsFileName) =
      .ok [("use-wrapper", .bool false)] := by cbv
  have hproject' : w'.projectSection (.ofText "/p") = .ok [("use-wrapper", .bool true)] := by cbv
  have hown' : w'.readToml (.ofText "/p" / .ofText settingsFileName) =
      .ok [("use_wrapper", .bool false)] := by cbv
  have hrespelled : ∀ v : Value, Table.Respelled [("use_wrapper", v)] [("use-wrapper", v)] ∧
      Table.Respelled [("use-wrapper", v)] [("use_wrapper", v)] := fun v =>
    ⟨.cons (canonicalName_eq_iff.mp (by decide)) (.same v) .nil,
      .cons (canonicalName_eq_iff.mp (by decide)) (.same v) .nil⟩
  have hoverrides : Table.Respelled overrides [("output", .table [("no_such", .int 1)])] :=
    .cons (canonicalName_eq_iff.mp (by decide))
      (.table (.cons (canonicalName_eq_iff.mp (by decide)) (.same _) .nil)) .nil
  obtain ⟨hsame, merged, hload, hpaths⟩ := loadSettings_respelled overrides hproject hown
  refine ⟨hsame hproject' hown' (hrespelled _).1 (hrespelled _).2 hoverrides, merged, hload, ?_, ?_⟩
  · refine hpaths [_] _ [overrides] rfl ?_ ["use-wrapper"] (.bool false) (by simp) rfl ?_
    · simp [Value.Unambiguous, Table.UnambiguousValues]
    · simp [overrides, Value.Silent, canonicalName]
  · refine hpaths [_, _] overrides [] rfl ?_ ["output", "no-such"] (.int 1) (by simp) rfl (by simp)
    simp [overrides, Value.Unambiguous, Table.UnambiguousValues]

end World
end GradleLint
