import GradleLint.Model.Assign
import GradleLint.Proofs.Data.Validated
import GradleLint.Proofs.Settings.Overrides

/-!
# Assigning to settings

Settings and output settings are objects with fields: they are written down as a table with one
entry for each field, and read back from it.  `Form` says this once for both, and
`Form.Assigned` says what assigning a value to a name can come to.  If the name is a field, the
value is read as it would be in a table with no other entry, and either this field takes what was
read and all others stay, or the assignment is refused for the issues of that table.  If it is no
field, nothing changes, and only a note is accepted.

A path leads to a field of the settings, or through `output` to a field of the output settings, and
every other path leads nowhere (`Settings.PathAssigned`).  So a whole list of assignments goes from
settings to settings, each of them as good as those that were read from data in the first place
(`Settings.assigned_in_order`).

Notes are the one exception to the rule that what is accepted is a field with a checked value
(`Settings.note_accepted_unread`).
-/

namespace GradleLint

/-! ## Objects with fields -/

/-- How objects with fields are written down as tables and read from them. -/
structure Form (σ : Type) where
  names : List Text
  write : σ → Table
  read : Table → Validated σ
  names_write : ∀ s, (write s).names = names
  read_write : ∀ s, read (write s) = .valid s

/-- Settings as objects with fields. -/
def Settings.form : Form Settings :=
  ⟨settingNames, toTable, ofTable, fun _ => rfl, ofTable_toTable⟩

/-- Output settings as objects with fields. -/
def OutputSettings.form : Form OutputSettings :=
  ⟨outputNames, toTable, ofTable, fun _ => rfl, read_toTable⟩

namespace Form

variable {σ α : Type} {F : Form σ} {s : σ} {name : Text} {v : Value}

/-- `s'` is `s` but for the field `name`, which has the value that `v` is read as when no other
field is given. -/
structure Takes (F : Form σ) (s : σ) (name : Text) (v : Value) (s' : σ) : Prop where
  known : name ∈ F.names
  taken : ∃ alone w, F.read [(name, v)] = .valid alone ∧ (F.write alone).get? name = some w ∧
    F.write s' = (F.write s).put name w

/-- What assigning `v` to `name` comes to. -/
inductive Assigned (F : Form σ) (s : σ) (name : Text) (v : Value) :
    Except AssignError σ → Prop where
  | taken {s' : σ} (h : F.Takes s name v s') : F.Assigned s name v (.ok s')
  | invalid {is : List Issue} (hname : name ∈ F.names) (h : F.read [(name, v)] = .invalid is) :
      F.Assigned s name v (.error (.invalid is))
  | noted (hname : name ∉ F.names) (h : isNote name) : F.Assigned s name v (.ok s)
  | derived (hname : name ∉ F.names) (h : isDerived name) : F.Assigned s name v (.error .derived)
  | unknown (hname : name ∉ F.names) (hnote : ¬ isNote name) (hderived : ¬ isDerived name) :
      F.Assigned s name v (.error (.invalid [⟨[.field name], .unknownField⟩]))

/-- Assigning to a field with the reader `read`, when `alone a` is the object with nothing given
but the value `a` of this field, and `write a` is the data of this value. -/
lemma assigned_field {read : Value → Validated α} {set : α → σ} (alone : α → σ)
    (write : α → Value) (hname : name ∈ F.names)
    (hread : F.read [(name, v)] = alone <$> Validated.under (.field name) (read v))
    (halone : ∀ a, (F.write (alone a)).get? name = some (write a))
    (hset : ∀ a, F.write (set a) = (F.write s).put name (write a)) :
    F.Assigned s name v (assignField name read set v) := by
  unfold assignField
  cases h : Validated.under (.field name) (read v) with
  | valid a =>
    have hvalid : F.read [(name, v)] = .valid (alone a) := by rw [hread, h, Validated.map_valid]
    exact .taken ⟨hname, alone a, write a, hvalid, halone a, hset a⟩
  | invalid is =>
    have hinvalid : F.read [(name, v)] = .invalid is := by
      rw [hread, h]
      rfl
    exact .invalid hname hinvalid

lemma assigned_beside (hname : name ∉ F.names) : F.Assigned s name v (assignBeside s name) := by
  unfold assignBeside
  split_ifs with hnote hderived
  · exact .noted hname hnote
  · exact .derived hname hderived
  · exact .unknown hname hnote hderived

end Form

/-! ## One name of each object -/

/-- A field that is given alone is read by its own reader. -/
@[simp] lemma Table.fieldOr_alone {α : Type} (name : Text) (v : Value) (fallback : α)
    (read : Value → Validated α) :
    Table.fieldOr [(name, v)] name fallback read = .under (.field name) (read v) := by
  simp [fieldOr, get?]

/-- Beside a field that is given alone, all others take their defaults. -/
@[simp] lemma Table.fieldOr_other {α : Type} {name other : Text} (h : name ≠ other) (v : Value)
    (fallback : α) (read : Value → Validated α) :
    Table.fieldOr [(name, v)] other fallback read = .valid fallback := by
  simp [fieldOr, get?, h]

/-- Every output setting is read by its own reader and put in its own place. -/
lemma OutputSettings.assigned (s : OutputSettings) (name : Text) (v : Value) :
    form.Assigned s name v (s.assign name v) := by
  by_cases hname : name ∈ outputNames
  · simp only [outputNames, Table.names, toTable, List.map_cons, List.map_nil, List.mem_cons,
      List.not_mem_nil, or_false] at hname
    obtain rfl | rfl | rfl := hname
    · exact Form.assigned_field (fun b => { emoji := b }) .bool (by decide)
        (by simp [form, ofTable]) (fun _ => rfl) fun _ => rfl
    · exact Form.assigned_field (fun b => { color := b }) .bool (by decide)
        (by simp [form, ofTable]) (fun _ => rfl) fun _ => rfl
    · exact Form.assigned_field (fun b => { verbose := b }) .bool (by decide)
        (by simp [form, ofTable]) (fun _ => rfl) fun _ => rfl
  · have hne : ∀ known ∈ outputNames, name ≠ known := fun _ h =>
      (ne_of_mem_of_not_mem h hname).symm
    have hbeside : s.assign name v = assignBeside s name := by
      simp only [assign, if_false, hne "emoji" (by decide), hne "color" (by decide),
        hne "verbose" (by decide)]
    rw [hbeside]
    exact Form.assigned_beside hname

/-- Every setting is read by its own reader and put in its own place. -/
lemma Settings.assigned (s : Settings) (name : Text) (v : Value) :
    form.Assigned s name v (s.assign name v) := by
  by_cases hname : name ∈ settingNames
  · simp only [settingNames, Table.names, toTable, List.map_cons, List.map_nil, List.mem_cons,
      List.not_mem_nil, or_false] at hname
    obtain rfl | rfl | rfl | rfl | rfl | rfl | rfl | rfl | rfl | rfl | rfl := hname
    · exact Form.assigned_field (fun t => { gradleExecutable := t }) .text (by decide)
        (by simp [form, ofTable]) (fun _ => rfl) fun _ => rfl
    · exact Form.assigned_field (fun b => { useWrapper := b }) .bool (by decide)
        (by simp [form, ofTable]) (fun _ => rfl) fun _ => rfl
    · exact Form.assigned_field (fun b => { quiet := b }) .bool (by decide)
        (by simp [form, ofTable]) (fun _ => rfl) fun _ => rfl
    · exact Form.assigned_field (fun b => { plainConsole := b }) .bool (by decide)
        (by simp [form, ofTable]) (fun _ => rfl) fun _ => rfl
    · exact Form.assigned_field (fun ts => { extraFlags := ts }) .ofTexts (by decide)
        (by simp [form, ofTable]) (fun _ => rfl) fun _ => rfl
    · exact Form.assigned_field (fun t => { kotlinTask := t }) .ofOption (by decide)
        (by simp [form, ofTable]) (fun _ => rfl) fun _ => rfl
    · exact Form.assigned_field (fun t => { javaTask := t }) .ofOption (by decide)
        (by simp [form, ofTable]) (fun _ => rfl) fun _ => rfl
    · exact Form.assigned_field (fun b => { cleanWhenClean := b }) .bool (by decide)
        (by simp [form, ofTable]) (fun _ => rfl) fun _ => rfl
    · exact Form.assigned_field (fun ts => { rootMarkers := ts }) .ofTexts (by decide)
        (by simp [form, ofTable]) (fun _ => rfl) fun _ => rfl
    · exact Form.assigned_field (fun ts => { fallbackMarkers := ts }) .ofTexts (by decide)
        (by simp [form, ofTable]) (fun _ => rfl) fun _ => rfl
    · exact Form.assigned_field (fun o => { output := o }) (fun o => .table o.toTable) (by decide)
        (by simp [form, ofTable]) (fun _ => rfl) fun _ => rfl
  · have hne : ∀ known ∈ settingNames, name ≠ known := fun _ h =>
      (ne_of_mem_of_not_mem h hname).symm
    have hbeside : s.assign name v = assignBeside s name := by
      simp only [assign, if_false, hne "gradle_executable" (by decide),
        hne "use_wrapper" (by decide), hne "quiet" (by decide), hne "plain_console" (by decide),
        hne "extra_flags" (by decide), hne "kotlin_task" (by decide), hne "java_task" (by decide),
        hne "clean_when_clean" (by decide), hne "root_markers" (by decide),
        hne "fallback_markers" (by decide), hne "output" (by decide)]
    rw [hbeside]
    exact Form.assigned_beside hname

/-! ## Paths and lists of assignments -/

namespace Settings

/-- What assigning `v` along a path comes to. -/
inductive PathAssigned (s : Settings) (v : Value) :
    List Text → Except AssignError Settings → Prop where
  /-- A name alone is a field of the settings. -/
  | setting {name : Text} {result : Except AssignError Settings}
      (h : form.Assigned s name v result) : PathAssigned s v [name] result
  /-- A name behind `output` is a field of the output settings, and nothing else changes. -/
  | output {name : Text} {result : Except AssignError OutputSettings}
      (h : OutputSettings.form.Assigned s.output name v result) :
      PathAssigned s v ["output", name] (result.map fun o => { s with output := o })
  /-- Every other path leads through something that has no fields. -/
  | astray {path : List Text} (hsetting : ∀ name, path ≠ [name])
      (houtput : ∀ name, path ≠ (["output", name] : List Text)) :
      PathAssigned s v path (.error .noFields)

lemma assignPath_assigned (s : Settings) (v : Value) (path : List Text) :
    PathAssigned s v path (s.assignPath v path) := by
  match path with
  | [] => exact .astray (by simp) (by simp)
  | [name] => exact .setting (s.assigned name v)
  | [outer, name] =>
    by_cases houter : outer = "output"
    · subst houter
      exact .output (s.output.assigned name v)
    · rw [assignPath, if_neg houter]
      exact .astray (by simp) fun _ h => houter (List.cons.inj h).1
  | _ :: _ :: _ :: _ => exact .astray (by simp) (by simp)

/-- The course of some assignments, one after the other: the answers they get, and the settings at
the end. -/
inductive Course :
    Settings → List (List Text × Value) → List (Except AssignError Model) → Settings → Prop where
  | done {s : Settings} : Course s [] [] s
  /-- A refused assignment leaves the settings to the next one as they were. -/
  | refused {s last : Settings} {path : List Text} {v : Value} {e : AssignError}
      {rest : List (List Text × Value)} {answers : List (Except AssignError Model)}
      (h : PathAssigned s v path (.error e)) (later : Course s rest answers last) :
      Course s ((path, v) :: rest) (.error e :: answers) last
  /-- What is accepted gives settings that are read back from their data as they are. -/
  | accepted {s s' last : Settings} {path : List Text} {v : Value}
      {rest : List (List Text × Value)} {answers : List (Except AssignError Model)}
      (h : PathAssigned s v path (.ok s'))
      (hvalid : Model.read .settings (Model.settings s').toValue = .valid (.settings s'))
      (later : Course s' rest answers last) :
      Course s ((path, v) :: rest) (.ok (.settings s') :: answers) last

/-- Settings are read back from their data. -/
lemma read_toValue (s : Settings) :
    Model.read .settings (Model.settings s).toValue = .valid (.settings s) := by
  show Model.settings <$> ofTable s.toTable = _
  rw [ofTable_toTable, Validated.map_valid]

/-- Assignments are carried out one after the other.  Each one sets the field that it leads to, to
what its value is read as alone, or is a note, or is refused and leaves everything as it was. -/
theorem assigned_in_order (s : Settings) (assignments : List (List Text × Value)) :
    ∃ last, (Model.settings s).afterAll assignments = .settings last ∧
      Course s assignments ((Model.settings s).assignAll assignments) last := by
  induction assignments generalizing s with
  | nil => exact ⟨s, rfl, .done⟩
  | cons assignment rest ih =>
    obtain ⟨path, v⟩ := assignment
    have hstep := s.assignPath_assigned v path
    have hassign : (Model.settings s).assign path v = (s.assignPath v path).map .settings := rfl
    cases hresult : s.assignPath v path with
    | error e =>
      rw [hresult] at hstep hassign
      obtain ⟨last, hlast, hcourse⟩ := ih s
      refine ⟨last, ?_, ?_⟩
      · rw [← hlast, Model.afterAll, Model.afterAll, List.foldl_cons, hassign]
        rfl
      · rw [Model.assignAll, hassign]
        exact .refused hstep hcourse
    | ok s' =>
      rw [hresult] at hstep hassign
      obtain ⟨last, hlast, hcourse⟩ := ih s'
      refine ⟨last, ?_, ?_⟩
      · rw [← hlast, Model.afterAll, Model.afterAll, List.foldl_cons, hassign]
        rfl
      · rw [Model.assignAll, hassign]
        exact .accepted hstep s'.read_toValue hcourse

/-- A note is accepted although there is no setting of its name whose value could be checked. -/
theorem note_accepted_unread :
    (Model.settings {}).assignAll [(["_x"], .int 1)] = [.ok (.settings {})] ∧
      ∀ s', ¬ form.Takes {} "_x" (.int 1) s' := by
  refine ⟨rfl, fun s' h => ?_⟩
  have hunknown : ("_x" : Text) ∉ settingNames := by decide
  exact hunknown h.known

end Settings
end GradleLint
