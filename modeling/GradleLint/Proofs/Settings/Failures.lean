import GradleLint.Proofs.Settings.Loading
import GradleLint.Proofs.Text.Utf8
import GradleLint.Proofs.World.Lookup

/-!
# How loading settings fails

Loading is meant to fail in three ways only: a file cannot be opened, a file is no TOML document, or
the data in hand make no settings (`SettingsError.Announced`).  It also fails in three further ways,
because reading a file can break off before there is anything to parse (`World.Breaks`): the
operating system refuses to look the file up, its bytes are the UTF-8 of no text, or it holds an
integer with too many digits.

`World.settings_outcome` says what comes of every directory.  Unless one of its files breaks the
reading off, loading gives settings or one of the three announced failures.
-/

namespace GradleLint

/-- A failure that loading settings is meant to have. -/
def SettingsError.Announced : SettingsError → Prop
  | .unreadable _ _ | .malformed _ | .invalid _ _ => True
  | .path _ | .notUtf8 | .oversizedInteger _ => False

/-- The table that settings have in a project file. -/
def Table.settingsSection (t : Table) : Table := (t.subtable "tool").subtable "buildlint"

namespace World

variable {w : World} {file root : Path} {overrides : Table}

/-! ## What is in a file -/

/-- There is no file at a path. -/
def HoldsNothing (w : World) (file : Path) : Prop :=
  (∀ e, ¬ w.Refuses file.toText e) ∧ ¬ w.HasFile file.toText

/-- The table that is read from a file. -/
inductive Gives (w : World) (file : Path) : Table → Prop
  | absent (h : w.HoldsNothing file) : Gives w file []
  | parsed {t : Text} {table : Table} (hdata : w.Holds file (Utf8.encode t))
      (h : Toml.parse t = .ok table) : Gives w file table

/-- A file cannot be opened, or it holds a text that is no TOML document. -/
inductive Spoilt (w : World) (file : Path) : SettingsError → Prop
  | locked (h : w.Locked file) : Spoilt w file (.unreadable file (.forbidden file.toText))
  | malformed {t : Text} (hdata : w.Holds file (Utf8.encode t))
      (h : Toml.parse t = .error .malformed) : Spoilt w file (.malformed file)

/-- Reading a file breaks off. -/
inductive Breaks (w : World) (file : Path) : SettingsError → Prop
  | refused {e : LocateError} (h : w.Refuses file.toText e) :
      Breaks w file (.path (.ofLocate file.toText e))
  | notUtf8 {data : Bytes} (hdata : w.Holds file data) (h : ∀ t, data ≠ Utf8.encode t) :
      Breaks w file .notUtf8
  | oversized {t : Text} {digits : Nat} (hdata : w.Holds file (Utf8.encode t))
      (h : Toml.parse t = .error (.oversized digits)) : Breaks w file (.oversizedInteger digits)

/-! ## Reading a file -/

lemma isFile_of_holdsNothing (h : w.HoldsNothing file) : w.isFile file.toText = .ok false :=
  isFile_of_not_hasFile h.1 h.2

lemma readToml_of_holdsNothing (h : w.HoldsNothing file) : w.readToml file = .ok [] := by
  unfold readToml
  rw [isFile_of_holdsNothing h]
  rfl

lemma readToml_of_holds {data : Bytes} (h : w.Holds file data) :
    w.readToml file = decodeToml file data := by
  unfold readToml
  rw [isFile_iff.mpr h.hasFile, readFile_of_holds h]
  rfl

lemma readToml_of_locked (h : w.Locked file) :
    w.readToml file = .error (.unreadable file (.forbidden file.toText)) := by
  unfold readToml
  rw [isFile_iff.mpr h.hasFile, readFile_of_locked h]
  rfl

lemma readToml_of_refuses {e : LocateError} (h : w.Refuses file.toText e) :
    w.readToml file = .error (.path (.ofLocate file.toText e)) := by
  unfold readToml
  rw [isFile_of_refuses h]
  rfl

lemma decodeToml_encode (file : Path) (t : Text) :
    decodeToml file (Utf8.encode t) =
      match Toml.parse t with
      | .ok table => .ok table
      | .error .malformed => .error (.malformed file)
      | .error (.oversized digits) => .error (.oversizedInteger digits) := by
  have hdecode : Utf8.decode? (Utf8.encode t) = some t := Utf8.decode?_eq_some_iff.mpr rfl
  unfold decodeToml
  split
  · rename_i hnone
    rw [hdecode] at hnone
    cases hnone
  · rename_i t' hsome
    obtain rfl := Option.some.inj (hdecode.symm.trans hsome)
    rfl

lemma decodeToml_of_not_encoded {data : Bytes} (h : ∀ t, data ≠ Utf8.encode t) :
    decodeToml file data = .error .notUtf8 := by
  rw [decodeToml]
  cases hdecode : Utf8.decode? data with
  | none => rfl
  | some t => exact absurd (Utf8.decode?_eq_some_iff.mp hdecode) (h t)

lemma readToml_of_gives {t : Table} (h : w.Gives file t) : w.readToml file = .ok t := by
  cases h with
  | absent h => exact readToml_of_holdsNothing h
  | parsed hdata h => rw [readToml_of_holds hdata, decodeToml_encode, h]

lemma readToml_of_spoilt {e : SettingsError} (h : w.Spoilt file e) :
    w.readToml file = .error e := by
  cases h with
  | locked h => exact readToml_of_locked h
  | malformed hdata h => rw [readToml_of_holds hdata, decodeToml_encode, h]

lemma readToml_of_breaks {e : SettingsError} (h : w.Breaks file e) :
    w.readToml file = .error e := by
  cases h with
  | refused h => exact readToml_of_refuses h
  | notUtf8 hdata h => rw [readToml_of_holds hdata, decodeToml_of_not_encoded h]
  | oversized hdata h => rw [readToml_of_holds hdata, decodeToml_encode, h]

/-- Reading a file gives a table, or the file is spoilt, or the reading breaks off. -/
lemma gives_or_fails (w : World) (file : Path) :
    (∃ t, w.Gives file t) ∨ (∃ e, w.Spoilt file e) ∨ ∃ e, w.Breaks file e := by
  by_cases hrefused : ∃ e, w.Refuses file.toText e
  · obtain ⟨e, h⟩ := hrefused
    exact .inr (.inr ⟨_, .refused h⟩)
  by_cases hfile : w.HasFile file.toText
  · obtain ⟨data, hdata⟩ | hlocked := hfile.holds_or_locked
    · by_cases htext : ∃ t, data = Utf8.encode t
      · obtain ⟨t, rfl⟩ := htext
        cases hparse : Toml.parse t with
        | ok table => exact .inl ⟨table, .parsed hdata hparse⟩
        | error e =>
          cases e with
          | malformed => exact .inr (.inl ⟨_, .malformed hdata hparse⟩)
          | oversized digits => exact .inr (.inr ⟨_, .oversized hdata hparse⟩)
      · exact .inr (.inr ⟨_, .notUtf8 hdata (not_exists.mp htext)⟩)
    · exact .inr (.inl ⟨_, .locked hlocked⟩)
  · exact .inl ⟨[], .absent ⟨not_exists.mp hrefused, hfile⟩⟩

/-! ## Reading a directory -/

/-- What loading the settings of a directory is meant to come to: the settings that the data stand
for, or the first failure that is met. -/
inductive Answers (w : World) (root : Path) (overrides : Table) :
    Except SettingsError Settings → Prop
  | settings {t own : Table} {s : Settings} (hproject : w.Gives (root / .ofText projectFileName) t)
      (hown : w.Gives (root / .ofText settingsFileName) own)
      (h : Settings.ofTable (mergeLayers [t.settingsSection, own, overrides]) = .valid s) :
      Answers w root overrides (.ok s)
  | invalid {t own : Table} {issues : List Issue}
      (hproject : w.Gives (root / .ofText projectFileName) t)
      (hown : w.Gives (root / .ofText settingsFileName) own)
      (h : Settings.ofTable (mergeLayers [t.settingsSection, own, overrides]) = .invalid issues) :
      Answers w root overrides (.error (.invalid root issues))
  | spoiltProject {e : SettingsError} (h : w.Spoilt (root / .ofText projectFileName) e) :
      Answers w root overrides (.error e)
  | spoiltOwn {t : Table} {e : SettingsError}
      (hproject : w.Gives (root / .ofText projectFileName) t)
      (h : w.Spoilt (root / .ofText settingsFileName) e) : Answers w root overrides (.error e)

/-- Loading the settings of a directory breaks off at one of its files. -/
inductive LoadingBreaks (w : World) (root : Path) : SettingsError → Prop
  | atProject {e : SettingsError} (h : w.Breaks (root / .ofText projectFileName) e) :
      LoadingBreaks w root e
  | atOwn {t : Table} {e : SettingsError} (hproject : w.Gives (root / .ofText projectFileName) t)
      (h : w.Breaks (root / .ofText settingsFileName) e) : LoadingBreaks w root e

/-- What asking a directory for settings of its own is meant to come to. -/
inductive Tells (w : World) (root : Path) : Except SettingsError Bool → Prop
  | own (h : w.HasFile (root / .ofText settingsFileName).toText) : Tells w root (.ok true)
  | project {t : Table} (hown : w.HoldsNothing (root / .ofText settingsFileName))
      (hproject : w.Gives (root / .ofText projectFileName) t) :
      Tells w root (.ok (!t.settingsSection.isEmpty))
  | spoilt {e : SettingsError} (hown : w.HoldsNothing (root / .ofText settingsFileName))
      (h : w.Spoilt (root / .ofText projectFileName) e) : Tells w root (.error e)

/-- Asking a directory for settings of its own breaks off. -/
inductive AskingBreaks (w : World) (root : Path) : SettingsError → Prop
  | atOwn {e : LocateError} (h : w.Refuses (root / .ofText settingsFileName).toText e) :
      AskingBreaks w root (.path (.ofLocate (root / .ofText settingsFileName).toText e))
  | atProject {e : SettingsError} (hown : w.HoldsNothing (root / .ofText settingsFileName))
      (h : w.Breaks (root / .ofText projectFileName) e) : AskingBreaks w root e

lemma projectSection_of_gives {t : Table} (h : w.Gives (root / .ofText projectFileName) t) :
    w.projectSection root = .ok t.settingsSection := by
  rw [projectSection, readToml_of_gives h]
  rfl

lemma projectSection_of_error {e : SettingsError}
    (h : w.readToml (root / .ofText projectFileName) = .error e) :
    w.projectSection root = .error e := by
  rw [projectSection, h]
  rfl

lemma loadSettings_of_answers {r : Except SettingsError Settings} (h : w.Answers root overrides r) :
    w.loadSettings root overrides = r := by
  cases h with
  | settings hproject hown h =>
    rw [loadSettings_of_files (projectSection_of_gives hproject) (readToml_of_gives hown)]
    unfold settingsOfLayers
    rw [h]
  | invalid hproject hown h =>
    rw [loadSettings_of_files (projectSection_of_gives hproject) (readToml_of_gives hown)]
    unfold settingsOfLayers
    rw [h]
  | spoiltProject h =>
    unfold loadSettings
    rw [projectSection_of_error (readToml_of_spoilt h)]
    rfl
  | spoiltOwn hproject h =>
    unfold loadSettings
    rw [projectSection_of_gives hproject, readToml_of_spoilt h]
    rfl

lemma loadSettings_of_breaks {e : SettingsError} (h : w.LoadingBreaks root e) :
    w.loadSettings root overrides = .error e := by
  unfold loadSettings
  cases h with
  | atProject h =>
    rw [projectSection_of_error (readToml_of_breaks h)]
    rfl
  | atOwn hproject h =>
    rw [projectSection_of_gives hproject, readToml_of_breaks h]
    rfl

/-- Loading answers or breaks off. -/
lemma answers_or_breaks (w : World) (root : Path) (overrides : Table) :
    (∃ r, w.Answers root overrides r) ∨ ∃ e, w.LoadingBreaks root e := by
  obtain ⟨t, hproject⟩ | ⟨e, h⟩ | ⟨e, h⟩ := w.gives_or_fails (root / .ofText projectFileName)
  · obtain ⟨own, hown⟩ | ⟨e, h⟩ | ⟨e, h⟩ := w.gives_or_fails (root / .ofText settingsFileName)
    · cases hread : Settings.ofTable (mergeLayers [t.settingsSection, own, overrides]) with
      | valid s => exact .inl ⟨_, .settings hproject hown hread⟩
      | invalid issues => exact .inl ⟨_, .invalid hproject hown hread⟩
    · exact .inl ⟨_, .spoiltOwn hproject h⟩
    · exact .inr ⟨e, .atOwn hproject h⟩
  · exact .inl ⟨_, .spoiltProject h⟩
  · exact .inr ⟨e, .atProject h⟩

lemma hasSettings_of_tells {r : Except SettingsError Bool} (h : w.Tells root r) :
    w.hasSettings root = r := by
  unfold hasSettings
  cases h with
  | own h =>
    rw [isFile_iff.mpr h]
    rfl
  | project hown hproject =>
    rw [isFile_of_holdsNothing hown, projectSection_of_gives hproject]
    rfl
  | spoilt hown h =>
    rw [isFile_of_holdsNothing hown, projectSection_of_error (readToml_of_spoilt h)]
    rfl

lemma hasSettings_of_breaks {e : SettingsError} (h : w.AskingBreaks root e) :
    w.hasSettings root = .error e := by
  unfold hasSettings
  cases h with
  | atOwn h =>
    rw [isFile_of_refuses h]
    rfl
  | atProject hown h =>
    rw [isFile_of_holdsNothing hown, projectSection_of_error (readToml_of_breaks h)]
    rfl

/-- Asking for settings tells or breaks off. -/
lemma tells_or_breaks (w : World) (root : Path) :
    (∃ r, w.Tells root r) ∨ ∃ e, w.AskingBreaks root e := by
  by_cases hrefused : ∃ e, w.Refuses (root / .ofText settingsFileName).toText e
  · obtain ⟨e, h⟩ := hrefused
    exact .inr ⟨_, .atOwn h⟩
  by_cases hfile : w.HasFile (root / .ofText settingsFileName).toText
  · exact .inl ⟨_, .own hfile⟩
  have hown : w.HoldsNothing (root / .ofText settingsFileName) := ⟨not_exists.mp hrefused, hfile⟩
  obtain ⟨t, hproject⟩ | ⟨e, h⟩ | ⟨e, h⟩ := w.gives_or_fails (root / .ofText projectFileName)
  · exact .inl ⟨_, .project hown hproject⟩
  · exact .inl ⟨_, .spoilt hown h⟩
  · exact .inr ⟨e, .atProject hown h⟩

/-! ## The result -/

/-- All that may go wrong is announced. -/
def IsAnnounced {α : Type} (r : Except SettingsError α) : Prop := ∀ e, r = .error e → e.Announced

lemma Breaks.not_announced {e : SettingsError} (h : w.Breaks file e) : ¬ e.Announced := by
  cases h <;> exact id

lemma LoadingBreaks.not_announced {e : SettingsError} (h : w.LoadingBreaks root e) :
    ¬ e.Announced := by
  cases h with
  | atProject h => exact h.not_announced
  | atOwn _ h => exact h.not_announced

lemma AskingBreaks.not_announced {e : SettingsError} (h : w.AskingBreaks root e) :
    ¬ e.Announced := by
  cases h with
  | atOwn _ => exact id
  | atProject _ h => exact h.not_announced

lemma Spoilt.announced {e : SettingsError} (h : w.Spoilt file e) : e.Announced := by
  cases h <;> trivial

lemma Answers.isAnnounced {r : Except SettingsError Settings} (h : w.Answers root overrides r) :
    IsAnnounced r := by
  rintro e rfl
  cases h with
  | invalid _ _ _ => trivial
  | spoiltProject h => exact h.announced
  | spoiltOwn _ h => exact h.announced

lemma Tells.isAnnounced {r : Except SettingsError Bool} (h : w.Tells root r) : IsAnnounced r := by
  rintro e rfl
  cases h with
  | spoilt _ h => exact h.announced

/-- Loading settings and asking for them come to what they are meant to come to, or to a failure
that is not announced.  The latter happens exactly when the reading of a file breaks off. -/
theorem settings_outcome (w : World) (root : Path) :
    (∀ overrides r, w.loadSettings root overrides = r ∧ IsAnnounced r ↔
      w.Answers root overrides r) ∧
    (∀ overrides e, w.loadSettings root overrides = .error e ∧ ¬ e.Announced ↔
      w.LoadingBreaks root e) ∧
    (∀ r, w.hasSettings root = r ∧ IsAnnounced r ↔ w.Tells root r) ∧
    (∀ e, w.hasSettings root = .error e ∧ ¬ e.Announced ↔ w.AskingBreaks root e) := by
  refine ⟨fun overrides r => ⟨?_, fun h => ⟨loadSettings_of_answers h, h.isAnnounced⟩⟩,
    fun overrides e => ⟨?_, fun h => ⟨loadSettings_of_breaks h, h.not_announced⟩⟩,
    fun r => ⟨?_, fun h => ⟨hasSettings_of_tells h, h.isAnnounced⟩⟩,
    fun e => ⟨?_, fun h => ⟨hasSettings_of_breaks h, h.not_announced⟩⟩⟩
  · rintro ⟨rfl, hannounced⟩
    obtain ⟨r, h⟩ | ⟨e, h⟩ := w.answers_or_breaks root overrides
    · rwa [loadSettings_of_answers h]
    · exact absurd (hannounced e (loadSettings_of_breaks h)) h.not_announced
  · rintro ⟨hload, hannounced⟩
    obtain ⟨r, h⟩ | ⟨e', h⟩ := w.answers_or_breaks root overrides
    · exact absurd (h.isAnnounced e ((loadSettings_of_answers h).symm.trans hload)) hannounced
    · rwa [← Except.error.inj ((loadSettings_of_breaks h).symm.trans hload)]
  · rintro ⟨rfl, hannounced⟩
    obtain ⟨r, h⟩ | ⟨e, h⟩ := w.tells_or_breaks root
    · rwa [hasSettings_of_tells h]
    · exact absurd (hannounced e (hasSettings_of_breaks h)) h.not_announced
  · rintro ⟨hask, hannounced⟩
    obtain ⟨r, h⟩ | ⟨e', h⟩ := w.tells_or_breaks root
    · exact absurd (h.isAnnounced e ((hasSettings_of_tells h).symm.trans hask)) hannounced
    · rwa [← Except.error.inj ((hasSettings_of_breaks h).symm.trans hask)]

/-- A directory whose two settings files hold an octet that no UTF-8 text has. -/
def undecodableFiles : World :=
  { files := .ofEntries [
      (["p", ".buildlint.toml"], .file [0xff] false), (["q", "pyproject.toml"], .file [0xff] false)]
    cwd := ["work"], environment := [] }

/-- An octet that is not UTF-8 ends loading, and asking, with a failure that is not announced. -/
theorem unannounced_failures :
    let loading := undecodableFiles.loadSettings (.ofText "/p") []
    let asking := undecodableFiles.hasSettings (.ofText "/q")
    (∃ e, loading = .error e ∧ ¬ e.Announced) ∧ ∃ e, asking = .error e ∧ ¬ e.Announced := by
  have hloading : undecodableFiles.loadSettings (.ofText "/p") [] = .error .notUtf8 := by cbv
  have hasking : undecodableFiles.hasSettings (.ofText "/q") = .error .notUtf8 := by cbv
  exact ⟨⟨.notUtf8, hloading, id⟩, .notUtf8, hasking, id⟩

end World
end GradleLint
