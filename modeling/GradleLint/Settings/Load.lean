import GradleLint.Settings.Basic
import GradleLint.Settings.Layers
import GradleLint.Toml.Document
import GradleLint.World.Environment

/-!
# Loading settings

A directory may carry settings in two files: in a section of its `pyproject.toml`, and in a file
of their own, which takes precedence.  A file that is not there counts as empty, and so does a
section that is not a table.
-/

namespace GradleLint

/-- The file that holds nothing but settings. -/
def settingsFileName : Text := ".buildlint.toml"

/-- The file that holds settings in one of its sections. -/
def projectFileName : Text := "pyproject.toml"

/-- Why settings cannot be loaded. -/
inductive SettingsError where
  /-- A file cannot be looked up. -/
  | path (e : PathError)
  /-- A file is there, and the operating system fails to open it. -/
  | unreadable (file : Path) (e : SystemError)
  /-- A file is no TOML document. -/
  | malformed (file : Path)
  /-- The bytes of a file are not UTF-8. -/
  | notUtf8
  /-- A file holds an integer with more digits than are converted. -/
  | oversizedInteger (digits : Nat)
  /-- The settings of a directory have issues. -/
  | invalid (root : Path) (issues : List Issue)
deriving DecidableEq, Repr

/-- What is said when settings cannot be loaded; nothing about bytes that are not UTF-8, and nothing
about where a TOML document goes wrong. -/
def SettingsError.message : SettingsError → Text
  | .path e => e.message
  | .unreadable file e => "Failed to read configuration at " ++ file.toText ++ ": " ++ e.message
  | .malformed file => "Failed to read configuration at " ++ file.toText
  | .notUtf8 => ""
  | .oversizedInteger digits =>
    "Exceeds the limit (" ++ Text.ofNat Numeral.digitLimit
      ++ " digits) for integer string conversion: value has " ++ Text.ofNat digits
      ++ " digits; use sys.set_int_max_str_digits() to increase the limit"
  | .invalid root _ => "Invalid buildlint configuration under " ++ root.toText

/-! ## Reading the files of a directory -/

/-- The table in a file's bytes. -/
def decodeToml (file : Path) (data : Bytes) : Except SettingsError Table :=
  match Utf8.decode? data with
  | none => .error .notUtf8
  | some t =>
    match Toml.parse t with
    | .ok table => .ok table
    | .error .malformed => .error (.malformed file)
    | .error (.oversized digits) => .error (.oversizedInteger digits)

/-- The table in a file; empty when there is no file. -/
def World.readToml (w : World) (file : Path) : Except SettingsError Table := do
  if ← (w.isFile file.toText).mapError .path then
    match w.readFile file with
    | .ok data => decodeToml file data
    | .error (.system e) => throw (.unreadable file e)
    | .error e => throw (.path e)
  else return []

/-- The table under a name, empty when there is none. -/
def Table.subtable (t : Table) (name : Text) : Table :=
  match t.get? name with
  | some (.table s) => s
  | _ => []

/-- The settings in the project file of a directory. -/
def World.projectSection (w : World) (dir : Path) : Except SettingsError Table :=
  (w.readToml (dir / .ofText projectFileName)).map fun t =>
    (t.subtable "tool").subtable "buildlint"

/-! ## Settings of a directory -/

/-- Whether a directory carries settings of its own. -/
def World.hasSettings (w : World) (dir : Path) : Except SettingsError Bool := do
  if ← (w.isFile (dir / .ofText settingsFileName).toText).mapError .path then return true
  else return !(← w.projectSection dir).isEmpty

/-- The settings that layers of data stand for. -/
def settingsOfLayers (root : Path) (layers : List Table) : Except SettingsError Settings :=
  match Settings.ofTable (mergeLayers layers) with
  | .valid s => .ok s
  | .invalid issues => .error (.invalid root issues)

/-- The settings of a directory: those of its project file, those of its own settings file and
the overrides, in this order. -/
def World.loadSettings (w : World) (root : Path) (overrides : Table) :
    Except SettingsError Settings := do
  let project ← w.projectSection root
  let own ← w.readToml (root / .ofText settingsFileName)
  settingsOfLayers root [project, own, overrides]

end GradleLint
