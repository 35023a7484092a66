import GradleLint.Data.Reader

/-!
# Settings

The settings of a lint run, how they are read from data, how they are written back, and how one
of them is changed.  Every setting has a default, so the empty table reads as the default
settings; names that are no setting are passed over when reading, but cannot be assigned to.  Names
that start with an underscore are free for notes: assigning to one is allowed and changes nothing.
-/

namespace GradleLint

/-- Settings of what is printed. -/
structure OutputSettings where
  emoji : Bool := true
  color : Bool := true
  verbose : Bool := false
deriving DecidableEq, Repr

/-- Settings of how builds are found and called. -/
structure Settings where
  gradleExecutable : Text := "gradle"
  useWrapper : Bool := true
  quiet : Bool := true
  plainConsole : Bool := true
  extraFlags : List Text := []
  kotlinTask : Option Text := none
  javaTask : Option Text := none
  cleanWhenClean : Bool := true
  rootMarkers : List Text := ["gradlew", "settings.gradle", "settings.gradle.kts"]
  fallbackMarkers : List Text := ["build.gradle", "build.gradle.kts"]
  output : OutputSettings := {}
deriving DecidableEq, Repr

/-! ## Reading -/

/-- Reads output settings from a table. -/
def OutputSettings.ofTable (t : Table) : Validated OutputSettings :=
  OutputSettings.mk
    <$> t.fieldOr "emoji" true Value.readBool
    <*> t.fieldOr "color" true Value.readBool
    <*> t.fieldOr "verbose" false Value.readBool

/-- Reads output settings. -/
def OutputSettings.read : Value → Validated OutputSettings := Value.readTable ofTable

/-- Reads settings from a table. -/
def Settings.ofTable (t : Table) : Validated Settings :=
  let d : Settings := {}
  Settings.mk
    <$> t.fieldOr "gradle_executable" d.gradleExecutable Value.readText
    <*> t.fieldOr "use_wrapper" d.useWrapper Value.readBool
    <*> t.fieldOr "quiet" d.quiet Value.readBool
    <*> t.fieldOr "plain_console" d.plainConsole Value.readBool
    <*> t.fieldOr "extra_flags" d.extraFlags Value.readTexts
    <*> t.fieldOr "kotlin_task" d.kotlinTask (Value.readOption Value.readText)
    <*> t.fieldOr "java_task" d.javaTask (Value.readOption Value.readText)
    <*> t.fieldOr "clean_when_clean" d.cleanWhenClean Value.readBool
    <*> t.fieldOr "root_markers" d.rootMarkers Value.readTexts
    <*> t.fieldOr "fallback_markers" d.fallbackMarkers Value.readTexts
    <*> t.fieldOr "output" d.output OutputSettings.read

/-- Reads settings. -/
def Settings.read : Value → Validated Settings := Value.readTable ofTable

/-! ## Writing -/

/-- The data of an absent or present text. -/
def Value.ofOption : Option Text → Value
  | none => .null
  | some t => .text t

/-- The data of a list of texts. -/
def Value.ofTexts (ts : List Text) : Value := .list (ts.map .text)

/-- The data of output settings. -/
def OutputSettings.toTable (s : OutputSettings) : Table := [
  ("emoji", .bool s.emoji), ("color", .bool s.color), ("verbose", .bool s.verbose)]

/-- The data of settings. -/
def Settings.toTable (s : Settings) : Table := [
  ("gradle_executable", .text s.gradleExecutable), ("use_wrapper", .bool s.useWrapper),
  ("quiet", .bool s.quiet), ("plain_console", .bool s.plainConsole),
  ("extra_flags", .ofTexts s.extraFlags), ("kotlin_task", .ofOption s.kotlinTask),
  ("java_task", .ofOption s.javaTask), ("clean_when_clean", .bool s.cleanWhenClean),
  ("root_markers", .ofTexts s.rootMarkers), ("fallback_markers", .ofTexts s.fallbackMarkers),
  ("output", .table s.output.toTable)]

/-! ## Changing one setting -/

/-- Why a value is not assigned. -/
inductive AssignError where
  /-- The value, or the name assigned to, has issues. -/
  | invalid (issues : List Issue)
  /-- The path leads through something that has no fields. -/
  | noFields
  /-- The name is taken by something that follows from the fields. -/
  | derived
deriving DecidableEq, Repr

/-- Sets one field to a value that has been read for it. -/
def assignField {α σ : Type} (name : Text) (read : Value → Validated α) (set : α → σ)
    (v : Value) : Except AssignError σ :=
  match Validated.under (.field name) (read v) with
  | .valid a => .ok (set a)
  | .invalid is => .error (.invalid is)

/-- Whether a name is free for notes. -/
def isNote (name : Text) : Bool := name.head? = some '_'

/-- Whether under a name settings show which fields were given, or what was given beside them. -/
def isDerived (name : Text) : Bool :=
  name = "model_fields_set".toList ∨ name = "model_extra".toList

/-- Assigns to a name that is no field of `s`. -/
def assignBeside {σ : Type} (s : σ) (name : Text) : Except AssignError σ :=
  if isNote name then .ok s
  else if isDerived name then .error .derived
  else .error (.invalid [⟨[.field name], .unknownField⟩])

/-- Assigns to one output setting. -/
def OutputSettings.assign (s : OutputSettings) (name : Text) (v : Value) :
    Except AssignError OutputSettings :=
  if name = "emoji" then assignField name Value.readBool (fun b => { s with emoji := b }) v
  else if name = "color" then assignField name Value.readBool (fun b => { s with color := b }) v
  else if name = "verbose" then
    assignField name Value.readBool (fun b => { s with verbose := b }) v
  else assignBeside s name

/-- Assigns to one setting. -/
def Settings.assign (s : Settings) (name : Text) (v : Value) : Except AssignError Settings :=
  if name = "gradle_executable" then
    assignField name Value.readText (fun t => { s with gradleExecutable := t }) v
  else if name = "use_wrapper" then
    assignField name Value.readBool (fun b => { s with useWrapper := b }) v
  else if name = "quiet" then
    assignField name Value.readBool (fun b => { s with quiet := b }) v
  else if name = "plain_console" then
    assignField name Value.readBool (fun b => { s with plainConsole := b }) v
  else if name = "extra_flags" then
    assignField name Value.readTexts (fun ts => { s with extraFlags := ts }) v
  else if name = "kotlin_task" then
    assignField name (Value.readOption Value.readText) (fun t => { s with kotlinTask := t }) v
  else if name = "java_task" then
    assignField name (Value.readOption Value.readText) (fun t => { s with javaTask := t }) v
  else if name = "clean_when_clean" then
    assignField name Value.readBool (fun b => { s with cleanWhenClean := b }) v
  else if name = "root_markers" then
    assignField name Value.readTexts (fun ts => { s with rootMarkers := ts }) v
  else if name = "fallback_markers" then
    assignField name Value.readTexts (fun ts => { s with fallbackMarkers := ts }) v
  else if name = "output" then
    assignField name OutputSettings.read (fun o => { s with output := o }) v
  else assignBeside s name

/-- Assigns along a path of names. -/
def Settings.assignPath (s : Settings) (v : Value) : List Text → Except AssignError Settings
  | [name] => s.assign name v
  | [outer, name] =>
    if outer = "output" then (s.output.assign name v).map fun o => { s with output := o }
    else .error .noFields
  | _ => .error .noFields

/-- Assigns along a path of names within output settings. -/
def OutputSettings.assignPath (s : OutputSettings) (v : Value) :
    List Text → Except AssignError OutputSettings
  | [name] => s.assign name v
  | _ => .error .noFields

end GradleLint
