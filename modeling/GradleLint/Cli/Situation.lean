import GradleLint.Cli.Lint

/-!
# Situations

A situation is all that a run can meet: a world, and what the build process will do in it.  A run
touches nothing else, so a situation can be described, and the description is a TOML document.

* `cwd` is the working directory, which has been removed if there is none.
* `environment` is a table of environment variables.
* `homes` is a table of home directories by user, and `home` is that of the user who runs the
  program.
* `depth` is the number of links that the program can follow inside one another.
* `entries` is an array of tables.  Each has a `path`; it is a link if it has a `link`, a directory
  if it has `directory = true`, and otherwise a file, given by its `text` or by its `octets`, which
  may be `executable`.
* `unreadable` and `unsearchable` are arrays of paths: what the user cannot open, and directories in
  which the user cannot look anything up.
* `build` is a table with the `status` and the `output` of the build process, or with the
  `refusal` to start it: a text if no process can have the arguments, the directory or the
  environment, and otherwise a table with a `number`, a `description` and perhaps a `file`.
-/

namespace GradleLint

/-- A world, and what the build process will do in it. -/
structure Situation where
  world : World
  build : BuildScript := {}

/-! ## Reading the parts of a description -/

/-- Reads a number that fits into an octet. -/
def Value.readOctet (v : Value) : Validated UInt8 :=
  match v.readIntFrom 0 with
  | .valid n => if n < 256 then .valid (UInt8.ofNat n.toNat) else .fail .oversizedInt
  | .invalid is => .invalid is

/-- Reads a list of octets. -/
def Value.readOctets : Value → Validated Bytes
  | .list vs => .items readOctet 0 vs
  | _ => .fail .notList

/-- Reads the data of a file: octets as they are, or a text in UTF-8. -/
def readContent (t : Table) : Validated Bytes :=
  match t.get? "octets" with
  | some _ => t.field "octets" Value.readOctets
  | none => Utf8.encode <$> t.fieldOr "text" [] Value.readText

/-- Reads what stands at a place. -/
def Entry.ofTable (t : Table) : Validated Entry :=
  match t.get? "link" with
  | some _ => Entry.link <$> t.field "link" Value.readText
  | none =>
    (fun isDirectory data executable => if isDirectory then .directory else .file data executable)
      <$> t.fieldOr "directory" false Value.readBool
      <*> readContent t
      <*> t.fieldOr "executable" false Value.readBool

/-- Reads an entry with its place. -/
def readPlaced : Value → Validated (Place × Entry) :=
  Value.readTable fun t =>
    Prod.mk <$> (Path.partsOf <$> t.field "path" Value.readText) <*> Entry.ofTable t

/-- Reads the entries of a file system. -/
def readEntries : Value → Validated FileSystem
  | .list vs => FileSystem.ofEntries <$> .items readPlaced 0 vs
  | _ => .fail .notList

/-- Reads places. -/
def readPlaces (v : Value) : Validated (List Place) := List.map Path.partsOf <$> v.readTexts

/-- Reads the file system of a description. -/
def FileSystem.ofTable (t : Table) : Validated FileSystem :=
  (fun files unreadable unsearchable => { files with unreadable, unsearchable })
    <$> t.fieldOr "entries" {} readEntries
    <*> t.fieldOr "unreadable" [] readPlaces
    <*> t.fieldOr "unsearchable" [] readPlaces

/-- Reads texts by name, such as environment variables. -/
def readVariables : Table → Validated (List (Text × Text))
  | [] => .valid []
  | (name, v) :: rest =>
    (fun value vs => (name, value) :: vs) <$> .under (.field name) v.readText <*> readVariables rest

/-- Reads a failure of the operating system. -/
def SystemError.read : Value → Validated SystemError :=
  Value.readTable fun t =>
    SystemError.mk <$> t.field "number" Value.readInt <*> t.field "description" Value.readText
      <*> t.fieldOr "file" none (Value.readOption Value.readText)

/-- Reads a refusal to start a process. -/
def Refusal.read : Value → Validated Refusal
  | .text message => .valid (.unfit message)
  | v => .system <$> SystemError.read v

/-- Reads what a build process will do. -/
def BuildScript.read : Value → Validated BuildScript :=
  Value.readTable fun t =>
    BuildScript.mk <$> t.fieldOr "refusal" none (Value.readOption Refusal.read)
      <*> t.fieldOr "status" 0 Value.readInt
      <*> (Utf8.encode <$> t.fieldOr "output" [] Value.readText)

/-! ## Reading a description -/

/-- Reads the world of a description; the working directory is taken without the links on the way
to it. -/
def World.ofTable (t : Table) : Validated World :=
  (fun files cwd environment homes ownHome depth =>
    { files, cwd := files.destination cwd, environment, homes, ownHome
      depth := Int.toNat depth, cwd_slashFree := files.destination_slashFree cwd })
    <$> FileSystem.ofTable t
    <*> t.fieldOr "cwd" ['/'] Value.readText
    <*> t.fieldOr "environment" [] (Value.readTable readVariables)
    <*> t.fieldOr "homes" [] (Value.readTable readVariables)
    <*> t.fieldOr "home" none (Value.readOption Value.readText)
    <*> t.fieldOr "depth" (Int.ofNat FileSystem.usualDepth) (Value.readIntFrom 0)

/-- Reads a situation from a table. -/
def Situation.ofTable (t : Table) : Validated Situation :=
  Situation.mk <$> World.ofTable t <*> t.fieldOr "build" {} BuildScript.read

/-- The situation that a text describes, if it describes one. -/
def Situation.ofText? (t : Text) : Option Situation :=
  match Toml.parse t with
  | .error _ => none
  | .ok table =>
    match Situation.ofTable table with
    | .valid s => some s
    | .invalid _ => none

end GradleLint
