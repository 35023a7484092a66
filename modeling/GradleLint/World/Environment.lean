import GradleLint.World.Names
import GradleLint.World.SystemError

/-!
# The world a lint run sees

A world is a file system with a working directory, the environment variables, what the password
database says about home directories, and how deep the program can follow links.  Below are the
questions that are put to it: what a path leads to, what it stands for when links are followed,
which path a leading tilde means, and which executable a name means.

A path that leads nowhere is no failure when it is only asked what it leads to, except when the
operating system refuses to look.  The working directory may have been removed: then nothing is in
it, though there still are directories above it, and nobody can tell where it was.
-/

namespace GradleLint

/-- All that a lint run sees. -/
structure World where
  files : FileSystem
  /-- Where the working directory is, or was. -/
  cwd : Place
  environment : List (Text × Text)
  /-- The home directories in the password database by user. -/
  homes : List (Text × Text) := []
  /-- The home directory in the password database of the user who runs the program. -/
  ownHome : Option Text := none
  /-- The most links that the program can follow inside one another, before its stack is used up. -/
  depth : Nat := FileSystem.usualDepth
  cwd_slashFree : cwd.SlashFree := by decide

/-- Why a path cannot be used. -/
inductive PathError where
  /-- Links of the path lead in a circle. -/
  | linkLoop (path : Path)
  /-- No home directory is known for the user named by a leading tilde. -/
  | noHome
  /-- The path holds a null character. -/
  | nullCharacter
  /-- More links of the path lead into one another than the program can follow. -/
  | tooDeep
  /-- The operating system fails at the path. -/
  | system (e : SystemError)
deriving DecidableEq, Repr

namespace PathError

/-- What is said about a path that cannot be used. -/
def message : PathError → Text
  | .linkLoop p => "Symlink loop from " ++ Quoted.encode p.toText
  | .noHome => "Could not determine home directory."
  | .nullCharacter => "embedded null byte"
  | .tooDeep => "maximum recursion depth exceeded"
  | .system e => e.message

/-- The failure to reach what a path leads to. -/
def ofLocate (path : Text) : LocateError → PathError
  | .missing => .system (.missing path)
  | .notDirectory => .system (.notDirectory path)
  | .tooManyLinks => .system (.tooManyLinks path)
  | .nameTooLong => .system (.nameTooLong path)
  | .nullCharacter => .nullCharacter
  | .forbidden => .system (.forbidden path)

/-- The failure to follow the links of a path. -/
def ofFollow : FileSystem.FollowError → PathError
  | .nullCharacter => .nullCharacter
  | .tooDeep => .tooDeep
  | .removed => .system .removed

end PathError

namespace World

/-- The value of an environment variable. -/
def valueOf? (w : World) (name : Text) : Option Text := w.environment.lookup name

/-! ## What a path leads to -/

/-- The entry a path leads to, links followed. -/
def entry? (w : World) (t : Text) : Except LocateError Entry :=
  (w.files.locate w.cwd t).map (·.2)

/-- The entry a path leads to, if it leads to one. -/
def find (w : World) (t : Text) : Except PathError (Option Entry) :=
  match w.entry? t with
  | .ok e => .ok (some e)
  | .error e => if e.isRefusal then .error (.ofLocate t e) else .ok none

/-- Whether a path leads to anything. -/
def occupied (w : World) (t : Text) : Except PathError Bool := (w.find t).map Option.isSome

/-- Whether a path leads to a file. -/
def isFile (w : World) (t : Text) : Except PathError Bool :=
  (w.find t).map fun
    | some (.file _ _) => true
    | _ => false

/-- Whether a path leads to a directory. -/
def isDirectory (w : World) (t : Text) : Except PathError Bool :=
  (w.find t).map fun
    | some .directory => true
    | _ => false

/-- The bytes of the file a path leads to, if it can be opened. -/
def readFile (w : World) (p : Path) : Except PathError Bytes :=
  match w.files.locate w.cwd p.toText with
  | .error e => .error (.ofLocate p.toText e)
  | .ok (place, entry) =>
    if w.files.canOpen place then
      match entry with
      | .file data _ => .ok data
      | _ => .error (.system (.isDirectory p.toText))
    else .error (.ofLocate p.toText .forbidden)

/-- Whether a path leads to an executable file; one that cannot be looked up does not. -/
def isExecutable (w : World) (t : Text) : Bool :=
  match w.entry? t with
  | .ok (.file _ executable) => executable
  | _ => false

/-! ## Absolute paths -/

/-- The absolute path without links and `..` that a path stands for.  Nothing need exist there,
but links must not lead in a circle. -/
def resolve (w : World) (p : Path) : Except PathError Path := do
  let q ← (w.files.follow w.depth w.cwd p.toText).mapError .ofFollow
  match w.entry? q.toText with
  | .error .tooManyLinks => throw (.linkLoop q)
  | .error .nullCharacter => throw .nullCharacter
  | _ => return q

/-- The text that is known for the home directory of a user, without the slashes at its end.  For
oneself, who has no name here, the environment goes before the password database. -/
def homeText? (w : World) (user : Text) : Option Text :=
  (if user = [] then (w.valueOf? "HOME").or w.ownHome else w.homes.lookup user).map
    (Text.trimEndBy (· = '/'))

/-- The home directory that a tilde and the name behind it mean.  An empty text means the root, and
one that starts with a tilde itself is no directory. -/
def home (w : World) (user : Text) : Except PathError Path :=
  if user.contains '\x00' then .error .nullCharacter
  else
    match w.homeText? user with
    | none | some ('~' :: _) => .error .noHome
    | some [] => .ok ⟨.root, []⟩
    | some dir => .ok (.ofText dir)

/-- The path with a leading tilde replaced by the home directory. -/
def expandHome (w : World) (p : Path) : Except PathError Path :=
  match p.anchor, p.parts with
  | .relative, ('~' :: user) :: rest =>
    (w.home user).map fun home => { home with parts := home.parts ++ rest }
  | _, _ => .ok p

/-! ## Executables by name -/

/-- A directory of the search path and a name as one path; the empty directory is the working
directory and leaves the bare name. -/
def joinName (dir name : Text) : Text :=
  if dir = [] ∨ dir.getLast? = some '/' then dir ++ name else dir ++ '/' :: name

/-- The search path of an environment that tells none. -/
def standardSearchPath : Text := "/bin:/usr/bin"

/-- The paths by which an executable is looked for, in order: a name with a slash is itself a path,
any other is looked for in the directories of the search path.  An empty search path has none. -/
def candidates (w : World) (name : Text) : List Text :=
  if name.contains '/' then [name]
  else
    match (w.valueOf? "PATH").getD standardSearchPath with
    | [] => []
    | path => (Text.fields ':' path).map (joinName · name)

/-- The executable that a name means, by the first of these paths that leads to one. -/
def which (w : World) (name : Text) : Option Text := (w.candidates name).find? w.isExecutable

end World

end GradleLint
