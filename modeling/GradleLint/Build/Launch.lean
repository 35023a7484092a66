import GradleLint.World.Environment

/-!
# Launching a build process

A command is a list of arguments, the first of which names the program.  Before a process is
started the name is replaced by an absolute path, or by what the search path has for it.  An
operating system failure, also one to find the program, is told apart from a command that cannot
be one.
-/

namespace GradleLint

/-- Why a command has no program. -/
inductive CommandError where
  /-- The command has no arguments. -/
  | empty
  /-- No executable has the given name. -/
  | notFound (name : Text)
deriving DecidableEq, Repr

/-- What is said about a command without program. -/
def CommandError.message : CommandError → Text
  | .empty => "subprocess command requires at least one argument"
  | .notFound name => "Executable '" ++ name ++ "' was not found on PATH"

/-- The command with its program as a path. -/
def World.normalizeCommand (w : World) : List Text → Except CommandError (List Text)
  | [] => .error .empty
  | head :: rest =>
    let path := Path.ofText head
    if path.isAbsolute then .ok (path.toText :: rest)
    else
      match w.which head with
      | some found => .ok (found :: rest)
      | none => .error (.notFound head)

/-- A process to be started: its arguments, its working directory, and the environment variables
in which it differs from the world, if it has an environment of its own. -/
structure Launch where
  args : List Text
  dir : Text
  environment : Option (List (Text × Text))
deriving DecidableEq, Repr

/-- The environment given to a process, as far as it differs; an empty one counts as none. -/
def World.changedVariables (w : World) : List (Text × Text) → Option (List (Text × Text))
  | [] => none
  | vs => some (vs.filter fun v => w.valueOf? v.1 != some v.2)

/-- The process that a command asks for. -/
def World.launch (w : World) (command : List Text) (dir : Path) (env : List (Text × Text)) :
    Except CommandError Launch :=
  (w.normalizeCommand command).map fun args => ⟨args, dir.toText, w.changedVariables env⟩

/-- Why the process that a command asks for cannot be started. -/
inductive Refusal where
  /-- The operating system refuses. -/
  | system (e : SystemError)
  /-- The arguments, the directory or the environment are none that a process can have. -/
  | unfit (message : Text)
deriving DecidableEq, Repr

/-! ## Killing -/

/-- What comes of killing the process group of a process. -/
inductive KillReply where
  | delivered
  /-- The group has already gone. -/
  | gone
  /-- The operating system refuses. -/
  | refused (e : SystemError)
deriving DecidableEq, Repr

end GradleLint
