import GradleLint.Settings.Load

/-!
# The build executable

A project's own wrapper is preferred, when the settings allow it and it can be run.  Otherwise
the executable named in the settings is taken: an absolute path must lead to a file, any other
name must mean an executable.
-/

namespace GradleLint

/-- The wrapper script of a project. -/
def wrapperName : Text := "gradlew"

/-- Why there is no build executable. -/
inductive ToolError where
  | path (e : PathError)
  /-- The configured path leads to no file. -/
  | absent (path : Path)
  /-- The configured name means no executable. -/
  | notOnPath (name : Text)
deriving DecidableEq, Repr

/-- What is said when there is no build executable. -/
def ToolError.message : ToolError → Text
  | .path e => e.message
  | .absent p => "Configured build executable '" ++ p.toText ++ "' does not exist"
  | .notOnPath name => "Build executable '" ++ name ++ "' was not found on PATH"

/-- The executable that the settings name. -/
def World.configuredExecutable (w : World) (s : Settings) : Except ToolError Path := do
  let configured ← (w.expandHome (.ofText s.gradleExecutable)).mapError .path
  if configured.isAbsolute then
    if ← (w.isFile configured.toText).mapError .path then return configured
    else throw (.absent configured)
  else
    match w.which s.gradleExecutable with
    | some found => return ← (w.resolve (.ofText found)).mapError .path
    | none => throw (.notOnPath s.gradleExecutable)

/-- The build executable of a project. -/
def World.buildExecutable (w : World) (root : Path) (s : Settings) : Except ToolError Path := do
  let wrapper := root / .ofText wrapperName
  if s.useWrapper then
    if ← (w.isFile wrapper.toText).mapError .path then
      if w.isExecutable wrapper.toText then
        return ← (w.resolve wrapper).mapError .path
  w.configuredExecutable s

end GradleLint
