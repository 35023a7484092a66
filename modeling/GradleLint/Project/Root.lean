import GradleLint.Settings.Load

/-!
# Project roots

The root of the project that a file belongs to is found by going up from its directory.  The
nearest directory with one of the root markers wins over any with a fallback marker only.  Which
markers these are is itself a setting; it is taken from the nearest directory that carries
settings of its own, or else is the default.

The directories on the way up are the shortenings of the path as it was given, each made absolute
on its own.
-/

namespace GradleLint

/-- Why no project root is found. -/
inductive RootError where
  | path (e : PathError)
  | settings (e : SettingsError)
  /-- No directory above the file has a marker. -/
  | noProject (file : Path)
deriving DecidableEq, Repr

/-- What is said when no project root is found. -/
def RootError.message : RootError → Text
  | .path e => e.message
  | .settings e => e.message
  | .noProject file => "No Gradle project found above " ++ file.toText

/-- The first hit among the directories that the paths stand for. -/
def World.searchUp {ε α : Type} (w : World) (raise : PathError → ε)
    (test : Path → Except ε (Option α)) : List Path → Except ε (Option α)
  | [] => .ok none
  | p :: ps => do
    let dir ← (w.resolve p).mapError raise
    match ← test dir with
    | some a => return some a
    | none => searchUp w raise test ps

/-- Whether a directory has one of the markers, which are looked up in order until one is there; a
marker may be a path. -/
def World.hasMarker (w : World) (dir : Path) : List Text → Except PathError Bool
  | [] => .ok false
  | m :: ms => do
    if ← w.occupied (dir / .ofText m).toText then return true
    else hasMarker w dir ms

/-- The nearest directory with one of the markers. -/
def World.nearestWith (w : World) (start : Path) (markers : List Text) :
    Except PathError (Option Path) :=
  w.searchUp id (fun dir => do return if ← w.hasMarker dir markers then some dir else none)
    start.selfAndAncestors

/-- The directory where the search for a file's project starts: the path itself when it is a
directory, else the one above. -/
def World.startDirectory (w : World) (file : Path) : Except PathError Path := do
  let p ← w.expandHome file
  return if ← w.isDirectory p.toText then p else p.parent

/-- The root of the project a file belongs to. -/
def World.findRoot (w : World) (file : Path) (s : Settings) : Except PathError (Option Path) := do
  let start ← w.startDirectory file
  match ← w.nearestWith start s.rootMarkers with
  | some root => return some root
  | none => w.nearestWith start s.fallbackMarkers

/-- The root of the project a file belongs to, or the complaint that there is none. -/
def World.requireRoot (w : World) (file : Path) (s : Settings) : Except RootError Path := do
  match ← (w.findRoot file s).mapError .path with
  | some root => return root
  | none => throw (.noProject file)

/-- The settings of the nearest directory that carries any, if one does. -/
def World.nearestSettings (w : World) (start : Path) : Except RootError (Option Settings) :=
  w.searchUp .path (fun dir => do
      if ← (w.hasSettings dir).mapError .settings then
        return some (← (w.loadSettings dir []).mapError .settings)
      else return none)
    start.selfAndAncestors

/-- The root of the project a file belongs to, together with the settings that located it. -/
def World.discoverRoot (w : World) (file : Path) : Except RootError (Path × Settings) := do
  let start ← (w.startDirectory file).mapError .path
  let s := (← w.nearestSettings start).getD {}
  return (← w.requireRoot file s, s)

end GradleLint
