import GradleLint.World.FileSystem

/-!
# Routes

A route is what has been gone so far of a path whose links are followed.  `FileSystem.follow` goes
the whole path, puts for each link what it stands for, and does not ask that anything exists.

A link that leads back to itself is left as it stands, together with the rest of the path, and the
slashes in front of that rest may then make it a path of its own.  Links may name one another many
times over, so what a link stands for is found out once and kept.

A link is known by the path by which it is reached.  Relative links that climb above the root are
reached by a longer path each time round, so that no path is met twice.  Such a circle ends when the
paths are too long to be looked up, or before that when no more links can be followed inside one
another, and then following fails.
-/

namespace GradleLint

namespace FileSystem

/-! ## Paths as they are written -/

/-- Takes one step from the place whose names are given last to first. -/
def stepBack (names : Place) (s : Text) : Place :=
  if s = [] ∨ s = ['.'] then names else if s = ['.', '.'] then names.tail else s :: names

/-- Removes single dots and empty names, and `..` together with the name before it. -/
def collapse (steps : List Text) : Place := (steps.foldl stepBack []).reverse

/-- The place a path without links names, seen from the working directory `cwd`. -/
def placeOf (cwd : Place) (p : Path) : Place :=
  collapse (if p.isAbsolute then p.parts else cwd ++ p.parts)

/-- The steps of a path or link as they are written; an empty step is one that a doubled slash, or
a slash at the end, leaves. -/
def writtenSteps (t : Text) : List Text := t.fields '/'

/-- Whether the operating system can look at what is at the end of a path without links: the path is
not too long, and every directory that it leads through may be searched. -/
def Reaches (fs : FileSystem) (cwd : Place) (p : Path) : Prop :=
  octets p.toText ≤ pathLimit ∧
    ∀ place ∈ fs.unsearchable, ∀ above ∈ p.parent.selfAndAncestors, placeOf cwd above ≠ place

instance (fs : FileSystem) (cwd : Place) (p : Path) : Decidable (fs.Reaches cwd p) :=
  inferInstanceAs (Decidable (octets p.toText ≤ pathLimit ∧
    ∀ place ∈ fs.unsearchable, ∀ above ∈ p.parent.selfAndAncestors, placeOf cwd above ≠ place))

/-- The path `p` with the steps behind it as they stand.  Slashes in front of the steps make them a
path of their own, which starts where those slashes say. -/
def leftAsIs (p : Path) (steps : List Text) : Path := p / Path.ofText (Text.join ['/'] steps)

/-! ## Going on by one step -/

/-- A path in which links are being followed: where it starts, and the way gone from there, which
has no links. -/
structure Route where
  anchor : Anchor
  way : Trail

namespace Route

/-- The path gone so far. -/
def path (r : Route) : Path := ⟨r.anchor, r.way.names⟩

/-- Where steps start that lead on from `r`: at the root if a slash is in front of them. -/
def startFrom (r : Route) : List Text → Route
  | [] :: _ :: _ => ⟨.root, []⟩
  | _ => r

/-- Goes on by a name. -/
def enter (fs : FileSystem) (cwd : Place) (r : Route) (name : Text) : Route :=
  let top := if r.anchor = .relative then (fs.trailTo cwd).tree fs.root else fs.root
  { r with way := r.way.enter top name }

/-- Goes one step up.  Above its start a relative path goes on with `..`. -/
def oneUp (fs : FileSystem) (cwd : Place) (r : Route) : Route :=
  let above : Route :=
    let up : Trail := (fs.trailTo cwd).drop (r.way.length + 1)
    { r with way := (['.', '.'], up.tree fs.root) :: r.way }
  match r.way with
  | [] => if r.anchor = .relative then above else r
  | (name, _) :: rest => if name = ['.', '.'] then above else { r with way := rest }

/-- The target of the link at the end of the path, if a link is there that can be looked at. -/
def link? (fs : FileSystem) (cwd : Place) (r : Route) : Option Text :=
  match r.way with
  | (_, .link target) :: _ => if fs.Reaches cwd r.path then some target else none
  | _ => none

end Route

/-! ## Going the whole path -/

/-- Where following the links of a path ends. -/
inductive Followed where
  /-- At a path without links, with the links that have been followed so far: the path by which
  each was reached, and what it stands for. -/
  | free (r : Route) (known : List (Path × Route))
  /-- At a link that leads back to itself; it and the rest of the path stand as they did. -/
  | looped (p : Path)

/-- The path at which following links ends. -/
def Followed.path : Followed → Path
  | .free r _ => r.path
  | .looped p => p

/-- Why the links of a path cannot be followed. -/
inductive FollowError where
  /-- A name holds a null character. -/
  | nullCharacter
  /-- Too many links are to be followed inside one another. -/
  | tooDeep
  /-- What comes of it is relative to a working directory that has been removed. -/
  | removed
deriving DecidableEq, Repr

/-- Follows the links among the steps that lead on from `r`.  The paths in `busy` are those by which
the links being followed were reached, and a link reached by one of them leads back to itself.  A
link that is `known` is not followed again.  At most `depth` links are followed inside one
another. -/
def followSteps (fs : FileSystem) (cwd : Place) (depth : Nat) (busy : List Path)
    (known : List (Path × Route)) (r : Route) (steps : List Text) : Except FollowError Followed :=
  match steps with
  | [] => .ok (.free r known)
  | s :: rest =>
    if s = [] ∨ s = ['.'] then followSteps fs cwd depth busy known r rest
    else if s = ['.', '.'] then followSteps fs cwd depth busy known (r.oneUp fs cwd) rest
    else if s.contains '\x00' then .error .nullCharacter
    else
      let next := r.enter fs cwd s
      match next.link? fs cwd with
      | none => followSteps fs cwd depth busy known next rest
      | some target =>
        let here := next.path
        match known.lookup here with
        | some q => followSteps fs cwd depth busy known q rest
        | none =>
          if here ∈ busy then .ok (.looped (leftAsIs here rest))
          else
            match depth with
            | 0 => .error .tooDeep
            | depth + 1 =>
              let steps := writtenSteps target
              match followSteps fs cwd depth (here :: busy) known (r.startFrom steps) steps with
              | .ok (.free q known) =>
                followSteps fs cwd (depth + 1) busy ((here, q) :: known) q rest
              | .ok (.looped q) => .ok (.looped (leftAsIs q rest))
              | .error e => .error e
termination_by (depth, steps.length)

/-- The absolute path that a path without links stands for. -/
def absolute (fs : FileSystem) (cwd : Place) (p : Path) : Except FollowError Path :=
  if p.isAbsolute then .ok ⟨p.anchor, placeOf cwd p⟩
  else if fs.hasDirectory cwd then .ok ⟨.root, placeOf cwd p⟩
  else .error .removed

/-- The absolute path that a path stands for once its links are followed. -/
def follow (fs : FileSystem) (depth : Nat) (cwd : Place) (t : Text) : Except FollowError Path := do
  let steps := writtenSteps t
  let followed ← followSteps fs cwd depth [] [] (Route.startFrom ⟨.relative, []⟩ steps) steps
  fs.absolute cwd followed.path

/-- How many links a program usually can follow inside one another. -/
def usualDepth : Nat := 900

/-- The place that a path stands for, seen from the root; the root if it cannot be followed. -/
def destination (fs : FileSystem) (t : Text) : Place :=
  match fs.follow usualDepth [] t with
  | .ok p => p.parts
  | .error _ => []

end FileSystem

end GradleLint
