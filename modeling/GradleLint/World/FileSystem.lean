import GradleLint.Path
import GradleLint.World.FileTree

/-!
# File systems

A file system is a file tree with a directory at its top, the root, and the permissions that the
user lacks.  `FileSystem.locate` follows a path as the operating system does: it goes through links,
refuses to go through a file, and gives up after `linkLimit` links.  Names and paths have a greatest
length, which is noticed only where a name is looked up, so a name that is missing on the way hides
one that is too long behind it.  Likewise a directory that may not be searched is noticed only where
the path leads on from it.
-/

namespace GradleLint

/-- A file tree whose top is the root directory, and what the user may not do in it. -/
structure FileSystem where
  root : FileTree := .directory []
  /-- The places of files and directories that cannot be opened. -/
  unreadable : List Place := []
  /-- The places of directories in which nothing can be looked up. -/
  unsearchable : List Place := []

/-- Why a path leads nowhere. -/
inductive LocateError where
  | missing
  | notDirectory
  | tooManyLinks
  /-- A name on the way, or the whole path, is too long. -/
  | nameTooLong
  /-- The path holds a null character, which ends a text for the operating system. -/
  | nullCharacter
  /-- The user lacks a permission. -/
  | forbidden
deriving DecidableEq, Repr

/-- Whether the operating system refuses to look where the path leads.  Any other error says that
the path leads nowhere. -/
def LocateError.isRefusal : LocateError → Bool
  | .nameTooLong | .forbidden => true
  | _ => false

namespace FileSystem

/-- The most links that are followed on the way to one entry. -/
def linkLimit : Nat := 40

/-- The most octets of UTF-8 in a name. -/
def nameLimit : Nat := 255

/-- The most octets of UTF-8 in a path. -/
def pathLimit : Nat := 4095

/-- The octets of UTF-8 that a text takes. -/
def octets : Text → Nat
  | [] => 0
  | c :: r => c.utf8Size + octets r

/-- The file system that holds the given entries and the directories on the way to them. -/
def ofEntries (entries : List (Place × Entry)) : FileSystem :=
  { root :=
      entries.foldl (fun t e => if e.1 = [] then t else .insert (.ofEntry e.2) t e.1)
        (.directory []) }

/-- Whether a directory stands at a place. -/
def hasDirectory (fs : FileSystem) (p : Place) : Bool :=
  match fs.root.find? p with
  | some (.directory _) => true
  | _ => false

/-- Whether what stands at a place can be opened. -/
def canOpen (fs : FileSystem) (p : Place) : Bool := p ∉ fs.unreadable

/-- The way from the root to a place. -/
def trailTo (fs : FileSystem) (p : Place) : Trail := p.foldl (Trail.enter fs.root) []

/-- The steps of a path as the operating system takes them.  A slash at the end asks for a
directory, which an empty step stands for. -/
def stepsOf (t : Text) : List Text :=
  (t.fields '/').filter (· ≠ []) ++ if t.getLast? = some '/' then [[]] else []

/-- Where a link or a path starts, seen from the directory at the end of `way`. -/
def startOf (way : Trail) (t : Text) : Trail := if Path.anchorOf t = .relative then way else []

/-- Takes steps from the directory at the end of `way`, following at most `links` links; the place
arrived at and its entry.  Any step that is not empty needs a directory that may be searched. -/
def walk (fs : FileSystem) (links : Nat) (way : Trail) (steps : List Text) :
    Except LocateError (Place × Entry) :=
  match steps with
  | [] => .ok (way.names, .directory)
  | s :: rest =>
    if s = [] then walk fs links way rest
    else if way.names ∈ fs.unsearchable then .error .forbidden
    else if s = ['.'] then walk fs links way rest
    else if s = ['.', '.'] then walk fs links way.tail rest
    else if nameLimit < octets s then .error .nameTooLong
    else
      match (way.tree fs.root).child? s with
      | none => .error .missing
      | some (.directory children) => walk fs links ((s, .directory children) :: way) rest
      | some (.file data executable) =>
        if rest = [] then .ok (way.names ++ [s], .file data executable) else .error .notDirectory
      | some (.link target) =>
        match links with
        | 0 => .error .tooManyLinks
        | links + 1 => walk fs links (startOf way target) (stepsOf target ++ rest)
termination_by (links, steps.length)

/-- The place and the entry a path leads to from the working directory `cwd`. -/
def locate (fs : FileSystem) (cwd : Place) (t : Text) : Except LocateError (Place × Entry) :=
  if t.contains '\x00' then .error .nullCharacter
  else if t = [] then .error .missing
  else if pathLimit < octets t then .error .nameTooLong
  else walk fs linkLimit (startOf (fs.trailTo cwd) t) (stepsOf t)

end FileSystem

end GradleLint
