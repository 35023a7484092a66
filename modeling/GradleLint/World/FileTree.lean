import GradleLint.Text.Utf8

/-!
# File trees

A file tree is a file, a link, or a directory with what it holds by name.  A place is the list of
names that leads from the top of a tree to something in it.  Whatever stands at a place, directories
lead to it, because only a directory holds anything.  A trail is a place together with what stands
on the way to it, so that it can be prolonged and taken back one name at a time.
-/

namespace GradleLint

/-- Names leading from the top of a tree to something in it. -/
abbrev Place := List Text

/-- What may stand at a place. -/
inductive Entry where
  | file (data : Bytes) (executable : Bool)
  | directory
  | link (target : Text)
deriving DecidableEq

/-- A file, a link, or a directory with what it holds by name; of several things of one name the
first counts. -/
inductive FileTree where
  | file (data : Bytes) (executable : Bool)
  | link (target : Text)
  | directory (children : List (Text × FileTree))

namespace FileTree

/-- The tree that is no more than an entry. -/
def ofEntry : Entry → FileTree
  | .file data executable => file data executable
  | .link target => link target
  | .directory => directory []

/-- What a tree holds directly under a name. -/
def child? : FileTree → Text → Option FileTree
  | directory children, name => children.lookup name
  | _, _ => none

/-- The tree below a place. -/
def find? (t : FileTree) : Place → Option FileTree
  | [] => some t
  | name :: p =>
    match t.child? name with
    | some child => child.find? p
    | none => none

/-- The tree that holds nothing but `t`, at a place. -/
def alone (t : FileTree) : Place → FileTree
  | [] => t
  | name :: p => directory [(name, alone t p)]

/-- Changes what has a name, or puts `new` under the name if nothing has it. -/
def changeChild (name : Text) (change : FileTree → FileTree) (new : FileTree) :
    List (Text × FileTree) → List (Text × FileTree)
  | [] => [(name, new)]
  | (n, t) :: rest =>
    if n = name then (n, change t) :: rest else (n, t) :: changeChild name change new rest

/-- What comes of putting `new` where `t` is.  A directory makes room for a file or a link, as it
may have been made only to hold something else; apart from that what is there stays. -/
def replace (new t : FileTree) : FileTree :=
  match t, new with
  | directory _, directory _ => t
  | directory _, _ => new
  | _, _ => t

/-- Puts `new` at a place, together with the directories that lead there.  A file or a link on the
way is left as it is, and nothing is put below it. -/
def insert (new : FileTree) : FileTree → Place → FileTree
  | t, [] => replace new t
  | t, name :: p =>
    match t with
    | directory children =>
      directory (changeChild name (fun child => insert new child p) (alone new p) children)
    | _ => t

end FileTree

/-- A way down a tree: the names taken, last first, each with the tree that it leads to. -/
abbrev Trail := List (Text × FileTree)

namespace Trail

/-- The tree at the end of a way down from `top`. -/
def tree (top : FileTree) : Trail → FileTree
  | [] => top
  | (_, t) :: _ => t

/-- The names in the order in which they are taken. -/
def names (way : Trail) : Place := (way.map (·.1)).reverse

/-- The way with one more name.  Where there is nothing, an empty directory stands for it, as there
is nothing below either. -/
def enter (top : FileTree) (way : Trail) (name : Text) : Trail :=
  (name, ((tree top way).child? name).getD (.directory [])) :: way

end Trail

end GradleLint
