import GradleLint.Text.Basic

/-!
# Paths

A path is an anchor, which says where it starts, and the list of its parts.  Reading a path
drops empty parts and parts that are a single dot, but keeps `..`, whose meaning depends on the
links of a file system.  Exactly two slashes in front are an anchor of their own, three or more
count as one.
-/

namespace GradleLint

/-- Where a path starts. -/
inductive Anchor where
  /-- At the working directory. -/
  | relative
  /-- At the root of the file system. -/
  | root
  /-- At the root, written with two slashes. -/
  | doubleRoot
deriving DecidableEq, Repr

/-- A path by its anchor and its parts from left to right. -/
structure Path where
  anchor : Anchor
  parts : List Text
deriving DecidableEq, Repr

namespace Path

/-! ## Reading and writing -/

/-- The anchor a text starts with. -/
def anchorOf : Text → Anchor
  | '/' :: '/' :: '/' :: _ => .root
  | '/' :: '/' :: _ => .doubleRoot
  | '/' :: _ => .root
  | _ => .relative

/-- The parts of a text between slashes, without the empty ones and single dots. -/
def partsOf (t : Text) : List Text := (t.fields '/').filter fun p => p ≠ [] ∧ p ≠ ['.']

/-- The path a text names. -/
def ofText (t : Text) : Path := ⟨anchorOf t, partsOf t⟩

/-- The slashes an anchor is written with. -/
def Anchor.toText : Anchor → Text
  | .relative => []
  | .root => ['/']
  | .doubleRoot => ['/', '/']

/-- The text that names a path; the path without anchor and parts is a single dot. -/
def toText (p : Path) : Text :=
  if p.anchor = .relative ∧ p.parts = [] then ['.']
  else Anchor.toText p.anchor ++ Text.join ['/'] p.parts

/-- Whether a path starts at the root. -/
def isAbsolute (p : Path) : Bool := p.anchor != .relative

/-! ## Parts of a path -/

/-- The last part, empty when there is none. -/
def name (p : Path) : Text := p.parts.getLast?.getD []

/-- The tail of `t` from its last dot, if it has a dot. -/
def fromLastDot : Text → Option Text
  | [] => none
  | c :: r =>
    match fromLastDot r with
    | some s => some s
    | none => if c = '.' then some (c :: r) else none

/-- The name from its last dot, empty when that dot is the first or last character of the
name. -/
def suffix (p : Path) : Text :=
  match fromLastDot p.name with
  | none => []
  | some s => if s.length = p.name.length ∨ s.length = 1 then [] else s

/-- The path without its last part. -/
def parent (p : Path) : Path := { p with parts := p.parts.dropLast }

/-- The paths with the anchor `a` that keep ever fewer of the parts, longest first, down to
none. -/
def shortenings (a : Anchor) : List Text → List Path
  | [] => [⟨a, []⟩]
  | p :: ps => (shortenings a ps).map (fun q => { q with parts := p :: q.parts }) ++ [⟨a, []⟩]

/-- The path itself and what is left as its parts are dropped from the right. -/
def selfAndAncestors (p : Path) : List Path := shortenings p.anchor p.parts

/-- The path `q` taken from the directory `p`; an absolute `q` stands for itself. -/
def resolveAgainst (p q : Path) : Path :=
  if q.isAbsolute then q else { p with parts := p.parts ++ q.parts }

instance : Div Path := ⟨resolveAgainst⟩

end Path

end GradleLint
