import GradleLint.Path

/-!
# Documents

A document is a text with the path of the file behind it.  Its identity, which tells apart the
documents being linted, is the path unless another one is given.
-/

namespace GradleLint

/-- A document that is being edited. -/
structure Document where
  path : Path
  content : Text
  identity : Text
  version : Int
deriving DecidableEq, Repr

namespace Document

/-- A document; an empty identity stands for the path. -/
def create (path : Path) (content identity : Text) (version : Int) : Document :=
  { path, content, version, identity := if identity.isEmpty then path.toText else identity }

/-- Replaces the content, which makes a new version. -/
def update (d : Document) (content : Text) : Document :=
  { d with content, version := d.version + 1 }

end Document

end GradleLint
