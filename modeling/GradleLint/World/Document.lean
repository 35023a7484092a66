import GradleLint.Document
import GradleLint.World.Environment

/-!
# Documents in files

A document can be made of the file at a path.  The bytes of the file are read leniently, so no
content is refused; only a path that leads to no file is.
-/

namespace GradleLint

/-- The document in a file. -/
def World.loadDocument (w : World) (p : Path) (identity : Text) : Except PathError Document :=
  (w.readFile p).map fun data => .create p (Utf8.readText data) identity 0

end GradleLint
