import GradleLint.Severity

/-!
# Diagnostics

A `Record` is a problem as a build tool writes it down, at a line and a column.  A `Diagnostic`
is a record anchored to a `Span` of a document's text.
-/

namespace GradleLint

/-- The characters of a text from offset `start` up to, not including, offset `stop`. -/
structure Span where
  start : Nat
  stop : Nat
deriving DecidableEq, Repr

/-- The characters a span covers; none when it stops before it starts. -/
def Span.slice (s : Span) (t : Text) : Text := (t.take s.stop).drop s.start

/-- A problem that a build tool reported; lines and columns count from one. -/
structure Record where
  severity : Severity
  line : Int
  column : Int
  message : Text
deriving DecidableEq, Repr

/-- A problem together with the span of the document it concerns. -/
structure Diagnostic where
  span : Span
  severity : Severity
  message : Text
  line : Int
  column : Int
deriving DecidableEq, Repr

end GradleLint
