import GradleLint.Diagnostic

/-!
# Positions

A position is a line and a column, both counted from one; `offsetAt` turns it into an offset
into a text.  Lines end at line feeds, and one carriage return before a line's end does not
belong to it.  Any integers are accepted: lines before the first count as the first, a line past
the end stands for the end of the text, and a column is cut to the length of its line.

A position marks the character on the left of its offset, so that column one is the first
character of the line: the span of a position is the one character before its offset.
-/

namespace GradleLint

/-- Skips `n` lines; the number of characters skipped and the rest of the text, or nothing when
the text has not that many line feeds. -/
def skipLines : Nat → Text → Option (Nat × Text)
  | 0, t => some (0, t)
  | _ + 1, [] => none
  | n + 1, c :: r =>
    (if c = '\n' then skipLines n r else skipLines (n + 1) r).map fun (k, t) => (k + 1, t)

/-- The first line of a text without its end. -/
def firstLine (t : Text) : Text := Text.dropCarriageReturn (t.takeWhile (· != '\n'))

/-- The offset reached by going to a line and then to a column of it. -/
def offsetAt (t : Text) (line column : Int) : Nat :=
  match skipLines (line.toNat - 1) t with
  | none => t.length
  | some (start, rest) => start + min column.toNat (firstLine rest).length

/-- The span of the one character before a position; empty at offset zero. -/
def spanAt (t : Text) (line column : Int) : Span :=
  let stop := offsetAt t line column
  ⟨stop - 1, stop⟩

/-- A record anchored to a text. -/
def Record.anchor (t : Text) (r : Record) : Diagnostic :=
  { span := spanAt t r.line r.column, severity := r.severity, message := r.message,
    line := r.line, column := r.column }

end GradleLint
