import GradleLint.Text.Basic

/-!
# Lines

There are three notions of a line here.  `Text.fields '\n'` cuts at line feeds only and is what
positions and build output use.  `Text.lines` cuts at every line boundary of Unicode, a carriage
return with its line feed counting as one, and has no last empty line; it serves the tail of a
failure report.  `Text.unifyBreaks` turns the carriage returns of a text into line feeds, as
is done with every text read from bytes.
-/

namespace GradleLint

/-- A character that ends a line: line feed, vertical tab, form feed, carriage return, the
separators U+001C to U+001E, next line, line separator and paragraph separator. -/
def isLineBreak (c : Char) : Bool :=
  (0x0A ≤ c.toNat && c.toNat ≤ 0x0D) || (0x1C ≤ c.toNat && c.toNat ≤ 0x1E)
    || c.toNat == 0x85 || c.toNat == 0x2028 || c.toNat == 0x2029

namespace Text

/-- The lines of a text without their ends.  A break at the very end opens no further line. -/
def lines : Text → List Text
  | [] => []
  | [c] => if isLineBreak c then [[]] else [[c]]
  | c :: d :: r =>
    if c = '\r' ∧ d = '\n' then [] :: lines r
    else if isLineBreak c then [] :: lines (d :: r)
    else consFirst c (lines (d :: r))

/-- The text with every carriage return, together with a line feed behind it, replaced by one
line feed. -/
def unifyBreaks : Text → Text
  | [] => []
  | [c] => if c = '\r' then ['\n'] else [c]
  | c :: d :: r =>
    if c = '\r' then
      if d = '\n' then '\n' :: unifyBreaks r else '\n' :: unifyBreaks (d :: r)
    else c :: unifyBreaks (d :: r)

end Text

end GradleLint
