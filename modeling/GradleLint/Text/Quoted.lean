import GradleLint.Text.Printable

/-!
# Quoted texts

A text is quoted with single quotes, or with double quotes when it holds a single quote and no
double quote.  Between them the backslash and the chosen quote are escaped by a backslash, line
feed, carriage return and tab have letters of their own, and every other unprintable character
is written with the shortest of `\\xhh`, `\\uhhhh` and `\\Uhhhhhhhh` that holds its code point.
-/

namespace GradleLint

namespace Quoted

/-- The quote that surrounds `t`. -/
def mark (t : Text) : Char := if t.contains '\'' && !t.contains '"' then '"' else '\''

/-- The hexadecimal numeral of `n` with at least `width` lower-case digits. -/
def hex (width n : Nat) : Text :=
  let ds := Nat.toDigits 16 n
  List.replicate (width - ds.length) '0' ++ ds

/-- One character between quotes of the kind `q`. -/
def encodeChar (q c : Char) : Text :=
  if c = q ∨ c = '\\' then ['\\', c]
  else if c = '\n' then "\\n"
  else if c = '\r' then "\\r"
  else if c = '\t' then "\\t"
  else if isPrintable c then [c]
  else if c.toNat < 0x100 then "\\x" ++ hex 2 c.toNat
  else if c.toNat < 0x10000 then "\\u" ++ hex 4 c.toNat
  else "\\U" ++ hex 8 c.toNat

/-- The quoted form of a text. -/
def encode (t : Text) : Text :=
  let q := mark t
  q :: t.flatMap (encodeChar q) ++ [q]

/-- The quoted forms of several texts between brackets. -/
def encodeList (ts : List Text) : Text := "[" ++ Text.join ", " (ts.map encode) ++ "]"

end Quoted

end GradleLint
