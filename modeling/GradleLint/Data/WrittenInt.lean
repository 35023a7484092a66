import GradleLint.Text.Integer

/-!
# Integers written as texts in data

Data may hold an integer as a text: ASCII digits behind a sign, which may be absent.  Around them
the reader allows spacing; in front of them, zeros; behind them, a fraction of zeros; and between
two of them, one underscore.  The form is reduced step by step, first the sign, then the zeros,
then the fraction, then the underscores; the minus sign comes back in front of what is left, and
that must be a plain numeral.  The order of the steps decides the odd forms: among the zeros in
front underscores are free, and a minus sign may follow them if none stood before.

A text that, as it stands, starts with too many digits is refused for its size.  Too many digits
that only the reduction brings to light make the text unreadable.
-/

namespace GradleLint

namespace WrittenInt

/-- Whether a numeral may start here: at a digit other than zero, or at a minus sign. -/
def startsBody (c : Char) : Bool := (c.isDigit && c != '0') || c == '-'

/-- What follows the zeros and underscores in front of a numeral, whose last one is `last`.  It is
kept when nothing follows it, or when a point does. -/
def afterZeros (last : Char) : Text → Option Text
  | [] => some [last]
  | c :: r =>
    if c = '0' ∨ c = '_' then afterZeros c r
    else if c = '.' then some (last :: c :: r)
    else if startsBody c then some (c :: r)
    else none

/-- A numeral without the zeros in front of it. -/
def dropZeros? : Text → Option Text
  | [] => none
  | c :: r => if c = '0' then afterZeros c r else if startsBody c then some (c :: r) else none

/-- The sign of a numeral, true for minus, and what follows it.  A plus sign before a minus sign is
no sign. -/
def sign? : Text → Option (Bool × Text)
  | '+' :: '-' :: _ => none
  | '+' :: r => some (false, r)
  | '-' :: r => some (true, r)
  | t => some (false, t)

/-- A numeral without a fraction of zeros.  A point without a fraction stays. -/
def dropFraction (t : Text) : Text :=
  match t.dropWhile (· != '.') with
  | _ :: c :: r => if (c :: r).all (· == '0') then t.takeWhile (· != '.') else t
  | _ => t

/-- Whether two underscores are neighbours. -/
def doubled : Text → Bool
  | c :: d :: r => (c == '_' && d == '_') || doubled (d :: r)
  | _ => false

/-- A numeral without its underscores.  They stay when one of them stands at an end or beside
another. -/
def dropUnderscores (t : Text) : Text :=
  if t.head? = some '_' ∨ t.getLast? = some '_' ∨ doubled t then t else t.filter (· != '_')

/-- The plain numeral that a text is reduced to, if it has the form of an integer. -/
def reduce? (t : Text) : Option Text := do
  let (negative, unsigned) ← sign? (Text.trimBy isSpacing t)
  let body ← dropZeros? unsigned
  let body := dropUnderscores (dropFraction body)
  return if negative then '-' :: body else body

/-- The sign of a plain numeral, true for minus, and what follows it. -/
def plainSign : Text → Bool × Text
  | '-' :: r => (true, r)
  | t => (false, t)

/-- The integer of a plain numeral: a minus sign, which may be absent, and digits without zeros in
front of them, no more than the limit. -/
def ofPlain? (t : Text) : Option Int :=
  let (negative, body) := plainSign t
  if body ≠ [] ∧ body.all Char.isDigit ∧ (body.head? = some '0' → body = ['0'])
      ∧ body.length ≤ Numeral.digitLimit then
    let n := Numeral.value (body.filterMap digitValue?)
    some (if negative then -(n : Int) else n)
  else none

/-- Whether a text starts, perhaps behind a minus sign, with more digits than the limit allows,
the first of them not zero. -/
def startsOversized (t : Text) : Bool :=
  let digits := (plainSign t).2.takeWhile Char.isDigit
  digits.head? != some '0' && decide (Numeral.digitLimit < digits.length)

/-- What reading a text as an integer gives. -/
inductive Reading where
  | int (n : Int)
  /-- The text starts with more than `Numeral.digitLimit` digits. -/
  | oversized
  | unreadable
deriving DecidableEq, Repr

/-- Reads a text as an integer. -/
def read (t : Text) : Reading :=
  if startsOversized t then .oversized
  else
    match (reduce? t).bind ofPlain? with
    | some n => .int n
    | none => .unreadable

end WrittenInt

end GradleLint
