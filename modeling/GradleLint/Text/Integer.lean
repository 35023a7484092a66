import GradleLint.Text.Blank
import GradleLint.Text.Digit

/-!
# Numerals of integers

A numeral is a sign, which may be absent, and digits of any script with at most one underscore
between two neighbours, all of it possibly surrounded by spacing.  More than `digitLimit` digits
are refused, leading zeros counting as digits.
-/

namespace GradleLint

namespace Numeral

/-- The greatest number of digits a numeral may have. -/
def digitLimit : Nat := 4300

/-- The digits of a text in which neighbours are separated by at most one underscore. -/
def digits? : Text → Option (List Nat)
  | [] => none
  | [c] => (digitValue? c).map ([·])
  | c :: d :: r =>
    match digitValue? c with
    | none => none
    | some v => if d = '_' then (digits? r).map (v :: ·) else (digits? (d :: r)).map (v :: ·)

/-- The number with the given decimal digits. -/
def value (ds : List Nat) : Nat := ds.foldl (fun n d => n * 10 + d) 0

/-- The sign of a numeral, true for minus, and what follows it. -/
def sign : Text → Bool × Text
  | [] => (false, [])
  | c :: r => if c = '-' then (true, r) else if c = '+' then (false, r) else (false, c :: r)

/-- The integer a numeral stands for. -/
def parse? (t : Text) : Option Int :=
  let (negative, body) := sign (t.trimBy isSpacing)
  match digits? body with
  | none => none
  | some ds =>
    if ds.length ≤ digitLimit then some (if negative then -(value ds : Int) else value ds) else none

end Numeral

end GradleLint
