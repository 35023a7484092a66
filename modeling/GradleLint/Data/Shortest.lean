import GradleLint.Data.Binary64
import GradleLint.Text.Basic

/-!
# The shortest decimal of a floating-point number

Among the decimals that round to a number the ones with the fewest digits are looked for, and of
these the one nearest to the number.  All comparisons are between natural numbers: the number is
`m · 2 ^ e`, the decimals that round to it are those between the midpoints to its neighbours, and
the midpoints themselves belong to them when `m` is even.

The decimal is written in positional notation when its point stands at most sixteen places behind
the first digit and at most three places before it, and with an exponent otherwise.
-/

namespace GradleLint

namespace Binary64

/-- A decimal: digits, and the place of the point behind the first of them. -/
structure Decimal where
  digits : Text
  point : Int
deriving DecidableEq, Repr

/-- Whether `n · 10 ^ k` rounds to `m · 2 ^ e`, which has the midpoints `m · 2 ^ e` plus
`2 ^ (e - 1)` and minus half of the distance to the next lower number. -/
def roundsTo (m : Nat) (e : Int) (n : Nat) (k : Int) : Bool :=
  -- Everything is counted in units of `2 ^ (e - 2)`.
  let unit := e - 2
  let below := if m = twoTo 52 ∧ -1074 < e then 1 else 2
  let x := n * tenTo k * twoTo (-unit)
  let scale := tenTo (-k) * twoTo unit
  let low := (4 * m - below) * scale
  let high := (4 * m + 2) * scale
  if m % 2 = 0 then low ≤ x && x ≤ high else low < x && x < high

/-- The decimal with `n` digits nearest to `m · 2 ^ e` on the grid whose last digit counts
`10 ^ k`, if it rounds to the number. -/
def onGrid? (m : Nat) (e : Int) (k : Int) : Option Nat :=
  let num := m * twoTo e * tenTo (-k)
  let den := twoTo (-e) * tenTo k
  let low := num / den
  let near := divideToEven num den
  if roundsTo m e near k then some near
  else if roundsTo m e low k then some low
  else if roundsTo m e (low + 1) k then some (low + 1)
  else none

/-- The decimal exponent of the leading digit of `m · 2 ^ e`. -/
def leadingExponent (m : Nat) (e : Int) : Int :=
  let num := m * twoTo e
  let den := twoTo (-e)
  if den ≤ num then (Nat.toDigits 10 (num / den)).length - 1
  else
    -- The quotient below one is scaled up until its leading digit is before the point.
    let shift : Nat := (Nat.toDigits 10 (den / num)).length
    (Nat.toDigits 10 (num * tenTo shift / den)).length - 1 - (shift : Int)

/-- The first grid, from the coarsest on, that has a decimal for the number. -/
def search (m : Nat) (e : Int) (top : Int) : Nat → Nat → Decimal
  | 0, n => ⟨Nat.toDigits 10 n, top⟩
  | fuel + 1, n =>
    let k := top - n
    match onGrid? m e k with
    | some d =>
      let ds := Nat.toDigits 10 d
      ⟨ds, k + ds.length⟩
    | none => search m e top fuel (n + 1)

/-- The shortest decimal of a positive number. -/
def shortest (m : Nat) (e : Int) : Decimal :=
  let (m, e) := if m = twoTo 53 then (twoTo 52, e + 1) else (m, e)
  let d := search m e (leadingExponent m e) 18 0
  let ds := (d.digits.reverse.dropWhile (· == '0')).reverse
  ⟨ds, d.point⟩

/-- A decimal in positional notation or with an exponent. -/
def Decimal.toText (d : Decimal) : Text :=
  let n : Int := d.digits.length
  if -4 < d.point ∧ d.point ≤ 16 then
    if d.point ≤ 0 then "0." ++ List.replicate (-d.point).toNat '0' ++ d.digits
    else if n ≤ d.point then d.digits ++ List.replicate (d.point - n).toNat '0' ++ ".0"
    else d.digits.take d.point.toNat ++ "." ++ d.digits.drop d.point.toNat
  else
    let exponent := d.point - 1
    let magnitude := Text.ofNat exponent.natAbs
    d.digits.take 1 ++ (if d.digits.length ≤ 1 then [] else '.' :: d.digits.drop 1)
      ++ (if exponent < 0 then "e-" else "e+")
      ++ List.replicate (2 - magnitude.length) '0' ++ magnitude

/-- The text of a number. -/
def toText : Binary64 → Text
  | .notANumber => "nan"
  | .infinite negative => if negative then "-inf" else "inf"
  | .finite negative m e =>
    let magnitude : Text := if m = 0 then "0.0" else (shortest m e).toText
    if negative then '-' :: magnitude else magnitude

end Binary64

end GradleLint
