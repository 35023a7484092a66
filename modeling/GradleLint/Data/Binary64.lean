/-!
# Binary floating-point numbers

A decimal number, given as digits and an exponent of ten, is rounded to the nearest number with
a significand of 53 binary digits and an exponent of two from -1074 to 971; a tie goes to the
even significand, and what is too large becomes infinite.
-/

namespace GradleLint

/-- A floating-point number; a finite one is `significand · 2 ^ exponent` with a sign. -/
inductive Binary64 where
  | finite (negative : Bool) (significand : Nat) (exponent : Int)
  | infinite (negative : Bool)
  | notANumber
deriving DecidableEq, Repr

namespace Binary64

/-- A power of two; one for a negative exponent. -/
def twoTo (e : Int) : Nat := Nat.pow 2 e.toNat

/-- A power of ten; one for a negative exponent. -/
def tenTo (e : Int) : Nat := Nat.pow 10 e.toNat

/-- The natural number nearest to `n / d`, the even one of two. -/
def divideToEven (n d : Nat) : Nat :=
  let q := n / d
  let twice := 2 * (n % d)
  if twice < d ∨ (twice = d ∧ q % 2 = 0) then q else q + 1

/-- The number nearest to `n / d`, both positive. -/
def ofRatio (negative : Bool) (n d : Nat) : Binary64 :=
  -- The exponent that leaves 53 or 54 binary digits of the quotient, not below the least one.
  let guess : Int := max (-1074) ((n.log2 : Int) - d.log2 - 53)
  let scaled (e : Int) : Nat × Nat := (n * twoTo (-e), d * twoTo e)
  let (n₀, d₀) := scaled guess
  let e := if n₀ / d₀ < twoTo 53 then guess else guess + 1
  let (n₁, d₁) := scaled e
  let m := divideToEven n₁ d₁
  if 971 < e ∨ (e = 971 ∧ twoTo 53 ≤ m) then .infinite negative else .finite negative m e

/-- The number nearest to `digits · 10 ^ exponent`. -/
def ofDecimal (negative : Bool) (digits : Nat) (exponent : Int) : Binary64 :=
  if digits = 0 then .finite negative 0 0
  else
    -- The decimal exponent of the leading digit decides when the number is out of range.
    let top : Int := (Nat.toDigits 10 digits).length + exponent
    if 310 < top then .infinite negative
    else if top < -330 then .finite negative 0 0
    else ofRatio negative (digits * tenTo exponent) (tenTo (-exponent))

/-- Whether a number is neither infinite nor the mark for no number. -/
def isFinite : Binary64 → Bool
  | .finite .. => true
  | _ => false

/-- The integer a number is, if it is one. -/
def toInt? : Binary64 → Option Int
  | .finite negative m e =>
    let magnitude : Option Nat :=
      if 0 ≤ e then some (m * twoTo e)
      else if m % twoTo (-e) = 0 then some (m / twoTo (-e))
      else none
    magnitude.map fun n => if negative then -(n : Int) else n
  | _ => none

end Binary64

end GradleLint
