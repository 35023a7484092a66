import GradleLint.Data.Validated
import GradleLint.Data.Value
import GradleLint.Data.WrittenInt

/-!
# Readers of scalars

How data are taken for truth values, integers, texts and lists.  The readers are lenient where
the meaning is plain: 1, `1.0` and `"yes"` are true, `"+7"` and `7.0` are seven.  Texts must be
texts.  A float stands for an integer, and an integer for a truth value, only as far as it fits
into a word of 64 bits.
-/

namespace GradleLint

namespace Value

/-! ## Truth values -/

/-- The truth value that a word means, whatever the case of its letters. -/
def boolOfWord? (t : Text) : Option Bool :=
  let w := t.map Char.toLower
  if w ∈ (["1", "on", "t", "true", "y", "yes"] : List String).map String.toList then some true
  else if w ∈ (["0", "off", "f", "false", "n", "no"] : List String).map String.toList then
    some false
  else none

/-- Whether an integer fits into a signed word of 64 bits. -/
def fitsWord (n : Int) : Bool := -9223372036854775808 ≤ n && n ≤ 9223372036854775807

/-- The integer that a float means: it must be finite and without a fraction, and lie strictly
between the bounds of a signed word of 64 bits. -/
def intOfFloat (x : Binary64) : Validated Int :=
  if x.isFinite then
    match x.toInt? with
    | none => .fail .fractional
    | some n =>
      if -9223372036854775808 < n ∧ n < 9223372036854775808 then .valid n
      else .fail .oversizedInt
  else .fail .notFinite

/-- The truth value that a number means. -/
def boolOfInt (n : Int) : Validated Bool :=
  if n = 0 then .valid false
  else if n = 1 then .valid true
  else if fitsWord n then .fail .unreadableBool
  else .fail .notBool

/-- Reads a truth value. -/
def readBool : Value → Validated Bool
  | bool b => .valid b
  | int n => boolOfInt n
  | text t => ((boolOfWord? t).map .valid).getD (.fail .unreadableBool)
  | float x =>
    match intOfFloat x with
    | .valid n => boolOfInt n
    | .invalid _ => .fail .notBool
  | _ => .fail .notBool

/-! ## Integers -/

/-- Reads an integer. -/
def readInt : Value → Validated Int
  | int n => .valid n
  | bool b => .valid (if b then 1 else 0)
  | float x => intOfFloat x
  | text t =>
    match WrittenInt.read t with
    | .int n => .valid n
    | .oversized => .fail .oversizedInt
    | .unreadable => .fail .unreadableInt
  | _ => .fail .notInt

/-- Reads an integer that must not be below `least`. -/
def readIntFrom (least : Int) (v : Value) : Validated Int :=
  match readInt v with
  | .valid n => if least ≤ n then .valid n else .fail .belowMinimum
  | .invalid is => .invalid is

/-! ## Texts, lists and absent values -/

/-- Reads a text. -/
def readText : Value → Validated Text
  | text t => .valid t
  | _ => .fail .notText

/-- Reads a list of texts. -/
def readTexts : Value → Validated (List Text)
  | list vs => .items readText 0 vs
  | _ => .fail .notList

/-- Reads a value that may be null. -/
def readOption {α : Type} (read : Value → Validated α) : Value → Validated (Option α)
  | null => .valid none
  | v => (read v).map some

end Value

/-! ## Fields of a table -/

namespace Table

variable {α : Type}

/-- Reads the value of a name that must be there. -/
def field (t : Table) (name : Text) (read : Value → Validated α) : Validated α :=
  match t.get? name with
  | none => .invalid [⟨[.field name], .missing⟩]
  | some v => .under (.field name) (read v)

/-- Reads the value of a name, or takes `fallback` when it is not there. -/
def fieldOr (t : Table) (name : Text) (fallback : α) (read : Value → Validated α) : Validated α :=
  match t.get? name with
  | none => .valid fallback
  | some v => .under (.field name) (read v)

end Table

/-- Reads a table and goes on with it. -/
def Value.readTable {α : Type} (read : Table → Validated α) : Value → Validated α
  | .table t => read t
  | _ => .fail .notModel

end GradleLint
