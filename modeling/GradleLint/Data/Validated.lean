import GradleLint.Text.Basic

/-!
# Validation

A validation either gives a value or lists every issue it met, each with its place in the data
and its kind.  Combining validations with `<*>` keeps the issues of both sides, left before
right, so the issues of a record come in the order of its fields.
-/

namespace GradleLint

/-- One step on the way to a place in the data. -/
inductive Step where
  | field (name : Text)
  | item (index : Nat)
deriving DecidableEq, Repr

/-- The kinds of issues. -/
inductive Fault where
  | missing
  | belowMinimum
  | notModel
  | notObject
  | notBool
  | unreadableBool
  | notInt
  | unreadableInt
  | oversizedInt
  | fractional
  | notFinite
  | notText
  | notList
  | notTuple
  | notChoice
  | wrongTag
  | unknownTag
  | missingTag
  | frozen
  | unknownField
deriving DecidableEq, Repr

/-- The word that names a kind of issue. -/
def Fault.word : Fault → Text
  | .missing => "missing"
  | .belowMinimum => "greater_than_equal"
  | .notModel => "model_type"
  | .notObject => "model_attributes_type"
  | .notBool => "bool_type"
  | .unreadableBool => "bool_parsing"
  | .notInt => "int_type"
  | .unreadableInt => "int_parsing"
  | .oversizedInt => "int_parsing_size"
  | .fractional => "int_from_float"
  | .notFinite => "finite_number"
  | .notText => "string_type"
  | .notList => "list_type"
  | .notTuple => "tuple_type"
  | .notChoice => "enum"
  | .wrongTag => "literal_error"
  | .unknownTag => "union_tag_invalid"
  | .missingTag => "union_tag_not_found"
  | .frozen => "frozen_instance"
  | .unknownField => "no_such_attribute"

/-- A fault at a place. -/
structure Issue where
  place : List Step
  fault : Fault
deriving DecidableEq, Repr

/-- A value, or the issues that stand against it. -/
inductive Validated (α : Type) where
  | valid (a : α)
  | invalid (issues : List Issue)
deriving DecidableEq, Repr

namespace Validated

variable {α β : Type}

/-- Applies a function to a valid value. -/
protected def map (f : α → β) : Validated α → Validated β
  | valid a => valid (f a)
  | invalid is => invalid is

/-- Applies a validated function; the issues of both sides are kept. -/
protected def seq : Validated (α → β) → (Unit → Validated α) → Validated β
  | valid f, a => (a ()).map f
  | invalid is, a =>
    match a () with
    | valid _ => invalid is
    | invalid js => invalid (is ++ js)

instance : Applicative Validated where
  pure := valid
  seq := Validated.seq

/-- A fault at the place in hand. -/
def fail (f : Fault) : Validated α := invalid [⟨[], f⟩]

/-- The same validation seen from one step further out. -/
def under (s : Step) : Validated α → Validated α
  | valid a => valid a
  | invalid is => invalid (is.map fun i => { i with place := s :: i.place })

/-- Validates the items of a list, each at its index from `index` on. -/
def items (read : β → Validated α) (index : Nat) : List β → Validated (List α)
  | [] => valid []
  | b :: bs => List.cons <$> under (.item index) (read b) <*> items read (index + 1) bs

end Validated

end GradleLint
