import GradleLint.Data.Reader
import Mathlib.Data.List.Forall2
import Mathlib.Tactic.Common

/-!
# Valid readings

A validation put together from parts is valid exactly if all its parts are, and then its value is
put together from theirs.  Each of the ways to combine validations, to look up fields and to read
lists has one equivalence here, so what a reader accepts is found by rewriting with them.
-/

namespace GradleLint

namespace Validated

variable {α β γ : Type}

@[simp] lemma valid_seq (f : α → β) (x : Validated α) : valid f <*> x = f <$> x := rfl

@[simp] lemma seq_of_valid (f : Validated (α → β)) (a : α) :
    f <*> valid a = (fun g => g a) <$> f := by
  cases f <;> rfl

@[simp] lemma map_map (f : α → β) (g : β → γ) (x : Validated α) :
    g <$> f <$> x = (fun a => g (f a)) <$> x := by
  cases x <;> rfl

lemma map_eq_valid_iff {f : α → β} {x : Validated α} {b : β} :
    f <$> x = valid b ↔ ∃ a, x = valid a ∧ f a = b := by
  cases x with
  | valid a =>
    show valid (f a) = valid b ↔ _
    simp
  | invalid is =>
    show invalid is = valid b ↔ _
    simp

lemma seq_eq_valid_iff {f : Validated (α → β)} {x : Validated α} {b : β} :
    f <*> x = valid b ↔ ∃ g a, f = valid g ∧ x = valid a ∧ g a = b := by
  cases f with
  | valid g =>
    rw [valid_seq, map_eq_valid_iff]
    simp
  | invalid is =>
    cases x with
    | valid a =>
      show invalid is = valid b ↔ _
      simp
    | invalid js =>
      show invalid (is ++ js) = valid b ↔ _
      simp

lemma under_eq_valid_iff {s : Step} {x : Validated α} {a : α} :
    under s x = valid a ↔ x = valid a := by
  cases x <;> simp [under]

lemma items_eq_valid_iff {read : β → Validated α} {i : Nat} {bs : List β} {as : List α} :
    items read i bs = valid as ↔ List.Forall₂ (fun b a => read b = valid a) bs as := by
  induction bs generalizing i as with
  | nil => simp [items, eq_comm]
  | cons b bs ih =>
    simp only [items, seq_eq_valid_iff, map_eq_valid_iff, under_eq_valid_iff, ih,
      List.forall₂_cons_left_iff]
    constructor
    · rintro ⟨_, rest, ⟨a, ha, rfl⟩, hrest, rfl⟩
      exact ⟨a, rest, ha, hrest, rfl⟩
    · rintro ⟨a, rest, ha, hrest, rfl⟩
      exact ⟨_, rest, ⟨a, ha, rfl⟩, hrest, rfl⟩

end Validated

/-! ## Fields -/

namespace Table

variable {α : Type} {t : Table} {name : Text} {read : Value → Validated α} {a fallback : α}

/-- A table has a value under `name`, and `read` takes it for `a`. -/
def Has (t : Table) (name : Text) (read : Value → Validated α) (a : α) : Prop :=
  ∃ v, t.get? name = some v ∧ read v = .valid a

lemma field_eq_valid_iff : t.field name read = .valid a ↔ t.Has name read a := by
  unfold field Has
  cases t.get? name with
  | none => simp
  | some v => simp [Validated.under_eq_valid_iff]

lemma fieldOr_eq_valid_iff :
    t.fieldOr name fallback read = .valid a ↔
      t.get? name = none ∧ fallback = a ∨ t.Has name read a := by
  unfold fieldOr Has
  cases t.get? name with
  | none => simp
  | some v => simp [Validated.under_eq_valid_iff]

end Table

namespace Value

variable {α : Type} {v : Value}

lemma readTable_eq_valid_iff {read : Table → Validated α} {a : α} :
    readTable read v = .valid a ↔ ∃ t, v = .table t ∧ read t = .valid a := by
  cases v <;> simp [readTable, Validated.fail]

lemma readText_eq_valid_iff {t : Text} : readText v = .valid t ↔ v = .text t := by
  cases v <;> simp [readText, Validated.fail]

lemma readIntFrom_eq_valid_iff {least n : Int} :
    readIntFrom least v = .valid n ↔ readInt v = .valid n ∧ least ≤ n := by
  unfold readIntFrom
  cases readInt v with
  | valid m =>
    by_cases h : least ≤ m
    · simp only [if_pos h]
      constructor
      · rintro ⟨⟩
        exact ⟨rfl, h⟩
      · rintro ⟨⟨⟩, -⟩
        rfl
    · simp only [if_neg h, Validated.fail]
      constructor
      · rintro ⟨⟩
      · rintro ⟨⟨⟩, hn⟩
        exact absurd hn h
  | invalid is => simp

end Value
end GradleLint
