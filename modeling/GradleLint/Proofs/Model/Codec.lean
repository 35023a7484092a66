import GradleLint.Model.Codec
import Mathlib.Tactic.Common

/-!
# Reading back what was written

Spans, records, diagnostics, exits and outcomes are read back from their data as they were,
provided that the records count lines and columns from one.  Validations of the parts are valid
by the lemmas on `Validated` and `Table.field`; what remains is one look-up for each field.
-/

namespace GradleLint

/-! ## Valid parts -/

namespace Validated

variable {α β : Type}

@[simp] lemma map_valid (f : α → β) (a : α) : f <$> valid a = valid (f a) := rfl

@[simp] lemma seq_valid (f : α → β) (a : α) : valid f <*> valid a = valid (f a) := rfl

@[simp] lemma under_valid (s : Step) (a : α) : under s (valid a) = valid a := rfl

lemma items_map {read : β → Validated α} {write : α → β} {l : List α}
    (h : ∀ a ∈ l, read (write a) = valid a) (i : Nat) : items read i (l.map write) = valid l := by
  induction l generalizing i with
  | nil => rfl
  | cons a l ih =>
    rw [List.map_cons, items, h a List.mem_cons_self,
      ih (fun b hb => h b (List.mem_cons_of_mem a hb))]
    simp

end Validated

lemma Table.field_valid {α : Type} {t : Table} {name : Text} {read : Value → Validated α}
    {v : Value} {a : α} (hget : t.get? name = some v) (hread : read v = .valid a) :
    t.field name read = .valid a := by
  rw [field, hget]
  show Validated.under _ (read v) = _
  rw [hread, Validated.under_valid]

lemma Table.fieldOr_valid {α : Type} {t : Table} {name : Text} {fallback : α}
    {read : Value → Validated α} {v : Value} {a : α} (hget : t.get? name = some v)
    (hread : read v = .valid a) : t.fieldOr name fallback read = .valid a := by
  rw [fieldOr, hget]
  show Validated.under _ (read v) = _
  rw [hread, Validated.under_valid]

/-! ## The parts of an outcome -/

/-- A record counts lines and columns from one. -/
def Record.Positive (r : Record) : Prop := 1 ≤ r.line ∧ 1 ≤ r.column

lemma Severity.read_word (s : Severity) : Severity.read (.text s.word) = .valid s := by
  cases s <;> rfl

lemma Value.readIntFrom_int {least n : Int} (h : least ≤ n) :
    Value.readIntFrom least (.int n) = .valid n := by
  simp [readIntFrom, readInt, h]

lemma Value.readNat_int (n : Nat) : Value.readNat (.int n) = .valid n := by
  rw [readNat, readIntFrom_int (Int.natCast_nonneg n), Validated.map_valid, Int.toNat_natCast]

lemma Span.read_toValue (s : Span) : Span.read s.toValue = .valid s := by
  simp only [Span.read, Span.toValue, Value.readTable]
  rw [Table.field_valid rfl (Value.readNat_int s.start),
    Table.field_valid rfl (Value.readNat_int s.stop)]
  rfl

/-- The issue of a field with a number that must not be below one. -/
def issueBelowOne (name : Text) (n : Int) : List Issue :=
  if n < 1 then [⟨[.field name], .belowMinimum⟩] else []

/-- What stands against a record: its line, its column, or both. -/
def Record.issues (r : Record) : List Issue :=
  issueBelowOne "line" r.line ++ issueBelowOne "column" r.column

lemma Table.field_readIntFrom_one {t : Table} {name : Text} (n : Int)
    (h : t.get? name = some (.int n)) :
    t.field name (Value.readIntFrom 1) =
      match issueBelowOne name n with
      | [] => .valid n
      | issues => .invalid issues := by
  rw [field, h, issueBelowOne]
  show Validated.under _ (Value.readIntFrom 1 (.int n)) = _
  by_cases hn : 1 ≤ n
  · rw [Value.readIntFrom_int hn, if_neg (by omega)]
    rfl
  · have hread : Value.readIntFrom 1 (.int n) = .fail .belowMinimum := if_neg hn
    rw [hread, if_pos (by omega)]
    rfl

/-- The data of a record pass unless its line or its column is below one, and the issues name just
these. -/
lemma Record.read_toValue_eq (r : Record) :
    Record.read r.toValue =
      match r.issues with
      | [] => .valid r
      | issues => .invalid issues := by
  simp only [Record.read, Record.toValue, Value.readTable]
  rw [Table.field_valid rfl (Severity.read_word r.severity),
    Table.field_readIntFrom_one r.line rfl, Table.field_readIntFrom_one r.column rfl,
    Record.issues]
  have hmessage : Table.field [("severity", .text r.severity.word), ("line", .int r.line),
      ("column", .int r.column), ("message", .text r.message)] "message" Value.readText =
        .valid r.message := Table.field_valid rfl rfl
  rw [hmessage]
  unfold issueBelowOne
  by_cases hline : r.line < 1 <;> by_cases hcolumn : r.column < 1 <;>
    simp only [if_pos, if_neg, hline, hcolumn, not_false_eq_true] <;> rfl

lemma Record.issues_eq_nil_iff (r : Record) : r.issues = [] ↔ r.Positive := by
  have hone : ∀ (name : Text) (n : Int), issueBelowOne name n = [] ↔ 1 ≤ n := by
    intro name n
    unfold issueBelowOne
    split <;> simp <;> omega
  rw [issues, List.append_eq_nil_iff, hone, hone, Positive]

lemma Record.read_toValue {r : Record} (h : r.Positive) : Record.read r.toValue = .valid r := by
  rw [read_toValue_eq, r.issues_eq_nil_iff.mpr h]

lemma Diagnostic.read_toValue (d : Diagnostic) : Diagnostic.read d.toValue = .valid d := by
  simp only [Diagnostic.read, Diagnostic.toValue, Value.readTable]
  rw [Table.field_valid rfl (Span.read_toValue d.span),
    Table.field_valid rfl (Severity.read_word d.severity)]
  rfl

lemma readPid_pidValue (pid : Option Int) :
    Value.readOption Value.readInt (pidValue pid) = .valid pid := by
  cases pid <;> rfl

lemma argumentsOf_texts (args : List Text) : argumentsOf (.list (args.map .text)) = args := by
  rw [argumentsOf, List.map_map]
  exact List.map_id' args

/-! ## Exits and outcomes -/

lemma Exit.read_toValue (e : Exit) : Exit.read e.toValue = .valid e := by
  simp only [Exit.read, Exit.toValue, Value.readTable]
  rw [Table.field_valid rfl (readPid_pidValue e.pid)]
  show Validated.valid (Exit.mk e.pid (argumentsOf (.list (e.args.map .text))) e.status) = _
  rw [argumentsOf_texts]

/-- The records of an outcome count lines and columns from one. -/
def Outcome.Positive : Outcome → Prop
  | .issues rs _ => ∀ r ∈ rs, r.Positive
  | _ => True

lemma readKind_word (k : OutcomeKind) (t : Table) :
    readKind k.word (("kind", .text k.word) :: t) = .valid () :=
  Table.fieldOr_valid rfl (if_pos rfl)

/-- An outcome is read back from its data as the kind it is of. -/
lemma Outcome.readAs_toValue {o : Outcome} (h : o.Positive) :
    Outcome.readAs o.kind o.toValue = .valid o := by
  cases o <;> simp only [readAs, toValue, kind, Value.readTable, ofTable, readKind_word]
  case noIssues => rfl
  case issues rs ds =>
    have hrs : Value.readItems Record.read (.list (rs.map Record.toValue)) = .valid rs :=
      Validated.items_map (fun r hr => Record.read_toValue (h r hr)) 0
    have hds : Value.readItems Diagnostic.read (.list (ds.map Diagnostic.toValue)) = .valid ds :=
      Validated.items_map (fun d _ => Diagnostic.read_toValue d) 0
    rw [Table.fieldOr_valid rfl hrs, Table.fieldOr_valid rfl hds]
    rfl
  case toolError d => rfl
  case superseded pid =>
    rw [Table.fieldOr_valid rfl (readPid_pidValue pid)]
    rfl

end GradleLint
