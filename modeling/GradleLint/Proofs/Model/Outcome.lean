import GradleLint.Proofs.Data.Validated
import GradleLint.Proofs.Model.Codec

/-!
# What is read as an outcome

An outcome is read from a table that names its kind.  `Outcome.Fits` says which tables stand for
which outcome: texts are taken as they are, numbers by the lenient rules of `Value.readInt`, the
lines and columns of records count from one and the ends of spans from zero, and what is not given
of the lists and of the pid is empty.  Nothing else is read as an outcome, and whatever fits is
(`Outcome.read_eq_valid_iff`).

The data of an outcome fit it, so it is read back as it was (`Outcome.read_back`).  The one
condition is that its records count from one.
-/

namespace GradleLint

/-! ## Readers of one scalar -/

lemma Severity.read_eq_valid_iff {v : Value} {s : Severity} :
    Severity.read v = .valid s ↔ v = .text s.word := by
  constructor
  · intro h
    cases v with
    | text t =>
      simp only [read, ofWord?] at h
      split_ifs at h with herror hwarning
      · obtain rfl : Severity.error = s := Validated.valid.inj h
        exact congrArg Value.text herror
      · obtain rfl : Severity.warning = s := Validated.valid.inj h
        exact congrArg Value.text hwarning
      · nomatch h
    | _ => nomatch h
  · rintro rfl
    exact s.read_word

/-- A table has a number under `name`, which is not below `least`. -/
def Table.HasFrom (t : Table) (least : Int) (name : Text) (n : Int) : Prop :=
  t.Has name Value.readInt n ∧ least ≤ n

lemma Table.has_readIntFrom_iff {t : Table} {least n : Int} {name : Text} :
    t.Has name (Value.readIntFrom least) n ↔ t.HasFrom least name n := by
  simp only [Has, HasFrom, Value.readIntFrom_eq_valid_iff]
  tauto

lemma Table.has_readNat_iff {t : Table} {n : Nat} {name : Text} :
    t.Has name Value.readNat n ↔ t.HasFrom 0 name n := by
  rw [← has_readIntFrom_iff]
  simp only [Has, Value.readNat, Validated.map_eq_valid_iff]
  constructor
  · rintro ⟨v, hv, m, hm, rfl⟩
    have hnonneg : 0 ≤ m := (Value.readIntFrom_eq_valid_iff.mp hm).2
    exact ⟨v, hv, by rwa [Int.toNat_of_nonneg hnonneg]⟩
  · rintro ⟨v, hv, hn⟩
    exact ⟨v, hv, n, hn, Int.toNat_natCast n⟩

lemma Table.has_text_iff {t : Table} {name text : Text} :
    t.Has name Value.readText text ↔ t.get? name = some (.text text) := by
  simp [Has, Value.readText_eq_valid_iff]

lemma Table.has_severity_iff {t : Table} {name : Text} {s : Severity} :
    t.Has name Severity.read s ↔ t.get? name = some (.text s.word) := by
  simp [Has, Severity.read_eq_valid_iff]

/-! ## Spans, records and diagnostics -/

/-- The table stands for a span; its ends count from zero. -/
@[mk_iff]
structure Span.Fits (s : Span) (t : Table) : Prop where
  start : t.HasFrom 0 "start" s.start
  stop : t.HasFrom 0 "end" s.stop

/-- The table stands for a record; its line and its column count from one. -/
@[mk_iff]
structure Record.Fits (r : Record) (t : Table) : Prop where
  severity : t.get? "severity" = some (.text r.severity.word)
  line : t.HasFrom 1 "line" r.line
  column : t.HasFrom 1 "column" r.column
  message : t.get? "message" = some (.text r.message)

/-- The table stands for a diagnostic. -/
@[mk_iff]
structure Diagnostic.Fits (d : Diagnostic) (t : Table) : Prop where
  span : ∃ u, t.get? "span" = some (.table u) ∧ d.span.Fits u
  severity : t.get? "severity" = some (.text d.severity.word)
  message : t.get? "message" = some (.text d.message)
  line : t.Has "line" Value.readInt d.line
  column : t.Has "column" Value.readInt d.column

lemma Span.read_eq_valid_iff {v : Value} {s : Span} :
    Span.read v = .valid s ↔ ∃ t, v = .table t ∧ s.Fits t := by
  obtain ⟨start, stop⟩ := s
  simp [read, Span.fits_iff, Value.readTable_eq_valid_iff, Validated.seq_eq_valid_iff,
    Validated.map_eq_valid_iff, Table.field_eq_valid_iff, Table.has_readNat_iff]

lemma Record.read_eq_valid_iff {v : Value} {r : Record} :
    Record.read v = .valid r ↔ ∃ t, v = .table t ∧ r.Fits t := by
  obtain ⟨severity, line, column, message⟩ := r
  simp [read, Record.fits_iff, Value.readTable_eq_valid_iff, Validated.seq_eq_valid_iff,
    Validated.map_eq_valid_iff, Table.field_eq_valid_iff, Table.has_readIntFrom_iff,
    Table.has_text_iff, Table.has_severity_iff, and_assoc]

lemma Table.has_span_iff {t : Table} {name : Text} {s : Span} :
    t.Has name Span.read s ↔ ∃ u, t.get? name = some (.table u) ∧ s.Fits u := by
  simp only [Has, Span.read_eq_valid_iff]
  constructor
  · rintro ⟨_, hv, u, rfl, hu⟩
    exact ⟨u, hv, hu⟩
  · rintro ⟨u, hv, hu⟩
    exact ⟨_, hv, u, rfl, hu⟩

lemma Diagnostic.read_eq_valid_iff {v : Value} {d : Diagnostic} :
    Diagnostic.read v = .valid d ↔ ∃ t, v = .table t ∧ d.Fits t := by
  obtain ⟨span, severity, message, line, column⟩ := d
  simp [read, Diagnostic.fits_iff, Value.readTable_eq_valid_iff, Validated.seq_eq_valid_iff,
    Validated.map_eq_valid_iff, Table.field_eq_valid_iff, Table.has_span_iff,
    Table.has_text_iff, Table.has_severity_iff, and_assoc]

/-! ## Outcomes -/

/-- The datum is a list of tables that stand for `as` one by one; what is not given stands for the
empty list. -/
def ListFits {α : Type} (Fits : α → Table → Prop) (as : List α) : Option Value → Prop
  | none => as = []
  | some v => ∃ vs, v = .list vs ∧ List.Forall₂ (fun w a => ∃ t, w = .table t ∧ Fits a t) vs as

/-- The datum is a pid; null stands for none, and so does what is not given. -/
def PidFits (pid : Option Int) : Option Value → Prop
  | none => pid = none
  | some v => (v = .null ∧ pid = none) ∨ ∃ n, v.readInt = .valid n ∧ pid = some n

/-- The fields of the table, apart from its kind, are those of an outcome. -/
def Outcome.Fits : Outcome → Table → Prop
  | .noIssues, _ => True
  | .issues rs ds, t =>
    ListFits Record.Fits rs (t.get? "records") ∧ ListFits Diagnostic.Fits ds (t.get? "diagnostics")
  | .toolError description, t => t.get? "description" = some (.text description)
  | .superseded pid, t => PidFits pid (t.get? "pid")

lemma Table.fieldOr_readItems_iff {α : Type} {t : Table} {name : Text}
    {read : Value → Validated α} {Fits : α → Table → Prop} {as : List α}
    (hread : ∀ {v a}, read v = .valid a ↔ ∃ u, v = .table u ∧ Fits a u) :
    t.fieldOr name [] (Value.readItems read) = .valid as ↔ ListFits Fits as (t.get? name) := by
  rw [fieldOr_eq_valid_iff]
  unfold Has
  cases t.get? name with
  | none => simp [ListFits, eq_comm]
  | some v =>
    cases v with
    | list vs => simp [ListFits, Value.readItems, Validated.items_eq_valid_iff, hread]
    | _ => simp [ListFits, Value.readItems, Validated.fail]

lemma Value.readOption_of_ne_null {α : Type} {v : Value} (h : v ≠ .null)
    (read : Value → Validated α) : v.readOption read = some <$> read v := by
  cases v with
  | null => exact absurd rfl h
  | _ => rfl

lemma Value.readPid_eq_valid_iff {v : Value} {pid : Option Int} :
    v.readOption Value.readInt = .valid pid ↔
      v = .null ∧ pid = none ∨ ∃ n, v.readInt = .valid n ∧ pid = some n := by
  by_cases hnull : v = .null
  · subst hnull
    simp [readOption, readInt, Validated.fail, eq_comm]
  · rw [readOption_of_ne_null hnull, Validated.map_eq_valid_iff]
    simp [hnull, eq_comm]

lemma Table.fieldOr_readPid_iff {t : Table} {name : Text} {pid : Option Int} :
    t.fieldOr name none (Value.readOption Value.readInt) = .valid pid ↔
      PidFits pid (t.get? name) := by
  rw [fieldOr_eq_valid_iff]
  unfold Has
  cases t.get? name with
  | none => simp [PidFits, eq_comm]
  | some v => simp [PidFits, Value.readPid_eq_valid_iff]

lemma OutcomeKind.ofWord?_eq_some_iff {w : Text} {k : OutcomeKind} :
    OutcomeKind.ofWord? w = some k ↔ w = k.word := by
  constructor
  · intro h
    unfold ofWord? at h
    split_ifs at h with hw hw hw hw <;> cases h <;> exact hw
  · rintro rfl
    cases k <;> rfl

/-- A table that names the kind `k` is read as the outcomes of this kind that it fits. -/
lemma Outcome.ofTable_eq_valid_iff {k : OutcomeKind} {t : Table} {o : Outcome}
    (hkind : t.get? "kind" = some (.text k.word)) :
    ofTable k t = .valid o ↔ o.kind = k ∧ o.Fits t := by
  have hread : readKind k.word t = .valid () := Table.fieldOr_valid hkind (if_pos rfl)
  cases k with
  | noIssues =>
    simp only [ofTable, hread, Validated.map_valid]
    cases o <;> simp [kind, Fits]
  | issues =>
    simp only [ofTable, hread, Validated.map_valid, Validated.seq_eq_valid_iff,
      Table.fieldOr_readItems_iff Record.read_eq_valid_iff,
      Table.fieldOr_readItems_iff Diagnostic.read_eq_valid_iff]
    cases o <;> simp [kind, Fits]
  | toolError =>
    simp only [ofTable, hread, Validated.map_valid, Validated.seq_eq_valid_iff,
      Table.field_eq_valid_iff, Table.has_text_iff]
    cases o <;> simp [kind, Fits]
  | superseded =>
    simp only [ofTable, hread, Validated.map_valid, Validated.seq_eq_valid_iff,
      Table.fieldOr_readPid_iff]
    cases o <;> simp [kind, Fits]

/-- What is read as an outcome: the tables that name its kind and fit it. -/
lemma Outcome.read_eq_valid_iff {v : Value} {o : Outcome} :
    Outcome.read v = .valid o ↔
      ∃ t : Table, v = .table t ∧ t.get? "kind" = some (.text o.kind.word) ∧ o.Fits t := by
  cases v with
  | table t =>
    simp only [read, Value.table.injEq, exists_eq_left']
    cases hkind : Table.get? t "kind" with
    | none => simp [Validated.fail]
    | some w =>
      cases w with
      | text w =>
        rw [Option.some.injEq, Value.text.injEq, ← OutcomeKind.ofWord?_eq_some_iff]
        dsimp only
        cases hk : OutcomeKind.ofWord? w with
        | none => simp [Validated.fail]
        | some k =>
          obtain rfl := OutcomeKind.ofWord?_eq_some_iff.mp hk
          simp only [Validated.under_eq_valid_iff, ofTable_eq_valid_iff hkind,
            Option.some.injEq, eq_comm]
      | _ => simp [Validated.fail]
  | _ => simp [read, Validated.fail]

/-! ## Reading back -/

/-- What is in a list that fits fits a table. -/
lemma ListFits.exists_fits {α : Type} {Fits : α → Table → Prop} {as : List α} {v : Option Value}
    {a : α} (h : ListFits Fits as v) (ha : a ∈ as) : ∃ t, Fits a t := by
  cases v with
  | none =>
    rw [show as = [] from h] at ha
    exact absurd ha List.not_mem_nil
  | some v =>
    obtain ⟨vs, -, hitems⟩ := h
    induction hitems with
    | nil => exact absurd ha List.not_mem_nil
    | cons hfirst _ ih =>
      obtain rfl | ha := List.mem_cons.mp ha
      · obtain ⟨t, -, ht⟩ := hfirst
        exact ⟨t, ht⟩
      · exact ih ha

/-- Records that fit a table count lines and columns from one. -/
lemma Outcome.Fits.positive {o : Outcome} {t : Table} (h : o.Fits t) : o.Positive := by
  cases o with
  | issues rs ds =>
    intro r hr
    obtain ⟨u, hu⟩ := h.1.exists_fits hr
    exact ⟨hu.line.2, hu.column.2⟩
  | _ => trivial

/-- The data of an outcome name its kind and fit it. -/
lemma Outcome.fits_toValue {o : Outcome} (h : o.Positive) :
    ∃ t : Table, o.toValue = .table t ∧ t.get? "kind" = some (.text o.kind.word) ∧ o.Fits t := by
  obtain ⟨t, ht, hread⟩ := Value.readTable_eq_valid_iff.mp (readAs_toValue h)
  have hkind : Table.get? t "kind" = some (.text o.kind.word) := by
    rw [← Value.table.inj ht]
    rfl
  exact ⟨t, ht, hkind, ((ofTable_eq_valid_iff hkind).mp hread).2⟩

/-- An outcome is read back from its data exactly if its records count lines and columns from one,
and it is read from no other data than tables that name its kind and fit it. -/
theorem Outcome.read_back (o : Outcome) :
    (Outcome.read o.toValue = .valid o ↔ o.Positive) ∧
      ∀ v, Outcome.read v = .valid o ↔
        ∃ t : Table, v = .table t ∧ t.get? "kind" = some (.text o.kind.word) ∧ o.Fits t := by
  refine ⟨⟨fun h => ?_, fun h => ?_⟩, fun v => read_eq_valid_iff⟩
  · obtain ⟨t, -, -, hfits⟩ := read_eq_valid_iff.mp h
    exact hfits.positive
  · exact read_eq_valid_iff.mpr (fits_toValue h)

end GradleLint
