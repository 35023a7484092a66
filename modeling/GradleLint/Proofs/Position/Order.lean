import GradleLint.Proofs.Position.Edits
import Mathlib.Data.Prod.Lex

/-!
# Later positions lie behind earlier ones

Lines and columns are ordered by the line first.  Going to a later position leads to no smaller
offset (`offsetAt_mono`): within a line the column is cut but not turned round, and a line that
has another one behind it ends before that starts (`offsetAt_lt_of_line_lt`).  A line that does
not exist stands at the end of the text, behind everything.

So records in order give diagnostics in order.  Two records may share a span, since columns are
cut; two offsets on different lines are different as long as the later line exists.
-/

namespace GradleLint

/-! ## Within a line and from line to line -/

lemma offsetAt_mono_column (t : Text) (line : Int) {c₁ c₂ : Int} (h : c₁ ≤ c₂) :
    offsetAt t line c₁ ≤ offsetAt t line c₂ := by
  unfold offsetAt
  cases skipLines (line.toNat - 1) t with
  | none => exact Nat.le_refl _
  | some found =>
    show found.1 + min c₁.toNat _ ≤ found.1 + min c₂.toNat _
    omega

/-- The offsets of a line lie before its line feed. -/
lemma offsetAt_lt_length {t : Text} {line : Int} (hfirst : 1 ≤ line)
    (hlast : line ≤ t.count '\n') (column : Int) : offsetAt t line column < t.length := by
  obtain ⟨before, l, behind, rfl, hwhole, hl, rfl⟩ := exists_closedLine hfirst hlast
  have hle := Text.length_dropCarriageReturn_le l
  rw [offsetAt_of_closedLine hwhole hl, List.length_append, List.length_append, List.length_cons]
  omega

/-- A line that exists starts behind the offsets of the lines before it. -/
lemma offsetAt_lt_of_line_lt {t : Text} {l₁ l₂ : Int} (hfirst : 1 ≤ l₁) (hlt : l₁ < l₂)
    (hlast : l₂ ≤ t.count '\n' + 1) (c₁ c₂ : Int) : offsetAt t l₁ c₁ < offsetAt t l₂ c₂ := by
  obtain ⟨before, rest, rfl, hwhole, rfl⟩ := exists_lineStart (by omega) hlast
  calc offsetAt (before ++ rest) l₁ c₁
      = offsetAt before l₁ c₁ := offsetAt_append hfirst (by omega) rest c₁
    _ < before.length := offsetAt_lt_length hfirst (by omega) c₁
    _ ≤ before.length + min c₂.toNat (firstLine rest).length := Nat.le_add_right _ _
    _ = offsetAt (before ++ rest) (before.count '\n' + 1) c₂ :=
        (offsetAt_of_wholeLines hwhole rest c₂).symm

/-- Offsets follow the order of lines and columns. -/
lemma offsetAt_mono {t : Text} {l₁ c₁ l₂ c₂ : Int} (hfirst : 1 ≤ l₁)
    (h : toLex (l₁, c₁) ≤ toLex (l₂, c₂)) : offsetAt t l₁ c₁ ≤ offsetAt t l₂ c₂ := by
  obtain hlt | ⟨rfl, hle⟩ := Prod.Lex.toLex_le_toLex.mp h
  · by_cases hlast : l₂ ≤ t.count '\n' + 1
    · exact (offsetAt_lt_of_line_lt hfirst hlt hlast c₁ c₂).le
    · rw [offsetAt_of_missing (by omega) c₂]
      exact offsetAt_le_length t l₁ c₁
  · exact offsetAt_mono_column t l₁ hle

/-! ## Spans -/

/-- A span that starts no later than another and stops no later either. -/
def Span.NotBehind (s s' : Span) : Prop := s.start ≤ s'.start ∧ s.stop ≤ s'.stop

lemma spanAt_mono {t : Text} {l₁ c₁ l₂ c₂ : Int} (hfirst : 1 ≤ l₁)
    (h : toLex (l₁, c₁) ≤ toLex (l₂, c₂)) : (spanAt t l₁ c₁).NotBehind (spanAt t l₂ c₂) :=
  ⟨Nat.sub_le_sub_right (offsetAt_mono hfirst h) 1, offsetAt_mono hfirst h⟩

/-! ## Records -/

/-- A record that does not stand behind another in the order of lines and columns. -/
def Record.NotBehind (r r' : Record) : Prop :=
  toLex (r.line, r.column) ≤ toLex (r'.line, r'.column)

instance (r r' : Record) : Decidable (r.NotBehind r') :=
  inferInstanceAs (Decidable (toLex (r.line, r.column) ≤ toLex (r'.line, r'.column)))

/-- The record that was anchored. -/
def Diagnostic.record (d : Diagnostic) : Record :=
  { severity := d.severity, line := d.line, column := d.column, message := d.message }

lemma pairwise_anchor (t : Text) {records : List Record} (hfirst : ∀ r ∈ records, 1 ≤ r.line)
    (h : records.Pairwise Record.NotBehind) :
    (records.map (Record.anchor t)).Pairwise fun d d' => d.span.NotBehind d'.span := by
  rw [List.pairwise_map]
  exact h.imp_of_mem fun hr _ hle => spanAt_mono (hfirst _ hr) hle

lemma map_record_anchor (t : Text) (records : List Record) :
    (records.map (Record.anchor t)).map Diagnostic.record = records := by
  rw [List.map_map]
  exact List.map_id' records

/-- Offsets and spans follow the order of lines and columns, offsets strictly so from one line to
another that exists.  Hence records in order, each anchored in its turn, give spans in order. -/
theorem offsets_in_order (t : Text) :
    (∀ l₁ c₁ l₂ c₂ : Int, 1 ≤ l₁ → toLex (l₁, c₁) ≤ toLex (l₂, c₂) →
      offsetAt t l₁ c₁ ≤ offsetAt t l₂ c₂ ∧ (spanAt t l₁ c₁).NotBehind (spanAt t l₂ c₂) ∧
      (l₁ < l₂ → l₂ ≤ (t.splitOn '\n').length → offsetAt t l₁ c₁ < offsetAt t l₂ c₂)) ∧
    ∀ records : List Record, (∀ r ∈ records, 1 ≤ r.line) → records.Pairwise Record.NotBehind →
      (records.map (Record.anchor t)).Pairwise (fun d d' => d.span.NotBehind d'.span) ∧
      (records.map (Record.anchor t)).map Diagnostic.record = records := by
  constructor
  · intro l₁ c₁ l₂ c₂ hfirst hle
    refine ⟨offsetAt_mono hfirst hle, spanAt_mono hfirst hle, ?_⟩
    intro hlt hlast
    rw [Text.length_splitOn] at hlast
    exact offsetAt_lt_of_line_lt hfirst hlt (by omega) c₁ c₂
  · intro records hfirst h
    exact ⟨pairwise_anchor t hfirst h, map_record_anchor t records⟩

/-- Records for a line, for the empty line behind it and for a line that does not exist. -/
theorem offsets_of_three_records :
    offsetAt "ab\r\n\r\n" 1 9 < offsetAt "ab\r\n\r\n" 2 0 ∧
      ([⟨.error, 1, 9, []⟩, ⟨.warning, 2, 1, []⟩, ⟨.error, 8, 1, []⟩].map
          (Record.anchor "ab\r\n\r\n")).Pairwise fun d d' => d.span.NotBehind d'.span := by
  obtain ⟨hoffsets, hrecords⟩ := offsets_in_order "ab\r\n\r\n"
  exact ⟨(hoffsets 1 9 2 0 (by decide) (by decide)).2.2 (by decide) (by decide),
    (hrecords _ (by decide) (by decide)).1⟩

end GradleLint
