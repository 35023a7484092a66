import GradleLint.Proofs.Position.Before
import GradleLint.Proofs.Text.Returns
import Mathlib.Data.List.TakeWhile

/-!
# How lines end makes no difference

An editor may keep a document with line feeds where the compiler has seen it with carriage returns
before them, or the other way round.  Offsets then differ by one for every line before the
position.  What stands before a position differs by these carriage returns and nothing else
(`take_offsetAt_withReturns`), and since a carriage return never comes last there, the character
that is marked is the same.
-/

namespace GradleLint

lemma IsWholeLines.withReturns {before : Text} (h : IsWholeLines before) :
    IsWholeLines before.withReturns := by
  obtain rfl | ⟨before, rfl⟩ := h
  · exact .inl rfl
  · refine .inr ⟨before.withReturns ++ ['\r'], ?_⟩
    rw [Text.withReturns_append, List.append_assoc]
    rfl

/-- The content of the first line does not have the carriage return that ends the line. -/
lemma firstLine_withReturns {t : Text} (h : '\r' ∉ t) : firstLine t.withReturns = firstLine t := by
  by_cases hbreak : '\n' ∈ t
  · obtain ⟨l, behind, rfl, hl⟩ := List.eq_append_cons_of_mem hbreak
    have hreturn : '\r' ∉ l := fun hc => h (List.mem_append_left _ hc)
    have hl' : '\n' ∉ l ++ ['\r'] := by simpa using hl
    have hsplit : Text.withReturns (l ++ '\n' :: behind) =
        (l ++ ['\r']) ++ '\n' :: Text.withReturns behind := by
      rw [Text.withReturns_append, Text.withReturns_of_not_mem hl, Text.withReturns_cons_newline,
        List.append_assoc, List.singleton_append]
    rw [hsplit, firstLine_append_newline hl', firstLine_append_newline hl,
      Text.dropCarriageReturn_concat, if_pos rfl, Text.dropCarriageReturn_of_not_mem hreturn]
  · rw [Text.withReturns_of_not_mem hbreak]

lemma newline_not_mem_firstLine (t : Text) : '\n' ∉ firstLine t := by
  intro h
  have hmem := (Text.dropCarriageReturn_prefix _).subset h
  exact bne_iff_ne.mp (List.mem_takeWhile_imp hmem :) rfl

/-- What stands before a position is what stood there, with the carriage returns. -/
lemma take_offsetAt_withReturns {t : Text} (h : '\r' ∉ t) {line : Int} (hfirst : 1 ≤ line)
    (column : Int) :
    t.withReturns.take (offsetAt t.withReturns line column) =
      Text.withReturns (t.take (offsetAt t line column)) := by
  by_cases hline : line ≤ t.count '\n' + 1
  · obtain ⟨before, rest, rfl, hwhole, rfl⟩ := exists_lineStart hfirst hline
    have hrest : '\r' ∉ rest := fun hc => h (List.mem_append_right _ hc)
    have hcontent : '\n' ∉ (firstLine rest).take column.toNat := fun hc =>
      newline_not_mem_firstLine rest (List.mem_of_mem_take hc)
    calc (Text.withReturns (before ++ rest)).take
          (offsetAt (Text.withReturns (before ++ rest)) (before.count '\n' + 1) column)
        = before.withReturns ++ (firstLine rest.withReturns).take column.toNat := by
          rw [Text.withReturns_append, ← Text.count_withReturns before,
            take_offsetAt hwhole.withReturns]
      _ = before.withReturns ++ (firstLine rest).take column.toNat := by
          rw [firstLine_withReturns hrest]
      _ = Text.withReturns (before ++ (firstLine rest).take column.toNat) := by
          rw [Text.withReturns_append, Text.withReturns_of_not_mem hcontent]
      _ = Text.withReturns
            ((before ++ rest).take (offsetAt (before ++ rest) (before.count '\n' + 1) column)) := by
          rw [take_offsetAt hwhole]
  · have hmissing : (t.withReturns.count '\n' + 1 : Int) < line := by
      rw [Text.count_withReturns]
      omega
    rw [offsetAt_of_missing hmissing, offsetAt_of_missing (by omega), List.take_length,
      List.take_length]

/-- A line and a column mark the same character, or none, whether the lines of the text end in
line feeds or in carriage returns and line feeds. -/
theorem slice_spanAt_withReturns {t : Text} (h : '\r' ∉ t) (line column : Int) :
    (spanAt t.withReturns line column).slice t.withReturns = (spanAt t line column).slice t := by
  rw [slice_spanAt, slice_spanAt, ← offsetAt_max_one t, ← offsetAt_max_one t.withReturns,
    take_offsetAt_withReturns h (by omega), Text.getLast?_withReturns]

/-- The character before the empty second line is the line feed, not the carriage return. -/
theorem slice_of_empty_line :
    '\r' ∉ ("a\n\nb" : Text) ∧
      (spanAt (Text.withReturns "a\n\nb") 2 5).slice (Text.withReturns "a\n\nb") = "\n" :=
  ⟨by decide, (slice_spanAt_withReturns (by decide) 2 5).trans (by decide)⟩

end GradleLint
