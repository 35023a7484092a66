import GradleLint.Proofs.Model.Codec
import GradleLint.Proofs.Position.Before

/-!
# What a span covers

A diagnostic may be older than the text it is anchored to, so its line and column can be any.
Whatever they are, the span is a valid one inside the text and covers one character, or none when
the offset is zero.  `Coverage` says which character that is.  On a line with content it is the
character of the content at the column, the last one for every column behind it; on an empty line
the line feed in front of the line; for a line that does not exist the last character of the text.

Whether a line is empty is decided by its content, so a line made of a carriage return alone is
empty too, and a carriage return that ends a line is never covered by a span of that line.
-/

namespace GradleLint

/-- The offset at which a line starts, by the lines of the text. -/
def startOf (t : Text) (line : Int) : Nat := totalLength ((t.splitOn '\n').take (line.toNat - 1))

/-- The span of a position made of two integers, which are checked as those of any span are. -/
def checkedSpanAt (t : Text) (line column : Int) : Validated Span :=
  let stop : Int := offsetAt t line column
  Span.read (.table [("start", .int (max (stop - 1) 0)), ("end", .int stop)])

/-- What a span of a line and a column covers. -/
structure Coverage (t : Text) (line column : Int) (span : Span) : Prop where
  valid : checkedSpanAt t line column = .valid span
  ordered : span.start ≤ span.stop
  within : span.stop ≤ t.length
  single : offsetAt t line column ≠ 0 → span.stop - span.start = 1
  none_at_zero : offsetAt t line column = 0 → span.start = 0 ∧ span.stop = 0
  /-- The character of the content at the column; the span ends where the content does at the
  latest. -/
  content : 1 ≤ line → 1 ≤ column → ∀ l, (t.splitOn '\n')[line.toNat - 1]? = some l →
    0 < contentLength l →
      ∃ c, l[min column.toNat (contentLength l) - 1]? = some c ∧ c ≠ '\n' ∧ span.slice t = [c] ∧
        startOf t line ≤ span.start ∧ span.stop ≤ startOf t line + contentLength l
  /-- The line feed right before an empty line. -/
  empty_line : 1 ≤ line → ∀ l, (t.splitOn '\n')[line.toNat - 1]? = some l →
    contentLength l = 0 →
      span.stop = startOf t line ∧ span.slice t = if line = 1 then [] else ['\n']
  missing_line : (t.splitOn '\n').length < line →
    span.stop = t.length ∧ span.slice t = t.getLast?.toList

/-! ## Validity -/

lemma checkedSpanAt_eq (t : Text) (line column : Int) :
    checkedSpanAt t line column = .valid (spanAt t line column) := by
  have hstart : max ((offsetAt t line column : Int) - 1) 0 =
      ((offsetAt t line column - 1 : Nat) : Int) := by omega
  rw [checkedSpanAt, hstart]
  exact Span.read_toValue (spanAt t line column)

/-! ## Lines that exist -/

lemma newline_not_mem_line {t l : Text} {n : Nat} (hl : (t.splitOn '\n')[n]? = some l) :
    '\n' ∉ l := by
  rw [← Text.fields_eq_splitOn] at hl
  exact Text.not_mem_of_mem_fields (List.mem_of_getElem? hl)

/-- A line of the text, from the start of which only its content counts. -/
lemma exists_line {t l : Text} {line : Int} (hfirst : 1 ≤ line)
    (hl : (t.splitOn '\n')[line.toNat - 1]? = some l) :
    ∃ before rest, t = before ++ rest ∧ IsWholeLines before ∧ line = before.count '\n' + 1 ∧
      before.length = startOf t line ∧ firstLine rest = l.take (contentLength l) := by
  have hfree := newline_not_mem_line hl
  rw [← Text.fields_eq_splitOn] at hl
  obtain ⟨hlt, hget⟩ := List.getElem?_eq_some_iff.mp hl
  have hexists : line ≤ t.count '\n' + 1 := by
    rw [Text.length_fields] at hlt
    omega
  obtain ⟨before, rest, ht, hwhole, hline⟩ := exists_lineStart hfirst hexists
  -- The scan gets there by the lines of the text as well.
  have hscan : skipLines (line.toNat - 1) t = some (before.length, rest) := by
    have hnumber : line.toNat - 1 = before.count '\n' := by omega
    rw [hnumber, ht, skipLines_of_wholeLines hwhole]
  rw [skipLines_eq, if_pos hlt, List.drop_eq_getElem_cons hlt, hget, Option.some.injEq,
    Prod.mk.injEq] at hscan
  obtain ⟨hlength, hrest⟩ := hscan
  refine ⟨before, rest, ht, hwhole, hline, ?_, ?_⟩
  · rw [startOf, ← Text.fields_eq_splitOn, hlength]
  · rw [← hrest, firstLine_join hfree, dropCarriageReturn_eq_take]

/-- On a line that exists the column is cut to the content of the line. -/
lemma offsetAt_of_line {t l : Text} {line : Int} (hfirst : 1 ≤ line)
    (hl : (t.splitOn '\n')[line.toNat - 1]? = some l) (column : Int) :
    offsetAt t line column = startOf t line + min column.toNat (contentLength l) := by
  obtain ⟨before, rest, ht, hwhole, hline, hstart, hcontent⟩ := exists_line hfirst hl
  rw [← hstart, hline, ht, offsetAt_of_wholeLines hwhole, hcontent,
    List.length_take_of_le (contentLength_le l)]

/-- The last of the characters of a line that a column goes over. -/
lemma getLast?_take_take {l : Text} {n column : Nat} (hn : 0 < n) (hle : n ≤ l.length)
    (hcolumn : 1 ≤ column) :
    ∃ c, l[min column n - 1]? = some c ∧ ((l.take n).take column).getLast? = some c := by
  have hlt : min column n - 1 < l.length := by omega
  refine ⟨l[min column n - 1], List.getElem?_eq_getElem hlt, ?_⟩
  rw [List.take_take, List.getLast?_take, if_neg (by omega), List.getElem?_eq_getElem hlt]
  rfl

/-- The character of the content at the column. -/
lemma slice_spanAt_of_content {t l : Text} {line column : Int} (hfirst : 1 ≤ line)
    (hcolumn : 1 ≤ column) (hl : (t.splitOn '\n')[line.toNat - 1]? = some l)
    (hcontent : 0 < contentLength l) :
    ∃ c, l[min column.toNat (contentLength l) - 1]? = some c ∧
      (spanAt t line column).slice t = [c] := by
  obtain ⟨before, rest, ht, hwhole, hline, -, hfirstLine⟩ := exists_line hfirst hl
  obtain ⟨c, hc, hlast⟩ := getLast?_take_take hcontent (contentLength_le l)
    (show 1 ≤ column.toNat by omega)
  refine ⟨c, hc, ?_⟩
  rw [slice_spanAt, hline, ht, take_offsetAt hwhole, hfirstLine, List.getLast?_append, hlast]
  rfl

/-- Whole lines end in a line feed. -/
lemma IsWholeLines.getLast?_toList {before : Text} (h : IsWholeLines before) :
    before.getLast?.toList = if before.count '\n' = 0 then [] else ['\n'] := by
  obtain rfl | ⟨before, rfl⟩ := h
  · rfl
  · rw [List.getLast?_concat, List.count_append, List.count_singleton_self]
    rfl

/-- The line feed in front of a line without content. -/
lemma slice_spanAt_of_empty {t l : Text} {line : Int} (hfirst : 1 ≤ line)
    (hl : (t.splitOn '\n')[line.toNat - 1]? = some l) (hempty : contentLength l = 0)
    (column : Int) :
    (spanAt t line column).slice t = if line = 1 then [] else ['\n'] := by
  obtain ⟨before, rest, ht, hwhole, hline, -, hfirstLine⟩ := exists_line hfirst hl
  rw [slice_spanAt, hline, ht, take_offsetAt hwhole, hfirstLine, hempty, List.take_zero,
    List.take_nil, List.append_nil, hwhole.getLast?_toList]
  exact if_congr (by omega) rfl rfl

/-! ## Lines that do not exist -/

lemma slice_spanAt_of_missing {t : Text} {line : Int} (h : t.count '\n' + 1 < line)
    (column : Int) : (spanAt t line column).slice t = t.getLast?.toList := by
  rw [slice_spanAt, offsetAt_of_missing h, List.take_length]

/-! ## Every position -/

/-- The span of any line and any column is valid, lies in the text and covers the character that
belongs to the line and the column. -/
theorem coverage_spanAt (t : Text) (line column : Int) :
    Coverage t line column (spanAt t line column) where
  valid := checkedSpanAt_eq t line column
  ordered := (spanAt_within t line column).1
  within := (spanAt_within t line column).2
  single hoffset := by
    show offsetAt t line column - (offsetAt t line column - 1) = 1
    omega
  none_at_zero hoffset := by
    show offsetAt t line column - 1 = 0 ∧ offsetAt t line column = 0
    omega
  content hfirst hcolumn l hl hcontent := by
    obtain ⟨c, hc, hslice⟩ := slice_spanAt_of_content hfirst hcolumn hl hcontent
    have hbreak : c ≠ '\n' :=
      ne_of_mem_of_not_mem (List.mem_of_getElem? hc) (newline_not_mem_line hl)
    have hoffset := offsetAt_of_line hfirst hl column
    refine ⟨c, hc, hbreak, hslice, ?_, ?_⟩
    · show startOf t line ≤ offsetAt t line column - 1
      omega
    · show offsetAt t line column ≤ startOf t line + contentLength l
      omega
  empty_line hfirst l hl hempty := by
    have hoffset := offsetAt_of_line hfirst hl column
    refine ⟨?_, slice_spanAt_of_empty hfirst hl hempty column⟩
    show offsetAt t line column = startOf t line
    omega
  missing_line hmissing := by
    rw [Text.length_splitOn] at hmissing
    exact ⟨offsetAt_of_missing (by omega) column, slice_spanAt_of_missing (by omega) column⟩

/-- A column behind its line, a line that holds a carriage return only, and a line behind the
last one. -/
theorem coverage_of_ragged_text :
    (spanAt "ab\r\n\r\ncd" 1 9).slice "ab\r\n\r\ncd" = "b" ∧
      (spanAt "ab\r\n\r\ncd" 2 1).slice "ab\r\n\r\ncd" = "\n" ∧
      (spanAt "ab\r\n\r\ncd" 7 7).slice "ab\r\n\r\ncd" = "d" := by
  refine ⟨?_, ?_, ?_⟩
  · obtain ⟨c, hc, -, hslice, -⟩ := (coverage_spanAt "ab\r\n\r\ncd" 1 9).content
      (by decide) (by decide) "ab\r" (by decide) (by decide)
    obtain rfl : 'b' = c := Option.some.inj hc
    exact hslice
  · exact ((coverage_spanAt "ab\r\n\r\ncd" 2 1).empty_line (by decide) "\r" (by decide)
      (by decide)).2
  · exact ((coverage_spanAt "ab\r\n\r\ncd" 7 7).missing_line (by decide)).2

end GradleLint
