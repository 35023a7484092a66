import GradleLint.Proofs.Position.Before

/-!
# Edits elsewhere do not move a position

Text put behind a line leaves the offsets of the line as they are, provided that the line feed of
the line stands before the edit (`offsetAt_append`).  The last line has no line feed: what is put
behind it belongs to it, and its columns reach further.

Text put in front, up to a line feed, moves the lines by as many as it has line feeds and the
offsets by as many as it has characters (`offsetAt_shifted`).  The end of the text, for which the
lines that do not exist stand, moves along with the others.
-/

namespace GradleLint

/-! ## Text behind a line -/

/-- A line with its line feed, and what stands before and behind it. -/
lemma exists_closedLine {t : Text} {line : Int} (hfirst : 1 ≤ line) (hlast : line ≤ t.count '\n') :
    ∃ before l behind, t = before ++ (l ++ '\n' :: behind) ∧ IsWholeLines before ∧ '\n' ∉ l ∧
      line = before.count '\n' + 1 := by
  obtain ⟨before, rest, rfl, hwhole, rfl⟩ := exists_lineStart hfirst (Int.le_add_one hlast)
  have hmem : '\n' ∈ rest := by
    rw [List.count_append] at hlast
    exact List.count_pos_iff.mp (by omega)
  obtain ⟨l, behind, rfl, hl⟩ := List.eq_append_cons_of_mem hmem
  exact ⟨before, l, behind, rfl, hwhole, hl, rfl⟩

/-- What stands behind the line feed of a line does not count. -/
lemma offsetAt_of_closedLine {before l : Text} (hwhole : IsWholeLines before) (hl : '\n' ∉ l)
    (behind : Text) (column : Int) :
    offsetAt (before ++ (l ++ '\n' :: behind)) (before.count '\n' + 1) column =
      before.length + min column.toNat l.dropCarriageReturn.length := by
  rw [offsetAt_of_wholeLines hwhole, firstLine_append_newline hl]

lemma offsetAt_append {t : Text} {line : Int} (hfirst : 1 ≤ line) (hlast : line ≤ t.count '\n')
    (s : Text) (column : Int) : offsetAt (t ++ s) line column = offsetAt t line column := by
  obtain ⟨before, l, behind, rfl, hwhole, hl, rfl⟩ := exists_closedLine hfirst hlast
  have hbehind : before ++ (l ++ '\n' :: behind) ++ s =
      before ++ (l ++ '\n' :: (behind ++ s)) := by simp
  rw [hbehind, offsetAt_of_closedLine hwhole hl, offsetAt_of_closedLine hwhole hl]

/-! ## Text in front -/

lemma IsWholeLines.behind {before : Text} (h : IsWholeLines before) (p : Text) :
    IsWholeLines (p ++ '\n' :: before) := by
  obtain rfl | ⟨before, rfl⟩ := h
  · exact .inr ⟨p, rfl⟩
  · exact .inr ⟨p ++ '\n' :: before, by simp⟩

/-- The number of a line is moved by the line feeds, its offsets by the length. -/
lemma offsetAt_shifted (p t : Text) {line : Int} (hfirst : 1 ≤ line) (column : Int) :
    offsetAt (p ++ '\n' :: t) (line + (p.count '\n' + 1)) column =
      p.length + 1 + offsetAt t line column := by
  by_cases hline : line ≤ t.count '\n' + 1
  · obtain ⟨before, rest, rfl, hwhole, rfl⟩ := exists_lineStart hfirst hline
    have hnumber : (before.count '\n' + 1 + (p.count '\n' + 1) : Int) =
        (p ++ '\n' :: before).count '\n' + 1 := by
      rw [List.count_append, List.count_cons_self]
      omega
    calc offsetAt (p ++ '\n' :: (before ++ rest))
          (before.count '\n' + 1 + (p.count '\n' + 1)) column
        = offsetAt ((p ++ '\n' :: before) ++ rest) ((p ++ '\n' :: before).count '\n' + 1)
            column := by rw [hnumber, List.append_assoc, List.cons_append]
      _ = (p ++ '\n' :: before).length + min column.toNat (firstLine rest).length :=
          offsetAt_of_wholeLines (hwhole.behind p) rest column
      _ = p.length + 1 + (before.length + min column.toNat (firstLine rest).length) := by
          rw [List.length_append, List.length_cons]
          omega
      _ = p.length + 1 + offsetAt (before ++ rest) (before.count '\n' + 1) column := by
          rw [offsetAt_of_wholeLines hwhole]
  · have hmissing : ((p ++ '\n' :: t).count '\n' + 1 : Int) < line + (p.count '\n' + 1) := by
      rw [List.count_append, List.count_cons_self]
      omega
    rw [offsetAt_of_missing hmissing, offsetAt_of_missing (by omega), List.length_append,
      List.length_cons]
    omega

/-! ## Both -/

/-- Text behind a line that has its line feed leaves the offsets of the line as they are, and text
in front of all lines moves them by its length. -/
theorem offsetAt_edited_elsewhere (t : Text) (line column : Int) :
    (∀ s : Text, max line 1 ≤ t.count '\n' →
      offsetAt (t ++ s) line column = offsetAt t line column) ∧
    ∀ p : Text, 1 ≤ line →
      offsetAt (p ++ '\n' :: t) (line + (p.count '\n' + 1)) column =
        p.length + 1 + offsetAt t line column := by
  refine ⟨fun s hlast => ?_, fun p hfirst => offsetAt_shifted p t hfirst column⟩
  rw [← offsetAt_max_one (t ++ s), ← offsetAt_max_one t]
  exact offsetAt_append (by omega) hlast s column

/-- A carriage return at the end of what is put in front does not count for the line behind it,
and a line that does not exist stays at the end. -/
theorem offsets_of_edited_text :
    offsetAt ("a\r\nb" ++ "\r\nc" : Text) 0 9 = offsetAt "a\r\nb" 0 9 ∧
      offsetAt ("x\n\ny\r" ++ '\n' :: "a\r\nb" : Text) (1 + 3) 9 = 6 + offsetAt "a\r\nb" 1 9 ∧
      offsetAt ("x\n\ny\r" ++ '\n' :: "a\r\nb" : Text) (7 + 3) 9 = 6 + offsetAt "a\r\nb" 7 9 :=
  ⟨(offsetAt_edited_elsewhere "a\r\nb" 0 9).1 "\r\nc" (by decide),
    (offsetAt_edited_elsewhere "a\r\nb" 1 9).2 "x\n\ny\r" (by decide),
    (offsetAt_edited_elsewhere "a\r\nb" 7 9).2 "x\n\ny\r" (by decide)⟩

end GradleLint
