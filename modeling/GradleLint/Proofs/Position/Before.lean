import GradleLint.Proofs.Position
import GradleLint.Proofs.Position.Lines

/-!
# What stands before a position

A line starts behind whole lines, one fewer than its number says (`exists_wholeLines`).  From
there only the column counts, so what stands before a position are those whole lines and the
characters of the line's content that the column goes over (`take_offsetAt`).  Everything stands
before a line that does not exist (`offsetAt_of_missing`).

The span of a position covers the last character of what stands before it (`slice_spanAt`):
questions about the character that is marked are questions about a text that ends there.
-/

namespace GradleLint

/-! ## From the start of a line -/

/-- The scan passes a line feed as soon as it has as many lines to skip as there are line feeds up
to it. -/
lemma skipLines_through (before rest : Text) :
    skipLines (before.count '\n' + 1) (before ++ '\n' :: rest) =
      some (before.length + 1, rest) := by
  induction before with
  | nil => rw [List.nil_append, List.count_nil, skipLines, if_pos rfl, skipLines]; rfl
  | cons c before ih =>
    rw [List.cons_append, skipLines]
    by_cases hc : c = '\n'
    · rw [if_pos hc, hc, List.count_cons_self, ih]
      rfl
    · rw [if_neg hc, List.count_cons_of_ne hc, ih]
      rfl

/-- Nothing, or text that ends in a line feed. -/
def IsWholeLines (t : Text) : Prop := t = [] ∨ ∃ before, t = before ++ ['\n']

lemma skipLines_of_wholeLines {before : Text} (h : IsWholeLines before) (rest : Text) :
    skipLines (before.count '\n') (before ++ rest) = some (before.length, rest) := by
  obtain rfl | ⟨before, rfl⟩ := h
  · exact skipLines.eq_1 rest
  · rw [List.append_assoc, List.singleton_append, List.count_append, List.count_singleton_self,
      skipLines_through, List.length_append, List.length_singleton]

/-- From the start of a line only the column counts. -/
lemma offsetAt_of_wholeLines {before : Text} (h : IsWholeLines before) (rest : Text)
    (column : Int) :
    offsetAt (before ++ rest) (before.count '\n' + 1) column =
      before.length + min column.toNat (firstLine rest).length := by
  have hnumber : ((before.count '\n' : Int) + 1).toNat - 1 = before.count '\n' := by omega
  rw [offsetAt, hnumber, skipLines_of_wholeLines h]

/-! ## Whole lines -/

lemma IsWholeLines.cons {before : Text} (h : IsWholeLines before) (c : Char)
    (hc : c = '\n' ∨ before ≠ []) : IsWholeLines (c :: before) := by
  obtain rfl | ⟨before, rfl⟩ := h
  · obtain rfl : c = '\n' := hc.resolve_right (fun hne => hne rfl)
    exact .inr ⟨[], rfl⟩
  · exact .inr ⟨c :: before, rfl⟩

/-- Whole lines stand before the start of every line that exists. -/
lemma exists_wholeLines {t : Text} {n : Nat} (h : n ≤ t.count '\n') :
    ∃ before rest, t = before ++ rest ∧ IsWholeLines before ∧ before.count '\n' = n := by
  induction t generalizing n with
  | nil => exact ⟨[], [], rfl, .inl rfl, (Nat.le_zero.mp h).symm⟩
  | cons c r ih =>
    cases n with
    | zero => exact ⟨[], c :: r, rfl, .inl rfl, rfl⟩
    | succ n =>
      by_cases hc : c = '\n'
      · rw [hc, List.count_cons_self] at h
        obtain ⟨before, rest, rfl, hwhole, hcount⟩ := ih (Nat.le_of_succ_le_succ h)
        refine ⟨c :: before, rest, rfl, hwhole.cons c (.inl hc), ?_⟩
        rw [hc, List.count_cons_self, hcount]
      · rw [List.count_cons_of_ne hc] at h
        obtain ⟨before, rest, rfl, hwhole, hcount⟩ := ih h
        -- There is a line feed to come, so the line that `c` opens is a whole one.
        have hne : before ≠ [] := by
          rintro rfl
          exact absurd hcount (Nat.succ_ne_zero n).symm
        refine ⟨c :: before, rest, rfl, hwhole.cons c (.inr hne), ?_⟩
        rw [List.count_cons_of_ne hc, hcount]

/-- The same for a line counted from one. -/
lemma exists_lineStart {t : Text} {line : Int} (hfirst : 1 ≤ line)
    (hlast : line ≤ t.count '\n' + 1) :
    ∃ before rest, t = before ++ rest ∧ IsWholeLines before ∧ line = before.count '\n' + 1 := by
  obtain ⟨before, rest, ht, hwhole, hcount⟩ :=
    exists_wholeLines (show (line - 1).toNat ≤ t.count '\n' by omega)
  exact ⟨before, rest, ht, hwhole, by omega⟩

/-! ## Lines that do not exist -/

/-- The end of the text stands for every line behind the last. -/
lemma offsetAt_of_missing {t : Text} {line : Int} (h : t.count '\n' + 1 < line) (column : Int) :
    offsetAt t line column = t.length := by
  have hlines := Text.length_fields '\n' t
  rw [offsetAt, skipLines_eq, if_neg (by omega)]

/-- The first line stands for every line before it. -/
lemma offsetAt_max_one (t : Text) (line column : Int) :
    offsetAt t (max line 1) column = offsetAt t line column := by
  have hnumber : (max line 1).toNat - 1 = line.toNat - 1 := by omega
  rw [offsetAt, hnumber, offsetAt]

/-! ## The text before a position -/

/-- A column does not lead past the content of its line. -/
lemma take_min_firstLine (t : Text) (n : Nat) :
    t.take (min n (firstLine t).length) = (firstLine t).take n := by
  have hcut : ∀ {p : Text}, p <+: t → t.take (min n p.length) = p.take n := by
    rintro p ⟨behind, rfl⟩
    rw [List.take_append_of_le_length (Nat.min_le_right _ _), ← List.take_eq_take_min]
  exact hcut ((Text.dropCarriageReturn_prefix _).trans (List.takeWhile_prefix _))

/-- Before a position stand whole lines and what its column goes over. -/
lemma take_offsetAt {before : Text} (h : IsWholeLines before) (rest : Text) (column : Int) :
    (before ++ rest).take (offsetAt (before ++ rest) (before.count '\n' + 1) column) =
      before ++ (firstLine rest).take column.toNat := by
  rw [offsetAt_of_wholeLines h, List.take_length_add_append, take_min_firstLine]

/-- The span of a position covers the last character before it. -/
lemma slice_spanAt (t : Text) (line column : Int) :
    (spanAt t line column).slice t = (t.take (offsetAt t line column)).getLast?.toList := by
  have hlength : (t.take (offsetAt t line column)).length = offsetAt t line column :=
    List.length_take_of_le (offsetAt_le_length t line column)
  show (t.take (offsetAt t line column)).drop (offsetAt t line column - 1) = _
  rcases List.eq_nil_or_concat (t.take (offsetAt t line column)) with hnil | ⟨u, c, hu⟩
  · rw [hnil]; simp
  · rw [List.concat_eq_append] at hu
    rw [hu, List.length_append, List.length_singleton] at hlength
    rw [hu, ← hlength, Nat.add_sub_cancel, List.drop_left, List.getLast?_concat]
    rfl

end GradleLint
