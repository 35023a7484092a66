import GradleLint.Proofs.Position.Before
import Mathlib.Data.List.DropRight

/-!
# Every character has an address

Counting the line feeds before an offset gives its line, and counting the characters since the
last of them gives its column.  Going to that line and column leads back to the offset, for every
character that belongs to the content of its line (`IsContentAt`); the characters that do not,
line feeds and the carriage returns that end lines, share their positions with others.

The column asks for at most as many characters as the content of the line has, so that nothing is
cut (`length_lt_firstLine`); this is where a carriage return inside a line differs from one at its
end.
-/

namespace GradleLint

/-! ## The address of an offset -/

/-- The offset right behind the last line feed before `o`; zero when there is none. -/
def lineStartAt (t : Text) (o : Nat) : Nat := ((t.take o).rdropWhile (· != '\n')).length

/-- The line of the character at an offset. -/
def lineAt (t : Text) (o : Nat) : Int := (t.take o).count '\n' + 1

/-- The column of the character at an offset. -/
def columnAt (t : Text) (o : Nat) : Int := o - lineStartAt t o + 1

/-- At the offset stands a character of a line's content: no line feed, and no carriage return
right before a line feed or at the end of the text. -/
def IsContentAt (t : Text) (o : Nat) : Prop :=
  ∃ c, t[o]? = some c ∧ c ≠ '\n' ∧ (c = '\r' → ∃ d, t[o + 1]? = some d ∧ d ≠ '\n')

/-! ## The content of a line -/

/-- A character of the content is reached by the columns of its line. -/
lemma length_lt_firstLine {start rest : Text} {c : Char} (hstart : '\n' ∉ start) (hc : c ≠ '\n')
    (hreturn : c = '\r' → ∃ d, rest.head? = some d ∧ d ≠ '\n') :
    start.length < (firstLine (start ++ c :: rest)).length := by
  have hfirst : firstLine (start ++ c :: rest) =
      Text.dropCarriageReturn (start ++ c :: rest.takeWhile (· != '\n')) := by
    rw [firstLine, takeWhile_append_of_not_mem hstart,
      List.takeWhile_cons, if_pos (bne_iff_ne.mpr hc)]
  rw [hfirst]
  by_cases hcr : c = '\r'
  · -- Another character of the line follows, and no more than one is dropped.
    obtain ⟨d, hd, hline⟩ := hreturn hcr
    obtain ⟨rest, rfl⟩ : ∃ rest', rest = d :: rest' := List.head?_eq_some_iff.mp hd
    rw [List.takeWhile_cons, if_pos (bne_iff_ne.mpr hline), length_dropCarriageReturn,
      contentLength]
    simp only [List.length_append, List.length_cons]
    split <;> omega
  · rw [Text.dropCarriageReturn_append_cons hcr, List.length_append, List.length_cons]
    omega

lemma IsContentAt.split {t : Text} {o : Nat} (h : IsContentAt t o) :
    ∃ c rest, t = t.take o ++ c :: rest ∧ (t.take o).length = o ∧ c ≠ '\n' ∧
      (c = '\r' → ∃ d, rest.head? = some d ∧ d ≠ '\n') := by
  obtain ⟨c, hat, hc, hreturn⟩ := h
  obtain ⟨hlt, rfl⟩ := List.getElem?_eq_some_iff.mp hat
  refine ⟨t[o], t.drop (o + 1), ?_, List.length_take_of_le hlt.le, hc, ?_⟩
  · rw [← List.drop_eq_getElem_cons hlt, List.take_append_drop]
  · intro hcr
    obtain ⟨d, hd, hline⟩ := hreturn hcr
    exact ⟨d, by rwa [List.head?_drop], hline⟩

/-! ## There and back -/

/-- What stands before the start of a line are whole lines. -/
lemma isWholeLines_rdropWhile (t : Text) : IsWholeLines (t.rdropWhile (· != '\n')) := by
  by_cases hne : t.rdropWhile (· != '\n') = []
  · exact .inl hne
  · have hlast := List.rdropWhile_last_not (· != '\n') t hne
    rw [bne_iff_ne, not_not] at hlast
    have hsplit := List.dropLast_append_getLast hne
    rw [hlast] at hsplit
    exact .inr ⟨_, hsplit.symm⟩

/-- The line and the column of a character of the content lead to the offset right behind it. -/
lemma offsetAt_lineAt {t : Text} {o : Nat} (h : IsContentAt t o) :
    offsetAt t (lineAt t o) (columnAt t o) = o + 1 := by
  obtain ⟨c, rest, ht, hlength, hc, hreturn⟩ := h.split
  obtain ⟨before, hbefore⟩ : ∃ before, before = (t.take o).rdropWhile (· != '\n') := ⟨_, rfl⟩
  obtain ⟨start, hstart⟩ : ∃ start, start = (t.take o).rtakeWhile (· != '\n') := ⟨_, rfl⟩
  have hhead : t.take o = before ++ start := by
    rw [hbefore, hstart, List.rdropWhile_append_rtakeWhile]
  have hfree : '\n' ∉ start := by
    intro hmem
    rw [hstart] at hmem
    exact bne_iff_ne.mp (List.mem_rtakeWhile_imp hmem :) rfl
  have hline : lineAt t o = before.count '\n' + 1 := by
    rw [lineAt, hhead, List.count_append, List.count_eq_zero_of_not_mem hfree, Nat.add_zero]
  have ho : o = before.length + start.length := by rw [← hlength, hhead, List.length_append]
  have hcolumn : (columnAt t o).toNat = start.length + 1 := by
    rw [columnAt, lineStartAt, ← hbefore]
    omega
  have hroom := length_lt_firstLine hfree hc hreturn
  calc offsetAt t (lineAt t o) (columnAt t o)
      = offsetAt (before ++ (start ++ c :: rest)) (before.count '\n' + 1) (columnAt t o) := by
        rw [hline, ← List.append_assoc, ← hhead, ← ht]
    _ = before.length + min (start.length + 1) (firstLine (start ++ c :: rest)).length := by
        rw [offsetAt_of_wholeLines (hbefore ▸ isWholeLines_rdropWhile _), hcolumn]
    _ = o + 1 := by omega

/-- The span of the line and the column of a character of the content is that one character, so
that different characters of the content have different spans. -/
theorem spanAt_lineAt {t : Text} {o : Nat} (h : IsContentAt t o) :
    spanAt t (lineAt t o) (columnAt t o) = ⟨o, o + 1⟩ ∧
      (spanAt t (lineAt t o) (columnAt t o)).slice t = t[o]?.toList ∧
      ∀ o', IsContentAt t o' → o' ≠ o →
        spanAt t (lineAt t o') (columnAt t o') ≠ spanAt t (lineAt t o) (columnAt t o) := by
  have hspan : ∀ {o}, IsContentAt t o → spanAt t (lineAt t o) (columnAt t o) = ⟨o, o + 1⟩ := by
    intro o h
    rw [spanAt, offsetAt_lineAt h, Nat.add_sub_cancel]
  refine ⟨hspan h, ?_, ?_⟩
  · obtain ⟨c, rest, -, hlength, -, -⟩ := h.split
    rw [hspan h, Span.slice, List.take_add_one, List.drop_left' hlength]
  · intro o' h' hne heq
    rw [hspan h, hspan h', Span.mk.injEq] at heq
    exact hne heq.1

/-- A carriage return inside a line has a span of its own, apart from that of its neighbour. -/
theorem spanAt_inner_return :
    spanAt "a\r\r\nb" 1 2 = ⟨1, 2⟩ ∧ (spanAt "a\r\r\nb" 1 2).slice "a\r\r\nb" = "\r" ∧
      spanAt "a\r\r\nb" 1 1 ≠ spanAt "a\r\r\nb" 1 2 := by
  have hreturn : IsContentAt "a\r\r\nb" 1 :=
    ⟨'\r', rfl, by decide, fun _ => ⟨'\r', rfl, by decide⟩⟩
  have hletter : IsContentAt "a\r\r\nb" 0 := ⟨'a', rfl, by decide, fun h => absurd h (by decide)⟩
  obtain ⟨hspan, hslice, hapart⟩ := spanAt_lineAt hreturn
  exact ⟨hspan, hslice, hapart 0 hletter (by decide)⟩

end GradleLint
