import GradleLint.Position
import GradleLint.Proofs.Text.Fields
import Mathlib.Algebra.GroupWithZero.Nat

/-!
# Offsets by lines

Going to a line scans the text from its start.  Here the same offset is read off the list of all
lines, the text cut at its line feeds: it is the sum of the lengths of the lines before, one more
for the line feed behind each, and then as many characters of the line itself as the column asks
for and the line has.

`skipLines_eq` carries this: after `n` lines the scan stands at the `n`-th prefix sum, and what
is left of the text is made of the lines that are left.
-/

namespace GradleLint

/-! ## Skipping lines -/

/-- The number of characters in whole lines, each with its line feed. -/
def totalLength (lines : List Text) : Nat := (lines.map fun l => l.length + 1).sum

@[simp] lemma totalLength_nil : totalLength [] = 0 := rfl

@[simp] lemma totalLength_cons (l : Text) (lines : List Text) :
    totalLength (l :: lines) = l.length + 1 + totalLength lines := rfl

/-- What skipping lines does, in terms of all the lines of the text. -/
lemma skipLines_eq (n : Nat) (t : Text) :
    skipLines n t =
      if n < (t.fields '\n').length then
        some (totalLength ((t.fields '\n').take n), Text.join ['\n'] ((t.fields '\n').drop n))
      else none := by
  induction n, t using skipLines.induct with
  | case1 t =>
    have hpos : 0 < (t.fields '\n').length :=
      List.length_pos_of_ne_nil (Text.fields_ne_nil '\n' t)
    rw [if_pos hpos, List.drop_zero, Text.join_fields, List.take_zero, totalLength_nil, skipLines]
  | case2 n => rfl
  | case3 n c r ih ih' =>
    rw [skipLines, Text.fields]
    by_cases hc : c = '\n'
    · -- The first line is empty, so the scan has left it behind.
      rw [if_pos hc, if_pos hc, ih, List.length_cons, List.take_succ_cons, List.drop_succ_cons,
        totalLength_cons, List.length_nil, Nat.zero_add]
      by_cases hn : n < (Text.fields '\n' r).length
      · rw [if_pos hn, if_pos (by omega)]
        exact congrArg (fun k => some (k, _)) (Nat.add_comm _ 1)
      · rw [if_neg hn, if_neg (by omega), Option.map_none]
    · -- The first line grows by one character, whatever the number of lines to skip.
      rw [if_neg hc, if_neg hc, ih']
      obtain ⟨l, ls, hls⟩ := List.exists_cons_of_ne_nil (Text.fields_ne_nil '\n' r)
      rw [hls, Text.consFirst, List.length_cons, List.length_cons, List.take_succ_cons,
        List.take_succ_cons, List.drop_succ_cons, List.drop_succ_cons, totalLength_cons,
        totalLength_cons, List.length_cons]
      by_cases hn : n + 1 < ls.length + 1
      · rw [if_pos hn, if_pos hn]
        exact congrArg (fun k => some (k, _)) (Nat.add_right_comm (l.length + 1) _ 1)
      · rw [if_neg hn, if_neg hn, Option.map_none]

/-! ## The line that is reached -/

lemma takeWhile_append_of_not_mem {l : Text} (hl : '\n' ∉ l) (rest : Text) :
    (l ++ rest).takeWhile (· != '\n') = l ++ rest.takeWhile (· != '\n') := by
  refine List.takeWhile_append_of_pos fun c hc => ?_
  rw [bne_iff_ne]
  rintro rfl
  exact hl hc

/-- A line feed ends the first line, and so does the end of the text. -/
lemma firstLine_append {l : Text} (hl : '\n' ∉ l) (rest : Text)
    (hrest : ∀ c ∈ rest.head?, c = '\n') : firstLine (l ++ rest) = l.dropCarriageReturn := by
  have htail : rest.takeWhile (· != '\n') = [] := by
    cases rest with
    | nil => rfl
    | cons c rest =>
      obtain rfl : c = '\n' := hrest c rfl
      rfl
  rw [firstLine, takeWhile_append_of_not_mem hl, htail, List.append_nil]

lemma firstLine_append_newline {l : Text} (hl : '\n' ∉ l) (behind : Text) :
    firstLine (l ++ '\n' :: behind) = l.dropCarriageReturn :=
  firstLine_append hl ('\n' :: behind) fun _ hc => (Option.some.inj hc).symm

lemma firstLine_join {l : Text} (hl : '\n' ∉ l) (lines : List Text) :
    firstLine (Text.join ['\n'] (l :: lines)) = l.dropCarriageReturn := by
  cases lines with
  | nil =>
    have h := firstLine_append hl [] (fun c hc => absurd hc (Option.not_mem_none c))
    rw [Text.join, List.intercalate_singleton]
    rwa [List.append_nil] at h
  | cons l' lines =>
    have h := firstLine_append_newline hl (Text.join ['\n'] (l' :: lines))
    rwa [Text.join, List.intercalate_cons_cons, List.append_assoc]

/-- The number of characters of a line that a column can go over: a carriage return that ends the
line is not among them. -/
def contentLength (line : Text) : Nat :=
  if line.getLast? = some '\r' then line.length - 1 else line.length

lemma length_dropCarriageReturn (line : Text) :
    line.dropCarriageReturn.length = contentLength line := by
  rcases List.eq_nil_or_concat line with rfl | ⟨l, c, rfl⟩
  · rfl
  · have hlast : (l ++ [c]).getLast? = some c := List.getLast?_concat
    rw [List.concat_eq_append, Text.dropCarriageReturn_concat, contentLength]
    by_cases hc : c = '\r'
    · rw [if_pos hc, if_pos (hlast.trans (congrArg some hc)), List.length_append,
        List.length_singleton, Nat.add_sub_cancel]
    · rw [if_neg hc, if_neg (fun h => hc (Option.some.inj (hlast.symm.trans h)))]

lemma contentLength_le (line : Text) : contentLength line ≤ line.length := by
  unfold contentLength
  split <;> omega

/-- The content of a line is what is left of it without the carriage return at its end. -/
lemma dropCarriageReturn_eq_take (line : Text) :
    line.dropCarriageReturn = line.take (contentLength line) := by
  rw [← length_dropCarriageReturn]
  exact List.prefix_iff_eq_take.mp line.dropCarriageReturn_prefix

/-! ## Offsets -/

/-- The offset of a line and a column, by the lines of the text cut at its line feeds. -/
theorem offsetAt_by_lines (t : Text) (line column : Int) :
    offsetAt t line column =
      let lines := t.splitOn '\n'
      let number := (max line 1).toNat
      if lines.length < number then t.length
      else
        ((lines.take (number - 1)).map fun l => l.length + 1).sum
          + min (max column 0).toNat (contentLength (lines.getD (number - 1) [])) := by
  have hnumber : (max line 1).toNat - 1 = line.toNat - 1 := by omega
  have hcolumn : (max column 0).toNat = column.toNat := by omega
  simp only [← Text.fields_eq_splitOn, hnumber, hcolumn]
  rw [offsetAt, skipLines_eq]
  by_cases hline : line.toNat - 1 < (t.fields '\n').length
  · have hmem : (t.fields '\n')[line.toNat - 1] ∈ t.fields '\n' := List.getElem_mem hline
    have hfree : '\n' ∉ (t.fields '\n')[line.toNat - 1] :=
      fun hc => (Text.mem_of_mem_fields hmem hc).2 rfl
    rw [if_pos hline, if_neg (by omega), ← List.getElem_eq_getD,
      List.drop_eq_getElem_cons hline]
    show totalLength _ + min column.toNat (firstLine _).length = _
    rw [firstLine_join hfree, length_dropCarriageReturn]
    rfl
  · rw [if_neg hline, if_pos (by omega)]

/-- A column past the end of its line is cut, in front of the carriage return. -/
example : offsetAt "ab\r\ncd" 1 100 = 2 := by decide

end GradleLint
