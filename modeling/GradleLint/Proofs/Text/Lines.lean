import GradleLint.Proofs.Text.Fields
import GradleLint.Text.Blank
import GradleLint.Text.Line

/-!
# Lines at every line boundary

`CutsInto` says what it is to cut a text into lines: each line is free of line breaks and ended by
one break, where a carriage return and the line feed behind it are one, and only the last line may
go without a break, unless it is empty.  There is one such cut, the one that `lines` computes
(`lines_eq_iff`).

What matters of a failed build are the inked lines.  A line feed between two texts parts the inked
lines of the one from those of the other (`inkedLines_append_newline`), and inked lines that are
joined by line feeds are cut at these again (`inkedLines_join`).
-/

namespace GradleLint
namespace Text

/-! ## Cutting a text into lines -/

/-- No character of the text ends a line. -/
def BreakFree (t : Text) : Prop := ∀ c ∈ t, isLineBreak c = false

/-- A text that ends one line when `rest` follows. -/
inductive EndsLine : Text → Text → Prop
  | pair (rest : Text) : EndsLine ['\r', '\n'] rest
  | single {c : Char} {rest : Text} (hc : isLineBreak c = true)
      (hpair : c = '\r' → rest.head? ≠ some '\n') : EndsLine [c] rest

/-- A text consists of lines, all but the last of which are ended. -/
inductive CutsInto : Text → List Text → Prop
  | empty : CutsInto [] []
  | last {line : Text} (hline : BreakFree line) (hne : line ≠ []) : CutsInto line [line]
  | ended {line ending rest : Text} {ls : List Text} (hline : BreakFree line)
      (hending : EndsLine ending rest) (hrest : CutsInto rest ls) :
      CutsInto (line ++ ending ++ rest) (line :: ls)

lemma breakFree_nil : BreakFree [] := List.forall_mem_nil _

lemma BreakFree.cons {c : Char} {line : Text} (hc : isLineBreak c = false) (h : BreakFree line) :
    BreakFree (c :: line) :=
  List.forall_mem_cons.mpr ⟨hc, h⟩

lemma endsLine_newline (rest : Text) : EndsLine ['\n'] rest := .single rfl (by simp)

/-- A character that ends no line makes the first line longer. -/
lemma CutsInto.consFirst {c : Char} {t : Text} {ls : List Text} (hc : isLineBreak c = false)
    (hne : t ≠ []) (h : CutsInto t ls) : CutsInto (c :: t) (consFirst c ls) := by
  cases h with
  | empty => exact absurd rfl hne
  | last hline _ => exact .last (hline.cons hc) (List.cons_ne_nil c t)
  | ended hline hending hrest => exact .ended (hline.cons hc) hending hrest

lemma cutsInto_lines (t : Text) : CutsInto t t.lines := by
  fun_induction lines t with
  | case1 => exact .empty
  | case2 c hc => exact .ended breakFree_nil (.single hc (by simp)) .empty
  | case3 c hc =>
    exact .last (breakFree_nil.cons (by simpa using hc)) (List.cons_ne_nil c [])
  | case4 c d r hpair ih =>
    obtain ⟨rfl, rfl⟩ := hpair
    exact .ended breakFree_nil (.pair r) ih
  | case5 c d r hpair hc ih =>
    refine .ended breakFree_nil (.single hc fun hreturn hnewline => ?_) ih
    exact hpair ⟨hreturn, by simpa using hnewline⟩
  | case6 c d r _ hc ih => exact ih.consFirst (by simpa using hc) (List.cons_ne_nil d r)

lemma lines_of_breakFree {line : Text} (h : BreakFree line) (hne : line ≠ []) :
    line.lines = [line] := by
  fun_induction lines line with
  | case1 => exact absurd rfl hne
  | case2 c hc => simp [h c (by simp)] at hc
  | case3 c hc => rfl
  | case4 c d r hpair ih =>
    obtain ⟨rfl, rfl⟩ := hpair
    exact absurd (h '\r' (by simp)) (by decide)
  | case5 c d r _ hc ih => simp [h c (by simp)] at hc
  | case6 c d r _ hc ih =>
    rw [ih (List.forall_mem_cons.mp h).2 (List.cons_ne_nil d r), Text.consFirst]

lemma lines_append_ending {line ending rest : Text} (hline : BreakFree line)
    (hending : EndsLine ending rest) : (line ++ ending ++ rest).lines = line :: rest.lines := by
  induction line with
  | nil =>
    cases hending with
    | pair => simp [lines]
    | single hc hpair =>
      cases rest with
      | nil => simp [lines, hc]
      | cons d r =>
        have hnot : ∀ c : Char, (c = '\r' → (d :: r).head? ≠ some '\n') → ¬ (c = '\r' ∧ d = '\n') :=
          fun c hpair h => hpair h.1 (congrArg some h.2)
        simp [lines, hnot _ hpair, hc]
  | cons c line ih =>
    obtain ⟨hc, hline⟩ := List.forall_mem_cons.mp hline
    have hreturn : c ≠ '\r' := by
      rintro rfl
      exact absurd hc (by decide)
    obtain ⟨d, r, hcons⟩ : ∃ d r, line ++ ending ++ rest = d :: r := by
      refine List.exists_cons_of_ne_nil ?_
      cases hending <;> simp
    have hlines := ih hline
    rw [hcons] at hlines
    rw [List.cons_append, List.cons_append, hcons, lines, if_neg fun h => hreturn h.1,
      if_neg (by simp [hc]), hlines, Text.consFirst]

/-- There is one way to cut a text into lines. -/
theorem lines_eq_iff {t : Text} {ls : List Text} : t.lines = ls ↔ t.CutsInto ls := by
  constructor
  · rintro rfl
    exact cutsInto_lines t
  · intro h
    induction h with
    | empty => rfl
    | last hline hne => exact lines_of_breakFree hline hne
    | ended hline hending _ ih => rw [lines_append_ending hline hending, ih]

/-! ## What lines hold -/

/-- A line holds no break, and nothing that the text does not hold. -/
lemma CutsInto.mem_line {t line : Text} {ls : List Text} (h : CutsInto t ls) (hline : line ∈ ls) :
    BreakFree line ∧ line ⊆ t := by
  induction h with
  | empty => exact absurd hline List.not_mem_nil
  | last hfree _ =>
    obtain rfl := List.mem_singleton.mp hline
    exact ⟨hfree, List.Subset.refl _⟩
  | @ended first ending rest ls hfree _ _ ih =>
    obtain rfl | hline := List.mem_cons.mp hline
    · exact ⟨hfree, fun c hc => by simp [hc]⟩
    · exact ⟨(ih hline).1, fun c hc => by simp [(ih hline).2 hc]⟩

/-- A line feed between two texts ends a line, which is empty if the first text has ended its last
line itself. -/
lemma CutsInto.append_newline {a b : Text} {as bs : List Text} (ha : CutsInto a as)
    (hb : CutsInto b bs) :
    CutsInto (a ++ '\n' :: b) (as ++ bs) ∨ CutsInto (a ++ '\n' :: b) (as ++ [] :: bs) := by
  induction ha with
  | empty =>
    have h := CutsInto.ended breakFree_nil (endsLine_newline b) hb
    exact .inr h
  | last hline _ =>
    have h := CutsInto.ended hline (endsLine_newline b) hb
    rw [List.append_assoc] at h
    exact .inl h
  | @ended line ending rest ls hline hending hrest ih =>
    rw [List.append_assoc (line ++ ending)]
    by_cases hpair : ending = ['\r'] ∧ rest = []
    · -- The line feed belongs to the carriage return before it.
      obtain ⟨rfl, rfl⟩ := hpair
      obtain rfl : ls = [] := by
        rw [← lines_eq_iff.mpr hrest]
        rfl
      have h := CutsInto.ended hline (.pair b) hb
      rw [List.append_assoc] at h ⊢
      exact .inl h
    · have hending' : EndsLine ending (rest ++ '\n' :: b) := by
        cases hending with
        | pair => exact .pair _
        | single hc hreturn =>
          refine .single hc fun h => ?_
          cases rest with
          | nil => exact absurd ⟨by rw [h], rfl⟩ hpair
          | cons d r => exact hreturn h
      exact ih.imp (.ended hline hending') (.ended hline hending')

/-! ## Inked lines -/

/-- The lines of a text that hold more than blanks. -/
def inkedLines (t : Text) : List Text := t.lines.filter isInked

lemma isInked_eq_false_iff {t : Text} : t.isInked = false ↔ ∀ c ∈ t, isBlank c = true := by
  simp [isInked]

lemma inkedLines_append_newline (a b : Text) :
    (a ++ '\n' :: b).inkedLines = a.inkedLines ++ b.inkedLines := by
  unfold inkedLines
  obtain h | h := (cutsInto_lines a).append_newline (cutsInto_lines b)
  · rw [lines_eq_iff.mpr h, List.filter_append]
  · rw [lines_eq_iff.mpr h, List.filter_append, List.filter_cons_of_neg (by simp [isInked])]

lemma inkedLines_of_blank {t : Text} (h : ∀ c ∈ t, isBlank c = true) : t.inkedLines = [] := by
  refine List.filter_eq_nil_iff.mpr fun line hline => ?_
  have hsubset := ((cutsInto_lines t).mem_line hline).2
  rw [isInked_eq_false_iff.mpr fun c hc => h c (hsubset hc)]
  exact Bool.false_ne_true

/-- An inked line is not empty and holds no break. -/
lemma mem_inkedLines {t line : Text} (h : line ∈ t.inkedLines) :
    BreakFree line ∧ line ≠ [] ∧ line.isInked = true := by
  obtain ⟨hline, hinked⟩ := List.mem_filter.mp h
  refine ⟨((cutsInto_lines t).mem_line hline).1, ?_, hinked⟩
  rintro rfl
  exact Bool.false_ne_true hinked

/-- Inked lines without breaks are found again when they are joined. -/
lemma inkedLines_join {ls : List Text} (h : ∀ line ∈ ls, BreakFree line ∧ line.isInked = true) :
    (join ['\n'] ls).inkedLines = ls := by
  have hsingle : ∀ {line : Text}, BreakFree line → line.isInked = true → line.inkedLines = [line] := by
    intro line hfree hinked
    have hne : line ≠ [] := by
      rintro rfl
      exact Bool.false_ne_true hinked
    rw [inkedLines, lines_of_breakFree hfree hne]
    simp [hinked]
  induction ls with
  | nil => rfl
  | cons first ls ih =>
    obtain ⟨⟨hfree, hinked⟩, hrest⟩ := List.forall_mem_cons.mp h
    cases ls with
    | nil => rw [join, List.intercalate_singleton, hsingle hfree hinked]
    | cons second ls =>
      have hjoin : join ['\n'] (first :: second :: ls) =
          first ++ '\n' :: join ['\n'] (second :: ls) := by
        rw [join, List.intercalate_cons_cons, List.append_assoc]
        rfl
      rw [hjoin, inkedLines_append_newline, hsingle hfree hinked, ih hrest, List.singleton_append]

end Text
end GradleLint
