import GradleLint.Proofs.Text.Fields

/-!
# Carriage returns before line feeds

Some programs end a line with a carriage return and a line feed where others write a line feed
alone.  `withReturns` goes from the one to the other; the lines stay what they are
(`fields_withReturns`), and so does the last character (`getLast?_withReturns`).
-/

namespace GradleLint
namespace Text

/-- The text with a carriage return before every line feed. -/
def withReturns (t : Text) : Text := t.flatMap fun c => if c = '\n' then ['\r', '\n'] else [c]

/-! ## Lines -/

lemma dropCarriageReturn_cons {c : Char} (h : c ≠ '\r') (t : Text) :
    dropCarriageReturn (c :: t) = c :: dropCarriageReturn t := by
  cases t with
  | nil => exact if_neg h
  | cons d t => rfl

lemma map_dropCarriageReturn_consFirst {c : Char} (h : c ≠ '\r') (ps : List Text) :
    (consFirst c ps).map dropCarriageReturn = consFirst c (ps.map dropCarriageReturn) := by
  cases ps with
  | nil => rw [consFirst, List.map_singleton, dropCarriageReturn_cons h]; rfl
  | cons p ps => rw [consFirst, List.map_cons, dropCarriageReturn_cons h]; rfl

/-- The lines of a text are those of the text with the carriage returns, without them. -/
lemma fields_withReturns {t : Text} (h : '\r' ∉ t) :
    (fields '\n' t.withReturns).map dropCarriageReturn = t.fields '\n' := by
  induction t with
  | nil => rfl
  | cons c r ih =>
    rw [List.mem_cons, not_or] at h
    have hc : c ≠ '\r' := Ne.symm h.1
    rw [withReturns, List.flatMap_cons, fields]
    by_cases hbreak : c = '\n'
    · rw [if_pos hbreak, if_pos hbreak, ← ih h.2]
      rfl
    · rw [if_neg hbreak, if_neg hbreak, List.singleton_append, fields, if_neg hbreak,
        map_dropCarriageReturn_consFirst hc, ← ih h.2]
      rfl

/-! ## Parts of the text -/

lemma withReturns_append (a b : Text) : (a ++ b).withReturns = a.withReturns ++ b.withReturns :=
  List.flatMap_append

lemma withReturns_cons_newline (t : Text) :
    withReturns ('\n' :: t) = '\r' :: '\n' :: t.withReturns := rfl

lemma withReturns_of_not_mem {t : Text} (h : '\n' ∉ t) : t.withReturns = t := by
  have hsingle : ∀ c ∈ t, (if c = '\n' then ['\r', '\n'] else [c]) = [c] := fun c hc =>
    if_neg (ne_of_mem_of_not_mem hc h)
  rw [withReturns, List.flatMap_congr hsingle, List.flatMap_singleton']

/-- Carriage returns do not come last. -/
lemma getLast?_withReturns (t : Text) : t.withReturns.getLast? = t.getLast? := by
  rcases List.eq_nil_or_concat t with rfl | ⟨t, c, rfl⟩
  · rfl
  · rw [List.concat_eq_append, withReturns_append, List.getLast?_append, List.getLast?_concat]
    by_cases hc : c = '\n'
    · rw [hc]; rfl
    · rw [withReturns_of_not_mem (by simpa using Ne.symm hc)]; rfl

lemma count_withReturns (t : Text) : t.withReturns.count '\n' = t.count '\n' := by
  induction t with
  | nil => rfl
  | cons c t ih =>
    rw [← List.singleton_append, withReturns_append, List.count_append, List.count_append, ih]
    by_cases hc : c = '\n'
    · rw [hc]; rfl
    · rw [withReturns_of_not_mem (by simpa using Ne.symm hc)]

end Text
end GradleLint
