import GradleLint.Text.Basic
import Mathlib.Data.List.Infix
import Mathlib.Tactic.Common

/-!
# Cutting, joining and searching

Cutting at a character is `List.splitOn` (`fields_eq_splitOn`), so that joining undoes it and a
separator in the middle cuts a text into the fields of its two sides (`fields_append_cons`).
Cutting at a pair of different characters is undone by joining as well (`pieces_eq_iff`).
Searching finds exactly the infixes of a text (`includes_iff`).  A carriage return is dropped at
the very end and nowhere else (`dropCarriageReturn_concat`).
-/

namespace GradleLint
namespace Text

/-! ## Cutting at a character -/

lemma consFirst_eq_modifyHead (c : Char) {ps : List Text} (h : ps ≠ []) :
    consFirst c ps = ps.modifyHead (c :: ·) := by
  cases ps with
  | nil => exact absurd rfl h
  | cons p ps => rfl

lemma fields_eq_splitOn (sep : Char) (t : Text) : t.fields sep = t.splitOn sep := by
  induction t with
  | nil => rfl
  | cons c r ih =>
    rw [List.splitOn_cons_eq_if_modifyHead, fields, ih,
      consFirst_eq_modifyHead c (List.splitOn_ne_nil sep r)]
    simp only [beq_iff_eq]

lemma fields_ne_nil (sep : Char) (t : Text) : t.fields sep ≠ [] := by
  rw [fields_eq_splitOn]
  exact List.splitOn_ne_nil sep t

/-- One more field than there are separators. -/
lemma length_fields (sep : Char) (t : Text) : (t.fields sep).length = t.count sep + 1 := by
  induction t with
  | nil => rfl
  | cons c r ih =>
    rw [fields]
    by_cases hc : c = sep
    · rw [if_pos hc, hc, List.count_cons_self, List.length_cons, ih]
    · rw [if_neg hc, List.count_cons_of_ne hc, consFirst_eq_modifyHead c (fields_ne_nil sep r),
        List.length_modifyHead, ih]

lemma length_splitOn (sep : Char) (t : Text) : (t.splitOn sep).length = t.count sep + 1 := by
  rw [← fields_eq_splitOn, length_fields]

/-- No field holds the separator. -/
lemma not_mem_of_mem_fields {sep : Char} {t field : Text} (h : field ∈ t.fields sep) :
    sep ∉ field := fun hc => (mem_of_mem_fields h hc).2 rfl

lemma fields_of_not_mem {sep : Char} {t : Text} (h : sep ∉ t) : t.fields sep = [t] := by
  rw [fields_eq_splitOn]
  exact List.splitOn_eq_singleton h

/-- A separator cuts a text into the fields before it and the fields behind it. -/
lemma fields_append_cons (sep : Char) (a b : Text) :
    fields sep (a ++ sep :: b) = a.fields sep ++ b.fields sep := by
  simp only [fields_eq_splitOn]
  exact List.splitOn_append_cons_self a b

lemma fields_append_cons_of_not_mem {sep : Char} {a : Text} (h : sep ∉ a) (b : Text) :
    fields sep (a ++ sep :: b) = a :: b.fields sep := by
  rw [fields_append_cons, fields_of_not_mem h, List.singleton_append]

/-- What is put in front of a text without a separator prolongs its first field. -/
lemma exists_fields_append (sep : Char) (t : Text) :
    ∃ rest, ∀ head : Text, sep ∉ head →
      fields sep (head ++ t) = (head ++ t.takeWhile (· ≠ sep)) :: rest := by
  induction t with
  | nil =>
    refine ⟨[], fun head hhead => ?_⟩
    rw [List.append_nil, fields_of_not_mem hhead, List.takeWhile_nil, List.append_nil]
  | cons c t ih =>
    by_cases hc : c = sep
    · refine ⟨fields sep t, fun head hhead => ?_⟩
      rw [List.takeWhile_cons_of_neg (by simp [hc]), hc, fields_append_cons_of_not_mem hhead,
        List.append_nil]
    · -- The character moves to what is in front.
      obtain ⟨rest, hrest⟩ := ih
      refine ⟨rest, fun head hhead => ?_⟩
      have hlonger : sep ∉ head ++ [c] := by simp [hhead, Ne.symm hc]
      rw [List.takeWhile_cons_of_pos (by simp [hc]), List.append_cons, hrest _ hlonger,
        ← List.append_cons]

/-- Joining the fields of a text gives it back. -/
lemma join_fields (sep : Char) (t : Text) : join [sep] (t.fields sep) = t := by
  rw [fields_eq_splitOn]
  exact List.intercalate_splitOn sep

/-- Cutting a joined text gives back its parts, if there are any and none holds the separator. -/
lemma fields_join {sep : Char} {ts : List Text} (h : ∀ t ∈ ts, sep ∉ t) (hne : ts ≠ []) :
    (join [sep] ts).fields sep = ts := by
  rw [fields_eq_splitOn]
  exact List.splitOn_intercalate sep h hne

/-- The characters of a joined text are those of its parts and of the separators between. -/
lemma mem_join {sep : Text} {c : Char} {ts : List Text} (h : c ∈ join sep ts) :
    c ∈ sep ∨ ∃ t ∈ ts, c ∈ t := by
  induction ts with
  | nil => exact absurd h List.not_mem_nil
  | cons a ts ih =>
    cases ts with
    | nil =>
      rw [join, List.intercalate_singleton] at h
      exact .inr ⟨a, List.mem_cons_self, h⟩
    | cons b ts =>
      rw [join, List.intercalate_cons_cons, List.mem_append, List.mem_append] at h
      obtain (h | h) | h := h
      · exact .inr ⟨a, List.mem_cons_self, h⟩
      · exact .inl h
      · obtain h | ⟨t, ht, hc⟩ := ih h
        · exact .inl h
        · exact .inr ⟨t, List.mem_cons_of_mem a ht, hc⟩

lemma subset_join {sep t : Text} {ts : List Text} (h : t ∈ ts) : t ⊆ join sep ts := by
  induction ts with
  | nil => exact absurd h List.not_mem_nil
  | cons a ts ih =>
    cases ts with
    | nil =>
      rw [join, List.intercalate_singleton, List.mem_singleton.mp h]
      exact List.Subset.refl a
    | cons b ts =>
      rw [join, List.intercalate_cons_cons, List.append_assoc]
      obtain rfl | h := List.mem_cons.mp h
      · exact List.subset_append_left _ _
      · exact List.subset_append_of_subset_right _ (List.subset_append_of_subset_right _ (ih h))

/-- What comes behind the first text does not depend on it. -/
lemma exists_join_cons (sep : Text) (ts : List Text) :
    ∃ rest, ∀ t, join sep (t :: ts) = t ++ rest := by
  cases ts with
  | nil => exact ⟨[], fun t => by rw [join, List.intercalate_singleton, List.append_nil]⟩
  | cons u ts =>
    refine ⟨sep ++ join sep (u :: ts), fun t => ?_⟩
    rw [join, List.intercalate_cons_cons, List.append_assoc]
    rfl

/-- Joining more texts prolongs what comes of the first ones. -/
lemma join_prefix (sep : Text) {ts us : List Text} (h : ts <+: us) : join sep ts <+: join sep us := by
  induction us generalizing ts with
  | nil => rw [List.prefix_nil.mp h]
  | cons u us ih =>
    obtain rfl | ⟨ts, rfl, hts⟩ := List.prefix_cons_iff.mp h
    · exact List.nil_prefix
    · cases us with
      | nil => rw [List.prefix_nil.mp hts]
      | cons v us =>
        rw [join, join, List.intercalate_cons_cons]
        cases ts with
        | nil =>
          rw [List.intercalate_singleton, List.append_assoc]
          exact List.prefix_append _ _
        | cons t ts =>
          rw [List.intercalate_cons_cons]
          exact (List.prefix_append_right_inj _).mpr (ih hts)

/-! ## Cutting at a pair -/

lemma pieces_ne_nil (a b : Char) (t : Text) : t.pieces a b ≠ [] := by
  induction t using pieces.induct a b with
  | case1 => exact List.cons_ne_nil _ _
  | case2 c => exact List.cons_ne_nil _ _
  | case3 c d r hpair ih => rw [pieces, if_pos hpair]; exact List.cons_ne_nil _ _
  | case4 c d r hpair ih =>
    rw [pieces, if_neg hpair]
    cases h : pieces a b (d :: r) <;> exact List.cons_ne_nil _ _

lemma join_consFirst (sep : Text) (c : Char) {ps : List Text} (h : ps ≠ []) :
    join sep (consFirst c ps) = c :: join sep ps := by
  obtain ⟨p, ps, rfl⟩ := List.exists_cons_of_ne_nil h
  cases ps <;> rfl

/-- Joining the pieces of a text gives it back. -/
lemma join_pieces (a b : Char) (t : Text) : join [a, b] (t.pieces a b) = t := by
  induction t using pieces.induct a b with
  | case1 => rfl
  | case2 c => rfl
  | case3 c d r hpair ih =>
    obtain ⟨p, ps, hpieces⟩ := List.exists_cons_of_ne_nil (pieces_ne_nil a b r)
    rw [pieces, if_pos hpair, hpieces, join, List.intercalate_cons_cons, ← hpieces, hpair.1,
      hpair.2]
    exact congrArg (fun t => a :: b :: t) ih
  | case4 c d r hpair ih =>
    rw [pieces, if_neg hpair, join_consFirst _ _ (pieces_ne_nil a b (d :: r)), ih]

/-- No piece holds the pair. -/
lemma not_infix_of_mem_pieces {a b : Char} {t p : Text} (h : p ∈ t.pieces a b) :
    ¬ [a, b] <:+: p := by
  induction t using pieces.induct a b generalizing p with
  | case1 =>
    obtain rfl := List.mem_singleton.mp h
    simp
  | case2 c =>
    obtain rfl := List.mem_singleton.mp h
    intro hheld
    exact absurd hheld.length_le (by simp)
  | case3 c d r hpair ih =>
    rw [pieces, if_pos hpair, List.mem_cons] at h
    obtain rfl | h := h
    · simp
    · exact ih h
  | case4 c d r hpair ih =>
    have hjoin := join_pieces a b (d :: r)
    obtain ⟨q, ps, hpieces⟩ := List.exists_cons_of_ne_nil (pieces_ne_nil a b (d :: r))
    rw [hpieces] at hjoin
    rw [pieces, if_neg hpair, hpieces, consFirst, List.mem_cons] at h
    obtain rfl | h := h
    · rw [List.infix_cons_iff]
      rintro (hstarts | hheld)
      · -- The piece goes on as the text does, and the text does not start with the pair.
        obtain ⟨rfl, rest, rfl⟩ := List.cons_prefix_cons.mp hstarts
        have hhead := congrArg List.head? hjoin
        have hd : b = d := by
          cases ps <;> simpa [join] using hhead
        exact hpair ⟨rfl, hd.symm⟩
      · exact ih (hpieces ▸ List.mem_cons_self) hheld
    · exact ih (hpieces ▸ List.mem_cons_of_mem q h)

lemma not_infix_of_not_mem {a b : Char} {t : Text} (h : a ∉ t) : ¬ [a, b] <:+: t :=
  fun hheld => h (hheld.subset List.mem_cons_self)

/-- A text without the pair is one piece. -/
lemma pieces_of_not_infix {a b : Char} {t : Text} (h : ¬ [a, b] <:+: t) : t.pieces a b = [t] := by
  induction t using pieces.induct a b with
  | case1 => rfl
  | case2 c => rfl
  | case3 c d r hpair ih =>
    obtain ⟨rfl, rfl⟩ := hpair
    exact absurd ⟨[], r, rfl⟩ h
  | case4 c d r hpair ih =>
    rw [pieces, if_neg hpair, ih fun hheld => h (hheld.trans (List.suffix_cons c _).isInfix)]
    rfl

/-- A pair of different characters cuts off what stands before it, if that does not hold the
pair. -/
lemma pieces_append_pair {a b : Char} (hab : a ≠ b) {t : Text} (h : ¬ [a, b] <:+: t) (r : Text) :
    pieces a b (t ++ a :: b :: r) = t :: r.pieces a b := by
  induction t with
  | nil => simp [pieces]
  | cons c t ih =>
    have hrest := ih fun hheld => h (hheld.trans (List.suffix_cons c t).isInfix)
    cases t with
    | nil =>
      have hpair : ¬ (c = a ∧ a = b) := fun hpair => hab hpair.2
      rw [List.cons_append, List.nil_append, pieces, if_neg hpair]
      exact congrArg (consFirst c) hrest
    | cons d t =>
      have hpair : ¬ (c = a ∧ d = b) := by
        rintro ⟨rfl, rfl⟩
        exact h ⟨[], t, rfl⟩
      rw [List.cons_append, List.cons_append, pieces, if_neg hpair]
      exact congrArg (consFirst c) hrest

/-- Cutting at a pair of different characters gives the one list of texts without the pair that is
joined to the text. -/
lemma pieces_eq_iff {a b : Char} (hab : a ≠ b) {t : Text} {ps : List Text} :
    t.pieces a b = ps ↔ ps ≠ [] ∧ (∀ p ∈ ps, ¬ [a, b] <:+: p) ∧ t = join [a, b] ps := by
  constructor
  · rintro rfl
    exact ⟨pieces_ne_nil a b t, fun p => not_infix_of_mem_pieces, (join_pieces a b t).symm⟩
  · rintro ⟨hne, hclear, rfl⟩
    induction ps with
    | nil => exact absurd rfl hne
    | cons p ps ih =>
      have hp := hclear p List.mem_cons_self
      cases ps with
      | nil =>
        rw [join, List.intercalate_singleton]
        exact pieces_of_not_infix hp
      | cons q ps =>
        rw [join, List.intercalate_cons_cons, List.append_assoc]
        refine (pieces_append_pair hab hp _).trans (congrArg (p :: ·) ?_)
        exact ih (List.cons_ne_nil q ps) fun p hp => hclear p (List.mem_cons_of_mem _ hp)

/-! ## Searching -/

lemma includes_iff (needle t : Text) : includes needle t = true ↔ needle <:+: t := by
  induction t with
  | nil => simp [includes]
  | cons c r ih =>
    rw [includes, Bool.or_eq_true, List.isPrefixOf_iff_prefix, ih, List.infix_cons_iff]

/-! ## The carriage return at the end -/

/-- A carriage return at the end is dropped; any other last character stays. -/
lemma dropCarriageReturn_concat (t : Text) (c : Char) :
    dropCarriageReturn (t ++ [c]) = if c = '\r' then t else t ++ [c] := by
  induction t with
  | nil => rfl
  | cons d t ih =>
    obtain ⟨e, rest, hrest⟩ : ∃ e rest, t ++ [c] = e :: rest := by
      cases t with
      | nil => exact ⟨c, [], rfl⟩
      | cons e t => exact ⟨e, t ++ [c], rfl⟩
    rw [List.cons_append, hrest, dropCarriageReturn, ← hrest, ih]
    split <;> rfl

/-- Only what stands behind another character is reached. -/
lemma dropCarriageReturn_append_cons {c : Char} (h : c ≠ '\r') (a b : Text) :
    dropCarriageReturn (a ++ c :: b) = a ++ c :: b.dropCarriageReturn := by
  rcases List.eq_nil_or_concat b with rfl | ⟨b, d, rfl⟩
  · exact (dropCarriageReturn_concat a c).trans (if_neg h)
  · have hlast : a ++ c :: (b ++ [d]) = (a ++ c :: b) ++ [d] := by simp
    rw [List.concat_eq_append, hlast, dropCarriageReturn_concat, dropCarriageReturn_concat]
    split
    · rfl
    · exact hlast.symm

lemma dropCarriageReturn_prefix (t : Text) : t.dropCarriageReturn <+: t := by
  rcases List.eq_nil_or_concat t with rfl | ⟨t, c, rfl⟩
  · exact List.prefix_rfl
  · rw [List.concat_eq_append, dropCarriageReturn_concat]
    split
    · exact List.prefix_append t [c]
    · exact List.prefix_rfl

lemma dropCarriageReturn_of_not_mem {t : Text} (h : '\r' ∉ t) : t.dropCarriageReturn = t := by
  rcases List.eq_nil_or_concat t with rfl | ⟨t, c, rfl⟩
  · rfl
  · rw [List.concat_eq_append] at h ⊢
    have hc : c ≠ '\r' := by
      rintro rfl
      simp at h
    rw [dropCarriageReturn_concat, if_neg hc]

end Text
end GradleLint
