import GradleLint.Proofs.Text.Trim
import GradleLint.Text.Integer
import Mathlib.Algebra.Group.Nat.Defs

/-!
# Numerals read and written

The decimal numeral of a natural number reads back as the number, unless it has too many digits
(`parse?_ofNat`).  In the other direction, what is read from a numeral of any script has a
decimal numeral that is not too long either (`length_ofNat_of_parse?`).
-/

namespace GradleLint

/-! ## Digits -/

lemma isDigit_iff (c : Char) : c.isDigit = true ↔ 48 ≤ c.toNat ∧ c.toNat ≤ 57 := by
  simp only [Char.isDigit, Bool.and_eq_true, decide_eq_true_eq]
  exact Iff.rfl

lemma digitValue?_of_isDigit {c : Char} (h : c.isDigit = true) :
    digitValue? c = some (c.toNat - '0'.toNat) := by
  rw [isDigit_iff] at h
  rw [digitValue?, if_pos (by omega), if_pos h]
  rfl

lemma digitValue?_lt {c : Char} {d : Nat} (h : digitValue? c = some d) : d < 10 := by
  unfold digitValue? at h
  split at h
  · rw [Option.ite_none_right_eq_some, Option.some.injEq] at h
    omega
  · rw [Option.map_eq_some_iff] at h
    obtain ⟨z, hz, rfl⟩ := h
    have hrange := List.find?_some hz
    simp only [Bool.and_eq_true, decide_eq_true_eq] at hrange
    omega

lemma isSpacing_of_isDigit {c : Char} (h : c.isDigit = true) : isSpacing c = false := by
  rw [isDigit_iff] at h
  simp only [isSpacing, Bool.or_eq_false_iff, Bool.and_eq_false_iff, decide_eq_false_iff_not,
    beq_eq_false_iff_ne]
  omega

namespace Numeral

lemma digits?_of_isDigit {t : Text} (hne : t ≠ []) (h : ∀ c ∈ t, c.isDigit = true) :
    digits? t = some (t.map fun c => c.toNat - '0'.toNat) := by
  induction t with
  | nil => exact absurd rfl hne
  | cons c r ih =>
    have hc := digitValue?_of_isDigit (h c List.mem_cons_self)
    cases r with
    | nil => simp [digits?, hc]
    | cons d r =>
      have hrest := ih (List.cons_ne_nil d r) fun e he => h e (List.mem_cons_of_mem c he)
      have hd : d ≠ '_' := by
        rintro rfl
        exact absurd (h '_' (by simp)) (by decide)
      rw [digits?, hc, hrest]
      simp [hd]

lemma digits?_lt {t : Text} {ds : List Nat} (h : digits? t = some ds) : ∀ d ∈ ds, d < 10 := by
  induction t using digits?.induct generalizing ds with
  | case1 => exact absurd h (by simp [digits?])
  | case2 c =>
    rw [digits?, Option.map_eq_some_iff] at h
    obtain ⟨v, hv, rfl⟩ := h
    intro d hd
    exact List.mem_singleton.mp hd ▸ digitValue?_lt hv
  | case3 c d r hc => exact absurd h (by simp [digits?, hc])
  | case4 c r v hv ih =>
    rw [digits?, hv] at h
    obtain ⟨rest, hrest, rfl⟩ := Option.map_eq_some_iff.mp (by simpa using h)
    intro d hd
    obtain rfl | hd := List.mem_cons.mp hd
    · exact digitValue?_lt hv
    · exact ih hrest d hd
  | case5 c d r v hv hd ih =>
    rw [digits?, hv] at h
    obtain ⟨rest, hrest, rfl⟩ := Option.map_eq_some_iff.mp (by simpa [hd] using h)
    intro e he
    obtain rfl | he := List.mem_cons.mp he
    · exact digitValue?_lt hv
    · exact ih hrest e he

lemma value_lt {ds : List Nat} (h : ∀ d ∈ ds, d < 10) : value ds < 10 ^ ds.length := by
  induction ds using List.reverseRecOn with
  | nil => exact Nat.one_pos
  | append_singleton ds d ih =>
    have hds := ih fun e he => h e (List.mem_append_left [d] he)
    have hd : d < 10 := h d (by simp)
    have hvalue : value (ds ++ [d]) = value ds * 10 + d := by simp [value]
    rw [hvalue, List.length_append, List.length_singleton, Nat.pow_succ]
    omega

/-! ## Numerals -/

lemma isDigit_of_mem_ofNat {n : Nat} {c : Char} (h : c ∈ Text.ofNat n) : c.isDigit = true :=
  Nat.isDigit_of_mem_toDigits (by decide) (by decide) h

lemma value_ofNat (n : Nat) :
    value ((Text.ofNat n).map fun c => c.toNat - '0'.toNat) = n := by
  have hfold := @Nat.ofDigitChars_toDigits 10 n (by decide) (by decide)
  rw [Nat.ofDigitChars_eq_foldl] at hfold
  simp only [Nat.mul_comm 10] at hfold
  rw [value, List.foldl_map]
  exact hfold

/-- A numeral that is not too long reads back. -/
lemma parse?_ofNat {n : Nat} (h : (Text.ofNat n).length ≤ digitLimit) :
    parse? (Text.ofNat n) = some (n : Int) := by
  have hdigit : ∀ c ∈ Text.ofNat n, c.isDigit = true := fun c => isDigit_of_mem_ofNat
  have htrim : (Text.ofNat n).trimBy isSpacing = Text.ofNat n :=
    Text.trimBy_of_ends
      (fun c hc => isSpacing_of_isDigit (hdigit c (List.mem_of_mem_head? hc)))
      (fun c hc => isSpacing_of_isDigit (hdigit c (List.mem_of_mem_getLast? hc)))
  have hsign : sign (Text.ofNat n) = (false, Text.ofNat n) := by
    cases hn : Text.ofNat n with
    | nil => rfl
    | cons c r =>
      have hc : c.isDigit = true := hdigit c (by simp [hn])
      have hminus : c ≠ '-' := by
        rintro rfl
        exact absurd hc (by decide)
      have hplus : c ≠ '+' := by
        rintro rfl
        exact absurd hc (by decide)
      rw [sign, if_neg hminus, if_neg hplus]
  have hdigits : digits? (Text.ofNat n) = some ((Text.ofNat n).map fun c => c.toNat - '0'.toNat) :=
    digits?_of_isDigit Nat.toDigits_ne_nil hdigit
  simp only [parse?, htrim, hsign, hdigits, List.length_map, if_pos h, value_ofNat,
    Bool.false_eq_true, if_false]

/-- What is read from a numeral can be written with digits that are not too many. -/
lemma length_ofNat_of_parse? {t : Text} {n : Int} (h : parse? t = some n) :
    (Text.ofNat n.natAbs).length ≤ digitLimit := by
  simp only [parse?] at h
  cases hds : digits? (sign (t.trimBy isSpacing)).2 with
  | none => simp [hds] at h
  | some ds =>
    simp only [hds, Option.ite_none_right_eq_some, Option.some.injEq] at h
    obtain ⟨hlength, hn⟩ := h
    have habs : n.natAbs = value ds := by
      rw [← hn]
      split <;> simp
    have hvalue : value ds < 10 ^ digitLimit :=
      Nat.lt_of_lt_of_le (value_lt (digits?_lt hds)) (Nat.pow_le_pow_right (by decide) hlength)
    rw [habs]
    exact (Nat.length_toDigits_le_iff (by decide) (by decide)).mpr hvalue

end Numeral
end GradleLint
