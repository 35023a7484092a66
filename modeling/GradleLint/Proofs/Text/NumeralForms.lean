import GradleLint.Proofs.Text.Fields
import GradleLint.Proofs.Text.Numeral
import Mathlib.Data.Nat.Digits.Defs

/-!
# Numerals in writing

An integer in writing is a sign, which may be absent, and groups of digits of any script with one
underscore between neighbours; spacing may stand around it, but not inside.  These are the texts
that are read, as long as they have no more digits than are converted, and each is read as the
integer that its digits make in base ten (`Numeral.parse?_eq_some_iff`).
-/

namespace GradleLint

/-- No digit of any script is spacing. -/
lemma not_isSpacing_of_digitValue? {c : Char} (h : (digitValue? c).isSome) :
    isSpacing c = false := by
  have hbase : ∀ z ∈ digitZeros, ∀ k < 10, isSpacing (Char.ofNat (z + k)) = false := by
    decide +kernel
  unfold digitValue? at h
  split at h
  · rename_i hascii
    split at h
    · rename_i hdigit
      exact isSpacing_of_isDigit ((isDigit_iff c).mpr hdigit)
    · cases h
  · rw [Option.isSome_map, List.find?_isSome] at h
    obtain ⟨z, hz, hrange⟩ := h
    simp only [Bool.and_eq_true, decide_eq_true_eq] at hrange
    have hc := hbase z hz (c.toNat - z) (by omega)
    rwa [Nat.add_sub_cancel' hrange.1, Char.ofNat_toNat] at hc

namespace Numeral

/-! ## How an integer is written -/

/-- Digits of any scripts, at least one. -/
def IsDigits (t : Text) : Prop := t ≠ [] ∧ ∀ c ∈ t, (digitValue? c).isSome

/-- The sign of an integer, as it is written. -/
inductive Sign where
  | absent
  | plus
  | minus

namespace Sign

def toText : Sign → Text
  | absent => []
  | plus => ['+']
  | minus => ['-']

/-- The integer with this sign in front of a natural number. -/
def apply : Sign → Nat → Int
  | minus, n => -n
  | _, n => n

end Sign

/-- An integer in writing: a sign and groups of digits with an underscore between neighbours, with
spacing around it. -/
structure Writing where
  before : Text
  sign : Sign
  groups : List Text
  behind : Text
  before_spacing : ∀ c ∈ before, isSpacing c = true
  behind_spacing : ∀ c ∈ behind, isSpacing c = true
  groups_ne_nil : groups ≠ []
  groups_digits : ∀ g ∈ groups, IsDigits g

namespace Writing

variable (w : Writing)

/-- The sign and the groups. -/
def body : Text := w.sign.toText ++ Text.join ['_'] w.groups

def toText : Text := w.before ++ w.body ++ w.behind

/-- The values of the digits, highest first. -/
def digits : List Nat := w.groups.flatten.filterMap digitValue?

/-- The integer that is written. -/
def toInt : Int := w.sign.apply (Nat.ofDigits 10 w.digits.reverse)

end Writing

/-- The text is an integer in writing, with no more digits than are converted. -/
def StandsFor (t : Text) (n : Int) : Prop :=
  ∃ w : Writing, w.toText = t ∧ w.digits.length ≤ digitLimit ∧ w.toInt = n

/-! ## Digits and underscores -/

lemma value_eq_ofDigits (ds : List Nat) : value ds = Nat.ofDigits 10 ds.reverse := by
  induction ds using List.reverseRecOn with
  | nil => rfl
  | append_singleton ds d ih =>
    have hvalue : value (ds ++ [d]) = value ds * 10 + d := by simp [value]
    rw [hvalue, ih, List.reverse_append, List.reverse_singleton, List.singleton_append,
      Nat.ofDigits_cons]
    omega

lemma digits?_of_isDigits {g : Text} (h : IsDigits g) :
    digits? g = some (g.filterMap digitValue?) := by
  obtain ⟨hne, hg⟩ := h
  induction g with
  | nil => exact absurd rfl hne
  | cons c r ih =>
    obtain ⟨v, hv⟩ := Option.isSome_iff_exists.mp (hg c List.mem_cons_self)
    cases r with
    | nil => simp [digits?, hv]
    | cons d r =>
      have hd : d ≠ '_' := by
        rintro rfl
        exact absurd (hg '_' (by simp)) (by decide)
      have hrest := ih (List.cons_ne_nil d r) fun e he => hg e (List.mem_cons_of_mem c he)
      rw [digits?, hv, hrest, List.filterMap_cons_some hv]
      simp [hd]

/-- An underscore behind a group ends it. -/
lemma digits?_append_underscore {g : Text} (h : IsDigits g) (t : Text) :
    digits? (g ++ '_' :: t) = (digits? t).map (g.filterMap digitValue? ++ ·) := by
  obtain ⟨hne, hg⟩ := h
  induction g with
  | nil => exact absurd rfl hne
  | cons c r ih =>
    obtain ⟨v, hv⟩ := Option.isSome_iff_exists.mp (hg c List.mem_cons_self)
    rw [List.filterMap_cons_some hv]
    cases r with
    | nil => simp [digits?, hv]
    | cons d r =>
      have hd : d ≠ '_' := by
        rintro rfl
        exact absurd (hg '_' (by simp)) (by decide)
      have hrest := ih (List.cons_ne_nil d r) fun e he => hg e (List.mem_cons_of_mem c he)
      rw [List.cons_append, List.cons_append, digits?, hv, ← List.cons_append, hrest]
      simp [hd, Function.comp_def]

lemma digits?_join {groups : List Text} (hne : groups ≠ []) (h : ∀ g ∈ groups, IsDigits g) :
    digits? (Text.join ['_'] groups) = some (groups.flatten.filterMap digitValue?) := by
  induction groups with
  | nil => exact absurd rfl hne
  | cons g groups ih =>
    have hg := h g List.mem_cons_self
    cases groups with
    | nil => simpa [Text.join] using digits?_of_isDigits hg
    | cons g' groups =>
      have hrest := ih (List.cons_ne_nil g' groups) fun g hg => h g (List.mem_cons_of_mem _ hg)
      rw [Text.join, List.intercalate_cons_cons, List.append_assoc, List.singleton_append,
        digits?_append_underscore hg]
      show (digits? (Text.join ['_'] (g' :: groups))).map _ = _
      rw [hrest, Option.map_some, ← List.filterMap_append]
      rfl

/-- What is read as digits is groups with underscores between them. -/
lemma exists_groups {t : Text} {ds : List Nat} (h : digits? t = some ds) :
    ∃ groups : List Text, groups ≠ [] ∧ (∀ g ∈ groups, IsDigits g) ∧
      t = Text.join ['_'] groups := by
  induction t using digits?.induct generalizing ds with
  | case1 => exact absurd h (by simp [digits?])
  | case2 c =>
    rw [digits?, Option.map_eq_some_iff] at h
    obtain ⟨v, hv, -⟩ := h
    exact ⟨[[c]], by simp, by simp [IsDigits, hv], rfl⟩
  | case3 c d r hc => exact absurd h (by simp [digits?, hc])
  | case4 c r v hv ih =>
    rw [digits?, hv] at h
    obtain ⟨rest, hrest, -⟩ := Option.map_eq_some_iff.mp (by simpa using h)
    obtain ⟨groups, hne, hgroups, rfl⟩ := ih hrest
    obtain ⟨g, groups, rfl⟩ := List.exists_cons_of_ne_nil hne
    refine ⟨[c] :: g :: groups, by simp, ?_, rfl⟩
    rintro g' (_ | ⟨_, hg'⟩)
    · simp [IsDigits, hv]
    · exact hgroups g' hg'
  | case5 c d r v hv hd ih =>
    rw [digits?, hv] at h
    obtain ⟨rest, hrest, -⟩ := Option.map_eq_some_iff.mp (by simpa [hd] using h)
    obtain ⟨groups, hne, hgroups, hjoin⟩ := ih hrest
    obtain ⟨g, groups, rfl⟩ := List.exists_cons_of_ne_nil hne
    refine ⟨(c :: g) :: groups, by simp, ?_, ?_⟩
    · rintro g' (_ | ⟨_, hg'⟩)
      · refine ⟨List.cons_ne_nil c g, ?_⟩
        rintro e (_ | ⟨_, he⟩)
        · simp [hv]
        · exact (hgroups g List.mem_cons_self).2 e he
      · exact hgroups g' (List.mem_cons_of_mem g hg')
    · rw [hjoin]
      cases groups <;> rfl

/-! ## What is read from a numeral -/

namespace Writing

variable (w : Writing)

/-- No character of the sign or the groups is spacing. -/
lemma not_isSpacing_of_mem_body {c : Char} (h : c ∈ w.body) : isSpacing c = false := by
  obtain h | h := List.mem_append.mp h
  · cases hs : w.sign <;> rw [hs] at h
    · exact absurd h List.not_mem_nil
    · rw [List.mem_singleton.mp h]
      decide
    · rw [List.mem_singleton.mp h]
      decide
  · obtain h | ⟨g, hg, h⟩ := Text.mem_join h
    · rw [List.mem_singleton.mp h]
      decide
    · exact not_isSpacing_of_digitValue? ((w.groups_digits g hg).2 c h)

lemma trimBy_toText : w.toText.trimBy isSpacing = w.body :=
  Text.isTrimOf_iff.mp
    { cut := ⟨w.before, w.behind, w.before_spacing, w.behind_spacing, rfl⟩
      first := fun _ h => w.not_isSpacing_of_mem_body (List.mem_of_mem_head? h)
      last := fun _ h => w.not_isSpacing_of_mem_body (List.mem_of_mem_getLast? h) }

/-- The groups start with a digit, so a sign is taken off and nothing else is. -/
lemma sign_body :
    Numeral.sign w.body = (match w.sign with | .minus => true | _ => false,
      Text.join ['_'] w.groups) := by
  obtain ⟨g, groups, hgroups⟩ := List.exists_cons_of_ne_nil w.groups_ne_nil
  obtain ⟨hne, hdigits⟩ := w.groups_digits g (hgroups ▸ List.mem_cons_self)
  obtain ⟨c, r, rfl⟩ := List.exists_cons_of_ne_nil hne
  obtain ⟨rest, hjoin⟩ : ∃ rest, Text.join ['_'] w.groups = c :: rest := by
    rw [hgroups]
    cases groups <;> exact ⟨_, rfl⟩
  have hc := hdigits c List.mem_cons_self
  have hminus : c ≠ '-' := by
    rintro rfl
    exact absurd hc (by decide)
  have hplus : c ≠ '+' := by
    rintro rfl
    exact absurd hc (by decide)
  rw [body, hjoin]
  cases w.sign <;> simp [Sign.toText, Numeral.sign, hminus, hplus]

lemma parse?_toText :
    parse? w.toText = if w.digits.length ≤ digitLimit then some w.toInt else none := by
  simp only [parse?, trimBy_toText, sign_body, digits?_join w.groups_ne_nil w.groups_digits]
  show (if w.digits.length ≤ digitLimit then _ else _) = _
  rw [toInt, ← value_eq_ofDigits]
  cases w.sign <;> rfl

end Writing

/-- A sign is what is in front of the rest. -/
lemma exists_sign (t : Text) : ∃ s : Sign, t = s.toText ++ (sign t).2 := by
  cases t with
  | nil => exact ⟨.absent, rfl⟩
  | cons c r =>
    by_cases hminus : c = '-'
    · exact ⟨.minus, by simp [sign, Sign.toText, hminus]⟩
    · by_cases hplus : c = '+'
      · exact ⟨.plus, by simp [sign, Sign.toText, hplus]⟩
      · exact ⟨.absent, by simp [sign, Sign.toText, hminus, hplus]⟩

/-- What is read is in writing. -/
lemma exists_writing {t : Text} {n : Int} (h : parse? t = some n) :
    ∃ w : Writing, w.toText = t := by
  simp only [parse?] at h
  cases hds : digits? (sign (t.trimBy isSpacing)).2 with
  | none => simp [hds] at h
  | some ds =>
    obtain ⟨groups, hne, hgroups, hjoin⟩ := exists_groups hds
    obtain ⟨s, hs⟩ := exists_sign (t.trimBy isSpacing)
    obtain ⟨⟨before, behind, hbefore, hbehind, ht⟩, -, -⟩ := Text.isTrimOf_iff.mpr
      (rfl : t.trimBy isSpacing = t.trimBy isSpacing)
    refine ⟨⟨before, s, groups, behind, hbefore, hbehind, hne, hgroups⟩, ?_⟩
    show before ++ (s.toText ++ Text.join ['_'] groups) ++ behind = t
    rw [← hjoin, ← hs, ← ht]

/-- An integer is read from exactly the texts that stand for it. -/
theorem parse?_eq_some_iff (t : Text) (n : Int) : parse? t = some n ↔ StandsFor t n := by
  constructor
  · intro h
    obtain ⟨w, rfl⟩ := exists_writing h
    rw [w.parse?_toText, Option.ite_none_right_eq_some, Option.some.injEq] at h
    exact ⟨w, rfl, h⟩
  · rintro ⟨w, rfl, hlimit, rfl⟩
    rw [w.parse?_toText, if_pos hlimit]

end Numeral
end GradleLint
