import GradleLint.Text.Utf8
import Mathlib

/-!
# Decoding what was encoded

The strict decoder gives a text exactly for the octets that the text is encoded to
(`Utf8.decode?_eq_some_iff`): what it refuses encodes no text, and no other octets pass for a text.

The machine is followed one character at a time (`Utf8.scan_eq_cons_iff`).  The first two octets of
a longer character decide everything: the leading octet and the range it leaves for the next one let
through exactly the codes that need this many octets and are no surrogates (`Utf8.front_of_opens`,
`Utf8.exists_opens`).  Each octet behind them has its six bits free.
-/

namespace GradleLint
namespace Utf8

/-! ## One step of the machine -/

/-- The bits read so far once a pending character has taken the octet `x`. -/
def Pending.next (p : Pending) (x : Nat) : Nat := p.bits * 64 + (x - 0x80)

/-- Reads on in a character that is owed `more` octets, whose range is free. -/
def goOn (more bits : Nat) (r : Bytes) : List (Option Char) :=
  match more with
  | 0 => some (Char.ofNat bits) :: scan none r
  | more + 1 => scan (some ⟨more, 0x80, 0xBF, bits⟩) r

lemma scan_none_cons (b : UInt8) (r : Bytes) : scan none (b :: r) = scan.start b r := by rw [scan]

lemma scan_some_cons {p : Pending} {x : UInt8} (h : p.low ≤ x.toNat ∧ x.toNat ≤ p.high)
    (r : Bytes) : scan (some p) (x :: r) = goOn p.more (p.next x.toNat) r := by
  rw [scan, if_pos h]
  rfl

/-- A character that is begun leaves something behind, be it a fault. -/
lemma scan_some_ne_nil (p : Pending) (bs : Bytes) : scan (some p) bs ≠ [] := by
  induction bs generalizing p with
  | nil => simp [scan]
  | cons x r ih =>
    by_cases hrange : p.low ≤ x.toNat ∧ x.toNat ≤ p.high
    · rw [scan_some_cons hrange]
      unfold goOn
      split
      · exact List.cons_ne_nil _ _
      · exact ih _
    · rw [scan, if_neg hrange]
      exact List.cons_ne_nil _ _

lemma scan_none_eq_nil_iff {bs : Bytes} : scan none bs = [] ↔ bs = [] := by
  cases bs with
  | nil => simp [scan]
  | cons b r =>
    rw [scan_none_cons, scan.start]
    cases lead b.toNat with
    | single c => simp
    | opens p => simp [scan_some_ne_nil]
    | stray => simp

/-- A pending character that is completed takes an octet of its range. -/
lemma exists_of_scan_some {p : Pending} {bs : Bytes} {c : Char} {out : List (Option Char)}
    (h : scan (some p) bs = some c :: out) :
    ∃ x r, bs = x :: r ∧ (p.low ≤ x.toNat ∧ x.toNat ≤ p.high) ∧
      goOn p.more (p.next x.toNat) r = some c :: out := by
  cases bs with
  | nil => simp [scan] at h
  | cons x r =>
    by_cases hrange : p.low ≤ x.toNat ∧ x.toNat ≤ p.high
    · exact ⟨x, r, rfl, hrange, by rw [← h, scan_some_cons hrange]⟩
    · rw [scan, if_neg hrange] at h
      simp at h

/-! ## The octets whose range is free -/

/-- The last `more` octets of the character with the code `n`. -/
def tail : Nat → Nat → Bytes
  | 0, _ => []
  | more + 1, n => UInt8.ofNat (0x80 + n / 64 ^ more % 64) :: tail more n

lemma toNat_octet (n : Nat) : (UInt8.ofNat (0x80 + n % 64)).toNat = 0x80 + n % 64 := by
  rw [UInt8.toNat_ofNat']
  omega

/-- An octet of the free range is made of six bits. -/
lemma octet_eq {x : UInt8} (h : 0x80 ≤ x.toNat ∧ x.toNat ≤ 0xBF) :
    UInt8.ofNat (0x80 + (x.toNat - 0x80) % 64) = x := by
  have hx : 0x80 + (x.toNat - 0x80) % 64 = x.toNat := by omega
  rw [hx, UInt8.ofNat_toNat]

lemma goOn_tail (more n : Nat) (r : Bytes) :
    goOn more (n / 64 ^ more) (tail more n ++ r) = some (Char.ofNat n) :: scan none r := by
  induction more with
  | zero => simp [goOn, tail]
  | succ more ih =>
    have hnext : n / 64 ^ (more + 1) * 64 + n / 64 ^ more % 64 = n / 64 ^ more := by
      rw [Nat.pow_succ, ← Nat.div_div_eq_div_mul]
      omega
    have hx := toNat_octet (n / 64 ^ more)
    rw [goOn, tail, List.cons_append, scan_some_cons (by dsimp only; omega), ← ih]
    dsimp only [Pending.next]
    rw [hx, Nat.add_sub_cancel_left, hnext]

/-- A character that is completed is that of a code with the bits read so far, and its octets are
those of the code. -/
lemma exists_of_goOn {more bits : Nat} {bs : Bytes} {c : Char} {out : List (Option Char)}
    (h : goOn more bits bs = some c :: out) :
    ∃ n r, n / 64 ^ more = bits ∧ bs = tail more n ++ r ∧ c = Char.ofNat n ∧
      out = scan none r := by
  induction more generalizing bits bs with
  | zero =>
    obtain ⟨hc, hout⟩ := List.cons.inj h
    exact ⟨bits, bs, by simp, rfl, (Option.some.inj hc).symm, hout.symm⟩
  | succ more ih =>
    obtain ⟨x, r, rfl, hx, h⟩ := exists_of_scan_some h
    obtain ⟨n, r, hn, rfl, hc, hout⟩ := ih h
    dsimp only [Pending.next] at hx hn
    refine ⟨n, r, ?_, ?_, hc, hout⟩
    · rw [Nat.pow_succ, ← Nat.div_div_eq_div_mul, hn]
      omega
    · have hbits : n / 64 ^ more % 64 = (x.toNat - 0x80) % 64 := by omega
      rw [tail, hbits, octet_eq hx, List.cons_append]

/-! ## The first two octets -/

/-- What the leading octet adds to the bits of a character with `more` octets behind the second. -/
def leadBase : Nat → Nat
  | 0 => 0xC0
  | 1 => 0xE0
  | _ => 0xF0

/-- The bits in the first two octets of the characters with `more` octets behind them.  Codes that
take fewer octets are left out, and so are surrogates and codes that are too great. -/
def IsFront : Nat → Nat → Prop
  | 0, front => 0x80 ≤ front ∧ front < 0x800
  | 1, front => 0x20 ≤ front ∧ front < 0x400 ∧ (front < 0x360 ∨ 0x380 ≤ front)
  | 2, front => 0x10 ≤ front ∧ front < 0x110
  | _, _ => False

/-- Only the first two octets of a character are let through. -/
lemma front_of_opens {b x : Nat} {p : Pending} (h : lead b = .opens p)
    (hx : p.low ≤ x ∧ x ≤ p.high) :
    IsFront p.more (p.next x) ∧ b = leadBase p.more + p.next x / 64 ∧
      x = 0x80 + p.next x % 64 := by
  unfold lead at h
  repeat' split at h
  all_goals cases h
  all_goals
    dsimp only [Pending.next] at hx ⊢
    simp only [IsFront, leadBase]
    omega

/-- The first two octets of every character are let through. -/
lemma exists_opens {more front : Nat} (h : IsFront more front) :
    ∃ p, lead (leadBase more + front / 64) = .opens p ∧
      (p.low ≤ 0x80 + front % 64 ∧ 0x80 + front % 64 ≤ p.high) ∧
      p.more = more ∧ p.next (0x80 + front % 64) = front := by
  -- The branches of `lead` that no such octet takes are impossible, and the others give the range.
  unfold lead Pending.next
  match more, h with
  | 0, h | 1, h | 2, h =>
    simp only [IsFront, leadBase] at h ⊢
    repeat' split
    all_goals first
      | exfalso
        omega
      | refine ⟨_, rfl, ?_, rfl, ?_⟩
        all_goals
          dsimp only
          omega

lemma leadBase_add_lt {more front : Nat} (h : IsFront more front) :
    leadBase more + front / 64 < 256 := by
  match more, h with
  | 0, h | 1, h | 2, h =>
    simp only [IsFront, leadBase] at h ⊢
    omega

/-! ## Whole characters -/

lemma encodeChar_of_lt {c : Char} (h : c.toNat < 0x80) : encodeChar c = [UInt8.ofNat c.toNat] := by
  unfold encodeChar
  exact if_pos h

/-- The octets of a code whose leading bits are those of a longer character. -/
lemma encodeChar_of_front {more : Nat} {c : Char} (h : IsFront more (c.toNat / 64 ^ more)) :
    encodeChar c = UInt8.ofNat (leadBase more + c.toNat / 64 ^ more / 64) ::
      UInt8.ofNat (0x80 + c.toNat / 64 ^ more % 64) :: tail more c.toNat := by
  match more, h with
  | 0, h =>
    simp only [IsFront, pow_zero, Nat.div_one] at h
    simp only [encodeChar, tail, leadBase, pow_zero, Nat.div_one]
    rw [if_neg (by omega), if_pos (by omega)]
  | 1, h =>
    simp only [IsFront, pow_one] at h
    simp only [encodeChar, tail, leadBase, pow_zero, pow_one, Nat.div_one, Nat.div_div_eq_div_mul]
    rw [if_neg (by omega), if_neg (by omega), if_pos (by omega)]
  | 2, h =>
    simp only [IsFront, Nat.reducePow] at h
    simp only [encodeChar, tail, leadBase, pow_zero, pow_one, Nat.reducePow, Nat.div_one,
      Nat.div_div_eq_div_mul]
    rw [if_neg (by omega), if_neg (by omega), if_neg (by omega)]

/-- Leading bits belong to codes of characters only. -/
lemma isValidChar_of_front {more n : Nat} (h : IsFront more (n / 64 ^ more)) : n.isValidChar := by
  match more, h with
  | 0, h | 1, h | 2, h =>
    simp only [IsFront] at h
    unfold Nat.isValidChar
    omega

/-- Every character behind the first 128 has leading bits. -/
lemma exists_front {c : Char} (h : 0x80 ≤ c.toNat) :
    ∃ more, IsFront more (c.toNat / 64 ^ more) := by
  have hvalid : c.toNat.isValidChar := c.valid
  by_cases htwo : c.toNat < 0x800
  · exact ⟨0, by simp only [IsFront]; omega⟩
  · by_cases hthree : c.toNat < 0x10000
    · exact ⟨1, by simp only [IsFront]; omega⟩
    · exact ⟨2, by simp only [IsFront]; omega⟩

lemma lead_of_le {b : Nat} (h : b ≤ 0x7F) : lead b = .single (Char.ofNat b) := by
  unfold lead
  exact if_pos h

lemma lead_eq_single {b : Nat} {c : Char} (h : lead b = .single c) :
    b ≤ 0x7F ∧ c = Char.ofNat b := by
  unfold lead at h
  split_ifs at h with hb
  exact ⟨hb, (Lead.single.inj h).symm⟩

/-- The octets of a character are read as that character. -/
lemma scan_encodeChar (c : Char) (r : Bytes) :
    scan none (encodeChar c ++ r) = some c :: scan none r := by
  by_cases hc : c.toNat < 0x80
  · have hoctet : (UInt8.ofNat c.toNat).toNat = c.toNat := by
      rw [UInt8.toNat_ofNat']
      omega
    rw [encodeChar_of_lt hc, List.singleton_append, scan_none_cons, scan.start, hoctet,
      lead_of_le (by omega), Char.ofNat_toNat]
  · obtain ⟨more, hfront⟩ := exists_front (Nat.le_of_not_lt hc)
    obtain ⟨p, hlead, hrange, hmore, hnext⟩ := exists_opens hfront
    have hoctet : (UInt8.ofNat (leadBase more + c.toNat / 64 ^ more / 64)).toNat =
        leadBase more + c.toNat / 64 ^ more / 64 :=
      UInt8.toNat_ofNat_of_lt' (leadBase_add_lt hfront)
    rw [encodeChar_of_front hfront, List.cons_append, List.cons_append, scan_none_cons, scan.start,
      hoctet, hlead]
    dsimp only
    rw [scan_some_cons (by rwa [toNat_octet]), toNat_octet, hmore, hnext, goOn_tail,
      Char.ofNat_toNat]

/-- The first character of some octets is the one whose octets they begin with. -/
lemma scan_eq_cons_iff {bs : Bytes} {c : Char} {out : List (Option Char)} :
    scan none bs = some c :: out ↔ ∃ r, bs = encodeChar c ++ r ∧ out = scan none r := by
  refine ⟨fun h => ?_, fun ⟨r, hbs, hout⟩ => by rw [hbs, hout, scan_encodeChar]⟩
  cases bs with
  | nil => simp [scan] at h
  | cons b r =>
    rw [scan_none_cons, scan.start] at h
    cases hlead : lead b.toNat with
    | stray => simp [hlead] at h
    | single d =>
      obtain ⟨hb, rfl⟩ := lead_eq_single hlead
      simp only [hlead] at h
      obtain ⟨hc, hout⟩ := List.cons.inj h
      obtain rfl := Option.some.inj hc
      have hcode : (Char.ofNat b.toNat).toNat = b.toNat := by
        rw [Char.toNat_ofNat, if_pos (by unfold Nat.isValidChar; omega)]
      refine ⟨r, ?_, hout.symm⟩
      rw [encodeChar_of_lt (by omega), hcode, UInt8.ofNat_toNat, List.singleton_append]
    | opens p =>
      simp only [hlead] at h
      obtain ⟨x, r, rfl, hx, h⟩ := exists_of_scan_some h
      obtain ⟨hfront, hb, hx⟩ := front_of_opens hlead hx
      obtain ⟨n, r, hn, rfl, rfl, hout⟩ := exists_of_goOn h
      rw [← hn] at hfront hb hx
      have hcode : (Char.ofNat n).toNat = n := by
        rw [Char.toNat_ofNat, if_pos (isValidChar_of_front hfront)]
      refine ⟨r, ?_, hout⟩
      rw [encodeChar_of_front (by rwa [hcode]), hcode, ← hb, ← hx, UInt8.ofNat_toNat,
        UInt8.ofNat_toNat]
      rfl

/-! ## Texts -/

lemma scan_eq_map_some_iff {bs : Bytes} {t : Text} :
    scan none bs = t.map some ↔ bs = encode t := by
  induction t generalizing bs with
  | nil => exact scan_none_eq_nil_iff
  | cons c t ih =>
    rw [List.map_cons, scan_eq_cons_iff]
    constructor
    · rintro ⟨r, rfl, hout⟩
      rw [ih.mp hout.symm]
      rfl
    · intro h
      exact ⟨encode t, h, (ih.mpr rfl).symm⟩

lemma mapM_id_eq_some_iff {os : List (Option Char)} {t : Text} :
    os.mapM id = some t ↔ os = t.map some := by
  induction os generalizing t with
  | nil => cases t <;> simp
  | cons o os ih =>
    cases o with
    | none => cases t <;> simp [List.mapM_cons]
    | some c => cases t <;> simp [List.mapM_cons, Option.bind_eq_some_iff, ih, and_comm]

/-- The octets from which a text is decoded without a fault are those that the text is encoded
to. -/
theorem decode?_eq_some_iff {bs : Bytes} {t : Text} : decode? bs = some t ↔ bs = encode t := by
  rw [← scan_eq_map_some_iff, decode?, mapM_id_eq_some_iff]

end Utf8
end GradleLint
