import GradleLint.Position
import GradleLint.Proofs.Text.Fields

/-!
# Offsets lie inside the text

Skipping lines leaves an end of the text (`skipLines_eq_some`), and the first line of it is no
longer than it; hence every offset, and every span, lies inside the text.
-/

namespace GradleLint

lemma Text.length_dropCarriageReturn_le (t : Text) : t.dropCarriageReturn.length ≤ t.length :=
  t.dropCarriageReturn_prefix.length_le

lemma length_firstLine_le (t : Text) : (firstLine t).length ≤ t.length := by
  have htake : (t.takeWhile (· != '\n')).length ≤ t.length :=
    (List.takeWhile_sublist _).length_le
  have hdrop := Text.length_dropCarriageReturn_le (t.takeWhile (· != '\n'))
  unfold firstLine
  omega

/-- What skipping lines leaves is an end of the text. -/
lemma skipLines_eq_some {n k : Nat} {t rest : Text} (h : skipLines n t = some (k, rest)) :
    ∃ skipped, t = skipped ++ rest ∧ skipped.length = k := by
  induction n, t using skipLines.induct generalizing k with
  | case1 t =>
    obtain ⟨rfl, rfl⟩ : 0 = k ∧ t = rest := by simpa [skipLines] using h
    exact ⟨[], rfl, rfl⟩
  | case2 n => exact absurd h (by simp [skipLines])
  | case3 n c r ih ih' =>
    rw [skipLines, Option.map_eq_some_iff] at h
    obtain ⟨⟨j, rest'⟩, hskip, heq⟩ := h
    obtain ⟨rfl, rfl⟩ : j + 1 = k ∧ rest' = rest := by simpa using heq
    have hsplit : ∃ skipped, r = skipped ++ rest' ∧ skipped.length = j := by
      split at hskip
      · exact ih hskip
      · exact ih' hskip
    obtain ⟨skipped, rfl, rfl⟩ := hsplit
    exact ⟨c :: skipped, rfl, rfl⟩

lemma offsetAt_le_length (t : Text) (line column : Int) : offsetAt t line column ≤ t.length := by
  unfold offsetAt
  cases hskip : skipLines (line.toNat - 1) t with
  | none => exact Nat.le_refl _
  | some found =>
    obtain ⟨start, rest⟩ := found
    obtain ⟨skipped, rfl, rfl⟩ := skipLines_eq_some hskip
    have hline := length_firstLine_le rest
    rw [List.length_append]
    show skipped.length + min column.toNat (firstLine rest).length ≤ _
    omega

/-- Every span lies inside the text. -/
lemma spanAt_within (t : Text) (line column : Int) :
    (spanAt t line column).start ≤ (spanAt t line column).stop ∧
      (spanAt t line column).stop ≤ t.length :=
  ⟨Nat.sub_le _ 1, offsetAt_le_length t line column⟩

end GradleLint
