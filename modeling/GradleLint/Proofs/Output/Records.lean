import GradleLint.Build.Classify
import GradleLint.Proofs.Model.Codec

/-!
# Records of build output are well placed

Every record read from a line counts lines and columns from one, whatever the line, so every
outcome of a process can be put down as data and read back.
-/

namespace GradleLint

lemma Record.positive_of_checked {severity : Severity} {line column : Int} {message : Text}
    {r : Record} (h : Record.checked severity line column message = .ok r) : r.Positive := by
  unfold checked at h
  split at h
  · rename_i hle
    obtain rfl := Except.ok.inj h
    exact hle
  · exact absurd h (by simp)

lemma positive_of_readKotlin {t : Text} {r : Record} (h : readKotlin t = .ok r) : r.Positive := by
  unfold readKotlin at h
  split at h
  · split at h
    · exact absurd h (by simp)
    · exact Record.positive_of_checked h
  · exact absurd h (by simp)

lemma positive_of_readJava {t : Text} {r : Record} (h : readJava t = .ok r) : r.Positive := by
  unfold readJava at h
  split at h
  · split at h
    · exact absurd h (by simp)
    · split at h
      · exact absurd h (by simp)
      · exact Record.positive_of_checked h
  · exact absurd h (by simp)

lemma Grammar.positive_of_recordOf? {g : Grammar} {name line : Text} {r : Record}
    (h : g.recordOf? name line = some r) : r.Positive := by
  simp only [recordOf?] at h
  split at h
  · cases hread : g.readLine line.dropCarriageReturn with
    | error e => simp [hread, Except.toOption] at h
    | ok r' =>
      obtain rfl : r' = r := by simpa [hread, Except.toOption] using h
      cases g with
      | kotlin => exact positive_of_readKotlin hread
      | java => exact positive_of_readJava hread
  · exact absurd h (by simp)

lemma positive_of_mem_recordsFor {path : Path} {g : Option Grammar} {output : Text} {r : Record}
    (h : r ∈ recordsFor path g output) : r.Positive := by
  unfold recordsFor at h
  split at h
  · exact absurd h (by simp)
  · obtain ⟨line, -, hline⟩ := List.mem_filterMap.mp h
    exact Grammar.positive_of_recordOf? hline

/-- Every outcome of a process has well-placed records only. -/
lemma positive_classify (e : Exit) (output : Text) (path : Path) (g : Option Grammar)
    (current : Bool) : (classify e output path g current).Positive := by
  unfold classify
  split
  · trivial
  · split
    · trivial
    · split
      · exact fun r hr => positive_of_mem_recordsFor hr
      · trivial

end GradleLint
