import GradleLint.Output.Line
import GradleLint.Proofs.Text.Fields
import GradleLint.Proofs.Text.Numeral

/-!
# Lines of the Kotlin compiler

`readKotlin_eq_ok_iff` says which lines are read, and as what: the third field must be a location
and its numbers must be positive; the first field is the marker, and the message is all that
stands behind the third colon.  A line that was written is read as what was written
(`readKotlin_writeKotlin`), and what was read has numbers that can be written
(`length_ofNat_of_readLocation`).
-/

namespace GradleLint

/-! ## Locations -/

lemma readLocation_eq_some_iff (t : Text) (line column : Int) :
    readLocation t = some (line, column) ↔
      ∃ row col, (t.trimBy isLocationBracket).pieces ',' ' ' = [row, col] ∧
        Numeral.parse? row = some line ∧ Numeral.parse? col = some column := by
  unfold readLocation
  generalize (t.trimBy isLocationBracket).pieces ',' ' ' = parts
  rcases parts with _ | ⟨row, _ | ⟨col, _ | ⟨more, rest⟩⟩⟩
  · simp
  · simp
  · cases hrow : Numeral.parse? row with
    | none => simp [hrow]
    | some n => cases hcol : Numeral.parse? col <;> simp [hrow, hcol]
  · simp

/-- The numbers of a location can be written with digits that are not too many. -/
lemma length_ofNat_of_readLocation {t : Text} {line column : Int}
    (h : readLocation t = some (line, column)) :
    (Text.ofNat line.natAbs).length ≤ Numeral.digitLimit ∧
      (Text.ofNat column.natAbs).length ≤ Numeral.digitLimit := by
  obtain ⟨row, col, -, hrow, hcol⟩ := (readLocation_eq_some_iff t line column).mp h
  exact ⟨Numeral.length_ofNat_of_parse? hrow, Numeral.length_ofNat_of_parse? hcol⟩

/-- A location as it is written. -/
def writeLocation (row column : Nat) : Text :=
  " (" ++ (Text.ofNat row ++ ", " ++ Text.ofNat column) ++ ")"

lemma isLocationBracket_of_isDigit {c : Char} (h : c.isDigit = true) :
    isLocationBracket c = false := by
  simp only [isLocationBracket, Bool.or_eq_false_iff, beq_eq_false_iff_ne]
  refine ⟨⟨?_, ?_⟩, ?_⟩ <;> rintro rfl <;> exact absurd h (by decide)

lemma not_mem_ofNat {c : Char} (h : c.isDigit = false) (n : Nat) : c ∉ Text.ofNat n := by
  intro hc
  rw [Numeral.isDigit_of_mem_ofNat hc] at h
  exact absurd h (by simp)

lemma readLocation_writeLocation {row column : Nat}
    (hrow : (Text.ofNat row).length ≤ Numeral.digitLimit)
    (hcolumn : (Text.ofNat column).length ≤ Numeral.digitLimit) :
    readLocation (writeLocation row column) = some ((row : Int), (column : Int)) := by
  have hdigits : ∀ n : Nat, ∀ c ∈ Text.ofNat n, isLocationBracket c = false := fun _ _ hc =>
    isLocationBracket_of_isDigit (Numeral.isDigit_of_mem_ofNat hc)
  have htrim : (writeLocation row column).trimBy isLocationBracket =
      Text.ofNat row ++ ", " ++ Text.ofNat column := by
    have hopening : ∀ c ∈ (" (" : Text), isLocationBracket c = true := by
      simp [isLocationBracket]
    have hclosing : ∀ c ∈ (")" : Text), isLocationBracket c = true := by
      simp [isLocationBracket]
    rw [writeLocation, Text.trimBy_append hopening hclosing,
      Text.trimBy_between (hdigits row) Nat.toDigits_ne_nil (hdigits column) Nat.toDigits_ne_nil]
  have hparts : (Text.ofNat row ++ ", " ++ Text.ofNat column).pieces ',' ' ' =
      [Text.ofNat row, Text.ofNat column] := by
    rw [List.append_assoc]
    show Text.pieces ',' ' ' (Text.ofNat row ++ ',' :: ' ' :: Text.ofNat column) = _
    rw [Text.pieces_append_pair (by decide)
        (Text.not_infix_of_not_mem (not_mem_ofNat (by decide) row)),
      Text.pieces_of_not_infix (Text.not_infix_of_not_mem (not_mem_ofNat (by decide) column))]
  rw [readLocation_eq_some_iff, htrim]
  exact ⟨_, _, hparts, Numeral.parse?_ofNat hrow, Numeral.parse?_ofNat hcolumn⟩

/-! ## Reading -/

lemma Record.checked_eq_ok_iff {severity : Severity} {line column : Int} {message : Text}
    {r : Record} :
    Record.checked severity line column message = .ok r ↔
      (1 ≤ line ∧ 1 ≤ column) ∧ r = ⟨severity, line, column, message⟩ := by
  unfold checked
  by_cases h : 1 ≤ line ∧ 1 ≤ column
  · simp [h, eq_comm]
  · simp [h]

/-- What a line must be like to be read, and what it is read as. -/
lemma readKotlin_eq_ok_iff (t : Text) (r : Record) :
    readKotlin t = .ok r ↔
      ∃ marker path location message line column,
        t.fields ':' = marker :: path :: location :: message ∧
        readLocation location = some (line, column) ∧ (1 ≤ line ∧ 1 ≤ column) ∧
        r = ⟨.ofMarker marker, line, column, Text.trim (Text.join [':'] message)⟩ := by
  unfold readKotlin
  rcases t.fields ':' with _ | ⟨marker, _ | ⟨path, _ | ⟨location, message⟩⟩⟩
  · simp
  · simp
  · simp
  · simp only [List.cons.injEq]
    cases hlocation : readLocation location with
    | none => simp [hlocation]
    | some found =>
      obtain ⟨line, column⟩ := found
      simp only [Record.checked_eq_ok_iff]
      constructor
      · rintro ⟨hpositive, rfl⟩
        exact ⟨_, _, _, _, _, _, ⟨rfl, rfl, rfl, rfl⟩, hlocation, hpositive, rfl⟩
      · rintro ⟨_, _, _, _, line', column', ⟨rfl, rfl, rfl, rfl⟩, hfound, hpositive, rfl⟩
        obtain ⟨rfl, rfl⟩ := Prod.mk.inj (Option.some.inj (hlocation.symm.trans hfound))
        exact ⟨hpositive, rfl⟩

/-! ## Writing -/

lemma ofInt_natCast (n : Nat) : Text.ofInt n = Text.ofNat n := rfl

lemma writeKotlin_eq (marker path : Text) (row column : Nat) (message : Text) :
    writeKotlin marker path row column message =
      marker ++ ':' :: ((' ' :: path) ++ ':' :: (writeLocation row column ++
        ':' :: ' ' :: message)) := by
  simp only [writeKotlin, writeLocation, ofInt_natCast, List.append_assoc]
  rfl

/-- A line that was written is read as what was written, the message without the blanks around
it. -/
lemma readKotlin_writeKotlin {marker path : Text} {row column : Nat} (message : Text)
    (hmarker : ':' ∉ marker) (hpath : ':' ∉ path) (hrow : 1 ≤ row) (hcolumn : 1 ≤ column)
    (hrow' : (Text.ofNat row).length ≤ Numeral.digitLimit)
    (hcolumn' : (Text.ofNat column).length ≤ Numeral.digitLimit) :
    readKotlin (writeKotlin marker path row column message) =
      .ok ⟨.ofMarker marker, row, column, Text.trim message⟩ := by
  have hpath' : ':' ∉ ' ' :: path := by simp [hpath]
  have hlocation : ':' ∉ writeLocation row column := by
    have hdigits := @not_mem_ofNat ':' (by decide)
    simp [writeLocation, hdigits]
  have hfields : (writeKotlin marker path row column message).fields ':' =
      marker :: (' ' :: path) :: writeLocation row column :: Text.fields ':' (' ' :: message) := by
    rw [writeKotlin_eq, Text.fields_append_cons_of_not_mem hmarker,
      Text.fields_append_cons_of_not_mem hpath', Text.fields_append_cons_of_not_mem hlocation]
  have hmessage : Text.trim (' ' :: message) = Text.trim message := by
    have hblank : ∀ c ∈ [' '], isBlank c = true := List.forall_mem_singleton.mpr rfl
    have hnone : ∀ c ∈ ([] : Text), isBlank c = true := by simp
    have happend := Text.trimBy_append hblank hnone message
    rw [List.append_nil] at happend
    exact happend
  rw [readKotlin_eq_ok_iff]
  refine ⟨_, _, _, _, _, _, hfields, readLocation_writeLocation hrow' hcolumn',
    ⟨by omega, by omega⟩, ?_⟩
  rw [Text.join_fields, hmessage]

lemma newline_not_mem_writeKotlin {marker path message : Text} (row column : Nat)
    (hmarker : '\n' ∉ marker) (hpath : '\n' ∉ path) (hmessage : '\n' ∉ message) :
    '\n' ∉ writeKotlin marker path row column message := by
  have hdigits := @not_mem_ofNat '\n' (by decide)
  simp [writeKotlin_eq, writeLocation, hmarker, hpath, hmessage, hdigits]

end GradleLint
