import GradleLint.Proofs.Output.Attempts
import GradleLint.Proofs.Output.RoundTrip
import GradleLint.Proofs.Text.NumeralForms

/-!
# Verdicts on lines of build output

A line is read as a record or fails in one of three ways.  `KotlinVerdict` and `JavaVerdict` say
when each of these comes to pass, in terms of how the line is written: where its colons stand, what
is left of a field without its brackets or blanks, and which texts stand for integers.  Where a line
has several faults, the verdict tells which of them counts.  A reader gives exactly the verdict on a
line, and an output gives the records of the lines that name the file and are read
(`readLine_verdict`).
-/

namespace GradleLint

/-! ## Fields as they are written -/

/-- What follows a field: nothing, or a colon and more. -/
def EndsField (rest : Text) : Prop := rest = [] ∨ ∃ more, rest = ':' :: more

/-- The first three fields of a line, and what follows them. -/
structure KotlinFields (t marker path location rest : Text) : Prop where
  line : t = marker ++ ':' :: path ++ ':' :: location ++ rest
  marker_clear : ':' ∉ marker
  path_clear : ':' ∉ path
  location_clear : ':' ∉ location
  ends : EndsField rest

/-- The first two fields of a line, and what follows them. -/
structure JavaFields (t path number rest : Text) : Prop where
  line : t = path ++ ':' :: number ++ rest
  path_clear : ':' ∉ path
  number_clear : ':' ∉ number
  ends : EndsField rest

/-- The fields of what follows a field. -/
def fieldsBehind : Text → List Text
  | [] => []
  | _ :: r => Text.fields ':' r

lemma join_fieldsBehind (rest : Text) : Text.join [':'] (fieldsBehind rest) = rest.tail := by
  cases rest with
  | nil => rfl
  | cons c r => exact Text.join_fields ':' r

lemma fields_append_of_endsField {first rest : Text} (hclear : ':' ∉ first)
    (h : EndsField rest) : Text.fields ':' (first ++ rest) = first :: fieldsBehind rest := by
  obtain rfl | ⟨r, rfl⟩ := h
  · rw [List.append_nil, Text.fields_of_not_mem hclear]
    rfl
  · exact Text.fields_append_cons_of_not_mem hclear r

lemma KotlinFields.fields_eq {t marker path location rest : Text}
    (h : KotlinFields t marker path location rest) :
    Text.fields ':' t = marker :: path :: location :: fieldsBehind rest := by
  rw [h.line, List.append_assoc, List.append_assoc, List.cons_append, List.cons_append,
    Text.fields_append_cons_of_not_mem h.marker_clear,
    Text.fields_append_cons_of_not_mem h.path_clear,
    fields_append_of_endsField h.location_clear h.ends]

lemma JavaFields.fields_eq {t path number rest : Text} (h : JavaFields t path number rest) :
    Text.fields ':' t = path :: number :: fieldsBehind rest := by
  rw [h.line, List.append_assoc, List.cons_append,
    Text.fields_append_cons_of_not_mem h.path_clear,
    fields_append_of_endsField h.number_clear h.ends]

/-- Every text starts with a field. -/
lemma exists_field (t : Text) : ∃ first rest, t = first ++ rest ∧ ':' ∉ first ∧ EndsField rest := by
  by_cases h : ':' ∈ t
  · obtain ⟨first, r, ht, hclear⟩ := List.eq_append_cons_of_mem h
    exact ⟨first, _, ht, hclear, .inr ⟨r, rfl⟩⟩
  · exact ⟨t, [], (List.append_nil t).symm, h, .inl rfl⟩

lemma exists_javaFields {t : Text} (h : ':' ∈ t) :
    ∃ path number rest, JavaFields t path number rest := by
  obtain ⟨path, r, rfl, hpath⟩ := List.eq_append_cons_of_mem h
  obtain ⟨number, rest, rfl, hnumber, hends⟩ := exists_field r
  exact ⟨path, number, rest, by rw [List.append_assoc]; rfl, hpath, hnumber, hends⟩

lemma exists_kotlinFields {t : Text} (h : 2 ≤ t.count ':') :
    ∃ marker path location rest, KotlinFields t marker path location rest := by
  obtain ⟨marker, r, rfl, hmarker⟩ := List.eq_append_cons_of_mem
    (List.count_pos_iff.mp (Nat.lt_of_lt_of_le Nat.zero_lt_two h))
  have hr : ':' ∈ r := by
    rw [List.count_append, List.count_eq_zero_of_not_mem hmarker, List.count_cons_self] at h
    exact List.count_pos_iff.mp (by omega)
  obtain ⟨path, location, rest, hline, hpath, hlocation, hends⟩ := exists_javaFields hr
  refine ⟨marker, path, location, rest, ?_, hmarker, hpath, hlocation, hends⟩
  rw [hline, List.append_assoc, List.append_assoc, List.append_assoc]
  rfl

/-! ## Locations as they are written -/

/-- Without the spaces and parentheses at its ends, the location is two numerals with a comma and a
space between them, and such a pair stands nowhere else. -/
def LocatesAt (location : Text) (line column : Int) : Prop :=
  ∃ inner row col : Text, Text.IsTrimOf isLocationBracket inner location ∧
    inner = row ++ [',', ' '] ++ col ∧ ¬ [',', ' '] <:+: row ∧ ¬ [',', ' '] <:+: col ∧
    Numeral.StandsFor row line ∧ Numeral.StandsFor col column

lemma readLocation_eq_some_iff_locatesAt (t : Text) (line column : Int) :
    readLocation t = some (line, column) ↔ LocatesAt t line column := by
  have hpieces : ∀ inner row col : Text, inner.pieces ',' ' ' = [row, col] ↔
      inner = row ++ [',', ' '] ++ col ∧ ¬ [',', ' '] <:+: row ∧ ¬ [',', ' '] <:+: col := by
    intro inner row col
    rw [Text.pieces_eq_iff (by decide), Text.join, List.intercalate_cons_cons,
      List.intercalate_singleton]
    simp only [List.forall_mem_cons, List.not_mem_nil, IsEmpty.forall_iff, implies_true, and_true,
      ne_eq, reduceCtorEq, not_false_eq_true, true_and]
    tauto
  rw [readLocation_eq_some_iff]
  simp only [hpieces, Numeral.parse?_eq_some_iff]
  constructor
  · rintro ⟨row, col, ⟨hinner, hrow, hcol⟩, hline, hcolumn⟩
    exact ⟨_, row, col, Text.isTrimOf_iff.mpr rfl, hinner, hrow, hcol, hline, hcolumn⟩
  · rintro ⟨inner, row, col, htrim, hinner, hrow, hcol, hline, hcolumn⟩
    rw [Text.isTrimOf_iff.mp htrim]
    exact ⟨row, col, ⟨hinner, hrow, hcol⟩, hline, hcolumn⟩

lemma readLocation_eq_none_iff (t : Text) :
    readLocation t = none ↔ ∀ line column, ¬ LocatesAt t line column := by
  simp only [Option.eq_none_iff_forall_ne_some, ne_eq, Prod.forall,
    readLocation_eq_some_iff_locatesAt]

/-! ## The verdicts -/

/-- What a line of the Kotlin compiler is read as, or how it fails. -/
inductive KotlinVerdict (t : Text) : Except LineError Record → Prop where
  /-- There are not even three fields. -/
  | fieldMissing (h : t.count ':' < 2) : KotlinVerdict t (.error .fieldMissing)
  /-- The third field is no location. -/
  | badNumber {marker path location rest : Text}
    (hfields : KotlinFields t marker path location rest)
    (hlocation : ∀ line column, ¬ LocatesAt location line column) :
    KotlinVerdict t (.error .badNumber)
  /-- The third field is a location that is not in any text. -/
  | notPositive {marker path location rest : Text} {line column : Int}
    (hfields : KotlinFields t marker path location rest)
    (hlocation : LocatesAt location line column) (h : line < 1 ∨ column < 1) :
    KotlinVerdict t (.error (.notPositive (line < 1) (column < 1)))
  /-- The line is read; the message is what stands behind the third colon. -/
  | read {marker path location rest message : Text} {severity : Severity} {line column : Int}
    (hfields : KotlinFields t marker path location rest)
    (hlocation : LocatesAt location line column) (hline : 1 ≤ line) (hcolumn : 1 ≤ column)
    (hseverity : severity = .error ↔ Text.IsTrimOf isBlank ['e'] marker)
    (hmessage : Text.IsTrimOf isBlank message rest.tail) :
    KotlinVerdict t (.ok ⟨severity, line, column, message⟩)

/-- What a line of the Java compiler is read as, or how it fails. -/
inductive JavaVerdict (t : Text) : Except LineError Record → Prop where
  /-- There is no second field. -/
  | numberMissing (h : ':' ∉ t) : JavaVerdict t (.error .fieldMissing)
  /-- The second field is no number, whatever follows. -/
  | badNumber {path number rest : Text} (hfields : JavaFields t path number rest)
    (hnumber : ∀ n, ¬ Numeral.StandsFor number n) : JavaVerdict t (.error .badNumber)
  /-- The second field is a number, and there is no third. -/
  | messageMissing {path number : Text} {n : Int} (hfields : JavaFields t path number [])
    (hnumber : Numeral.StandsFor number n) : JavaVerdict t (.error .fieldMissing)
  /-- The second field is the number of no line. -/
  | notPositive {path number more : Text} {n : Int}
    (hfields : JavaFields t path number (':' :: more))
    (hnumber : Numeral.StandsFor number n) (h : n < 1) :
    JavaVerdict t (.error (.notPositive true false))
  /-- The line is read; the message is the third field as it stands. -/
  | read {path number message rest : Text} {n : Int}
    (hfields : JavaFields t path number (':' :: (message ++ rest)))
    (hmessage : ':' ∉ message) (hends : EndsField rest)
    (hnumber : Numeral.StandsFor number n) (h : 1 ≤ n) : JavaVerdict t (.ok ⟨.error, n, 1, message⟩)

/-- The verdict on a line in a grammar. -/
def Grammar.Verdict : Grammar → Text → Except LineError Record → Prop
  | .kotlin => KotlinVerdict
  | .java => JavaVerdict

/-- The records that lines give, in order: one for each line that names the file and is read. -/
inductive Grammar.Gives (g : Grammar) (name : Text) : List Text → List Record → Prop where
  | nil : g.Gives name [] []
  | read {line : Text} {r : Record} {lines : List Text} {rs : List Record} (hnames : name <:+: line)
    (hverdict : g.Verdict line (.ok r)) (hrest : g.Gives name lines rs) :
    g.Gives name (line :: lines) (r :: rs)
  | unnamed {line : Text} {lines : List Text} {rs : List Record} (h : ¬ name <:+: line)
    (hrest : g.Gives name lines rs) : g.Gives name (line :: lines) rs
  | failed {line : Text} {e : LineError} {lines : List Text} {rs : List Record}
    (hverdict : g.Verdict line (.error e)) (hrest : g.Gives name lines rs) :
    g.Gives name (line :: lines) rs

/-! ## Readers give the verdict -/

lemma ofMarker_eq_iff (severity : Severity) (marker : Text) :
    Severity.ofMarker marker = severity ↔
      (severity = .error ↔ Text.IsTrimOf isBlank ['e'] marker) := by
  rw [Text.isTrimOf_iff]
  show (if Text.trim marker = ['e'] then Severity.error else .warning) = severity ↔
    (severity = .error ↔ Text.trim marker = ['e'])
  by_cases h : Text.trim marker = ['e'] <;> cases severity <;> simp [h]

lemma exists_kotlinVerdict (t : Text) : ∃ v, KotlinVerdict t v := by
  by_cases hcount : t.count ':' < 2
  · exact ⟨_, .fieldMissing hcount⟩
  · obtain ⟨marker, path, location, rest, hfields⟩ := exists_kotlinFields (Nat.le_of_not_lt hcount)
    by_cases hlocation : ∃ line column, LocatesAt location line column
    · obtain ⟨line, column, hlocation⟩ := hlocation
      by_cases hpositive : line < 1 ∨ column < 1
      · exact ⟨_, .notPositive hfields hlocation hpositive⟩
      · exact ⟨_, .read hfields hlocation (by omega) (by omega)
          ((ofMarker_eq_iff (.ofMarker marker) marker).mp rfl) (Text.isTrimOf_iff.mpr rfl)⟩
    · exact ⟨_, .badNumber hfields fun line column h => hlocation ⟨line, column, h⟩⟩

lemma readKotlin_of_verdict {t : Text} {v : Except LineError Record} (h : KotlinVerdict t v) :
    readKotlin t = v := by
  cases h with
  | fieldMissing h =>
    have hlength := Text.length_fields ':' t
    unfold readKotlin
    split
    · rename_i hfields
      rw [hfields] at hlength
      simp only [List.length_cons] at hlength
      omega
    · rfl
  | badNumber hfields hlocation =>
    have hnone := (readLocation_eq_none_iff _).mpr hlocation
    simp only [readKotlin, hfields.fields_eq, hnone]
  | notPositive hfields hlocation h =>
    have hsome := (readLocation_eq_some_iff_locatesAt _ _ _).mpr hlocation
    simp only [readKotlin, hfields.fields_eq, hsome, Record.checked]
    rw [if_neg (by omega)]
  | read hfields hlocation hline hcolumn hseverity hmessage =>
    have hsome := (readLocation_eq_some_iff_locatesAt _ _ _).mpr hlocation
    simp only [readKotlin, hfields.fields_eq, hsome, Record.checked, join_fieldsBehind]
    rw [if_pos ⟨hline, hcolumn⟩, (ofMarker_eq_iff _ _).mpr hseverity, Text.trim,
      Text.isTrimOf_iff.mp hmessage]

lemma exists_javaVerdict (t : Text) : ∃ v, JavaVerdict t v := by
  by_cases hcolon : ':' ∈ t
  · obtain ⟨path, number, rest, hfields⟩ := exists_javaFields hcolon
    by_cases hnumber : ∃ n, Numeral.StandsFor number n
    · obtain ⟨n, hnumber⟩ := hnumber
      obtain rfl | ⟨more, rfl⟩ := hfields.ends
      · exact ⟨_, .messageMissing hfields hnumber⟩
      · by_cases hpositive : n < 1
        · exact ⟨_, .notPositive hfields hnumber hpositive⟩
        · obtain ⟨message, rest, rfl, hmessage, hends⟩ := exists_field more
          exact ⟨_, .read hfields hmessage hends hnumber (by omega)⟩
    · exact ⟨_, .badNumber hfields fun n h => hnumber ⟨n, h⟩⟩
  · exact ⟨_, .numberMissing hcolon⟩

lemma readJava_of_verdict {t : Text} {v : Except LineError Record} (h : JavaVerdict t v) :
    readJava t = v := by
  cases h with
  | numberMissing h => simp only [readJava, Text.fields_of_not_mem h]
  | badNumber hfields hnumber =>
    have hnone : Numeral.parse? _ = none := Option.eq_none_iff_forall_ne_some.mpr fun n hn =>
      hnumber n ((Numeral.parse?_eq_some_iff _ n).mp hn)
    simp only [readJava, hfields.fields_eq, hnone]
  | messageMissing hfields hnumber =>
    have hsome := (Numeral.parse?_eq_some_iff _ _).mpr hnumber
    simp only [readJava, hfields.fields_eq, hsome, fieldsBehind]
  | @notPositive path number more n hfields hnumber h =>
    have hsome := (Numeral.parse?_eq_some_iff _ _).mpr hnumber
    obtain ⟨message, rest, rfl, hmessage, hends⟩ := exists_field more
    simp only [readJava, hfields.fields_eq, hsome, fieldsBehind,
      fields_append_of_endsField hmessage hends, Record.checked]
    rw [if_neg (by omega), decide_eq_true h]
    rfl
  | read hfields hmessage hends hnumber h =>
    have hsome := (Numeral.parse?_eq_some_iff _ _).mpr hnumber
    simp only [readJava, hfields.fields_eq, hsome, fieldsBehind,
      fields_append_of_endsField hmessage hends, Record.checked]
    rw [if_pos ⟨h, le_refl 1⟩]

/-- A reader gives exactly the verdict on a line. -/
lemma readLine_eq_iff (g : Grammar) (t : Text) (v : Except LineError Record) :
    g.readLine t = v ↔ g.Verdict t v := by
  cases g with
  | kotlin =>
    refine ⟨?_, readKotlin_of_verdict⟩
    rintro rfl
    obtain ⟨v, hv⟩ := exists_kotlinVerdict t
    rwa [Grammar.readLine, readKotlin_of_verdict hv]
  | java =>
    refine ⟨?_, readJava_of_verdict⟩
    rintro rfl
    obtain ⟨v, hv⟩ := exists_javaVerdict t
    rwa [Grammar.readLine, readJava_of_verdict hv]

/-! ## Outputs -/

lemma Grammar.gives_filterMap (g : Grammar) (name : Text) (lines : List Text) :
    g.Gives name (lines.map Text.dropCarriageReturn) (lines.filterMap (g.recordOf? name)) := by
  induction lines with
  | nil => exact .nil
  | cons line lines ih =>
    rw [List.map_cons, List.filterMap_cons]
    simp only [recordOf?]
    by_cases hnames : name <:+: line.dropCarriageReturn
    · rw [if_pos ((Text.includes_iff _ _).mpr hnames)]
      cases hread : g.readLine line.dropCarriageReturn with
      | ok r => exact .read hnames ((readLine_eq_iff g _ _).mp hread) ih
      | error e => exact .failed ((readLine_eq_iff g _ _).mp hread) ih
    · rw [if_neg fun hincludes => hnames ((Text.includes_iff _ _).mp hincludes)]
      exact .unnamed hnames ih

/-- What lines give is determined by the lines. -/
lemma Grammar.Gives.unique {g : Grammar} {name : Text} {lines : List Text} {rs rs' : List Record}
    (h : g.Gives name lines rs) (h' : g.Gives name lines rs') : rs = rs' := by
  have hverdict : ∀ {line : Text} {v v' : Except LineError Record},
      g.Verdict line v → g.Verdict line v' → v = v' := fun hv hv' =>
    ((readLine_eq_iff g _ _).mpr hv).symm.trans ((readLine_eq_iff g _ _).mpr hv')
  induction h generalizing rs' with
  | nil =>
    cases h'
    rfl
  | read hnames hv hrest ih =>
    cases h' with
    | read hnames' hv' hrest' => rw [Except.ok.inj (hverdict hv hv'), ih hrest']
    | unnamed h hrest' => exact absurd hnames h
    | failed hv' hrest' => cases hverdict hv hv'
  | unnamed h hrest ih =>
    cases h' with
    | read hnames' hv' hrest' => exact absurd hnames' h
    | unnamed h hrest' => exact ih hrest'
    | failed hv' hrest' => exact ih hrest'
  | failed hv hrest ih =>
    cases h' with
    | read hnames' hv' hrest' => cases hverdict hv hv'
    | unnamed h hrest' => exact ih hrest'
    | failed hv' hrest' => exact ih hrest'

lemma Grammar.records_eq_iff (g : Grammar) (name output : Text) (rs : List Record) :
    g.records name output = rs ↔
      g.Gives name ((output.fields '\n').map Text.dropCarriageReturn) rs := by
  have hgives := g.gives_filterMap name (output.fields '\n')
  constructor
  · rintro rfl
    exact hgives
  · exact hgives.unique

/-! ## The result -/

/-- In both grammars a line gets its verdict and no other; the record of a line fails its validation
with exactly one issue for each of its two numbers that is below one; and an output gives, in order,
one record for each line that names the file and is read, a carriage return at the end of a line
aside. -/
theorem readLine_verdict :
    (∀ (t : Text) (v : Except LineError Record), readKotlin t = v ↔ KotlinVerdict t v) ∧
    (∀ (t : Text) (v : Except LineError Record), readJava t = v ↔ JavaVerdict t v) ∧
    (∀ r : Record, Record.read r.toValue =
      match r.issues with
      | [] => .valid r
      | issues => .invalid issues) ∧
    ∀ (g : Grammar) (name output : Text) (rs : List Record),
      g.records name output = rs ↔
        g.Gives name ((output.fields '\n').map Text.dropCarriageReturn) rs :=
  ⟨readLine_eq_iff .kotlin, readLine_eq_iff .java, Record.read_toValue_eq, Grammar.records_eq_iff⟩

/-- A line that lacks both its message and its number is refused for the number. -/
example : readJava "A.java:x" = .error .badNumber := rfl

end GradleLint
