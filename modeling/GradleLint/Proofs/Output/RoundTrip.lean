import GradleLint.Proofs.Output.Kotlin
import GradleLint.Proofs.Output.Lines
import GradleLint.Proofs.Output.Records

/-!
# Compiler reports survive writing and reading

An output of the Kotlin compiler is a sequence of lines, each a report on the document or a line
that does not name it, and each ended in either way.  Reading it gives the records of the
reports, in order, and nothing else; and a record that was read can be written and is read
again as itself (`recordsFor_round_trip`).
-/

namespace GradleLint

/-! ## Trimmed messages -/

lemma trim_concat_of_blank {c : Char} (h : isBlank c = true) (t : Text) :
    Text.trim (t ++ [c]) = Text.trim t := by
  have hbefore : ∀ d ∈ ([] : Text), isBlank d = true := by simp
  have hbehind : ∀ d ∈ [c], isBlank d = true := by simpa using h
  exact Text.trimBy_append hbefore hbehind t

lemma trim_trim (t : Text) : Text.trim (Text.trim t) = Text.trim t := Text.trimBy_trimBy isBlank t

lemma trim_dropCarriageReturn (t : Text) : Text.trim t.dropCarriageReturn = Text.trim t := by
  rcases List.eq_nil_or_concat t with rfl | ⟨t, c, rfl⟩
  · rfl
  · rw [List.concat_eq_append, Text.dropCarriageReturn_concat]
    split
    · rename_i hreturn
      subst hreturn
      exact (trim_concat_of_blank (by decide) t).symm
    · rfl

/-! ## Outputs -/

/-- A report of the compiler on the file called `name`. -/
structure KotlinReport (name : Text) where
  marker : Text
  path : Text
  row : Nat
  column : Nat
  message : Text
  marker_clear : ':' ∉ marker ∧ '\n' ∉ marker
  path_clear : ':' ∉ path ∧ '\n' ∉ path
  path_names : name <:+: path
  row_readable : 1 ≤ row ∧ (Text.ofNat row).length ≤ Numeral.digitLimit
  column_readable : 1 ≤ column ∧ (Text.ofNat column).length ≤ Numeral.digitLimit
  message_clear : '\n' ∉ message

/-- A line of output without its end. -/
inductive OutputLine (name : Text) where
  /-- A report on the file. -/
  | report (d : KotlinReport name)
  /-- Any line that does not name the file. -/
  | other (text : Text) (one_line : '\n' ∉ text) (unnamed : ¬ name <:+: text)

/-- How a line ends. -/
inductive LineEnd where
  | lineFeed
  | returnAndLineFeed

/-- What stands between the line and its line feed. -/
def LineEnd.return : LineEnd → Text
  | .lineFeed => []
  | .returnAndLineFeed => ['\r']

variable {name : Text}

namespace KotlinReport

/-- The report as the compiler writes it. -/
def toText (d : KotlinReport name) : Text :=
  writeKotlin d.marker d.path d.row d.column d.message

/-- What a report says. -/
def record (d : KotlinReport name) : Record where
  severity := if d.marker.trim = ['e'] then .error else .warning
  line := d.row
  column := d.column
  message := d.message.trim

end KotlinReport

namespace OutputLine

def toText : OutputLine name → Text
  | report d => d.toText
  | other text _ _ => text

/-- The record of a report. -/
def record? : OutputLine name → Option Record
  | report d => some d.record
  | other _ _ _ => none

end OutputLine

/-- The output that consists of the given lines. -/
def writeOutput (lines : List (OutputLine name × LineEnd)) : Text :=
  lines.flatMap fun (line, ending) => line.toText ++ (ending.return ++ ['\n'])

/-! ## Reading what was written -/

/-- The path of a line that was written stands in it. -/
lemma infix_writeKotlin (marker path : Text) (line column : Int) (message : Text) :
    path <:+: writeKotlin marker path line column message :=
  ⟨marker ++ ": ", ": (" ++ Text.ofInt line ++ ", " ++ Text.ofInt column ++ "): " ++ message,
    by simp only [writeKotlin, List.append_assoc]⟩

/-- A carriage return at the end of a written line is one at the end of its message. -/
lemma dropCarriageReturn_writeKotlin (marker path : Text) (line column : Int) (message : Text) :
    (writeKotlin marker path line column message).dropCarriageReturn =
      writeKotlin marker path line column message.dropCarriageReturn := by
  have hsplit : ∀ message, writeKotlin marker path line column message =
      (marker ++ ": " ++ path ++ ": (" ++ Text.ofInt line ++ ", " ++ Text.ofInt column ++ "):") ++
        ' ' :: message := by
    intro message
    simp only [writeKotlin, List.append_assoc]
    rfl
  rw [hsplit, hsplit, Text.dropCarriageReturn_append_cons (by decide)]

lemma writeKotlin_append (marker path : Text) (line column : Int) (message rest : Text) :
    writeKotlin marker path line column message ++ rest =
      writeKotlin marker path line column (message ++ rest) := by
  simp only [writeKotlin, List.append_assoc]

lemma recordOf?_kotlin_eq_some_iff (name line : Text) (r : Record) :
    Grammar.kotlin.recordOf? name line = some r ↔
      name <:+: line.dropCarriageReturn ∧ readKotlin line.dropCarriageReturn = .ok r := by
  simp only [Grammar.recordOf?, Grammar.readLine]
  by_cases h : name <:+: line.dropCarriageReturn
  · rw [if_pos ((Text.includes_iff _ _).mpr h)]
    cases readKotlin line.dropCarriageReturn <;> simp [Except.toOption, h]
  · rw [if_neg fun hincludes => h ((Text.includes_iff _ _).mp hincludes)]
    simp [h]

lemma KotlinReport.recordOf?_toText (d : KotlinReport name) (ending : LineEnd) :
    Grammar.kotlin.recordOf? name (d.toText ++ ending.return) = some d.record := by
  have hblank : Text.trim (d.message ++ ending.return) = Text.trim d.message := by
    cases ending with
    | lineFeed => rw [LineEnd.return, List.append_nil]
    | returnAndLineFeed => exact trim_concat_of_blank (by decide) d.message
  rw [recordOf?_kotlin_eq_some_iff, toText, writeKotlin_append, dropCarriageReturn_writeKotlin]
  refine ⟨d.path_names.trans (infix_writeKotlin _ _ _ _ _), ?_⟩
  rw [readKotlin_writeKotlin _ d.marker_clear.1 d.path_clear.1 d.row_readable.1
    d.column_readable.1 d.row_readable.2 d.column_readable.2, trim_dropCarriageReturn, hblank]
  rfl

/-- A line that does not name the file gives no record, whatever it says. -/
lemma recordOf?_of_unnamed {line : Text} (h : ¬ name <:+: line) (ending : LineEnd) (g : Grammar) :
    g.recordOf? name (line ++ ending.return) = none := by
  have hprefix : (line ++ ending.return).dropCarriageReturn <+: line := by
    cases ending with
    | lineFeed =>
      rw [LineEnd.return, List.append_nil]
      exact Text.dropCarriageReturn_prefix line
    | returnAndLineFeed =>
      rw [LineEnd.return, Text.dropCarriageReturn_concat, if_pos rfl]
  refine if_neg fun hincludes => h ?_
  exact ((Text.includes_iff _ _).mp hincludes).trans hprefix.isInfix

lemma OutputLine.recordOf?_toText (line : OutputLine name) (ending : LineEnd) :
    Grammar.kotlin.recordOf? name (line.toText ++ ending.return) = line.record? := by
  cases line with
  | report d => exact d.recordOf?_toText ending
  | other text _ unnamed => exact recordOf?_of_unnamed unnamed ending .kotlin

lemma OutputLine.newline_not_mem (line : OutputLine name) (ending : LineEnd) :
    '\n' ∉ line.toText ++ ending.return := by
  have hreturn : '\n' ∉ ending.return := by cases ending <;> decide
  have htext : '\n' ∉ line.toText := by
    cases line with
    | report d =>
      exact newline_not_mem_writeKotlin d.row d.column d.marker_clear.2 d.path_clear.2
        d.message_clear
    | other _ one_line _ => exact one_line
  simp [hreturn, htext]

lemma records_nil_kotlin (name : Text) : Grammar.kotlin.records name [] = [] := by
  have hnone : Grammar.kotlin.recordOf? name [] = none := by
    rw [Option.eq_none_iff_forall_not_mem]
    intro r hr
    obtain ⟨-, hread⟩ := (recordOf?_kotlin_eq_some_iff name [] r).mp hr
    have hempty : readKotlin [] = .error .fieldMissing := rfl
    cases hempty.symm.trans hread
  rw [Grammar.kotlin.records_of_line name (by simp), hnone]
  rfl

/-- Reading an output gives the records of its reports, in order. -/
lemma records_writeOutput (lines : List (OutputLine name × LineEnd)) :
    Grammar.kotlin.records name (writeOutput lines) =
      lines.filterMap fun (line, _) => line.record? := by
  induction lines with
  | nil => exact records_nil_kotlin name
  | cons entry lines ih =>
    obtain ⟨line, ending⟩ := entry
    have hfirst : writeOutput ((line, ending) :: lines) =
        (line.toText ++ ending.return) ++ '\n' :: writeOutput lines := by
      simp [writeOutput]
    rw [hfirst, Grammar.records_append_line, ih,
      Grammar.records_of_line _ _ (line.newline_not_mem ending), line.recordOf?_toText ending]
    cases hr : line.record? <;> simp [hr]

/-! ## Writing what was read -/

lemma ofMarker_marker (s : Severity) : Severity.ofMarker s.marker = s := by
  cases s <;> decide

/-- The message of a record that was read has no blanks around it. -/
lemma trim_message {t : Text} {r : Record} (h : readKotlin t = .ok r) :
    Text.trim r.message = r.message := by
  obtain ⟨marker, path, location, message, line, column, -, -, -, rfl⟩ :=
    (readKotlin_eq_ok_iff t r).mp h
  exact trim_trim _

/-- A record that was read is written in a way that reads as that record, whatever path is put
down and whatever blanks are put around the message. -/
lemma readKotlin_writeKotlin_of_readKotlin {t path message : Text} {r : Record}
    (h : readKotlin t = .ok r) (hpath : ':' ∉ path) (hmessage : Text.trim message = r.message) :
    readKotlin (writeKotlin r.severity.marker path r.line r.column message) = .ok r := by
  obtain ⟨marker, _, location, rest, line, column, -, hlocation, ⟨hline, hcolumn⟩, rfl⟩ :=
    (readKotlin_eq_ok_iff t r).mp h
  obtain ⟨row, rfl⟩ := Int.eq_ofNat_of_zero_le (show 0 ≤ line by omega)
  obtain ⟨col, rfl⟩ := Int.eq_ofNat_of_zero_le (show 0 ≤ column by omega)
  obtain ⟨hrow', hcolumn'⟩ := length_ofNat_of_readLocation hlocation
  have hmarker : ∀ s : Severity, ':' ∉ s.marker := fun s => by cases s <;> decide
  have hread := readKotlin_writeKotlin message (hmarker (.ofMarker marker)) hpath
    (by omega) (by omega) hrow' hcolumn'
  rw [ofMarker_marker, hmessage] at hread
  exact hread

/-- The message of a record is on one line if what was read is. -/
lemma newline_not_mem_message {t : Text} {r : Record} (h : readKotlin t = .ok r)
    (ht : '\n' ∉ t) : '\n' ∉ r.message := by
  obtain ⟨marker, path, location, message, line, column, hfields, -, -, rfl⟩ :=
    (readKotlin_eq_ok_iff t r).mp h
  intro hbreak
  obtain hsep | ⟨field, hfield, hbreak⟩ := Text.mem_join (Text.mem_of_mem_trimBy hbreak)
  · exact absurd hsep (by decide)
  · have hmem : field ∈ t.fields ':' := by simp [hfields, hfield]
    exact ht (Text.mem_of_mem_fields hmem hbreak).1

/-- A record that was read and written stands on a line of its own. -/
lemma newline_not_mem_written {t path : Text} {r : Record} (h : readKotlin t = .ok r)
    (ht : '\n' ∉ t) (hpath : '\n' ∉ path) :
    '\n' ∉ writeKotlin r.severity.marker path r.line r.column r.message := by
  obtain ⟨hline, hcolumn⟩ := positive_of_readKotlin h
  obtain ⟨row, hrow⟩ := Int.eq_ofNat_of_zero_le (show 0 ≤ r.line by omega)
  obtain ⟨col, hcol⟩ := Int.eq_ofNat_of_zero_le (show 0 ≤ r.column by omega)
  have hmarker : ∀ s : Severity, '\n' ∉ s.marker := fun s => by cases s <;> decide
  rw [hrow, hcol]
  exact newline_not_mem_writeKotlin row col (hmarker r.severity) hpath
    (newline_not_mem_message h ht)

/-- A record of a line is written in a way that gives that record again, provided that the path
put down names the file. -/
lemma records_writeKotlin_of_recordOf? {line path : Text} {r : Record}
    (h : Grammar.kotlin.recordOf? name line = some r) (hline : '\n' ∉ line)
    (hnames : name <:+: path) (hpath : ':' ∉ path ∧ '\n' ∉ path) :
    Grammar.kotlin.records name
      (writeKotlin r.severity.marker path r.line r.column r.message) = [r] := by
  obtain ⟨-, hread⟩ := (recordOf?_kotlin_eq_some_iff name line r).mp h
  have hline' : '\n' ∉ line.dropCarriageReturn := fun hbreak =>
    hline ((Text.dropCarriageReturn_prefix line).subset hbreak)
  have hrecord : Grammar.kotlin.recordOf? name
      (writeKotlin r.severity.marker path r.line r.column r.message) = some r := by
    rw [recordOf?_kotlin_eq_some_iff, dropCarriageReturn_writeKotlin]
    refine ⟨hnames.trans (infix_writeKotlin _ _ _ _ _), ?_⟩
    refine readKotlin_writeKotlin_of_readKotlin hread hpath.1 ?_
    rw [trim_dropCarriageReturn, trim_message hread]
  rw [Grammar.records_of_line _ _ (newline_not_mem_written hread hline' hpath.2), hrecord]
  rfl

/-! ## Both ways -/

/-- When the grammar is the Kotlin compiler's, given or found from the path: reading an output
gives the records of its reports, in order and with nothing between them; and a record that was
read from any output, written with any path free of colons, is the record of that line, and is
all that is read from it if the path names the file. -/
theorem recordsFor_round_trip (path : Path) (grammar : Option Grammar)
    (hgrammar : grammar.or (Grammar.ofPath? path) = some .kotlin) :
    (∀ lines : List (OutputLine path.name × LineEnd),
      recordsFor path grammar (writeOutput lines) =
        lines.filterMap fun (line, _) => line.record?) ∧
    ∀ output, ∀ r ∈ recordsFor path grammar output, ∀ file : Text, ':' ∉ file →
      readKotlin (writeKotlin r.severity.marker file r.line r.column r.message) = .ok r ∧
      ('\n' ∉ file → path.name <:+: file →
        recordsFor path grammar
          (writeKotlin r.severity.marker file r.line r.column r.message) = [r]) := by
  have hrecords : ∀ output, recordsFor path grammar output =
      Grammar.kotlin.records path.name output := by
    intro output
    rw [recordsFor, hgrammar]
  simp only [hrecords]
  refine ⟨records_writeOutput, fun output r hr file hfile => ?_⟩
  obtain ⟨line, hline, hrecord⟩ := List.mem_filterMap.mp hr
  have hone : '\n' ∉ line := fun hbreak => (Text.mem_of_mem_fields hline hbreak).2 rfl
  obtain ⟨-, hread⟩ := (recordOf?_kotlin_eq_some_iff _ line r).mp hrecord
  refine ⟨readKotlin_writeKotlin_of_readKotlin hread hfile (trim_message hread), ?_⟩
  exact fun hbreak hnames => records_writeKotlin_of_recordOf? hrecord hone hnames ⟨hfile, hbreak⟩

/-- A report behind a line that names nothing, and what it was read as written for another
directory. -/
theorem round_trip_of_report :
    (none : Option Grammar).or (Grammar.ofPath? (.ofText "A.kt")) = some .kotlin ∧
    recordsFor (.ofText "A.kt") none "> Task\n e : src/A.kt: (3, 14):  see: (1, 2) \r\n" =
      [⟨.error, 3, 14, "see: (1, 2)"⟩] ∧
    recordsFor (.ofText "A.kt") none "e: A.kt: (3, 14): see: (1, 2)" =
      [⟨.error, 3, 14, "see: (1, 2)"⟩] := by
  have hgrammar : (none : Option Grammar).or (Grammar.ofPath? (.ofText "A.kt")) =
    some .kotlin := by decide
  obtain ⟨hread, hwrite⟩ := recordsFor_round_trip (.ofText "A.kt") none hgrammar
  have hrecords := hread [
    (.other "> Task" (by decide) (by decide), .lineFeed),
    (.report {
      marker := " e ", path := "src/A.kt", row := 3, column := 14, message := " see: (1, 2) "
      marker_clear := by decide, path_clear := by decide, path_names := by decide
      row_readable := by decide, column_readable := by decide, message_clear := by decide },
      .returnAndLineFeed)]
  refine ⟨hgrammar, hrecords, ?_⟩
  have hmem := List.mem_of_mem_head? (show _ ∈ List.head? _ from congrArg List.head? hrecords)
  exact (hwrite _ _ hmem "A.kt" (by decide)).2 (by decide) (by decide)

end GradleLint
