import GradleLint.Diagnostic
import GradleLint.Grammar
import GradleLint.Text.Integer

/-!
# Lines of build output

One line of output in either grammar reads as a record or fails in one of three ways.  The
fields of a line are what stands between its colons.

* Kotlin: `marker: path: (line, column): message`.  The location may lack its parentheses; the
  message is everything after the third colon, trimmed, and may be missing.
* Java: `path:line: message`.  There is no column, so it is one; every entry is an error; the
  message ends at the next colon and is kept as it stands.

`writeKotlin` writes a line that reads back.
-/

namespace GradleLint

/-- Why a line is no record. -/
inductive LineError where
  /-- The line has too few fields. -/
  | fieldMissing
  /-- A number, or the pair of numbers, is malformed. -/
  | badNumber
  /-- The line number (first) or the column (second) is below one. -/
  | notPositive (line column : Bool)
deriving DecidableEq, Repr

/-- A record, provided that its line and its column are positive. -/
def Record.checked (severity : Severity) (line column : Int) (message : Text) :
    Except LineError Record :=
  if 1 ≤ line ∧ 1 ≤ column then .ok ⟨severity, line, column, message⟩
  else .error (.notPositive (line < 1) (column < 1))

/-- A character that may surround the location of a line. -/
def isLocationBracket (c : Char) : Bool := c == ' ' || c == '(' || c == ')'

/-- Line and column of a location: two numerals with a comma and a space between them. -/
def readLocation (t : Text) : Option (Int × Int) :=
  match (t.trimBy isLocationBracket).pieces ',' ' ' with
  | [line, column] =>
    match Numeral.parse? line, Numeral.parse? column with
    | some line, some column => some (line, column)
    | _, _ => none
  | _ => none

/-- Reads a line written by the Kotlin compiler. -/
def readKotlin (t : Text) : Except LineError Record :=
  match t.fields ':' with
  | marker :: _ :: location :: message =>
    match readLocation location with
    | none => .error .badNumber
    | some (line, column) =>
      Record.checked (.ofMarker marker) line column (Text.trim (Text.join [':'] message))
  | _ => .error .fieldMissing

/-- Reads a line written by the Java compiler. -/
def readJava (t : Text) : Except LineError Record :=
  match t.fields ':' with
  | _ :: line :: rest =>
    match Numeral.parse? line with
    | none => .error .badNumber
    | some line =>
      match rest with
      | [] => .error .fieldMissing
      | message :: _ => Record.checked .error line 1 message
  | _ => .error .fieldMissing

/-- Reads a line in the given grammar. -/
def Grammar.readLine : Grammar → Text → Except LineError Record
  | .kotlin => readKotlin
  | .java => readJava

/-- The marker a severity is written with. -/
def Severity.marker : Severity → Text
  | .error => ['e']
  | .warning => ['w']

/-- A line that the Kotlin compiler may write. -/
def writeKotlin (marker path : Text) (line column : Int) (message : Text) : Text :=
  marker ++ ": " ++ path ++ ": (" ++ Text.ofInt line ++ ", " ++ Text.ofInt column ++ "): "
    ++ message

end GradleLint
