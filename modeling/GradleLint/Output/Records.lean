import GradleLint.Output.Line
import GradleLint.Document

/-!
# Records in build output

The output is cut into lines at line feeds only, one carriage return at the end of a line not
counting.  Of these lines the ones that contain the document's file name and can be read give a
record each, in order; all others are passed over.
-/

namespace GradleLint

/-- The record of one line, when the line names the file and can be read. -/
def Grammar.recordOf? (g : Grammar) (name line : Text) : Option Record :=
  let line := line.dropCarriageReturn
  if Text.includes name line then (g.readLine line).toOption else none

/-- The records that the output holds for the file called `name`. -/
def Grammar.records (g : Grammar) (name output : Text) : List Record :=
  (output.fields '\n').filterMap (g.recordOf? name)

/-- The records that the output holds for the file at `path`, by the given grammar or else by
the one of the file; none when there is no grammar. -/
def recordsFor (path : Path) (grammar : Option Grammar) (output : Text) : List Record :=
  match grammar.or (Grammar.ofPath? path) with
  | none => []
  | some g => g.records path.name output

end GradleLint
