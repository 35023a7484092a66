import GradleLint.Data.Shortest
import GradleLint.Data.Value
import GradleLint.Text.Quoted

/-!
# Data as text

The text of a datum: scalars by their words and numerals, lists in brackets and tables in braces.
A text stands for itself on its own and is quoted inside lists and tables.
-/

namespace GradleLint

mutual

/-- The text of a datum inside a list or a table. -/
def Value.inner : Value → Text
  | .null => "None"
  | .bool b => if b then "True" else "False"
  | .int n => Text.ofInt n
  | .float x => x.toText
  | .text t => Quoted.encode t
  | .moment => []
  | .list vs => "[" ++ Text.join ", " (innerAll vs) ++ "]"
  | .table es => "\x7b" ++ Text.join ", " (innerEntries es) ++ "\x7d"

/-- The texts of several data. -/
def innerAll : List Value → List Text
  | [] => []
  | v :: vs => v.inner :: innerAll vs

/-- The texts of names with their data. -/
def innerEntries : List (Text × Value) → List Text
  | [] => []
  | (k, v) :: es => (Quoted.encode k ++ ": " ++ v.inner) :: innerEntries es

end

/-- The text of a datum on its own. -/
def Value.display : Value → Text
  | .text t => t
  | v => v.inner

end GradleLint
