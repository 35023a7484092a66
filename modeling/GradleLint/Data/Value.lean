import GradleLint.Data.Binary64
import GradleLint.Text.Basic

/-!
# Untyped data

`Value` is the data of a settings file, or of a message whose form is not checked yet: scalars,
lists, and tables from names to values.  Tables keep the order in which their names came.
`Table.put` replaces the value of a known name in place.
-/

namespace GradleLint

/-- A datum whose form is not checked yet. -/
inductive Value where
  | null
  | bool (b : Bool)
  | int (n : Int)
  | float (x : Binary64)
  | text (t : Text)
  /-- A date, a time of day, or both; which one is not kept. -/
  | moment
  | list (items : List Value)
  | table (entries : List (Text × Value))

/-- Names with their values, in the order in which the names came. -/
abbrev Table := List (Text × Value)

namespace Table

/-- The value of a name. -/
def get? : Table → Text → Option Value
  | [], _ => none
  | (k, v) :: es, name => if k = name then some v else get? es name

/-- Gives a name a value, in the place of the value it has or else at the end. -/
def put : Table → Text → Value → Table
  | [], name, value => [(name, value)]
  | (k, v) :: es, name, value =>
    if k = name then (k, value) :: es else (k, v) :: put es name value

/-- The names of a table in order. -/
def names (t : Table) : List Text := t.map (·.1)

end Table

end GradleLint
