import GradleLint.Text.Blank

/-!
# Severity of a diagnostic
-/

namespace GradleLint

/-- How grave a diagnostic is. -/
inductive Severity where
  | error
  | warning
deriving DecidableEq, Repr

namespace Severity

/-- The word that names a severity. -/
def word : Severity → Text
  | .error => "error"
  | .warning => "warning"

/-- The severity a word names. -/
def ofWord? (t : Text) : Option Severity :=
  if t = "error" then some .error else if t = "warning" then some .warning else none

/-- The severity of a compiler's marker: only `e`, blanks around it aside, is an error. -/
def ofMarker (marker : Text) : Severity := if marker.trim = ['e'] then .error else .warning

end Severity

end GradleLint
