import GradleLint.Build.Exit
import GradleLint.Diagnostic

/-!
# Outcomes of a lint run
-/

namespace GradleLint

/-- What a lint run comes to. -/
inductive Outcome where
  /-- The build was clean. -/
  | noIssues
  /-- The build reported problems: as written, and anchored to the document. -/
  | issues (records : List Record) (diagnostics : List Diagnostic)
  /-- The build tool itself failed. -/
  | toolError (description : Text)
  /-- A newer run has taken the place of this one. -/
  | superseded (pid : Option Int)
deriving DecidableEq, Repr

/-- The kinds of outcomes. -/
inductive OutcomeKind where
  | noIssues
  | issues
  | toolError
  | superseded
deriving DecidableEq, Repr

namespace OutcomeKind

/-- The word that names a kind. -/
def word : OutcomeKind → Text
  | noIssues => "no-issues"
  | issues => "issues"
  | toolError => "tool-error"
  | superseded => "superseded"

/-- The kind a word names. -/
def ofWord? (t : Text) : Option OutcomeKind :=
  if t = noIssues.word then some noIssues
  else if t = issues.word then some issues
  else if t = toolError.word then some toolError
  else if t = superseded.word then some superseded
  else none

end OutcomeKind

/-- The kind of an outcome. -/
def Outcome.kind : Outcome → OutcomeKind
  | .noIssues => .noIssues
  | .issues _ _ => .issues
  | .toolError _ => .toolError
  | .superseded _ => .superseded

end GradleLint
