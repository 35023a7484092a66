import GradleLint.Build.Outcome
import GradleLint.Console.Message
import GradleLint.Document

/-!
# Reporting an outcome

The report of an outcome is a printed text and an exit status: zero for a clean build, one for
issues, two for a failure of the build tool.  A superseded run has nothing to report.
-/

namespace GradleLint

/-- What is said about a run that has nothing to report. -/
def supersededMessage : Text := "Build run was superseded before completing"

/-- Where a diagnostic is, as it is printed. -/
def Diagnostic.location (path : Path) (d : Diagnostic) : Text :=
  path.toText ++ ":" ++ Text.ofInt d.line ++ ":" ++ Text.ofInt d.column

/-- The exit status and the printed text for an outcome; nothing for a superseded run. -/
def Display.report? (display : Display) (doc : Document) : Outcome → Option (Nat × Text)
  | .noIssues => some (0, display.say .ok ("No build diagnostics for " ++ doc.path.name))
  | .issues _ diagnostics =>
    let entries := diagnostics.flatMap fun d =>
      display.sayDiagnostic (d.location doc.path) d.severity d.message
    let summary := display.say .warn <|
      Text.ofNat diagnostics.length ++ " diagnostic(s) reported for " ++ doc.path.name
    some (1, entries ++ summary)
  | .toolError description => some (2, display.say .fail description)
  | .superseded _ => none

end GradleLint
