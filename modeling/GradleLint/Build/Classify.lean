import GradleLint.Build.Outcome
import GradleLint.Output.Records
import GradleLint.Position
import GradleLint.Text.Line

/-!
# From a finished process to an outcome

A process that is no longer current is superseded, whatever it did.  Otherwise status zero means
a clean build, status one a build with problems, and any other status a failure of the tool,
which is described by how the process ended and by the tail of its output.
-/

namespace GradleLint

/-- How many lines of output a failure report shows. -/
def tailLength : Nat := 5

/-- The last lines of the output that hold more than blanks. -/
def outputTail (output : Text) : Text :=
  let inked := output.lines.filter Text.isInked
  Text.join ['\n'] (inked.drop (inked.length - tailLength))

/-- How a failed build tool is described. -/
def describeFailure (e : Exit) (output : Text) : Text :=
  let ending : Text :=
    if e.signalled then "was terminated by signal " ++ e.signal
    else "exited abnormally with status " ++ Text.ofInt e.status
  let description := "Build tool (" ++ e.describe ++ ") " ++ ending
  let tail := outputTail output
  if tail.isEmpty then description else description ++ ":\n" ++ tail

/-- The outcome of a finished process for the file at `path`; records are not anchored yet. -/
def classify (e : Exit) (output : Text) (path : Path) (grammar : Option Grammar)
    (current : Bool) : Outcome :=
  if !current then .superseded e.pid
  else if e.status = 0 then .noIssues
  else if e.status = 1 then .issues (recordsFor path grammar output) []
  else .toolError (describeFailure e output)

/-- Anchors the records of an outcome to the text of the document. -/
def Outcome.anchor (text : Text) : Outcome → Outcome
  | .issues records _ => .issues records (records.map (Record.anchor text))
  | o => o

end GradleLint
