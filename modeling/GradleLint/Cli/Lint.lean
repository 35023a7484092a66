import GradleLint.Cli.Options
import GradleLint.Console.Report
import GradleLint.Controller.Session
import GradleLint.Project.Executable
import GradleLint.Project.Root
import GradleLint.Project.Tasks
import GradleLint.World.Document

/-!
# Linting one file from the command line

The file is made absolute, its grammar and its project are found, the settings of the project
are loaded, the build executable is located and the file is read; then the build is run once and
its outcome is reported.  A failure on the way is printed and ends the program with status two,
except for the few that nobody handles: those end it with status one and are not printed.  Nobody
handles a failure to make the file absolute, whatever it is.
-/

namespace GradleLint

/-- A failure to set up a run. -/
inductive SetupError where
  /-- The file cannot be made absolute. -/
  | file (e : PathError)
  /-- The root that is given cannot be made absolute, or the file cannot be read. -/
  | path (e : PathError)
  | unsupported (e : UnsupportedFile)
  | root (e : RootError)
  | settings (e : SettingsError)
  | tool (e : ToolError)
deriving DecidableEq, Repr

namespace SetupError

/-- What is said about a failure to set up a run. -/
def message : SetupError → Text
  | .file e => e.message
  | .path e => e.message
  | .unsupported e => e.message
  | .root e => e.message
  | .settings e => e.message
  | .tool e => e.message

/-- A failure that nobody handles. -/
inductive Unhandled where
  | path (e : PathError)
  | notUtf8
  | oversizedInteger (digits : Nat)
  /-- The build gives no request. -/
  | start (e : StartError)
deriving DecidableEq, Repr

/-- The unhandled failure among those of paths that are used once the file is absolute: any that the
operating system has no part in. -/
def unhandledPath? : PathError → Option Unhandled
  | .system _ => none
  | e => some (.path e)

/-- The unhandled failure among those of settings. -/
def unhandledSettings? : SettingsError → Option Unhandled
  | .path e => unhandledPath? e
  | .notUtf8 => some .notUtf8
  | .oversizedInteger digits => some (.oversizedInteger digits)
  | .unreadable _ _ => none
  | .malformed _ => none
  | .invalid _ _ => none

/-- The failure as one that nobody handles, if it is one: a file that cannot be made absolute, other
paths for which this fails without the operating system, and settings files with bytes that are not
UTF-8 or integers too long to convert. -/
def unhandled? : SetupError → Option Unhandled
  | .file e => some (.path e)
  | .path e => unhandledPath? e
  | .root (.path e) => unhandledPath? e
  | .tool (.path e) => unhandledPath? e
  | .settings e => unhandledSettings? e
  | .root (.settings e) => unhandledSettings? e
  | _ => none

end SetupError

/-- Everything a run needs. -/
structure Plan where
  document : Document
  grammar : Grammar
  root : Path
  settings : Settings
  command : List Text

/-- How messages are shown, and whether remarks for debugging are. -/
structure Presentation where
  display : Display
  debug : Bool

/-- How messages are shown before the settings are known. -/
def Presentation.ofOptions (o : LintOptions) (terminal : Bool) : Presentation :=
  ⟨⟨terminal, some !o.noColor, !o.noEmoji⟩, o.debug⟩

/-- How messages are shown once the settings are known. -/
def Presentation.refine (p : Presentation) (s : OutputSettings) : Presentation :=
  { display := { p.display with
      color := some (s.color && p.display.color.getD true), emoji := s.emoji && p.display.emoji }
    debug := p.debug || s.verbose }

/-- Finds the root of a run: the one given, or else the one that the file belongs to. -/
def World.chooseRoot (w : World) (o : LintOptions) (file : Path) : Except SetupError Path :=
  match o.root with
  | some root => (w.resolve (.ofText root)).mapError .path
  | none => ((w.discoverRoot file).mapError .root).map (·.1)

/-- The settings of a run: those of its root, with the flags of the command line added. -/
def World.chooseSettings (w : World) (o : LintOptions) (root : Path) : Except SetupError Settings :=
  ((w.loadSettings root []).mapError .settings).map fun s =>
    { s with extraFlags := s.extraFlags ++ o.flags }

/-- Finds the file of a run, its grammar, its root and its settings. -/
def World.locateRun (w : World) (o : LintOptions) :
    Except SetupError (Path × Grammar × Path × Settings) := do
  let file ← (w.expandHome (.ofText o.file)).mapError .file
  let file ← (w.resolve file).mapError .file
  let grammar ← (Grammar.require file).mapError .unsupported
  let root ← w.chooseRoot o file
  let settings ← w.chooseSettings o root
  return (file, grammar, root, settings)

/-- Finds the command of a run and reads the document. -/
def World.planRun (w : World) (o : LintOptions) (file : Path) (grammar : Grammar) (root : Path)
    (settings : Settings) : Except SetupError Plan := do
  let executable ← (w.buildExecutable root settings).mapError .tool
  let tasks ← (selectTasks file o.hasErrors settings).mapError .unsupported
  let document ← (w.loadDocument file []).mapError .path
  return { document, grammar, root, settings,
           command := buildCommand executable.toText tasks settings }

/-- What a build process will do: it cannot be started, or it ends with a status and some
output. -/
structure BuildScript where
  refusal : Option Refusal := none
  status : Int := 0
  output : Bytes := []

/-- Runs the build of a plan to its end; what happened, and the outcome if the start gives a
request. -/
def World.runPlan (w : World) (plan : Plan) (build : BuildScript) :
    List Occurrence × Except StartError Outcome :=
  let session : Session :=
    { world := w, environment := [], controller := { documents := [plan.document] } }
  let order := Call.start 0 plan.command plan.root (some plan.grammar) none .delivered build.refusal
  match session.perform order with
  | (_, first, .complaint (.start e)) => (first, .error e)
  | (session, first, _) =>
    let (session, second, _) := session.perform (.finishAndDrain 0 build.status build.output)
    let outcome := match session.controller.progress? 0 with
      | some (.resolved o) => o
      | _ => .superseded none
    (first ++ second, .ok outcome)

/-- How the program ends. -/
inductive Ending where
  /-- It explains itself. -/
  | usage (u : Usage)
  /-- It has run: what happened, the exit status, and what was printed. -/
  | exit (occurrences : List Occurrence) (status : Nat) (output : Text)
  /-- It breaks off: what happened, why, and what was printed before. -/
  | unhandled (occurrences : List Occurrence) (u : SetupError.Unhandled) (output : Text)

/-- The exit status of the program. -/
def Ending.status : Ending → Nat
  | .usage u => u.status
  | .exit _ status _ => status
  | .unhandled _ _ _ => 1

/-- Ends the program after a failure. -/
def SetupError.ending (e : SetupError) (p : Presentation) : Ending :=
  match e.unhandled? with
  | some u => .unhandled [] u []
  | none => .exit [] 2 (p.display.say .fail e.message)

/-- Runs a plan and reports the outcome. -/
def World.lintPlan (w : World) (plan : Plan) (build : BuildScript) (p : Presentation) : Ending :=
  let remark : Text :=
    if p.debug then
      p.display.sayDebug <|
        "root=" ++ plan.root.toText ++ " command=" ++ Text.join [' '] plan.command
    else []
  match w.runPlan plan build with
  | (occurrences, .error e) => .unhandled occurrences (.start e) remark
  | (occurrences, .ok outcome) =>
    match p.display.report? plan.document outcome with
    | some (status, report) => .exit occurrences status (remark ++ report)
    | none => .exit occurrences 2 (remark ++ p.display.say .fail supersededMessage)

/-- Lints one file. -/
def World.lint (w : World) (o : LintOptions) (build : BuildScript) (terminal : Bool) : Ending :=
  let p := Presentation.ofOptions o terminal
  match w.locateRun o with
  | .error e => e.ending p
  | .ok (file, grammar, root, settings) =>
    let p := p.refine settings.output
    match w.planRun o file grammar root settings with
    | .error e => e.ending p
    | .ok plan => w.lintPlan plan build p

/-- Runs the program with the given arguments. -/
def World.runArguments (w : World) (args : List Text) (build : BuildScript) (terminal : Bool) :
    Ending :=
  match LintOptions.ofCommandLine args with
  | .error u => .usage u
  | .ok o => w.lint o build terminal

end GradleLint
