import GradleLint.Grammar
import GradleLint.Settings.Basic

/-!
# Build tasks and the build command

A source file is compiled by the task for its language and source set, unless the settings name
another task.  Compile tasks that are up to date do not report their warnings again, so a
document without known errors is built from clean.
-/

namespace GradleLint

/-- The task that removes what earlier builds have left. -/
def cleanTask : Text := "clean"

/-- The source sets that hold tests. -/
def testSourceSets : List Text := ["test", "androidTest", "testFixtures"]

/-- Whether some part is `src` and the next one names a test source set. -/
def hasTestSourceSet : List Text → Bool
  | a :: b :: r => (a == "src".toList && testSourceSets.contains b) || hasTestSourceSet (b :: r)
  | _ => false

/-- Whether a path lies in a test source set. -/
def Path.isTestSource (p : Path) : Bool := hasTestSourceSet p.parts

/-- The task that compiles files of a grammar, in the main or in a test source set. -/
def Grammar.task : Grammar → (test : Bool) → Text
  | .kotlin, false => "compileKotlin"
  | .kotlin, true => "compileTestKotlin"
  | .java, false => "compileJava"
  | .java, true => "compileTestJava"

/-- The task that the settings name for a grammar. -/
def Settings.taskFor (s : Settings) : Grammar → Option Text
  | .kotlin => s.kotlinTask
  | .java => s.javaTask

/-- The task that compiles a file; an empty task in the settings counts as none. -/
def compileTask (p : Path) (s : Settings) : Except UnsupportedFile Text := do
  let g ← Grammar.require p
  match s.taskFor g with
  | some (c :: task) => return c :: task
  | _ => return g.task p.isTestSource

/-- The tasks to run for a file. -/
def selectTasks (p : Path) (hasErrors : Bool) (s : Settings) :
    Except UnsupportedFile (List Text) := do
  let task ← compileTask p s
  return if !hasErrors && s.cleanWhenClean then [cleanTask, task] else [task]

/-- The command that runs tasks: executable, flags for the console, tasks, further flags. -/
def buildCommand (executable : Text) (tasks : List Text) (s : Settings) : List Text :=
  [executable] ++ (if s.quiet then ["--quiet".toList] else [])
    ++ (if s.plainConsole then ["--console".toList, "plain".toList] else [])
    ++ tasks ++ s.extraFlags

end GradleLint
