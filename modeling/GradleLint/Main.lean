import GradleLint.Cli.Situation

/-!
# The program

The arguments are those of the command line; the situation is described on standard input.  The
report goes to standard output, hints on usage and on failures that nobody handles to standard
error.
-/

open GradleLint

/-- How the program is called. -/
def usageHint : String :=
  "lint FILE [--root DIR] [--has-errors] [--flag TEXT]... [--no-emoji] [--no-color] [--debug]"

/-- Prints what is to be seen of an ending; the exit status. -/
def showEnding (e : Ending) : IO UInt32 := do
  match e with
  | .usage _ => IO.eprintln usageHint
  | .exit _ _ output => IO.print (String.ofList output)
  | .unhandled _ _ output =>
    IO.print (String.ofList output)
    IO.eprintln "the run broke off"
  return UInt32.ofNat e.status

/-- Runs the command line in the described situation. -/
def main (args : List String) : IO UInt32 := do
  let description ← (← IO.getStdin).readToEnd
  match Situation.ofText? description.toList with
  | none =>
    IO.eprintln "standard input describes no situation"
    return 2
  | some s =>
    let terminal ← (← IO.getStdout).isTty
    showEnding (s.world.runArguments (args.map String.toList) s.build terminal)
