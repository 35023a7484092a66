import GradleLint.Text.Basic

/-!
# Arguments of the command line

The program has one command, `lint`, with a file to lint and options before, between or behind.
An option with a value takes the next argument, whatever it is, or what follows an equals sign;
two hyphens alone end the options; a single hyphen is no option.  Anything that does not fit is
answered by a hint on usage, as is a request for help, which takes effect once all options have
been read.  A path that holds a null character does not fit.
-/

namespace GradleLint

/-- What `lint` is asked to do. -/
structure LintOptions where
  file : Text
  root : Option Text := none
  flags : List Text := []
  hasErrors : Bool := false
  noEmoji : Bool := false
  noColor : Bool := false
  debug : Bool := false
deriving DecidableEq, Repr

/-- Why the program has nothing to do but to explain itself. -/
inductive Usage where
  /-- Help was asked for. -/
  | help
  /-- There are no arguments at all. -/
  | nothingAsked
  /-- The arguments do not fit. -/
  | misuse
deriving DecidableEq, Repr

/-- The exit status when the program explains itself. -/
def Usage.status : Usage → Nat
  | .help => 0
  | .nothingAsked => 2
  | .misuse => 2

namespace LintOptions

/-- Options and positional arguments read so far. -/
structure Reading where
  options : LintOptions := { file := [] }
  help : Bool := false
  positional : List Text := []

/-- An option that takes no value. -/
def Reading.setSwitch (p : Reading) (name : Text) : Option Reading :=
  if name = "--has-errors" then some { p with options.hasErrors := true }
  else if name = "--no-emoji" then some { p with options.noEmoji := true }
  else if name = "--no-color" then some { p with options.noColor := true }
  else if name = "--debug" then some { p with options.debug := true }
  else if name = "--help" then some { p with help := true }
  else none

/-- An option that takes a value. -/
def Reading.setValue (p : Reading) (name value : Text) : Option Reading :=
  if name = "--root" then some { p with options.root := some value }
  else if name = "--flag" then some { p with options.flags := p.options.flags ++ [value] }
  else none

/-- Whether an option takes a value. -/
def takesValue (name : Text) : Bool := name = "--root".toList ∨ name = "--flag".toList

/-- Whether an argument stands for an option. -/
def isOption (arg : Text) : Bool := arg.head? == some '-' && 1 < arg.length

/-- The name of an option, and the value behind the first equals sign if there is one. -/
def splitOption (arg : Text) : Text × Option Text :=
  (arg.takeWhile (· != '='), if arg.contains '=' then some ((arg.dropWhile (· != '=')).drop 1)
    else none)

/-- Reads the arguments of `lint`. -/
def Reading.read (p : Reading) : List Text → Option Reading
  | [] => some p
  | arg :: rest =>
    if arg = "--" then some { p with positional := p.positional ++ rest }
    else if !isOption arg then Reading.read { p with positional := p.positional ++ [arg] } rest
    else
      match splitOption arg with
      | (name, some value) => (p.setValue name value).bind fun p => p.read rest
      | (name, none) =>
        if takesValue name then
          match rest with
          | [] => none
          | value :: rest => (p.setValue name value).bind fun p => p.read rest
        else (p.setSwitch name).bind fun p => p.read rest

/-- Whether an argument can name a file. -/
def isPath (arg : Text) : Bool := !arg.contains '\x00'

/-- What the arguments behind the word `lint` ask for. -/
def ofArguments (args : List Text) : Except Usage LintOptions :=
  match Reading.read {} args with
  | none => .error .misuse
  | some p =>
    if p.help then .error .help
    else
      match p.positional with
      | [file] =>
        if isPath file && p.options.root.all isPath then .ok { p.options with file }
        else .error .misuse
      | _ => .error .misuse

/-- Reads what stands in front of the command, where only requests for help may stand, and two
hyphens behind them; gives whether help was asked for, and the arguments from the command on. -/
def readFront (help : Bool) : List Text → Option (Bool × List Text)
  | [] => some (help, [])
  | arg :: rest =>
    if arg = "--help" then readFront true rest
    else if arg = "--" then some (help, rest)
    else if isOption arg then none
    else some (help, arg :: rest)

/-- What all arguments of the program ask for.  When two hyphens are followed by what looks like an
option instead of the command, the arguments from there on may still ask for help. -/
def ofCommandLine (args : List Text) : Except Usage LintOptions :=
  if args.isEmpty then .error .nothingAsked
  else
    match readFront false args with
    | some (true, _) => .error .help
    | some (false, command :: rest) =>
      if command = "lint" then ofArguments rest
      else if isOption command then
        match readFront false (command :: rest) with
        | some (true, _) => .error .help
        | _ => .error .misuse
      else .error .misuse
    | _ => .error .misuse

end LintOptions

end GradleLint
