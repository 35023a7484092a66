import GradleLint.Text.Basic

/-!
# Finished processes

What is known of a build process that has ended, and how it is named in reports.  A negative
status is the negated number of the signal that ended the process.
-/

namespace GradleLint

/-- The names of the signals from 1 on, in order. -/
def signalNames : List Text := [
  "SIGHUP", "SIGINT", "SIGQUIT", "SIGILL", "SIGTRAP", "SIGABRT", "SIGBUS", "SIGFPE", "SIGKILL",
  "SIGUSR1", "SIGSEGV", "SIGUSR2", "SIGPIPE", "SIGALRM", "SIGTERM", "SIGSTKFLT", "SIGCHLD",
  "SIGCONT", "SIGSTOP", "SIGTSTP", "SIGTTIN", "SIGTTOU", "SIGURG", "SIGXCPU", "SIGXFSZ",
  "SIGVTALRM", "SIGPROF", "SIGWINCH", "SIGIO", "SIGPWR", "SIGSYS"]

/-- The name of a signal, if it has one.  Of the real-time signals only the first and the last
have. -/
def signalName? : Int → Option Text
  | .ofNat 34 => some "SIGRTMIN"
  | .ofNat 64 => some "SIGRTMAX"
  | .ofNat (n + 1) => signalNames[n]?
  | _ => none

/-- How a build process ended. -/
structure Exit where
  pid : Option Int
  args : List Text
  status : Int
deriving DecidableEq, Repr

namespace Exit

/-- The name of the program that ran: what follows the last slash or backslash of the first
argument. -/
def program (e : Exit) : Text :=
  match e.args with
  | [] => "<unknown>"
  | a :: _ => (Text.fields '/' (a.map fun c => if c = '\\' then '/' else c)).getLast?.getD []

/-- Whether a signal ended the process. -/
def signalled (e : Exit) : Bool := e.status < 0

/-- The name of the signal that ended the process, or its number. -/
def signal (e : Exit) : Text :=
  (signalName? (-e.status)).getD ("signal " ++ Text.ofInt (-e.status))

/-- The process as reports name it. -/
def describe (e : Exit) : Text :=
  let pid : Text := match e.pid with
    | none => ['?']
    | some n => Text.ofInt n
  "pid " ++ pid ++ ", `" ++ e.program ++ "`"

end Exit

end GradleLint
