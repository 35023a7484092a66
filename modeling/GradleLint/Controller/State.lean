import GradleLint.Build.Classify
import GradleLint.Build.Launch
import GradleLint.Controller.Capture

/-!
# The state of the controller

The controller owns at most one current build process per document identity, in `registry`.
Processes and requests are numbered from zero in the order of their start; they are kept for
good, a process also after it was displaced, because its end is still to be reported.  What
happens to the outside is recorded as a list of events.
-/

namespace GradleLint

/-- The pid of the first process. -/
def firstPid : Nat := 1001

/-- A build process that was started. -/
structure Process where
  /-- The number of the document it was started for. -/
  document : Nat
  /-- The number of the request it serves. -/
  request : Nat
  args : List Text
  /-- What comes of an attempt to kill it. -/
  kill : KillReply
  capture : Capture := .empty
  /-- The exit status and the output still to be read, once the process has ended. -/
  ended : Option (Int × Text) := none
  /-- Whether its end, or the failure to wait for it, has been dealt with. -/
  settled : Bool := false
deriving DecidableEq, Repr

/-- Where a request stands. -/
inductive Progress where
  | pending
  | resolved (o : Outcome)
  /-- Waiting for the process failed. -/
  | failed (e : SystemError)
deriving DecidableEq, Repr

/-- A request to lint a document. -/
structure Request where
  identity : Text
  grammar : Grammar
  /-- The number of its process, if one was started. -/
  process : Option Nat
  /-- Whether somebody is to be called back with the outcome. -/
  callback : Bool
  progress : Progress := .pending
deriving DecidableEq, Repr

/-- What the controller writes into its log. -/
inductive LogEntry where
  | superseding (pid : Nat) (identity : Text)
  | killFailed (pid : Nat) (e : SystemError)
  | startFailed (identity reason : Text)
  | started (pid : Nat) (identity : Text) (args : List Text)
  | discarding (pid : Nat) (identity : Text)
deriving DecidableEq, Repr

/-- The text of a log entry. -/
def LogEntry.message : LogEntry → Text
  | .superseding pid id => "superseding build pid=" ++ Text.ofNat pid ++ " for " ++ id
  | .killFailed pid e => "could not terminate build pid=" ++ Text.ofNat pid ++ ": " ++ e.message
  | .startFailed id reason => "spawn failed for " ++ id ++ ": " ++ reason
  | .started pid id args =>
    "started build pid=" ++ Text.ofNat pid ++ " for " ++ id ++ ": " ++ Quoted.encodeList args
  | .discarding pid id =>
    "discarding superseded build pid=" ++ Text.ofNat pid ++ " for " ++ id

/-- What ends a thread of the controller early. -/
inductive Crash where
  | system (e : SystemError)
  /-- A callback failed with the given words. -/
  | callback (message : Text)
deriving DecidableEq, Repr

/-- What the controller does to the outside. -/
inductive Event where
  /-- A process is about to be started. -/
  | launched (l : Launch)
  /-- The process group of a process is killed. -/
  | killed (pid : Nat)
  | logged (entry : LogEntry)
  /-- A request gets its outcome. -/
  | resolved (request : Nat) (o : Outcome)
  /-- A request fails together with the wait for its process. -/
  | failed (request : Nat) (e : SystemError)
  /-- The callback of a request is called. -/
  | delivered (request : Nat) (o : Outcome)
  /-- A thread of the controller ends early. -/
  | crashed (c : Crash)
deriving DecidableEq, Repr

/-- Documents, requests and processes by their numbers, the number of the current process of
each identity, and the requests whose failed start is still to be reported. -/
structure Controller where
  documents : List Document
  requests : List Request := []
  processes : List Process := []
  registry : List (Text × Nat) := []
  undelivered : List Nat := []
deriving DecidableEq, Repr

namespace Controller

/-- The pid of a process. -/
def pidOf (p : Nat) : Nat := firstPid + p

/-- The number of the current process of an identity. -/
def current? (s : Controller) (identity : Text) : Option Nat := s.registry.lookup identity

/-- Takes the current process of an identity out of the registry. -/
def deregister (s : Controller) (identity : Text) : Controller :=
  { s with registry := s.registry.filter (·.1 ≠ identity) }

/-- Makes a process the current one of an identity that has none. -/
def register (s : Controller) (identity : Text) (p : Nat) : Controller :=
  { s with registry := s.registry ++ [(identity, p)] }

/-- Changes a process. -/
def updateProcess (s : Controller) (p : Nat) (f : Process → Process) : Controller :=
  { s with processes := s.processes.modify p f }

/-- Changes a request. -/
def updateRequest (s : Controller) (r : Nat) (f : Request → Request) : Controller :=
  { s with requests := s.requests.modify r f }

/-- Changes a document. -/
def updateDocument (s : Controller) (d : Nat) (f : Document → Document) : Controller :=
  { s with documents := s.documents.modify d f }

/-- Where a request stands. -/
def progress? (s : Controller) (r : Nat) : Option Progress := (s.requests[r]?).map (·.progress)

/-- Whether a process is the current one of the identity that its document has now. -/
def isCurrent (s : Controller) (p : Nat) : Bool :=
  match s.processes[p]? with
  | none => false
  | some proc =>
    match s.documents[proc.document]? with
    | none => false
    | some doc => s.current? doc.identity == some p

end Controller

end GradleLint
