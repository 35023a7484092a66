import GradleLint.Controller.State

/-!
# The steps of the controller

Each step takes a state to the next one and says what happens to the outside on the way.

Starting a run for an identity displaces the process that is current for it: the process leaves
the registry and is killed unless it has ended.  What comes of the kill is written to the log and
changes nothing else.  When a process has ended, it is completed: it is current exactly when the
registry still names it for its document's identity, and only then do its status and output
decide the outcome and the callback is called.  A completion is in two steps, before and after
the callback, because the callback may itself take steps in between.

A start that fails because no process can be started resolves its request at once; its callback
is left in `undelivered`, to be called later.
-/

namespace GradleLint

/-- Why a start raises a complaint instead of giving a request. -/
inductive StartError where
  | unsupported (e : UnsupportedFile)
  /-- The command has no arguments. -/
  | emptyCommand
  /-- No process can have the arguments, the directory or the environment. -/
  | unfit (message : Text)
deriving DecidableEq, Repr

/-- What is said about a start that gives no request. -/
def StartError.message : StartError → Text
  | .unsupported e => e.message
  | .emptyCommand => CommandError.empty.message
  | .unfit message => message

/-- An order to lint a document: the command and the process it asks for, what there will be
against that process, what will come of killing it, the output grammar if it is given, and
whether there is a callback. -/
structure Order where
  document : Nat
  command : List Text
  launch : Except CommandError Launch
  refusal : Option Refusal
  kill : KillReply
  grammar : Option Grammar
  callback : Bool

namespace Controller

/-! ## Displacing a process -/

/-- Kills the process group of a process, unless the process has ended.  That the group has
already gone is no failure. -/
def killProcess (pid : Nat) (ended : Bool) (reply : KillReply) :
    List Event × Option SystemError :=
  if ended then ([], none)
  else
    ([.killed pid], match reply with
      | .refused e => some e
      | _ => none)

/-- What happens to the outside when a process is displaced. -/
def displaceEvents (p : Nat) (proc : Process) (identity : Text) : List Event :=
  let (events, failure) := killProcess (pidOf p) proc.ended.isSome proc.kill
  .logged (.superseding (pidOf p) identity) :: events
    ++ (failure.map fun e => .logged (.killFailed (pidOf p) e)).toList

/-- Displaces the current process of an identity; whether there was one. -/
def displace (s : Controller) (identity : Text) : Controller × List Event × Bool :=
  match s.current? identity with
  | none => (s, [], false)
  | some p =>
    let events := match s.processes[p]? with
      | none => []
      | some proc => displaceEvents p proc identity
    (s.deregister identity, events, true)

/-- Displaces the current processes of several identities in order. -/
def displaceAll (s : Controller) : List Text → Controller × List Event
  | [] => (s, [])
  | identity :: rest =>
    let (s, events, _) := s.displace identity
    let (s, more) := s.displaceAll rest
    (s, events ++ more)

/-- Displaces every current process. -/
def shutdown (s : Controller) : Controller × List Event := s.displaceAll (s.registry.map (·.1))

/-! ## Starting -/

/-- Resolves the request of a start that failed. -/
def refuseStart (s : Controller) (o : Order) (identity : Text) (g : Grammar) (reason : Text) :
    Controller × List Event :=
  let failure := Outcome.toolError <|
    "Failed to start build tool `" ++ o.command.headD [] ++ "`: " ++ reason
  let r := s.requests.length
  let request : Request :=
    { identity, grammar := g, process := none, callback := o.callback,
      progress := .resolved failure }
  ({ s with
      requests := s.requests ++ [request]
      undelivered := if o.callback then s.undelivered ++ [r] else s.undelivered },
    [.logged (.startFailed identity reason), .resolved r failure])

/-- Enters a process that was started. -/
def acceptStart (s : Controller) (o : Order) (identity : Text) (g : Grammar) (l : Launch) :
    Controller × List Event :=
  let p := s.processes.length
  let request : Request :=
    { identity, grammar := g, process := some p, callback := o.callback }
  let process : Process :=
    { document := o.document, request := s.requests.length, args := l.args, kill := o.kill }
  let s := { s with requests := s.requests ++ [request], processes := s.processes ++ [process] }
  (s.register identity p, [.logged (.started (pidOf p) identity l.args)])

/-- Starts a run for a document that the order's number names.  On success the new request is the
last one. -/
def start (s : Controller) (o : Order) (doc : Document) :
    Controller × List Event × Except StartError Unit :=
  match Grammar.choose o.grammar doc.path with
  | .error e => (s, [], .error (.unsupported e))
  | .ok g =>
    let (s, events, _) := s.displace doc.identity
    match o.launch with
    | .error .empty => (s, events, .error .emptyCommand)
    | .error e =>
      let (s, more) := s.refuseStart o doc.identity g e.message
      (s, events ++ more, .ok ())
    | .ok l =>
      let events := events ++ [Event.launched l]
      match o.refusal with
      | some (.unfit message) => (s, events, .error (.unfit message))
      | some (.system e) =>
        let (s, more) := s.refuseStart o doc.identity g e.message
        (s, events ++ more, .ok ())
      | none =>
        let (s, more) := s.acceptStart o doc.identity g l
        (s, events ++ more, .ok ())

/-! ## The end of a process -/

/-- A process ends with a status and some output, which nobody has read yet.  Of several ends the
last one counts; once the end has been dealt with only its status shows. -/
def finish (s : Controller) (p : Nat) (status : Int) (output : Text) : Controller :=
  s.updateProcess p fun proc => { proc with ended := some (status, output) }

/-- Drops the output of a process whose end has been dealt with. -/
def release (s : Controller) (p : Nat) : Controller :=
  s.updateProcess p fun proc => { proc with capture := .released }

/-- The outcome of an ended process for its document. -/
def outcomeOf (proc : Process) (pid : Nat) (request : Request) (doc : Document) (status : Int)
    (output : Text) (current : Bool) : Outcome :=
  let exit : Exit := ⟨some pid, proc.args, status⟩
  (classify exit output doc.path (some request.grammar) current).anchor doc.content

/-- Deals with the end of a process up to the call of the callback; the callback's request and
the outcome are given when there is somebody to call.  Nothing happens unless the process has
ended and its end has not been dealt with. -/
def complete (s : Controller) (p : Nat) :
    Controller × List Event × Option (Nat × Outcome) :=
  match s.processes[p]? with
  | none => (s, [], none)
  | some proc =>
    match proc.ended, proc.settled, s.requests[proc.request]?, s.documents[proc.document]? with
    | some (status, output), false, some request, some doc =>
      let current := s.isCurrent p
      let o := outcomeOf proc (pidOf p) request doc status output current
      let r := proc.request
      let s := s.updateProcess p fun proc =>
        { proc with capture := (proc.capture.append output).toOption.getD proc.capture
                    settled := true }
      let s := s.updateRequest r fun request => { request with progress := .resolved o }
      if current then
        let s := s.deregister doc.identity
        if request.callback then
          (s, [.resolved r o, .delivered r o], some (r, o))
        else (s.release p, [.resolved r o], none)
      else
        (s.release p, [.resolved r o, .logged (.discarding (pidOf p) doc.identity)], none)
    | _, _, _, _ => (s, [], none)

/-- Takes a process out of the registry if it is current for its document. -/
def abandon (s : Controller) (p : Nat) : Controller :=
  if s.isCurrent p then
    match s.processes[p]? with
    | none => s
    | some proc =>
      match s.documents[proc.document]? with
      | none => s
      | some doc => s.deregister doc.identity
  else s

/-- Ends a completion after its callback has returned, or failed with the given words. -/
def conclude (s : Controller) (p : Nat) (failure : Option Text) : Controller × List Event :=
  match failure with
  | none => (s.release p, [])
  | some message => ((s.release p).abandon p, [.crashed (.callback message)])

/-- Deals with a failure to wait for a process. -/
def failWait (s : Controller) (p : Nat) (e : SystemError) : Controller × List Event :=
  match s.processes[p]? with
  | none => (s, [])
  | some proc =>
    if proc.settled then (s, [])
    else
      let s := (s.release p).abandon p
      let s := s.updateProcess p fun proc => { proc with settled := true }
      match s.progress? proc.request with
      | some .pending =>
        (s.updateRequest proc.request fun r => { r with progress := .failed e },
          [.failed proc.request e, .crashed (.system e)])
      | _ => (s, [.crashed (.system e)])

/-! ## The callback of a failed start -/

/-- Calls the callback of a request whose start failed, once. -/
def deliver (s : Controller) (r : Nat) : Controller × List Event × Option (Nat × Outcome) :=
  if r ∈ s.undelivered then
    let s' := { s with undelivered := s.undelivered.erase r }
    match s.progress? r with
    | some (.resolved o) => (s', [.delivered r o], some (r, o))
    | _ => (s', [], none)
  else (s, [], none)

end Controller

end GradleLint
