import GradleLint.Controller.Step
import GradleLint.Data.Validated

/-!
# Sessions

A session drives one controller by calls: requests to lint, cancellations, edits, questions, and
the ends of processes.  A callback is itself a list of calls, which are made when the callback
runs.

The controller is held while a completion and its callback run, so a process that ends in such a
callback is only noted as ended; `Session.call` makes a call under this rule.  The callback of a
failed start does not hold the controller: its calls have the same effect as calls from outside,
which `Session.advance` makes.  `Session.perform` makes a call from outside and then delivers the
failed starts it leaves, oldest first.
-/

namespace GradleLint

/-- A call on the controller. -/
inductive Call where
  /-- Lint a document: the command and where it runs, the output grammar if it is given, the
  callback if there is one, what comes of killing the new process, and what there is against
  it. -/
  | start (document : Nat) (command : List Text) (dir : Path) (grammar : Option Grammar)
      (callback : Option (List Call)) (kill : KillReply) (refusal : Option Refusal)
  | cancel (document : Nat)
  | shutdown
  /-- Ask for the current process of a document. -/
  | running (document : Nat)
  | update (document : Nat) (content : Text)
  | rename (document : Nat) (path : Path)
  | identify (document : Nat) (identity : Text)
  /-- Ask for the outcome of a request. -/
  | result (request : Nat)
  /-- Ask for the output captured for a request. -/
  | buffer (request : Nat)
  /-- Ask how the process of a request ended. -/
  | exitInfo (request : Nat)
  /-- A process ends with a status and some output. -/
  | finish (process : Nat) (status : Int) (output : Bytes)
  /-- A process ends, and its end is dealt with at once. -/
  | finishAndDrain (process : Nat) (status : Int) (output : Bytes)
  /-- The end of a process is dealt with. -/
  | drain (process : Nat)
  /-- Waiting for a process fails. -/
  | failWait (process : Nat) (e : SystemError)
  /-- The callback fails. -/
  | raise (message : Text)

/-- Why a call is answered by a complaint. -/
inductive CallError where
  /-- There is no document, request or process of that number. -/
  | noSuchNumber
  /-- The request has no process whose output could be captured. -/
  | noCapture
  /-- The request has no process that could end. -/
  | noExit
  | start (e : StartError)
  | capture (e : CaptureError)
  | invalid (issues : List Issue)
  /-- The request failed. -/
  | system (e : SystemError)
deriving DecidableEq, Repr

/-- What a call answers. -/
inductive Answer where
  | done
  | bool (b : Bool)
  | version (n : Int)
  /-- A request was made: its number, the identity and the grammar it is for, the pid of its
  process if there is one, and whether it is resolved already. -/
  | requested (request : Nat) (identity : Text) (grammar : Grammar) (pid : Option Nat)
      (resolved : Bool)
  /-- A process: its pid, its request, and whether its output has been dropped. -/
  | process (pid request : Nat) (released : Bool)
  | nothing
  | pending
  | outcome (o : Outcome)
  | captured (released : Bool) (t : Text)
  | exit (e : Exit)
  | complaint (e : CallError)
deriving DecidableEq, Repr

/-- What a session shows: events of the controller, and the answers to the calls of
callbacks. -/
inductive Occurrence where
  | event (e : Event)
  | answered (a : Answer)
deriving DecidableEq, Repr

/-- A controller in its world, with the environment that it gives to processes and the callbacks
by the number of their request. -/
structure Session where
  world : World
  environment : List (Text × Text)
  controller : Controller
  callbacks : List (Option (List Call)) := []

namespace Session

/-- Changes a document, if there is one of that number. -/
def withDocument (s : Session) (d : Nat) (f : Document → Document) (answer : Document → Answer) :
    Session × List Event × Answer :=
  match s.controller.documents[d]? with
  | none => (s, [], .complaint .noSuchNumber)
  | some doc => ({ s with controller := s.controller.updateDocument d f }, [], answer (f doc))

/-- Answers a question about the process of a request; without a process the answer is the
complaint `missing`. -/
def askProcess (s : Session) (r : Nat) (missing : CallError) (answer : Nat → Process → Answer) :
    Answer :=
  match s.controller.requests[r]? with
  | none => .complaint .noSuchNumber
  | some request =>
    match request.process with
    | none => .complaint missing
    | some p =>
      match s.controller.processes[p]? with
      | none => .complaint missing
      | some proc => answer p proc

/-- What is known of the end of a process; that it has a status is an assumption. -/
def exitAnswer (p : Nat) (proc : Process) : Answer :=
  match proc.ended with
  | none => .complaint (.invalid [⟨[.field "returncode"], .notInt⟩])
  | some (status, _) => .exit ⟨some (Controller.pidOf p), proc.args, status⟩

/-- Starts a run and remembers its callback. -/
def start (s : Session) (o : Order) (callback : Option (List Call)) :
    Session × List Event × Answer :=
  match s.controller.documents[o.document]? with
  | none => (s, [], .complaint .noSuchNumber)
  | some doc =>
    match s.controller.start o doc with
    | (c, events, .error e) => ({ s with controller := c }, events, .complaint (.start e))
    | (c, events, .ok ()) =>
      let r := s.controller.requests.length
      let answer := match c.requests[r]? with
        | none => .nothing
        | some request =>
          .requested r request.identity request.grammar (request.process.map Controller.pidOf)
            (request.progress != .pending)
      ({ s with controller := c, callbacks := s.callbacks ++ [callback] }, events, answer)

/-- Notes the end of a process. -/
def finish (s : Session) (p : Nat) (status : Int) (output : Bytes) :
    Session × List Event × Answer :=
  if p < s.controller.processes.length then
    ({ s with controller := s.controller.finish p status (Utf8.readText output) }, [], .done)
  else (s, [], .complaint .noSuchNumber)

/-- The answer to a call that waits for a process while the controller is held, and does
nothing. -/
def waitAnswer (s : Session) (p : Nat) : Answer :=
  if p < s.controller.processes.length then .done else .complaint .noSuchNumber

/-- Makes one call while the controller is held. -/
def call (s : Session) : Call → Session × List Event × Answer
  | .start document command dir grammar callback kill refusal =>
    s.start
      { document, command, launch := s.world.launch command dir s.environment, refusal, kill,
        grammar, callback := callback.isSome } callback
  | .cancel d =>
    match s.controller.documents[d]? with
    | none => (s, [], .complaint .noSuchNumber)
    | some doc =>
      let (c, events, found) := s.controller.displace doc.identity
      ({ s with controller := c }, events, .bool found)
  | .shutdown =>
    let (c, events) := s.controller.shutdown
    ({ s with controller := c }, events, .done)
  | .running d =>
    let answer := match s.controller.documents[d]? with
      | none => .complaint .noSuchNumber
      | some doc =>
        match s.controller.current? doc.identity with
        | none => .nothing
        | some p =>
          match s.controller.processes[p]? with
          | none => .nothing
          | some proc => .process (Controller.pidOf p) proc.request proc.capture.isReleased
    (s, [], answer)
  | .update d content =>
    s.withDocument d (·.update content) fun doc => .version doc.version
  | .rename d path => s.withDocument d (fun doc => { doc with path }) fun _ => .done
  | .identify d identity => s.withDocument d (fun doc => { doc with identity }) fun _ => .done
  | .result r =>
    let answer := match s.controller.progress? r with
      | none => .complaint .noSuchNumber
      | some .pending => .pending
      | some (.resolved o) => .outcome o
      | some (.failed e) => .complaint (.system e)
    (s, [], answer)
  | .buffer r =>
    (s, [], s.askProcess r .noCapture fun _ proc =>
      match proc.capture.text with
      | .ok t => .captured proc.capture.isReleased t
      | .error e => .complaint (.capture e))
  | .exitInfo r => (s, [], s.askProcess r .noExit exitAnswer)
  | .finish p status output => s.finish p status output
  | .finishAndDrain p status output => s.finish p status output
  | .drain p => (s, [], s.waitAnswer p)
  | .failWait p _ => (s, [], s.waitAnswer p)
  | .raise _ => (s, [], .done)

/-- Makes the calls of a callback in order, each by `make`, up to one by which the callback fails;
the words of the failure, if it fails. -/
def runCallback (make : Session → Call → Session × List Occurrence × Answer) (s : Session) :
    List Call → Session × List Occurrence × Option Text
  | [] => (s, [], none)
  | .raise message :: _ => (s, [.answered .done], some message)
  | c :: cs =>
    let (s, shown, answer) := make s c
    let (s, later, failure) := runCallback make s cs
    (s, shown ++ .answered answer :: later, failure)

/-- Makes one call while the controller is held, and shows its events. -/
def callShown (s : Session) (c : Call) : Session × List Occurrence × Answer :=
  let (s, events, answer) := s.call c
  (s, events.map .event, answer)

/-- The calls of a request's callback. -/
def callbackOf (s : Session) (r : Nat) : List Call := ((s.callbacks[r]?).join).getD []

/-- Deals with the end of a process and runs the callback, if one is called. -/
def completeProcess (s : Session) (p : Nat) : Session × List Occurrence :=
  match s.controller.complete p with
  | (c, events, none) => ({ s with controller := c }, events.map .event)
  | (c, events, some (r, _)) =>
    let s := { s with controller := c }
    let (s, shown, failure) := s.runCallback callShown (s.callbackOf r)
    let (c, after) := s.controller.conclude p failure
    ({ s with controller := c }, events.map .event ++ shown ++ after.map .event)

/-- Makes one call from outside, where the end of a process can be dealt with at once. -/
def advance (s : Session) : Call → Session × List Occurrence × Answer
  | .finishAndDrain p status output =>
    let (s, events, answer) := s.finish p status output
    let (s, shown) := s.completeProcess p
    (s, events.map .event ++ shown, answer)
  | .drain p =>
    let (s', shown) := s.completeProcess p
    (s', shown, s.waitAnswer p)
  | .failWait p e =>
    let (c, events) := s.controller.failWait p e
    ({ s with controller := c }, events.map .event, s.waitAnswer p)
  | c => s.callShown c

/-- Delivers one failed start and runs its callback. -/
def deliverOne (s : Session) (r : Nat) : Session × List Occurrence :=
  match s.controller.deliver r with
  | (c, events, none) => ({ s with controller := c }, events.map .event)
  | (c, events, some (r, _)) =>
    let s := { s with controller := c }
    let (s, shown, failure) := s.runCallback advance (s.callbackOf r)
    let after := match failure with
      | none => []
      | some message => [Occurrence.event (.crashed (.callback message))]
    (s, events.map .event ++ shown ++ after)

/-- Delivers failed starts, oldest first, also those that come up on the way, but no more than
`fuel`. -/
def deliverAll : Nat → Session → Session × List Occurrence
  | 0, s => (s, [])
  | fuel + 1, s =>
    match s.controller.undelivered with
    | [] => (s, [])
    | r :: _ =>
      let (s, shown) := s.deliverOne r
      let (s, later) := deliverAll fuel s
      (s, shown ++ later)

mutual

/-- The number of starts in a call, those in its callback included. -/
def startsIn : Call → Nat
  | .start _ _ _ _ (some calls) _ _ => 1 + startsInAll calls
  | .start _ _ _ _ none _ _ => 1
  | _ => 0

/-- The number of starts in several calls. -/
def startsInAll : List Call → Nat
  | [] => 0
  | c :: cs => startsIn c + startsInAll cs

end

/-- As many failed starts as the callbacks known so far can ever bring about. -/
def deliveryBound (s : Session) : Nat :=
  s.callbacks.foldl (fun n cb => n + 1 + startsInAll (cb.getD [])) 0

/-- Makes one call from outside and delivers the failed starts it leaves. -/
def perform (s : Session) (c : Call) : Session × List Occurrence × Answer :=
  let (s, shown, answer) := s.advance c
  let (s, later) := deliverAll s.deliveryBound s
  (s, shown ++ later, answer)

end Session

end GradleLint
