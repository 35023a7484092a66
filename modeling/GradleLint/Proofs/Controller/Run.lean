import GradleLint.Proofs.Controller.Registry

/-!
# Runs of a controller

A run is a list of moves of one controller, made by any threads in any order.  A move is one
operation that holds the controller, an edit of a document, or the end of a process.  The
identity of a document never changes, so there is no move that changes one.

A completion is two moves: `complete` records the outcome and enters the callback, and `conclude`
is the callback's return or failure.  What the callback itself does with the controller are the
moves in between; `Run.calling` lists the processes whose callbacks are running.  The callback of
a failed start is entered by `deliver`, at any later time; the calls it makes are moves like all
others, and `raise` is its failure.

Nothing in a run keeps the moves of two callbacks apart, although the controller is held during
the callback of a completion: what holds of all runs holds of those in which it is.
-/

namespace GradleLint

/-- One move of a run. -/
inductive Move where
  /-- A run is started for a document. -/
  | start (o : Order)
  | cancel (document : Nat)
  | shutdown
  | update (document : Nat) (content : Text)
  | rename (document : Nat) (path : Path)
  /-- A process ends with a status and some output. -/
  | finish (process : Nat) (status : Int) (output : Text)
  /-- The end of a process is dealt with, up to the call of the callback. -/
  | complete (process : Nat)
  /-- The callback of a completed process returns, or fails with the given words. -/
  | conclude (process : Nat) (failure : Option Text)
  /-- Waiting for a process fails. -/
  | failWait (process : Nat) (e : SystemError)
  /-- The callback of a request whose start failed is called. -/
  | deliver (request : Nat)
  /-- The callback of a failed start fails with the given words. -/
  | raise (message : Text)

/-- A controller in the middle of a run. -/
structure Run where
  controller : Controller
  /-- The processes whose callbacks are running. -/
  calling : List Nat := []
  /-- What has happened to the outside so far, oldest first. -/
  events : List Event := []

namespace Move

/-- What a move does to the documents. -/
def edit (documents : List Document) : Move → List Document
  | .update d content => documents.modify d (·.update content)
  | .rename d path => documents.modify d fun doc => { doc with path }
  | _ => documents

/-- A move displaces whatever is current for an identity: it starts a run for the identity and
finds a grammar, whatever becomes of the start; it cancels the identity; or it shuts down. -/
def Displaces (documents : List Document) (identity : Text) : Move → Prop
  | .start o => ∃ doc, documents[o.document]? = some doc ∧ doc.identity = identity ∧
      ∃ g, Grammar.choose o.grammar doc.path = .ok g
  | .cancel d => ∃ doc, documents[d]? = some doc ∧ doc.identity = identity
  | .shutdown => True
  | _ => False

end Move

namespace Run

/-- A new controller for some documents. -/
def begin (documents : List Document) : Run := { controller := { documents } }

/-- Goes on to a state of the controller, on the way to which some events happen. -/
def advance (x : Run) (c : Controller) (events : List Event) : Run :=
  { x with controller := c, events := x.events ++ events }

/-- Makes a move.  A move that names what there is not changes nothing. -/
def step (x : Run) : Move → Run
  | .start o =>
    match x.controller.documents[o.document]? with
    | none => x
    | some doc => x.advance (x.controller.start o doc).1 (x.controller.start o doc).2.1
  | .cancel d =>
    match x.controller.documents[d]? with
    | none => x
    | some doc =>
      x.advance (x.controller.displace doc.identity).1 (x.controller.displace doc.identity).2.1
  | .shutdown => x.advance x.controller.shutdown.1 x.controller.shutdown.2
  | .update d content => x.advance (x.controller.updateDocument d (·.update content)) []
  | .rename d path => x.advance (x.controller.updateDocument d fun doc => { doc with path }) []
  | .finish p status output => x.advance (x.controller.finish p status output) []
  | .complete p =>
    match x.controller.complete p with
    | (c, events, none) => x.advance c events
    | (c, events, some _) => { x.advance c events with calling := p :: x.calling }
  | .conclude p failure =>
    if p ∈ x.calling then
      { x.advance (x.controller.conclude p failure).1 (x.controller.conclude p failure).2 with
        calling := x.calling.erase p }
    else x
  | .failWait p e => x.advance (x.controller.failWait p e).1 (x.controller.failWait p e).2
  | .deliver r => x.advance (x.controller.deliver r).1 (x.controller.deliver r).2.1
  | .raise message => x.advance x.controller [.crashed (.callback message)]

/-- Makes moves in order. -/
def play (x : Run) (moves : List Move) : Run := moves.foldl step x

@[simp] lemma play_nil (x : Run) : x.play [] = x := rfl

@[simp] lemma play_cons (x : Run) (m : Move) (moves : List Move) :
    x.play (m :: moves) = (x.step m).play moves := rfl

@[simp] lemma play_append (x : Run) (first second : List Move) :
    x.play (first ++ second) = (x.play first).play second :=
  List.foldl_append

@[simp] lemma advance_controller (x : Run) (c : Controller) (events : List Event) :
    (x.advance c events).controller = c := rfl

@[simp] lemma advance_calling (x : Run) (c : Controller) (events : List Event) :
    (x.advance c events).calling = x.calling := rfl

@[simp] lemma advance_events (x : Run) (c : Controller) (events : List Event) :
    (x.advance c events).events = x.events ++ events := rfl

@[simp] lemma advance_self (x : Run) : x.advance x.controller [] = x := by simp [advance]

lemma advance_advance (x : Run) (c c' : Controller) (first second : List Event) :
    (x.advance c first).advance c' second = x.advance c' (first ++ second) := by
  simp [advance]

/-! ## One equation for each move that looks something up -/

lemma step_start {x : Run} {o : Order} {doc : Document}
    (hd : x.controller.documents[o.document]? = some doc) :
    x.step (.start o) =
      x.advance (x.controller.start o doc).1 (x.controller.start o doc).2.1 := by
  simp [step, hd]

lemma step_start_of_none {x : Run} {o : Order}
    (hd : x.controller.documents[o.document]? = none) : x.step (.start o) = x := by
  simp [step, hd]

lemma step_cancel {x : Run} {d : Nat} {doc : Document}
    (hd : x.controller.documents[d]? = some doc) :
    x.step (.cancel d) =
      x.advance (x.controller.displace doc.identity).1
        (x.controller.displace doc.identity).2.1 := by
  simp [step, hd]

lemma step_cancel_of_none {x : Run} {d : Nat} (hd : x.controller.documents[d]? = none) :
    x.step (.cancel d) = x := by
  simp [step, hd]

lemma step_complete {x : Run} {p : Nat} {c : Controller} {events : List Event}
    {call : Option (Nat × Outcome)} (h : x.controller.complete p = (c, events, call)) :
    x.step (.complete p) =
      { x.advance c events with
        calling := if call.isSome then p :: x.calling else x.calling } := by
  cases call <;> simp [step, h, advance]

lemma step_conclude {x : Run} {p : Nat} (hp : p ∈ x.calling) (failure : Option Text) :
    x.step (.conclude p failure) =
      { x.advance (x.controller.conclude p failure).1 (x.controller.conclude p failure).2 with
        calling := x.calling.erase p } := by
  simp [step, hp]

lemma step_conclude_of_not_mem {x : Run} {p : Nat} (hp : p ∉ x.calling)
    (failure : Option Text) : x.step (.conclude p failure) = x := by
  simp [step, hp]

/-! ## Properties of all moments -/

/-- A property that every move keeps holds throughout a run. -/
lemma play_invariant {P : Run → Prop} (keeps : ∀ x m, P x → P (x.step m)) {x : Run} (h : P x)
    (moves : List Move) : P (x.play moves) := by
  induction moves generalizing x with
  | nil => exact h
  | cons m rest ih => exact ih (keeps x m h)

end Run
end GradleLint
