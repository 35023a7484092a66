import GradleLint.Controller.Session
import GradleLint.Proofs.Controller.Soundness

/-!
# Sessions are runs

Whatever a session does to its controller is a run: each call, with all that its callbacks do,
is a list of moves that leads to the same controller and shows the same events
(`perform_reaches`).  So what holds at every moment of every run holds after every call of every
session.  The calls must leave the identities of documents alone, those in callbacks included.
-/

namespace GradleLint

/-- The event that a session shows, if it shows one. -/
def Occurrence.event? : Occurrence → Option Event
  | .event e => some e
  | .answered _ => none

lemma filterMap_event? (events : List Event) :
    (events.map Occurrence.event).filterMap Occurrence.event? = events := by
  rw [List.filterMap_map]
  exact List.filterMap_some

namespace Session

mutual

/-- Whether a call and its callback leave the identities of documents alone. -/
def steadyCall : Call → Bool
  | .identify _ _ => false
  | .start _ _ _ _ (some calls) _ _ => steadyCalls calls
  | _ => true

/-- Whether several calls leave the identities of documents alone. -/
def steadyCalls : List Call → Bool
  | [] => true
  | c :: cs => steadyCall c && steadyCalls cs

end

/-- The callbacks that are still to come leave the identities of documents alone. -/
def Steady (s : Session) : Prop := ∀ calls, some calls ∈ s.callbacks → steadyCalls calls = true

lemma Steady.callbackOf {s : Session} (h : s.Steady) (r : Nat) :
    steadyCalls (s.callbackOf r) = true := by
  unfold Session.callbackOf
  cases hr : s.callbacks[r]? with
  | none => rfl
  | some callback =>
    cases callback with
    | none => rfl
    | some calls => exact h calls (List.mem_of_getElem? hr)

/-! ## From session to session by moves -/

/-- A session goes on to another one by moves of its controller, which show some events. -/
def Reaches (s t : Session) (shown : List Event) : Prop :=
  t.Steady ∧ ∀ x : Run, x.controller = s.controller →
    ∃ moves, x.play moves = x.advance t.controller shown

namespace Reaches

variable {s t u : Session} {first second : List Event}

lemma refl (h : s.Steady) : s.Reaches s [] := by
  refine ⟨h, fun x hx => ⟨[], ?_⟩⟩
  rw [← hx, Run.advance_self]
  rfl

lemma trans (h : s.Reaches t first) (h' : t.Reaches u second) :
    s.Reaches u (first ++ second) := by
  refine ⟨h'.1, fun x hx => ?_⟩
  obtain ⟨moves, hmoves⟩ := h.2 x hx
  obtain ⟨moves', hmoves'⟩ := h'.2 (x.advance t.controller first) rfl
  exact ⟨moves ++ moves', by rw [Run.play_append, hmoves, hmoves', Run.advance_advance]⟩

/-- One move leads from a session to the next. -/
lemma of_step (m : Move) (ht : t.Steady)
    (h : ∀ x : Run, x.controller = s.controller → x.step m = x.advance t.controller first) :
    s.Reaches t first :=
  ⟨ht, fun x hx => ⟨[m], h x hx⟩⟩

end Reaches

/-! ## Calls while the controller is held -/

variable {s : Session}

/-- A start does to the controller what the controller's start does, and may add a callback. -/
lemma start_of_some {o : Order} {doc : Document} (callback : Option (List Call))
    (hd : s.controller.documents[o.document]? = some doc) :
    ∃ callbacks answer,
      s.start o callback = ({ s with controller := (s.controller.start o doc).1, callbacks },
        (s.controller.start o doc).2.1, answer) ∧
      ∀ calls ∈ callbacks, calls ∈ s.callbacks ∨ calls = callback := by
  rw [Session.start, hd]
  rcases hstart : s.controller.start o doc with ⟨c, events, e | ⟨⟩⟩
  · simp only [hstart]
    exact ⟨s.callbacks, _, rfl, fun calls => .inl⟩
  · simp only [hstart]
    refine ⟨s.callbacks ++ [callback], _, rfl, fun calls hmem => ?_⟩
    simpa using hmem

lemma start_reaches (h : s.Steady) (o : Order) {callback : Option (List Call)}
    (hcallback : ∀ calls, callback = some calls → steadyCalls calls = true) :
    s.Reaches (s.start o callback).1 (s.start o callback).2.1 := by
  cases hd : s.controller.documents[o.document]? with
  | none =>
    rw [Session.start, hd]
    exact .refl h
  | some doc =>
    obtain ⟨callbacks, answer, heq, hnew⟩ := start_of_some callback hd
    rw [heq]
    refine .of_step (.start o) ?_ fun x hx => ?_
    · intro calls hmem
      rcases hnew _ hmem with hold | hadded
      · exact h calls hold
      · exact hcallback calls hadded.symm
    · rw [Run.step_start (hx ▸ hd), hx]

lemma finish_reaches (h : s.Steady) (p : Nat) (status : Int) (output : Bytes) :
    s.Reaches (s.finish p status output).1 (s.finish p status output).2.1 := by
  unfold Session.finish
  split
  · refine .of_step (.finish p status (Utf8.readText output)) h fun x hx => ?_
    rw [← hx]
    rfl
  · exact .refl h

lemma call_reaches (h : s.Steady) {c : Call} (hc : steadyCall c = true) :
    s.Reaches (s.call c).1 (s.call c).2.1 := by
  cases c with
  | start document command dir grammar callback kill refusal =>
    refine start_reaches h _ fun calls hcalls => ?_
    subst hcalls
    rwa [steadyCall] at hc
  | cancel d =>
    rw [Session.call]
    cases hd : s.controller.documents[d]? with
    | none => exact .refl h
    | some doc =>
      refine .of_step (.cancel d) h fun x hx => ?_
      rw [Run.step_cancel (hx ▸ hd), hx]
  | shutdown =>
    refine .of_step .shutdown h fun x hx => ?_
    rw [Run.step, hx]
    rfl
  | running d => exact .refl h
  | update d content =>
    rw [Session.call, withDocument]
    split
    · exact .refl h
    · refine .of_step (.update d content) h fun x hx => ?_
      rw [← hx]
      rfl
  | rename d path =>
    rw [Session.call, withDocument]
    split
    · exact .refl h
    · refine .of_step (.rename d path) h fun x hx => ?_
      rw [← hx]
      rfl
  | identify d identity => exact absurd hc (by simp [steadyCall])
  | result r => exact .refl h
  | buffer r => exact .refl h
  | exitInfo r => exact .refl h
  | finish p status output => exact finish_reaches h p status output
  | finishAndDrain p status output => exact finish_reaches h p status output
  | drain p => exact .refl h
  | failWait p e => exact .refl h
  | raise message => exact .refl h

lemma callShown_reaches (h : s.Steady) {c : Call} (hc : steadyCall c = true) :
    s.Reaches (s.callShown c).1 ((s.callShown c).2.1.filterMap Occurrence.event?) := by
  have hcall := call_reaches h hc
  rwa [← filterMap_event? (s.call c).2.1] at hcall

/-! ## Callbacks -/

lemma runCallback_cons (make : Session → Call → Session × List Occurrence × Answer) (s : Session)
    {c : Call} (hc : ∀ message, c ≠ .raise message) (rest : List Call) :
    runCallback make s (c :: rest) =
      ((runCallback make (make s c).1 rest).1,
        (make s c).2.1 ++ .answered (make s c).2.2 :: (runCallback make (make s c).1 rest).2.1,
        (runCallback make (make s c).1 rest).2.2) := by
  cases c with
  | raise message => exact absurd rfl (hc message)
  | _ => rfl

/-- A callback goes on by moves if each of its calls does. -/
lemma runCallback_reaches {make : Session → Call → Session × List Occurrence × Answer}
    (hmake : ∀ (s : Session) (c : Call), s.Steady → steadyCall c = true →
      s.Reaches (make s c).1 ((make s c).2.1.filterMap Occurrence.event?))
    {calls : List Call} (h : s.Steady) (hcalls : steadyCalls calls = true) :
    s.Reaches (runCallback make s calls).1
      ((runCallback make s calls).2.1.filterMap Occurrence.event?) := by
  induction calls generalizing s with
  | nil => exact .refl h
  | cons c rest ih =>
    by_cases hraise : ∃ message, c = .raise message
    · obtain ⟨message, rfl⟩ := hraise
      exact .refl h
    · rw [steadyCalls, Bool.and_eq_true] at hcalls
      have hfirst := hmake s c h hcalls.1
      have hrest := ih hfirst.1 hcalls.2
      rw [runCallback_cons make s (fun message hc => hraise ⟨message, hc⟩), List.filterMap_append]
      exact hfirst.trans hrest

/-- The end of a process is dealt with by moves, its callback included. -/
lemma completeProcess_reaches (h : s.Steady) (p : Nat) :
    s.Reaches (s.completeProcess p).1
      ((s.completeProcess p).2.filterMap Occurrence.event?) := by
  rcases hcomplete : s.controller.complete p with ⟨c, events, _ | ⟨r, o⟩⟩
  · have heq : s.completeProcess p = ({ s with controller := c }, events.map .event) := by
      rw [completeProcess, hcomplete]
    rw [heq, filterMap_event?]
    refine .of_step (.complete p) h fun x hx => ?_
    rw [Run.step_complete (hx ▸ hcomplete)]
    rfl
  · have hcallback := runCallback_reaches (fun s c h hc => callShown_reaches h hc)
      (s := { s with controller := c }) h (h.callbackOf r)
    set t := runCallback callShown { s with controller := c } (s.callbackOf r) with ht
    have heq : s.completeProcess p =
        ({ t.1 with controller := (t.1.controller.conclude p t.2.2).1 },
          events.map .event ++ t.2.1 ++ (t.1.controller.conclude p t.2.2).2.map .event) := by
      rw [completeProcess, hcomplete]
      rfl
    rw [heq]
    refine ⟨hcallback.1, fun x hx => ?_⟩
    -- The callback runs between the completion of the process and its conclusion.
    have hstart := Run.step_complete (x := x) (hx ▸ hcomplete)
    obtain ⟨moves, hmoves⟩ := hcallback.2 (x.step (.complete p)) (by rw [hstart]; rfl)
    refine ⟨.complete p :: (moves ++ [.conclude p t.2.2]), ?_⟩
    have hcalling : p ∈ ((x.step (.complete p)).advance t.1.controller
        (t.2.1.filterMap Occurrence.event?)).calling := by simp [hstart]
    rw [Run.play_cons, Run.play_append, hmoves, Run.play_cons, Run.play_nil,
      Run.step_conclude hcalling]
    simp only [hstart, Run.advance, Option.isSome_some, if_true, List.erase_cons_head,
      List.filterMap_append, filterMap_event?, List.append_assoc]

lemma advance_reaches (h : s.Steady) {c : Call} (hc : steadyCall c = true) :
    s.Reaches (s.advance c).1 ((s.advance c).2.1.filterMap Occurrence.event?) := by
  cases c with
  | finishAndDrain p status output =>
    have hfinish := finish_reaches h p status output
    have hcomplete := completeProcess_reaches hfinish.1 p
    have hboth := hfinish.trans hcomplete
    rw [← filterMap_event? (s.finish p status output).2.1, ← List.filterMap_append] at hboth
    exact hboth
  | drain p => exact completeProcess_reaches h p
  | failWait p e =>
    have hstep : s.Reaches { s with controller := (s.controller.failWait p e).1 }
        (s.controller.failWait p e).2 := by
      refine .of_step (.failWait p e) h fun x hx => ?_
      rw [Run.step, hx]
    rwa [← filterMap_event? (s.controller.failWait p e).2] at hstep
  | _ => exact callShown_reaches h hc

/-! ## Failed starts -/

/-- A delivery that runs a callback: the callback's calls, and the crash if it raises. -/
lemma deliverOne_of_some {t : Session} {r q : Nat} {o : Outcome} {c : Controller}
    {events : List Event} {shown : List Occurrence} {failure : Option Text}
    (hdeliver : s.controller.deliver r = (c, events, some (q, o)))
    (hrun : runCallback Session.advance { s with controller := c }
      (callbackOf { s with controller := c } q) = (t, shown, failure)) :
    s.deliverOne r = (t, events.map .event ++ shown ++
      failure.elim [] fun message => [.event (.crashed (.callback message))]) := by
  rw [deliverOne, hdeliver]
  simp only [hrun]
  cases failure <;> rfl

lemma deliverOne_reaches (h : s.Steady) (r : Nat) :
    s.Reaches (s.deliverOne r).1 ((s.deliverOne r).2.filterMap Occurrence.event?) := by
  have hstep : s.Reaches { s with controller := (s.controller.deliver r).1 }
      (s.controller.deliver r).2.1 := by
    refine .of_step (.deliver r) h fun x hx => ?_
    rw [Run.step, hx]
  rcases hdeliver : s.controller.deliver r with ⟨c, events, _ | ⟨q, o⟩⟩
  · rw [hdeliver] at hstep
    have heq : s.deliverOne r = ({ s with controller := c }, events.map .event) := by
      rw [deliverOne, hdeliver]
    rwa [heq, filterMap_event?]
  · rw [hdeliver] at hstep
    have hcallback := runCallback_reaches (fun s c h hc => advance_reaches h hc) hstep.1
      (hstep.1.callbackOf q)
    rcases hrun : runCallback Session.advance { s with controller := c }
      (callbackOf { s with controller := c } q) with ⟨t, shown, failure⟩
    rw [hrun] at hcallback
    have hboth := hstep.trans hcallback
    rw [deliverOne_of_some hdeliver hrun, List.filterMap_append, List.filterMap_append,
      filterMap_event?]
    cases failure with
    | none => simpa using hboth
    | some message =>
      refine hboth.trans (.of_step (.raise message) hcallback.1 fun x hx => ?_)
      rw [Run.step, hx]
      rfl

lemma deliverAll_reaches (n : Nat) (h : s.Steady) :
    s.Reaches (deliverAll n s).1 ((deliverAll n s).2.filterMap Occurrence.event?) := by
  induction n generalizing s with
  | zero => exact .refl h
  | succ n ih =>
    rw [deliverAll]
    split
    · exact .refl h
    · rename_i r rest _
      have hone := deliverOne_reaches h r
      have hboth := hone.trans (ih hone.1)
      rwa [← List.filterMap_append] at hboth

/-- A call, with the failed starts that it leaves and all that callbacks do, is a list of
moves. -/
theorem perform_reaches (h : s.Steady) {c : Call} (hc : steadyCall c = true) :
    s.Reaches (s.perform c).1 ((s.perform c).2.1.filterMap Occurrence.event?) := by
  have hadvance := advance_reaches h hc
  have hboth := hadvance.trans (deliverAll_reaches (s.advance c).1.deliveryBound hadvance.1)
  rwa [← List.filterMap_append] at hboth

/-! ## Whole sessions -/

/-- Makes calls in order; the last session and the events on the way. -/
def performAll (s : Session) : List Call → Session × List Event
  | [] => (s, [])
  | c :: cs =>
    let (t, shown, _) := s.perform c
    let (u, later) := performAll t cs
    (u, shown.filterMap Occurrence.event? ++ later)

lemma performAll_reaches (h : s.Steady) {calls : List Call} (hcalls : steadyCalls calls = true) :
    s.Reaches (s.performAll calls).1 (s.performAll calls).2 := by
  induction calls generalizing s with
  | nil => exact .refl h
  | cons c rest ih =>
    rw [steadyCalls, Bool.and_eq_true] at hcalls
    have hfirst := perform_reaches h hcalls.1
    exact hfirst.trans (ih hfirst.1 hcalls.2)

/-- Every session is a run: after any calls on a new controller, its state is that of a moment
of a run, and what it has shown are the events of the run. -/
theorem exists_play (world : World) (environment : List (Text × Text))
    (documents : List Document) {calls : List Call} (hcalls : steadyCalls calls = true) :
    ∃ moves, (Run.begin documents).play moves =
      { controller := (performAll ⟨world, environment, { documents }, []⟩ calls).1.controller
        events := (performAll ⟨world, environment, { documents }, []⟩ calls).2 } := by
  have hreaches := performAll_reaches (s := ⟨world, environment, { documents }, []⟩)
    (fun calls hmem => absurd hmem (by simp)) hcalls
  obtain ⟨moves, hmoves⟩ := hreaches.2 (Run.begin documents) rfl
  exact ⟨moves, hmoves⟩

end Session
end GradleLint
