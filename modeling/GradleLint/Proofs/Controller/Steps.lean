import GradleLint.Proofs.Controller.Operations

/-!
# What a move comes to

`Run.Did` lists all that one move can do to a run whose parts belong together, with the state
and the events it leads to.  `Run.did` goes through the moves once; what is kept by every move
is then shown case by case on `Run.Did`, without another look at the operations.
-/

namespace GradleLint

namespace Controller

/-- Takes a process out of the registry if it is current for an identity. -/
def withdraw (s : Controller) (p : Nat) (identity : Text) : Controller :=
  if s.current? identity = some p then s.deregister identity else s

@[simp] lemma withdraw_processes (s : Controller) (p : Nat) (identity : Text) :
    (s.withdraw p identity).processes = s.processes := by
  unfold withdraw
  split <;> rfl

@[simp] lemma withdraw_requests (s : Controller) (p : Nat) (identity : Text) :
    (s.withdraw p identity).requests = s.requests := by
  unfold withdraw
  split <;> rfl

@[simp] lemma withdraw_documents (s : Controller) (p : Nat) (identity : Text) :
    (s.withdraw p identity).documents = s.documents := by
  unfold withdraw
  split <;> rfl

/-- A withdrawn process is current for no identity, and all other processes stay. -/
lemma current?_withdraw {s : Controller} {calling : List Nat} (hl : Linked s calling) {p : Nat}
    {proc : Process} {request : Request} {doc : Document} (hs : s.Serves p proc request doc)
    (other : Text) :
    (s.withdraw p doc.identity).current? other =
      if s.current? other = some p then none else s.current? other := by
  unfold withdraw
  by_cases hc : s.current? doc.identity = some p
  · rw [if_pos hc, current?_deregister]
    by_cases ho : other = doc.identity
    · rw [if_pos ho, ho, if_pos hc]
    · have hne : s.current? other ≠ some p := fun h => ho (hl.current_inj h hc)
      rw [if_neg ho, if_neg hne]
  · rw [if_neg hc, if_neg (hl.current?_ne_of_serves hs hc other)]

end Controller

/-- A move settles a process, with where its request stands from then on. -/
inductive Move.Settles (p : Nat) : Progress → Move → Prop where
  | complete (o : Outcome) : Settles p (.resolved o) (.complete p)
  | failWait (e : SystemError) : Settles p (.failed e) (.failWait p e)

lemma Move.Settles.ne_pending {m : Move} {p : Nat} {progress : Progress}
    (h : m.Settles p progress) : progress ≠ .pending := by
  cases h <;> simp

namespace Run

open Controller

/-- What a move can do to a run. -/
inductive Did (x : Run) : Move → Run → Prop where
  /-- Nothing. -/
  | idle {m : Move} (hdisplaces : ∀ identity, ¬ m.Displaces x.controller.documents identity)
    (hedit : m.edit x.controller.documents = x.controller.documents) : Did x m x
  /-- A start displaces the process of before and raises a complaint. -/
  | raised {o : Order} {doc : Document} {g : Grammar}
    (hd : x.controller.documents[o.document]? = some doc)
    (hg : Grammar.choose o.grammar doc.path = .ok g) (l : Option Launch) :
    Did x (.start o) (x.advance (x.controller.deregister doc.identity)
      ((x.controller.displace doc.identity).2.1 ++ (l.map Event.launched).toList))
  /-- A start displaces the process of before and its request is refused. -/
  | refused {o : Order} {doc : Document} {g : Grammar}
    (hd : x.controller.documents[o.document]? = some doc)
    (hg : Grammar.choose o.grammar doc.path = .ok g) (l : Option Launch) (reason : Text) :
    Did x (.start o) (x.advance
      ((x.controller.deregister doc.identity).enterRefused
        (refusedRequest o doc.identity g reason))
      ((x.controller.displace doc.identity).2.1 ++ (l.map Event.launched).toList ++
        [.logged (.startFailed doc.identity reason),
          .resolved x.controller.requests.length (startFailure o reason)]))
  /-- A start displaces the process of before and enters a new one. -/
  | accepted {o : Order} {doc : Document} {g : Grammar} {l : Launch}
    (hd : x.controller.documents[o.document]? = some doc)
    (hg : Grammar.choose o.grammar doc.path = .ok g) (hl : o.launch = .ok l)
    (hr : o.refusal = none) :
    Did x (.start o) (x.advance
      ((x.controller.deregister doc.identity).enterAccepted
        (x.controller.acceptedRequest o doc.identity g) (x.controller.acceptedProcess o l))
      ((x.controller.displace doc.identity).2.1 ++
        [.launched l,
          .logged (.started (pidOf x.controller.processes.length) doc.identity l.args)]))
  | cancelled {d : Nat} {doc : Document} (hd : x.controller.documents[d]? = some doc) :
    Did x (.cancel d) (x.advance (x.controller.deregister doc.identity)
      (x.controller.displace doc.identity).2.1)
  | shutdown : Did x .shutdown (x.advance x.controller.shutdown.1 x.controller.shutdown.2)
  | edited {m : Move} {d : Nat} {f : Document → Document}
    (hdisplaces : ∀ identity, ¬ m.Displaces x.controller.documents identity)
    (hedit : m.edit x.controller.documents = x.controller.documents.modify d f)
    (hf : ∀ doc, (f doc).identity = doc.identity) :
    Did x m (x.advance (x.controller.updateDocument d f) [])
  | finished (p : Nat) (status : Int) (output : Text) :
    Did x (.finish p status output) (x.advance (x.controller.finish p status output) [])
  /-- The end of a process, or the failure to wait for it, is dealt with.  The output is kept
  only while a callback runs. -/
  | settled {m : Move} {p : Nat} {proc : Process} {request : Request} {doc : Document}
    {capture : Capture} {progress : Progress} {calling : List Nat} {more : List Event}
    (hm : m.Settles p progress) (hs : x.controller.Serves p proc request doc)
    (hopen : proc.settled = false)
    (hcalling : calling = p :: x.calling ∨ calling = x.calling ∧ capture = .released)
    (hmore : ∀ e ∈ more, e.IsRemark) :
    Did x m
      { controller :=
          (x.controller.withdraw p doc.identity).settle p proc.request capture progress
        calling
        events := x.events ++
          (Recorded.settling proc.request { request with progress } ++ more) }
  /-- A callback returns or fails. -/
  | concluded {p : Nat} (hp : p ∈ x.calling) (failure : Option Text) :
    Did x (.conclude p failure)
      { controller := x.controller.release p
        calling := x.calling.erase p
        events := x.events ++
          (failure.map fun message => Event.crashed (.callback message)).toList }
  /-- The callback of a failed start is called. -/
  | delivered {r : Nat} {o : Outcome} (hr : r ∈ x.controller.undelivered)
    (ho : x.controller.progress? r = some (.resolved o)) :
    Did x (.deliver r)
      (x.advance { x.controller with undelivered := x.controller.undelivered.erase r }
        [.delivered r o])
  | aborted (message : Text) :
    Did x (.raise message) (x.advance x.controller [.crashed (.callback message)])

variable {x : Run}

lemma did_start (x : Run) (o : Order) : x.Did (.start o) (x.step (.start o)) := by
  cases hd : x.controller.documents[o.document]? with
  | none =>
    rw [step_start_of_none hd]
    exact .idle (by simp [Move.Displaces, hd]) rfl
  | some doc =>
    rw [step_start hd]
    have hstarted := started x.controller o doc
    generalize x.controller.start o doc = result at hstarted
    cases hstarted with
    | unsupported hg =>
      rw [advance_self]
      exact .idle (by simp [Move.Displaces, hd, hg]) rfl
    | raised hg l e => exact .raised hd hg l
    | refused hg l reason => exact .refused hd hg l reason
    | accepted hg hl hr => exact .accepted hd hg hl hr

lemma did_cancel (x : Run) (d : Nat) : x.Did (.cancel d) (x.step (.cancel d)) := by
  cases hd : x.controller.documents[d]? with
  | none =>
    rw [step_cancel_of_none hd]
    exact .idle (by simp [Move.Displaces, hd]) rfl
  | some doc =>
    rw [step_cancel hd, displace_controller]
    exact .cancelled hd

/-- A run in which a process and its request have been settled and some remarks made. -/
def settle (x : Run) (p : Nat) (proc : Process) (request : Request) (identity : Text)
    (capture : Capture) (progress : Progress) (calling : List Nat) (more : List Event) : Run where
  controller := (x.controller.withdraw p identity).settle p proc.request capture progress
  calling := calling
  events := x.events ++ (Recorded.settling proc.request { request with progress } ++ more)

section Settle

variable {p : Nat} {proc : Process} {request : Request} {doc : Document}

lemma step_complete_of_current (hl : Linked x.controller x.calling)
    (hs : x.controller.Serves p proc request doc) {status : Int} {output : Text}
    (hended : proc.ended = some (status, output)) (hopen : proc.settled = false)
    (hc : x.controller.current? doc.identity = some p) :
    x.step (.complete p) =
      x.settle p proc request doc.identity
        (if request.callback then .live [output] else .released)
        (.resolved (buildOutcome proc p request doc status output))
        (if request.callback then p :: x.calling else x.calling) [] := by
  rw [step_complete (complete_of_current hs hended hopen (hl.fresh hs.has_process hopen) hc),
    settle, withdraw, if_pos hc, List.append_nil]
  cases request.callback <;> rfl

lemma step_complete_of_displaced (hl : Linked x.controller x.calling)
    (hs : x.controller.Serves p proc request doc) {status : Int} {output : Text}
    (hended : proc.ended = some (status, output)) (hopen : proc.settled = false)
    (hc : x.controller.current? doc.identity ≠ some p) :
    x.step (.complete p) =
      x.settle p proc request doc.identity .released
        (.resolved (.superseded (some (pidOf p)))) x.calling
        [.logged (.discarding (pidOf p) doc.identity)] := by
  rw [step_complete (complete_of_displaced hs hended hopen (hl.fresh hs.has_process hopen) hc),
    settle, withdraw, if_neg hc]
  rfl

lemma step_failWait_of_open (hs : x.controller.Serves p proc request doc)
    (hopen : proc.settled = false) (e : SystemError) :
    x.step (.failWait p e) =
      x.settle p proc request doc.identity .released (.failed e) x.calling
        [.crashed (.system e)] := by
  show x.advance (x.controller.failWait p e).1 (x.controller.failWait p e).2 = _
  rw [failWait_of_serves hs hopen]
  rfl

lemma step_complete_of_not_ready
    (h : ∀ proc status output, x.controller.processes[p]? = some proc →
      proc.ended = some (status, output) → proc.settled = true) : x.step (.complete p) = x := by
  simp [step_complete (complete_of_not_ready h)]

lemma step_failWait_of_settled
    (h : ∀ proc, x.controller.processes[p]? = some proc → proc.settled = true)
    (e : SystemError) : x.step (.failWait p e) = x := by
  show x.advance (x.controller.failWait p e).1 (x.controller.failWait p e).2 = _
  rw [failWait_of_settled h, advance_self]

end Settle

lemma did_complete (hl : Linked x.controller x.calling) (p : Nat) :
    x.Did (.complete p) (x.step (.complete p)) := by
  by_cases hready : ∃ proc status output, x.controller.processes[p]? = some proc ∧
      proc.ended = some (status, output) ∧ proc.settled = false
  · obtain ⟨proc, status, output, hp, hended, hopen⟩ := hready
    obtain ⟨request, doc, hs⟩ := hl.served hp
    by_cases hc : x.controller.current? doc.identity = some p
    · rw [step_complete_of_current hl hs hended hopen hc]
      exact .settled (.complete _) hs hopen (by cases request.callback <;> simp) (by simp)
    · rw [step_complete_of_displaced hl hs hended hopen hc]
      exact .settled (.complete _) hs hopen (.inr ⟨rfl, rfl⟩) (by simp)
  · rw [step_complete_of_not_ready]
    · exact .idle (by simp [Move.Displaces]) rfl
    · intro proc status output hp hended
      by_contra hopen
      exact hready ⟨proc, status, output, hp, hended, Bool.eq_false_iff.mpr hopen⟩

lemma did_failWait (hl : Linked x.controller x.calling) (p : Nat) (e : SystemError) :
    x.Did (.failWait p e) (x.step (.failWait p e)) := by
  by_cases hopen : ∃ proc, x.controller.processes[p]? = some proc ∧ proc.settled = false
  · obtain ⟨proc, hp, hopen⟩ := hopen
    obtain ⟨request, doc, hs⟩ := hl.served hp
    rw [step_failWait_of_open hs hopen]
    exact .settled (.failWait e) hs hopen (.inr ⟨rfl, rfl⟩) (by simp)
  · rw [step_failWait_of_settled]
    · exact .idle (by simp [Move.Displaces]) rfl
    · intro proc hp
      by_contra hne
      exact hopen ⟨proc, hp, Bool.eq_false_iff.mpr hne⟩

lemma step_conclude_of_mem (hl : Linked x.controller x.calling) {p : Nat} (hp : p ∈ x.calling)
    (failure : Option Text) :
    x.step (.conclude p failure) =
      { controller := x.controller.release p
        calling := x.calling.erase p
        events := x.events ++
          (failure.map fun message => Event.crashed (.callback message)).toList } := by
  obtain ⟨proc, hproc, hsettled⟩ := hl.calling hp
  rw [step_conclude hp, conclude_of_settled hl hproc hsettled]
  rfl

lemma did_conclude (hl : Linked x.controller x.calling) (p : Nat) (failure : Option Text) :
    x.Did (.conclude p failure) (x.step (.conclude p failure)) := by
  by_cases hp : p ∈ x.calling
  · rw [step_conclude_of_mem hl hp]
    exact .concluded hp failure
  · rw [step_conclude_of_not_mem hp]
    exact .idle (by simp [Move.Displaces]) rfl

/-- The requests whose callback is due are resolved. -/
lemma exists_resolved_of_undelivered (hl : Linked x.controller x.calling) {r : Nat}
    (hr : r ∈ x.controller.undelivered) :
    ∃ request o, x.controller.requests[r]? = some request ∧ request.progress = .resolved o := by
  obtain ⟨request, hreq, hproc, -⟩ := hl.undelivered hr
  obtain ⟨t, ht⟩ := hl.refused hreq hproc
  exact ⟨request, .toolError t, hreq, ht⟩

lemma step_deliver_of_undelivered {r : Nat} (hr : r ∈ x.controller.undelivered) {o : Outcome}
    (ho : x.controller.progress? r = some (.resolved o)) :
    x.step (.deliver r) =
      x.advance { x.controller with undelivered := x.controller.undelivered.erase r }
        [.delivered r o] := by
  show x.advance (x.controller.deliver r).1 (x.controller.deliver r).2.1 = _
  rw [deliver_of_undelivered hr ho]

lemma step_deliver_of_not_undelivered {r : Nat} (hr : r ∉ x.controller.undelivered) :
    x.step (.deliver r) = x := by
  show x.advance (x.controller.deliver r).1 (x.controller.deliver r).2.1 = _
  rw [deliver_of_not_undelivered hr, advance_self]

lemma did_deliver (hl : Linked x.controller x.calling) (r : Nat) :
    x.Did (.deliver r) (x.step (.deliver r)) := by
  by_cases hr : r ∈ x.controller.undelivered
  · obtain ⟨request, o, hreq, hprogress⟩ := exists_resolved_of_undelivered hl hr
    have ho : x.controller.progress? r = some (.resolved o) := by
      simp [progress?, hreq, hprogress]
    rw [step_deliver_of_undelivered hr ho]
    exact .delivered hr ho
  · rw [step_deliver_of_not_undelivered hr]
    exact .idle (by simp [Move.Displaces]) rfl

/-- Every move does one of the things listed. -/
theorem did (hl : Linked x.controller x.calling) (m : Move) : x.Did m (x.step m) := by
  cases m with
  | start o => exact did_start x o
  | cancel d => exact did_cancel x d
  | shutdown => exact .shutdown
  | update d content => exact .edited (by simp [Move.Displaces]) rfl fun _ => rfl
  | rename d path => exact .edited (by simp [Move.Displaces]) rfl fun _ => rfl
  | finish p status output => exact .finished p status output
  | complete p => exact did_complete hl p
  | conclude p failure => exact did_conclude hl p failure
  | failWait p e => exact did_failWait hl p e
  | deliver r => exact did_deliver hl r
  | raise message => exact .aborted message

end Run
end GradleLint
