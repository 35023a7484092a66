import GradleLint.Proofs.Controller.Checked

/-!
# Every request is accounted for

`Accounted` says of a moment of a run that no request is settled or called back twice, that a
callback is called after its request has its outcome, with this outcome, and not for a
superseded one, that no other call is forgotten, and that a pending request owns a process whose
end is still to be dealt with.  A request fails only together with the wait for its process:
otherwise the way from the end of a process to its outcome is free of obstacles.  Every moment of
every run is so.
-/

namespace GradleLint
namespace Run

open Controller

/-- Every request is accounted for after some moves that led to `x`. -/
structure Accounted (moves : List Move) (x : Run) : Prop where
  settled_once : ∀ r, (x.events.filter (·.settles r)).length ≤ 1
  called_once : ∀ r, (x.events.filter (·.calls r)).length ≤ 1
  call_follows : ∀ pre r outcome post, x.events = pre ++ .delivered r outcome :: post →
    .resolved r outcome ∈ pre ∧ x.controller.progress? r = some (.resolved outcome) ∧
      outcome.kind ≠ .superseded ∧
      ∃ request, x.controller.requests[r]? = some request ∧ request.callback = true
  /-- The callback of a failed start is called by a later move. -/
  call_made : ∀ (r : Nat) (request : Request) (outcome : Outcome),
    x.controller.requests[r]? = some request → request.progress = .resolved outcome →
    request.callback = true → outcome.kind ≠ .superseded →
    .delivered r outcome ∈ x.events ∨ (request.process = none ∧ r ∈ x.controller.undelivered ∧
      (x.step (.deliver r)).events = x.events ++ [.delivered r outcome])
  owned : ∀ (r : Nat) (request : Request), x.controller.requests[r]? = some request →
    request.progress = .pending → ∃ (p : Nat) (proc : Process), request.process = some p ∧
      x.controller.processes[p]? = some proc ∧ proc.request = r ∧ proc.settled = false
  failed_with_wait : ∀ r e, .failed r e ∈ x.events →
    ∃ (p : Nat) (proc : Process), .failWait p e ∈ moves ∧
      x.controller.processes[p]? = some proc ∧ proc.request = r
  unhindered : ∀ (p : Nat) (proc : Process) (status : Int) (output : Text),
    x.controller.processes[p]? = some proc → proc.ended = some (status, output) →
    proc.settled = false → IsStatus status →
    ∃ request doc outcome, x.controller.requests[proc.request]? = some request ∧
      x.controller.documents[proc.document]? = some doc ∧
      checkedOutcome proc (pidOf p) request doc status output (x.controller.isCurrent p) =
        .ok outcome ∧
      x.Resolves p proc.request outcome

variable {x : Run}

/-! ## What the events tell of one request -/

lemma settlement_length (s : Controller) (r : Nat) : (s.settlement r).length ≤ 1 := by
  unfold settlement
  cases s.progress? r with
  | none => simp
  | some progress => cases progress <;> simp [Progress.settlement]

lemma callsMade_length (s : Controller) (r : Nat) : (s.callsMade r).length ≤ 1 := by
  unfold callsMade
  split
  · simp
  · cases (s.requests[r]?).bind Request.called? <;> simp

/-- An event that settles a request says where the request stands. -/
lemma progress?_of_settlement (h : x.Sound) {r : Nat} {progress : Progress} {e : Event}
    (hmem : e ∈ x.events) (hsettles : e.settles r = true)
    (he : ∀ other : Progress, e ∈ other.settlement r → other = progress) :
    x.controller.progress? r = some progress := by
  have hin : e ∈ x.controller.settlement r := by
    rw [← h.recorded.settlements r]
    exact List.mem_filter.mpr ⟨hmem, hsettles⟩
  unfold settlement at hin
  cases hr : x.controller.progress? r with
  | none => simp [hr] at hin
  | some other =>
    rw [hr] at hin
    rw [he other (by simpa using hin)]

lemma progress?_of_resolved (h : x.Sound) {r : Nat} {outcome : Outcome}
    (hmem : .resolved r outcome ∈ x.events) :
    x.controller.progress? r = some (.resolved outcome) := by
  refine progress?_of_settlement h hmem (by simp [Event.settles]) fun other hin => ?_
  cases other <;> simp_all [Progress.settlement]

lemma progress?_of_failed (h : x.Sound) {r : Nat} {e : SystemError}
    (hmem : .failed r e ∈ x.events) : x.controller.progress? r = some (.failed e) := by
  refine progress?_of_settlement h hmem (by simp [Event.settles]) fun other hin => ?_
  cases other <;> simp_all [Progress.settlement]

/-- A call is for a request that asked for it, and never for a superseded one. -/
lemma called_of_delivered (h : x.Sound) {r : Nat} {outcome : Outcome}
    (hmem : .delivered r outcome ∈ x.events) :
    ∃ request, x.controller.requests[r]? = some request ∧ request.callback = true ∧
      outcome.kind ≠ .superseded := by
  have hin : .delivered r outcome ∈ x.controller.callsMade r := by
    rw [← h.recorded.calls r]
    exact List.mem_filter.mpr ⟨hmem, by simp [Event.calls]⟩
  unfold callsMade at hin
  split at hin
  · exact absurd hin (by simp)
  · cases hr : x.controller.requests[r]? with
    | none => simp [hr] at hin
    | some request =>
      have hcalled : request.called? = some outcome := by simpa [hr] using hin
      exact ⟨request, rfl, ((request.called?_eq_some_iff outcome).mp hcalled).2⟩

/-- Every call that is due has been made, or is that of a failed start and can be made. -/
lemma delivered_or_undelivered (h : x.Sound) {r : Nat} {request : Request} {outcome : Outcome}
    (hr : x.controller.requests[r]? = some request)
    (hp : request.progress = .resolved outcome) (hcallback : request.callback = true)
    (hkind : outcome.kind ≠ .superseded) :
    .delivered r outcome ∈ x.events ∨ (request.process = none ∧ r ∈ x.controller.undelivered ∧
      (x.step (.deliver r)).events = x.events ++ [.delivered r outcome]) := by
  by_cases hmem : r ∈ x.controller.undelivered
  · obtain ⟨request', hr', hnone, -⟩ := h.linked.undelivered hmem
    obtain rfl := Option.some.inj (hr.symm.trans hr')
    have hprogress : x.controller.progress? r = some (.resolved outcome) := by
      rw [progress?, hr, Option.map_some, hp]
    have hevents : (x.step (.deliver r)).events = x.events ++ [.delivered r outcome] := by
      show x.events ++ (x.controller.deliver r).2.1 = _
      rw [deliver_of_undelivered hmem hprogress]
    exact .inr ⟨hnone, hmem, hevents⟩
  · have hcalled : request.called? = some outcome :=
      (request.called?_eq_some_iff outcome).mpr ⟨hp, hcallback, hkind⟩
    have hin : .delivered r outcome ∈ x.events.filter (·.calls r) := by
      rw [h.recorded.calls r, callsMade_of_some hr hmem, hcalled]
      simp
    exact .inl (List.mem_filter.mp hin).1

/-! ## The process of a request -/

/-- A request that was not refused has a process that serves it. -/
lemma exists_serves (h : x.Sound) {r : Nat} {request : Request}
    (hr : x.controller.requests[r]? = some request)
    (haccepted : ∀ t, request.progress ≠ .resolved (.toolError t)) :
    ∃ p proc doc, x.controller.Serves p proc request doc ∧ proc.request = r := by
  cases hback : request.process with
  | none =>
    obtain ⟨t, ht⟩ := h.linked.refused hr hback
    exact absurd ht (haccepted t)
  | some p =>
    obtain ⟨proc, hproc, rfl⟩ := h.linked.owned hr hback
    obtain ⟨request', doc, hs⟩ := h.linked.served hproc
    obtain rfl := Option.some.inj (hr.symm.trans hs.has_request)
    exact ⟨p, proc, doc, hs, rfl⟩

lemma failWait_of_failed (documents : List Document) (moves : List Move) {r : Nat}
    {e : SystemError} (hmem : .failed r e ∈ ((Run.begin documents).play moves).events) :
    ∃ p proc, .failWait p e ∈ moves ∧
      ((Run.begin documents).play moves).controller.processes[p]? = some proc ∧
      proc.request = r := by
  have hsound := Sound.play documents moves
  have hfailed := progress?_of_failed hsound hmem
  rw [progress?, Option.map_eq_some_iff] at hfailed
  obtain ⟨request, hr, hprogress⟩ := hfailed
  obtain ⟨p, proc, doc, hs, rfl⟩ := exists_serves hsound hr (by simp [hprogress])
  have hsettled : proc.settled = true := by
    by_contra hopen
    have hpending := hs.unsettled_iff.mp (Bool.eq_false_iff.mpr hopen)
    exact absurd (hprogress.symm.trans hpending) (by simp)
  obtain ⟨m, hm, progress, hsettles, hstands⟩ :=
    exists_settling documents moves hs.has_process hsettled
  rw [progress?, hr, Option.map_some, hprogress] at hstands
  obtain rfl := Option.some.inj hstands
  cases hsettles
  exact ⟨p, proc, hm, hs.has_process, rfl⟩

/-- At every moment of every run every request is accounted for. -/
theorem accounted (documents : List Document) (moves : List Move) :
    Accounted moves ((Run.begin documents).play moves) := by
  have hsound := Sound.play documents moves
  exact {
    settled_once := by
      intro r
      rw [hsound.recorded.settlements r]
      exact settlement_length _ r
    called_once := by
      intro r
      rw [hsound.recorded.calls r]
      exact callsMade_length _ r
    call_follows := by
      intro pre r outcome post hevents
      have hbefore := hsound.recorded.follow pre r outcome post hevents
      have hresolved : .resolved r outcome ∈ ((Run.begin documents).play moves).events := by
        rw [hevents]
        exact List.mem_append_left _ hbefore
      have hdelivered : .delivered r outcome ∈ ((Run.begin documents).play moves).events := by
        rw [hevents]
        exact List.mem_append_right _ List.mem_cons_self
      obtain ⟨request, hr, hcallback, hkind⟩ := called_of_delivered hsound hdelivered
      exact ⟨hbefore, progress?_of_resolved hsound hresolved, hkind, request, hr, hcallback⟩
    call_made := fun r request outcome => delivered_or_undelivered hsound
    owned := by
      intro r request hr hpending
      obtain ⟨p, proc, doc, hs, hreq⟩ := exists_serves hsound hr (by simp [hpending])
      exact ⟨p, proc, hs.back, hs.has_process, hreq, hs.unsettled_iff.mpr hpending⟩
    failed_with_wait := fun r e => failWait_of_failed documents moves
    unhindered := by
      intro p proc status output hp hended hopen hstatus
      obtain ⟨request, doc, hs⟩ := hsound.linked.served hp
      have hchecked := checkedOutcome_eq (hsound.linked.fresh hp hopen)
        (hs.unsettled_iff.mp hopen) hstatus (pidOf p) doc output
        (((Run.begin documents).play moves).controller.isCurrent p)
      exact ⟨request, doc, _, hs.has_request, hs.has_document, hchecked,
        resolves_outcomeOf hsound hs hended hopen⟩ }

end Run
end GradleLint
