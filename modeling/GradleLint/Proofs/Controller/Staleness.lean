import GradleLint.Proofs.Controller.Delivery

/-!
# Callbacks of earlier requests

A start that makes a request puts the earlier requests of its identity out of date.  From then on
the callback of an earlier request that had a process is never called: the process is current no
more, and a completion calls back for a current process only (`mayCall_complete`).  The callback
of a start that failed is called by a move of its own, which asks nothing about later starts.  So
it may come late, but once and with the failure that its request was resolved to at once; that
this is the only exception is `calls_after_newer_start`, and `late_call_of_failed_start` is a run
in which it happens.
-/

namespace GradleLint
namespace Run

open Controller

variable {x y : Run}

/-! ## Who may be called -/

/-- The requests whose callbacks a move may call: the one served by the process that it
completes, if that process is current, and the one of a failed start whose callback is due. -/
inductive MayCall (x : Run) : Move → Nat → Prop where
  | completed {p : Nat} {proc : Process} {request : Request} {doc : Document}
    (hs : x.controller.Serves p proc request doc)
    (hc : x.controller.current? doc.identity = some p) : MayCall x (.complete p) proc.request
  | due {r : Nat} (hr : r ∈ x.controller.undelivered) : MayCall x (.deliver r) r

/-- Some events follow those of `x`, and all calls among them are calls that a move may make. -/
def CallsAllowed (x : Run) (m : Move) (y : Run) : Prop :=
  ∃ more, y.events = x.events ++ more ∧ ∀ r o, .delivered r o ∈ more → x.MayCall m r

lemma callsAllowed_of_no_calls {m : Move} {more : List Event}
    (hevents : y.events = x.events ++ more) (hnone : ∀ e ∈ more, ∀ r, e.calls r = false) :
    x.CallsAllowed m y := by
  refine ⟨more, hevents, fun r o hmem => ?_⟩
  have hcalls := hnone _ hmem r
  simp [Event.calls] at hcalls

lemma displace_calls {s : Controller} {identity : Text} {e : Event}
    (h : e ∈ (s.displace identity).2.1) (r : Nat) : e.calls r = false := by
  obtain ⟨p, -, hd⟩ := mem_displace_events h
  exact (hd.isQuiet r).2

lemma displaceAll_calls {s : Controller} {identities : List Text} {e : Event}
    (h : e ∈ (s.displaceAll identities).2) (r : Nat) : e.calls r = false := by
  obtain ⟨identity, -, p, -, hd⟩ := mem_displaceAll_events h
  exact (hd.isQuiet r).2

/-- The events by which a request settles call nobody else. -/
lemma eq_of_delivered_mem_settling {q r : Nat} {request : Request} {o : Outcome}
    (hdone : request.progress ≠ .pending) (h : .delivered q o ∈ Recorded.settling r request) :
    q = r := by
  by_contra hne
  have hmem : .delivered q o ∈ (Recorded.settling r request).filter (·.calls q) :=
    List.mem_filter.mpr ⟨h, by simp [Event.calls]⟩
  rw [Recorded.filter_calls_settling q r request hdone, if_neg (Ne.symm hne)] at hmem
  exact List.not_mem_nil hmem

/-- Dealing with the end of a process calls for the current process of an identity only. -/
lemma mayCall_complete (h : x.Sound) (p : Nat) :
    x.CallsAllowed (.complete p) (x.step (.complete p)) := by
  by_cases hready : x.Ready p
  · obtain ⟨proc, status, output, hp, hended, hopen⟩ := hready
    obtain ⟨request, doc, hs⟩ := h.linked.served hp
    by_cases hc : x.controller.current? doc.identity = some p
    · rw [step_complete_of_current h.linked hs hended hopen hc]
      refine ⟨_, rfl, fun r o hmem => ?_⟩
      rw [List.append_nil] at hmem
      exact eq_of_delivered_mem_settling (by simp) hmem ▸ .completed hs hc
    · rw [step_complete_of_displaced h.linked hs hended hopen hc, settle,
        settling_of_no_call (.inr rfl)]
      exact callsAllowed_of_no_calls rfl (by simp [Event.calls])
  · rw [step_complete_of_not_ready fun proc status output hp hended => ?_]
    · exact ⟨[], (List.append_nil _).symm, by simp⟩
    · by_contra hopen
      exact hready ⟨proc, status, output, hp, hended, Bool.eq_false_iff.mpr hopen⟩

/-- Every move calls only whom it may call. -/
lemma callsAllowed_step (h : x.Sound) (m : Move) : x.CallsAllowed m (x.step m) := by
  by_cases hm : ∃ p, m = .complete p
  · obtain ⟨p, rfl⟩ := hm
    exact mayCall_complete h p
  have hdid := did h.linked m
  generalize x.step m = y at hdid
  have hlaunched : ∀ l : Option Launch, ∀ e ∈ (l.map Event.launched).toList, ∀ r,
      e.calls r = false := fun l e he r => ((Event.isRemark_of_launched he).1 r).2
  cases hdid with
  | idle => exact ⟨[], (List.append_nil _).symm, by simp⟩
  | raised hd hg l =>
    refine callsAllowed_of_no_calls rfl fun e he r => ?_
    obtain he | he := List.mem_append.mp he
    · exact displace_calls he r
    · exact hlaunched l e he r
  | refused hd hg l reason =>
    refine callsAllowed_of_no_calls rfl fun e he r => ?_
    rw [List.append_assoc, List.mem_append, List.mem_append] at he
    obtain he | he | he := he
    · exact displace_calls he r
    · exact hlaunched l e he r
    · obtain rfl | rfl := by simpa using he
      all_goals rfl
  | accepted =>
    refine callsAllowed_of_no_calls rfl fun e he r => ?_
    obtain he | he := List.mem_append.mp he
    · exact displace_calls he r
    · obtain rfl | rfl := by simpa using he
      all_goals rfl
  | cancelled => exact callsAllowed_of_no_calls rfl fun e he => displace_calls he
  | shutdown => exact callsAllowed_of_no_calls rfl fun e he => displaceAll_calls he
  | edited => exact callsAllowed_of_no_calls rfl (by simp)
  | finished => exact callsAllowed_of_no_calls rfl (by simp)
  | settled hmoves hs hopen hcalling hmore =>
    cases hmoves with
    | complete => exact absurd ⟨_, rfl⟩ hm
    | failWait e =>
      refine callsAllowed_of_no_calls rfl fun e' he r => ?_
      obtain he | he := List.mem_append.mp he
      · obtain rfl := by simpa [Recorded.settling, Request.called?, Progress.settlement] using he
        rfl
      · exact ((hmore e' he).1 r).2
  | concluded =>
    exact callsAllowed_of_no_calls rfl fun e he r => ((Event.isRemark_of_crashed he).1 r).2
  | delivered hr ho =>
    refine ⟨_, rfl, fun r o hmem => ?_⟩
    obtain ⟨rfl, -⟩ := by simpa using hmem
    exact .due hr
  | aborted => exact callsAllowed_of_no_calls rfl (by simp [Event.calls])

/-- Every call in a run is made by a move that may make it. -/
lemma exists_mayCall (h : x.Sound) (moves : List Move) :
    ∃ more, (x.play moves).events = x.events ++ more ∧ ∀ r o, .delivered r o ∈ more →
      ∃ pre m post, moves = pre ++ m :: post ∧ (x.play pre).MayCall m r := by
  induction moves generalizing x with
  | nil => exact ⟨[], (List.append_nil _).symm, by simp⟩
  | cons m rest ih =>
    obtain ⟨first, hfirst, hallowed⟩ := callsAllowed_step h m
    obtain ⟨more, hmore, hmay⟩ := ih (h.step m)
    refine ⟨first ++ more, by rw [play_cons, hmore, hfirst, List.append_assoc], ?_⟩
    intro r o hmem
    obtain hmem | hmem := List.mem_append.mp hmem
    · exact ⟨[], m, rest, rfl, hallowed r o hmem⟩
    · obtain ⟨pre, m', post, rfl, hcall⟩ := hmay r o hmem
      exact ⟨m :: pre, m', post, rfl, hcall⟩

/-! ## Requests that had a process -/

/-- A start that makes a request displaces its identity. -/
lemma displaces_of_makes {o : Order} {r : Nat} {request : Request}
    (hm : x.Makes (.start o) r request) :
    (Move.start o).Displaces x.controller.documents request.identity := by
  obtain ⟨doc, g, hd, hg, ⟨reason, rfl, -⟩ | ⟨l, rfl, -⟩⟩ := entered_of_makes hm
  all_goals exact ⟨doc, hd, rfl, g, hg⟩

/-- A process of before is never again current for an identity that a move displaces. -/
lemma not_current_after_displacement (h : x.Sound) {m : Move} {identity : Text}
    (hd : m.Displaces x.controller.documents identity) {p : Nat}
    (hold : p < x.controller.processes.length) (later : List Move) :
    ((x.step m).play later).controller.current? identity ≠ some p := by
  intro hc
  obtain ⟨proc, request, doc, hs, hopen, -⟩ := ((h.step m).after later).linked.current hc
  refine ((current?_play h (m :: later) hold fun proc' hp => ?_).mp hc).2 ?_
  · rwa [← hs.process_eq hp]
  rw [displacedIn_cons]
  exact .inl hd

/-- No move may call the callback of a request that has a process once a move has displaced its
identity. -/
lemma not_mayCall_after_displacement (h : x.Sound) {p : Nat} {proc : Process} {request : Request}
    {doc : Document} (hs : x.controller.Serves p proc request doc) {m : Move}
    (hd : m.Displaces x.controller.documents request.identity) (later : List Move) (m' : Move) :
    ¬ ((x.step m).play later).MayCall m' proc.request := by
  have hold := (List.getElem?_eq_some_iff.mp hs.has_process).1
  have hgone := not_current_after_displacement h hd hold later
  have hlast := (h.step m).after later
  obtain ⟨proc', progress, doc', hs', hreq⟩ := serves_play h hs (m :: later)
  rw [play_cons] at hs'
  intro hmay
  generalize hr : proc.request = r at hmay
  cases hmay with
  | completed hserves hc =>
    obtain rfl := Linked.serves_inj hserves hs' (hr.symm.trans hreq.symm)
    obtain ⟨-, -, rfl⟩ := hserves.unique hs'
    rw [hs'.identity] at hc
    exact hgone hc
  | due hdue =>
    rw [← hr, ← hreq] at hdue
    exact hlast.linked.not_undelivered hs'.has_request hs.back hdue

/-- No move may call the callback of a request that had a process after a start has made another
request for its identity. -/
lemma not_mayCall_after_newer_start (h : x.Sound) {o₁ o₂ : Order} {between later : List Move}
    {r₁ r₂ p : Nat} {request₁ request₂ : Request} (h₁ : x.Makes (.start o₁) r₁ request₁)
    (hp : request₁.process = some p)
    (h₂ : ((x.step (.start o₁)).play between).Makes (.start o₂) r₂ request₂)
    (hid : request₂.identity = request₁.identity) (m : Move) :
    ¬ ((((x.step (.start o₁)).play between).step (.start o₂)).play later).MayCall m r₁ := by
  have hsound := (h.step (.start o₁)).after between
  obtain ⟨proc, progress, doc, hs, rfl⟩ := serves_of_makes h h₁ hp between
  have hdisplaces := displaces_of_makes h₂
  rw [hid] at hdisplaces
  exact not_mayCall_after_displacement hsound hs hdisplaces later m

/-! ## Requests of failed starts -/

lemma not_mem_undelivered_deliver (h : x.Sound) (r : Nat) :
    r ∉ (x.step (.deliver r)).controller.undelivered := by
  by_cases hr : r ∈ x.controller.undelivered
  · obtain ⟨request, o, hreq, hprogress⟩ := exists_resolved_of_undelivered h.linked hr
    have ho : x.controller.progress? r = some (.resolved o) := by
      simp [progress?, hreq, hprogress]
    rw [step_deliver_of_undelivered hr ho, advance_controller, h.linked.distinct.mem_erase_iff]
    simp
  · rwa [step_deliver_of_not_undelivered hr]

/-- A callback that is due stays so until it is called. -/
lemma mem_undelivered_step (h : x.Sound) (m : Move) {r : Nat}
    (hr : r < x.controller.requests.length) :
    r ∈ (x.step m).controller.undelivered ↔ r ∈ x.controller.undelivered ∧ m ≠ .deliver r := by
  by_cases hm : m = .deliver r
  · subst hm
    simp [not_mem_undelivered_deliver h r]
  have hdid := did h.linked m
  generalize x.step m = y at hdid
  simp only [ne_eq, hm, not_false_eq_true, and_true]
  cases hdid with
  | idle => rfl
  | raised => rfl
  | @refused o doc g hd hg l reason =>
    have hne : r ≠ x.controller.requests.length := by omega
    by_cases hcb : o.callback = true <;>
      simp [Controller.enterRefused, refusedRequest, hcb, hne, deregister]
  | accepted => rfl
  | cancelled => rfl
  | shutdown => rw [advance_controller, shutdown_controller]
  | edited => rfl
  | finished => rfl
  | @settled m p proc request doc capture progress =>
    show r ∈ (x.controller.withdraw p doc.identity).undelivered ↔ _
    unfold withdraw
    split <;> rfl
  | concluded => rfl
  | @delivered q =>
    have hne : r ≠ q := fun heq => hm (heq ▸ rfl)
    exact List.mem_erase_of_ne hne
  | aborted => rfl

lemma mem_undelivered_play (h : x.Sound) (moves : List Move) {r : Nat}
    (hr : r < x.controller.requests.length) :
    r ∈ (x.play moves).controller.undelivered ↔
      r ∈ x.controller.undelivered ∧ .deliver r ∉ moves := by
  induction moves generalizing x with
  | nil => simp
  | cons m rest ih =>
    obtain ⟨progress, hnext, -⟩ := (extends_step h m).request (List.getElem?_eq_getElem hr)
    have hlt := (List.getElem?_eq_some_iff.mp hnext).1
    rw [play_cons, ih (h.step m) hlt, mem_undelivered_step h m hr, List.mem_cons, not_or, and_assoc,
      ne_comm]

/-- What a start leaves behind when its request has no process. -/
lemma refused_of_makes {o : Order} {r : Nat} {request : Request}
    (hm : x.Makes (.start o) r request) (hp : request.process = none) :
    (∃ reason, request.progress = .resolved (startFailure o reason)) ∧
      (r ∉ x.controller.undelivered →
        (r ∈ (x.step (.start o)).controller.undelivered ↔ request.callback = true)) := by
  obtain ⟨doc, g, -, -, ⟨reason, rfl, hstep⟩ | ⟨l, rfl, -⟩⟩ := entered_of_makes hm
  · obtain rfl := hm.1
    refine ⟨⟨reason, rfl⟩, fun hfresh => ?_⟩
    rw [hstep]
    by_cases hcb : o.callback = true <;>
      simp [Controller.enterRefused, refusedRequest, hcb, hfresh, deregister]
  · exact absurd hp (by simp [acceptedRequest])

/-- The calls made in the course of some moves, for a request that stays as it is. -/
lemma delivered_iff_of_same (h : x.Sound) (h' : y.Sound) {more : List Event}
    (hevents : y.events = x.events ++ more) {r : Nat} {request : Request}
    (hr : x.controller.requests[r]? = some request)
    (hr' : y.controller.requests[r]? = some request)
    (hdue : r ∈ y.controller.undelivered → r ∈ x.controller.undelivered) (o : Outcome) :
    .delivered r o ∈ more ↔ (r ∈ x.controller.undelivered ∧ r ∉ y.controller.undelivered) ∧
      request.called? = some o := by
  have hfilter : .delivered r o ∈ more ↔ .delivered r o ∈ more.filter (·.calls r) := by
    simp [Event.calls]
  have hcalls := h'.recorded.calls r
  rw [hevents, List.filter_append, h.recorded.calls r] at hcalls
  rw [hfilter]
  by_cases hmem : r ∈ x.controller.undelivered
  · rw [callsMade, if_pos hmem, List.nil_append] at hcalls
    rw [hcalls]
    by_cases hmem' : r ∈ y.controller.undelivered
    · simp [callsMade, hmem']
    · rw [callsMade_of_some hr' hmem']
      cases request.called? <;> simp [hmem, hmem', eq_comm]
  · have hmem' : r ∉ y.controller.undelivered := fun hin => hmem (hdue hin)
    rw [callsMade_of_some hr hmem, callsMade_of_some hr' hmem', List.append_right_eq_self] at hcalls
    simp [hcalls, hmem]

/-- A request that is settled when it is made stays as it is. -/
lemma request_of_made_settled (h : x.Sound) {m : Move} {r : Nat} {request : Request}
    (hm : x.Makes m r request) (hdone : request.progress ≠ .pending) (later : List Move) :
    ((x.step m).play later).controller.requests[r]? = some request := by
  have hmade : (x.step m).controller.requests[r]? = some request := by
    rw [hm.2, hm.1]
    simp
  exact request_play_of_settled (h.step m) hmade hdone later

/-- The callback of a failed start is called in the course of some moves if it was due before
them and one of them calls it. -/
lemma delivered_iff_of_refused (h : x.Sound) {o₁ : Order} {r₁ : Nat} {request₁ : Request}
    (h₁ : x.Makes (.start o₁) r₁ request₁) (hp : request₁.process = none)
    (between later : List Move) {more : List Event}
    (hevents : ((x.step (.start o₁)).play (between ++ later)).events =
      ((x.step (.start o₁)).play between).events ++ more) (o : Outcome) :
    .delivered r₁ o ∈ more ↔
      request₁.callback = true ∧ .deliver r₁ ∉ between ∧ .deliver r₁ ∈ later ∧
        request₁.progress = .resolved o := by
  have hnext := h.step (.start o₁)
  obtain ⟨⟨reason, hprogress⟩, hdue⟩ := refused_of_makes h₁ hp
  have hdone : request₁.progress ≠ .pending := by simp [hprogress]
  have hfresh : r₁ ∉ x.controller.undelivered := by
    intro hmem
    obtain ⟨request, hreq, -⟩ := h.linked.undelivered hmem
    rw [h₁.1] at hreq
    exact absurd (List.getElem?_eq_some_iff.mp hreq).1 (by simp)
  have hlt : r₁ < (x.step (.start o₁)).controller.requests.length := by
    rw [h₁.2, h₁.1]
    simp
  have hundelivered : ∀ moves, r₁ ∈ ((x.step (.start o₁)).play moves).controller.undelivered ↔
      request₁.callback = true ∧ .deliver r₁ ∉ moves := by
    intro moves
    rw [mem_undelivered_play hnext moves hlt, hdue hfresh]
  have hsettled := request_of_made_settled h h₁ hdone
  rw [delivered_iff_of_same (hnext.after between) (hnext.after (between ++ later)) hevents
    (hsettled between) (hsettled (between ++ later)), hundelivered, hundelivered,
    Request.called?_eq_some_iff, List.mem_append]
  · have hkind : ∀ o, request₁.progress = .resolved o → o.kind ≠ .superseded := by
      rintro o ho
      obtain rfl := Progress.resolved.inj (hprogress.symm.trans ho)
      simp [startFailure, Outcome.kind]
    constructor
    · rintro ⟨⟨⟨hcb, hbetween⟩, hcalled⟩, ho, -⟩
      refine ⟨hcb, hbetween, ?_, ho⟩
      by_contra hlater
      exact hcalled ⟨hcb, by simp [hbetween, hlater]⟩
    · rintro ⟨hcb, hbetween, hlater, ho⟩
      exact ⟨⟨⟨hcb, hbetween⟩, fun hin => hin.2 (.inr hlater)⟩, ho, hcb, hkind o ho⟩
  · rw [hundelivered, hundelivered, List.mem_append, not_or]
    exact fun hin => ⟨hin.1, hin.2.1⟩

/-! ## After a newer start -/

/-- Once a start has made a request, the callback of an earlier request of the same identity is
called only if the earlier start had failed, its callback was not called before, and a later move
calls it; it is called once then, with the failure that the request was resolved to at once. -/
theorem calls_after_newer_start (documents : List Document) (before between later : List Move)
    {o₁ o₂ : Order} {r₁ r₂ : Nat} {request₁ request₂ : Request}
    (h₁ : ((Run.begin documents).play before).Makes (.start o₁) r₁ request₁)
    (h₂ : ((Run.begin documents).play (before ++ .start o₁ :: between)).Makes (.start o₂) r₂
      request₂)
    (hid : request₂.identity = request₁.identity) :
    ∃ more,
      ((Run.begin documents).play
          (before ++ .start o₁ :: between ++ .start o₂ :: later)).events =
        ((Run.begin documents).play (before ++ .start o₁ :: between ++ [.start o₂])).events ++
          more ∧
      (more.filter (·.calls r₁)).length ≤ 1 ∧
      (request₁.process = none → ∃ reason,
        request₁.progress = .resolved (startFailure o₁ reason)) ∧
      ∀ o, .delivered r₁ o ∈ more ↔
        request₁.process = none ∧ request₁.callback = true ∧ .deliver r₁ ∉ between ∧
          .deliver r₁ ∈ later ∧ request₁.progress = .resolved o := by
  have hsound := Sound.play documents before
  set x := (Run.begin documents).play before with hx
  have hmid : (Run.begin documents).play (before ++ .start o₁ :: between) =
      (x.step (.start o₁)).play between := by simp [hx]
  have hreturned : (Run.begin documents).play (before ++ .start o₁ :: between ++ [.start o₂]) =
      ((x.step (.start o₁)).play between).step (.start o₂) := by simp [hx]
  have hlast : (Run.begin documents).play
      (before ++ .start o₁ :: between ++ .start o₂ :: later) =
      (((x.step (.start o₁)).play between).step (.start o₂)).play later := by simp [hx]
  rw [hmid] at h₂
  have hsound₂ := ((hsound.step (.start o₁)).after between).step (.start o₂)
  obtain ⟨more, hmore, hmay⟩ := exists_mayCall hsound₂ later
  refine ⟨more, by rw [hlast, hreturned, hmore], ?_, fun hp => (refused_of_makes h₁ hp).1, ?_⟩
  · have honce := callsMade_length
      ((((x.step (.start o₁)).play between).step (.start o₂)).play later).controller r₁
    rw [← (hsound₂.after later).recorded.calls r₁, hmore, List.filter_append,
      List.length_append] at honce
    omega
  · intro o
    cases hp : request₁.process with
    | none =>
      have hevents : ((x.step (.start o₁)).play ((between ++ [.start o₂]) ++ later)).events =
          ((x.step (.start o₁)).play (between ++ [.start o₂])).events ++ more := by
        simpa using hmore
      have hiff := delivered_iff_of_refused hsound h₁ hp _ _ hevents o
      simpa using hiff
    | some p =>
      refine iff_of_false (fun hmem => ?_) (by simp)
      obtain ⟨pre, m, post, -, hcall⟩ := hmay r₁ o hmem
      exact not_mayCall_after_newer_start hsound h₁ hp h₂ hid m hcall

/-- An order whose process the operating system refuses to start, and its request. -/
def refusedOrder : Order := { plainOrder with refusal := some (.system (.missing [])) }

def lateRequest : Request :=
  refusedRequest refusedOrder "A" .kotlin (SystemError.missing []).message

/-- A second start makes a request for the same identity, and afterwards the callback of the
first one, which had failed, is called all the same. -/
theorem late_call_of_failed_start :
    (Run.begin [plainDocument]).Makes (.start refusedOrder) 0 lateRequest ∧
    ((Run.begin [plainDocument]).play [.start refusedOrder]).Makes (.start plainOrder) 1
      { identity := "A", grammar := .kotlin, process := some 0, callback := true } ∧
    lateRequest.identity = "A" ∧
    ((Run.begin [plainDocument]).play
        [.start refusedOrder, .start plainOrder, .deliver 0]).events =
      ((Run.begin [plainDocument]).play [.start refusedOrder, .start plainOrder]).events ++
        [.delivered 0 (startFailure refusedOrder (SystemError.missing []).message)] :=
  ⟨⟨rfl, rfl⟩, ⟨rfl, rfl⟩, rfl, rfl⟩

/-- The late call is made with the failure that its request was resolved to. -/
theorem late_call_once :
    ∃ more,
      ((Run.begin [plainDocument]).play
          [.start refusedOrder, .start plainOrder, .deliver 0, .deliver 0]).events =
        ((Run.begin [plainDocument]).play [.start refusedOrder, .start plainOrder]).events ++
          more ∧
      (more.filter (·.calls 0)).length ≤ 1 ∧
      .delivered 0 (startFailure refusedOrder (SystemError.missing []).message) ∈ more := by
  have hearlier : (Run.begin [plainDocument]).Makes (.start refusedOrder) 0 lateRequest :=
    ⟨rfl, rfl⟩
  have hnewer : ((Run.begin [plainDocument]).play [.start refusedOrder]).Makes
      (.start plainOrder) 1
      { identity := "A", grammar := .kotlin, process := some 0, callback := true } := ⟨rfl, rfl⟩
  obtain ⟨more, hevents, honce, -, hcalls⟩ :=
    calls_after_newer_start [plainDocument] [] [] [.deliver 0, .deliver 0] hearlier hnewer rfl
  exact ⟨more, hevents, honce, (hcalls _).mpr ⟨rfl, rfl, by simp, by simp, rfl⟩⟩

end Run
end GradleLint
