import GradleLint.Proofs.Controller.Mirror
import Mathlib.Data.List.Forall2

/-!
# Identities do not interfere

`Run.addressed` keeps of some moves those that are addressed to an identity.  Replayed on a
controller that has only the documents of the identity, they come to a mirror of the run
(`isolation`): the same entry in the registry, the same requests at the same points, the same
callbacks due and running, and the same events, all in the same order.

A move that is left out does not show in the mirror because it leaves alone what belongs to the
identity (`Run.untouched_step`).  A move that is kept does the same on both sides
(`Run.mirrors_step`); shutdowns are kept, and of all that they displace only the process of the
identity shows (`Controller.filter_shutdown`).
-/

namespace GradleLint

/-! ## Being the same event -/

/-- Two events are the same, but for the numbers of the process or the request. -/
inductive Event.Alike (identity : Text) (s t : Controller) : Event → Event → Prop where
  | superseding {k p : Nat} (hk : (s.processesOf identity)[k]? = some p) :
    Alike identity s t (.logged (.superseding (Controller.pidOf p) identity))
      (.logged (.superseding (Controller.pidOf k) identity))
  | killed {k p : Nat} (hk : (s.processesOf identity)[k]? = some p) :
    Alike identity s t (.killed (Controller.pidOf p)) (.killed (Controller.pidOf k))
  | resolved {k r : Nat} {o o' : Outcome} (hk : (s.requestsOf identity)[k]? = some r)
    (ho : o.Alike (s.pid? r) (t.pid? k) o') :
    Alike identity s t (.resolved r o) (.resolved k o')
  | failed {k r : Nat} (hk : (s.requestsOf identity)[k]? = some r) (e : SystemError) :
    Alike identity s t (.failed r e) (.failed k e)
  | delivered {k r : Nat} {o o' : Outcome} (hk : (s.requestsOf identity)[k]? = some r)
    (ho : o.Alike (s.pid? r) (t.pid? k) o') :
    Alike identity s t (.delivered r o) (.delivered k o')

namespace Controller

variable {s s' t t' : Controller} {identity : Text}

namespace Mirrors

/-- What was the same event stays so. -/
lemma alike_of_grows (h : Mirrors identity s t) (hs : s.Grows identity s')
    (ht : t.Grows identity t') {e e' : Event} (he : e.Alike identity s t e') :
    e.Alike identity s' t' e' := by
  have hpids : ∀ {k r : Nat}, (s.requestsOf identity)[k]? = some r →
      s'.pid? r = s.pid? r ∧ t'.pid? k = t.pid? k := by
    intro k r hk
    have hlt := (List.getElem?_eq_some_iff.mp hk).1
    rw [← h.request_count] at hlt
    exact ⟨hs.pid r (lt_of_mem_requestsOf (List.mem_of_getElem? hk)), ht.pid k hlt⟩
  cases he with
  | superseding hk => exact .superseding (getElem?_of_isPrefix hs.processes hk)
  | killed hk => exact .killed (getElem?_of_isPrefix hs.processes hk)
  | resolved hk ho =>
    obtain ⟨hpid, hpid'⟩ := hpids hk
    exact .resolved (getElem?_of_isPrefix hs.requests hk) (by rwa [hpid, hpid'])
  | failed hk e => exact .failed (getElem?_of_isPrefix hs.requests hk) e
  | delivered hk ho =>
    obtain ⟨hpid, hpid'⟩ := hpids hk
    exact .delivered (getElem?_of_isPrefix hs.requests hk) (by rwa [hpid, hpid'])

end Mirrors

/-! ## Displacing -/

/-- A displacement shows the same on both sides. -/
lemma Mirrors.displaced (h : Mirrors identity s t) {sc tc : List Nat} (hls : Linked s sc)
    (hlt : Linked t tc) (hs : s.processesOf identity <+: s'.processesOf identity)
    (ht : t.processesOf identity <+: t'.processesOf identity) :
    List.Forall₂ (Event.Alike identity s' t')
      ((s.displace identity).2.1.filter (·.concerns s' identity))
      ((t.displace identity).2.1.filter (·.concerns t' identity)) := by
  cases hc : t.current? identity with
  | none =>
    have hc' : s.current? identity = none := by rw [h.current, hc, Option.bind_none]
    rw [displace_events_of_none hc, displace_events_of_none hc']
    exact .nil
  | some k =>
    obtain ⟨proc', request', doc', hs', -⟩ := hlt.current hc
    have hk := (List.getElem?_eq_some_iff.mp hs'.has_process).1
    have hmem := h.mem_processesOf hk
    rw [h.process_count] at hk
    have hp := List.getElem?_eq_getElem hk
    have hc' := (h.current_iff hp).mp hc
    obtain ⟨proc, request, doc, hserves, -⟩ := hls.current hc'
    obtain ⟨d, r, -, -, hproc⟩ := h.process hp hserves.has_process
    rw [displace_events_of_current hc hproc, displace_events_of_current hc' hserves.has_process,
      Event.filter_concerns_displaceEvents (hs.subset (List.getElem_mem hk)),
      Event.filter_concerns_displaceEvents (ht.subset hmem)]
    have hnext := getElem?_of_isPrefix hs hp
    refine .cons (.superseding hnext) ?_
    show List.Forall₂ _ _ (if proc.ended.isSome then [] else [Event.killed (pidOf k)])
    by_cases hended : proc.ended.isSome = true
    · rw [if_pos hended, if_pos hended]
      exact .nil
    · rw [if_neg hended, if_neg hended]
      exact .cons (.killed hnext) .nil

end Controller

/-! ## Being the same run -/

namespace Run

open Controller

/-- A run that holds of another one what belongs to an identity: the state, how often each
callback is running, and the events. -/
structure Mirrors (identity : Text) (x y : Run) : Prop where
  controller : Controller.Mirrors identity x.controller y.controller
  calling : ∀ {k p : Nat}, (x.controller.processesOf identity)[k]? = some p →
    y.calling.count k = x.calling.count p
  about : List.Forall₂ (Event.Alike identity x.controller y.controller) (x.about identity)
    (y.about identity)

variable {x y : Run} {identity : Text}

lemma about_step (h : x.Sound) {m : Move} {more : List Event}
    (he : (x.step m).events = x.events ++ more) :
    (x.step m).about identity =
      x.about identity ++ more.filter (·.concerns (x.step m).controller identity) := by
  have hold : x.events.filter (·.concerns (x.step m).controller identity) = x.about identity :=
    List.filter_congr fun e => concerns_of_grows h (grows_step h m identity)
  rw [about, he, List.filter_append, hold]

lemma not_mem_calling_of_le (h : x.Sound) {p : Nat} (hp : x.controller.processes.length ≤ p) :
    p ∉ x.calling := by
  intro hmem
  obtain ⟨proc, hproc, -⟩ := h.linked.calling hmem
  exact absurd (List.getElem?_eq_some_iff.mp hproc).1 (Nat.not_lt.mpr hp)

/-- No callback of a new process is running. -/
lemma Mirrors.calling_of_grows (h : x.Mirrors identity y) (hx : x.Sound) (hy : y.Sound)
    {s' : Controller} (hg : x.controller.Grows identity s') {k p : Nat}
    (hk : (s'.processesOf identity)[k]? = some p) : y.calling.count k = x.calling.count p := by
  by_cases hold : k < (x.controller.processesOf identity).length
  · refine h.calling ?_
    rw [← hk, List.getElem?_eq_getElem hold]
    exact (getElem?_of_isPrefix hg.processes (List.getElem?_eq_getElem hold)).symm
  · have hnew : p ∉ x.controller.processesOf identity := by
      intro hp
      obtain ⟨j, hj⟩ := List.mem_iff_getElem?.mp hp
      obtain rfl := index_unique List.nodup_idxsOf (getElem?_of_isPrefix hg.processes hj) hk
      exact hold (List.getElem?_eq_some_iff.mp hj).1
    have hle := hg.new_process p (List.mem_of_getElem? hk) hnew
    have hle' : y.controller.processes.length ≤ k := by
      rw [h.controller.process_count]
      exact Nat.le_of_not_lt hold
    rw [List.count_eq_zero.mpr (not_mem_calling_of_le hx hle),
      List.count_eq_zero.mpr (not_mem_calling_of_le hy hle')]

/-- A move on both sides, by what it does to the state and to the callbacks that are running, and
by what is new of the events. -/
lemma Mirrors.next (h : x.Mirrors identity y) (hx : x.Sound) (hy : y.Sound) {m m' : Move}
    {x' y' : Run} (hm : x.step m = x') (hm' : y.step m' = y')
    (hc : Controller.Mirrors identity x'.controller y'.controller)
    (hcalling : ∀ {k p : Nat}, (x'.controller.processesOf identity)[k]? = some p →
      y'.calling.count k = x'.calling.count p)
    {more more' : List Event} (he : x'.events = x.events ++ more)
    (he' : y'.events = y.events ++ more')
    (hmore : List.Forall₂ (Event.Alike identity x'.controller y'.controller)
      (more.filter (·.concerns x'.controller identity))
      (more'.filter (·.concerns y'.controller identity))) :
    (x.step m).Mirrors identity (y.step m') := by
  subst hm hm'
  refine ⟨hc, hcalling, ?_⟩
  rw [about_step hx he, about_step hy he']
  refine List.rel_append (h.about.imp fun e e' => ?_) hmore
  exact h.controller.alike_of_grows (grows_step hx m identity) (grows_step hy m' identity)

/-- A move on both sides that neither calls back nor ends a callback. -/
lemma Mirrors.advance (h : x.Mirrors identity y) (hx : x.Sound) (hy : y.Sound) {m m' : Move}
    {c c' : Controller} {more more' : List Event} (hm : x.step m = x.advance c more)
    (hm' : y.step m' = y.advance c' more') (hc : Controller.Mirrors identity c c')
    (hmore : x.controller.Grows identity c → y.controller.Grows identity c' →
      List.Forall₂ (Event.Alike identity c c') (more.filter (·.concerns c identity))
        (more'.filter (·.concerns c' identity))) :
    (x.step m).Mirrors identity (y.step m') := by
  have hg := grows_step hx m identity
  have hg' := grows_step hy m' identity
  rw [hm, advance_controller] at hg
  rw [hm', advance_controller] at hg'
  exact h.next hx hy hm hm' hc (fun hk => h.calling_of_grows hx hy hg hk) rfl rfl (hmore hg hg')

/-! ## Moves that are addressed to the identity -/

/-- An edit of a document. -/
lemma mirrors_edit (h : x.Mirrors identity y) (hx : x.Sound) (hy : y.Sound) {k d : Nat}
    (hk : (x.controller.documentsOf identity)[k]? = some d) {f : Document → Document}
    (hf : ∀ doc, (f doc).identity = doc.identity) {m m' : Move}
    (hm : x.step m = x.advance (x.controller.updateDocument d f) [])
    (hm' : y.step m' = y.advance (y.controller.updateDocument k f) []) :
    (x.step m).Mirrors identity (y.step m') :=
  h.advance hx hy hm hm' (h.controller.updateDocument hk hf) fun _ _ => .nil

/-- A cancellation of the identity. -/
lemma mirrors_cancel (h : x.Mirrors identity y) (hx : x.Sound) (hy : y.Sound) {k d : Nat}
    (hk : (x.controller.documentsOf identity)[k]? = some d) :
    (x.step (.cancel d)).Mirrors identity (y.step (.cancel k)) := by
  obtain ⟨doc, hd, rfl⟩ := exists_of_mem_documentsOf (List.mem_of_getElem? hk)
  have hd' : y.controller.documents[k]? = some doc := (h.controller.document hk).trans hd
  refine h.advance hx hy (step_cancel hd) (step_cancel hd') ?_ fun hg hg' => ?_
  · rw [displace_controller, displace_controller]
    exact h.controller.deregister
  · exact h.controller.displaced hx.linked hy.linked hg.processes hg'.processes

/-- A shutdown. -/
lemma mirrors_shutdown (h : x.Mirrors identity y) (hx : x.Sound) (hy : y.Sound) :
    (x.step .shutdown).Mirrors identity (y.step .shutdown) := by
  refine h.advance hx hy rfl rfl ?_ fun _ _ => ?_
  · rw [shutdown_controller, shutdown_controller]
    exact { h.controller with current := rfl }
  · have hevents : ∀ {s : Controller} {calling : List Nat}, Linked s calling →
        s.shutdown.2.filter (·.concerns s.shutdown.1 identity) =
          (s.displace identity).2.1.filter (·.concerns s.shutdown.1 identity) := by
      intro s calling hl
      rw [shutdown_controller]
      exact filter_shutdown hl
    rw [hevents hx.linked, hevents hy.linked]
    refine h.controller.displaced hx.linked hy.linked ?_ ?_
    all_goals rw [shutdown_controller]; exact List.prefix_rfl

/-- A start for the identity. -/
lemma mirrors_start (h : x.Mirrors identity y) (hx : x.Sound) (hy : y.Sound) (o : Order)
    {k d : Nat} (hk : (x.controller.documentsOf identity)[k]? = some d) :
    (x.step (.start { o with document := d })).Mirrors identity
      (y.step (.start { o with document := k })) := by
  obtain ⟨doc, hd, rfl⟩ := exists_of_mem_documentsOf (List.mem_of_getElem? hk)
  have hd' : y.controller.documents[k]? = some doc := (h.controller.document hk).trans hd
  have hstep := step_start (o := { o with document := d }) hd
  have hstep' := step_start (o := { o with document := k }) hd'
  have hdisplaced : ∀ {c c' : Controller}, x.controller.Grows doc.identity c →
      y.controller.Grows doc.identity c' → List.Forall₂ (Event.Alike doc.identity c c') _ _ :=
    fun hg hg' => h.controller.displaced hx.linked hy.linked hg.processes hg'.processes
  cases begins o doc with
  | unsupported hg hstart =>
    rw [hstart] at hstep hstep'
    exact h.advance hx hy hstep hstep' h.controller fun _ _ => .nil
  | raised hg l e hstart =>
    rw [hstart] at hstep hstep'
    refine h.advance hx hy hstep hstep' h.controller.deregister fun hg hg' => ?_
    rw [Event.filter_concerns_append_remarks _ fun e => Event.isRemark_of_launched,
      Event.filter_concerns_append_remarks _ fun e => Event.isRemark_of_launched]
    exact hdisplaced hg hg'
  | @refused g hg l reason hstart =>
    rw [hstart] at hstep hstep'
    set request := refusedRequest o doc.identity g reason with hrequest
    have hid : request.identity = doc.identity := rfl
    have hentered := h.controller.deregister.enterRefused (hx.linked.deregister _)
      (hy.linked.deregister _) hid rfl ⟨_, rfl⟩
    have hnew : (((x.controller.deregister doc.identity).enterRefused request).requestsOf
        doc.identity)[y.controller.requests.length]? = some x.controller.requests.length := by
      rw [requestsOf_concat rfl, if_pos hid]
      exact getElem?_concat.mpr (.inr ⟨h.controller.request_count, rfl⟩)
    have hpid : ∀ s : Controller, (s.enterRefused request).pid? s.requests.length = none := by
      intro s
      simp [Controller.pid?, Controller.enterRefused, hrequest, refusedRequest, Request.pid?]
    refine h.advance hx hy hstep hstep' hentered fun hg hg' => ?_
    rw [Event.filter_concerns_refused (List.mem_of_getElem? hnew),
      Event.filter_concerns_refused (hentered.mem_requestsOf (by simp [enterRefused]))]
    exact List.rel_append (hdisplaced hg hg')
      (.cons (.resolved hnew (.unstarted _ (hpid _) (hpid _))) .nil)
  | @accepted g hg l hl hr hstart =>
    rw [hstart] at hstep hstep'
    have hs : (x.controller.deregister doc.identity).current? doc.identity = none := by simp
    have ht : (y.controller.deregister doc.identity).current? doc.identity = none := by simp
    have hentered := h.controller.deregister.enterAccepted (o := { o with document := d })
      (hx.linked.deregister _) (hy.linked.deregister _) hk hd rfl hs ht g l
    refine h.advance hx hy hstep hstep' hentered fun hg hg' => ?_
    rw [Event.filter_concerns_append_remarks _ (by simp),
      Event.filter_concerns_append_remarks _ (by simp)]
    exact hdisplaced hg hg'

/-! ### The end of a process -/

/-- Where two alike requests settle alike, the same happens. -/
lemma settling_alike {s t : Controller} {k r : Nat} (hk : (s.requestsOf identity)[k]? = some r)
    {request request' : Request} (hcallback : request'.callback = request.callback)
    (h : request.progress.Alike (s.pid? r) (t.pid? k) request'.progress) :
    List.Forall₂ (Event.Alike identity s t) (Recorded.settling r request)
      (Recorded.settling k request') := by
  unfold Recorded.settling Request.called?
  rw [hcallback]
  generalize request.progress = progress at h ⊢
  generalize request'.progress = progress' at h ⊢
  cases h with
  | pending => exact .nil
  | failed e => exact .cons (.failed hk e) .nil
  | @resolved o o' ho =>
    simp only [ho.kind]
    by_cases hcall : request.callback = true ∧ o.kind ≠ .superseded
    · rw [if_pos hcall, if_pos hcall]
      exact .cons (.resolved hk ho) (.cons (.delivered hk ho) .nil)
    · rw [if_neg hcall, if_neg hcall]
      exact .cons (.resolved hk ho) .nil

/-- What is shown of two alike requests that settle alike. -/
lemma settling_shown {s t : Controller} {k r : Nat} (hk : (s.requestsOf identity)[k]? = some r)
    (hmem : k ∈ t.requestsOf identity) {request request' : Request}
    (hcallback : request'.callback = request.callback) {progress progress' : Progress}
    (h : progress.Alike (s.pid? r) (t.pid? k) progress') {more more' : List Event}
    (hmore : ∀ e ∈ more, e.IsRemark) (hmore' : ∀ e ∈ more', e.IsRemark) :
    List.Forall₂ (Event.Alike identity s t)
      ((Recorded.settling r { request with progress } ++ more).filter (·.concerns s identity))
      ((Recorded.settling k { request' with progress := progress' } ++ more').filter
        (·.concerns t identity)) := by
  rw [Event.filter_concerns_settling (List.mem_of_getElem? hk) _ hmore,
    Event.filter_concerns_settling hmem _ hmore']
  exact settling_alike hk hcallback h

/-- What a process of the identity serves, on both sides. -/
lemma Mirrors.serves (h : x.Mirrors identity y) (hx : x.Sound) (hy : y.Sound) {k p : Nat}
    (hk : (x.controller.processesOf identity)[k]? = some p) :
    ∃ proc request doc d r request', x.controller.Serves p proc request doc ∧
      doc.identity = identity ∧ (x.controller.requestsOf identity)[r]? = some proc.request ∧
      y.controller.Serves k (proc.renumber d r) request' doc ∧
      request.Alike (x.controller.processesOf identity) request' := by
  have hmem := List.mem_of_getElem? hk
  obtain ⟨proc, -, hp, -⟩ := exists_of_mem_processesOf hmem
  obtain ⟨request, doc, hs⟩ := hx.linked.served hp
  obtain ⟨d, r, request', hr, ht, halike⟩ := h.controller.serves hy.linked hk hs
  exact ⟨proc, request, doc, d, r, request', hs, hs.mem_processesOf.mp hmem, hr, ht, halike⟩

/-- A process of the identity settles on both sides. -/
lemma mirrors_settle (h : x.Mirrors identity y) (hx : x.Sound) (hy : y.Sound) {k p d r : Nat}
    (hk : (x.controller.processesOf identity)[k]? = some p) {proc : Process}
    {request request' : Request} {doc : Document} (hs : x.controller.Serves p proc request doc)
    (hr : (x.controller.requestsOf identity)[r]? = some proc.request)
    (ht : y.controller.Serves k (proc.renumber d r) request' doc)
    (halike : request.Alike (x.controller.processesOf identity) request') {capture : Capture}
    {progress progress' : Progress}
    (hprogress : progress.Alike (some (pidOf p)) (some (pidOf k)) progress')
    {calling calling' : List Nat}
    (hcalling : calling = p :: x.calling ∧ calling' = k :: y.calling ∨
      calling = x.calling ∧ calling' = y.calling)
    {more more' : List Event} (hmore : ∀ e ∈ more, e.IsRemark)
    (hmore' : ∀ e ∈ more', e.IsRemark) {m m' : Move}
    (hm : x.step m = x.settle p proc request identity capture progress calling more)
    (hm' : y.step m' =
      y.settle k (proc.renumber d r) request' identity capture progress' calling' more') :
    (x.step m).Mirrors identity (y.step m') := by
  have hid : doc.identity = identity := hs.mem_processesOf.mp (List.mem_of_getElem? hk)
  have hback := halike.process_eq List.nodup_idxsOf hs.back hk
  have hr' : (((x.controller.withdraw p identity).settle p proc.request capture
      progress).requestsOf identity)[r]? = some proc.request := by
    rwa [requestsOf_settle, requestsOf_withdraw]
  have hmem : r ∈ ((y.controller.withdraw k identity).settle k r capture
      progress').requestsOf identity := by
    rw [requestsOf_settle, requestsOf_withdraw]
    exact ht.mem_requestsOf.mpr hid
  refine h.next hx hy hm hm' ?_ (fun {j q} hj => ?_) rfl rfl ?_
  · refine (h.controller.withdraw hk).settle ?_ ?_ capture fun old old' hold hsame => ?_
    · rwa [processesOf_withdraw]
    · rwa [requestsOf_withdraw]
    · rw [withdraw_requests] at hold
      rw [processesOf_withdraw] at hsame
      obtain rfl := hs.request_eq hold
      have hback' := hsame.process_eq List.nodup_idxsOf hs.back hk
      rwa [Request.pid?, Request.pid?, hs.back, hback']
  · rw [settle, processesOf_settle, processesOf_withdraw] at hj
    obtain ⟨rfl, rfl⟩ | ⟨rfl, rfl⟩ := hcalling
    · show (k :: y.calling).count j = (p :: x.calling).count q
      rw [List.count_cons, List.count_cons, h.calling hj]
      simp only [beq_iff_eq, index_eq_iff List.nodup_idxsOf hk hj]
    · exact h.calling hj
  · have hpid := pid?_settle (by rw [withdraw_requests]; exact hs.has_request) hs.back p capture
      progress (s := x.controller.withdraw p identity)
    have hpid' := pid?_settle (by rw [withdraw_requests]; exact ht.has_request) hback k capture
      progress' (s := y.controller.withdraw k identity)
    rw [← hpid, ← hpid'] at hprogress
    exact settling_shown hr' hmem halike.callback hprogress hmore hmore'

/-- The end of a process of the identity is dealt with. -/
lemma mirrors_complete (h : x.Mirrors identity y) (hx : x.Sound) (hy : y.Sound) {k p : Nat}
    (hk : (x.controller.processesOf identity)[k]? = some p) :
    (x.step (.complete p)).Mirrors identity (y.step (.complete k)) := by
  obtain ⟨proc, request, doc, d, r, request', hs, rfl, hr, ht, halike⟩ := h.serves hx hy hk
  by_cases hready : ∃ status output, proc.ended = some (status, output) ∧ proc.settled = false
  · obtain ⟨status, output, hended, hopen⟩ := hready
    by_cases hc : x.controller.current? doc.identity = some p
    · have hc' := (h.controller.current_iff hk).mpr hc
      have hstep := step_complete_of_current hx.linked hs hended hopen hc
      have hstep' := step_complete_of_current hy.linked ht hended hopen hc'
      rw [halike.callback] at hstep'
      refine mirrors_settle h hx hy hk hs hr ht halike (.resolved ?_) ?_ (by simp) (by simp)
        hstep hstep'
      · exact outcomeOf_alike rfl p k halike.grammar doc status output true
      · cases request.callback <;> simp
    · have hc' := mt (h.controller.current_iff hk).mp hc
      exact mirrors_settle h hx hy hk hs hr ht halike (.resolved .superseded) (.inr ⟨rfl, rfl⟩)
        (by simp) (by simp) (step_complete_of_displaced hx.linked hs hended hopen hc)
        (step_complete_of_displaced hy.linked ht hended hopen hc')
  · have hclosed : ∀ status output, proc.ended = some (status, output) → proc.settled = true := by
      intro status output hended
      by_contra hopen
      exact hready ⟨status, output, hended, Bool.eq_false_iff.mpr hopen⟩
    rw [step_complete_of_not_ready, step_complete_of_not_ready]
    · exact h
    · intro proc' status output hproc' hended
      obtain rfl := ht.process_eq hproc'
      exact hclosed status output hended
    · intro proc' status output hproc' hended
      obtain rfl := hs.process_eq hproc'
      exact hclosed status output hended

/-- Waiting for a process of the identity fails. -/
lemma mirrors_failWait (h : x.Mirrors identity y) (hx : x.Sound) (hy : y.Sound) {k p : Nat}
    (hk : (x.controller.processesOf identity)[k]? = some p) (e : SystemError) :
    (x.step (.failWait p e)).Mirrors identity (y.step (.failWait k e)) := by
  obtain ⟨proc, request, doc, d, r, request', hs, rfl, hr, ht, halike⟩ := h.serves hx hy hk
  by_cases hopen : proc.settled = false
  · exact mirrors_settle h hx hy hk hs hr ht halike (.failed e) (.inr ⟨rfl, rfl⟩) (by simp)
      (by simp) (step_failWait_of_open hs hopen e) (step_failWait_of_open ht hopen e)
  · have hsettled : proc.settled = true := by simpa using hopen
    rw [step_failWait_of_settled, step_failWait_of_settled]
    · exact h
    · intro proc' hproc'
      obtain rfl := ht.process_eq hproc'
      exact hsettled
    · intro proc' hproc'
      obtain rfl := hs.process_eq hproc'
      exact hsettled

/-- The callback of a process of the identity returns or fails. -/
lemma mirrors_conclude (h : x.Mirrors identity y) (hx : x.Sound) (hy : y.Sound) {k p : Nat}
    (hk : (x.controller.processesOf identity)[k]? = some p) (failure : Option Text) :
    (x.step (.conclude p failure)).Mirrors identity (y.step (.conclude k failure)) := by
  have hmem : k ∈ y.calling ↔ p ∈ x.calling := by
    rw [← List.count_pos_iff, ← List.count_pos_iff, h.calling hk]
  by_cases hp : p ∈ x.calling
  · have hstep := step_conclude_of_mem hx.linked hp failure
    have hstep' := step_conclude_of_mem hy.linked (hmem.mpr hp) failure
    have hreleased := h.controller.updateProcess hk
      (f := fun proc => { proc with capture := .released }) fun _ _ _ => rfl
    refine h.next hx hy hstep hstep' hreleased (fun {j q} hj => ?_) rfl rfl ?_
    · have hj : (x.controller.processesOf identity)[j]? = some q := by
        rwa [processesOf_release] at hj
      show (y.calling.erase k).count j = (x.calling.erase p).count q
      rw [List.count_erase, List.count_erase, h.calling hj]
      simp only [beq_iff_eq, index_eq_iff List.nodup_idxsOf hk hj]
    · rw [Event.filter_concerns_of_remarks fun e => Event.isRemark_of_crashed,
        Event.filter_concerns_of_remarks fun e => Event.isRemark_of_crashed]
      exact .nil
  · rw [step_conclude_of_not_mem hp, step_conclude_of_not_mem (mt hmem.mp hp)]
    exact h

/-- The callback of a request for the identity whose start failed is called. -/
lemma mirrors_deliver (h : x.Mirrors identity y) (hx : x.Sound) (hy : y.Sound) {k r : Nat}
    (hk : (x.controller.requestsOf identity)[k]? = some r) :
    (x.step (.deliver r)).Mirrors identity (y.step (.deliver k)) := by
  have hmem := h.controller.undelivered hk
  by_cases hr : r ∈ x.controller.undelivered
  · obtain ⟨request, o, hrequest, hprogress⟩ := exists_resolved_of_undelivered hx.linked hr
    obtain ⟨request', hrequest', halike⟩ := h.controller.request hk hrequest
    have hsame := halike.progress
    rw [hprogress] at hsame
    generalize hprogress' : request'.progress = progress' at hsame
    cases hsame with
    | @resolved _ o' ho =>
      refine h.advance hx hy
        (step_deliver_of_undelivered hr (o := o) (by simp [progress?, hrequest, hprogress]))
        (step_deliver_of_undelivered (hmem.mpr hr) (o := o')
          (by simp [progress?, hrequest', hprogress']))
        (h.controller.deliver hx.linked hy.linked hk) fun _ _ => ?_
      have hmem' := h.controller.mem_requestsOf (List.getElem?_eq_some_iff.mp hrequest').1
      rw [List.filter_cons_of_pos, List.filter_cons_of_pos]
      · refine .cons (.delivered hk ?_) .nil
        simpa [Controller.pid?, hrequest, hrequest'] using ho
      · rw [Event.concerns_delivered]
        exact decide_eq_true hmem'
      · rw [Event.concerns_delivered]
        exact decide_eq_true (List.mem_of_getElem? hk)
  · rw [step_deliver_of_not_undelivered hr, step_deliver_of_not_undelivered (mt hmem.mp hr)]
    exact h

/-- A move that is addressed to the identity does the same on both sides. -/
lemma mirrors_step (h : x.Mirrors identity y) (hx : x.Sound) (hy : y.Sound) {m m' : Move}
    (hm : m.addressed? x.controller identity = some m') :
    (x.step m).Mirrors identity (y.step m') := by
  cases m with
  | shutdown =>
    obtain rfl : .shutdown = m' := by simpa [Move.addressed?] using hm
    exact mirrors_shutdown h hx hy
  | raise message => exact absurd hm (by simp [Move.addressed?])
  | start o =>
    obtain ⟨k, hk, rfl⟩ := Option.map_eq_some_iff.mp hm
    exact mirrors_start h hx hy o (getElem?_of_idxOf? hk)
  | cancel d =>
    obtain ⟨k, hk, rfl⟩ := Option.map_eq_some_iff.mp hm
    exact mirrors_cancel h hx hy (getElem?_of_idxOf? hk)
  | update d content =>
    obtain ⟨k, hk, rfl⟩ := Option.map_eq_some_iff.mp hm
    exact mirrors_edit h hx hy (getElem?_of_idxOf? hk) (f := (·.update content)) (fun _ => rfl)
      rfl rfl
  | rename d path =>
    obtain ⟨k, hk, rfl⟩ := Option.map_eq_some_iff.mp hm
    exact mirrors_edit h hx hy (getElem?_of_idxOf? hk) (f := fun doc => { doc with path })
      (fun _ => rfl) rfl rfl
  | finish p status output =>
    obtain ⟨k, hk, rfl⟩ := Option.map_eq_some_iff.mp hm
    have hfinish := h.controller.updateProcess (getElem?_of_idxOf? hk)
      (f := fun proc => { proc with ended := some (status, output) }) fun _ _ _ => rfl
    exact h.advance hx hy rfl rfl hfinish fun _ _ => .nil
  | complete p =>
    obtain ⟨k, hk, rfl⟩ := Option.map_eq_some_iff.mp hm
    exact mirrors_complete h hx hy (getElem?_of_idxOf? hk)
  | conclude p failure =>
    obtain ⟨k, hk, rfl⟩ := Option.map_eq_some_iff.mp hm
    exact mirrors_conclude h hx hy (getElem?_of_idxOf? hk) failure
  | failWait p e =>
    obtain ⟨k, hk, rfl⟩ := Option.map_eq_some_iff.mp hm
    exact mirrors_failWait h hx hy (getElem?_of_idxOf? hk) e
  | deliver r =>
    obtain ⟨k, hk, rfl⟩ := Option.map_eq_some_iff.mp hm
    exact mirrors_deliver h hx hy (getElem?_of_idxOf? hk)

/-! ## Runs -/

/-- Of some moves those that are addressed to an identity, as they are made in a controller that
has nothing but what belongs to the identity. -/
def addressed (identity : Text) (x : Run) : List Move → List Move
  | [] => []
  | m :: rest => (m.addressed? x.controller identity).toList ++ addressed identity (x.step m) rest

/-- A controller that has only the documents of the identity, before the first move. -/
lemma mirrors_begin (documents : List Document) (identity : Text) :
    (Run.begin documents).Mirrors identity
      (Run.begin (documents.filter (·.identity == identity))) where
  controller := {
    document := by
      intro k d hk
      have hidxs : (Run.begin documents).controller.documentsOf identity =
          documents.findIdxs (·.identity == identity) := List.idxsOf_map
      rw [hidxs] at hk
      obtain ⟨hlt, rfl⟩ := List.getElem?_eq_some_iff.mp hk
      have hlt' : k < (documents.filter (·.identity == identity)).length := by
        rwa [List.length_findIdxs, List.countP_eq_length_filter] at hlt
      show (documents.filter (·.identity == identity))[k]? = documents[_]?
      rw [List.getElem?_eq_getElem hlt', List.getElem_filter_eq_getElem_getElem_findIdxs hlt',
        List.getElem?_eq_getElem]
    process_count := rfl
    process := by simp [Run.begin, processesOf, processIdentities]
    request_count := rfl
    request := by simp [Run.begin, requestsOf, requestIdentities]
    current := rfl
    undelivered := by simp [Run.begin] }
  calling := by simp [Run.begin]
  about := .nil

/-- What happens elsewhere does not show in the mirror. -/
lemma Mirrors.of_untouched (h : x.Mirrors identity y) (hx : x.Sound) {m : Move}
    (hu : x.Untouched identity (x.step m)) : (x.step m).Mirrors identity y where
  controller := h.controller.of_untouched hu.controller
  calling := by
    intro k p hk
    rw [hu.controller.processes] at hk
    rw [h.calling hk, hu.calling p (List.mem_of_getElem? hk)]
  about := by
    rw [hu.about]
    exact h.about.imp fun e e' =>
      h.controller.alike_of_grows (grows_step hx m identity) (.refl identity _)

/-- Moves of a run, and those among them that are addressed to the identity in its mirror. -/
lemma mirrors_play (h : x.Mirrors identity y) (hx : x.Sound) (hy : y.Sound) (moves : List Move) :
    (x.play moves).Mirrors identity (y.play (x.addressed identity moves)) := by
  induction moves generalizing x y with
  | nil => exact h
  | cons m rest ih =>
    rw [play_cons, addressed, play_append]
    cases hm : m.addressed? x.controller identity with
    | none => exact ih (h.of_untouched hx (untouched_step hx hm)) (hx.step m) hy
    | some m' => exact ih (mirrors_step h hx hy hm) (hx.step m) (hy.step m')

/-- Keep of the moves of a run those that are addressed to an identity and make them on a new
controller that has only the documents of the identity.  Then the identity has the same entry in
the registry, its requests stand at the same points with the same outcomes, the same callbacks
are due and running, and the same processes have been displaced and killed, the same requests
settled and the same callbacks called, all in the same order.  A move that is left out leaves
alone everything that belongs to the identity. -/
theorem isolation (documents : List Document) (moves : List Move) (identity : Text) :
    ((Run.begin documents).play moves).Mirrors identity
      ((Run.begin (documents.filter (·.identity == identity))).play
        ((Run.begin documents).addressed identity moves)) ∧
    ∀ m : Move, m.addressed? ((Run.begin documents).play moves).controller identity = none →
      ((Run.begin documents).play moves).Untouched identity
        ((Run.begin documents).play (moves ++ [m])) := by
  refine ⟨?_, fun m hm => ?_⟩
  · exact mirrors_play (mirrors_begin documents identity) (.begin documents) (.begin _) moves
  · rw [play_append]
    exact untouched_step (Sound.play documents moves) hm

/-- A second document, for runs that are written out. -/
def otherDocument : Document := { plainDocument with identity := "B" }

/-- A start for the second document, while a process for the first one is running. -/
theorem untouched_by_second_document :
    (Move.start { plainOrder with document := 1 }).addressed?
        ((Run.begin [plainDocument, otherDocument]).play [.start plainOrder]).controller "A" =
      none ∧
    ((Run.begin [plainDocument, otherDocument]).play [.start plainOrder]).Untouched "A"
      ((Run.begin [plainDocument, otherDocument]).play
        [.start plainOrder, .start { plainOrder with document := 1 }]) := by
  have hnone : (Move.start { plainOrder with document := 1 }).addressed?
      ((Run.begin [plainDocument, otherDocument]).play [.start plainOrder]).controller "A" =
        none := rfl
  exact ⟨hnone, (isolation [plainDocument, otherDocument] [.start plainOrder] "A").2 _ hnone⟩

/-- The process with number 1 is the first one of the first document. -/
example :
    (Run.begin [plainDocument, otherDocument]).addressed "A"
      [.start { plainOrder with document := 1 }, .start plainOrder, .finish 0 0 [], .shutdown,
        .finish 1 0 [], .complete 1] =
      [.start plainOrder, .shutdown, .finish 0 0 [], .complete 0] := rfl

end Run
end GradleLint
