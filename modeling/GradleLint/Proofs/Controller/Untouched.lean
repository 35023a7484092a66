import GradleLint.Proofs.Controller.Identity

/-!
# Moves that are not addressed to an identity

A move is addressed to an identity if it names a document, a request or a process of it, or if it
is a shutdown (`Move.addressed?`).  Every other move leaves alone what belongs to the identity:
its documents, its requests and processes, its entry in the registry, the callbacks that are due
or running, and the events that concern it (`untouched_step`).
-/

namespace GradleLint

/-- A move as it is made in a controller that knows nothing but what belongs to one identity:
what the move names has there the number that it has among what belongs to the identity.  There
is none for a move that is not addressed to the identity. -/
def Move.addressed? (s : Controller) (identity : Text) : Move → Option Move
  | .start o =>
    ((s.documentsOf identity).idxOf? o.document).map fun d => .start { o with document := d }
  | .cancel d => ((s.documentsOf identity).idxOf? d).map .cancel
  | .shutdown => some .shutdown
  | .update d content => ((s.documentsOf identity).idxOf? d).map (.update · content)
  | .rename d path => ((s.documentsOf identity).idxOf? d).map (.rename · path)
  | .finish p status output =>
    ((s.processesOf identity).idxOf? p).map (.finish · status output)
  | .complete p => ((s.processesOf identity).idxOf? p).map .complete
  | .conclude p failure => ((s.processesOf identity).idxOf? p).map (.conclude · failure)
  | .failWait p e => ((s.processesOf identity).idxOf? p).map (.failWait · e)
  | .deliver r => ((s.requestsOf identity).idxOf? r).map .deliver
  | .raise _ => none

/-! ## Changes elsewhere -/

namespace Controller

/-- What belongs to an identity is the same in two states. -/
structure Untouched (identity : Text) (s s' : Controller) : Prop where
  documents : s'.documentsOf identity = s.documentsOf identity
  requests : s'.requestsOf identity = s.requestsOf identity
  processes : s'.processesOf identity = s.processesOf identity
  document : ∀ d ∈ s.documentsOf identity, s'.documents[d]? = s.documents[d]?
  request : ∀ r ∈ s.requestsOf identity, s'.requests[r]? = s.requests[r]?
  process : ∀ p ∈ s.processesOf identity, s'.processes[p]? = s.processes[p]?
  current : s'.current? identity = s.current? identity
  undelivered : ∀ r ∈ s.requestsOf identity, r ∈ s'.undelivered ↔ r ∈ s.undelivered

variable {s s' : Controller} {identity : Text}

namespace Untouched

lemma refl (s : Controller) : Untouched identity s s :=
  ⟨rfl, rfl, rfl, fun _ _ => rfl, fun _ _ => rfl, fun _ _ => rfl, rfl, fun _ _ => Iff.rfl⟩

lemma trans {t : Controller} (h : Untouched identity s s') (h' : Untouched identity s' t) :
    Untouched identity s t where
  documents := h'.documents.trans h.documents
  requests := h'.requests.trans h.requests
  processes := h'.processes.trans h.processes
  document d hd := (h'.document d (h.documents ▸ hd)).trans (h.document d hd)
  request r hr := (h'.request r (h.requests ▸ hr)).trans (h.request r hr)
  process p hp := (h'.process p (h.processes ▸ hp)).trans (h.process p hp)
  current := h'.current.trans h.current
  undelivered r hr := (h'.undelivered r (h.requests ▸ hr)).trans (h.undelivered r hr)

lemma deregister (s : Controller) {other : Text} (hne : other ≠ identity) :
    Untouched identity s (s.deregister other) :=
  { refl s with current := by rw [current?_deregister, if_neg (Ne.symm hne)] }

lemma withdraw (s : Controller) (p : Nat) {other : Text} (hne : other ≠ identity) :
    Untouched identity s (s.withdraw p other) := by
  unfold Controller.withdraw
  split
  · exact deregister s hne
  · exact refl s

lemma request_concat {request : Request} (hs : s'.requests = s.requests ++ [request]) {r : Nat}
    (hr : r ∈ s.requestsOf identity) : s'.requests[r]? = s.requests[r]? := by
  obtain ⟨old, hold, -⟩ := exists_of_mem_requestsOf hr
  rw [hs, hold]
  exact getElem?_concat_of_some hold

lemma enterRefused (s : Controller) {request : Request} (hne : request.identity ≠ identity) :
    Untouched identity s (s.enterRefused request) :=
  { refl s with
    requests := by rw [requestsOf_concat rfl, if_neg hne, List.append_nil]
    request := fun _ => request_concat rfl
    undelivered := by
      intro r hr
      obtain ⟨old, hold, -⟩ := exists_of_mem_requestsOf hr
      have hlt := (List.getElem?_eq_some_iff.mp hold).1
      by_cases hcb : request.callback = true
      · simp [Controller.enterRefused, hcb, Nat.ne_of_lt hlt]
      · simp [Controller.enterRefused, hcb] }

lemma enterAccepted {request : Request} {proc : Process} {doc : Document}
    (hd : s.documents[proc.document]? = some doc) (hid : doc.identity ≠ identity)
    (hne : request.identity ≠ identity) (hnone : s.current? request.identity = none) :
    Untouched identity s (s.enterAccepted request proc) :=
  { refl s with
    requests := by rw [requestsOf_concat rfl, if_neg hne, List.append_nil]
    request := fun _ => request_concat rfl
    processes := by rw [processesOf_enterAccepted request hd, if_neg hid, List.append_nil]
    process := by
      intro p hp
      obtain ⟨old, -, hold, -⟩ := exists_of_mem_processesOf hp
      rw [hold]
      exact getElem?_concat_of_some hold
    current := by rw [current?_enterAccepted proc hnone, if_neg (Ne.symm hne)] }

lemma updateDocument (s : Controller) {d : Nat} {f : Document → Document}
    (hd : d ∉ s.documentsOf identity) (hf : ∀ doc, (f doc).identity = doc.identity) :
    Untouched identity s (s.updateDocument d f) :=
  { refl s with
    documents := documentsOf_updateDocument hf s d identity
    processes := processesOf_updateDocument hf s d identity
    document := by
      intro other hother
      have hne : d ≠ other := fun heq => hd (heq ▸ hother)
      exact List.getElem?_modify_ne f s.documents hne }

lemma updateProcess (s : Controller) {p : Nat} {f : Process → Process}
    (hp : p ∉ s.processesOf identity) (hf : ∀ proc, (f proc).document = proc.document) :
    Untouched identity s (s.updateProcess p f) :=
  { refl s with
    processes := processesOf_updateProcess hf s p identity
    process := by
      intro q hq
      have hne : p ≠ q := fun heq => hp (heq ▸ hq)
      exact List.getElem?_modify_ne f s.processes hne }

lemma updateRequest (s : Controller) {r : Nat} {f : Request → Request}
    (hr : r ∉ s.requestsOf identity) (hf : ∀ request, (f request).identity = request.identity) :
    Untouched identity s (s.updateRequest r f) :=
  { refl s with
    requests := requestsOf_updateRequest hf s r identity
    request := by
      intro q hq
      have hne : r ≠ q := fun heq => hr (heq ▸ hq)
      exact List.getElem?_modify_ne f s.requests hne }

lemma settle (s : Controller) {p r : Nat} (hp : p ∉ s.processesOf identity)
    (hr : r ∉ s.requestsOf identity) (capture : Capture) (progress : Progress) :
    Untouched identity s (s.settle p r capture progress) := by
  have hprocess : Untouched identity s
      (s.updateProcess p fun proc => { proc with capture, settled := true }) :=
    updateProcess s hp fun _ => rfl
  refine hprocess.trans (updateRequest _ ?_ fun _ => rfl)
  rw [hprocess.requests]
  exact hr

lemma deliver (s : Controller) {r : Nat} (hr : r ∉ s.requestsOf identity) :
    Untouched identity s { s with undelivered := s.undelivered.erase r } :=
  { refl s with
    undelivered := by
      intro q hq
      have hne : q ≠ r := fun heq => hr (heq ▸ hq)
      exact List.mem_erase_of_ne hne }

end Untouched

/-- The events that displace the process of another identity. -/
lemma concerns_of_mem_displace {calling : List Nat} (hl : Linked s calling) {other : Text}
    (hne : other ≠ identity) {e : Event} (he : e ∈ (s.displace other).2.1) :
    e.concerns s identity = false := by
  obtain ⟨p, hc, hd⟩ := mem_displace_events he
  refine Event.concerns_eq_false_iff.mpr ⟨fun q hq => ?_, fun r _ => hd.isQuiet r⟩
  rw [Bool.eq_false_iff]
  intro hs
  obtain rfl := hd.eq_of_strikes hs
  obtain ⟨proc, request, doc, hserves, -, hid⟩ := hl.current hc
  exact hne (hid.symm.trans (hserves.mem_processesOf.mp hq))

/-- Of all that several displacements show, only the displacement of its own process concerns an
identity. -/
lemma filter_displaceAll {calling : List Nat} (hl : Linked s calling) (identities : List Text) :
    (s.displaceAll identities).2.filter (·.concerns s identity) =
      if identity ∈ identities then (s.displace identity).2.1.filter (·.concerns s identity)
      else [] :=
  filter_displaceAll_of (fun _ hne _ he => concerns_of_mem_displace hl hne he) identities

lemma filter_shutdown {calling : List Nat} (hl : Linked s calling) :
    s.shutdown.2.filter (·.concerns s identity) =
      (s.displace identity).2.1.filter (·.concerns s identity) := by
  rw [shutdown, filter_displaceAll hl]
  by_cases hc : identity ∈ s.registry.map (·.1)
  · rw [if_pos hc]
  · rw [if_neg hc, displace_events_of_none ((current?_eq_none_iff s identity).mpr hc),
      List.filter_nil]

end Controller

/-! ## Moves elsewhere -/

namespace Run

open Controller

/-- What belongs to an identity is the same at two moments, and nothing that concerns it has
happened in between. -/
structure Untouched (identity : Text) (x y : Run) : Prop where
  controller : Controller.Untouched identity x.controller y.controller
  calling : ∀ p ∈ x.controller.processesOf identity, y.calling.count p = x.calling.count p
  about : y.about identity = x.about identity

variable {x y : Run} {identity : Text}

lemma untouched_of (hc : Controller.Untouched identity x.controller y.controller)
    (hcalling : ∀ p ∈ x.controller.processesOf identity, y.calling.count p = x.calling.count p)
    {more : List Event} (hevents : y.events = x.events ++ more)
    (hmore : ∀ e ∈ more, e.concerns x.controller identity = false) :
    x.Untouched identity y := by
  have hsame : ∀ e : Event,
      e.concerns y.controller identity = e.concerns x.controller identity := by
    intro e
    rw [Event.concerns, Event.concerns, hc.processes, hc.requests]
  have hnone : more.filter (·.concerns x.controller identity) = [] := by
    rw [List.filter_eq_nil_iff]
    intro e he
    simp [hmore e he]
  refine ⟨hc, hcalling, ?_⟩
  simp only [about, hevents, hsame, List.filter_append, hnone, List.append_nil]

lemma Untouched.refl (x : Run) : x.Untouched identity x :=
  ⟨.refl _, fun _ _ => rfl, rfl⟩

lemma untouched_advance {c : Controller} {more : List Event}
    (hc : Controller.Untouched identity x.controller c)
    (hmore : ∀ e ∈ more, e.concerns x.controller identity = false) :
    x.Untouched identity (x.advance c more) :=
  untouched_of hc (fun _ _ => rfl) rfl hmore

/-- What a move that is not addressed to an identity does not name. -/
lemma not_mem_of_not_addressed {l : List Nat} {a : Nat} {f : Nat → Move}
    (h : (l.idxOf? a).map f = none) : a ∉ l := by
  rwa [Option.map_eq_none_iff, List.idxOf?_eq_none_iff] at h

lemma concerns_of_mem_launched {s : Controller} {l : Option Launch} {e : Event}
    (he : e ∈ (l.map Event.launched).toList) : e.concerns s identity = false :=
  (Event.isRemark_of_launched he).concerns

/-- A start for another identity. -/
lemma untouched_start (h : x.Sound) {o : Order}
    (ho : o.document ∉ x.controller.documentsOf identity) :
    x.Untouched identity (x.step (.start o)) := by
  cases hd : x.controller.documents[o.document]? with
  | none =>
    rw [step_start_of_none hd]
    exact .refl x
  | some doc =>
  have hne : doc.identity ≠ identity := fun hid => ho ((mem_documentsOf hd).mpr hid)
  rw [step_start hd]
  have hstarted := started x.controller o doc
  generalize x.controller.start o doc = result at hstarted
  cases hstarted with
  | unsupported =>
    rw [advance_self]
    exact .refl x
  | raised hg l =>
    refine untouched_advance (.deregister _ hne) fun e he => ?_
    obtain he | he := List.mem_append.mp he
    · exact concerns_of_mem_displace h.linked hne he
    · exact concerns_of_mem_launched he
  | @refused g hg l reason =>
    have hstate : Controller.Untouched identity x.controller
        ((x.controller.deregister doc.identity).enterRefused
          (refusedRequest o doc.identity g reason)) :=
      (Controller.Untouched.deregister _ hne).trans (.enterRefused _ hne)
    refine untouched_advance hstate fun e he => ?_
    rw [List.append_assoc, List.mem_append, List.mem_append] at he
    obtain he | he | he := he
    · exact concerns_of_mem_displace h.linked hne he
    · exact concerns_of_mem_launched he
    · obtain rfl | rfl := by simpa using he
      · exact (Event.isRemark_logged (by simp)).concerns
      · -- The new request is none of those that there are.
        rw [Event.concerns_resolved, decide_eq_false_iff_not]
        intro hr
        obtain ⟨old, hold, -⟩ := exists_of_mem_requestsOf hr
        exact absurd (List.getElem?_eq_some_iff.mp hold).1 (Nat.lt_irrefl _)
  | @accepted g hg l hl hr =>
    have hnone : (x.controller.deregister doc.identity).current? doc.identity = none := by simp
    have hstate : Controller.Untouched identity x.controller
        ((x.controller.deregister doc.identity).enterAccepted
          (x.controller.acceptedRequest o doc.identity g) (x.controller.acceptedProcess o l)) :=
      (Controller.Untouched.deregister _ hne).trans
        (.enterAccepted (s := x.controller.deregister doc.identity) hd hne hne hnone)
    refine untouched_advance hstate fun e he => ?_
    obtain he | he := List.mem_append.mp he
    · exact concerns_of_mem_displace h.linked hne he
    · have hremarks : ∀ e ∈ [Event.launched l, .logged (.started
          (pidOf x.controller.processes.length) doc.identity l.args)], e.IsRemark := by simp
      exact (hremarks e he).concerns

/-- A process of another identity is settled. -/
lemma untouched_settled {p : Nat} (hp : p ∉ x.controller.processesOf identity) {proc : Process}
    {request : Request} {doc : Document} (hs : x.controller.Serves p proc request doc)
    (capture : Capture) (progress : Progress) {calling : List Nat}
    (hcalling : calling = p :: x.calling ∨ calling = x.calling) {more : List Event}
    (hmore : ∀ e ∈ more, e.IsRemark) :
    x.Untouched identity
      (x.settle p proc request doc.identity capture progress calling more) := by
  have hne : doc.identity ≠ identity := fun hid => hp (hs.mem_processesOf.mpr hid)
  have hr : proc.request ∉ x.controller.requestsOf identity := fun hin =>
    hne (hs.mem_requestsOf.mp hin)
  have hstate : Controller.Untouched identity x.controller
      ((x.controller.withdraw p doc.identity).settle p proc.request capture progress) :=
    (Controller.Untouched.withdraw x.controller p hne).trans
      (.settle _ (by rwa [processesOf_withdraw]) (by rwa [requestsOf_withdraw]) capture progress)
  refine untouched_of hstate (fun q hq => ?_) rfl fun e he => ?_
  · have hpq : p ≠ q := fun heq => hp (heq ▸ hq)
    obtain rfl | rfl := hcalling
    · exact List.count_cons_of_ne hpq
    · rfl
  · obtain he | he := List.mem_append.mp he
    · rw [Event.concerns_of_mem_settling he, decide_eq_false_iff_not]
      exact hr
    · exact (hmore e he).concerns

lemma untouched_cancel (h : x.Sound) {d : Nat} (hd : d ∉ x.controller.documentsOf identity) :
    x.Untouched identity (x.step (.cancel d)) := by
  cases hdoc : x.controller.documents[d]? with
  | none =>
    rw [step_cancel_of_none hdoc]
    exact .refl x
  | some doc =>
    have hne : doc.identity ≠ identity := fun hid => hd ((mem_documentsOf hdoc).mpr hid)
    rw [step_cancel hdoc, displace_controller]
    exact untouched_advance (.deregister _ hne) fun e => concerns_of_mem_displace h.linked hne

/-- A move that edits no document leaves a run as it is if all it does is an edit. -/
lemma advance_of_edit {m : Move} {d : Nat} {f : Document → Document}
    (hedit : m.edit x.controller.documents = x.controller.documents.modify d f)
    (hm : m.edit x.controller.documents = x.controller.documents) :
    x.advance (x.controller.updateDocument d f) [] = x := by
  rw [updateDocument, ← hedit, hm]
  exact advance_self x

/-- The end of a process of another identity, its completion, the return of its callback, or the
failure to wait for it. -/
lemma untouched_process (h : x.Sound) {p : Nat} (hp : p ∉ x.controller.processesOf identity)
    {m : Move} (hm : (∃ status output, m = .finish p status output) ∨ m = .complete p ∨
      (∃ failure, m = .conclude p failure) ∨ ∃ e, m = .failWait p e) :
    x.Untouched identity (x.step m) := by
  have hdid := did h.linked m
  generalize x.step m = y at hdid
  cases hdid with
  | idle => exact .refl x
  | finished q status output =>
    obtain rfl : q = p := by simpa using hm
    exact untouched_advance (.updateProcess _ hp fun _ => rfl) (by simp)
  | settled hsettles hs hopen hcalling hmore =>
    have hcalling := hcalling.imp_right And.left
    cases hsettles with
    | complete o =>
      obtain rfl : _ = p := by simpa using hm
      exact untouched_settled hp hs _ _ hcalling hmore
    | failWait e =>
      obtain rfl : _ = p := by simpa using hm
      exact untouched_settled hp hs _ _ hcalling hmore
  | @concluded q hq failure =>
    obtain rfl : q = p := by simpa using hm
    refine untouched_of (.updateProcess _ hp fun _ => rfl) (fun r hr => ?_) rfl fun e he => ?_
    · have hne : r ≠ q := fun heq => hp (heq ▸ hr)
      exact List.count_erase_of_ne hne
    · exact (Event.isRemark_of_crashed he).concerns
  | edited hdisplaces hedit =>
    rw [advance_of_edit hedit (by obtain ⟨_, _, rfl⟩ | rfl | ⟨_, rfl⟩ | ⟨_, rfl⟩ := hm <;> rfl)]
    exact .refl x
  | _ => simp at hm

/-- The callback of a request for another identity. -/
lemma untouched_deliver (h : x.Sound) {r : Nat} (hr : r ∉ x.controller.requestsOf identity) :
    x.Untouched identity (x.step (.deliver r)) := by
  have hdid := did_deliver h.linked r
  generalize x.step (.deliver r) = y at hdid
  cases hdid with
  | idle => exact .refl x
  | delivered hmem ho => exact untouched_advance (.deliver _ hr) (by simpa using hr)
  | settled hm => cases hm
  | edited hdisplaces hedit =>
    rw [advance_of_edit hedit rfl]
    exact .refl x

/-- A move that is not addressed to an identity leaves alone what belongs to it. -/
lemma untouched_step (h : x.Sound) {m : Move} (hm : m.addressed? x.controller identity = none) :
    x.Untouched identity (x.step m) := by
  cases m with
  | start o => exact untouched_start h (not_mem_of_not_addressed hm)
  | cancel d => exact untouched_cancel h (not_mem_of_not_addressed hm)
  | shutdown => exact absurd hm (by simp [Move.addressed?])
  | update d content =>
    exact untouched_advance
      (.updateDocument _ (not_mem_of_not_addressed hm) fun _ => rfl) (by simp)
  | rename d path =>
    exact untouched_advance
      (.updateDocument _ (not_mem_of_not_addressed hm) fun _ => rfl) (by simp)
  | finish p status output =>
    exact untouched_process h (not_mem_of_not_addressed hm) (.inl ⟨_, _, rfl⟩)
  | complete p => exact untouched_process h (not_mem_of_not_addressed hm) (.inr (.inl rfl))
  | conclude p failure =>
    exact untouched_process h (not_mem_of_not_addressed hm) (.inr (.inr (.inl ⟨_, rfl⟩)))
  | failWait p e =>
    exact untouched_process h (not_mem_of_not_addressed hm) (.inr (.inr (.inr ⟨_, rfl⟩)))
  | deliver r => exact untouched_deliver h (not_mem_of_not_addressed hm)
  | raise message =>
    exact untouched_advance (.refl _)
      (by simpa using (Event.isRemark_crashed (.callback message)).concerns)

end Run
end GradleLint
