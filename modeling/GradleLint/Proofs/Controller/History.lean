import GradleLint.Proofs.Controller.Soundness

/-!
# The history of a process

What a run remembers of its past.  Requests and processes stay what they were made as, and what
is settled stays settled (`Controller.Extends`).  Whether an unsettled process is current is
decided by the moves since its start alone: it is, until a move displaces its identity
(`current?_play`).  Whether a move displaces an identity depends on the documents, whose edits the
moves tell too (`documents_play`).
-/

namespace GradleLint

/-! ## Displacement in the course of moves -/

/-- The documents after some moves. -/
def documentsAfter (documents : List Document) (moves : List Move) : List Document :=
  moves.foldl Move.edit documents

/-- One of some moves displaces an identity, in the documents as they are by then. -/
def DisplacedIn (documents : List Document) (identity : Text) (moves : List Move) : Prop :=
  ∃ pre m post, moves = pre ++ m :: post ∧ m.Displaces (documentsAfter documents pre) identity

lemma not_displacedIn_nil (documents : List Document) (identity : Text) :
    ¬ DisplacedIn documents identity [] := by
  rintro ⟨pre, m, post, heq, -⟩
  simp at heq

lemma displacedIn_cons (documents : List Document) (identity : Text) (m : Move)
    (moves : List Move) :
    DisplacedIn documents identity (m :: moves) ↔
      m.Displaces documents identity ∨ DisplacedIn (m.edit documents) identity moves := by
  constructor
  · rintro ⟨pre, m', post, heq, h⟩
    cases pre with
    | nil =>
      obtain ⟨rfl, -⟩ := List.cons.inj heq
      exact .inl h
    | cons first pre =>
      obtain ⟨rfl, rfl⟩ := List.cons.inj heq
      exact .inr ⟨pre, m', post, rfl, h⟩
  · rintro (h | ⟨pre, m', post, rfl, h⟩)
    · exact ⟨[], m, moves, rfl, h⟩
    · exact ⟨m :: pre, m', post, rfl, h⟩

lemma displaces_start {documents : List Document} {o : Order} {doc : Document} {g : Grammar}
    (hd : documents[o.document]? = some doc) (hg : Grammar.choose o.grammar doc.path = .ok g)
    (identity : Text) : (Move.start o).Displaces documents identity ↔ identity = doc.identity := by
  simp only [Move.Displaces, hd, Option.some.injEq]
  constructor
  · rintro ⟨doc', rfl, hid, -⟩
    exact hid.symm
  · rintro rfl
    exact ⟨doc, rfl, rfl, g, hg⟩

lemma displaces_cancel {documents : List Document} {d : Nat} {doc : Document}
    (hd : documents[d]? = some doc) (identity : Text) :
    (Move.cancel d).Displaces documents identity ↔ identity = doc.identity := by
  simp only [Move.Displaces, hd, Option.some.injEq]
  constructor
  · rintro ⟨doc', rfl, hid⟩
    exact hid.symm
  · rintro rfl
    exact ⟨doc, rfl, rfl⟩

/-! ## What stays -/

namespace Controller

/-- Nothing that was made is lost, and nothing that was settled is open again. -/
structure Extends (s t : Controller) : Prop where
  process : ∀ {p : Nat} {proc : Process}, s.processes[p]? = some proc →
    ∃ capture ended settled, t.processes[p]? = some { proc with capture, ended, settled } ∧
      (proc.settled = true → settled = true)
  request : ∀ {r : Nat} {request : Request}, s.requests[r]? = some request →
    ∃ progress, t.requests[r]? = some { request with progress } ∧
      (request.progress ≠ .pending → progress = request.progress)

namespace Extends

variable {s t u : Controller}

lemma of_eq (hp : t.processes = s.processes) (hr : t.requests = s.requests) : s.Extends t where
  process h := ⟨_, _, _, hp ▸ h, id⟩
  request h := ⟨_, hr ▸ h, fun _ => rfl⟩

lemma trans (h : s.Extends t) (h' : t.Extends u) : s.Extends u where
  process hp := by
    obtain ⟨capture, ended, settled, ht, hset⟩ := h.process hp
    obtain ⟨capture', ended', settled', hu, hset'⟩ := h'.process ht
    exact ⟨capture', ended', settled', hu, fun h => hset' (hset h)⟩
  request hr := by
    obtain ⟨progress, ht, hdone⟩ := h.request hr
    obtain ⟨progress', hu, hdone'⟩ := h'.request ht
    refine ⟨progress', hu, fun hne => ?_⟩
    have hsame : progress = _ := hdone hne
    exact (hdone' (by rwa [← hsame] at hne)).trans hsame

/-- What was settled stands where it stood. -/
lemma progress? (h : s.Extends t) {r : Nat} {progress : Progress}
    (hr : s.progress? r = some progress) (hdone : progress ≠ .pending) :
    t.progress? r = some progress := by
  rw [Controller.progress?, Option.map_eq_some_iff] at hr
  obtain ⟨request, hr, rfl⟩ := hr
  obtain ⟨progress, hnext, hsame⟩ := h.request hr
  simp [Controller.progress?, hnext, hsame hdone]

lemma enterRefused (s : Controller) (request : Request) : s.Extends (s.enterRefused request) where
  process h := ⟨_, _, _, h, id⟩
  request h := ⟨_, getElem?_concat_of_some h, fun _ => rfl⟩

lemma enterAccepted (s : Controller) (request : Request) (proc : Process) :
    s.Extends (s.enterAccepted request proc) where
  process h := ⟨_, _, _, getElem?_concat_of_some h, id⟩
  request h := ⟨_, getElem?_concat_of_some h, fun _ => rfl⟩

/-- A process ends or drops its output. -/
lemma updateProcess (p : Nat) (capture : Process → Capture)
    (ended : Process → Option (Int × Text)) :
    s.Extends (s.updateProcess p fun proc =>
      { proc with capture := capture proc, ended := ended proc }) where
  process := by
    intro q proc hq
    by_cases hpq : p = q
    · exact ⟨_, _, _, Linked.processes_updateProcess.mpr ⟨proc, hq, if_pos hpq⟩, id⟩
    · exact ⟨_, _, _, Linked.processes_updateProcess.mpr ⟨proc, hq, if_neg hpq⟩, id⟩
  request h := ⟨_, h, fun _ => rfl⟩

/-- A pending request is settled together with its process. -/
lemma settle {p r : Nat} {request : Request} (hr : s.requests[r]? = some request)
    (hpending : request.progress = .pending) (capture : Capture) (progress : Progress) :
    s.Extends (s.settle p r capture progress) where
  process := by
    intro q proc hq
    by_cases hpq : p = q
    · exact ⟨_, _, _, Linked.processes_settle.mpr ⟨proc, hq, if_pos hpq⟩, fun _ => rfl⟩
    · exact ⟨_, _, _, Linked.processes_settle.mpr ⟨proc, hq, if_neg hpq⟩, id⟩
  request := by
    intro q request' hq
    by_cases hrq : r = q
    · subst hrq
      obtain rfl : request = request' := Option.some.inj (hr.symm.trans hq)
      exact ⟨_, Linked.requests_settle.mpr ⟨request, hq, if_pos rfl⟩, fun h => absurd hpending h⟩
    · exact ⟨_, Linked.requests_settle.mpr ⟨request', hq, if_neg hrq⟩, fun _ => rfl⟩

end Extends
end Controller

namespace Run

open Controller

variable {x : Run}

/-! ## What one move changes -/

/-- A move edits the documents in its own way and in no other. -/
lemma documents_step (h : x.Sound) (m : Move) :
    (x.step m).controller.documents = m.edit x.controller.documents := by
  have hdid := did h.linked m
  generalize x.step m = y at hdid
  cases hdid with
  | idle _ hedit => exact hedit.symm
  | raised => rfl
  | refused => rfl
  | accepted => rfl
  | cancelled => rfl
  | shutdown => simp [Move.edit, shutdown_controller]
  | edited _ hedit _ => exact hedit.symm
  | finished => rfl
  | @settled m p proc request doc capture progress calling more hm =>
    have hrest : m.edit x.controller.documents = x.controller.documents := by
      cases hm <;> rfl
    rw [hrest]
    exact withdraw_documents x.controller p doc.identity
  | concluded => rfl
  | delivered => rfl
  | aborted => rfl

lemma extends_step (h : x.Sound) (m : Move) : x.controller.Extends (x.step m).controller := by
  have hdid := did h.linked m
  generalize x.step m = y at hdid
  cases hdid with
  | idle => exact .of_eq rfl rfl
  | @raised o doc => exact .of_eq rfl rfl
  | @refused o doc =>
    have hderegister : x.controller.Extends (x.controller.deregister doc.identity) :=
      .of_eq rfl rfl
    exact hderegister.trans (.enterRefused _ _)
  | @accepted o doc =>
    have hderegister : x.controller.Extends (x.controller.deregister doc.identity) :=
      .of_eq rfl rfl
    exact hderegister.trans (.enterAccepted _ _ _)
  | cancelled => exact .of_eq rfl rfl
  | shutdown =>
    rw [advance_controller, shutdown_controller]
    exact .of_eq rfl rfl
  | edited => exact .of_eq rfl rfl
  | finished p status output => exact .updateProcess p (·.capture) fun _ => some (status, output)
  | @settled m p proc request doc capture progress calling more hm hs hopen =>
    have hr : (x.controller.withdraw p doc.identity).requests[proc.request]? = some request := by
      rw [withdraw_requests]
      exact hs.has_request
    have hwithdraw : x.controller.Extends (x.controller.withdraw p doc.identity) :=
      .of_eq (withdraw_processes _ _ _) (withdraw_requests _ _ _)
    exact hwithdraw.trans (.settle hr (hs.unsettled_iff.mp hopen) capture progress)
  | @concluded p => exact .updateProcess p (fun _ => .released) (·.ended)
  | delivered => exact .of_eq rfl rfl
  | aborted => exact .of_eq rfl rfl

/-- An unsettled process of before is current after a move exactly when it was before and the
move does not displace its identity. -/
lemma current?_step (h : x.Sound) (m : Move) {identity : Text} {p : Nat}
    (hold : p < x.controller.processes.length)
    (hopen : ∀ proc, (x.step m).controller.processes[p]? = some proc → proc.settled = false) :
    (x.step m).controller.current? identity = some p ↔
      x.controller.current? identity = some p ∧ ¬ m.Displaces x.controller.documents identity := by
  have hdid := did h.linked m
  generalize x.step m = y at hdid hopen
  -- Most moves displace nothing and leave the registry alone.
  have hkeep : ∀ t : Controller, t.registry = x.controller.registry →
      ¬ m.Displaces x.controller.documents identity →
      (t.current? identity = some p ↔ x.controller.current? identity = some p ∧
        ¬ m.Displaces x.controller.documents identity) := by
    intro t ht hnot
    rw [current?, current?, ht]
    simp [hnot]
  cases hdid with
  | idle hdisplaces => exact hkeep _ rfl (hdisplaces identity)
  | raised hd hg =>
    rw [displaces_start hd hg]
    exact current?_deregister_eq_some
  | refused hd hg =>
    rw [displaces_start hd hg]
    exact current?_deregister_eq_some
  | @accepted o doc g l hd hg =>
    have hnone : (x.controller.deregister doc.identity).current? doc.identity = none := by simp
    have hne : x.controller.processes.length ≠ p := by omega
    rw [displaces_start hd hg, advance_controller, current?_enterAccepted _ hnone]
    by_cases ho : identity = doc.identity
    · simp [ho, acceptedRequest, hne]
    · simp [ho, acceptedRequest]
  | cancelled hd =>
    rw [displaces_cancel hd]
    exact current?_deregister_eq_some
  | shutdown =>
    rw [advance_controller, shutdown_controller]
    simp [current?, Move.Displaces]
  | edited hdisplaces => exact hkeep _ rfl (hdisplaces identity)
  | finished => exact hkeep _ rfl (by simp [Move.Displaces])
  | @settled m q proc request doc capture progress calling more hm hs =>
    have hdisplaces : ¬ m.Displaces x.controller.documents identity := by
      cases hm <;> simp [Move.Displaces]
    have hpq : q ≠ p := by
      rintro rfl
      have hproc : ((x.controller.withdraw q doc.identity).settle q proc.request capture
          progress).processes[q]? = some { proc with capture, settled := true } := by
        refine Linked.processes_settle.mpr ⟨proc, ?_, if_pos rfl⟩
        rw [withdraw_processes]
        exact hs.has_process
      exact absurd (hopen _ hproc) (by simp)
    have hcur : ((x.controller.withdraw q doc.identity).settle q proc.request capture
        progress).current? identity = some p ↔ x.controller.current? identity = some p := by
      show (x.controller.withdraw q doc.identity).current? identity = some p ↔ _
      rw [current?_withdraw h.linked hs]
      by_cases hq : x.controller.current? identity = some q
      · simp [hq, hpq]
      · simp [hq]
    simpa [hdisplaces] using hcur
  | concluded => exact hkeep _ rfl (by simp [Move.Displaces])
  | delivered => exact hkeep _ rfl (by simp [Move.Displaces])
  | aborted => exact hkeep _ rfl (by simp [Move.Displaces])

/-! ## What many moves change -/

lemma documents_play (h : x.Sound) (moves : List Move) :
    (x.play moves).controller.documents = documentsAfter x.controller.documents moves := by
  induction moves generalizing x with
  | nil => rfl
  | cons m rest ih =>
    rw [play_cons, ih (h.step m), documents_step h m]
    rfl

lemma extends_play (h : x.Sound) (moves : List Move) :
    x.controller.Extends (x.play moves).controller := by
  induction moves generalizing x with
  | nil => exact .of_eq rfl rfl
  | cons m rest ih => exact (extends_step h m).trans (ih (h.step m))

/-- A settled request stays as it is. -/
lemma request_play_of_settled (h : x.Sound) {r : Nat} {request : Request}
    (hr : x.controller.requests[r]? = some request) (hdone : request.progress ≠ .pending)
    (moves : List Move) : (x.play moves).controller.requests[r]? = some request := by
  obtain ⟨progress, hlast, hsame⟩ := (extends_play h moves).request hr
  rw [hlast, hsame hdone]

/-- A settled process stays settled. -/
lemma settled_play (h : x.Sound) {p : Nat} {proc : Process}
    (hp : x.controller.processes[p]? = some proc) (hsettled : proc.settled = true)
    (moves : List Move) :
    ∃ proc', (x.play moves).controller.processes[p]? = some proc' ∧ proc'.settled = true := by
  obtain ⟨capture, ended, settled, hlast, hmono⟩ := (extends_play h moves).process hp
  exact ⟨_, hlast, hmono hsettled⟩

/-- A process that is unsettled after some moves is current then exactly when it was before and
none of the moves displaced its identity. -/
theorem current?_play (h : x.Sound) (moves : List Move) {identity : Text} {p : Nat}
    (hold : p < x.controller.processes.length)
    (hopen : ∀ proc, (x.play moves).controller.processes[p]? = some proc →
      proc.settled = false) :
    (x.play moves).controller.current? identity = some p ↔
      x.controller.current? identity = some p ∧
        ¬ DisplacedIn x.controller.documents identity moves := by
  induction moves generalizing x with
  | nil => simp [not_displacedIn_nil]
  | cons m rest ih =>
    have hnext := h.step m
    obtain ⟨capture, ended, settled, hp, -⟩ :=
      (extends_step h m).process (List.getElem?_eq_getElem hold)
    have hmid : ∀ proc, (x.step m).controller.processes[p]? = some proc →
        proc.settled = false := by
      intro proc hproc
      obtain ⟨capture', ended', settled', hlast, hmono⟩ := (extends_play hnext rest).process hproc
      by_contra hsettled
      have hfalse : settled' = false := hopen _ hlast
      rw [hmono (by simpa using hsettled)] at hfalse
      exact absurd hfalse (by simp)
    have hstill : p < (x.step m).controller.processes.length :=
      (List.getElem?_eq_some_iff.mp hp).1
    rw [play_cons, ih hnext hstill hopen, current?_step h m hold hmid, documents_step h m,
      displacedIn_cons, not_or, and_assoc]

end Run
end GradleLint
