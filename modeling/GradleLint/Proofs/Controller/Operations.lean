import GradleLint.Proofs.Controller.Recorded

/-!
# What the operations come to

Each operation of the controller, on a state whose parts belong together, is one of few changes
of the state, and shows what that change shows.  A start is one of four things (`Started`).  The
end of a process that nobody has dealt with settles the process and its request: with the
outcome of the build when the process is current (`complete_of_current`), as superseded when it
is not (`complete_of_displaced`).  A failure to wait settles them too (`failWait_of_serves`).
-/

namespace GradleLint
namespace Controller

/-! ## Starting -/

/-- What is said about a start that failed. -/
def startFailure (o : Order) (reason : Text) : Outcome :=
  .toolError ("Failed to start build tool `" ++ o.command.headD [] ++ "`: " ++ reason)

/-- The request of a start that failed. -/
def refusedRequest (o : Order) (identity : Text) (g : Grammar) (reason : Text) : Request :=
  { identity, grammar := g, process := none, callback := o.callback,
    progress := .resolved (startFailure o reason) }

/-- The request of a start that goes through. -/
def acceptedRequest (s : Controller) (o : Order) (identity : Text) (g : Grammar) : Request :=
  { identity, grammar := g, process := some s.processes.length, callback := o.callback }

/-- The process of a start that goes through. -/
def acceptedProcess (s : Controller) (o : Order) (l : Launch) : Process :=
  { document := o.document, request := s.requests.length, args := l.args, kill := o.kill }

/-- What a start comes to. -/
inductive Started (s : Controller) (o : Order) (doc : Document) :
    Controller × List Event × Except StartError Unit → Prop where
  /-- There is no grammar for the file, and nothing happens. -/
  | unsupported {e : UnsupportedFile} (hg : Grammar.choose o.grammar doc.path = .error e) :
    Started s o doc (s, [], .error (.unsupported e))
  /-- The process of before is displaced, and there is no request. -/
  | raised {g : Grammar} (hg : Grammar.choose o.grammar doc.path = .ok g) (l : Option Launch)
    (e : StartError) :
    Started s o doc (s.deregister doc.identity,
      (s.displace doc.identity).2.1 ++ (l.map Event.launched).toList, .error e)
  /-- The process of before is displaced, and the request is resolved at once. -/
  | refused {g : Grammar} (hg : Grammar.choose o.grammar doc.path = .ok g) (l : Option Launch)
    (reason : Text) :
    Started s o doc
      ((s.deregister doc.identity).enterRefused (refusedRequest o doc.identity g reason),
        (s.displace doc.identity).2.1 ++ (l.map Event.launched).toList ++
          [.logged (.startFailed doc.identity reason),
            .resolved s.requests.length (startFailure o reason)], .ok ())
  /-- The process of before is displaced, and a new one takes its place. -/
  | accepted {g : Grammar} (hg : Grammar.choose o.grammar doc.path = .ok g) {l : Launch}
    (hl : o.launch = .ok l) (hr : o.refusal = none) :
    Started s o doc
      ((s.deregister doc.identity).enterAccepted (s.acceptedRequest o doc.identity g)
          (s.acceptedProcess o l),
        (s.displace doc.identity).2.1 ++
          [.launched l, .logged (.started (pidOf s.processes.length) doc.identity l.args)],
        .ok ())

lemma refuseStart_eq (s : Controller) (o : Order) (identity : Text) (g : Grammar)
    (reason : Text) :
    s.refuseStart o identity g reason =
      (s.enterRefused (refusedRequest o identity g reason),
        [.logged (.startFailed identity reason),
          .resolved s.requests.length (startFailure o reason)]) := rfl

lemma acceptStart_eq (s : Controller) (o : Order) (identity : Text) (g : Grammar) (l : Launch) :
    s.acceptStart o identity g l =
      (s.enterAccepted (s.acceptedRequest o identity g) (s.acceptedProcess o l),
        [.logged (.started (pidOf s.processes.length) identity l.args)]) := rfl

/-- A start that finds a grammar and gets its process goes through. -/
lemma start_of_launched (s : Controller) {o : Order} {doc : Document} {g : Grammar} {l : Launch}
    (hg : Grammar.choose o.grammar doc.path = .ok g) (hl : o.launch = .ok l)
    (hr : o.refusal = none) :
    s.start o doc =
      ((s.deregister doc.identity).enterAccepted (s.acceptedRequest o doc.identity g)
          (s.acceptedProcess o l),
        (s.displace doc.identity).2.1 ++
          [.launched l, .logged (.started (pidOf s.processes.length) doc.identity l.args)],
        .ok ()) := by
  simp only [start, hg, hl, hr, displace_controller, acceptStart_eq, List.append_assoc]
  rfl

/-- What becomes of a start is decided by the order and the document alone, whatever the state
and the number of the document. -/
inductive Begins (o : Order) (doc : Document) : Prop where
  | unsupported {e : UnsupportedFile} (hg : Grammar.choose o.grammar doc.path = .error e)
    (h : ∀ (s : Controller) (d : Nat),
      s.start { o with document := d } doc = (s, [], .error (.unsupported e)))
  | raised {g : Grammar} (hg : Grammar.choose o.grammar doc.path = .ok g) (l : Option Launch)
    (e : StartError)
    (h : ∀ (s : Controller) (d : Nat), s.start { o with document := d } doc =
      (s.deregister doc.identity,
        (s.displace doc.identity).2.1 ++ (l.map Event.launched).toList, .error e))
  | refused {g : Grammar} (hg : Grammar.choose o.grammar doc.path = .ok g) (l : Option Launch)
    (reason : Text)
    (h : ∀ (s : Controller) (d : Nat), s.start { o with document := d } doc =
      ((s.deregister doc.identity).enterRefused (refusedRequest o doc.identity g reason),
        (s.displace doc.identity).2.1 ++ (l.map Event.launched).toList ++
          [.logged (.startFailed doc.identity reason),
            .resolved s.requests.length (startFailure o reason)], .ok ()))
  | accepted {g : Grammar} (hg : Grammar.choose o.grammar doc.path = .ok g) {l : Launch}
    (hl : o.launch = .ok l) (hr : o.refusal = none)
    (h : ∀ (s : Controller) (d : Nat), s.start { o with document := d } doc =
      ((s.deregister doc.identity).enterAccepted (s.acceptedRequest o doc.identity g)
          (s.acceptedProcess { o with document := d } l),
        (s.displace doc.identity).2.1 ++
          [.launched l, .logged (.started (pidOf s.processes.length) doc.identity l.args)],
        .ok ()))

lemma begins (o : Order) (doc : Document) : Begins o doc := by
  cases hg : Grammar.choose o.grammar doc.path with
  | error e => exact .unsupported hg fun s d => by simp [start, hg]
  | ok g =>
    match hl : o.launch with
    | .error .empty =>
      exact .raised hg none .emptyCommand fun s d => by simp [start, hg, hl, displace_controller]
    | .error (.notFound name) =>
      refine .refused hg none (CommandError.notFound name).message fun s d => ?_
      simp only [start, hg, hl, displace_controller, refuseStart_eq, Option.map_none,
        Option.toList_none, List.append_nil]
      rfl
    | .ok l =>
      match hr : o.refusal with
      | some (.unfit message) =>
        exact .raised hg (some l) (.unfit message) fun s d => by
          simp [start, hg, hl, hr, displace_controller]
      | some (.system e) =>
        refine .refused hg (some l) e.message fun s d => ?_
        simp only [start, hg, hl, hr, displace_controller, refuseStart_eq]
        rfl
      | none =>
        exact .accepted hg hl hr fun s d =>
          start_of_launched s (o := { o with document := d }) hg hl hr

lemma started (s : Controller) (o : Order) (doc : Document) :
    s.Started o doc (s.start o doc) := by
  cases begins o doc with
  | unsupported hg h =>
    rw [show s.start o doc = _ from h s o.document]
    exact .unsupported hg
  | raised hg l e h =>
    rw [show s.start o doc = _ from h s o.document]
    exact .raised hg l e
  | refused hg l reason h =>
    rw [show s.start o doc = _ from h s o.document]
    exact .refused hg l reason
  | accepted hg hl hr h =>
    rw [show s.start o doc = _ from h s o.document]
    exact .accepted hg hl hr

/-! ## The end of a process -/

variable {s : Controller} {p : Nat} {proc : Process} {request : Request} {doc : Document}
  {status : Int} {output : Text}

lemma isCurrent_of_serves (hs : s.Serves p proc request doc) :
    s.isCurrent p = (s.current? doc.identity == some p) := by
  simp [isCurrent, hs.has_process, hs.has_document]

lemma updateProcess_congr {f g : Process → Process}
    (h : ∀ proc, s.processes[p]? = some proc → f proc = g proc) :
    s.updateProcess p f = s.updateProcess p g := by
  have hmodify : s.processes.modify p f = s.processes.modify p g := by
    apply List.ext_getElem?
    intro q
    rw [List.getElem?_modify, List.getElem?_modify]
    by_cases hpq : p = q
    · cases hp : s.processes[p]? with
      | none => simp [← hpq, hp]
      | some proc => simp [← hpq, hp, h proc hp]
    · simp [hpq]
  simp only [updateProcess, hmodify]

/-- The outcome of a current process for its document. -/
def buildOutcome (proc : Process) (p : Nat) (request : Request) (doc : Document) (status : Int)
    (output : Text) : Outcome :=
  outcomeOf proc (pidOf p) request doc status output true

lemma buildOutcome_kind (proc : Process) (p : Nat) (request : Request) (doc : Document)
    (status : Int) (output : Text) :
    (buildOutcome proc p request doc status output).kind ≠ .superseded := by
  unfold buildOutcome outcomeOf classify
  by_cases h0 : status = 0
  · simp [h0, Outcome.anchor, Outcome.kind]
  · by_cases h1 : status = 1
    · simp [h1, Outcome.anchor, Outcome.kind]
    · simp [h0, h1, Outcome.anchor, Outcome.kind]

/-- The state once a process with unread output is settled and may still be read. -/
lemma settle_live (hp : s.processes[p]? = some proc) (hfresh : proc.capture = .empty)
    (r : Nat) (progress : Progress) :
    (s.updateProcess p fun proc =>
        { proc with capture := (proc.capture.append output).toOption.getD proc.capture
                    settled := true }).updateRequest r (fun request => { request with progress }) =
      s.settle p r (.live [output]) progress := by
  rw [settle]
  congr 1
  apply updateProcess_congr
  intro proc' hp'
  obtain rfl := Option.some.inj (hp.symm.trans hp')
  simp [hfresh, Capture.empty, Capture.append, Except.toOption]

lemma release_settle (r : Nat) (capture : Capture) (progress : Progress) :
    (s.settle p r capture progress).release p = s.settle p r .released progress := by
  simp only [settle, release, updateRequest, updateProcess, List.modify_modify_eq]
  rfl

lemma settling_of_call {r : Nat} {o : Outcome} (hcb : request.callback = true)
    (ho : o.kind ≠ .superseded) :
    Recorded.settling r { request with progress := .resolved o } =
      [.resolved r o, .delivered r o] := by
  simp [Recorded.settling, Progress.settlement, Request.called?, hcb, ho]

lemma settling_of_no_call {r : Nat} {o : Outcome}
    (h : request.callback = false ∨ o.kind = .superseded) :
    Recorded.settling r { request with progress := .resolved o } = [.resolved r o] := by
  obtain h | h := h <;> simp [Recorded.settling, Progress.settlement, Request.called?, h]

/-- The end of a current process takes it out of the registry and gives the request the outcome
of the build; its output is kept for as long as the callback runs. -/
lemma complete_of_current (hs : s.Serves p proc request doc)
    (hended : proc.ended = some (status, output)) (hopen : proc.settled = false)
    (hfresh : proc.capture = .empty) (hc : s.current? doc.identity = some p) :
    s.complete p =
      ((s.deregister doc.identity).settle p proc.request
          (if request.callback then .live [output] else .released)
          (.resolved (buildOutcome proc p request doc status output)),
        Recorded.settling proc.request
          { request with progress := .resolved (buildOutcome proc p request doc status output) },
        if request.callback then
          some (proc.request, buildOutcome proc p request doc status output)
        else none) := by
  have hcur : s.isCurrent p = true := by simp [isCurrent_of_serves hs, hc]
  have hkind := buildOutcome_kind proc p request doc status output
  have hswap : ∀ progress, (s.settle p proc.request (.live [output]) progress).deregister
      doc.identity = (s.deregister doc.identity).settle p proc.request (.live [output]) progress :=
    fun _ => rfl
  have houtcome : outcomeOf proc (pidOf p) request doc status output true =
      buildOutcome proc p request doc status output := rfl
  unfold complete
  simp only [hs.has_process, hended, hopen, hs.has_request, hs.has_document, hcur, if_true,
    settle_live hs.has_process hfresh, hswap, release_settle, houtcome]
  by_cases hcb : request.callback = true
  · rw [settling_of_call hcb hkind, if_pos hcb, if_pos hcb, if_pos hcb]
  · rw [settling_of_no_call (.inl (Bool.eq_false_iff.mpr hcb)), if_neg hcb, if_neg hcb, if_neg hcb]

/-- The end of a process that is no longer current makes its request superseded. -/
lemma complete_of_displaced (hs : s.Serves p proc request doc)
    (hended : proc.ended = some (status, output)) (hopen : proc.settled = false)
    (hfresh : proc.capture = .empty) (hc : s.current? doc.identity ≠ some p) :
    s.complete p =
      (s.settle p proc.request .released (.resolved (.superseded (some (pidOf p)))),
        Recorded.settling proc.request
            { request with progress := .resolved (.superseded (some (pidOf p))) } ++
          [.logged (.discarding (pidOf p) doc.identity)],
        none) := by
  have hcur : s.isCurrent p = false := by simp [isCurrent_of_serves hs, hc]
  have houtcome : outcomeOf proc (pidOf p) request doc status output false =
      .superseded (some (pidOf p)) := rfl
  unfold complete
  simp only [hs.has_process, hended, hopen, hs.has_request, hs.has_document, hcur,
    Bool.false_eq_true, if_false, settle_live hs.has_process hfresh, release_settle, houtcome]
  rw [settling_of_no_call (.inr rfl)]
  rfl

/-- Nothing happens when a process has not ended or its end has been dealt with. -/
lemma complete_of_not_ready
    (h : ∀ proc status output, s.processes[p]? = some proc → proc.ended = some (status, output) →
      proc.settled = true) : s.complete p = (s, [], none) := by
  unfold complete
  cases hp : s.processes[p]? with
  | none => rfl
  | some proc =>
    match hended : proc.ended with
    | none => simp [hended]
    | some (status, output) => simp [hended, h proc status output hp hended]

lemma abandon_of_serves (hs : s.Serves p proc request doc) :
    s.abandon p = if s.current? doc.identity = some p then s.deregister doc.identity else s := by
  unfold abandon
  by_cases hc : s.current? doc.identity = some p
  · simp [isCurrent_of_serves hs, hs.has_process, hs.has_document, hc]
  · simp [isCurrent_of_serves hs, hc]

/-- A failure to wait takes the process out of the registry and fails the request. -/
lemma failWait_of_serves (hs : s.Serves p proc request doc) (hopen : proc.settled = false)
    (e : SystemError) :
    s.failWait p e =
      ((if s.current? doc.identity = some p then s.deregister doc.identity else s).settle p
          proc.request .released (.failed e),
        Recorded.settling proc.request { request with progress := .failed e } ++
          [.crashed (.system e)]) := by
  have hpending : request.progress = .pending := hs.unsettled_iff.mp hopen
  have hreleased : (s.release p).Serves p { proc with capture := .released } request doc :=
    { hs with has_process := Linked.processes_updateProcess.mpr ⟨proc, hs.has_process, if_pos rfl⟩ }
  have hsettle : ∀ c : Controller,
      ((c.release p).updateProcess p fun proc => { proc with settled := true }).updateRequest
        proc.request (fun request => { request with progress := .failed e }) =
      c.settle p proc.request .released (.failed e) := by
    intro c
    simp only [settle, release, updateProcess, List.modify_modify_eq]
    rfl
  have hprogress : ∀ c : Controller, c.requests = s.requests →
      ((c.release p).updateProcess p fun proc => { proc with settled := true }).progress?
        proc.request = some .pending := by
    intro c hc
    simp [progress?, release, updateProcess, hc, hs.has_request, hpending]
  have hcur : (s.release p).current? doc.identity = s.current? doc.identity := rfl
  have hswap : (s.release p).deregister doc.identity = (s.deregister doc.identity).release p := rfl
  unfold failWait
  simp only [hs.has_process, hopen, Bool.false_eq_true, if_false, abandon_of_serves hreleased,
    hcur]
  by_cases hc : s.current? doc.identity = some p
  · simp only [if_pos hc, hswap, hprogress (s.deregister doc.identity) rfl, hsettle]
    rfl
  · simp only [if_neg hc, hprogress s rfl, hsettle]
    rfl

lemma failWait_of_settled
    (h : ∀ proc, s.processes[p]? = some proc → proc.settled = true) (e : SystemError) :
    s.failWait p e = (s, []) := by
  unfold failWait
  cases hp : s.processes[p]? with
  | none => rfl
  | some proc => simp [h proc hp]

/-! ## Callbacks -/

/-- A callback that fails changes no more than one that returns. -/
lemma conclude_of_settled {calling : List Nat} (hl : Linked s calling)
    (hp : s.processes[p]? = some proc) (hsettled : proc.settled = true) (failure : Option Text) :
    s.conclude p failure =
      (s.release p, (failure.map fun message => Event.crashed (.callback message)).toList) := by
  cases failure with
  | none => rfl
  | some message =>
    obtain ⟨request, doc, hs⟩ := hl.served hp
    have hreleased : (s.release p).Serves p { proc with capture := .released } request doc :=
      { hs with
        has_process := Linked.processes_updateProcess.mpr ⟨proc, hs.has_process, if_pos rfl⟩ }
    have hc : (s.release p).current? doc.identity ≠ some p :=
      hl.current?_ne_of_settled hp hsettled doc.identity
    simp only [conclude, abandon_of_serves hreleased, if_neg hc]
    rfl

lemma deliver_of_undelivered {r : Nat} {o : Outcome} (hr : r ∈ s.undelivered)
    (ho : s.progress? r = some (.resolved o)) :
    s.deliver r =
      ({ s with undelivered := s.undelivered.erase r }, [.delivered r o], some (r, o)) := by
  unfold deliver
  rw [if_pos hr, ho]

lemma deliver_of_not_undelivered {r : Nat} (hr : r ∉ s.undelivered) :
    s.deliver r = (s, [], none) := by
  simp [deliver, hr]

end Controller
end GradleLint
