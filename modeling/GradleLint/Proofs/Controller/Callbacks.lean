import GradleLint.Proofs.Controller.FailedStarts

/-!
# What a callback cannot do to the completion it is called from

A completion is over in two moves, and between them the callback may use the controller as it
likes.  The process is out of the registry and settled before the callback is called, and both
are for good: whatever the callback does, the request keeps its outcome, the process is never
current again, and nobody is called back a second time.

When a callback fails, the controller looks into the registry once more and removes the process if
it is still there.  It never is, so a process that the callback has started for the same identity
is safe, and a callback that fails leaves behind what one that returns does
(`Survives.either_way`).
-/

namespace GradleLint
namespace Run

open Controller

variable {x y : Run}

/-! ## Running callbacks -/

/-- The callbacks that are running belong to different processes. -/
lemma nodup_calling_step (h : x.Sound) (hnodup : x.calling.Nodup) (m : Move) :
    (x.step m).calling.Nodup := by
  have hdid := did h.linked m
  generalize x.step m = y at hdid
  cases hdid with
  | @settled m p proc request doc capture progress calling more hm hs hopen hcalling =>
    obtain rfl | ⟨rfl, -⟩ := hcalling
    · have hnot := h.linked.not_calling_of_unsettled hs.has_process hopen
      exact List.nodup_cons.mpr ⟨hnot, hnodup⟩
    · exact hnodup
  | concluded => exact hnodup.erase _
  | _ => exact hnodup

lemma nodup_calling_play (h : x.Sound) (hnodup : x.calling.Nodup) (moves : List Move) :
    (x.play moves).calling.Nodup := by
  induction moves generalizing x with
  | nil => exact hnodup
  | cons m rest ih => exact ih (h.step m) (nodup_calling_step h hnodup m)

/-- The callback of a settled process does not start to run any more. -/
lemma not_mem_calling_step (h : x.Sound) {p : Nat} {proc : Process}
    (hp : x.controller.processes[p]? = some proc) (hsettled : proc.settled = true)
    (hnot : p ∉ x.calling) (m : Move) : p ∉ (x.step m).calling := by
  have hdid := did h.linked m
  generalize x.step m = y at hdid
  cases hdid with
  | @settled m q proc' request doc capture progress calling more hm hs hopen hcalling =>
    obtain rfl | ⟨rfl, -⟩ := hcalling
    · rw [List.mem_cons, not_or]
      refine ⟨?_, hnot⟩
      rintro rfl
      obtain rfl := hs.process_eq hp
      exact absurd (hopen.symm.trans hsettled) (by simp)
    · exact hnot
  | concluded => exact fun hmem => hnot (List.mem_of_mem_erase hmem)
  | _ => exact hnot

lemma not_mem_calling_play (h : x.Sound) {p : Nat} {proc : Process}
    (hp : x.controller.processes[p]? = some proc) (hsettled : proc.settled = true)
    (hnot : p ∉ x.calling) (moves : List Move) : p ∉ (x.play moves).calling := by
  induction moves generalizing x proc with
  | nil => exact hnot
  | cons m rest ih =>
    obtain ⟨proc', hnext, hstill⟩ := settled_play h hp hsettled [m]
    exact ih (h.step m) hnext hstill (not_mem_calling_step h hp hsettled hnot m)

/-! ## What there is to say about the callback -/

/-- The end of the calls of a callback: process `p` has been completed, and `during` are the moves
made since, by the callback or by others. -/
def duringCallback (x : Run) (p : Nat) (during : List Move) : Run :=
  (x.step (.complete p)).play during

/-- The callback has made its calls and then has returned, or failed with the given words. -/
def afterCallback (x : Run) (p : Nat) (during : List Move) (failure : Option Text) : Run :=
  (x.duringCallback p during).step (.conclude p failure)

/-- The completion of process `p`, which gives `outcome` to its request `r`, survives a callback
that makes the calls in `during` and then returns or fails. -/
structure Survives (x : Run) (p r : Nat) (request : Request) (outcome : Outcome)
    (during : List Move) (failure : Option Text) : Prop where
  /-- The request has its outcome before the callback is called. -/
  recorded : (x.step (.complete p)).events = x.events ++ .resolved r outcome ::
    (if request.callback then [.delivered r outcome] else [])
  outcome_stays : ∀ later,
    ((x.afterCallback p during failure).play later).controller.progress? r =
      some (.resolved outcome)
  released : ∀ later, ∃ proc,
    ((x.afterCallback p during failure).play later).controller.processes[p]? = some proc ∧
      proc.capture = .released
  unregistered : ∀ later identity,
    ((x.afterCallback p during failure).play later).controller.current? identity ≠ some p
  called_once : ∀ later,
    ((x.afterCallback p during failure).play later).events.filter (·.calls r) =
      if request.callback then [.delivered r outcome] else []
  /-- No more is done after the callback than to drop the output of the process. -/
  nothing_else : (x.afterCallback p during failure).controller =
    (x.duringCallback p during).controller.release p
  /-- A process that was registered in the meantime is still current, unless its identity was
  displaced or its end was dealt with. -/
  registration_stays : ∀ (pre post : List Move) (o : Order) (r' q : Nat) (request' : Request),
    during = pre ++ .start o :: post →
    (x.duringCallback p pre).Makes (.start o) r' request' → request'.process = some q →
    ¬ DisplacedIn (x.duringCallback p pre).controller.documents request'.identity post →
    (∀ m ∈ post, ∀ progress, ¬ m.Settles q progress) →
    (x.afterCallback p during failure).controller.current? request'.identity = some q
  /-- A process that was displaced in the meantime never becomes current again. -/
  displacement_stays : ∀ (pre post : List Move) (m : Move) (identity : Text) (q : Nat),
    during = pre ++ m :: post →
    m.Displaces (x.duringCallback p pre).controller.documents identity →
    q < (x.duringCallback p pre).controller.processes.length → ∀ later,
    ((x.afterCallback p during failure).play later).controller.current? identity ≠ some q
  /-- It makes no difference whether the callback returns or how it fails. -/
  either_way : ∀ other,
    (x.afterCallback p during other).GoesOnAs (x.afterCallback p during failure)

/-! ## The return of the callback -/

/-- The calls of a callback that has been called if there is one. -/
lemma calls_of_resolved (h : x.Sound) {r p : Nat} {request : Request} {outcome : Outcome}
    (hr : x.controller.requests[r]? = some request) (hp : request.process = some p)
    (hprogress : request.progress = .resolved outcome) (hkind : outcome.kind ≠ .superseded) :
    x.events.filter (·.calls r) =
      if request.callback then [.delivered r outcome] else [] := by
  rw [h.recorded.calls r, callsMade_of_some hr (h.linked.not_undelivered hr hp)]
  by_cases hcb : request.callback = true
  · have hcalled : request.called? = some outcome :=
      (request.called?_eq_some_iff outcome).mpr ⟨hprogress, hcb, hkind⟩
    rw [hcalled, if_pos hcb]
    rfl
  · have hcalled : request.called? = none := by simp [Request.called?, hprogress, hcb]
    rw [hcalled, if_neg hcb]
    rfl

/-- Releasing a process again changes nothing. -/
lemma release_of_released {s : Controller} {p : Nat}
    (h : ∀ proc, s.processes[p]? = some proc → proc.capture = .released) : s.release p = s := by
  have hsame : s.updateProcess p (fun proc => { proc with capture := .released }) =
      s.updateProcess p id := by
    refine updateProcess_congr fun proc hp => ?_
    rw [← h proc hp]
    rfl
  rw [release, hsame, updateProcess, List.modify_id]

/-- After a completion the return of the callback only drops the output, whether or not it fails
and also when there is no callback. -/
lemma step_conclude_of_settled (h : x.Sound) {p : Nat} {proc : Process}
    (hp : x.controller.processes[p]? = some proc) (hsettled : proc.settled = true)
    (failure : Option Text) :
    (x.step (.conclude p failure)).controller = x.controller.release p ∧
      (x.step (.conclude p failure)).calling = x.calling.erase p := by
  by_cases hcalling : p ∈ x.calling
  · rw [step_conclude_of_mem h.linked hcalling]
    exact ⟨rfl, rfl⟩
  · have hreleased : x.controller.release p = x.controller := by
      refine release_of_released fun proc' hp' => ?_
      obtain rfl := Option.some.inj (hp.symm.trans hp')
      exact h.linked.released hp hsettled hcalling
    rw [step_conclude_of_not_mem hcalling, hreleased, List.erase_of_not_mem hcalling]
    exact ⟨rfl, rfl⟩

/-- A process is current from its start on as long as nothing displaces its identity and nothing
settles it. -/
lemma current?_of_undisturbed (h : x.Sound) {o : Order} {r q : Nat} {request : Request}
    (hm : x.Makes (.start o) r request) (hq : request.process = some q) {post : List Move}
    (hkept : ¬ DisplacedIn x.controller.documents request.identity post)
    (hquiet : ∀ m ∈ post, ∀ progress, ¬ m.Settles q progress) :
    ((x.step (.start o)).play post).controller.current? request.identity = some q := by
  refine (current?_since_start h hm hq post fun proc hp => ?_).mpr hkept
  obtain ⟨doc, g, l, -, -, rfl, -, hstep⟩ := accepted_of_makes hm hq
  have hnew : (x.step (.start o)).controller.processes[x.controller.processes.length]? =
      some (x.controller.acceptedProcess o l) := by
    rw [hstep]
    simp [Controller.enterAccepted, register]
  exact unsettled_play (h.step (.start o)) hnew rfl hquiet hp

/-! ## The result -/

section Survives

variable {p : Nat} {proc : Process} {request : Request} {doc : Document} {status : Int}
  {output : Text}

/-- From the completion on the request is resolved and the process settled. -/
lemma settled_since_completion (h : x.Sound) (hs : x.controller.Serves p proc request doc)
    (hended : proc.ended = some (status, output)) (hopen : proc.settled = false)
    (hc : x.controller.current? doc.identity = some p) (moves : List Move) :
    ((x.step (.complete p)).play moves).controller.requests[proc.request]? =
        some { request with
          progress := .resolved (buildOutcome proc p request doc status output) } ∧
      ∃ proc', ((x.step (.complete p)).play moves).controller.processes[p]? = some proc' ∧
        proc'.settled = true := by
  have hnext := h.step (.complete p)
  have hstep := step_complete_of_current h.linked hs hended hopen hc
  have hrequest : (x.step (.complete p)).controller.requests[proc.request]? =
      some { request with
        progress := .resolved (buildOutcome proc p request doc status output) } := by
    rw [hstep]
    refine Linked.requests_settle.mpr ⟨request, ?_, if_pos rfl⟩
    rw [withdraw_requests]
    exact hs.has_request
  have hprocess : ∃ proc', (x.step (.complete p)).controller.processes[p]? = some proc' ∧
      proc'.settled = true := by
    rw [hstep]
    refine ⟨_, Linked.processes_settle.mpr ⟨proc, ?_, if_pos rfl⟩, rfl⟩
    rw [withdraw_processes]
    exact hs.has_process
  obtain ⟨proc', hp, hsettled⟩ := hprocess
  exact ⟨request_play_of_settled hnext hrequest (by simp) moves,
    settled_play hnext hp hsettled moves⟩

lemma survives (h : x.Sound) (hnodup : x.calling.Nodup)
    (hs : x.controller.Serves p proc request doc) (hended : proc.ended = some (status, output))
    (hopen : proc.settled = false) (hc : x.controller.current? doc.identity = some p)
    (during : List Move) (failure : Option Text) :
    x.Survives p proc.request request (buildOutcome proc p request doc status output) during
      failure := by
  have hkind := buildOutcome_kind proc p request doc status output
  have hsettled := settled_since_completion h hs hended hopen hc
  have hduring : ∀ moves, (x.duringCallback p moves).Sound := fun moves =>
    (h.step (.complete p)).after moves
  have hafter : ∀ later, ((x.afterCallback p during failure).play later).Sound := fun later =>
    ((hduring during).step (.conclude p failure)).after later
  -- What follows the callback follows the completion.
  have hmoves : ∀ later, (x.afterCallback p during failure).play later =
      (x.step (.complete p)).play (during ++ .conclude p failure :: later) := by
    intro later
    rw [play_append, play_cons]
    rfl
  obtain ⟨-, proc', hp', hsettled'⟩ := hsettled during
  have hconclude : ∀ failure,
      (x.afterCallback p during failure).controller =
          (x.duringCallback p during).controller.release p ∧
        (x.afterCallback p during failure).calling =
          (x.duringCallback p during).calling.erase p :=
    step_conclude_of_settled (hduring during) hp' hsettled'
  have hcur : ∀ identity, (x.afterCallback p during failure).controller.current? identity =
      (x.duringCallback p during).controller.current? identity := by
    intro identity
    rw [(hconclude failure).1]
    rfl
  exact {
    recorded := by
      have hevents : (x.step (.complete p)).events = x.events ++
          Recorded.settling proc.request { request with
            progress := .resolved (buildOutcome proc p request doc status output) } := by
        rw [step_complete_of_current h.linked hs hended hopen hc, settle, List.append_nil]
      rw [hevents]
      by_cases hcb : request.callback = true
      · rw [settling_of_call hcb hkind, if_pos hcb]
      · rw [settling_of_no_call (.inl (Bool.eq_false_iff.mpr hcb)), if_neg hcb]
    outcome_stays := by
      intro later
      rw [hmoves, progress?, (hsettled _).1]
      rfl
    released := by
      intro later
      obtain ⟨-, proc₁, hp₁, hset₁⟩ := hsettled (during ++ [.conclude p failure])
      obtain ⟨-, proc₂, hp₂, hset₂⟩ := hsettled (during ++ .conclude p failure :: later)
      rw [← hmoves] at hp₁ hp₂
      have hgone : p ∉ (x.afterCallback p during failure).calling := by
        rw [(hconclude failure).2]
        exact List.Nodup.not_mem_erase (nodup_calling_play h hnodup (.complete p :: during))
      have hstill := not_mem_calling_play (hafter []) hp₁ hset₁ hgone later
      exact ⟨proc₂, hp₂, (hafter later).linked.released hp₂ hset₂ hstill⟩
    unregistered := by
      intro later
      obtain ⟨-, proc₂, hp₂, hset₂⟩ := hsettled (during ++ .conclude p failure :: later)
      rw [← hmoves] at hp₂
      exact (hafter later).linked.current?_ne_of_settled hp₂ hset₂
    called_once := by
      intro later
      have hrequest := (hsettled (during ++ .conclude p failure :: later)).1
      rw [← hmoves] at hrequest
      have hcalls := calls_of_resolved (hafter later) hrequest hs.back rfl hkind
      exact hcalls
    nothing_else := (hconclude failure).1
    registration_stays := by
      intro pre post o r' q request' hsplit hm hq hkept hquiet
      rw [hcur, hsplit, duringCallback, play_append, play_cons]
      exact current?_of_undisturbed (hduring pre) hm hq hkept hquiet
    displacement_stays := by
      intro pre post m identity q hsplit hd hold later
      rw [hmoves, hsplit, List.append_assoc, List.cons_append, play_append, play_cons]
      exact not_current_after_displacement (hduring pre) hd hold _
    either_way := by
      intro other
      refine goesOnAs_of_same ?_ ?_
      · rw [(hconclude failure).1, (hconclude other).1]
      · rw [(hconclude failure).2, (hconclude other).2] }

end Survives

/-- The completion of a current process survives whatever its callback does. -/
theorem completion_survives_callback (documents : List Document) (moves : List Move) {p : Nat}
    {proc : Process} {status : Int} {output : Text}
    (hp : ((Run.begin documents).play moves).controller.processes[p]? = some proc)
    (hended : proc.ended = some (status, output)) (hopen : proc.settled = false)
    (hcur : ((Run.begin documents).play moves).controller.isCurrent p = true) :
    ∃ request outcome,
      ((Run.begin documents).play moves).controller.requests[proc.request]? = some request ∧
      outcome.kind ≠ .superseded ∧
      ∀ during failure,
        ((Run.begin documents).play moves).Survives p proc.request request outcome during
          failure := by
  have hsound := Sound.play documents moves
  have hnodup : ((Run.begin documents).play moves).calling.Nodup :=
    nodup_calling_play (Sound.begin documents) List.nodup_nil moves
  obtain ⟨request, doc, hs⟩ := hsound.linked.served hp
  rw [isCurrent_of_serves hs, beq_iff_eq] at hcur
  exact ⟨request, buildOutcome proc p request doc status output, hs.has_request,
    buildOutcome_kind proc p request doc status output,
    survives hsound hnodup hs hended hopen hcur⟩

/-- A callback lints the document again and then fails: the new process is still current, and the
request that was completed keeps its outcome. -/
theorem follow_up_survives_failure :
    ((Run.begin [plainDocument]).play [.start plainOrder, .finish 0 0 [], .complete 0,
        .start plainOrder, .conclude 0 (some "boom")]).controller.current? "A" = some 1 ∧
    ((Run.begin [plainDocument]).play [.start plainOrder, .finish 0 0 [], .complete 0,
        .start plainOrder, .conclude 0 (some "boom")]).controller.current? "A" ≠ some 0 ∧
    ∃ outcome, outcome.kind ≠ .superseded ∧
      ((Run.begin [plainDocument]).play [.start plainOrder, .finish 0 0 [], .complete 0,
        .start plainOrder, .conclude 0 (some "boom")]).controller.progress? 0 =
          some (.resolved outcome) := by
  obtain ⟨request, outcome, -, hkind, hsurvives⟩ :=
    completion_survives_callback [plainDocument] [.start plainOrder, .finish 0 0 []] (p := 0)
      rfl rfl rfl (by decide)
  have hsurvived := hsurvives [.start plainOrder] (some "boom")
  refine ⟨?_, hsurvived.unregistered [] "A", outcome, hkind, hsurvived.outcome_stays []⟩
  exact hsurvived.registration_stays [] [] plainOrder 1 1
    { identity := "A", grammar := .kotlin, process := some 1, callback := true } rfl ⟨rfl, rfl⟩
    rfl (not_displacedIn_nil _ _) (by simp)

end Run
end GradleLint
