import GradleLint.Proofs.Controller.History
import Mathlib.Data.List.Induction

/-!
# Where requests and processes come from

Every process of a run was made by one start, together with its request (`exists_start`), and is
current from then on until its identity is displaced (`current?_since_start`).  Every settled
process was settled by one move, a completion or a failed wait, and its request still stands
where that move left it (`exists_settling`).
-/

namespace GradleLint
namespace Run

open Controller

/-- A move makes a request. -/
def Makes (x : Run) (m : Move) (r : Nat) (request : Request) : Prop :=
  r = x.controller.requests.length ∧
    (x.step m).controller.requests = x.controller.requests ++ [request]

variable {x : Run}

/-! ## Starts -/

/-- A start that makes a request found a document and a grammar for it.  It refused the request, or
entered it with a process in place of the process of before. -/
lemma entered_of_makes {o : Order} {r : Nat} {request : Request}
    (hm : x.Makes (.start o) r request) :
    ∃ doc g, x.controller.documents[o.document]? = some doc ∧
      Grammar.choose o.grammar doc.path = .ok g ∧
      ((∃ reason, request = refusedRequest o doc.identity g reason ∧
        (x.step (.start o)).controller =
          (x.controller.deregister doc.identity).enterRefused request) ∨
      ∃ l, request = x.controller.acceptedRequest o doc.identity g ∧
        (x.step (.start o)).controller = (x.controller.deregister doc.identity).enterAccepted
          request (x.controller.acceptedProcess o l)) := by
  obtain ⟨-, hmakes⟩ := hm
  have hdid := did_start x o
  generalize x.step (.start o) = y at hdid hmakes
  have hnot : x.controller.requests ≠ x.controller.requests ++ [request] := by simp
  cases hdid with
  | idle => exact absurd hmakes hnot
  | raised => exact absurd hmakes hnot
  | edited => exact absurd hmakes hnot
  | settled hm => cases hm
  | @refused _ doc g hd hg l reason =>
    obtain rfl := (List.append_right_inj _).mp hmakes |> List.singleton_inj.mp
    exact ⟨doc, g, hd, hg, .inl ⟨reason, rfl, rfl⟩⟩
  | @accepted _ doc g l hd hg =>
    obtain rfl := (List.append_right_inj _).mp hmakes |> List.singleton_inj.mp
    exact ⟨doc, g, hd, hg, .inr ⟨l, rfl, rfl⟩⟩

lemma accepted_of_makes {o : Order} {r p : Nat} {request : Request}
    (hm : x.Makes (.start o) r request) (hp : request.process = some p) :
    ∃ doc g l, x.controller.documents[o.document]? = some doc ∧
      Grammar.choose o.grammar doc.path = .ok g ∧ p = x.controller.processes.length ∧
      request = x.controller.acceptedRequest o doc.identity g ∧
      (x.step (.start o)).controller = (x.controller.deregister doc.identity).enterAccepted
        request (x.controller.acceptedProcess o l) := by
  obtain ⟨doc, g, hd, hg, ⟨reason, rfl, -⟩ | ⟨l, rfl, hstep⟩⟩ := entered_of_makes hm
  · exact absurd hp (by simp [refusedRequest])
  · exact ⟨doc, g, l, hd, hg, (Option.some.inj hp).symm, rfl, hstep⟩

/-- A move that makes a process is a start, and makes a request for it. -/
lemma start_of_new_process (h : x.Sound) (m : Move) {p : Nat} {proc : Process}
    (hp : (x.step m).controller.processes[p]? = some proc)
    (hnew : x.controller.processes.length ≤ p) :
    ∃ o request, m = .start o ∧ x.Makes (.start o) proc.request request ∧
      request.process = some p ∧ o.document = proc.document := by
  have hdid := did h.linked m
  have hlt : p < (x.step m).controller.processes.length := (List.getElem?_eq_some_iff.mp hp).1
  have hold : (x.step m).controller.processes.length = x.controller.processes.length → False :=
    fun hlen => by omega
  generalize hy : x.step m = y at hdid hp hlt hold
  cases hdid with
  | idle => exact (hold rfl).elim
  | raised => exact (hold rfl).elim
  | refused => exact (hold rfl).elim
  | @accepted o doc g l hd hg hl hr =>
    obtain hp | ⟨rfl, rfl⟩ := getElem?_concat.mp hp
    · exact absurd (List.getElem?_eq_some_iff.mp hp).1 (by simpa using hnew)
    · refine ⟨o, x.controller.acceptedRequest o doc.identity g, rfl, ⟨rfl, ?_⟩, rfl, rfl⟩
      rw [hy]
      rfl
  | cancelled => exact (hold rfl).elim
  | shutdown => exact (hold (by simp [shutdown_controller])).elim
  | edited => exact (hold rfl).elim
  | finished => exact (hold (by simp [Controller.finish, updateProcess])).elim
  | settled => exact (hold (by simp [Controller.settle, updateProcess, updateRequest])).elim
  | concluded => exact (hold (by simp [Controller.release, updateProcess])).elim
  | delivered => exact (hold rfl).elim
  | aborted => exact (hold rfl).elim

/-- Every process of a run was made by one start, together with its request. -/
theorem exists_start (documents : List Document) (moves : List Move) {p : Nat} {proc : Process}
    (hp : ((Run.begin documents).play moves).controller.processes[p]? = some proc) :
    ∃ before o between request, moves = before ++ .start o :: between ∧
      ((Run.begin documents).play before).Makes (.start o) proc.request request ∧
      request.process = some p ∧ o.document = proc.document := by
  induction moves using List.reverseRecOn generalizing proc with
  | nil => exact absurd hp (by simp [Run.begin])
  | append_singleton moves m ih =>
    have hsound := Sound.play documents moves
    rw [play_append, play_cons, play_nil] at hp
    set x := (Run.begin documents).play moves with hx
    by_cases hold : p < x.controller.processes.length
    · -- The process is older than the last move and serves the same request as before.
      obtain ⟨capture, ended, settled, hsame, -⟩ :=
        (extends_step hsound m).process (List.getElem?_eq_getElem hold)
      obtain ⟨before, o, between, request, rfl, hmakes, hback, hdoc⟩ :=
        ih (List.getElem?_eq_getElem hold)
      rw [hp] at hsame
      obtain rfl := Option.some.inj hsame
      exact ⟨before, o, between ++ [m], request, by simp, hmakes, hback, hdoc⟩
    · obtain ⟨o, request, rfl, hmakes, hback, hdoc⟩ :=
        start_of_new_process hsound m hp (Nat.le_of_not_lt hold)
      exact ⟨moves, o, [], request, rfl, hmakes, hback, hdoc⟩

/-! ## Since the start -/

/-- A process that is still unsettled is current exactly when nothing has displaced its identity
since its start. -/
theorem current?_since_start (h : x.Sound) {o : Order} {r p : Nat} {request : Request}
    (hm : x.Makes (.start o) r request) (hp : request.process = some p) (between : List Move)
    (hopen : ∀ proc, ((x.step (.start o)).play between).controller.processes[p]? = some proc →
      proc.settled = false) :
    ((x.step (.start o)).play between).controller.current? request.identity = some p ↔
      ¬ DisplacedIn x.controller.documents request.identity between := by
  have hnext := h.step (.start o)
  obtain ⟨doc, g, l, -, -, rfl, hrequest, hstep⟩ := accepted_of_makes hm hp
  have hnone : (x.controller.deregister doc.identity).current? request.identity = none := by
    simp [hrequest, acceptedRequest]
  have hcur : (x.step (.start o)).controller.current? request.identity =
      some x.controller.processes.length := by
    rw [hstep, current?_enterAccepted _ hnone, if_pos rfl]
    rfl
  have hlen : x.controller.processes.length < (x.step (.start o)).controller.processes.length := by
    rw [hstep]
    simp [Controller.enterAccepted, register]
  have hdocuments : (x.step (.start o)).controller.documents = x.controller.documents :=
    documents_step h (.start o)
  rw [current?_play hnext between hlen hopen, hdocuments]
  simp [hcur]

/-! ## Settlements -/

/-- A process that is settled after a move was so before, or the move settles it. -/
lemma settles_of_settled (h : x.Sound) (m : Move) {p : Nat} {proc : Process}
    (hp : (x.step m).controller.processes[p]? = some proc) (hsettled : proc.settled = true) :
    (∃ old, x.controller.processes[p]? = some old ∧ old.settled = true ∧
      old.request = proc.request) ∨
    ∃ progress, m.Settles p progress ∧
      (x.step m).controller.progress? proc.request = some progress := by
  have hdid := did h.linked m
  generalize x.step m = y at hdid hp
  -- Where nothing settles, the process is one of before.
  have hupdate : ∀ (q : Nat) (f : Process → Process),
      (∀ proc, (f proc).settled = proc.settled ∧ (f proc).request = proc.request) →
      (x.controller.updateProcess q f).processes[p]? = some proc →
      ∃ old, x.controller.processes[p]? = some old ∧ old.settled = true ∧
        old.request = proc.request := by
    intro q f hf hq
    obtain ⟨old, hold, rfl⟩ := Linked.processes_updateProcess.mp hq
    split at hsettled
    · exact ⟨old, hold, (hf old).1 ▸ hsettled, by simp [*]⟩
    · exact ⟨old, hold, hsettled, by simp [*]⟩
  cases hdid with
  | idle => exact .inl ⟨proc, hp, hsettled, rfl⟩
  | raised => exact .inl ⟨proc, hp, hsettled, rfl⟩
  | refused => exact .inl ⟨proc, hp, hsettled, rfl⟩
  | accepted =>
    obtain hp | ⟨-, rfl⟩ := getElem?_concat.mp hp
    · exact .inl ⟨proc, hp, hsettled, rfl⟩
    · exact absurd hsettled (by simp [acceptedProcess])
  | cancelled => exact .inl ⟨proc, hp, hsettled, rfl⟩
  | shutdown =>
    rw [advance_controller, shutdown_controller] at hp
    exact .inl ⟨proc, hp, hsettled, rfl⟩
  | edited => exact .inl ⟨proc, hp, hsettled, rfl⟩
  | finished q status output =>
    exact .inl (hupdate q (fun proc => { proc with ended := some (status, output) })
      (fun _ => ⟨rfl, rfl⟩) hp)
  | @settled m q old request doc capture progress calling more hm hs =>
    obtain ⟨other, hother, rfl⟩ := Linked.processes_settle.mp hp
    rw [withdraw_processes] at hother
    by_cases hqp : q = p
    · subst hqp
      obtain rfl := hs.process_eq hother
      have hr : (x.controller.withdraw q doc.identity).requests[old.request]? = some request := by
        rw [withdraw_requests]
        exact hs.has_request
      refine .inr ⟨progress, hm, ?_⟩
      rw [if_pos rfl]
      exact Linked.progress?_settle hr capture progress
    · rw [if_neg hqp] at hsettled ⊢
      exact .inl ⟨other, hother, hsettled, rfl⟩
  | @concluded q =>
    exact .inl (hupdate q (fun proc => { proc with capture := .released })
      (fun _ => ⟨rfl, rfl⟩) hp)
  | delivered => exact .inl ⟨proc, hp, hsettled, rfl⟩
  | aborted => exact .inl ⟨proc, hp, hsettled, rfl⟩

/-- A process that none of some moves settles stays unsettled. -/
lemma unsettled_play (h : x.Sound) {p : Nat} {proc : Process}
    (hp : x.controller.processes[p]? = some proc) (hopen : proc.settled = false)
    {moves : List Move} (hnone : ∀ m ∈ moves, ∀ progress, ¬ m.Settles p progress)
    {proc' : Process} (hp' : (x.play moves).controller.processes[p]? = some proc') :
    proc'.settled = false := by
  induction moves generalizing x proc with
  | nil =>
    obtain rfl := Option.some.inj (hp.symm.trans hp')
    exact hopen
  | cons m rest ih =>
    obtain ⟨capture, ended, settled, hnext, -⟩ := (extends_step h m).process hp
    have hstill : settled = false := by
      by_contra hsettled
      obtain ⟨old, hold, hset, -⟩ | ⟨progress, hm, -⟩ :=
        settles_of_settled h m hnext (by simpa using hsettled)
      · obtain rfl := Option.some.inj (hp.symm.trans hold)
        exact absurd (hopen.symm.trans hset) (by simp)
      · exact hnone m List.mem_cons_self progress hm
    exact ih (h.step m) hnext hstill (fun m' hm' => hnone m' (List.mem_cons_of_mem m hm')) hp'

/-- Every settled process was settled by one of the moves, and its request stands where that
move left it. -/
theorem exists_settling (documents : List Document) (moves : List Move) {p : Nat}
    {proc : Process}
    (hp : ((Run.begin documents).play moves).controller.processes[p]? = some proc)
    (hsettled : proc.settled = true) :
    ∃ m ∈ moves, ∃ progress, m.Settles p progress ∧
      ((Run.begin documents).play moves).controller.progress? proc.request = some progress := by
  induction moves using List.reverseRecOn generalizing proc with
  | nil => exact absurd hp (by simp [Run.begin])
  | append_singleton moves m ih =>
    have hsound := Sound.play documents moves
    rw [play_append, play_cons, play_nil] at hp ⊢
    obtain ⟨old, hold, hset, hreq⟩ | ⟨progress, hm, hprogress⟩ :=
      settles_of_settled hsound m hp hsettled
    · obtain ⟨m', hm', progress, hsettles, hprogress⟩ := ih hold hset
      rw [hreq] at hprogress
      exact ⟨m', List.mem_append_left _ hm', progress, hsettles,
        (extends_step hsound m).progress? hprogress hsettles.ne_pending⟩
    · exact ⟨m, by simp, progress, hm, hprogress⟩

end Run
end GradleLint
