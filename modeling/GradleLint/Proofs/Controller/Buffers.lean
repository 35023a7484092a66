import GradleLint.Proofs.Controller.Callbacks
import GradleLint.Proofs.Controller.Capture

/-!
# What becomes of captured output

The buffer of a process is worked by one thread, the one that waits for the process.  When the
process has ended, the thread hands in the output and reads it in a block, in which the callback
is called too; leaving the block closes the buffer.  A callback that fails makes the thread release
the buffer a second time, and a failure to wait makes it release a buffer that nothing was handed
in to.  `Run.works` are these operations in the course of a run.

`Thread.Stage` says how far a thread has come and what it has done with its buffer by then.  The
main statement `Run.buffer_worked` is that at every moment of every run each thread is at one of
the stages, with the buffer that its operations lead to, and that none of the operations is
refused.  So the output of a process is handed in once and read once, and no buffer is read after
it was closed.
-/

namespace GradleLint

namespace Capture

/-- All that a thread does with a buffer by the time it is done with the process. -/
inductive IsWork : List Op → Prop where
  | read (output : Text) : IsWork [.append output, .enter, .text, .leave]
  /-- The callback has failed. -/
  | failed (output : Text) : IsWork [.append output, .enter, .text, .leave, .release]
  /-- There is nothing to read, for waiting has failed. -/
  | lost : IsWork [.release]

/-- A buffer grants some operations, which lead to another: none of them is refused. -/
structure Grants (c : Capture) (ops : List Op) (c' : Capture) : Prop where
  leads : c.after ops = c'
  unrefused : ∀ answer ∈ c.run ops, ∀ e, answer.2 ≠ .refused e

lemma Grants.nil (c : Capture) : c.Grants [] c := ⟨rfl, by simp [run]⟩

lemma Grants.append {c c' c'' : Capture} {ops more : List Op} (h : c.Grants ops c')
    (h' : c'.Grants more c'') : c.Grants (ops ++ more) c'' where
  leads := by rw [after_append, h.leads, h'.leads]
  unrefused := by
    rw [run_append, h.leads]
    intro answer hmem
    rcases List.mem_append.mp hmem with hmem | hmem
    · exact h.unrefused answer hmem
    · exact h'.unrefused answer hmem

/-- Closing is never refused. -/
lemma Grants.close (c : Capture) {op : Op} (hop : op.closes = true) :
    c.Grants [op] .released where
  leads := by rw [after_cons, step_of_closes c hop, after_nil]
  unrefused := by simp [run, step_of_closes c hop]

/-- The output of a process is handed in and read in one piece. -/
lemma Grants.read (output : Text) :
    empty.Grants [.append output, .enter, .text] (.live [output]) where
  leads := rfl
  unrefused := by
    have hrun : empty.run [.append output, .enter, .text] =
        [(live [output], .done), (live [output], .entered),
          (live [output], .captured [output].flatten)] := rfl
    simp [hrun]

lemma IsWork.grants {ops : List Op} (h : IsWork ops) : empty.Grants ops .released := by
  have hread : ∀ output, empty.Grants [.append output, .enter, .text, .leave] .released :=
    fun output => (Grants.read output).append (.close _ rfl)
  cases h with
  | read output => exact hread output
  | failed output => exact (hread output).append (.close _ rfl)
  | lost => exact .close _ rfl

end Capture

/-! ## Threads -/

/-- What there is to see of the thread that waits for a process: whether it has dealt with the end
of the process, the buffer, and whether the callback is running. -/
structure Thread where
  settled : Bool
  buffer : Capture
  calling : Bool

/-- How far a thread has come, and what it has done with its buffer. -/
inductive Thread.Stage : Thread → List Capture.Op → Prop where
  | waiting : Stage ⟨false, .empty, false⟩ []
  /-- The callback is running. -/
  | reading (output : Text) :
    Stage ⟨true, .live [output], true⟩ [.append output, .enter, .text]
  | finished {ops : List Capture.Op} (hops : Capture.IsWork ops) : Stage ⟨true, .released, false⟩ ops

/-- At every stage the buffer is what the operations lead to, and none of them is refused. -/
lemma Thread.Stage.grants {t : Thread} {ops : List Capture.Op} (h : t.Stage ops) :
    Capture.empty.Grants ops t.buffer := by
  cases h with
  | waiting => exact .nil _
  | reading output => exact .read output
  | finished hops => exact hops.grants

/-- Before the end of its process a thread has done nothing. -/
lemma Thread.Stage.eq_nil {t : Thread} {ops : List Capture.Op} (h : t.Stage ops)
    (ht : t.settled = false) : ops = [] := by
  cases h with
  | waiting => rfl
  | reading => simp at ht
  | finished => simp at ht

/-- While the callback is running the output has been read, and the block is still open. -/
lemma Thread.Stage.exists_read {t : Thread} {ops : List Capture.Op} (h : t.Stage ops)
    (ht : t.calling = true) : ∃ output, ops = [.append output, .enter, .text] := by
  cases h with
  | waiting => simp at ht
  | reading output => exact ⟨output, rfl⟩
  | finished => simp at ht

/-- A process whose end has not been dealt with. -/
def Controller.unsettled? (s : Controller) (p : Nat) : Option Process :=
  (s.processes[p]?).filter fun proc => !proc.settled

lemma Controller.unsettled?_eq_some {s : Controller} {p : Nat} {proc : Process} :
    s.unsettled? p = some proc ↔ s.processes[p]? = some proc ∧ proc.settled = false := by
  rw [unsettled?, Option.filter_eq_some_iff, Bool.not_eq_true']

lemma Controller.unsettled?_eq_none {s : Controller} {p : Nat} :
    s.unsettled? p = none ↔ ∀ proc, s.processes[p]? = some proc → proc.settled = true := by
  simp [unsettled?, Option.filter_eq_none_iff]

/-- A move of the thread that waits for a process. -/
inductive Move.Handles (p : Nat) : Move → Prop where
  | complete : Handles p (.complete p)
  | conclude (failure : Option Text) : Handles p (.conclude p failure)
  | failWait (e : SystemError) : Handles p (.failWait p e)

namespace Run

open Controller

variable {x y : Run} {p q : Nat} {proc : Process}

/-- The thread that waits for a process; as long as there is no such process, a new thread. -/
def thread (x : Run) (p : Nat) : Thread where
  settled := (x.controller.processes[p]?).any (·.settled)
  buffer := (x.controller.processes[p]?).elim .empty (·.capture)
  calling := decide (p ∈ x.calling)

/-- What a move does with the buffer of a process.  The block in which the output is read is left
at the end of the completion, which is after the callback if there is one to call. -/
def work (x : Run) (p : Nat) : Move → List Capture.Op
  | .complete q =>
    match if q = p then (x.controller.unsettled? p).bind (·.ended) else none with
    | none => []
    | some (_, output) =>
      [.append output, .enter, .text] ++
        if p ∈ (x.step (.complete p)).calling then [] else [.leave]
  | .conclude q failure =>
    if q = p ∧ p ∈ x.calling then .leave :: (failure.map fun _ => .release).toList else []
  | .failWait q _ => if q = p ∧ (x.controller.unsettled? p).isSome then [.release] else []
  | _ => []

/-- What moves do with the buffer of a process. -/
def works (x : Run) (p : Nat) : List Move → List Capture.Op
  | [] => []
  | m :: rest => x.work p m ++ (x.step m).works p rest

lemma thread_of_some (hp : x.controller.processes[p]? = some proc) :
    x.thread p = ⟨proc.settled, proc.capture, decide (p ∈ x.calling)⟩ := by
  simp [thread, hp]

lemma thread_congr (hp : y.controller.processes[p]? = x.controller.processes[p]?)
    (hc : p ∈ y.calling ↔ p ∈ x.calling) : y.thread p = x.thread p := by
  simp only [thread, hp, hc]

/-! ## Moves of others -/

lemma work_of_not_handles {m : Move} (hm : ¬ m.Handles p) : x.work p m = [] := by
  cases m with
  | complete q =>
    have hqp : q ≠ p := by
      rintro rfl
      exact hm .complete
    simp [work, hqp]
  | conclude q failure =>
    refine if_neg ?_
    rintro ⟨rfl, -⟩
    exact hm (.conclude failure)
  | failWait q e =>
    refine if_neg ?_
    rintro ⟨rfl, -⟩
    exact hm (.failWait e)
  | _ => rfl

/-- A thread does not know that its process has ended. -/
lemma thread_finish (x : Run) (q : Nat) (status : Int) (output : Text) (p : Nat) :
    (x.advance (x.controller.finish q status output) []).thread p = x.thread p := by
  by_cases hqp : q = p
  · subst hqp
    cases hp : x.controller.processes[q]? with
    | none => exact thread_congr (by simp [finish, updateProcess, hp]) Iff.rfl
    | some proc =>
      have hended : (x.controller.finish q status output).processes[q]? =
          some { proc with ended := some (status, output) } :=
        Linked.processes_updateProcess.mpr ⟨proc, hp, if_pos rfl⟩
      have hafter := thread_of_some (x := x.advance (x.controller.finish q status output) []) hended
      exact hafter.trans (thread_of_some hp).symm
  · exact thread_congr (List.getElem?_modify_ne _ _ hqp) Iff.rfl

/-- A thread stays where it is until it makes a move of its own. -/
lemma thread_step (h : x.Sound) {m : Move} (hm : ¬ m.Handles p) :
    (x.step m).thread p = x.thread p := by
  have hdid := did h.linked m
  generalize x.step m = y at hdid
  cases hdid with
  | idle => rfl
  | raised => rfl
  | refused => rfl
  | @accepted o doc g l =>
    by_cases hp : p = x.controller.processes.length
    · -- A process that has just been started is as good as none.
      simp [thread, enterAccepted, register, acceptedProcess, hp]
    · exact thread_congr (getElem?_concat_of_ne hp) Iff.rfl
  | cancelled => rfl
  | shutdown => exact thread_congr (by simp [shutdown_controller]) Iff.rfl
  | edited => rfl
  | finished q status output => exact thread_finish x q status output p
  | @settled m q proc request doc capture progress calling more hsettles hs hopen hcalling =>
    have hqp : q ≠ p := by
      rintro rfl
      cases hsettles with
      | complete o => exact hm .complete
      | failWait e => exact hm (.failWait e)
    refine thread_congr ?_ ?_
    · rw [← withdraw_processes x.controller q doc.identity]
      exact List.getElem?_modify_ne _ _ hqp
    · obtain rfl | ⟨rfl, -⟩ := hcalling
      · simp [hqp.symm]
      · rfl
  | @concluded q hq failure =>
    have hqp : q ≠ p := by
      rintro rfl
      exact hm (.conclude failure)
    exact thread_congr (List.getElem?_modify_ne _ _ hqp) (List.mem_erase_of_ne hqp.symm)
  | delivered => rfl
  | aborted => rfl

/-! ## Moves of the thread -/

lemma thread_settle {request : Request} {identity : Text} {capture : Capture}
    {progress : Progress} {calling : List Nat} {more : List Event}
    (hp : x.controller.processes[p]? = some proc) :
    (x.settle p proc request identity capture progress calling more).thread p =
      ⟨true, capture, decide (p ∈ calling)⟩ := by
  have hsettled : ((x.controller.withdraw p identity).settle p proc.request capture
      progress).processes[p]? = some { proc with capture, settled := true } := by
    refine Linked.processes_settle.mpr ⟨proc, ?_, if_pos rfl⟩
    rwa [withdraw_processes]
  exact thread_of_some (x := x.settle p proc request identity capture progress calling more)
    hsettled

/-- A completion keeps the output of a process exactly if it has a callback to call. -/
lemma exists_settle_of_complete (h : x.Sound) {status : Int} {output : Text}
    (hp : x.controller.processes[p]? = some proc)
    (hended : proc.ended = some (status, output)) (hopen : proc.settled = false) :
    ∃ request identity progress calling more, x.step (.complete p) =
      x.settle p proc request identity (if p ∈ calling then .live [output] else .released)
        progress calling more := by
  obtain ⟨request, doc, hs⟩ := h.linked.served hp
  have hnot := h.linked.not_calling_of_unsettled hp hopen
  by_cases hc : x.controller.current? doc.identity = some p
  · have hstep := step_complete_of_current h.linked hs hended hopen hc
    cases hcb : request.callback with
    | true =>
      refine ⟨request, doc.identity, .resolved (buildOutcome proc p request doc status output),
        p :: x.calling, [], ?_⟩
      rw [hstep, if_pos hcb, if_pos hcb, if_pos List.mem_cons_self]
    | false =>
      refine ⟨request, doc.identity, .resolved (buildOutcome proc p request doc status output),
        x.calling, [], ?_⟩
      rw [hstep, hcb, if_neg hnot]
      rfl
  · have hstep := step_complete_of_displaced h.linked hs hended hopen hc
    refine ⟨request, doc.identity, .resolved (.superseded (some (pidOf p))), x.calling,
      [.logged (.discarding (pidOf p) doc.identity)], ?_⟩
    rw [hstep, if_neg hnot]

/-- Nothing has been done with the buffer of an unsettled process. -/
lemma eq_nil_of_unsettled {ops : List Capture.Op} (hstage : (x.thread p).Stage ops)
    (hp : x.controller.processes[p]? = some proc) (hopen : proc.settled = false) : ops = [] := by
  rw [thread_of_some hp] at hstage
  exact hstage.eq_nil hopen

lemma stage_complete (h : x.Sound) {ops : List Capture.Op} (hstage : (x.thread p).Stage ops) :
    ((x.step (.complete p)).thread p).Stage (ops ++ x.work p (.complete p)) := by
  cases hready : (x.controller.unsettled? p).bind (·.ended) with
  | none =>
    have hwork : x.work p (.complete p) = [] := by simp [work, hready]
    have hstep : x.step (.complete p) = x := by
      apply step_complete_of_not_ready
      intro proc status output hp hended
      by_contra hopen
      have hunsettled := unsettled?_eq_some.mpr ⟨hp, Bool.eq_false_iff.mpr hopen⟩
      have hnone : proc.ended = none := Option.bind_eq_none_iff.mp hready proc hunsettled
      exact absurd (hended.symm.trans hnone) (by simp)
    rwa [hwork, hstep, List.append_nil]
  | some ending =>
    obtain ⟨status, output⟩ := ending
    obtain ⟨proc, hunsettled, hended⟩ := Option.bind_eq_some_iff.mp hready
    obtain ⟨hp, hopen⟩ := unsettled?_eq_some.mp hunsettled
    obtain ⟨request, identity, progress, calling, more, hstep⟩ :=
      exists_settle_of_complete h hp hended hopen
    have hwork : x.work p (.complete p) =
        [.append output, .enter, .text] ++ if p ∈ calling then [] else [.leave] := by
      simp [work, hready, hstep, settle]
    rw [hwork, hstep, thread_settle hp, eq_nil_of_unsettled hstage hp hopen]
    by_cases hcalling : p ∈ calling
    · simpa [hcalling] using Thread.Stage.reading output
    · simpa [hcalling] using Thread.Stage.finished (.read output)

lemma stage_conclude (h : x.Sound) (hnodup : x.calling.Nodup) {ops : List Capture.Op}
    (hstage : (x.thread p).Stage ops) (failure : Option Text) :
    ((x.step (.conclude p failure)).thread p).Stage (ops ++ x.work p (.conclude p failure)) := by
  by_cases hcalling : p ∈ x.calling
  · obtain ⟨proc, hp, hsettled⟩ := h.linked.calling hcalling
    have hreleased : (x.step (.conclude p failure)).controller.processes[p]? =
        some { proc with capture := .released } := by
      rw [step_conclude_of_mem h.linked hcalling]
      exact Linked.processes_updateProcess.mpr ⟨proc, hp, if_pos rfl⟩
    have hgone : p ∉ (x.step (.conclude p failure)).calling := by
      rw [step_conclude_of_mem h.linked hcalling]
      exact hnodup.not_mem_erase
    have hwork : x.work p (.conclude p failure) =
        .leave :: (failure.map fun _ => .release).toList := if_pos ⟨rfl, hcalling⟩
    obtain ⟨output, rfl⟩ := hstage.exists_read (decide_eq_true hcalling)
    rw [thread_of_some hreleased, hsettled, decide_eq_false hgone, hwork]
    cases failure with
    | none => exact .finished (.read output)
    | some message => exact .finished (.failed output)
  · have hwork : x.work p (.conclude p failure) = [] := if_neg fun hboth => hcalling hboth.2
    rwa [step_conclude_of_not_mem hcalling, hwork, List.append_nil]

lemma stage_failWait (h : x.Sound) {ops : List Capture.Op} (hstage : (x.thread p).Stage ops)
    (e : SystemError) :
    ((x.step (.failWait p e)).thread p).Stage (ops ++ x.work p (.failWait p e)) := by
  cases hunsettled : x.controller.unsettled? p with
  | none =>
    have hwork : x.work p (.failWait p e) = [] := by simp [work, hunsettled]
    rwa [hwork, step_failWait_of_settled (unsettled?_eq_none.mp hunsettled), List.append_nil]
  | some proc =>
    obtain ⟨hp, hopen⟩ := unsettled?_eq_some.mp hunsettled
    obtain ⟨request, doc, hs⟩ := h.linked.served hp
    have hnot := h.linked.not_calling_of_unsettled hp hopen
    have hwork : x.work p (.failWait p e) = [.release] := by simp [work, hunsettled]
    rw [step_failWait_of_open hs hopen, thread_settle hp, hwork, decide_eq_false hnot,
      eq_nil_of_unsettled hstage hp hopen]
    exact .finished .lost

/-- Every move brings a thread from one stage to another, or leaves it at the one it is at. -/
lemma stage_step (h : x.Sound) (hnodup : x.calling.Nodup) {ops : List Capture.Op}
    (hstage : (x.thread p).Stage ops) (m : Move) :
    ((x.step m).thread p).Stage (ops ++ x.work p m) := by
  by_cases hm : m.Handles p
  · cases hm with
    | complete => exact stage_complete h hstage
    | conclude failure => exact stage_conclude h hnodup hstage failure
    | failWait e => exact stage_failWait h hstage e
  · rwa [work_of_not_handles hm, thread_step h hm, List.append_nil]

lemma stage_play (h : x.Sound) (hnodup : x.calling.Nodup) {ops : List Capture.Op}
    (hstage : (x.thread p).Stage ops) (moves : List Move) :
    ((x.play moves).thread p).Stage (ops ++ x.works p moves) := by
  induction moves generalizing x ops with
  | nil => rwa [works, List.append_nil]
  | cons m rest ih =>
    have hrest := ih (h.step m) (nodup_calling_step h hnodup m) (stage_step h hnodup hstage m)
    rwa [List.append_assoc] at hrest

/-- At every moment of every run the thread of every process is at one of the stages.  The buffer
is what the operations up to then make of a new one, and none of them is refused. -/
theorem buffer_worked (documents : List Document) (moves : List Move) (p : Nat) :
    (((Run.begin documents).play moves).thread p).Stage ((Run.begin documents).works p moves) ∧
    Capture.empty.Grants ((Run.begin documents).works p moves)
      (((Run.begin documents).play moves).thread p).buffer := by
  have hnew : ((Run.begin documents).thread p).Stage [] := .waiting
  have hstage := stage_play (Sound.begin documents) List.nodup_nil hnew moves
  exact ⟨hstage, hstage.grants⟩

end Run
end GradleLint
