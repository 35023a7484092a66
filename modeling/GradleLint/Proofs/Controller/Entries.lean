import GradleLint.Proofs.Controller.Supersession

/-!
# What the registry says at any moment

An entry of the registry says a lot about the past: the process belongs to the last start of its
identity that found a grammar, nothing has displaced it, its request is pending, nobody has been
called back, its output is still there, and nobody has tried to kill it (`Entry`).  A process
without entry has been completed, or waiting for it has failed, or it was displaced and its end
is still to be dealt with (`Fate`).  Both hold at every moment of every run.

The end of a completed process is not dealt with completely as long as its callback runs; until
then its output is kept.
-/

namespace GradleLint
namespace Run

open Controller

/-- What the entry of an identity says, after some moves on a new controller.  The start that
made the process is `o`; the moves before and after it are given too. -/
structure Entry (documents : List Document) (moves : List Move) (identity : Text) (p : Nat)
    (proc : Process) (request : Request) (doc : Document) (before : List Move) (o : Order)
    (between : List Move) : Prop where
  serves : ((Run.begin documents).play moves).controller.Serves p proc request doc
  document_identity : doc.identity = identity
  request_identity : request.identity = identity
  history : moves = before ++ .start o :: between
  start : ((Run.begin documents).play before).Makes (.start o) proc.request request
  document : o.document = proc.document
  undisturbed : ¬ DisplacedIn (documentsAfter documents before) identity between
  pending : request.progress = .pending
  uncalled : ∀ outcome,
    .delivered proc.request outcome ∉ ((Run.begin documents).play moves).events
  unreleased : proc.capture.isReleased = false
  unstruck : ∀ e ∈ ((Run.begin documents).play moves).events, e.strikes p = false

/-- What has become of a process that is not registered. -/
inductive Fate (documents : List Document) (moves : List Move) (p : Nat) (proc : Process) :
    Prop where
  /-- Its end was dealt with. -/
  | completed {outcome : Outcome} (hm : .complete p ∈ moves)
    (hr : ((Run.begin documents).play moves).controller.progress? proc.request =
      some (.resolved outcome))
    (hreleased : p ∉ ((Run.begin documents).play moves).calling → proc.capture = .released)
  /-- Waiting for it failed. -/
  | lost {e : SystemError} (hm : .failWait p e ∈ moves)
    (hr : ((Run.begin documents).play moves).controller.progress? proc.request =
      some (.failed e))
    (hreleased : p ∉ ((Run.begin documents).play moves).calling → proc.capture = .released)
  /-- It was displaced, and its end is still to be dealt with. -/
  | displaced {before between : List Move} {o : Order} {request : Request}
    (hmoves : moves = before ++ .start o :: between)
    (hstart : ((Run.begin documents).play before).Makes (.start o) proc.request request)
    (hp : request.process = some p)
    (hdisplaced : DisplacedIn (documentsAfter documents before) request.identity between)
    (hopen : proc.settled = false)
    (hr : ((Run.begin documents).play moves).controller.progress? proc.request = some .pending)

/-- Nobody is called back for a pending request. -/
lemma not_delivered_of_pending {x : Run} (h : x.Sound) {r : Nat} {request : Request}
    (hr : x.controller.requests[r]? = some request) (hpending : request.progress = .pending)
    (outcome : Outcome) : .delivered r outcome ∉ x.events := by
  intro hmem
  have hcalls : x.events.filter (·.calls r) = [] := by
    rw [h.recorded.calls r, callsMade, hr]
    simp [Request.called?, hpending]
  have hnone := List.filter_eq_nil_iff.mp hcalls _ hmem
  simp [Event.calls] at hnone

/-- The start of an unsettled process made its request as it still is. -/
lemma exists_start_of_unsettled (documents : List Document) (moves : List Move) {p : Nat}
    {proc : Process} {request : Request} {doc : Document}
    (hs : ((Run.begin documents).play moves).controller.Serves p proc request doc)
    (hopen : proc.settled = false) :
    ∃ before o between, moves = before ++ .start o :: between ∧
      ((Run.begin documents).play before).Makes (.start o) proc.request request ∧
      o.document = proc.document ∧
      (((Run.begin documents).play moves).controller.current? request.identity = some p ↔
        ¬ DisplacedIn (documentsAfter documents before) request.identity between) := by
  obtain ⟨before, o, between, made, rfl, hmakes, hback, hdoc⟩ :=
    exists_start documents moves hs.has_process
  have hsound := Sound.play documents before
  rw [play_append, play_cons] at hs ⊢
  obtain ⟨proc', progress, doc', hs', -⟩ := serves_of_makes hsound hmakes hback between
  obtain ⟨rfl, hrequest, -⟩ := hs.unique hs'
  have hsame : request = made := by
    obtain ⟨d, g, l, -, -, -, rfl, -⟩ := accepted_of_makes hmakes hback
    have hpending : progress = .pending := by
      simpa [hrequest] using hs.unsettled_iff.mp hopen
    rw [hrequest, hpending]
    rfl
  have hcur := current?_since_start hsound hmakes hback between (fun proc' hp => by
    rwa [← hs.process_eq hp])
  rw [documents_of_begin, ← hsame] at hcur
  exact ⟨before, o, between, rfl, hsame ▸ hmakes, hdoc, hcur⟩

lemma entry_of_current (documents : List Document) (moves : List Move) {identity : Text}
    {p : Nat}
    (hc : ((Run.begin documents).play moves).controller.current? identity = some p) :
    ∃ proc request doc before o between,
      Entry documents moves identity p proc request doc before o between := by
  have hsound := Sound.play documents moves
  obtain ⟨proc, request, doc, hs, hopen, hid⟩ := hsound.linked.current hc
  obtain ⟨before, o, between, hmoves, hmakes, hdoc, hcur⟩ :=
    exists_start_of_unsettled documents moves hs hopen
  have hrid : request.identity = identity := hs.identity.symm.trans hid
  have hpending : request.progress = .pending := hs.unsettled_iff.mp hopen
  exact ⟨proc, request, doc, before, o, between,
    { serves := hs
      document_identity := hid
      request_identity := hrid
      history := hmoves
      start := hmakes
      document := hdoc
      undisturbed := by
        rw [hrid] at hcur
        exact hcur.mp hc
      pending := hpending
      uncalled := not_delivered_of_pending hsound hs.has_request hpending
      unreleased := by
        rw [hsound.linked.fresh hs.has_process hopen]
        rfl
      unstruck := hsound.recorded.unstruck hc }⟩

lemma fate_of_not_current (documents : List Document) (moves : List Move) {p : Nat}
    {proc : Process}
    (hp : ((Run.begin documents).play moves).controller.processes[p]? = some proc)
    (hgone : ∀ identity,
      ((Run.begin documents).play moves).controller.current? identity ≠ some p) :
    Fate documents moves p proc := by
  have hsound := Sound.play documents moves
  by_cases hsettled : proc.settled = true
  · obtain ⟨m, hm, progress, hsettles, hr⟩ := exists_settling documents moves hp hsettled
    have hreleased := hsound.linked.released hp hsettled
    cases hsettles with
    | complete outcome => exact .completed hm hr hreleased
    | failWait e => exact .lost hm hr hreleased
  · have hopen : proc.settled = false := Bool.eq_false_iff.mpr hsettled
    obtain ⟨request, doc, hs⟩ := hsound.linked.served hp
    obtain ⟨before, o, between, hmoves, hmakes, -, hcur⟩ :=
      exists_start_of_unsettled documents moves hs hopen
    have hdisplaced : DisplacedIn (documentsAfter documents before) request.identity between := by
      by_contra hnot
      exact hgone request.identity (hcur.mpr hnot)
    have hpending : request.progress = .pending := hs.unsettled_iff.mp hopen
    refine .displaced hmoves hmakes hs.back hdisplaced hopen ?_
    rw [progress?, hs.has_request, Option.map_some, hpending]

/-- At every moment of every run no identity has two entries, every entry is for the
undisturbed process of the last start, and every process without entry has been dealt with or
was displaced. -/
theorem registry_entries (documents : List Document) (moves : List Move) :
    (((Run.begin documents).play moves).controller.registry.map (·.1)).Nodup ∧
    (∀ identity p, (identity, p) ∈ ((Run.begin documents).play moves).controller.registry →
      ∃ proc request doc before o between,
        Entry documents moves identity p proc request doc before o between) ∧
    (∀ p proc, ((Run.begin documents).play moves).controller.processes[p]? = some proc →
      (∀ identity, (identity, p) ∉ ((Run.begin documents).play moves).controller.registry) →
      Fate documents moves p proc) := by
  have hkeys := (Sound.play documents moves).linked.keys
  refine ⟨hkeys, ?_, ?_⟩
  · intro identity p hmem
    rw [hkeys.mem_registry_iff] at hmem
    exact entry_of_current documents moves hmem
  · intro p proc hp hgone
    refine fate_of_not_current documents moves hp fun identity hc => ?_
    exact hgone identity ((hkeys.mem_registry_iff identity p).mpr hc)

end Run
end GradleLint
