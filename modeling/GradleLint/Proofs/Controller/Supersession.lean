import GradleLint.Proofs.Controller.Origin

/-!
# When a run is superseded

The verdict on a process whose end is dealt with rests on one look-up in the registry, which
starts, cancellations, shutdowns and the callbacks of other processes have been changing since.
It comes to this: the request is superseded exactly when some move since its start has displaced
its identity (`Awaits.verdict`).

That the answers of the outside have no part in the verdict is stated with `Move.blur`, which
forgets them: two runs that are the same but for these answers come to the same verdict.
-/

namespace GradleLint

/-! ## What the outside answers -/

/-- A move without the answers of the outside: whether a process can be started and killed, how
it ends, what it prints, and how a callback fails. -/
def Move.blur : Move → Move
  | .start o => .start { o with launch := .error .empty, refusal := none, kill := .delivered }
  | .finish p _ _ => .finish p 0 []
  | .conclude p _ => .conclude p none
  | .raise _ => .raise []
  | m => m

lemma Move.edit_blur (documents : List Document) (m : Move) :
    m.blur.edit documents = m.edit documents := by
  cases m <;> rfl

lemma Move.displaces_blur (documents : List Document) (identity : Text) (m : Move) :
    m.blur.Displaces documents identity ↔ m.Displaces documents identity := by
  cases m <;> rfl

lemma documentsAfter_map_blur (documents : List Document) (moves : List Move) :
    documentsAfter documents (moves.map Move.blur) = documentsAfter documents moves := by
  induction moves generalizing documents with
  | nil => rfl
  | cons m rest ih =>
    show documentsAfter (m.blur.edit documents) (rest.map Move.blur) =
      documentsAfter (m.edit documents) rest
    rw [ih, Move.edit_blur]

lemma displacedIn_map_blur (documents : List Document) (identity : Text) (moves : List Move) :
    DisplacedIn documents identity (moves.map Move.blur) ↔
      DisplacedIn documents identity moves := by
  induction moves generalizing documents with
  | nil => rfl
  | cons m rest ih =>
    rw [List.map_cons, displacedIn_cons, displacedIn_cons, ih, Move.edit_blur,
      Move.displaces_blur]

/-! ## Processes whose end is there to be dealt with -/

namespace Run

open Controller

/-- A process has ended, and its end has not been dealt with. -/
def Ready (x : Run) (p : Nat) : Prop :=
  ∃ proc status output, x.controller.processes[p]? = some proc ∧
    proc.ended = some (status, output) ∧ proc.settled = false

/-- Dealing with the end of a process gives an outcome to a request. -/
def Resolves (x : Run) (p r : Nat) (outcome : Outcome) : Prop :=
  (x.step (.complete p)).controller.progress? r = some (.resolved outcome)

/-- After some moves on a new controller, a start makes a request with a process, and after some
moves more the end of that process is there to be dealt with. -/
structure Awaits (documents : List Document) (before : List Move) (o : Order)
    (between : List Move) (r p : Nat) (request : Request) : Prop where
  makes : ((Run.begin documents).play before).Makes (.start o) r request
  spawned : request.process = some p
  ready : ((Run.begin documents).play (before ++ .start o :: between)).Ready p

variable {x : Run}

/-- What a process serves stays the same but for its progress. -/
lemma serves_play (h : x.Sound) {p : Nat} {proc : Process} {request : Request} {doc : Document}
    (hs : x.controller.Serves p proc request doc) (moves : List Move) :
    ∃ proc' progress doc',
      (x.play moves).controller.Serves p proc' { request with progress } doc' ∧
      proc'.request = proc.request := by
  have hextends := extends_play h moves
  obtain ⟨capture, ended, settled, hproc, -⟩ := hextends.process hs.has_process
  obtain ⟨progress, hrequest, -⟩ := hextends.request hs.has_request
  obtain ⟨request', doc', hs'⟩ := (h.after moves).linked.served hproc
  obtain rfl := hs'.request_eq hrequest
  exact ⟨_, progress, doc', hs', rfl⟩

/-- A request that was made with a process keeps what it was made of, and the process serves it. -/
lemma serves_of_makes (h : x.Sound) {m : Move} {r p : Nat} {request : Request}
    (hm : x.Makes m r request) (hp : request.process = some p) (between : List Move) :
    ∃ proc progress doc, ((x.step m).play between).controller.Serves p proc
      { request with progress } doc ∧ proc.request = r := by
  have hnext := h.step m
  have hmade : (x.step m).controller.requests[r]? = some request := by
    rw [hm.2, hm.1]
    simp
  obtain ⟨proc, hproc, rfl⟩ := hnext.linked.owned hmade hp
  obtain ⟨request', doc, hs⟩ := hnext.linked.served hproc
  obtain rfl := hs.request_eq hmade
  exact serves_play hnext hs between

/-- A completion resolves the request of its process to the outcome of the process. -/
lemma resolves_outcomeOf (h : x.Sound) {p : Nat} {proc : Process} {request : Request}
    {doc : Document} {status : Int} {output : Text}
    (hs : x.controller.Serves p proc request doc) (hended : proc.ended = some (status, output))
    (hopen : proc.settled = false) :
    x.Resolves p proc.request
      (outcomeOf proc (pidOf p) request doc status output (x.controller.isCurrent p)) := by
  have hfresh := h.linked.fresh hs.has_process hopen
  by_cases hc : x.controller.current? doc.identity = some p
  · have hcur : x.controller.isCurrent p = true := by simp [isCurrent_of_serves hs, hc]
    rw [Resolves, step_complete (complete_of_current hs hended hopen hfresh hc), hcur]
    exact Linked.progress?_settle (s := x.controller.deregister doc.identity) hs.has_request _ _
  · have hcur : x.controller.isCurrent p = false := by simp [isCurrent_of_serves hs, hc]
    rw [Resolves, step_complete (complete_of_displaced hs hended hopen hfresh hc), hcur]
    exact Linked.progress?_settle hs.has_request _ _

/-- Only a process that is not current has a superseded outcome, and then always. -/
lemma outcomeOf_kind (proc : Process) (p : Nat) (request : Request) (doc : Document)
    (status : Int) (output : Text) (current : Bool) :
    (outcomeOf proc (pidOf p) request doc status output current).kind = .superseded ↔
      current = false := by
  cases current with
  | true =>
    have hkind := buildOutcome_kind proc p request doc status output
    exact iff_of_false hkind (by simp)
  | false => simp [outcomeOf, classify, Outcome.anchor, Outcome.kind]

lemma documents_of_begin (documents : List Document) (moves : List Move) :
    ((Run.begin documents).play moves).controller.documents = documentsAfter documents moves :=
  documents_play (Sound.begin documents) moves

/-- The request of a start is for the identity of the document of the start. -/
lemma Awaits.identity {documents : List Document} {before between : List Move} {o : Order}
    {r p : Nat} {request : Request} (h : Awaits documents before o between r p request) :
    ((documentsAfter documents before)[o.document]?).map (·.identity) =
      some request.identity := by
  obtain ⟨doc, g, l, hd, -, -, rfl, -⟩ := accepted_of_makes h.makes h.spawned
  rw [← documents_of_begin, hd]
  rfl

/-- The verdict on a process in terms of the moves since its start. -/
lemma Awaits.verdict {documents : List Document} {before between : List Move} {o : Order}
    {r p : Nat} {request : Request} (h : Awaits documents before o between r p request) :
    ∃ outcome,
      ((Run.begin documents).play (before ++ .start o :: between)).Resolves p r outcome ∧
      (outcome.kind = .superseded ↔
        DisplacedIn (documentsAfter documents before) request.identity between) ∧
      (outcome.kind = .superseded → outcome = .superseded (some (pidOf p))) := by
  have hsound := Sound.play documents before
  have hlast := Sound.play documents (before ++ .start o :: between)
  obtain ⟨proc, status, output, hp, hended, hopen⟩ := h.ready
  rw [play_append, play_cons] at hp hlast ⊢
  obtain ⟨proc', progress, doc, hs, rfl⟩ := serves_of_makes hsound h.makes h.spawned between
  obtain rfl := hs.process_eq hp
  have hcur := current?_since_start hsound h.makes h.spawned between (fun proc hp' => by
    rwa [← hs.process_eq hp'])
  rw [documents_of_begin] at hcur
  refine ⟨_, resolves_outcomeOf hlast hs hended hopen, ?_, ?_⟩
  · have hid : doc.identity = request.identity := hs.identity
    rw [outcomeOf_kind, isCurrent_of_serves hs, hid, beq_eq_false_iff_ne, ne_eq, hcur, not_not]
  · intro hkind
    rw [outcomeOf_kind] at hkind
    rw [hkind]
    rfl

/-- When the end of a process is dealt with, its request is superseded exactly when, since its
start, a start for the same identity found a grammar, or the identity was cancelled, or the
controller shut down.  The answers of the outside have no part in it. -/
theorem superseded_iff_displaced {documents : List Document} {before between : List Move}
    {o : Order} {r p : Nat} {request : Request}
    (h : Awaits documents before o between r p request) :
    ∃ outcome,
      ((Run.begin documents).play (before ++ .start o :: between)).Resolves p r outcome ∧
      (outcome = .superseded (some (pidOf p)) ↔
        DisplacedIn (documentsAfter documents before) request.identity between) ∧
      (outcome.kind = .superseded ↔
        DisplacedIn (documentsAfter documents before) request.identity between) ∧
      ∀ {before' between' : List Move} {o' : Order} {r' p' : Nat} {request' : Request}
        {outcome' : Outcome}, Awaits documents before' o' between' r' p' request' →
        before'.map Move.blur = before.map Move.blur →
        (Move.start o').blur = (Move.start o).blur →
        between'.map Move.blur = between.map Move.blur →
        ((Run.begin documents).play (before' ++ .start o' :: between')).Resolves p' r' outcome' →
        (outcome'.kind = .superseded ↔ outcome.kind = .superseded) := by
  obtain ⟨outcome, hresolves, hkind, hpid⟩ := h.verdict
  refine ⟨outcome, hresolves, ?_, hkind, ?_⟩
  · rw [← hkind]
    constructor
    · rintro rfl
      rfl
    · exact hpid
  · intro before' between' o' r' p' request' outcome' h' hbefore hstart hbetween hresolves'
    obtain ⟨again, hagain, hkind', -⟩ := h'.verdict
    have hsame : outcome' = again :=
      Progress.resolved.inj (Option.some.inj (hresolves'.symm.trans hagain))
    have hdocuments : documentsAfter documents before' = documentsAfter documents before := by
      rw [← documentsAfter_map_blur, hbefore, documentsAfter_map_blur]
    have hdocument : o'.document = o.document := by
      simp only [Move.blur, Move.start.injEq, Order.mk.injEq] at hstart
      exact hstart.1
    have hid : request'.identity = request.identity := by
      have hid' := h'.identity
      rw [hdocuments, hdocument, h.identity] at hid'
      exact (Option.some.inj hid').symm
    rw [hsame, hkind', hkind, hdocuments, hid, ← displacedIn_map_blur, hbetween,
      displacedIn_map_blur]

/-- A document and an order to lint it, for runs that are written out. -/
def plainDocument : Document :=
  { path := .ofText "A.kt", content := [], identity := "A", version := 0 }

def plainOrder : Order :=
  { document := 0, command := ["gradle"], launch := .ok ⟨["/bin/gradle"], "/", none⟩,
    refusal := none, kill := .delivered, grammar := some .kotlin, callback := true }

/-- A second start displaces the first process, although the kill fails and the process ends
well. -/
theorem superseded_of_second_start :
    Awaits [plainDocument] [] { plainOrder with kill := .refused (.missing []) }
      [.start plainOrder, .finish 0 0 []] 0 0
      { identity := "A", grammar := .kotlin, process := some 0, callback := true } ∧
    ((Run.begin [plainDocument]).play
      [.start { plainOrder with kill := .refused (.missing []) }, .start plainOrder,
        .finish 0 0 []]).Resolves 0 0 (.superseded (some 1001)) := by
  have h : Awaits [plainDocument] [] { plainOrder with kill := .refused (.missing []) }
      [.start plainOrder, .finish 0 0 []] 0 0
      { identity := "A", grammar := .kotlin, process := some 0, callback := true } :=
    ⟨⟨rfl, rfl⟩, rfl, _, _, _, rfl, rfl, rfl⟩
  have hdisplaced : DisplacedIn (documentsAfter [plainDocument] []) "A"
      [.start plainOrder, .finish 0 0 []] :=
    ⟨[], .start plainOrder, [.finish 0 0 []], rfl, plainDocument, rfl, rfl, .kotlin, rfl⟩
  obtain ⟨outcome, hresolves, hpid, -⟩ := superseded_iff_displaced h
  exact ⟨h, hpid.mpr hdisplaced ▸ hresolves⟩

end Run
end GradleLint
