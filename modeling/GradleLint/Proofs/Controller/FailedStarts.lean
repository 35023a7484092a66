import GradleLint.Proofs.Controller.Entries
import GradleLint.Proofs.Controller.Staleness

/-!
# Starts that raise a complaint

A start can end without a request: because there is no grammar for the file, because the command
is empty, or because no process can have its arguments.  The grammar is looked for before anything
is touched, but the command is looked at only after the process of before has been displaced.  So
such a start leaves everything as it was exactly when the grammar was at fault or nothing was
current for the identity (`FailedStart.atomic_iff`).  In the remaining case the process of before is
lost: it is killed, no process takes its place, and its request comes to nothing more than being
superseded, whatever follows (`FailedStart.lost`).
-/

namespace GradleLint
namespace Run

open Controller

variable {x y : Run}

/-! ## Runs that go on in the same way -/

/-- Whatever moves follow, they come to the same state and show the same. -/
def GoesOnAs (x y : Run) : Prop :=
  ∀ later, (y.play later).controller = (x.play later).controller ∧
    ∃ more, (x.play later).events = x.events ++ more ∧ (y.play later).events = y.events ++ more

/-- A move does not look at what has been shown before. -/
lemma step_of_same (hc : y.controller = x.controller) (hcalling : y.calling = x.calling)
    (m : Move) :
    (y.step m).controller = (x.step m).controller ∧ (y.step m).calling = (x.step m).calling ∧
      ∃ more, (x.step m).events = x.events ++ more ∧ (y.step m).events = y.events ++ more := by
  obtain ⟨c, calling, events⟩ := x
  obtain ⟨_, _, events'⟩ := y
  dsimp only at hc hcalling
  subst hc hcalling
  have hself : ∀ events : List Event, events = events ++ [] := fun _ => (List.append_nil _).symm
  cases m with
  | start o =>
    dsimp only [step]
    split
    · exact ⟨rfl, rfl, [], hself _, hself _⟩
    · exact ⟨rfl, rfl, _, rfl, rfl⟩
  | cancel d =>
    dsimp only [step]
    split
    · exact ⟨rfl, rfl, [], hself _, hself _⟩
    · exact ⟨rfl, rfl, _, rfl, rfl⟩
  | complete p =>
    dsimp only [step]
    split <;> exact ⟨rfl, rfl, _, rfl, rfl⟩
  | conclude p failure =>
    dsimp only [step]
    split
    · exact ⟨rfl, rfl, _, rfl, rfl⟩
    · exact ⟨rfl, rfl, [], hself _, hself _⟩
  | _ => exact ⟨rfl, rfl, _, rfl, rfl⟩

lemma goesOnAs_of_same (hc : y.controller = x.controller) (hcalling : y.calling = x.calling) :
    x.GoesOnAs y := by
  intro later
  induction later generalizing x y with
  | nil => exact ⟨hc, [], (List.append_nil _).symm, (List.append_nil _).symm⟩
  | cons m rest ih =>
    obtain ⟨hstep, hstill, first, hx, hy⟩ := step_of_same hc hcalling m
    obtain ⟨hplay, more, hx', hy'⟩ := ih hstep hstill
    refine ⟨hplay, first ++ more, ?_, ?_⟩
    · rw [play_cons, hx', hx, List.append_assoc]
    · rw [play_cons, hy', hy, List.append_assoc]

/-! ## What a raising start does -/

lemma deregister_eq_self {s : Controller} {identity : Text} (h : s.current? identity = none) :
    s.deregister identity = s := by
  rw [← displace_controller]
  simp [displace, h]

/-- A displaced process is killed unless it has ended. -/
lemma killed_mem_iff (p : Nat) (proc : Process) (identity : Text) (l : Option Launch) :
    .killed (pidOf p) ∈ displaceEvents p proc identity ++ (l.map Event.launched).toList ↔
      proc.ended = none := by
  have hlaunched : .killed (pidOf p) ∉ (l.map Event.launched).toList := by
    cases l <;> simp
  rw [List.mem_append, or_iff_left hlaunched]
  cases hended : proc.ended <;> simp [displaceEvents, killProcess, hended]

/-- A start that raises a complaint does nothing without a grammar, and otherwise displaces. -/
lemma step_of_raising {o : Order} {doc : Document} {e : StartError}
    (hd : x.controller.documents[o.document]? = some doc)
    (hraise : (x.controller.start o doc).2.2 = .error e) :
    ((∃ u, Grammar.choose o.grammar doc.path = .error u) ∧ x.step (.start o) = x) ∨
    ((∃ g, Grammar.choose o.grammar doc.path = .ok g) ∧ ∃ l : Option Launch,
      x.step (.start o) = x.advance (x.controller.deregister doc.identity)
        ((x.controller.displace doc.identity).2.1 ++ (l.map Event.launched).toList)) := by
  have hstarted := x.controller.started o doc
  have hstep := step_start hd
  generalize x.controller.start o doc = result at hstarted hstep hraise
  cases hstarted with
  | unsupported hg => exact .inl ⟨⟨_, hg⟩, by rw [hstep, advance_self]⟩
  | raised hg l => exact .inr ⟨⟨_, hg⟩, l, hstep⟩
  | refused => exact absurd hraise (by simp)
  | accepted => exact absurd hraise (by simp)

/-- What a start for a document that raises a complaint does to a run. -/
structure FailedStart (x : Run) (o : Order) (doc : Document) (y : Run) : Prop where
  /-- There is no new process or request, and those of before are as they were. -/
  nothing_made : y.controller.processes = x.controller.processes ∧
    y.controller.requests = x.controller.requests ∧
    y.controller.documents = x.controller.documents ∧
    y.controller.undelivered = x.controller.undelivered ∧ y.calling = x.calling
  /-- The other identities keep what is current for them. -/
  others : ∀ identity, identity ≠ doc.identity →
    y.controller.current? identity = x.controller.current? identity
  /-- The state is as it was exactly in these cases. -/
  atomic_iff : y.controller = x.controller ↔
    (∃ u, Grammar.choose o.grammar doc.path = .error u) ∨
      x.controller.current? doc.identity = none
  /-- Where the state is as it was, nothing is killed or settled, and the run goes on as if there
  had been no start. -/
  harmless : y.controller = x.controller → x.GoesOnAs y ∧
    ∃ l : Option Launch, y.events = x.events ++ (l.map Event.launched).toList
  /-- Otherwise the current process leaves the registry, is killed unless it has ended, and its
  request can only be superseded from then on; its callback is never called. -/
  lost : y.controller ≠ x.controller → ∃ p proc request owner,
    x.controller.current? doc.identity = some p ∧ x.controller.Serves p proc request owner ∧
    y.controller.current? doc.identity = none ∧
    (∃ more, y.events = x.events ++ more ∧ (.killed (pidOf p) ∈ more ↔ proc.ended = none)) ∧
    ∀ later, ((y.play later).Ready p →
        (y.play later).Resolves p proc.request (.superseded (some (pidOf p)))) ∧
      ∀ outcome, .delivered proc.request outcome ∉ (y.play later).events

/-! ## Requests that are displaced -/

/-- Once a move has displaced an identity, the end of a process of before makes its request
superseded. -/
lemma resolves_superseded (h : x.Sound) {p : Nat} {proc : Process} {request : Request}
    {doc : Document} (hs : x.controller.Serves p proc request doc) {m : Move}
    (hd : m.Displaces x.controller.documents request.identity) {later : List Move}
    (hready : ((x.step m).play later).Ready p) :
    ((x.step m).play later).Resolves p proc.request (.superseded (some (pidOf p))) := by
  have hold := (List.getElem?_eq_some_iff.mp hs.has_process).1
  have hgone := not_current_after_displacement h hd hold later
  obtain ⟨proc', progress, doc', hs', hreq⟩ := serves_play h hs (m :: later)
  rw [play_cons] at hs'
  obtain ⟨proc'', status, output, hproc, hended, hopen⟩ := hready
  obtain rfl := hs'.process_eq hproc
  have hcur : ((x.step m).play later).controller.isCurrent p = false := by
    rw [isCurrent_of_serves hs', hs'.identity, beq_eq_false_iff_ne]
    exact hgone
  have hresolves := resolves_outcomeOf ((h.step m).after later) hs' hended hopen
  rw [hcur, hreq] at hresolves
  exact hresolves

/-- The callback of a pending request is not called once a move has displaced its identity. -/
lemma not_delivered_after_displacement (h : x.Sound) {p : Nat} {proc : Process}
    {request : Request} {doc : Document} (hs : x.controller.Serves p proc request doc)
    (hpending : request.progress = .pending) {m : Move}
    (hd : m.Displaces x.controller.documents request.identity)
    (hstill : (x.step m).controller.requests = x.controller.requests) (later : List Move)
    (outcome : Outcome) :
    .delivered proc.request outcome ∉ ((x.step m).play later).events := by
  intro hmem
  obtain ⟨more, hmore, hmay⟩ := exists_mayCall (h.step m) later
  rw [hmore] at hmem
  obtain hmem | hmem := List.mem_append.mp hmem
  · exact not_delivered_of_pending (h.step m) (hstill ▸ hs.has_request) hpending outcome hmem
  · obtain ⟨pre, m', post, -, hcall⟩ := hmay _ _ hmem
    exact not_mayCall_after_displacement h hs hd pre m' hcall

/-! ## The result -/

/-- A start that raises a complaint is atomic exactly when there is no grammar for the file or
nothing was current for the identity; otherwise the run of before is lost. -/
theorem failed_start (documents : List Document) (moves : List Move) {o : Order} {doc : Document}
    {e : StartError}
    (hd : ((Run.begin documents).play moves).controller.documents[o.document]? = some doc)
    (hraise : (((Run.begin documents).play moves).controller.start o doc).2.2 = .error e) :
    FailedStart ((Run.begin documents).play moves) o doc
      ((Run.begin documents).play (moves ++ [.start o])) := by
  have hsound := Sound.play documents moves
  rw [play_append, play_cons, play_nil]
  generalize (Run.begin documents).play moves = x at hd hraise hsound ⊢
  obtain ⟨hnone, hstep⟩ | ⟨⟨g, hg⟩, l, hstep⟩ := step_of_raising hd hraise
  · rw [hstep]
    exact {
      nothing_made := ⟨rfl, rfl, rfl, rfl, rfl⟩
      others := fun _ _ => rfl
      atomic_iff := iff_of_true rfl (.inl hnone)
      harmless := fun _ => ⟨goesOnAs_of_same rfl rfl, none, by simp⟩
      lost := fun hne => absurd rfl hne }
  · have hsome : ¬ ∃ u, Grammar.choose o.grammar doc.path = .error u := by simp [hg]
    cases hcur : x.controller.current? doc.identity with
    | none =>
      have hsame : (x.step (.start o)).controller = x.controller := by
        rw [hstep, advance_controller, deregister_eq_self hcur]
      exact {
        nothing_made := by
          rw [hstep]
          exact ⟨rfl, rfl, rfl, rfl, rfl⟩
        others := fun _ _ => by rw [hsame]
        atomic_iff := iff_of_true hsame (.inr hcur)
        harmless := fun _ => ⟨goesOnAs_of_same hsame (by rw [hstep, advance_calling]), l, by
          simp [hstep, displace_events_of_none hcur]⟩
        lost := fun hne => absurd hsame hne }
    | some p =>
      obtain ⟨proc, request, owner, hs, hopen, hid⟩ := hsound.linked.current hcur
      have hgone : (x.step (.start o)).controller.current? doc.identity = none := by
        simp [hstep]
      have hne : (x.step (.start o)).controller ≠ x.controller := by
        intro heq
        rw [heq, hcur] at hgone
        exact absurd hgone (by simp)
      have hrid : request.identity = doc.identity := hs.identity.symm.trans hid
      have hdisplaces : (Move.start o).Displaces x.controller.documents request.identity :=
        ⟨doc, hd, hrid.symm, g, hg⟩
      exact {
        nothing_made := by
          rw [hstep]
          exact ⟨rfl, rfl, rfl, rfl, rfl⟩
        others := fun identity hother => by simp [hstep, hother]
        atomic_iff := iff_of_false hne (by simp [hsome, hcur])
        harmless := fun hsame => absurd hsame hne
        lost := fun _ => by
          refine ⟨p, proc, request, owner, hcur, hs, hgone, ?_, fun later => ⟨?_, ?_⟩⟩
          · refine ⟨_, by rw [hstep, advance_events], ?_⟩
            rw [displace_events_of_current hcur hs.has_process]
            exact killed_mem_iff p proc doc.identity l
          · exact resolves_superseded hsound hs hdisplaces
          · exact not_delivered_after_displacement hsound hs (hs.unsettled_iff.mp hopen) hdisplaces
              (by simp [hstep]) later }

/-- An order with an empty command. -/
def emptyOrder : Order := { plainOrder with command := [], launch := .error .empty }

/-- The run of before does not survive a start with an empty command: the start raises a complaint,
the state is not as it was, the process is killed, and although it then ends well, its request is
superseded. -/
theorem lost_by_empty_command :
    (((Run.begin [plainDocument]).play [.start plainOrder]).controller.start emptyOrder
      plainDocument).2.2 = .error .emptyCommand ∧
    ((Run.begin [plainDocument]).play [.start plainOrder, .start emptyOrder]).controller ≠
      ((Run.begin [plainDocument]).play [.start plainOrder]).controller ∧
    .killed 1001 ∈
      ((Run.begin [plainDocument]).play [.start plainOrder, .start emptyOrder]).events ∧
    ((Run.begin [plainDocument]).play
      [.start plainOrder, .finish 0 0 [], .complete 0]).controller.progress? 0 =
        some (.resolved .noIssues) ∧
    ((Run.begin [plainDocument]).play
      [.start plainOrder, .start emptyOrder, .finish 0 0 [], .complete 0]).controller.progress? 0 =
        some (.resolved (.superseded (some 1001))) :=
  ⟨rfl, by decide, by decide, rfl, rfl⟩

/-- Nobody is ever called back for the request that was lost. -/
theorem failed_start_of_empty_command :
    ((Run.begin [plainDocument]).play [.start plainOrder]).controller.documents[0]? =
      some plainDocument ∧
    (((Run.begin [plainDocument]).play [.start plainOrder]).controller.start emptyOrder
      plainDocument).2.2 = .error .emptyCommand ∧
    ∀ later outcome, .delivered 0 outcome ∉
      (((Run.begin [plainDocument]).play [.start plainOrder, .start emptyOrder]).play
        later).events := by
  have hfailed := @failed_start [plainDocument] [.start plainOrder] emptyOrder plainDocument
    .emptyCommand rfl rfl
  refine ⟨rfl, rfl, fun later outcome => ?_⟩
  obtain ⟨p, proc, request, owner, hcur, hs, -, -, hlater⟩ := hfailed.lost (by decide)
  obtain rfl : 0 = p := Option.some.inj hcur
  obtain rfl := hs.process_eq rfl
  exact (hlater later).2 outcome

end Run
end GradleLint
