import GradleLint.Proofs.Controller.Kills

/-!
# What comes of a kill makes no difference

A kill may be delivered, may find the process group gone, or may be refused.  `Run.assured` forgets
which: it takes every kill for a delivered one and leaves out the log entries of those that were
refused.  Forgetting commutes with every move (`assured_step`), so two runs whose moves differ in
what comes of the kills agree in everything that can be told after forgetting: registry, requests
with their outcomes, documents, callbacks that are due or running, and all other events.
-/

namespace GradleLint

/-- A process whose kill goes well. -/
def Process.assured (proc : Process) : Process := { proc with kill := .delivered }

/-- An order for a process whose kill goes well. -/
def Order.assured (o : Order) : Order := { o with kill := .delivered }

/-- A move that starts no process but one whose kill goes well. -/
def Move.assured : Move → Move
  | .start o => .start o.assured
  | m => m

/-- Whether an event is the log entry of a kill that was refused. -/
def Event.isKillFailure : Event → Bool
  | .logged (.killFailed _ _) => true
  | _ => false

/-- Some events without the log entries of kills that were refused. -/
def withoutKillFailures (events : List Event) : List Event := events.filter (!·.isKillFailure)

@[simp] lemma withoutKillFailures_append (first second : List Event) :
    withoutKillFailures (first ++ second) =
      withoutKillFailures first ++ withoutKillFailures second :=
  List.filter_append first second

namespace Controller

/-- A controller all of whose processes are killed without trouble. -/
def assured (s : Controller) : Controller :=
  { s with processes := s.processes.map Process.assured }

variable {s : Controller}

/-! ## Changes of the state -/

lemma assured_getElem? (s : Controller) (p : Nat) :
    s.assured.processes[p]? = (s.processes[p]?).map Process.assured :=
  List.getElem?_map

lemma assured_deregister (s : Controller) (identity : Text) :
    (s.deregister identity).assured = s.assured.deregister identity := rfl

lemma assured_updateProcess (s : Controller) (p : Nat) {f : Process → Process}
    (hf : ∀ proc, (f proc).assured = f proc.assured) :
    (s.updateProcess p f).assured = s.assured.updateProcess p f := by
  simp only [assured, updateProcess, map_modify hf]

lemma assured_isCurrent (s : Controller) (p : Nat) : s.assured.isCurrent p = s.isCurrent p := by
  unfold isCurrent
  rw [assured_getElem?]
  cases s.processes[p]? <;> rfl

lemma assured_release (s : Controller) (p : Nat) :
    (s.release p).assured = s.assured.release p :=
  assured_updateProcess s p fun _ => rfl

lemma assured_finish (s : Controller) (p : Nat) (status : Int) (output : Text) :
    (s.finish p status output).assured = s.assured.finish p status output :=
  assured_updateProcess s p fun _ => rfl

lemma assured_abandon (s : Controller) (p : Nat) :
    (s.abandon p).assured = s.assured.abandon p := by
  unfold abandon
  rw [assured_isCurrent, assured_getElem?]
  split
  · cases hp : s.processes[p]? with
    | none => rfl
    | some proc =>
      have hdocument : s.assured.documents[proc.assured.document]? =
          s.documents[proc.document]? := rfl
      simp only [Option.map_some, hdocument]
      cases s.documents[proc.document]? <;> rfl
  · rfl

/-! ## Displacing -/

lemma assured_displaceEvents (p : Nat) (proc : Process) (identity : Text) :
    displaceEvents p proc.assured identity =
      withoutKillFailures (displaceEvents p proc identity) := by
  unfold displaceEvents killProcess Process.assured
  cases proc.ended with
  | some ended => rfl
  | none => cases proc.kill <;> rfl

lemma assured_displace (s : Controller) (identity : Text) :
    s.assured.displace identity =
      ((s.displace identity).1.assured, withoutKillFailures (s.displace identity).2.1,
        (s.displace identity).2.2) := by
  have hcur : s.assured.current? identity = s.current? identity := rfl
  unfold displace
  rw [hcur]
  cases s.current? identity with
  | none => rfl
  | some p =>
    simp only [assured_getElem?]
    cases s.processes[p]? with
    | none => rfl
    | some proc =>
      simp only [Option.map_some, assured_displaceEvents]
      rfl

lemma assured_displaceAll (s : Controller) (identities : List Text) :
    s.assured.displaceAll identities =
      ((s.displaceAll identities).1.assured,
        withoutKillFailures (s.displaceAll identities).2) := by
  induction identities generalizing s with
  | nil => rfl
  | cons identity rest ih =>
    rw [displaceAll_cons, displaceAll_cons, ← assured_deregister, ih, assured_displace,
      withoutKillFailures_append]

lemma assured_shutdown (s : Controller) :
    s.assured.shutdown = (s.shutdown.1.assured, withoutKillFailures s.shutdown.2) :=
  assured_displaceAll s _

/-- Whether there was a process to displace does not depend on what comes of killing it. -/
lemma displace_found (s : Controller) (identity : Text) :
    (s.displace identity).2.2 = (s.current? identity).isSome := by
  unfold displace
  cases s.current? identity <;> rfl

/-! ## Starting -/

lemma assured_refuseStart (s : Controller) (o : Order) (identity : Text) (g : Grammar)
    (reason : Text) :
    s.assured.refuseStart o.assured identity g reason =
      ((s.refuseStart o identity g reason).1.assured,
        withoutKillFailures (s.refuseStart o identity g reason).2) := rfl

lemma assured_acceptStart (s : Controller) (o : Order) (identity : Text) (g : Grammar)
    (l : Launch) :
    s.assured.acceptStart o.assured identity g l =
      ((s.acceptStart o identity g l).1.assured,
        withoutKillFailures (s.acceptStart o identity g l).2) := by
  have hlength : s.assured.processes.length = s.processes.length := List.length_map _
  simp only [acceptStart, hlength]
  simp only [assured, register, List.map_append]
  rfl

lemma assured_start (s : Controller) (o : Order) (doc : Document) :
    s.assured.start o.assured doc =
      ((s.start o doc).1.assured, withoutKillFailures (s.start o doc).2.1,
        (s.start o doc).2.2) := by
  have hgrammar : o.assured.grammar = o.grammar := rfl
  have hlaunch : o.assured.launch = o.launch := rfl
  have hrefusal : o.assured.refusal = o.refusal := rfl
  have hlaunched : ∀ l, withoutKillFailures [Event.launched l] = [Event.launched l] := fun _ => rfl
  unfold start
  rw [hgrammar, hlaunch, hrefusal]
  cases hg : Grammar.choose o.grammar doc.path with
  | error e => rfl
  | ok g =>
    match o.launch with
    | .error .empty => simp only [assured_displace]
    | .error (.notFound name) =>
      simp only [assured_displace, assured_refuseStart, withoutKillFailures_append]
    | .ok l =>
      match o.refusal with
      | some (.unfit message) =>
        simp only [assured_displace, withoutKillFailures_append, hlaunched]
      | some (.system e) =>
        simp only [assured_displace, assured_refuseStart, withoutKillFailures_append, hlaunched]
      | none =>
        simp only [assured_displace, assured_acceptStart, withoutKillFailures_append, hlaunched]

/-! ## The end of a process -/

lemma assured_complete (s : Controller) (p : Nat) :
    s.assured.complete p =
      ((s.complete p).1.assured, withoutKillFailures (s.complete p).2.1,
        (s.complete p).2.2) := by
  unfold complete
  rw [assured_getElem?]
  cases hp : s.processes[p]? with
  | none => rfl
  | some proc =>
    have hended : proc.assured.ended = proc.ended := rfl
    have hsettled : proc.assured.settled = proc.settled := rfl
    have hrequest : proc.assured.request = proc.request := rfl
    have hdocument : proc.assured.document = proc.document := rfl
    have hrequests : s.assured.requests = s.requests := rfl
    have hdocuments : s.assured.documents = s.documents := rfl
    have houtcome : outcomeOf proc.assured = outcomeOf proc := rfl
    simp only [Option.map_some, hended, hsettled, hrequest, hdocument, hrequests, hdocuments,
      houtcome, assured_isCurrent]
    match proc.ended, proc.settled, s.requests[proc.request]?, s.documents[proc.document]? with
    | some (status, output), false, some request, some doc =>
      have hsettle := assured_updateProcess s p (f := fun proc =>
        { proc with capture := (proc.capture.append output).toOption.getD proc.capture
                    settled := true }) fun _ => rfl
      have hrelease : ∀ c c' : Controller, c' = c.assured →
          c'.release p = (c.release p).assured := by
        rintro c _ rfl
        exact (assured_release c p).symm
      simp only [← hsettle]
      cases s.isCurrent p with
      | false =>
        simp only [Bool.false_eq_true, if_false]
        exact congrArg (fun c => (c, _, none)) (hrelease _ _ rfl)
      | true =>
        cases request.callback with
        | true => rfl
        | false =>
          simp only [Bool.false_eq_true, if_false, if_true]
          exact congrArg (fun c => (c, _, none)) (hrelease _ _ rfl)
    | none, _, _, _ => rfl
    | some _, true, _, _ => rfl
    | some _, false, none, _ => rfl
    | some _, false, some _, none => rfl

lemma assured_conclude (s : Controller) (p : Nat) (failure : Option Text) :
    s.assured.conclude p failure =
      ((s.conclude p failure).1.assured, withoutKillFailures (s.conclude p failure).2) := by
  cases failure with
  | none =>
    simp only [conclude, ← assured_release]
    rfl
  | some message =>
    simp only [conclude, ← assured_release, ← assured_abandon]
    rfl

lemma assured_failWait (s : Controller) (p : Nat) (e : SystemError) :
    s.assured.failWait p e =
      ((s.failWait p e).1.assured, withoutKillFailures (s.failWait p e).2) := by
  unfold failWait
  rw [assured_getElem?]
  cases hp : s.processes[p]? with
  | none => rfl
  | some proc =>
    have hsettled : proc.assured.settled = proc.settled := rfl
    have hrequest : proc.assured.request = proc.request := rfl
    have hsettle := assured_updateProcess ((s.release p).abandon p) p
      (f := fun proc => { proc with settled := true }) fun _ => rfl
    simp only [Option.map_some, hsettled, hrequest, ← assured_release, ← assured_abandon,
      ← hsettle]
    have hprogress : ∀ c : Controller, c.assured.progress? proc.request =
        c.progress? proc.request := fun _ => rfl
    rw [hprogress]
    cases proc.settled with
    | true => rfl
    | false =>
      match (((s.release p).abandon p).updateProcess p
        fun proc => { proc with settled := true }).progress? proc.request with
      | some .pending => rfl
      | none => rfl
      | some (.resolved _) => rfl
      | some (.failed _) => rfl

lemma assured_deliver (s : Controller) (r : Nat) :
    s.assured.deliver r =
      ((s.deliver r).1.assured, withoutKillFailures (s.deliver r).2.1, (s.deliver r).2.2) := by
  have hundelivered : s.assured.undelivered = s.undelivered := rfl
  have hprogress : s.assured.progress? r = s.progress? r := rfl
  unfold deliver
  rw [hundelivered, hprogress]
  split
  · cases s.progress? r with
    | none => rfl
    | some progress => cases progress <;> rfl
  · rfl

end Controller

/-! ## Runs -/

namespace Run

open Controller

/-- A run all of whose kills go well. -/
def assured (x : Run) : Run :=
  { x with controller := x.controller.assured, events := withoutKillFailures x.events }

lemma assured_advance (x : Run) (c : Controller) (events : List Event) :
    (x.advance c events).assured = x.assured.advance c.assured (withoutKillFailures events) := by
  simp only [assured, advance, withoutKillFailures_append]

/-- Forgetting what comes of kills commutes with every move. -/
lemma assured_step (x : Run) (m : Move) : (x.step m).assured = x.assured.step m.assured := by
  cases m with
  | start o =>
    have hdocuments : x.assured.controller.documents[o.assured.document]? =
        x.controller.documents[o.document]? := rfl
    show _ = x.assured.step (.start o.assured)
    cases hd : x.controller.documents[o.document]? with
    | none =>
      rw [step_start_of_none hd, step_start_of_none (hdocuments.trans hd)]
    | some doc =>
      have hstart := assured_start x.controller o doc
      rw [step_start hd, step_start (hdocuments.trans hd), assured_advance]
      show _ = x.assured.advance (x.controller.assured.start o.assured doc).1
        (x.controller.assured.start o.assured doc).2.1
      rw [hstart]
  | cancel d =>
    have hdocuments : x.assured.controller.documents[d]? = x.controller.documents[d]? := rfl
    show _ = x.assured.step (.cancel d)
    cases hd : x.controller.documents[d]? with
    | none => rw [step_cancel_of_none hd, step_cancel_of_none (hdocuments.trans hd)]
    | some doc =>
      have hdisplace := assured_displace x.controller doc.identity
      rw [step_cancel hd, step_cancel (hdocuments.trans hd), assured_advance]
      show _ = x.assured.advance (x.controller.assured.displace doc.identity).1
        (x.controller.assured.displace doc.identity).2.1
      rw [hdisplace]
  | shutdown =>
    show _ = x.assured.advance x.controller.assured.shutdown.1 x.controller.assured.shutdown.2
    rw [assured_shutdown]
    exact assured_advance x _ _
  | update d content => exact assured_advance x _ _
  | rename d path => exact assured_advance x _ _
  | finish p status output =>
    show _ = x.assured.advance (x.controller.assured.finish p status output) []
    rw [← assured_finish]
    exact assured_advance x _ _
  | complete p =>
    rcases hcomplete : x.controller.complete p with ⟨c, events, call⟩
    have hassured : x.assured.controller.complete p =
        (c.assured, withoutKillFailures events, call) := by
      have h := assured_complete x.controller p
      rwa [hcomplete] at h
    show _ = x.assured.step (.complete p)
    rw [step_complete hcomplete, step_complete hassured, ← assured_advance]
    rfl
  | conclude p failure =>
    show _ = x.assured.step (.conclude p failure)
    by_cases hp : p ∈ x.calling
    · have hconclude := assured_conclude x.controller p failure
      have hcalling : p ∈ x.assured.calling := hp
      rw [step_conclude hp, step_conclude hcalling]
      show _ = { x.assured.advance (x.controller.assured.conclude p failure).1
        (x.controller.assured.conclude p failure).2 with calling := x.calling.erase p }
      rw [hconclude, ← assured_advance]
      rfl
    · have hcalling : p ∉ x.assured.calling := hp
      rw [step_conclude_of_not_mem hp, step_conclude_of_not_mem hcalling]
  | failWait p e =>
    show _ = x.assured.advance (x.controller.assured.failWait p e).1
      (x.controller.assured.failWait p e).2
    rw [assured_failWait]
    exact assured_advance x _ _
  | deliver r =>
    show _ = x.assured.advance (x.controller.assured.deliver r).1
      (x.controller.assured.deliver r).2.1
    rw [assured_deliver]
    exact assured_advance x _ _
  | raise message => exact assured_advance x _ _

lemma assured_play (x : Run) (moves : List Move) :
    (x.play moves).assured = x.assured.play (moves.map Move.assured) := by
  induction moves generalizing x with
  | nil => rfl
  | cons m rest ih => rw [List.map_cons, play_cons, play_cons, ih, assured_step]

/-- Two runs differ in nothing but what comes of the kills: the registry is the same, every request
stands where it stands in the other run, the same is shown except for the log entries of refused
kills, and starts and cancellations get the same answers. -/
structure SameButKills (x y : Run) : Prop where
  registry : y.controller.registry = x.controller.registry
  requests : y.controller.requests = x.controller.requests
  documents : y.controller.documents = x.controller.documents
  processes :
    y.controller.processes.map Process.assured = x.controller.processes.map Process.assured
  undelivered : y.controller.undelivered = x.controller.undelivered
  calling : y.calling = x.calling
  events : withoutKillFailures y.events = withoutKillFailures x.events
  starts : ∀ (o o' : Order) (doc : Document), o'.assured = o.assured →
    (y.controller.start o' doc).2.2 = (x.controller.start o doc).2.2
  cancels : ∀ identity,
    (y.controller.displace identity).2.2 = (x.controller.displace identity).2.2

lemma sameButKills_of_assured {x y : Run} (h : y.assured = x.assured) : x.SameButKills y := by
  have hcontroller : y.controller.assured = x.controller.assured := congrArg Run.controller h
  exact {
    registry := (congrArg Controller.registry hcontroller :)
    requests := (congrArg Controller.requests hcontroller :)
    documents := (congrArg Controller.documents hcontroller :)
    processes := (congrArg Controller.processes hcontroller :)
    undelivered := (congrArg Controller.undelivered hcontroller :)
    calling := (congrArg Run.calling h :)
    events := (congrArg Run.events h :)
    starts := by
      intro o o' doc ho
      have hx := congrArg (·.2.2) (assured_start x.controller o doc)
      have hy := congrArg (·.2.2) (assured_start y.controller o' doc)
      rw [hcontroller, ho] at hy
      exact hy.symm.trans hx
    cancels := by
      intro identity
      have hx := congrArg (·.2.2) (assured_displace x.controller identity)
      have hy := congrArg (·.2.2) (assured_displace y.controller identity)
      rw [hcontroller] at hy
      exact hy.symm.trans hx }

/-! ## The discipline of kills -/

/-- What holds of kills after some moves on a new controller, whatever comes of the kills. -/
structure KillDiscipline (documents : List Document) (moves : List Move) (x : Run) : Prop where
  attempted_once : ∀ p, (x.events.filter (·.attempts p)).length ≤ 1
  signalled_once : ∀ p, (x.events.filter (·.signals p)).length ≤ 1
  /-- A move attempts to kill the processes that it displaces and no others. -/
  attempted_iff : ∀ m p identity,
    .logged (.superseding (pidOf p) identity) ∈ x.news m ↔ x.Ousts m p identity
  /-- It signals those of them that have not ended. -/
  signalled_iff : ∀ m p, .killed (pidOf p) ∈ x.news m ↔ ∃ identity proc,
    x.Ousts m p identity ∧ x.controller.processes[p]? = some proc ∧ proc.ended = none
  /-- A process that completes while it is current is struck at no time. -/
  spared : ∀ p, x.Ready p → x.controller.isCurrent p = true → ∀ later,
    ∀ e ∈ ((x.step (.complete p)).play later).events, e.strikes p = false
  /-- A process that has ended is not signalled any more. -/
  finished : ∀ p proc, x.controller.processes[p]? = some proc → proc.ended ≠ none → ∀ later,
    (x.play later).events.filter (·.signals p) = x.events.filter (·.signals p)
  /-- A displaced process is out of the registry for good. -/
  deregistered : ∀ m p identity, x.Ousts m p identity → ∀ later other,
    ((x.step m).play later).controller.current? other ≠ some p
  /-- A start goes on to launch and register its own process. -/
  start_goes_on : ∀ (o : Order) (doc : Document) (g : Grammar) (l : Launch),
    x.controller.documents[o.document]? = some doc →
    Grammar.choose o.grammar doc.path = .ok g → o.launch = .ok l → o.refusal = none →
    (x.controller.start o doc).2.2 = .ok () ∧ .launched l ∈ x.news (.start o) ∧
      (x.step (.start o)).controller.current? doc.identity = some x.controller.processes.length
  /-- A cancellation tells whether there was a process, and there is none afterwards. -/
  cancel_answers : ∀ (d : Nat) (doc : Document), x.controller.documents[d]? = some doc →
    (x.controller.displace doc.identity).2.2 = (x.controller.current? doc.identity).isSome ∧
      (x.step (.cancel d)).controller.current? doc.identity = none
  /-- A shutdown gets to every identity. -/
  shutdown_reaches : (x.step .shutdown).controller.registry = [] ∧
    ∀ identity p, x.controller.current? identity = some p →
      .logged (.superseding (pidOf p) identity) ∈ x.news .shutdown
  /-- The same moves with other replies to the kills lead to the same. -/
  replies_ignored : ∀ moves', moves'.map Move.assured = moves.map Move.assured →
    x.SameButKills ((Run.begin documents).play moves')

variable {x : Run}

lemma not_current_after_ousting (h : x.Sound) {m : Move} {p : Nat} {identity : Text}
    (hm : x.Ousts m p identity) (later : List Move) (other : Text) :
    ((x.step m).play later).controller.current? other ≠ some p := by
  obtain ⟨hc, hd⟩ := hm
  obtain ⟨proc, request, doc, hs, -, rfl⟩ := h.linked.current hc
  have hold := (List.getElem?_eq_some_iff.mp hs.has_process).1
  have hgone := not_current_after_displacement h hd hold later
  obtain ⟨proc', progress, doc', hs', -⟩ := serves_play h hs (m :: later)
  have hid : doc'.identity = doc.identity := hs'.identity.trans hs.identity.symm
  rw [← hid] at hgone
  exact ((h.step m).after later).linked.current?_ne_of_serves hs' hgone other

/-- Nothing about the displaced process can keep a start from going on. -/
lemma start_goes_on {o : Order} {doc : Document} {g : Grammar} {l : Launch}
    (hd : x.controller.documents[o.document]? = some doc)
    (hg : Grammar.choose o.grammar doc.path = .ok g) (hl : o.launch = .ok l)
    (hr : o.refusal = none) :
    (x.controller.start o doc).2.2 = .ok () ∧ .launched l ∈ x.news (.start o) ∧
      (x.step (.start o)).controller.current? doc.identity =
        some x.controller.processes.length := by
  have hstart := start_of_launched x.controller hg hl hr
  have hstep := step_start hd
  rw [hstart] at hstep
  refine ⟨by rw [hstart], ?_, ?_⟩
  · rw [news_eq (congrArg Run.events hstep)]
    simp
  · have hnone : (x.controller.deregister doc.identity).current? doc.identity = none := by simp
    rw [hstep, advance_controller, current?_enterAccepted _ hnone]
    exact if_pos rfl

/-- Kills are disciplined in every run. -/
theorem kill_discipline (documents : List Document) (moves : List Move) :
    KillDiscipline documents moves ((Run.begin documents).play moves) := by
  have hsound := Sound.play documents moves
  have hstruck := struck_once documents moves
  exact {
    attempted_once := by
      intro p
      rw [← Event.filter_filter_strikes (fun e => Event.strikes_of_attempts) _]
      obtain hnil | ⟨proc, identity, hstrike⟩ := hstruck p
      · rw [hnil]
        exact Nat.zero_le 1
      · rw [hstrike]
        exact Nat.le_of_eq (length_attempts_strike p proc identity)
    signalled_once := by
      intro p
      rw [← Event.filter_filter_strikes (fun e => Event.strikes_of_signals) _]
      obtain hnil | ⟨proc, identity, hstrike⟩ := hstruck p
      · rw [hnil]
        exact Nat.zero_le 1
      · rw [hstrike]
        exact length_signals_strike p proc identity
    attempted_iff := superseding_mem_news_iff hsound
    signalled_iff := killed_mem_news_iff hsound
    spared := by
      intro p hready hcur later e he
      obtain ⟨proc, status, output, hp, -⟩ := id hready
      obtain ⟨request, doc, hs⟩ := hsound.linked.served hp
      rw [isCurrent_of_serves hs, beq_iff_eq] at hcur
      have hnil := unstruck_of_completed_current hsound hready hcur later
      rw [List.filter_eq_nil_iff] at hnil
      exact Bool.eq_false_iff.mpr (hnil e he)
    finished := fun p proc hp hended => signals_play_of_ended hsound hp hended
    deregistered := fun m p identity hm => not_current_after_ousting hsound hm
    start_goes_on := fun o doc g l => start_goes_on
    cancel_answers := by
      intro d doc hd
      refine ⟨displace_found _ doc.identity, ?_⟩
      rw [step_cancel hd, displace_controller, advance_controller, current?_deregister, if_pos rfl]
    shutdown_reaches := by
      refine ⟨?_, fun identity p hc => ?_⟩
      · rw [step, advance_controller, shutdown_controller]
      · exact (superseding_mem_news_iff hsound .shutdown p identity).mpr ⟨hc, trivial⟩
    replies_ignored := by
      intro moves' hsame
      refine sameButKills_of_assured ?_
      rw [assured_play, assured_play, hsame] }

end Run
end GradleLint
