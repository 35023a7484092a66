import GradleLint.Proofs.Controller.Callbacks

/-!
# Who is killed, and when

A process is struck by the move that displaces it and by no other: the displacement is logged, and
unless the process has ended, its process group is killed (`strike`).  One equation for each move
says this (`news_strikes`); since a process that was struck is not current any more, what strikes
it in a whole run is nothing or the one strike (`struck_once`).

A process that is completed while it is current, and a process that has ended, are out of reach:
the one is never current again, and whoever displaces the other does not signal it.
-/

namespace GradleLint

namespace Event

/-- Whether an event is the log entry of an attempt to kill a process, which follows at once. -/
def attempts (p : Nat) : Event → Bool
  | .logged (.superseding pid _) => pid == Controller.pidOf p
  | _ => false

/-- Whether an event is the signal to the process group of a process. -/
def signals (p : Nat) : Event → Bool
  | .killed pid => pid == Controller.pidOf p
  | _ => false

lemma strikes_of_attempts {p : Nat} {e : Event} (h : e.attempts p = true) :
    e.strikes p = true := by
  unfold attempts at h
  split at h
  · exact h
  · exact absurd h (by simp)

lemma strikes_of_signals {p : Nat} {e : Event} (h : e.signals p = true) :
    e.strikes p = true := by
  unfold signals at h
  split at h
  · exact h
  · exact absurd h (by simp)

/-- What a filter keeps can be filtered out of all that strikes a process, if it strikes it. -/
lemma filter_filter_strikes {p : Nat} {f : Event → Bool}
    (hf : ∀ e : Event, f e = true → e.strikes p = true) (events : List Event) :
    (events.filter (·.strikes p)).filter f = events.filter f := by
  rw [List.filter_filter]
  refine List.filter_congr fun e _ => ?_
  cases he : f e with
  | false => rfl
  | true => rw [hf e he]; rfl

end Event

namespace Controller

/-- What strikes a process that is displaced. -/
def strike (p : Nat) (proc : Process) (identity : Text) : List Event :=
  .logged (.superseding (pidOf p) identity) ::
    if proc.ended.isSome then [] else [.killed (pidOf p)]

variable {s : Controller} {calling : List Nat} {p : Nat} {proc : Process} {identity : Text}

lemma filter_strikes_displaceEvents (p : Nat) (proc : Process) (identity : Text) :
    (displaceEvents p proc identity).filter (·.strikes p) = strike p proc identity := by
  unfold displaceEvents killProcess strike
  cases proc.ended with
  | some ended => simp [Event.strikes]
  | none =>
    cases proc.kill <;> simp [Event.strikes]

lemma length_attempts_strike (p : Nat) (proc : Process) (identity : Text) :
    ((strike p proc identity).filter (·.attempts p)).length = 1 := by
  cases hended : proc.ended <;> simp [strike, hended, Event.attempts]

lemma length_signals_strike (p : Nat) (proc : Process) (identity : Text) :
    ((strike p proc identity).filter (·.signals p)).length ≤ 1 := by
  cases hended : proc.ended <;> simp [strike, hended, Event.signals]

lemma superseding_mem_strike {p : Nat} {proc : Process} {identity other : Text} :
    .logged (.superseding (pidOf p) other) ∈ strike p proc identity ↔ other = identity := by
  cases hended : proc.ended <;> simp [strike, hended]

lemma killed_mem_strike {p : Nat} {proc : Process} {identity : Text} :
    .killed (pidOf p) ∈ strike p proc identity ↔ proc.ended = none := by
  cases hended : proc.ended <;> simp [strike, hended]

/-- Several displacements strike a current process once if its identity is among them. -/
lemma filter_strikes_displaceAll (hl : Linked s calling) (hc : s.current? identity = some p)
    (hp : s.processes[p]? = some proc) (identities : List Text) :
    (s.displaceAll identities).2.filter (·.strikes p) =
      if identity ∈ identities then strike p proc identity else [] := by
  have hothers : ∀ other, other ≠ identity → ∀ e ∈ (s.displace other).2.1,
      e.strikes p = false := by
    intro other hne e he
    obtain ⟨q, hq, hd⟩ := mem_displace_events he
    rw [Bool.eq_false_iff]
    intro hs
    obtain rfl := hd.eq_of_strikes hs
    exact hne (hl.current_inj hq hc)
  rw [filter_displaceAll_of hothers, displace_events_of_current hc hp,
    filter_strikes_displaceEvents]

/-- Nothing strikes a process that is current for none of the displaced identities. -/
lemma filter_strikes_displaceAll_of_not_current {identities : List Text}
    (h : ∀ identity ∈ identities, s.current? identity ≠ some p) :
    (s.displaceAll identities).2.filter (·.strikes p) = [] := by
  rw [List.filter_eq_nil_iff]
  intro e he hs
  obtain ⟨identity, hmem, q, hq, hd⟩ := mem_displaceAll_events he
  obtain rfl := hd.eq_of_strikes hs
  exact h identity hmem hq

end Controller

namespace Run

open Controller

variable {x : Run} {m : Move} {p : Nat} {proc : Process} {identity : Text}

/-! ## What a move shows -/

/-- The events that a move shows. -/
def news (x : Run) (m : Move) : List Event := ({ x with events := [] }.step m).events

lemma step_events (x : Run) (m : Move) : (x.step m).events = x.events ++ x.news m := by
  obtain ⟨-, -, more, hx, hy⟩ :=
    step_of_same (x := x) (y := { x with events := [] }) rfl rfl m
  rw [hx, news, hy]
  rfl

lemma news_eq {more : List Event} (h : (x.step m).events = x.events ++ more) :
    x.news m = more :=
  List.append_cancel_left ((step_events x m).symm.trans h)

lemma filter_news_of_quiet (more : List Event) (h : (x.step m).events = x.events ++ more)
    (hmore : ∀ e ∈ more, ∀ p, e.strikes p = false) (p : Nat) :
    (x.news m).filter (·.strikes p) = (x.controller.displaceAll []).2.filter (·.strikes p) := by
  rw [news_eq h, List.filter_eq_nil_iff.mpr fun e he => by simp [hmore e he p]]
  rfl

lemma filter_news_of_displace (more : List Event)
    (h : (x.step m).events = x.events ++ ((x.controller.displace identity).2.1 ++ more))
    (hmore : ∀ e ∈ more, ∀ p, e.strikes p = false) (p : Nat) :
    (x.news m).filter (·.strikes p) =
      (x.controller.displaceAll [identity]).2.filter (·.strikes p) := by
  rw [news_eq h, Recorded.filter_append_of_quiet _ fun e he => hmore e he p, displaceAll_cons,
    displaceAll, List.append_nil]

/-- A move strikes by displacing some identities; of those that have a current process, it is the
ones that the move displaces. -/
lemma exists_struck (h : x.Sound) (m : Move) :
    ∃ identities : List Text,
      (∀ identity p, x.controller.current? identity = some p →
        (identity ∈ identities ↔ m.Displaces x.controller.documents identity)) ∧
      ∀ p, (x.news m).filter (·.strikes p) =
        (x.controller.displaceAll identities).2.filter (·.strikes p) := by
  have hdid := did h.linked m
  have hlaunched : ∀ l : Option Launch, ∀ e ∈ (l.map Event.launched).toList, ∀ p,
      e.strikes p = false := fun l e he => (Event.isRemark_of_launched he).2
  have hnone : (∀ identity, ¬ m.Displaces x.controller.documents identity) →
      ∀ identity p, x.controller.current? identity = some p →
        (identity ∈ ([] : List Text) ↔ m.Displaces x.controller.documents identity) :=
    fun hnot identity p _ => iff_of_false List.not_mem_nil (hnot identity)
  generalize hy : x.step m = y at hdid
  cases hdid with
  | idle hdisplaces =>
    refine ⟨[], hnone hdisplaces, filter_news_of_quiet [] ?_ (by simp)⟩
    rw [hy, List.append_nil]
  | @raised o doc g hd hg l =>
    refine ⟨[doc.identity], fun identity p _ => ?_, ?_⟩
    · rw [List.mem_singleton, displaces_start hd hg]
    · exact filter_news_of_displace _ (by rw [hy]; rfl) (hlaunched l)
  | @refused o doc g hd hg l reason =>
    refine ⟨[doc.identity], fun identity p _ => ?_, ?_⟩
    · rw [List.mem_singleton, displaces_start hd hg]
    · refine filter_news_of_displace _ (by rw [hy, advance_events, List.append_assoc]) fun e he => ?_
      obtain he | he := List.mem_append.mp he
      · exact hlaunched l e he
      · obtain rfl | rfl := by simpa using he
        all_goals exact fun _ => rfl
  | @accepted o doc g l hd hg hl hr =>
    refine ⟨[doc.identity], fun identity p _ => ?_, ?_⟩
    · rw [List.mem_singleton, displaces_start hd hg]
    · refine filter_news_of_displace _ (by rw [hy]; rfl) fun e he => ?_
      obtain rfl | rfl := by simpa using he
      all_goals exact fun _ => rfl
  | @cancelled d doc hd =>
    refine ⟨[doc.identity], fun identity p _ => ?_, ?_⟩
    · rw [List.mem_singleton, displaces_cancel hd]
    · refine filter_news_of_displace [] ?_ (by simp)
      rw [hy, List.append_nil]
      rfl
  | shutdown =>
    refine ⟨x.controller.registry.map (·.1), fun identity p hc => ?_, fun p => ?_⟩
    · refine iff_of_true ?_ trivial
      by_contra hmem
      rw [(current?_eq_none_iff x.controller identity).mpr hmem] at hc
      exact absurd hc (by simp)
    · have hevents : (x.step .shutdown).events = x.events ++ x.controller.shutdown.2 := by
        rw [hy]
        rfl
      rw [news_eq hevents]
      rfl
  | edited hdisplaces =>
    refine ⟨[], hnone hdisplaces, filter_news_of_quiet [] ?_ (by simp)⟩
    rw [hy]
    rfl
  | finished =>
    refine ⟨[], hnone (by simp [Move.Displaces]), filter_news_of_quiet [] ?_ (by simp)⟩
    rw [hy]
    rfl
  | @settled m p proc request doc capture progress calling more hm hs hopen hcalling hmore =>
    have hdisplaces : ∀ identity, ¬ m.Displaces x.controller.documents identity := by
      intro identity
      cases hm <;> simp [Move.Displaces]
    refine ⟨[], hnone hdisplaces, filter_news_of_quiet _ (by rw [hy]) fun e he => ?_⟩
    obtain he | he := List.mem_append.mp he
    · exact Recorded.strikes_of_mem_settling hm.ne_pending he
    · exact (hmore e he).2
  | concluded =>
    refine ⟨[], hnone (by simp [Move.Displaces]), filter_news_of_quiet _ (by rw [hy]) fun e he => ?_⟩
    exact (Event.isRemark_of_crashed he).2
  | delivered =>
    refine ⟨[], hnone (by simp [Move.Displaces]), filter_news_of_quiet _ (by rw [hy]; rfl) ?_⟩
    simp [Event.strikes]
  | aborted =>
    refine ⟨[], hnone (by simp [Move.Displaces]), filter_news_of_quiet _ (by rw [hy]; rfl) ?_⟩
    simp [Event.strikes]

/-- A move displaces a process, which is current for an identity until then. -/
def Ousts (x : Run) (m : Move) (p : Nat) (identity : Text) : Prop :=
  x.controller.current? identity = some p ∧ m.Displaces x.controller.documents identity

/-- The process that a move displaces is struck by it. -/
lemma news_strikes (h : x.Sound) (hm : x.Ousts m p identity)
    (hp : x.controller.processes[p]? = some proc) :
    (x.news m).filter (·.strikes p) = strike p proc identity := by
  obtain ⟨identities, hdisplaced, hstruck⟩ := exists_struck h m
  rw [hstruck, filter_strikes_displaceAll h.linked hm.1 hp,
    if_pos ((hdisplaced identity p hm.1).mpr hm.2)]

/-- No other process is. -/
lemma news_strikes_of_not_ousted (h : x.Sound) (hm : ∀ identity, ¬ x.Ousts m p identity) :
    (x.news m).filter (·.strikes p) = [] := by
  obtain ⟨identities, hdisplaced, hstruck⟩ := exists_struck h m
  rw [hstruck]
  refine filter_strikes_displaceAll_of_not_current fun identity hmem hc => ?_
  exact hm identity ⟨hc, (hdisplaced identity p hc).mp hmem⟩

lemma mem_news_iff_of_ousted (h : x.Sound) (hm : x.Ousts m p identity)
    (hp : x.controller.processes[p]? = some proc) {e : Event} (he : e.strikes p = true) :
    e ∈ x.news m ↔ e ∈ strike p proc identity := by
  rw [← news_strikes h hm hp, List.mem_filter, he, and_iff_left rfl]

lemma ousts_of_mem_news (h : x.Sound) {e : Event} (he : e.strikes p = true)
    (hmem : e ∈ x.news m) :
    ∃ identity proc, x.Ousts m p identity ∧ x.controller.processes[p]? = some proc ∧
      e ∈ strike p proc identity := by
  have hsome : ∃ identity, x.Ousts m p identity := by
    by_contra hnone
    have hnil := news_strikes_of_not_ousted h (m := m) (p := p)
      fun identity hm => hnone ⟨identity, hm⟩
    rw [List.filter_eq_nil_iff] at hnil
    exact hnil e hmem he
  obtain ⟨identity, hm⟩ := hsome
  obtain ⟨proc, request, doc, hs, -⟩ := h.linked.current hm.1
  exact ⟨identity, proc, hm, hs.has_process,
    (mem_news_iff_of_ousted h hm hs.has_process he).mp hmem⟩

/-- A kill of a process is attempted by a move exactly when the move displaces the process. -/
lemma superseding_mem_news_iff (h : x.Sound) (m : Move) (p : Nat) (identity : Text) :
    .logged (.superseding (pidOf p) identity) ∈ x.news m ↔ x.Ousts m p identity := by
  have hstrikes : (Event.logged (.superseding (pidOf p) identity)).strikes p = true := by
    simp [Event.strikes]
  constructor
  · intro hmem
    obtain ⟨other, proc, hm, -, hin⟩ := ousts_of_mem_news h hstrikes hmem
    rwa [superseding_mem_strike.mp hin]
  · intro hm
    obtain ⟨proc, request, doc, hs, -⟩ := h.linked.current hm.1
    rw [mem_news_iff_of_ousted h hm hs.has_process hstrikes]
    exact superseding_mem_strike.mpr rfl

/-- A process is signalled by a move exactly when the move displaces it before it has ended. -/
lemma killed_mem_news_iff (h : x.Sound) (m : Move) (p : Nat) :
    .killed (pidOf p) ∈ x.news m ↔ ∃ identity proc, x.Ousts m p identity ∧
      x.controller.processes[p]? = some proc ∧ proc.ended = none := by
  have hstrikes : (Event.killed (pidOf p)).strikes p = true := by simp [Event.strikes]
  constructor
  · intro hmem
    obtain ⟨identity, proc, hm, hp, hin⟩ := ousts_of_mem_news h hstrikes hmem
    exact ⟨identity, proc, hm, hp, killed_mem_strike.mp hin⟩
  · rintro ⟨identity, proc, hm, hp, hended⟩
    rw [mem_news_iff_of_ousted h hm hp hstrikes]
    exact killed_mem_strike.mpr hended

/-! ## Whole runs -/

/-- What strikes a process in a whole run is nothing, or what one displacement does. -/
lemma struck_once (documents : List Document) (moves : List Move) (p : Nat) :
    ((Run.begin documents).play moves).events.filter (·.strikes p) = [] ∨
      ∃ proc identity, ((Run.begin documents).play moves).events.filter (·.strikes p) =
        strike p proc identity := by
  induction moves using List.reverseRecOn with
  | nil => exact .inl rfl
  | append_singleton moves m ih =>
    have hsound := Sound.play documents moves
    rw [play_append, play_cons, play_nil, step_events, List.filter_append]
    by_cases hm : ∃ identity, ((Run.begin documents).play moves).Ousts m p identity
    · obtain ⟨identity, hm⟩ := hm
      obtain ⟨proc, request, doc, hs, -⟩ := hsound.linked.current hm.1
      -- The process is current, so nothing has struck it so far.
      have hbefore : ((Run.begin documents).play moves).events.filter (·.strikes p) = [] := by
        rw [List.filter_eq_nil_iff]
        intro e he
        simp [hsound.recorded.unstruck hm.1 e he]
      refine .inr ⟨proc, identity, ?_⟩
      rw [hbefore, news_strikes hsound hm hs.has_process, List.nil_append]
    · rw [news_strikes_of_not_ousted hsound fun identity h => hm ⟨identity, h⟩, List.append_nil]
      exact ih

/-- A settled process is not struck any more. -/
lemma strikes_play_of_settled (h : x.Sound) (hp : x.controller.processes[p]? = some proc)
    (hsettled : proc.settled = true) (later : List Move) :
    (x.play later).events.filter (·.strikes p) = x.events.filter (·.strikes p) := by
  induction later generalizing x proc with
  | nil => rfl
  | cons m rest ih =>
    obtain ⟨proc', hp', hsettled'⟩ := settled_play h hp hsettled [m]
    have hnone := news_strikes_of_not_ousted h (m := m) (p := p)
      fun identity hm => h.linked.current?_ne_of_settled hp hsettled identity hm.1
    rw [play_cons, ih (h.step m) hp' hsettled', step_events, List.filter_append, hnone,
      List.append_nil]

/-- A process that is completed while it is current is never struck, neither before nor later. -/
lemma unstruck_of_completed_current (h : x.Sound) (hready : x.Ready p)
    (hc : x.controller.current? identity = some p) (later : List Move) :
    ((x.step (.complete p)).play later).events.filter (·.strikes p) = [] := by
  obtain ⟨proc, status, output, hp, hended, hopen⟩ := hready
  obtain ⟨proc', request, doc, hs, -, rfl⟩ := h.linked.current hc
  obtain rfl := hs.process_eq hp
  obtain ⟨-, proc', hp', hsettled⟩ := settled_since_completion h hs hended hopen hc []
  have hbefore : x.events.filter (·.strikes p) = [] := by
    rw [List.filter_eq_nil_iff]
    intro e he
    simp [h.recorded.unstruck hc e he]
  have hnone := news_strikes_of_not_ousted h (m := .complete p) (p := p) fun identity hm => hm.2
  rw [strikes_play_of_settled (h.step (.complete p)) hp' hsettled, step_events,
    List.filter_append, hbefore, hnone, List.append_nil]

/-! ## Processes that have ended -/

/-- A process that has ended stays so. -/
lemma ended_step (h : x.Sound) (hp : x.controller.processes[p]? = some proc)
    (hended : proc.ended ≠ none) (m : Move) :
    ∃ proc', (x.step m).controller.processes[p]? = some proc' ∧ proc'.ended ≠ none := by
  have hdid := did h.linked m
  generalize x.step m = y at hdid
  have hupdate : ∀ (q : Nat) (f : Process → Process),
      (∀ proc, proc.ended ≠ none → (f proc).ended ≠ none) →
      ∃ proc', (x.controller.updateProcess q f).processes[p]? = some proc' ∧
        proc'.ended ≠ none := by
    intro q f hf
    refine ⟨_, Linked.processes_updateProcess.mpr ⟨proc, hp, rfl⟩, ?_⟩
    split
    · exact hf proc hended
    · exact hended
  cases hdid with
  | idle => exact ⟨proc, hp, hended⟩
  | raised => exact ⟨proc, hp, hended⟩
  | refused => exact ⟨proc, hp, hended⟩
  | accepted => exact ⟨proc, getElem?_concat_of_some hp, hended⟩
  | cancelled => exact ⟨proc, hp, hended⟩
  | shutdown =>
    rw [advance_controller, shutdown_controller]
    exact ⟨proc, hp, hended⟩
  | edited => exact ⟨proc, hp, hended⟩
  | finished q status output => exact hupdate q _ fun _ _ => by simp
  | @settled m q old request doc capture progress =>
    refine ⟨_, Linked.processes_settle.mpr ⟨proc, ?_, rfl⟩, ?_⟩
    · rw [withdraw_processes]
      exact hp
    · split
      · exact hended
      · exact hended
  | @concluded q => exact hupdate q _ fun _ h => h
  | delivered => exact ⟨proc, hp, hended⟩
  | aborted => exact ⟨proc, hp, hended⟩

/-- A process that has ended is not signalled any more. -/
lemma signals_play_of_ended (h : x.Sound) (hp : x.controller.processes[p]? = some proc)
    (hended : proc.ended ≠ none) (later : List Move) :
    (x.play later).events.filter (·.signals p) = x.events.filter (·.signals p) := by
  induction later generalizing x proc with
  | nil => rfl
  | cons m rest ih =>
    obtain ⟨proc', hp', hended'⟩ := ended_step h hp hended m
    have hnone : (x.news m).filter (·.signals p) = [] := by
      rw [List.filter_eq_nil_iff]
      intro e he hsignals
      have hkilled : e = .killed (pidOf p) := by
        unfold Event.signals at hsignals
        split at hsignals
        · rw [beq_iff_eq.mp hsignals]
        · exact absurd hsignals (by simp)
      rw [hkilled, killed_mem_news_iff h] at he
      obtain ⟨identity, proc'', -, hp'', hnone⟩ := he
      obtain rfl := Option.some.inj (hp.symm.trans hp'')
      exact hended hnone
    rw [play_cons, ih (h.step m) hp' hended', step_events, List.filter_append, hnone,
      List.append_nil]

end Run
end GradleLint
