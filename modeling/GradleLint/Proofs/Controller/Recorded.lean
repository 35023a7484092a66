import GradleLint.Proofs.Controller.Linked

/-!
# What the events say

`Recorded` ties the events of a run to the state of the controller.  The events that settle a
request, and the calls of its callback, are determined by where the request stands: a pending
request has none, a resolved one has exactly one settlement, and at most one call.  A call comes
after the settlement with the same outcome.  No current process has ever been struck, that is,
been displaced and perhaps killed.
-/

namespace GradleLint

namespace Event

/-- Whether an event settles a request. -/
def settles (r : Nat) : Event → Bool
  | .resolved q _ => q == r
  | .failed q _ => q == r
  | _ => false

/-- Whether an event is a call of the callback of a request. -/
def calls (r : Nat) : Event → Bool
  | .delivered q _ => q == r
  | _ => false

/-- Whether an event is part of displacing a process, an attempt to kill it above all. -/
def strikes (p : Nat) : Event → Bool
  | .killed pid => pid == Controller.pidOf p
  | .logged (.superseding pid _) => pid == Controller.pidOf p
  | _ => false

/-- An event that is about no request. -/
def IsQuiet (e : Event) : Prop := ∀ r, e.settles r = false ∧ e.calls r = false

/-- An event that is about no request and strikes no process. -/
def IsRemark (e : Event) : Prop := e.IsQuiet ∧ ∀ p, e.strikes p = false

@[simp] lemma isRemark_launched (l : Launch) : (launched l).IsRemark :=
  ⟨fun _ => ⟨rfl, rfl⟩, fun _ => rfl⟩

@[simp] lemma isRemark_crashed (c : Crash) : (crashed c).IsRemark :=
  ⟨fun _ => ⟨rfl, rfl⟩, fun _ => rfl⟩

/-- Of all that is logged only a supersession is about a process that is struck. -/
@[simp] lemma isRemark_logged {entry : LogEntry}
    (h : ∀ pid identity, entry ≠ .superseding pid identity) : (logged entry).IsRemark := by
  refine ⟨fun _ => ⟨rfl, rfl⟩, fun p => ?_⟩
  cases entry with
  | superseding pid identity => exact absurd rfl (h pid identity)
  | _ => rfl

lemma isRemark_of_launched {l : Option Launch} {e : Event}
    (he : e ∈ (l.map launched).toList) : e.IsRemark := by
  obtain ⟨l, -, rfl⟩ : ∃ l', l = some l' ∧ launched l' = e := by simpa using he
  exact isRemark_launched l

lemma isRemark_of_crashed {failure : Option Text} {e : Event}
    (he : e ∈ (failure.map fun message => crashed (.callback message)).toList) : e.IsRemark := by
  obtain ⟨message, -, rfl⟩ :
    ∃ message, failure = some message ∧ crashed (.callback message) = e := by simpa using he
  exact isRemark_crashed _

end Event

/-- The events that settle a request, by where it stands. -/
def Progress.settlement (r : Nat) : Progress → List Event
  | .pending => []
  | .resolved o => [.resolved r o]
  | .failed e => [.failed r e]

/-- The outcome with which the callback of a request is called as soon as it stands there. -/
def Request.called? (request : Request) : Option Outcome :=
  match request.progress with
  | .resolved o => if request.callback ∧ o.kind ≠ .superseded then some o else none
  | _ => none

lemma Request.called?_eq_some_iff (request : Request) (o : Outcome) :
    request.called? = some o ↔
      request.progress = .resolved o ∧ request.callback = true ∧ o.kind ≠ .superseded := by
  unfold called?
  cases request.progress with
  | pending => simp
  | failed e => simp
  | resolved o' =>
    simp only [Progress.resolved.injEq, Option.ite_none_right_eq_some, Option.some.injEq]
    constructor
    · rintro ⟨hcall, rfl⟩
      exact ⟨rfl, hcall⟩
    · rintro ⟨rfl, hcall⟩
      exact ⟨hcall, rfl⟩

namespace Controller

/-- The events that have settled a request. -/
def settlement (s : Controller) (r : Nat) : List Event :=
  ((s.progress? r).map (Progress.settlement r)).getD []

/-- The calls of the callback of a request, except one that is still to be delivered. -/
def callsMade (s : Controller) (r : Nat) : List Event :=
  if r ∈ s.undelivered then []
  else (((s.requests[r]?).bind Request.called?).map (Event.delivered r)).toList

lemma settlement_of_some {s : Controller} {r : Nat} {request : Request}
    (h : s.requests[r]? = some request) : s.settlement r = request.progress.settlement r := by
  simp [settlement, progress?, h]

lemma callsMade_of_some {s : Controller} {r : Nat} {request : Request}
    (h : s.requests[r]? = some request) (hr : r ∉ s.undelivered) :
    s.callsMade r = (request.called?.map (Event.delivered r)).toList := by
  simp [callsMade, h, hr]

end Controller

/-- Every call of a callback comes after the settlement with the same outcome. -/
def CallsFollow (events : List Event) : Prop :=
  ∀ pre r o post, events = pre ++ .delivered r o :: post → .resolved r o ∈ pre

/-- The events are those of the state. -/
structure Recorded (s : Controller) (events : List Event) : Prop where
  settlements : ∀ r, events.filter (·.settles r) = s.settlement r
  calls : ∀ r, events.filter (·.calls r) = s.callsMade r
  follow : CallsFollow events
  unstruck : ∀ {identity : Text} {p : Nat}, s.current? identity = some p →
    ∀ e ∈ events, e.strikes p = false
  struck_lt : ∀ {p : Nat} {e : Event}, e ∈ events → e.strikes p = true → p < s.processes.length

lemma CallsFollow.append {events more : List Event} (h : CallsFollow events)
    (hmore : ∀ pre r o post, more = pre ++ .delivered r o :: post →
      .resolved r o ∈ events ++ pre) : CallsFollow (events ++ more) := by
  intro pre r o post heq
  obtain ⟨mid, rfl, hmid⟩ | ⟨mid, rfl, hmid⟩ := List.append_eq_append_iff.mp heq
  · exact hmore mid r o post hmid
  · cases mid with
    | nil =>
      have := hmore [] r o post hmid.symm
      simpa using this
    | cons e mid =>
      obtain ⟨rfl, -⟩ := List.cons.inj hmid
      exact h pre r o mid rfl

lemma CallsFollow.append_of_no_calls {events more : List Event} (h : CallsFollow events)
    (hmore : ∀ e ∈ more, ∀ r, e.calls r = false) : CallsFollow (events ++ more) := by
  refine h.append fun pre r o post heq => ?_
  have hcall := hmore (.delivered r o) (by simp [heq]) r
  simp [Event.calls] at hcall

namespace Controller

lemma IsDisplacement.isQuiet {p : Nat} {identity : Text} {e : Event}
    (h : IsDisplacement p identity e) : e.IsQuiet := by
  cases h <;> exact fun _ => ⟨rfl, rfl⟩

lemma IsDisplacement.eq_of_strikes {p q : Nat} {identity : Text} {e : Event}
    (h : IsDisplacement p identity e) (hs : e.strikes q = true) : p = q := by
  cases h with
  | superseding => simpa [Event.strikes, pidOf] using hs
  | killed => simpa [Event.strikes, pidOf] using hs
  | killFailed => exact absurd hs (by simp [Event.strikes])

end Controller

namespace Recorded

open Controller

variable {s : Controller} {events : List Event}

lemma begin (documents : List Document) : Recorded { documents } [] where
  settlements r := by simp [settlement, progress?]
  calls r := by simp [callsMade]
  follow := by simp [CallsFollow]
  unstruck := by simp
  struck_lt := by simp

/-- Nothing that the events depend on changes. -/
lemma congr (h : Recorded s events) {s' : Controller} (hreq : s'.requests = s.requests)
    (hund : s'.undelivered = s.undelivered) (hlen : s'.processes.length = s.processes.length)
    (hcur : ∀ identity p, s'.current? identity = some p → s.current? identity = some p) :
    Recorded s' events where
  settlements r := by rw [h.settlements r, settlement, settlement, progress?, progress?, hreq]
  calls r := by rw [h.calls r, callsMade, callsMade, hreq, hund]
  follow := h.follow
  unstruck hc := h.unstruck (hcur _ _ hc)
  struck_lt he hs := hlen ▸ h.struck_lt he hs

lemma deregister (h : Recorded s events) (identity : Text) :
    Recorded (s.deregister identity) events := by
  refine h.congr rfl rfl rfl fun other p hc => ?_
  exact (current?_deregister_eq_some.mp hc).1

lemma filter_append_of_quiet {more : List Event} {f : Event → Bool} (events : List Event)
    (h : ∀ e ∈ more, f e = false) : (events ++ more).filter f = events.filter f := by
  have hnil : more.filter f = [] := by
    rw [List.filter_eq_nil_iff]
    intro e he
    simp [h e he]
  rw [List.filter_append, hnil, List.append_nil]

/-- Something happens that is about no request and strikes no process. -/
lemma remark (h : Recorded s events) (more : List Event) (hmore : ∀ e ∈ more, e.IsRemark) :
    Recorded s (events ++ more) where
  settlements r := by
    rw [filter_append_of_quiet events fun e he => ((hmore e he).1 r).1, h.settlements r]
  calls r := by
    rw [filter_append_of_quiet events fun e he => ((hmore e he).1 r).2, h.calls r]
  follow := h.follow.append_of_no_calls fun e he r => ((hmore e he).1 r).2
  unstruck hc e he := by
    obtain he | he := List.mem_append.mp he
    · exact h.unstruck hc e he
    · exact (hmore e he).2 _
  struck_lt he hs := by
    obtain he | he := List.mem_append.mp he
    · exact h.struck_lt he hs
    · exact absurd hs (by simp [(hmore _ he).2])

/-- The current process of an identity is displaced. -/
lemma displace (h : Recorded s events) {calling : List Nat} (hl : Linked s calling)
    (identity : Text) :
    Recorded (s.deregister identity) (events ++ (s.displace identity).2.1) where
  settlements r := by
    have hquiet : ∀ e ∈ (s.displace identity).2.1, e.settles r = false := by
      intro e he
      obtain ⟨p, -, hd⟩ := mem_displace_events he
      exact (hd.isQuiet r).1
    rw [filter_append_of_quiet events hquiet]
    exact h.settlements r
  calls r := by
    have hquiet : ∀ e ∈ (s.displace identity).2.1, e.calls r = false := by
      intro e he
      obtain ⟨p, -, hd⟩ := mem_displace_events he
      exact (hd.isQuiet r).2
    rw [filter_append_of_quiet events hquiet]
    exact h.calls r
  follow := by
    refine h.follow.append_of_no_calls fun e he r => ?_
    obtain ⟨p, -, hd⟩ := mem_displace_events he
    exact (hd.isQuiet r).2
  unstruck := by
    intro other p hc e he
    obtain ⟨hc, hne⟩ := current?_deregister_eq_some.mp hc
    obtain he | he := List.mem_append.mp he
    · exact h.unstruck hc e he
    · obtain ⟨q, hq, hd⟩ := mem_displace_events he
      rw [Bool.eq_false_iff]
      intro hs
      obtain rfl := hd.eq_of_strikes hs
      exact hne (hl.current_inj hc hq)
  struck_lt := by
    intro p e he hs
    obtain he | he := List.mem_append.mp he
    · exact h.struck_lt he hs
    · obtain ⟨q, hq, hd⟩ := mem_displace_events he
      obtain rfl := hd.eq_of_strikes hs
      obtain ⟨proc, request, doc, hserves, -⟩ := hl.current hq
      exact (List.getElem?_eq_some_iff.mp hserves.has_process).1

lemma settlement_eq_nil_of_le {r : Nat} (hr : s.requests.length ≤ r) : s.settlement r = [] := by
  simp [settlement, progress?, List.getElem?_eq_none hr]

lemma callsMade_eq_nil_of_le {r : Nat} (hr : s.requests.length ≤ r) : s.callsMade r = [] := by
  simp [callsMade, List.getElem?_eq_none hr]

/-- Events that strike no process keep what is known of struck processes, as long as the
processes stay and no other becomes current. -/
lemma unstruck_append (h : Recorded s events) {s' : Controller} (more : List Event)
    (hmore : ∀ e ∈ more, ∀ p, e.strikes p = false)
    (hcur : ∀ identity p, s'.current? identity = some p →
      s.current? identity = some p ∨ s.processes.length ≤ p) {identity : Text} {p : Nat}
    (hc : s'.current? identity = some p) : ∀ e ∈ events ++ more, e.strikes p = false := by
  intro e he
  obtain he | he := List.mem_append.mp he
  · obtain hold | hnew := hcur identity p hc
    · exact h.unstruck hold e he
    · rw [Bool.eq_false_iff]
      intro hs
      exact absurd (h.struck_lt he hs) (by omega)
  · exact hmore e he p

lemma struck_lt_append (h : Recorded s events) {s' : Controller} {more : List Event}
    (hmore : ∀ e ∈ more, ∀ p, e.strikes p = false)
    (hlen : s.processes.length ≤ s'.processes.length) {p : Nat} {e : Event}
    (he : e ∈ events ++ more) (hs : e.strikes p = true) : p < s'.processes.length := by
  obtain he | he := List.mem_append.mp he
  · exact Nat.lt_of_lt_of_le (h.struck_lt he hs) hlen
  · exact absurd hs (by simp [hmore e he p])

/-- A request is refused and resolved at once. -/
lemma enterRefused (h : Recorded s events) (request : Request) {o : Outcome}
    (hprogress : request.progress = .resolved o) :
    Recorded (s.enterRefused request) (events ++ [.resolved s.requests.length o]) := by
  have hnew : (s.enterRefused request).requests[s.requests.length]? = some request := by
    simp [Controller.enterRefused]
  have hold : ∀ {r : Nat}, r ≠ s.requests.length →
      (s.enterRefused request).requests[r]? = s.requests[r]? := getElem?_concat_of_ne
  have hstrike : ∀ e ∈ [Event.resolved s.requests.length o], ∀ p, e.strikes p = false := by
    simp [Event.strikes]
  have hcall : ∀ e ∈ [Event.resolved s.requests.length o], ∀ r, e.calls r = false := by
    simp [Event.calls]
  exact {
    settlements := by
      intro r
      rw [List.filter_append, h.settlements r]
      by_cases hr : r = s.requests.length
      · rw [hr, settlement_of_some hnew, settlement_eq_nil_of_le (Nat.le_refl _), hprogress]
        simp [Event.settles, Progress.settlement]
      · have hne : (s.requests.length == r) = false := by simpa using Ne.symm hr
        rw [settlement, settlement, progress?, progress?, hold hr]
        simp [Event.settles, hne]
    calls := by
      intro r
      rw [filter_append_of_quiet events fun e he => hcall e he r, h.calls r]
      by_cases hr : r = s.requests.length
      · rw [hr, callsMade_eq_nil_of_le (Nat.le_refl _)]
        by_cases hcb : request.callback = true
        · simp [callsMade, Controller.enterRefused, hcb]
        · rw [callsMade, hnew]
          simp [Request.called?, hprogress, hcb]
      · have hmem : r ∈ (s.enterRefused request).undelivered ↔ r ∈ s.undelivered := by
          by_cases hcb : request.callback = true <;> simp [Controller.enterRefused, hcb, hr]
        rw [callsMade, callsMade, hold hr]
        simp only [hmem]
    follow := h.follow.append_of_no_calls hcall
    unstruck := h.unstruck_append _ hstrike fun _ _ hc => .inl hc
    struck_lt := h.struck_lt_append hstrike (Nat.le_refl _) }

/-- A request is accepted. -/
lemma enterAccepted (h : Recorded s events) (request : Request) (proc : Process)
    (hprogress : request.progress = .pending) (hnone : s.current? request.identity = none) :
    Recorded (s.enterAccepted request proc) events := by
  have hnew : (s.enterAccepted request proc).requests[s.requests.length]? = some request := by
    simp [Controller.enterAccepted, register]
  have hold : ∀ {r : Nat}, r ≠ s.requests.length →
      (s.enterAccepted request proc).requests[r]? = s.requests[r]? := getElem?_concat_of_ne
  have hcur : ∀ identity p, (s.enterAccepted request proc).current? identity = some p →
      s.current? identity = some p ∨ s.processes.length ≤ p := by
    intro identity p hc
    rw [current?_enterAccepted proc hnone] at hc
    split at hc
    · exact .inr (Nat.le_of_eq (Option.some.inj hc))
    · exact .inl hc
  exact {
    settlements := by
      intro r
      rw [h.settlements r]
      by_cases hr : r = s.requests.length
      · rw [hr, settlement_of_some hnew, settlement_eq_nil_of_le (Nat.le_refl _), hprogress]
        rfl
      · rw [settlement, settlement, progress?, progress?, hold hr]
    calls := by
      intro r
      rw [h.calls r]
      by_cases hr : r = s.requests.length
      · rw [hr, callsMade_eq_nil_of_le (Nat.le_refl _), callsMade, hnew]
        simp [Request.called?, hprogress]
      · rw [callsMade, callsMade, hold hr]
        rfl
    follow := h.follow
    unstruck := by
      intro identity p hc
      have := h.unstruck_append [] (by simp) hcur hc
      simpa using this
    struck_lt := by
      intro p e he hs
      have hlt := h.struck_lt he hs
      have hlen : (s.enterAccepted request proc).processes.length = s.processes.length + 1 := by
        simp [Controller.enterAccepted, register]
      omega }

/-- The events by which a request settles: it gets its outcome, and the callback is called. -/
def settling (r : Nat) (request : Request) : List Event :=
  request.progress.settlement r ++ (request.called?.map (Event.delivered r)).toList

lemma settling_cases (r : Nat) (request : Request) (hdone : request.progress ≠ .pending) :
    (request.called? = none ∧ settling r request = request.progress.settlement r) ∨
      ∃ o, request.progress = .resolved o ∧ request.called? = some o ∧
        settling r request = [.resolved r o, .delivered r o] := by
  unfold settling
  cases hp : request.progress with
  | pending => exact absurd hp hdone
  | failed e =>
    have hnone : request.called? = none := by simp [Request.called?, hp]
    exact .inl ⟨hnone, by simp [hnone]⟩
  | resolved o =>
    by_cases hcall : request.callback ∧ o.kind ≠ .superseded
    · have hsome : request.called? = some o := by
        simp only [Request.called?, hp]
        exact if_pos hcall
      exact .inr ⟨o, rfl, hsome, by simp [hsome, Progress.settlement]⟩
    · have hnone : request.called? = none := by
        simp only [Request.called?, hp]
        exact if_neg hcall
      exact .inl ⟨hnone, by simp [hnone]⟩

lemma filter_settles_settling (q r : Nat) (request : Request)
    (hdone : request.progress ≠ .pending) :
    (settling r request).filter (·.settles q) =
      if r = q then request.progress.settlement r else [] := by
  by_cases hq : r = q
  · subst hq
    obtain ⟨-, heq⟩ | ⟨o, ho, -, heq⟩ := settling_cases r request hdone
    · rw [heq]
      cases request.progress <;> simp [Progress.settlement, Event.settles]
    · rw [heq, ho]
      simp [Progress.settlement, Event.settles]
  · obtain ⟨-, heq⟩ | ⟨o, ho, -, heq⟩ := settling_cases r request hdone
    · rw [heq]
      cases request.progress <;> simp [Progress.settlement, Event.settles, hq]
    · rw [heq]
      simp [Event.settles, hq]

lemma filter_calls_settling (q r : Nat) (request : Request)
    (hdone : request.progress ≠ .pending) :
    (settling r request).filter (·.calls q) =
      if r = q then (request.called?.map (Event.delivered r)).toList else [] := by
  obtain ⟨hnone, heq⟩ | ⟨o, -, hsome, heq⟩ := settling_cases r request hdone
  · rw [heq, hnone]
    cases request.progress <;> simp [Progress.settlement, Event.calls]
  · rw [heq, hsome]
    by_cases hq : r = q <;> simp [Event.calls, hq]

/-- No process is struck while a request settles. -/
lemma strikes_of_mem_settling {r : Nat} {request : Request} (hdone : request.progress ≠ .pending)
    {e : Event} (he : e ∈ settling r request) (p : Nat) : e.strikes p = false := by
  obtain ⟨-, heq⟩ | ⟨o, -, -, heq⟩ := settling_cases r request hdone
  · rw [heq] at he
    cases hprogress : request.progress with
    | pending => exact absurd hprogress hdone
    | resolved o =>
      rw [hprogress] at he
      obtain rfl := List.mem_singleton.mp he
      rfl
    | failed e' =>
      rw [hprogress] at he
      obtain rfl := List.mem_singleton.mp he
      rfl
  · rw [heq] at he
    obtain rfl | rfl := by simpa using he
    all_goals rfl

/-- A pending request settles together with its process. -/
lemma settle (h : Recorded s events) {calling : List Nat} (hl : Linked s calling) {p : Nat}
    {proc : Process} {request : Request} {doc : Document} (hs : s.Serves p proc request doc)
    (hopen : proc.settled = false) (capture : Capture) {progress : Progress}
    (hdone : progress ≠ .pending) :
    Recorded (s.settle p proc.request capture progress)
      (events ++ settling proc.request { request with progress }) := by
  have hpending : request.progress = .pending := hs.unsettled_iff.mp hopen
  have hnew : (s.settle p proc.request capture progress).requests[proc.request]? =
      some { request with progress } :=
    Linked.requests_settle.mpr ⟨request, hs.has_request, if_pos rfl⟩
  have hold : ∀ {r : Nat}, proc.request ≠ r →
      (s.settle p proc.request capture progress).requests[r]? = s.requests[r]? := by
    intro r hr
    simp [Controller.settle, updateRequest, updateProcess, List.getElem?_modify_ne _ _ hr]
  have hundelivered : proc.request ∉ s.undelivered := hl.not_undelivered hs.has_request hs.back
  have hstrike : ∀ e ∈ settling proc.request { request with progress }, ∀ p,
      e.strikes p = false := fun _ => strikes_of_mem_settling hdone
  exact {
    settlements := by
      intro r
      rw [List.filter_append, h.settlements r, filter_settles_settling r _ _ hdone]
      by_cases hr : proc.request = r
      · subst hr
        rw [settlement_of_some hs.has_request, settlement_of_some hnew, hpending, if_pos rfl]
        rfl
      · rw [if_neg hr, List.append_nil, settlement, settlement, progress?, progress?, hold hr]
    calls := by
      intro r
      rw [List.filter_append, h.calls r, filter_calls_settling r _ _ hdone]
      by_cases hr : proc.request = r
      · subst hr
        have hnone : request.called? = none := by simp [Request.called?, hpending]
        rw [callsMade_of_some hs.has_request hundelivered, callsMade_of_some hnew hundelivered,
          hnone, if_pos rfl]
        rfl
      · rw [if_neg hr, List.append_nil, callsMade, callsMade, hold hr]
        rfl
    follow := by
      obtain ⟨-, heq⟩ | ⟨o, -, -, heq⟩ :=
        settling_cases proc.request { request with progress } hdone
      · rw [heq]
        refine h.follow.append_of_no_calls ?_
        cases progress <;> simp [Progress.settlement, Event.calls]
      · rw [heq]
        refine h.follow.append fun pre r o' post hsplit => ?_
        rcases pre with _ | ⟨e, _ | ⟨e', rest⟩⟩
        · simp at hsplit
        · simp only [List.cons_append, List.nil_append, List.cons.injEq, Event.delivered.injEq]
            at hsplit
          obtain ⟨rfl, ⟨rfl, rfl⟩, -⟩ := hsplit
          simp
        · simp at hsplit
    unstruck := h.unstruck_append _ hstrike fun _ _ hc => .inl hc
    struck_lt := h.struck_lt_append hstrike (by simp [Controller.settle, updateRequest,
      updateProcess]) }

/-- The callback of a request whose start failed is called. -/
lemma deliver (h : Recorded s events) {calling : List Nat} (hl : Linked s calling) {r : Nat}
    (hr : r ∈ s.undelivered) {o : Outcome} (ho : s.progress? r = some (.resolved o)) :
    Recorded { s with undelivered := s.undelivered.erase r } (events ++ [.delivered r o]) := by
  obtain ⟨request, hreq, hproc, hcb⟩ := hl.undelivered hr
  have hprogress : request.progress = .resolved o := by
    simpa [progress?, hreq] using ho
  have hkind : o.kind ≠ .superseded := by
    obtain ⟨t, ht⟩ := hl.refused hreq hproc
    obtain rfl := Progress.resolved.inj (hprogress.symm.trans ht)
    simp [Outcome.kind]
  have hcalled : request.called? = some o := by
    simp [Request.called?, hprogress, hcb, hkind]
  exact {
    settlements := by
      intro q
      rw [filter_append_of_quiet events (by simp [Event.settles]), h.settlements q]
      rfl
    calls := by
      intro q
      rw [List.filter_append, h.calls q]
      by_cases hq : r = q
      · subst hq
        have hgone : r ∉ s.undelivered.erase r := by
          rw [hl.distinct.mem_erase_iff]
          simp
        simp [callsMade, hr, hgone, hreq, hcalled, Event.calls]
      · have hmem : q ∈ s.undelivered.erase r ↔ q ∈ s.undelivered :=
          List.mem_erase_of_ne (Ne.symm hq)
        simp [callsMade, hmem, Event.calls, hq]
    follow := by
      refine h.follow.append fun pre q o' post hsplit => ?_
      have hmem : Event.resolved r o ∈ events.filter (·.settles r) := by
        rw [h.settlements r, settlement_of_some hreq, hprogress]
        simp [Progress.settlement]
      rcases pre with _ | ⟨e, rest⟩
      · simp only [List.nil_append, List.cons.injEq, Event.delivered.injEq] at hsplit
        obtain ⟨⟨rfl, rfl⟩, -⟩ := hsplit
        simpa using (List.mem_filter.mp hmem).1
      · simp at hsplit
    unstruck := h.unstruck_append _ (by simp [Event.strikes]) fun _ _ hc => .inl hc
    struck_lt := h.struck_lt_append (by simp [Event.strikes]) (Nat.le_refl _) }

end Recorded
end GradleLint
