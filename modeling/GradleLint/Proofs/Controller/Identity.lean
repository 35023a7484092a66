import GradleLint.Proofs.Controller.Supersession
import Mathlib.Data.List.Basic

/-!
# What belongs to an identity

A document belongs to its identity, a process to the identity of its document, and a request to
the identity it was made for.  `documentsOf`, `requestsOf` and `processesOf` list the numbers of
what belongs to an identity, in order, and `Run.about` lists the events that concern it.

As a run goes on these lists grow at the end and nowhere else (`Grows`), with numbers that no
earlier event has mentioned.
-/

namespace GradleLint

lemma mem_idxsOf_iff {α : Type} [BEq α] [LawfulBEq α] {l : List α} {a : α} {i : Nat} :
    i ∈ l.idxsOf a ↔ l[i]? = some a := by
  rw [List.mem_idxsOf_iff_exists_getElem_pos, List.getElem?_eq_some_iff]
  simp only [beq_iff_eq]

/-- A list that grows at the end has the old positions, and new ones behind its old length. -/
lemma idxsOf_of_isPrefix {α : Type} [BEq α] [LawfulBEq α] {l l' : List α} (h : l <+: l') (a : α) :
    l.idxsOf a <+: l'.idxsOf a ∧ ∀ i ∈ l'.idxsOf a, i ∉ l.idxsOf a → l.length ≤ i := by
  obtain ⟨rest, rfl⟩ := h
  rw [List.idxsOf_append, Nat.zero_add]
  refine ⟨List.prefix_append _ _, fun i hi hnot => ?_⟩
  obtain hi | hi := List.mem_append.mp hi
  · exact absurd hi hnot
  · exact List.ge_of_mem_idxsOf i hi

lemma getElem?_append_of_some {α : Type} {l more : List α} {a : α} {i : Nat}
    (h : l[i]? = some a) : (l ++ more)[i]? = some a := by
  rw [List.getElem?_append_left (List.getElem?_eq_some_iff.mp h).1, h]

lemma getElem?_of_isPrefix {α : Type} {l l' : List α} (h : l <+: l') {a : α} {i : Nat}
    (hi : l[i]? = some a) : l'[i]? = some a := by
  obtain ⟨rest, rfl⟩ := h
  exact getElem?_append_of_some hi

lemma getElem?_of_idxOf? {l : List Nat} {a i : Nat} (h : l.idxOf? a = some i) :
    l[i]? = some a := by
  obtain ⟨hi, ha, -⟩ := List.idxOf?_eq_some_iff.mp h
  rw [List.getElem?_eq_getElem hi, ha]

/-- In a list without duplicates an item has one index. -/
lemma index_unique {α : Type} {l : List α} (hl : l.Nodup) {a : α} {j k : Nat}
    (hj : l[j]? = some a) (hk : l[k]? = some a) : j = k :=
  (List.getElem?_inj (List.getElem?_eq_some_iff.mp hj).1 hl).mp (hj.trans hk.symm)

lemma index_eq_iff {α : Type} {l : List α} (hl : l.Nodup) {a b : α} {j k : Nat}
    (hj : l[j]? = some a) (hk : l[k]? = some b) : j = k ↔ a = b := by
  constructor
  · rintro rfl
    exact Option.some.inj (hj.symm.trans hk)
  · rintro rfl
    exact index_unique hl hj hk

/-- A change of one item that does not show does not show in the list. -/
lemma map_modify_of_eq {α β : Type} {g : α → β} {f : α → α} (h : ∀ a, g (f a) = g a)
    (l : List α) (i : Nat) : (l.modify i f).map g = l.map g := by
  rw [map_modify (k := id) h, List.modify_id]

/-- No callback is due for a request that is still to come. -/
lemma Linked.not_undelivered_new {s : Controller} {calling : List Nat} (h : Linked s calling) :
    s.requests.length ∉ s.undelivered := by
  intro hmem
  obtain ⟨request, hr, -⟩ := h.undelivered hmem
  exact absurd (List.getElem?_eq_some_iff.mp hr).1 (Nat.lt_irrefl _)

namespace Controller

variable {s s' : Controller} {identity : Text}

/-! ## Numbers -/

def documentIdentities (s : Controller) : List Text := s.documents.map (·.identity)

def requestIdentities (s : Controller) : List Text := s.requests.map (·.identity)

/-- The identities of the documents that the processes were started for. -/
def processIdentities (s : Controller) : List (Option Text) :=
  s.processes.map fun proc => s.documentIdentities[proc.document]?

/-- The numbers of the documents of an identity. -/
def documentsOf (s : Controller) (identity : Text) : List Nat :=
  s.documentIdentities.idxsOf identity

/-- The numbers of the requests for an identity. -/
def requestsOf (s : Controller) (identity : Text) : List Nat :=
  s.requestIdentities.idxsOf identity

/-- The numbers of the processes for an identity. -/
def processesOf (s : Controller) (identity : Text) : List Nat :=
  s.processIdentities.idxsOf (some identity)

lemma mem_documentsOf {d : Nat} {doc : Document} (hd : s.documents[d]? = some doc) :
    d ∈ s.documentsOf identity ↔ doc.identity = identity := by
  rw [documentsOf, mem_idxsOf_iff, documentIdentities, List.getElem?_map, hd]
  simp

lemma exists_of_mem_documentsOf {d : Nat} (h : d ∈ s.documentsOf identity) :
    ∃ doc, s.documents[d]? = some doc ∧ doc.identity = identity := by
  rwa [documentsOf, mem_idxsOf_iff, documentIdentities, List.getElem?_map,
    Option.map_eq_some_iff] at h

lemma mem_requestsOf {r : Nat} {request : Request} (hr : s.requests[r]? = some request) :
    r ∈ s.requestsOf identity ↔ request.identity = identity := by
  rw [requestsOf, mem_idxsOf_iff, requestIdentities, List.getElem?_map, hr]
  simp

lemma exists_of_mem_requestsOf {r : Nat} (h : r ∈ s.requestsOf identity) :
    ∃ request, s.requests[r]? = some request ∧ request.identity = identity := by
  rwa [requestsOf, mem_idxsOf_iff, requestIdentities, List.getElem?_map,
    Option.map_eq_some_iff] at h

lemma mem_processesOf {p : Nat} {proc : Process} {doc : Document}
    (hp : s.processes[p]? = some proc) (hd : s.documents[proc.document]? = some doc) :
    p ∈ s.processesOf identity ↔ doc.identity = identity := by
  rw [processesOf, mem_idxsOf_iff, processIdentities, List.getElem?_map, hp]
  simp [documentIdentities, hd]

lemma exists_of_mem_processesOf {p : Nat} (h : p ∈ s.processesOf identity) :
    ∃ proc doc, s.processes[p]? = some proc ∧ s.documents[proc.document]? = some doc ∧
      doc.identity = identity := by
  simp only [processesOf, mem_idxsOf_iff, processIdentities, documentIdentities,
    List.getElem?_map, Option.map_eq_some_iff] at h
  obtain ⟨proc, hp, doc, hd, hid⟩ := h
  exact ⟨proc, doc, hp, hd, hid⟩

section Serves

variable {p : Nat} {proc : Process} {request : Request} {doc : Document}

lemma Serves.mem_processesOf (hs : s.Serves p proc request doc) :
    p ∈ s.processesOf identity ↔ doc.identity = identity :=
  Controller.mem_processesOf hs.has_process hs.has_document

lemma Serves.mem_requestsOf (hs : s.Serves p proc request doc) :
    proc.request ∈ s.requestsOf identity ↔ doc.identity = identity := by
  rw [Controller.mem_requestsOf hs.has_request, hs.identity]

end Serves

/-! ### Changes of the state -/

lemma idxsOf_concat {α : Type} [BEq α] [LawfulBEq α] [DecidableEq α] (l : List α) (a b : α) :
    (l ++ [b]).idxsOf a = l.idxsOf a ++ if b = a then [l.length] else [] := by
  rw [List.idxsOf_append, List.idxsOf_cons, List.idxsOf_nil, Nat.zero_add]
  simp only [beq_iff_eq]

lemma documentIdentities_updateDocument {f : Document → Document}
    (hf : ∀ doc, (f doc).identity = doc.identity) (s : Controller) (d : Nat) :
    (s.updateDocument d f).documentIdentities = s.documentIdentities :=
  map_modify_of_eq (g := Document.identity) hf s.documents d

lemma documentsOf_updateDocument {f : Document → Document}
    (hf : ∀ doc, (f doc).identity = doc.identity) (s : Controller) (d : Nat) (identity : Text) :
    (s.updateDocument d f).documentsOf identity = s.documentsOf identity := by
  rw [documentsOf, documentIdentities_updateDocument hf, documentsOf]

lemma processesOf_updateDocument {f : Document → Document}
    (hf : ∀ doc, (f doc).identity = doc.identity) (s : Controller) (d : Nat) (identity : Text) :
    (s.updateDocument d f).processesOf identity = s.processesOf identity := by
  rw [processesOf, processIdentities, documentIdentities_updateDocument hf]
  rfl

lemma processesOf_updateProcess {f : Process → Process}
    (hf : ∀ proc, (f proc).document = proc.document) (s : Controller) (p : Nat)
    (identity : Text) :
    (s.updateProcess p f).processesOf identity = s.processesOf identity := by
  have hidentities : (s.updateProcess p f).processIdentities = s.processIdentities :=
    map_modify_of_eq (fun proc => by rw [hf]) s.processes p
  rw [processesOf, hidentities, processesOf]

lemma requestsOf_updateRequest {f : Request → Request}
    (hf : ∀ request, (f request).identity = request.identity) (s : Controller) (r : Nat)
    (identity : Text) :
    (s.updateRequest r f).requestsOf identity = s.requestsOf identity := by
  have hidentities : (s.updateRequest r f).requestIdentities = s.requestIdentities :=
    map_modify_of_eq (g := Request.identity) hf s.requests r
  rw [requestsOf, hidentities, requestsOf]

lemma requestsOf_concat {request : Request} (hs : s'.requests = s.requests ++ [request]) :
    s'.requestsOf identity =
      s.requestsOf identity ++ if request.identity = identity then [s.requests.length] else [] := by
  rw [requestsOf, requestIdentities, hs, List.map_append, List.map_singleton, idxsOf_concat,
    List.length_map]
  rfl

lemma processesOf_enterAccepted (request : Request) {proc : Process} {doc : Document}
    (hd : s.documents[proc.document]? = some doc) :
    (s.enterAccepted request proc).processesOf identity =
      s.processesOf identity ++ if doc.identity = identity then [s.processes.length] else [] := by
  have happ : (s.enterAccepted request proc).processIdentities =
      s.processIdentities ++ [some doc.identity] := by
    simp [Controller.enterAccepted, register, processIdentities, documentIdentities, hd]
  rw [processesOf, happ, idxsOf_concat, processIdentities, List.length_map]
  simp only [Option.some.injEq]
  rfl

@[simp] lemma processesOf_withdraw (s : Controller) (p : Nat) (other : Text) :
    (s.withdraw p other).processesOf identity = s.processesOf identity := by
  unfold withdraw
  split <;> rfl

@[simp] lemma requestsOf_withdraw (s : Controller) (p : Nat) (other : Text) :
    (s.withdraw p other).requestsOf identity = s.requestsOf identity := by
  unfold withdraw
  split <;> rfl

@[simp] lemma processesOf_release (s : Controller) (p : Nat) :
    (s.release p).processesOf identity = s.processesOf identity :=
  processesOf_updateProcess (f := fun proc => { proc with capture := .released })
    (fun _ => rfl) s p identity

@[simp] lemma processesOf_settle (s : Controller) (p r : Nat) (capture : Capture)
    (progress : Progress) :
    (s.settle p r capture progress).processesOf identity = s.processesOf identity := by
  rw [settle]
  exact processesOf_updateProcess (f := fun proc => { proc with capture, settled := true })
    (fun _ => rfl) s p identity

@[simp] lemma requestsOf_settle (s : Controller) (p r : Nat) (capture : Capture)
    (progress : Progress) :
    (s.settle p r capture progress).requestsOf identity = s.requestsOf identity := by
  rw [settle]
  exact requestsOf_updateRequest (f := fun request => { request with progress }) (fun _ => rfl)
    (s.updateProcess p fun proc => { proc with capture, settled := true }) r identity

end Controller

/-- The pid of the process of a request. -/
def Request.pid? (request : Request) : Option Int :=
  request.process.map fun p => (Controller.pidOf p : Int)

def Controller.pid? (s : Controller) (r : Nat) : Option Int := (s.requests[r]?).bind Request.pid?

lemma Controller.pid?_settle {s : Controller} {p r : Nat} {request : Request}
    (hr : s.requests[r]? = some request) (hback : request.process = some p) (q : Nat)
    (capture : Capture) (progress : Progress) :
    (s.settle q r capture progress).pid? r = some (Controller.pidOf p : Int) := by
  have hsettled : (s.settle q r capture progress).requests[r]? = some { request with progress } :=
    Linked.requests_settle.mpr ⟨request, hr, if_pos rfl⟩
  simp [Controller.pid?, Request.pid?, hsettled, hback]

/-! ## Events -/

/-- Whether an event concerns an identity: it strikes one of its processes, or it settles one of
its requests or calls the callback of one. -/
def Event.concerns (s : Controller) (identity : Text) (e : Event) : Bool :=
  (s.processesOf identity).any (e.strikes ·) ||
    (s.requestsOf identity).any fun r => e.settles r || e.calls r

/-- The events that concern an identity. -/
def Run.about (x : Run) (identity : Text) : List Event :=
  x.events.filter (·.concerns x.controller identity)

namespace Event

variable {s : Controller} {identity : Text} {e : Event}

lemma concerns_eq_false_iff :
    e.concerns s identity = false ↔ (∀ p ∈ s.processesOf identity, e.strikes p = false) ∧
      ∀ r ∈ s.requestsOf identity, e.settles r = false ∧ e.calls r = false := by
  simp [concerns]

lemma IsRemark.concerns (h : e.IsRemark) : e.concerns s identity = false :=
  concerns_eq_false_iff.mpr ⟨fun p _ => h.2 p, fun r _ => h.1 r⟩

/-- An event that settles a request or calls its callback concerns whom the request is for. -/
lemma concerns_of_mentions {r : Nat} (hstrikes : ∀ p, e.strikes p = false)
    (hmentions : ∀ q, (e.settles q || e.calls q) = (r == q)) :
    e.concerns s identity = decide (r ∈ s.requestsOf identity) := by
  have hnone : (s.processesOf identity).any (e.strikes ·) = false := by simp [hstrikes]
  simp only [concerns, hnone, hmentions, Bool.false_or]
  rw [Bool.eq_iff_iff, List.any_eq_true, decide_eq_true_iff]
  constructor
  · rintro ⟨q, hq, heq⟩
    rwa [beq_iff_eq.mp heq]
  · exact fun hr => ⟨r, hr, beq_self_eq_true r⟩

@[simp] lemma concerns_resolved (r : Nat) (o : Outcome) :
    (Event.resolved r o).concerns s identity = decide (r ∈ s.requestsOf identity) :=
  concerns_of_mentions (fun _ => rfl) fun q => Bool.or_false (r == q)

@[simp] lemma concerns_failed (r : Nat) (failure : SystemError) :
    (Event.failed r failure).concerns s identity = decide (r ∈ s.requestsOf identity) :=
  concerns_of_mentions (fun _ => rfl) fun q => Bool.or_false (r == q)

@[simp] lemma concerns_delivered (r : Nat) (o : Outcome) :
    (Event.delivered r o).concerns s identity = decide (r ∈ s.requestsOf identity) :=
  concerns_of_mentions (fun _ => rfl) fun q => Bool.false_or (r == q)

/-- The events by which a request settles concern whom it is for. -/
lemma concerns_of_mem_settling {r : Nat} {request : Request}
    (he : e ∈ Recorded.settling r request) :
    e.concerns s identity = decide (r ∈ s.requestsOf identity) := by
  rw [Recorded.settling, List.mem_append] at he
  obtain he | he := he
  · cases hp : request.progress with
    | pending => simp [hp, Progress.settlement] at he
    | resolved o =>
      obtain rfl : e = .resolved r o := by simpa [hp, Progress.settlement] using he
      exact concerns_resolved r o
    | failed failure =>
      obtain rfl : e = .failed r failure := by simpa [hp, Progress.settlement] using he
      exact concerns_failed r failure
  · obtain ⟨o, -, rfl⟩ : ∃ o, request.called? = some o ∧ Event.delivered r o = e := by
      simpa using he
    exact concerns_delivered r o

/-! ### Events of one kind -/

lemma filter_concerns_of_remarks {events : List Event} (h : ∀ e ∈ events, e.IsRemark) :
    events.filter (·.concerns s identity) = [] := by
  rw [List.filter_eq_nil_iff]
  intro e he
  simp [(h e he).concerns]

lemma filter_concerns_append_remarks (events : List Event) {more : List Event}
    (h : ∀ e ∈ more, e.IsRemark) :
    (events ++ more).filter (·.concerns s identity) = events.filter (·.concerns s identity) :=
  Recorded.filter_append_of_quiet events fun e he => (h e he).concerns

lemma filter_concerns_refused {r : Nat} (hr : r ∈ s.requestsOf identity)
    (events : List Event) (l : Option Launch) (other reason : Text) (o : Outcome) :
    (events ++ (l.map Event.launched).toList ++
        [Event.logged (.startFailed other reason), .resolved r o]).filter
          (·.concerns s identity) =
      events.filter (·.concerns s identity) ++ [.resolved r o] := by
  have hremark : (Event.logged (.startFailed other reason)).concerns s identity = false :=
    (isRemark_logged (by simp)).concerns
  rw [List.filter_append,
    filter_concerns_append_remarks events fun e => isRemark_of_launched]
  simp [hremark, hr]

/-- All that settles a request concerns its identity. -/
lemma filter_concerns_settling {r : Nat} (hr : r ∈ s.requestsOf identity)
    (request : Request) {more : List Event} (hmore : ∀ e ∈ more, e.IsRemark) :
    (Recorded.settling r request ++ more).filter (·.concerns s identity) =
      Recorded.settling r request := by
  rw [filter_concerns_append_remarks _ hmore, List.filter_eq_self]
  intro e he
  rw [Event.concerns_of_mem_settling he, decide_eq_true hr]

open Controller in
/-- Of a displacement the log entry and the kill concern the identity of the process. -/
lemma filter_concerns_displaceEvents {p : Nat} (hp : p ∈ s.processesOf identity)
    (proc : Process) (other : Text) :
    (displaceEvents p proc other).filter (·.concerns s identity) =
      .logged (.superseding (pidOf p) other) ::
        if proc.ended.isSome then [] else [.killed (pidOf p)] := by
  have hstrikes : ∀ e : Event, e.strikes p = true → e.concerns s identity = true := by
    intro e he
    have hany : (s.processesOf identity).any (e.strikes ·) = true :=
      List.any_eq_true.mpr ⟨p, hp, he⟩
    rw [concerns, hany, Bool.true_or]
  have hsuperseding := hstrikes (.logged (.superseding (pidOf p) other)) (beq_self_eq_true _)
  have hkilled := hstrikes (.killed (pidOf p)) (beq_self_eq_true _)
  have hkillFailed : ∀ e, (logged (.killFailed (pidOf p) e)).concerns s identity = false :=
    fun e => (isRemark_logged (by simp)).concerns
  unfold displaceEvents killProcess
  by_cases hended : proc.ended.isSome = true
  · simp [hended, hsuperseding]
  · cases proc.kill <;> simp [hended, hsuperseding, hkilled, hkillFailed]

end Event

/-! ## Growth -/

namespace Controller

/-- What belongs to an identity stays as it is numbered, and new numbers come at the end. -/
structure Grows (identity : Text) (s s' : Controller) : Prop where
  documents : s'.documentsOf identity = s.documentsOf identity
  processes : s.processesOf identity <+: s'.processesOf identity
  requests : s.requestsOf identity <+: s'.requestsOf identity
  new_process : ∀ p ∈ s'.processesOf identity, p ∉ s.processesOf identity →
    s.processes.length ≤ p
  new_request : ∀ r ∈ s'.requestsOf identity, r ∉ s.requestsOf identity → s.requests.length ≤ r
  pid : ∀ r < s.requests.length, s'.pid? r = s.pid? r

lemma Grows.refl (identity : Text) (s : Controller) : s.Grows identity s where
  documents := rfl
  processes := List.prefix_rfl
  requests := List.prefix_rfl
  new_process _ hp hnot := absurd hp hnot
  new_request _ hr hnot := absurd hr hnot
  pid _ _ := rfl

end Controller

namespace Run

open Controller

variable {x : Run} {identity : Text}

lemma documentIdentities_step (h : x.Sound) (m : Move) :
    (x.step m).controller.documentIdentities = x.controller.documentIdentities := by
  rw [documentIdentities, documents_step h m]
  cases m with
  | update d content =>
    exact map_modify_of_eq (g := Document.identity) (f := (·.update content)) (fun _ => rfl)
      x.controller.documents d
  | rename d path =>
    exact map_modify_of_eq (g := Document.identity) (f := fun doc => { doc with path })
      (fun _ => rfl) x.controller.documents d
  | _ => rfl

lemma processIdentities_step (h : x.Sound) (m : Move) :
    x.controller.processIdentities <+: (x.step m).controller.processIdentities := by
  rw [List.prefix_iff_getElem?]
  intro p hp
  have hlt : p < x.controller.processes.length := by simpa [processIdentities] using hp
  obtain ⟨capture, ended, settled, hnext, -⟩ :=
    (extends_step h m).process (List.getElem?_eq_getElem hlt)
  simp [processIdentities, documentIdentities_step h m, hnext]

lemma requestIdentities_step (h : x.Sound) (m : Move) :
    x.controller.requestIdentities <+: (x.step m).controller.requestIdentities := by
  rw [List.prefix_iff_getElem?]
  intro r hr
  have hlt : r < x.controller.requests.length := by simpa [requestIdentities] using hr
  obtain ⟨progress, hnext, -⟩ := (extends_step h m).request (List.getElem?_eq_getElem hlt)
  simp [requestIdentities, hnext]

lemma grows_step (h : x.Sound) (m : Move) (identity : Text) :
    x.controller.Grows identity (x.step m).controller := by
  obtain ⟨hprocesses, hprocess⟩ := idxsOf_of_isPrefix (processIdentities_step h m) (some identity)
  obtain ⟨hrequests, hrequest⟩ := idxsOf_of_isPrefix (requestIdentities_step h m) identity
  rw [show x.controller.processIdentities.length = _ from List.length_map _] at hprocess
  rw [show x.controller.requestIdentities.length = _ from List.length_map _] at hrequest
  refine ⟨?_, hprocesses, hrequests, hprocess, hrequest, fun r hr => ?_⟩
  · rw [documentsOf, documentsOf, documentIdentities_step h m]
  · obtain ⟨progress, hnext, -⟩ := (extends_step h m).request (List.getElem?_eq_getElem hr)
    simp [Controller.pid?, Request.pid?, hnext, List.getElem?_eq_getElem hr]

/-- No event has mentioned a request that is still to come. -/
lemma lt_of_mentions (h : x.Sound) {e : Event} (he : e ∈ x.events) {r : Nat}
    (hr : e.settles r = true ∨ e.calls r = true) : r < x.controller.requests.length := by
  by_contra hle
  have hnew : x.controller.requests.length ≤ r := Nat.le_of_not_lt hle
  obtain hr | hr := hr
  · have hmem := List.mem_filter.mpr ⟨he, hr⟩
    rw [h.recorded.settlements r, Recorded.settlement_eq_nil_of_le hnew] at hmem
    exact List.not_mem_nil hmem
  · have hmem := List.mem_filter.mpr ⟨he, hr⟩
    rw [h.recorded.calls r, Recorded.callsMade_eq_nil_of_le hnew] at hmem
    exact List.not_mem_nil hmem

/-- Whom an event concerns does not depend on when it is asked. -/
lemma concerns_of_grows (h : x.Sound) {s' : Controller} (hg : x.controller.Grows identity s')
    {e : Event} (he : e ∈ x.events) :
    e.concerns s' identity = e.concerns x.controller identity := by
  rw [Bool.eq_iff_iff, ← Bool.not_eq_false, ← Bool.not_eq_false, not_iff_not,
    Event.concerns_eq_false_iff, Event.concerns_eq_false_iff]
  constructor
  · rintro ⟨hstrikes, hmentions⟩
    exact ⟨fun p hp => hstrikes p (hg.processes.subset hp),
      fun r hr => hmentions r (hg.requests.subset hr)⟩
  · rintro ⟨hstrikes, hmentions⟩
    refine ⟨fun p hp => ?_, fun r hr => ?_⟩
    · by_cases hold : p ∈ x.controller.processesOf identity
      · exact hstrikes p hold
      · rw [Bool.eq_false_iff]
        intro hs
        exact absurd (h.recorded.struck_lt he hs) (Nat.not_lt.mpr (hg.new_process p hp hold))
    · by_cases hold : r ∈ x.controller.requestsOf identity
      · exact hmentions r hold
      · have hnew := hg.new_request r hr hold
        refine ⟨?_, ?_⟩ <;> rw [Bool.eq_false_iff] <;> intro hr
        · exact absurd (lt_of_mentions h he (.inl hr)) (Nat.not_lt.mpr hnew)
        · exact absurd (lt_of_mentions h he (.inr hr)) (Nat.not_lt.mpr hnew)

end Run
end GradleLint
