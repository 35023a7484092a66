import GradleLint.Proofs.Controller.Completion
import GradleLint.Proofs.Controller.Untouched

/-!
# A controller that knows one identity only

`Controller.Mirrors identity s t` says that `t` holds of `s` what belongs to the identity, and
nothing else: the document, request or process with number `k` in `t` is the `k`-th of those that
belong to the identity in `s`.  They name each other by their numbers in `t`, and outcomes that
name a process name it by its pid in `t`; all else is the same.

A change of what belongs to the identity, made on both sides, keeps this, and there is one lemma
for each kind of change; a change elsewhere keeps it too (`Mirrors.of_untouched`).
-/

namespace GradleLint

/-! ## Being the same but for numbers -/

/-- Two outcomes are the same, except that where the one names the pid `old` the other names the
pid `new`; a request without a process has a failure that names none. -/
inductive Outcome.Alike (old new : Option Int) : Outcome → Outcome → Prop where
  | noIssues : Alike old new .noIssues .noIssues
  | issues (records : List Record) (diagnostics : List Diagnostic) :
    Alike old new (.issues records diagnostics) (.issues records diagnostics)
  | superseded : Alike old new (.superseded old) (.superseded new)
  | failed (args : List Text) (status : Int) (output : Text) :
    Alike old new (.toolError (describeFailure ⟨old, args, status⟩ output))
      (.toolError (describeFailure ⟨new, args, status⟩ output))
  | unstarted (description : Text) (hold : old = none) (hnew : new = none) :
    Alike old new (.toolError description) (.toolError description)

/-- Two requests stand at the same point. -/
inductive Progress.Alike (old new : Option Int) : Progress → Progress → Prop where
  | pending : Alike old new .pending .pending
  | resolved {o o' : Outcome} (h : o.Alike old new o') : Alike old new (.resolved o) (.resolved o')
  | failed (e : SystemError) : Alike old new (.failed e) (.failed e)

/-- A process with other numbers for its document and its request. -/
def Process.renumber (proc : Process) (document request : Nat) : Process :=
  { proc with document, request }

/-- Two requests are the same, except that their processes are numbered differently: the process
numbered `k` of the second is the `k`-th of the given ones. -/
structure Request.Alike (processes : List Nat) (request request' : Request) : Prop where
  identity : request'.identity = request.identity
  grammar : request'.grammar = request.grammar
  callback : request'.callback = request.callback
  process : Option.Rel (fun p k => processes[k]? = some p) request.process request'.process
  progress : request.progress.Alike request.pid? request'.pid? request'.progress

/-- Alike requests of one process are of one process. -/
lemma Request.Alike.process_eq {processes : List Nat} (hnodup : processes.Nodup)
    {request request' : Request} (h : request.Alike processes request') {k p : Nat}
    (hp : request.process = some p) (hk : processes[k]? = some p) :
    request'.process = some k := by
  have hrel := h.process
  rw [hp] at hrel
  generalize request'.process = other at hrel
  cases hrel with
  | some hj => rw [index_unique hnodup hj hk]

lemma Outcome.Alike.kind {old new : Option Int} {o o' : Outcome} (h : o.Alike old new o') :
    o'.kind = o.kind := by
  cases h <;> rfl

/-- The numbers of the processes may go on. -/
lemma Request.Alike.of_isPrefix {processes more : List Nat} {request request' : Request}
    (h : request.Alike processes request') (hmore : processes <+: more) :
    request.Alike more request' :=
  { h with
    process := by
      obtain ⟨rest, rfl⟩ := hmore
      have hrel := h.process
      generalize request.process = p at hrel ⊢
      generalize request'.process = p' at hrel ⊢
      cases hrel with
      | none => exact .none
      | some hk => exact .some (getElem?_append_of_some hk) }

/-- The outcome of a process depends on what the process is numbered through its pid only. -/
lemma Controller.outcomeOf_alike {proc proc' : Process} (hargs : proc'.args = proc.args)
    (p k : Nat) {request request' : Request} (hgrammar : request'.grammar = request.grammar)
    (doc : Document) (status : Int) (output : Text) (current : Bool) :
    (outcomeOf proc (pidOf p) request doc status output current).Alike (some (pidOf p))
      (some (pidOf k)) (outcomeOf proc' (pidOf k) request' doc status output current) := by
  unfold outcomeOf classify
  rw [hargs, hgrammar]
  cases current with
  | false => exact .superseded
  | true =>
    by_cases h0 : status = 0
    · simpa [h0, Outcome.anchor] using Outcome.Alike.noIssues
    · by_cases h1 : status = 1
      · simpa [h1, Outcome.anchor] using Outcome.Alike.issues _ _
      · simpa [h0, h1, Outcome.anchor] using Outcome.Alike.failed proc.args status output

/-! ## Being the same for one identity -/

namespace Controller

/-- A state that holds of another one what belongs to an identity. -/
structure Mirrors (identity : Text) (s t : Controller) : Prop where
  document : ∀ {k d : Nat}, (s.documentsOf identity)[k]? = some d →
    t.documents[k]? = s.documents[d]?
  process_count : t.processes.length = (s.processesOf identity).length
  process : ∀ {k p : Nat} {proc : Process}, (s.processesOf identity)[k]? = some p →
    s.processes[p]? = some proc → ∃ d r, (s.documentsOf identity)[d]? = some proc.document ∧
      (s.requestsOf identity)[r]? = some proc.request ∧
      t.processes[k]? = some (proc.renumber d r)
  request_count : t.requests.length = (s.requestsOf identity).length
  request : ∀ {k r : Nat} {request : Request}, (s.requestsOf identity)[k]? = some r →
    s.requests[r]? = some request → ∃ request', t.requests[k]? = some request' ∧
      request.Alike (s.processesOf identity) request'
  current : s.current? identity =
    (t.current? identity).bind fun k => (s.processesOf identity)[k]?
  undelivered : ∀ {k r : Nat}, (s.requestsOf identity)[k]? = some r →
    (k ∈ t.undelivered ↔ r ∈ s.undelivered)

namespace Mirrors

variable {s s' t : Controller} {identity : Text}

/-- What happens elsewhere does not show in the mirror. -/
lemma of_untouched (h : Mirrors identity s t) (hu : Untouched identity s s') :
    Mirrors identity s' t where
  document hk := by
    rw [hu.documents] at hk
    rw [h.document hk, hu.document _ (List.mem_of_getElem? hk)]
  process_count := by rw [h.process_count, hu.processes]
  process hk hp := by
    rw [hu.processes] at hk
    rw [hu.process _ (List.mem_of_getElem? hk)] at hp
    rw [hu.documents, hu.requests]
    exact h.process hk hp
  request_count := by rw [h.request_count, hu.requests]
  request hk hr := by
    rw [hu.requests] at hk
    rw [hu.request _ (List.mem_of_getElem? hk)] at hr
    rw [hu.processes]
    exact h.request hk hr
  current := by rw [hu.current, h.current, hu.processes]
  undelivered hk := by
    rw [hu.requests] at hk
    rw [h.undelivered hk, hu.undelivered _ (List.mem_of_getElem? hk)]

/-- A process is current on both sides or on neither. -/
lemma current_iff (h : Mirrors identity s t) {k p : Nat}
    (hk : (s.processesOf identity)[k]? = some p) :
    t.current? identity = some k ↔ s.current? identity = some p := by
  rw [h.current]
  constructor
  · intro hc
    rw [hc, Option.bind_some, hk]
  · intro hc
    obtain ⟨j, hj, hjp⟩ := Option.bind_eq_some_iff.mp hc
    rw [hj, index_unique List.nodup_idxsOf hk hjp]

/-- All processes of a mirror belong to the identity. -/
lemma mem_processesOf (h : Mirrors identity s t) {k : Nat} (hk : k < t.processes.length) :
    k ∈ t.processesOf identity := by
  rw [h.process_count] at hk
  have hp := List.getElem?_eq_getElem hk
  obtain ⟨proc, doc, hproc, hdoc, hid⟩ := exists_of_mem_processesOf (List.getElem_mem hk)
  obtain ⟨d, r, hd, -, hproc'⟩ := h.process hp hproc
  have hdoc' : t.documents[d]? = some doc := (h.document hd).trans hdoc
  exact (Controller.mem_processesOf hproc' hdoc').mpr hid

/-- All requests of a mirror are for the identity. -/
lemma mem_requestsOf (h : Mirrors identity s t) {k : Nat} (hk : k < t.requests.length) :
    k ∈ t.requestsOf identity := by
  rw [h.request_count] at hk
  have hr := List.getElem?_eq_getElem hk
  obtain ⟨request, hrequest, hid⟩ := exists_of_mem_requestsOf (List.getElem_mem hk)
  obtain ⟨request', hrequest', halike⟩ := h.request hr hrequest
  exact (Controller.mem_requestsOf hrequest').mpr (halike.identity.trans hid)

/-! ## Changes on both sides -/

lemma deregister (h : Mirrors identity s t) :
    Mirrors identity (s.deregister identity) (t.deregister identity) :=
  { h with current := by simp }

lemma updateDocument (h : Mirrors identity s t) {k d : Nat} {f : Document → Document}
    (hk : (s.documentsOf identity)[k]? = some d) (hf : ∀ doc, (f doc).identity = doc.identity) :
    Mirrors identity (s.updateDocument d f) (t.updateDocument k f) := by
  have hdocuments := documentsOf_updateDocument hf s d identity
  have hprocesses := processesOf_updateDocument hf s d identity
  exact {
    document := by
      intro j e hj
      rw [hdocuments] at hj
      show (t.documents.modify k f)[j]? = (s.documents.modify d f)[e]?
      rw [List.getElem?_modify, List.getElem?_modify, h.document hj]
      simp only [index_eq_iff List.nodup_idxsOf hk hj]
    process_count := by
      rw [hprocesses]
      exact h.process_count
    process := by
      intro j p proc hj hp
      rw [hprocesses] at hj
      rw [hdocuments]
      exact h.process hj hp
    request_count := h.request_count
    request := by
      intro j r request hj hr
      rw [hprocesses]
      exact h.request hj hr
    current := by
      rw [hprocesses]
      exact h.current
    undelivered := h.undelivered }

/-- A process changes on both sides in a way that has nothing to do with numbers. -/
lemma updateProcess (h : Mirrors identity s t) {k p : Nat} {f : Process → Process}
    (hk : (s.processesOf identity)[k]? = some p)
    (hf : ∀ proc d r, f (proc.renumber d r) = (f proc).renumber d r) :
    Mirrors identity (s.updateProcess p f) (t.updateProcess k f) := by
  have hdocument : ∀ proc, (f proc).document = proc.document := fun proc => by
    have hsame := congrArg Process.document (hf proc proc.document proc.request)
    exact hsame
  have hrequest : ∀ proc, (f proc).request = proc.request := fun proc => by
    have hsame := congrArg Process.request (hf proc proc.document proc.request)
    exact hsame
  have hprocesses := processesOf_updateProcess hdocument s p identity
  exact {
    document := h.document
    process_count := by
      rw [hprocesses]
      exact (List.length_modify ..).trans h.process_count
    process := by
      intro j q proc hj hq
      rw [hprocesses] at hj
      obtain ⟨old, hold, rfl⟩ := Linked.processes_updateProcess.mp hq
      obtain ⟨d, r, hd, hr, ht⟩ := h.process hj hold
      by_cases hpq : p = q
      · have hkj : k = j := (index_eq_iff List.nodup_idxsOf hk hj).mpr hpq
        rw [if_pos hpq, hdocument, hrequest]
        exact ⟨d, r, hd, hr,
          Linked.processes_updateProcess.mpr ⟨_, ht, (if_pos hkj).trans (hf old d r)⟩⟩
      · have hkj : k ≠ j := fun heq => hpq ((index_eq_iff List.nodup_idxsOf hk hj).mp heq)
        rw [if_neg hpq]
        exact ⟨d, r, hd, hr, Linked.processes_updateProcess.mpr ⟨_, ht, if_neg hkj⟩⟩
    request_count := h.request_count
    request := by
      intro j r request hj hr
      rw [hprocesses]
      exact h.request hj hr
    current := by
      rw [hprocesses]
      exact h.current
    undelivered := h.undelivered }

/-- A request changes on both sides and stays alike. -/
lemma updateRequest (h : Mirrors identity s t) {k r : Nat} {f g : Request → Request}
    (hk : (s.requestsOf identity)[k]? = some r)
    (hf : ∀ request, (f request).identity = request.identity)
    (halike : ∀ request request', s.requests[r]? = some request →
      request.Alike (s.processesOf identity) request' →
      (f request).Alike (s.processesOf identity) (g request')) :
    Mirrors identity (s.updateRequest r f) (t.updateRequest k g) := by
  have hrequests := requestsOf_updateRequest hf s r identity
  have hmodify : ∀ (c : Controller) (i j : Nat) (f : Request → Request),
      (c.updateRequest i f).requests[j]? =
        (fun request => if i = j then f request else request) <$> c.requests[j]? :=
    fun c i j f => List.getElem?_modify ..
  exact {
    document := h.document
    process_count := h.process_count
    process := by
      intro j p proc hj hp
      rw [hrequests]
      exact h.process hj hp
    request_count := by
      rw [hrequests]
      exact (List.length_modify ..).trans h.request_count
    request := by
      intro j q request hj hq
      rw [hrequests] at hj
      rw [hmodify] at hq
      obtain ⟨old, hold, rfl⟩ := Option.map_eq_some_iff.mp hq
      obtain ⟨old', ht, hsame⟩ := h.request hj hold
      by_cases hrq : r = q
      · subst hrq
        have hkj : k = j := index_unique List.nodup_idxsOf hk hj
        rw [if_pos rfl, hmodify, ht]
        exact ⟨_, congrArg some (if_pos hkj), halike old old' hold hsame⟩
      · have hkj : k ≠ j := fun heq => hrq ((index_eq_iff List.nodup_idxsOf hk hj).mp heq)
        rw [if_neg hrq, hmodify, ht]
        exact ⟨_, congrArg some (if_neg hkj), hsame⟩
    current := h.current
    undelivered := by
      intro j q hj
      rw [hrequests] at hj
      exact h.undelivered hj }

/-! ### New requests -/

lemma lt_of_mem_requestsOf {r : Nat} (h : r ∈ s.requestsOf identity) : r < s.requests.length := by
  obtain ⟨request, hr, -⟩ := exists_of_mem_requestsOf h
  exact (List.getElem?_eq_some_iff.mp hr).1

/-- A new request on both sides. -/
lemma request_concat (h : Mirrors identity s t) {processes : List Nat}
    (hmore : s.processesOf identity <+: processes) {new new' : Request}
    (hnew : new.Alike processes new') {k r : Nat} {request : Request}
    (hk : (s.requestsOf identity ++ [s.requests.length])[k]? = some r)
    (hr : (s.requests ++ [new])[r]? = some request) :
    ∃ request', (t.requests ++ [new'])[k]? = some request' ∧
      request.Alike processes request' := by
  obtain hk | ⟨rfl, rfl⟩ := getElem?_concat.mp hk
  · have hlt := lt_of_mem_requestsOf (List.mem_of_getElem? hk)
    obtain hr | ⟨rfl, -⟩ := getElem?_concat.mp hr
    · obtain ⟨request', ht, halike⟩ := h.request hk hr
      exact ⟨request', getElem?_concat_of_some ht, halike.of_isPrefix hmore⟩
    · exact absurd hlt (Nat.lt_irrefl _)
  · obtain rfl : new = request := by simpa using hr
    exact ⟨new', getElem?_concat.mpr (.inr ⟨h.request_count.symm, rfl⟩), hnew⟩

/-- The numbers of the requests and processes that there are do not change when there are more. -/
lemma process_concat (h : Mirrors identity s t) (r : Nat) {k p : Nat} {proc : Process}
    (hk : (s.processesOf identity)[k]? = some p) (hp : s.processes[p]? = some proc) :
    ∃ d q, (s.documentsOf identity)[d]? = some proc.document ∧
      (s.requestsOf identity ++ [r])[q]? = some proc.request ∧
      t.processes[k]? = some (proc.renumber d q) := by
  obtain ⟨d, q, hd, hq, ht⟩ := h.process hk hp
  exact ⟨d, q, hd, getElem?_concat_of_some hq, ht⟩

lemma enterRefused (h : Mirrors identity s t) {sc tc : List Nat} (hs : Linked s sc)
    (ht : Linked t tc) {request : Request} (hid : request.identity = identity)
    (hprocess : request.process = none)
    (hprogress : ∃ description, request.progress = .resolved (.toolError description)) :
    Mirrors identity (s.enterRefused request) (t.enterRefused request) := by
  have hrequests : (s.enterRefused request).requestsOf identity =
      s.requestsOf identity ++ [s.requests.length] := by
    rw [requestsOf_concat rfl, if_pos hid]
  have hpid : request.pid? = none := by simp [Request.pid?, hprocess]
  have halike : request.Alike (s.processesOf identity) request := by
    obtain ⟨description, hdescription⟩ := hprogress
    refine ⟨rfl, rfl, rfl, ?_, ?_⟩
    · rw [hprocess]
      exact .none
    · rw [hdescription]
      exact .resolved (.unstarted description hpid hpid)
  exact {
    document := h.document
    process_count := h.process_count
    process := by
      intro k p proc hk hp
      rw [hrequests]
      exact h.process_concat _ hk hp
    request_count := by
      rw [hrequests]
      simp [Controller.enterRefused, h.request_count]
    request := by
      intro k r old hk hr
      rw [hrequests] at hk
      exact h.request_concat List.prefix_rfl halike hk hr
    current := h.current
    undelivered := by
      intro k r hk
      rw [hrequests] at hk
      obtain hk | ⟨rfl, rfl⟩ := getElem?_concat.mp hk
      · have hr := lt_of_mem_requestsOf (List.mem_of_getElem? hk)
        have hk' := (List.getElem?_eq_some_iff.mp hk).1
        rw [← h.request_count] at hk'
        by_cases hcb : request.callback = true
        · simp [Controller.enterRefused, hcb, Nat.ne_of_lt hr, Nat.ne_of_lt hk', h.undelivered hk]
        · simp [Controller.enterRefused, hcb, h.undelivered hk]
      · rw [← h.request_count]
        by_cases hcb : request.callback = true
        · simp [Controller.enterRefused, hcb]
        · simp [Controller.enterRefused, hcb, hs.not_undelivered_new, ht.not_undelivered_new] }

lemma enterAccepted (h : Mirrors identity s t) {sc tc : List Nat} (hls : Linked s sc)
    (hlt : Linked t tc) {o : Order} {d : Nat} {doc : Document}
    (hd : (s.documentsOf identity)[d]? = some o.document)
    (hdoc : s.documents[o.document]? = some doc) (hid : doc.identity = identity)
    (hs : s.current? identity = none) (ht : t.current? identity = none) (g : Grammar)
    (l : Launch) :
    Mirrors identity
      (s.enterAccepted (s.acceptedRequest o identity g) (s.acceptedProcess o l))
      (t.enterAccepted (t.acceptedRequest { o with document := d } identity g)
        (t.acceptedProcess { o with document := d } l)) := by
  have hrequests : (s.enterAccepted (s.acceptedRequest o identity g)
      (s.acceptedProcess o l)).requestsOf identity =
        s.requestsOf identity ++ [s.requests.length] := by
    rw [requestsOf_concat rfl]
    exact congrArg _ (if_pos rfl)
  have hprocesses : (s.enterAccepted (s.acceptedRequest o identity g)
      (s.acceptedProcess o l)).processesOf identity =
        s.processesOf identity ++ [s.processes.length] := by
    rw [processesOf_enterAccepted _ hdoc, if_pos hid]
  have hnew : (s.processesOf identity ++ [s.processes.length])[t.processes.length]? =
      some s.processes.length := getElem?_concat.mpr (.inr ⟨h.process_count, rfl⟩)
  exact {
    document := h.document
    process_count := by
      rw [hprocesses]
      simp [Controller.enterAccepted, register, h.process_count]
    process := by
      intro k p proc hk hp
      rw [hprocesses] at hk
      rw [hrequests]
      obtain hk | ⟨rfl, rfl⟩ := getElem?_concat.mp hk
      · have hlt : p < s.processes.length := by
          obtain ⟨old, -, hold, -⟩ := exists_of_mem_processesOf (List.mem_of_getElem? hk)
          exact (List.getElem?_eq_some_iff.mp hold).1
        obtain hp | ⟨rfl, -⟩ := getElem?_concat.mp hp
        · obtain ⟨e, q, he, hq, hproc⟩ := h.process_concat s.requests.length hk hp
          exact ⟨e, q, he, hq, getElem?_concat_of_some hproc⟩
        · exact absurd hlt (Nat.lt_irrefl _)
      · obtain rfl : s.acceptedProcess o l = proc := by
          simpa [Controller.enterAccepted, register] using hp
        refine ⟨d, t.requests.length, hd, ?_, ?_⟩
        · exact getElem?_concat.mpr (.inr ⟨h.request_count, rfl⟩)
        · exact getElem?_concat.mpr (.inr ⟨h.process_count.symm, rfl⟩)
    request_count := by
      rw [hrequests]
      simp [Controller.enterAccepted, register, h.request_count]
    request := by
      intro k r old hk hr
      rw [hrequests] at hk
      rw [hprocesses]
      refine h.request_concat (List.prefix_append _ _) ?_ hk hr
      exact ⟨rfl, rfl, rfl, .some hnew, .pending⟩
    current := by
      rw [hprocesses, current?_enterAccepted _ hs, current?_enterAccepted _ ht]
      simp [acceptedRequest, hnew]
    undelivered := by
      intro k r hk
      rw [hrequests] at hk
      obtain hk | ⟨rfl, rfl⟩ := getElem?_concat.mp hk
      · exact h.undelivered hk
      · rw [← h.request_count]
        exact iff_of_false hlt.not_undelivered_new hls.not_undelivered_new }

/-! ### Callbacks and settlements -/

lemma deliver (h : Mirrors identity s t) {sc tc : List Nat} (hs : Linked s sc) (ht : Linked t tc)
    {k r : Nat} (hk : (s.requestsOf identity)[k]? = some r) :
    Mirrors identity { s with undelivered := s.undelivered.erase r }
      { t with undelivered := t.undelivered.erase k } :=
  { h with
    undelivered := by
      intro j q hj
      show j ∈ t.undelivered.erase k ↔ q ∈ s.undelivered.erase r
      rw [hs.distinct.mem_erase_iff, ht.distinct.mem_erase_iff, h.undelivered hj, ne_eq, ne_eq,
        index_eq_iff List.nodup_idxsOf hj hk] }

/-- What serves what is the same on both sides. -/
lemma serves (h : Mirrors identity s t) {tc : List Nat} (ht : Linked t tc) {k p : Nat}
    (hk : (s.processesOf identity)[k]? = some p) {proc : Process} {request : Request}
    {doc : Document} (hs : s.Serves p proc request doc) :
    ∃ d r request', (s.requestsOf identity)[r]? = some proc.request ∧
      t.Serves k (proc.renumber d r) request' doc ∧
      request.Alike (s.processesOf identity) request' := by
  obtain ⟨d, r, hd, hr, hproc⟩ := h.process hk hs.has_process
  obtain ⟨request', ht', halike⟩ := h.request hr hs.has_request
  obtain ⟨request'', doc', hserves⟩ := ht.served hproc
  have hdoc : t.documents[d]? = some doc := (h.document hd).trans hs.has_document
  obtain rfl : doc = doc' := Option.some.inj (hdoc.symm.trans hserves.has_document)
  obtain rfl := hserves.request_eq ht'
  exact ⟨d, r, request'', hr, hserves, halike⟩

/-- A process and its request settle on both sides. -/
lemma settle (h : Mirrors identity s t) {k p r q : Nat}
    (hk : (s.processesOf identity)[k]? = some p) (hr : (s.requestsOf identity)[r]? = some q)
    (capture : Capture) {progress progress' : Progress}
    (halike : ∀ request request', s.requests[q]? = some request →
      request.Alike (s.processesOf identity) request' →
      progress.Alike request.pid? request'.pid? progress') :
    Mirrors identity (s.settle p q capture progress) (t.settle k r capture progress') := by
  have hprocess := h.updateProcess (f := fun proc => { proc with capture, settled := true }) hk
    fun _ _ _ => rfl
  have hprocesses := processesOf_updateProcess
    (f := fun proc => { proc with capture, settled := true }) (fun _ => rfl) s p identity
  refine hprocess.updateRequest (f := fun request => { request with progress })
    (g := fun request => { request with progress := progress' }) hr (fun _ => rfl) ?_
  intro request request' hrequest hsame
  rw [hprocesses] at hsame ⊢
  exact { hsame with progress := halike request request' hrequest hsame }

lemma withdraw (h : Mirrors identity s t) {k p : Nat}
    (hk : (s.processesOf identity)[k]? = some p) :
    Mirrors identity (s.withdraw p identity) (t.withdraw k identity) := by
  unfold Controller.withdraw
  by_cases hc : s.current? identity = some p
  · rw [if_pos hc, if_pos ((h.current_iff hk).mpr hc)]
    exact h.deregister
  · rw [if_neg hc, if_neg (fun ht => hc ((h.current_iff hk).mp ht))]
    exact h

end Mirrors
end Controller
end GradleLint
