import GradleLint.Proofs.Controller.Run

/-!
# How processes and requests belong together

`Linked` is what holds between the parts of a controller at every moment of a run: a process and
its request name each other and are of one identity; a process is unsettled exactly as long as
its request is pending; the registry names unsettled processes only, each under its own identity.
`calling` are the processes whose callbacks are running; only they may be settled and still hold
their output.

A move is made of few changes of the state: an entry leaves the registry, a request is refused,
a process is accepted, a document is edited, a process ends, is settled, or drops its output.
There is one lemma for each of them.
-/

namespace GradleLint

/-! ## Lists that grow at the end or change in one place -/

lemma getElem?_concat_of_ne {α : Type} {l : List α} {a : α} {i : Nat} (h : i ≠ l.length) :
    (l ++ [a])[i]? = l[i]? := by
  by_cases hlt : i < l.length
  · exact List.getElem?_append_left hlt
  · have hlen : (l ++ [a]).length ≤ i := by
      rw [List.length_append, List.length_singleton]
      omega
    rw [List.getElem?_eq_none hlen, List.getElem?_eq_none (Nat.le_of_not_lt hlt)]

lemma getElem?_concat {α : Type} {l : List α} {a b : α} {i : Nat} :
    (l ++ [a])[i]? = some b ↔ l[i]? = some b ∨ i = l.length ∧ a = b := by
  by_cases hi : i = l.length
  · simp [hi]
  · simp [getElem?_concat_of_ne hi, hi]

lemma getElem?_concat_of_some {α : Type} {l : List α} {a b : α} {i : Nat} (h : l[i]? = some b) :
    (l ++ [a])[i]? = some b := getElem?_concat.mpr (.inl h)

lemma map_modify {α β : Type} {g : α → β} {f : α → α} {k : β → β} (h : ∀ a, g (f a) = k (g a))
    (l : List α) (i : Nat) : (l.modify i f).map g = (l.map g).modify i k := by
  apply List.ext_getElem?
  intro j
  rw [List.getElem?_map, List.getElem?_modify, List.getElem?_modify, List.getElem?_map]
  cases l[j]? with
  | none => rfl
  | some a =>
    by_cases hij : i = j
    · simp [hij, h]
    · simp [hij]

/-! ## The parts and how they belong together -/

/-- Process `p` serves a request for a document: process and request name each other, are of the
identity of the document, and are open or closed together. -/
structure Controller.Serves (s : Controller) (p : Nat) (proc : Process) (request : Request)
    (doc : Document) : Prop where
  has_process : s.processes[p]? = some proc
  has_request : s.requests[proc.request]? = some request
  has_document : s.documents[proc.document]? = some doc
  back : request.process = some p
  identity : doc.identity = request.identity
  unsettled_iff : proc.settled = false ↔ request.progress = .pending

namespace Controller.Serves

variable {s : Controller} {p : Nat} {proc proc' : Process} {request request' : Request}
  {doc doc' : Document}

lemma process_eq (hs : s.Serves p proc request doc) (hp : s.processes[p]? = some proc') :
    proc = proc' := Option.some.inj (hs.has_process.symm.trans hp)

lemma request_eq (hs : s.Serves p proc request doc)
    (hr : s.requests[proc.request]? = some request') : request = request' :=
  Option.some.inj (hs.has_request.symm.trans hr)

/-- A process serves one request for one document. -/
lemma unique (hs : s.Serves p proc request doc) (hs' : s.Serves p proc' request' doc') :
    proc = proc' ∧ request = request' ∧ doc = doc' := by
  obtain rfl := hs.process_eq hs'.has_process
  exact ⟨rfl, hs.request_eq hs'.has_request,
    Option.some.inj (hs.has_document.symm.trans hs'.has_document)⟩

end Controller.Serves

/-- The parts of a controller belong together. -/
structure Linked (s : Controller) (calling : List Nat) : Prop where
  keys : s.KeysDistinct
  current : ∀ {identity : Text} {p : Nat}, s.current? identity = some p →
    ∃ proc request doc, s.Serves p proc request doc ∧ proc.settled = false ∧
      doc.identity = identity
  served : ∀ {p : Nat} {proc : Process}, s.processes[p]? = some proc →
    ∃ request doc, s.Serves p proc request doc
  owned : ∀ {r p : Nat} {request : Request}, s.requests[r]? = some request →
    request.process = some p → ∃ proc, s.processes[p]? = some proc ∧ proc.request = r
  refused : ∀ {r : Nat} {request : Request}, s.requests[r]? = some request →
    request.process = none → ∃ t, request.progress = .resolved (.toolError t)
  fresh : ∀ {p : Nat} {proc : Process}, s.processes[p]? = some proc → proc.settled = false →
    proc.capture = .empty
  released : ∀ {p : Nat} {proc : Process}, s.processes[p]? = some proc → proc.settled = true →
    p ∉ calling → proc.capture = .released
  calling : ∀ {p : Nat}, p ∈ calling →
    ∃ proc : Process, s.processes[p]? = some proc ∧ proc.settled = true
  undelivered : ∀ {r : Nat}, r ∈ s.undelivered → ∃ request : Request,
    s.requests[r]? = some request ∧ request.process = none ∧ request.callback = true
  distinct : s.undelivered.Nodup

namespace Controller

/-- Settles a process and its request. -/
def settle (s : Controller) (p r : Nat) (capture : Capture) (progress : Progress) : Controller :=
  (s.updateProcess p fun proc => { proc with capture, settled := true }).updateRequest r
    fun request => { request with progress }

/-- Enters a request for which no process was started. -/
def enterRefused (s : Controller) (request : Request) : Controller :=
  { s with
    requests := s.requests ++ [request]
    undelivered := if request.callback then s.undelivered ++ [s.requests.length]
      else s.undelivered }

/-- Enters a request together with its process. -/
def enterAccepted (s : Controller) (request : Request) (proc : Process) : Controller :=
  { s with requests := s.requests ++ [request], processes := s.processes ++ [proc] }.register
    request.identity s.processes.length

lemma current?_enterAccepted {s : Controller} {request : Request} (proc : Process)
    (h : s.current? request.identity = none) (identity : Text) :
    (s.enterAccepted request proc).current? identity =
      if identity = request.identity then some s.processes.length else s.current? identity :=
  current?_register _ request.identity identity s.processes.length h

end Controller

/-! ## What each change keeps -/

namespace Linked

open Controller

variable {s : Controller} {calling : List Nat}

lemma begin (documents : List Document) : Linked { documents } [] where
  keys := by simp [KeysDistinct]
  current h := by simp [current?] at h
  served h := by simp at h
  owned h := by simp at h
  refused h := by simp at h
  fresh h := by simp at h
  released h := by simp at h
  calling h := by simp at h
  undelivered h := by simp at h
  distinct := List.nodup_nil

/-- Two processes that serve the same request are the same. -/
lemma serves_inj {p q : Nat} {proc proc' : Process} {request request' : Request}
    {doc doc' : Document} (hp : s.Serves p proc request doc) (hq : s.Serves q proc' request' doc')
    (h : proc.request = proc'.request) : p = q := by
  have hr : some request = some request' := by rw [← hp.has_request, ← hq.has_request, h]
  have hback : some p = some q := by rw [← hp.back, ← hq.back, Option.some.inj hr]
  exact Option.some.inj hback

/-- The callback of a request with a process is never left to be called later. -/
lemma not_undelivered (h : Linked s calling) {r p : Nat} {request : Request}
    (hr : s.requests[r]? = some request) (hp : request.process = some p) :
    r ∉ s.undelivered := by
  intro hmem
  obtain ⟨request', hr', hnone, -⟩ := h.undelivered hmem
  obtain rfl := Option.some.inj (hr.symm.trans hr')
  exact absurd (hp.symm.trans hnone) (by simp)

/-- A process is current for one identity at most. -/
lemma current_inj (h : Linked s calling) {identity other : Text} {p : Nat}
    (hi : s.current? identity = some p) (ho : s.current? other = some p) : identity = other := by
  obtain ⟨proc, request, doc, hs, -, rfl⟩ := h.current hi
  obtain ⟨proc', request', doc', hs', -, rfl⟩ := h.current ho
  obtain ⟨-, -, rfl⟩ := hs.unique hs'
  rfl

/-- An entry leaves the registry. -/
lemma deregister (h : Linked s calling) (identity : Text) :
    Linked (s.deregister identity) calling where
  keys := h.keys.deregister identity
  current hc := by
    obtain ⟨hc, -⟩ := current?_deregister_eq_some.mp hc
    obtain ⟨proc, request, doc, hs, hopen⟩ := h.current hc
    exact ⟨proc, request, doc, { hs with }, hopen⟩
  served hp := by
    obtain ⟨request, doc, hs⟩ := h.served hp
    exact ⟨request, doc, { hs with }⟩
  owned := h.owned
  refused := h.refused
  fresh := h.fresh
  released := h.released
  calling := h.calling
  undelivered := h.undelivered
  distinct := h.distinct

/-- A process is current for no identity if it is not for the one of its document. -/
lemma current?_ne_of_serves (h : Linked s calling) {p : Nat} {proc : Process} {request : Request}
    {doc : Document} (hs : s.Serves p proc request doc) (hc : s.current? doc.identity ≠ some p)
    (other : Text) : s.current? other ≠ some p := by
  intro ho
  obtain ⟨proc', request', doc', hs', -, hid⟩ := h.current ho
  obtain ⟨-, -, rfl⟩ := hs.unique hs'
  exact hc (hid ▸ ho)

/-- A settled process is current for no identity. -/
lemma current?_ne_of_settled (h : Linked s calling) {p : Nat} {proc : Process}
    (hp : s.processes[p]? = some proc) (hsettled : proc.settled = true) (identity : Text) :
    s.current? identity ≠ some p := by
  intro hc
  obtain ⟨proc', request, doc, hs, hopen, -⟩ := h.current hc
  obtain rfl := hs.process_eq hp
  exact absurd (hopen.symm.trans hsettled) (by simp)

/-- The callback of an unsettled process is not running. -/
lemma not_calling_of_unsettled (h : Linked s calling) {p : Nat} {proc : Process}
    (hp : s.processes[p]? = some proc) (hopen : proc.settled = false) : p ∉ calling := by
  intro hmem
  obtain ⟨proc', hp', hsettled⟩ := h.calling hmem
  obtain rfl := Option.some.inj (hp.symm.trans hp')
  exact absurd (hopen.symm.trans hsettled) (by simp)

/-- Editing a document in a way that keeps its identity keeps what serves what. -/
lemma serves_updateDocument {d p : Nat} {f : Document → Document}
    (hf : ∀ doc, (f doc).identity = doc.identity) {proc : Process} {request : Request}
    {doc : Document} (hs : s.Serves p proc request doc) :
    ∃ doc', (s.updateDocument d f).Serves p proc request doc' ∧ doc'.identity = doc.identity := by
  by_cases hd : d = proc.document
  · refine ⟨f doc, { hs with has_document := ?_, identity := (hf doc).trans hs.identity }, hf doc⟩
    simp [updateDocument, hd, hs.has_document]
  · refine ⟨doc, { hs with has_document := ?_ }, rfl⟩
    simp [updateDocument, List.getElem?_modify_ne _ _ hd, hs.has_document]

/-- A document is edited and keeps its identity. -/
lemma updateDocument (h : Linked s calling) (d : Nat) {f : Document → Document}
    (hf : ∀ doc, (f doc).identity = doc.identity) : Linked (s.updateDocument d f) calling where
  keys := h.keys
  current hc := by
    obtain ⟨proc, request, doc, hs, hopen, hid⟩ := h.current hc
    obtain ⟨doc', hs', hid'⟩ := serves_updateDocument hf hs
    exact ⟨proc, request, doc', hs', hopen, hid'.trans hid⟩
  served hp := by
    obtain ⟨request, doc, hs⟩ := h.served hp
    obtain ⟨doc', hs', -⟩ := serves_updateDocument hf hs
    exact ⟨request, doc', hs'⟩
  owned := h.owned
  refused := h.refused
  fresh := h.fresh
  released := h.released
  calling := h.calling
  undelivered := h.undelivered
  distinct := h.distinct

/-! ### Processes that end or drop their output -/

lemma processes_updateProcess {p q : Nat} {f : Process → Process} {proc' : Process} :
    (s.updateProcess p f).processes[q]? = some proc' ↔
      ∃ proc, s.processes[q]? = some proc ∧ (if p = q then f proc else proc) = proc' := by
  simp [Controller.updateProcess, List.getElem?_modify]

/-- Changing no more of a process than its output and its end keeps what serves what. -/
lemma serves_updateProcess {p q : Nat} {f : Process → Process}
    (hf : ∀ proc, (f proc).document = proc.document ∧ (f proc).request = proc.request ∧
      (f proc).settled = proc.settled)
    {proc : Process} {request : Request} {doc : Document} (hs : s.Serves q proc request doc) :
    ∃ proc', (s.updateProcess p f).Serves q proc' request doc ∧
      proc'.settled = proc.settled := by
  obtain ⟨hdoc, hreq, hset⟩ := hf proc
  by_cases hpq : p = q
  · refine ⟨f proc, ⟨?_, ?_, ?_, hs.back, hs.identity, ?_⟩, hset⟩
    · exact processes_updateProcess.mpr ⟨proc, hs.has_process, if_pos hpq⟩
    · exact hreq ▸ hs.has_request
    · exact hdoc ▸ hs.has_document
    · exact hset ▸ hs.unsettled_iff
  · refine ⟨proc, { hs with has_process := ?_ }, rfl⟩
    exact processes_updateProcess.mpr ⟨proc, hs.has_process, if_neg hpq⟩

/-- Changing no more of a process than its output and its end keeps the parts together, if an
unsettled process keeps its output and a settled one has none left. -/
lemma updateProcess (h : Linked s calling) {calling' : List Nat} {p : Nat} {f : Process → Process}
    (hf : ∀ proc, (f proc).document = proc.document ∧ (f proc).request = proc.request ∧
      (f proc).settled = proc.settled)
    (hopen : ∀ proc, s.processes[p]? = some proc → proc.settled = false →
      (f proc).capture = proc.capture)
    (hclosed : ∀ proc, s.processes[p]? = some proc → proc.settled = true → p ∉ calling' →
      (f proc).capture = .released)
    (hsub : ∀ q ∈ calling', q ∈ calling) (hrest : ∀ q ∈ calling, q ≠ p → q ∈ calling') :
    Linked (s.updateProcess p f) calling' where
  keys := h.keys
  current hc := by
    obtain ⟨proc, request, doc, hs, hunsettled, hid⟩ := h.current hc
    obtain ⟨proc', hs', hset⟩ := serves_updateProcess (p := p) hf hs
    exact ⟨proc', request, doc, hs', hset.trans hunsettled, hid⟩
  served hq := by
    obtain ⟨proc, hproc, rfl⟩ := processes_updateProcess.mp hq
    obtain ⟨request, doc, hs⟩ := h.served hproc
    obtain ⟨proc', hs', -⟩ := serves_updateProcess (p := p) hf hs
    rw [hs'.has_process] at hq
    exact ⟨request, doc, Option.some.inj hq ▸ hs'⟩
  owned hr hback := by
    obtain ⟨proc, hproc, hreq⟩ := h.owned hr hback
    refine ⟨_, processes_updateProcess.mpr ⟨proc, hproc, rfl⟩, ?_⟩
    split
    · exact (hf proc).2.1.trans hreq
    · exact hreq
  refused := h.refused
  fresh hq hunsettled := by
    obtain ⟨proc, hproc, rfl⟩ := processes_updateProcess.mp hq
    split at hunsettled
    · rename_i hpq
      subst hpq
      rw [(hf proc).2.2] at hunsettled
      rw [if_pos rfl, hopen proc hproc hunsettled]
      exact h.fresh hproc hunsettled
    · rename_i hpq
      rw [if_neg hpq]
      exact h.fresh hproc hunsettled
  released hq hsettled hcalling := by
    obtain ⟨proc, hproc, rfl⟩ := processes_updateProcess.mp hq
    split at hsettled
    · rename_i hpq
      subst hpq
      rw [(hf proc).2.2] at hsettled
      rw [if_pos rfl]
      exact hclosed proc hproc hsettled hcalling
    · rename_i hpq
      rw [if_neg hpq]
      exact h.released hproc hsettled fun hmem => hcalling (hrest _ hmem (Ne.symm hpq))
  calling hq := by
    obtain ⟨proc, hproc, hset⟩ := h.calling (hsub _ hq)
    refine ⟨_, processes_updateProcess.mpr ⟨proc, hproc, rfl⟩, ?_⟩
    split
    · exact (hf proc).2.2.trans hset
    · exact hset
  undelivered := h.undelivered
  distinct := h.distinct

/-- A process ends. -/
lemma finish (h : Linked s calling) (p : Nat) (status : Int) (output : Text) :
    Linked (s.finish p status output) calling := by
  refine h.updateProcess (fun _ => ⟨rfl, rfl, rfl⟩) (fun _ _ _ => rfl) ?_ (fun _ hq => hq)
    (fun _ hq _ => hq)
  intro proc hproc hsettled hcalling
  have hcapture : proc.capture = .released := h.released hproc hsettled hcalling
  exact hcapture

/-- A settled process drops its output. -/
lemma release (h : Linked s calling) {p : Nat} (hp : p ∈ calling) {calling' : List Nat}
    (hsub : ∀ q ∈ calling', q ∈ calling) (hrest : ∀ q ∈ calling, q ≠ p → q ∈ calling') :
    Linked (s.release p) calling' := by
  refine h.updateProcess (fun _ => ⟨rfl, rfl, rfl⟩) ?_ (fun _ _ _ _ => rfl) hsub hrest
  intro proc hproc hunsettled
  obtain ⟨proc', hproc', hsettled⟩ := h.calling hp
  rw [hproc] at hproc'
  rw [Option.some.inj hproc', hsettled] at hunsettled
  exact absurd hunsettled (by simp)

/-! ### New requests -/

/-- A request is refused. -/
lemma enterRefused (h : Linked s calling) {request : Request} (hproc : request.process = none)
    (hprogress : ∃ t, request.progress = .resolved (.toolError t)) :
    Linked (s.enterRefused request) calling where
  keys := h.keys
  current hc := by
    obtain ⟨proc, request', doc, hs, hopen, hid⟩ := h.current hc
    exact ⟨proc, request', doc,
      { hs with has_request := getElem?_concat_of_some hs.has_request }, hopen, hid⟩
  served hp := by
    obtain ⟨request', doc, hs⟩ := h.served hp
    exact ⟨request', doc, { hs with has_request := getElem?_concat_of_some hs.has_request }⟩
  owned hr hback := by
    obtain hr | ⟨-, rfl⟩ := getElem?_concat.mp hr
    · exact h.owned hr hback
    · exact absurd (hproc.symm.trans hback) (by simp)
  refused hr hnone := by
    obtain hr | ⟨-, rfl⟩ := getElem?_concat.mp hr
    · exact h.refused hr hnone
    · exact hprogress
  fresh := h.fresh
  released := h.released
  calling := h.calling
  undelivered hr := by
    have hold : ∀ r ∈ s.undelivered, ∃ request' : Request,
        (s.requests ++ [request])[r]? = some request' ∧ request'.process = none ∧
          request'.callback = true := by
      intro r hr
      obtain ⟨request', hr', hnone, hcb⟩ := h.undelivered hr
      exact ⟨request', getElem?_concat_of_some hr', hnone, hcb⟩
    by_cases hcb : request.callback = true
    · simp only [Controller.enterRefused, if_pos hcb, List.mem_append, List.mem_singleton] at hr
      obtain hr | rfl := hr
      · exact hold _ hr
      · exact ⟨request, by simp [Controller.enterRefused], hproc, hcb⟩
    · simp only [Controller.enterRefused, if_neg hcb] at hr
      exact hold _ hr
  distinct := by
    by_cases hcb : request.callback = true
    · simp only [Controller.enterRefused, if_pos hcb]
      rw [List.nodup_append]
      refine ⟨h.distinct, by simp, ?_⟩
      intro r hr q hq heq
      obtain ⟨request', hr', -⟩ := h.undelivered hr
      rw [List.mem_singleton] at hq
      have hlt : r < s.requests.length := (List.getElem?_eq_some_iff.mp hr').1
      omega
    · simp only [Controller.enterRefused, if_neg hcb]
      exact h.distinct

/-- A request is accepted and its process started, for an identity that has none. -/
lemma enterAccepted (h : Linked s calling) {request : Request} {proc : Process} {doc : Document}
    (hnone : s.current? request.identity = none)
    (hback : request.process = some s.processes.length) (hprogress : request.progress = .pending)
    (hreq : proc.request = s.requests.length) (hdoc : s.documents[proc.document]? = some doc)
    (hid : doc.identity = request.identity) (hopen : proc.settled = false)
    (hfresh : proc.capture = .empty) : Linked (s.enterAccepted request proc) calling := by
  have hnew : (s.enterAccepted request proc).Serves s.processes.length proc request doc :=
    { has_process := by simp [Controller.enterAccepted, register]
      has_request := by simp [Controller.enterAccepted, register, hreq]
      has_document := hdoc
      back := hback
      identity := hid
      unsettled_iff := by simp [hopen, hprogress] }
  have hkeep : ∀ {p : Nat} {proc' : Process} {request' : Request} {doc' : Document},
      s.Serves p proc' request' doc' →
        (s.enterAccepted request proc).Serves p proc' request' doc' :=
    fun hs => { hs with
      has_process := getElem?_concat_of_some hs.has_process
      has_request := getElem?_concat_of_some hs.has_request }
  exact {
    keys := by
      have hkeys : KeysDistinct { s with requests := s.requests ++ [request],
                                         processes := s.processes ++ [proc] } := h.keys
      exact hkeys.register _ hnone
    current := by
      intro identity p hc
      rw [current?_enterAccepted proc hnone] at hc
      split at hc
      · rename_i heq
        obtain rfl := Option.some.inj hc
        exact ⟨proc, request, doc, hnew, hopen, hid.trans heq.symm⟩
      · obtain ⟨proc', request', doc', hs, hopen', hid'⟩ := h.current hc
        exact ⟨proc', request', doc', hkeep hs, hopen', hid'⟩
    served := by
      intro p proc' hp
      obtain hp | ⟨rfl, rfl⟩ := getElem?_concat.mp hp
      · obtain ⟨request', doc', hs⟩ := h.served hp
        exact ⟨request', doc', hkeep hs⟩
      · exact ⟨request, doc, hnew⟩
    owned := by
      intro r p request' hr hback'
      obtain hr | ⟨rfl, rfl⟩ := getElem?_concat.mp hr
      · obtain ⟨proc', hp, hreq'⟩ := h.owned hr hback'
        exact ⟨proc', getElem?_concat_of_some hp, hreq'⟩
      · obtain rfl := Option.some.inj (hback.symm.trans hback')
        exact ⟨proc, hnew.has_process, hreq⟩
    refused := by
      intro r request' hr hnone'
      obtain hr | ⟨-, rfl⟩ := getElem?_concat.mp hr
      · exact h.refused hr hnone'
      · exact absurd (hback.symm.trans hnone') (by simp)
    fresh := by
      intro p proc' hp hopen'
      obtain hp | ⟨-, rfl⟩ := getElem?_concat.mp hp
      · exact h.fresh hp hopen'
      · exact hfresh
    released := by
      intro p proc' hp hsettled hcalling
      obtain hp | ⟨-, rfl⟩ := getElem?_concat.mp hp
      · exact h.released hp hsettled hcalling
      · exact absurd (hopen.symm.trans hsettled) (by simp)
    calling := by
      intro p hp
      obtain ⟨proc', hp', hsettled⟩ := h.calling hp
      exact ⟨proc', getElem?_concat_of_some hp', hsettled⟩
    undelivered := by
      intro r hr
      obtain ⟨request', hr', hnone', hcb⟩ := h.undelivered hr
      exact ⟨request', getElem?_concat_of_some hr', hnone', hcb⟩
    distinct := h.distinct }

/-- The callback of a request whose start failed is called. -/
lemma deliver (h : Linked s calling) (r : Nat) :
    Linked { s with undelivered := s.undelivered.erase r } calling where
  keys := h.keys
  current hc := by
    obtain ⟨proc, request, doc, hs, hopen, hid⟩ := h.current hc
    exact ⟨proc, request, doc, { hs with }, hopen, hid⟩
  served hp := by
    obtain ⟨request, doc, hs⟩ := h.served hp
    exact ⟨request, doc, { hs with }⟩
  owned := h.owned
  refused := h.refused
  fresh := h.fresh
  released := h.released
  calling := h.calling
  undelivered hr := h.undelivered (List.mem_of_mem_erase hr)
  distinct := h.distinct.erase r

/-! ### Settling -/

lemma requests_settle {p r q : Nat} {capture : Capture} {progress : Progress}
    {request' : Request} :
    (s.settle p r capture progress).requests[q]? = some request' ↔
      ∃ request, s.requests[q]? = some request ∧
        (if r = q then { request with progress } else request) = request' := by
  simp [settle, updateRequest, Controller.updateProcess, List.getElem?_modify]

lemma processes_settle {p r q : Nat} {capture : Capture} {progress : Progress}
    {proc' : Process} :
    (s.settle p r capture progress).processes[q]? = some proc' ↔
      ∃ proc, s.processes[q]? = some proc ∧
        (if p = q then { proc with capture, settled := true } else proc) = proc' :=
  processes_updateProcess

lemma progress?_settle {p r : Nat} {request : Request} (hr : s.requests[r]? = some request)
    (capture : Capture) (progress : Progress) :
    (s.settle p r capture progress).progress? r = some progress := by
  have hsettled : (s.settle p r capture progress).requests[r]? =
      some { request with progress } := requests_settle.mpr ⟨request, hr, if_pos rfl⟩
  rw [progress?, hsettled]
  rfl

/-- A process that is not registered is settled together with its request.  It may keep its
output only if its callback is running. -/
lemma settle (h : Linked s calling) {calling' : List Nat} {p : Nat} {proc : Process}
    {capture : Capture} {progress : Progress} (hp : s.processes[p]? = some proc)
    (hgone : ∀ identity, s.current? identity ≠ some p) (hdone : progress ≠ .pending)
    (hcapture : p ∉ calling' → capture = .released)
    (hsub : ∀ q ∈ calling', q ≠ p → q ∈ calling) (hrest : ∀ q ∈ calling, q ∈ calling') :
    Linked (s.settle p proc.request capture progress) calling' := by
  obtain ⟨request, doc, hserves⟩ := h.served hp
  have hother : ∀ {q : Nat} {proc' : Process} {request' : Request} {doc' : Document}, p ≠ q →
      s.Serves q proc' request' doc' →
      (s.settle p proc.request capture progress).Serves q proc' request' doc' := by
    intro q proc' request' doc' hpq hs
    have hne : proc.request ≠ proc'.request := fun heq => hpq (serves_inj hserves hs heq)
    exact { hs with
      has_process := processes_settle.mpr ⟨proc', hs.has_process, if_neg hpq⟩
      has_request := requests_settle.mpr ⟨request', hs.has_request, if_neg hne⟩ }
  exact {
    keys := h.keys
    current := by
      intro identity q hc
      have hpq : p ≠ q := fun heq => hgone identity (heq ▸ hc)
      obtain ⟨proc', request', doc', hs, hopen, hid⟩ := h.current hc
      exact ⟨proc', request', doc', hother hpq hs, hopen, hid⟩
    served := by
      intro q proc' hq
      obtain ⟨old, hold, rfl⟩ := processes_settle.mp hq
      by_cases hpq : p = q
      · subst hpq
        obtain rfl : proc = old := Option.some.inj (hp.symm.trans hold)
        rw [if_pos rfl] at hq ⊢
        exact ⟨{ request with progress }, doc,
          { has_process := hq
            has_request := requests_settle.mpr ⟨request, hserves.has_request, if_pos rfl⟩
            has_document := hserves.has_document
            back := hserves.back
            identity := hserves.identity
            unsettled_iff := by simp [hdone] }⟩
      · obtain ⟨request', doc', hs⟩ := h.served hold
        rw [if_neg hpq]
        exact ⟨request', doc', hother hpq hs⟩
    owned := by
      intro r q request' hr hback
      obtain ⟨old, hold, rfl⟩ := requests_settle.mp hr
      have hback' : old.process = some q := by
        split at hback <;> exact hback
      obtain ⟨proc', hq, hreq⟩ := h.owned hold hback'
      refine ⟨_, processes_settle.mpr ⟨proc', hq, rfl⟩, ?_⟩
      split <;> exact hreq
    refused := by
      intro r request' hr hnone
      obtain ⟨old, hold, rfl⟩ := requests_settle.mp hr
      have hnone' : old.process = none := by
        split at hnone <;> exact hnone
      have hne : proc.request ≠ r := by
        rintro rfl
        rw [← hserves.request_eq hold, hserves.back] at hnone'
        exact absurd hnone' (by simp)
      rw [if_neg hne]
      exact h.refused hold hnone'
    fresh := by
      intro q proc' hq hopen
      obtain ⟨old, hold, rfl⟩ := processes_settle.mp hq
      split at hopen
      · exact absurd hopen (by simp)
      · rename_i hpq
        rw [if_neg hpq]
        exact h.fresh hold hopen
    released := by
      intro q proc' hq hsettled hcalling
      obtain ⟨old, hold, rfl⟩ := processes_settle.mp hq
      split at hsettled
      · rename_i hpq
        rw [if_pos hpq]
        exact hcapture (hpq ▸ hcalling)
      · rename_i hpq
        rw [if_neg hpq]
        exact h.released hold hsettled fun hmem => hcalling (hrest q hmem)
    calling := by
      intro q hq
      by_cases hpq : p = q
      · exact ⟨_, processes_settle.mpr ⟨proc, hpq ▸ hp, rfl⟩, by rw [if_pos hpq]⟩
      · obtain ⟨old, hold, hsettled⟩ := h.calling (hsub q hq (Ne.symm hpq))
        exact ⟨old, processes_settle.mpr ⟨old, hold, if_neg hpq⟩, hsettled⟩
    undelivered := by
      intro r hr
      obtain ⟨old, hold, hnone, hcb⟩ := h.undelivered hr
      refine ⟨_, requests_settle.mpr ⟨old, hold, rfl⟩, ?_⟩
      split <;> exact ⟨hnone, hcb⟩
    distinct := h.distinct }

end Linked
end GradleLint
