import NacosSdk.Lib.Pending
import NacosSdk.Config.Worker

/-!
# The config cache and the server

A worker beside the server it queries. The server answers a query at some
moment and the worker takes the answer in later; it sends a notification after
every publish and every removal of a config. Proved here, for every run and
every config:

* `step_rest`: what an event of the worker does besides the entries;
* `step_fresh`: what one event preserves;
* `getConfig_coherent_iff`: in a quiet state `get_config` agrees with the
  server exactly when the config exists or no entry with content is cached;
* `removal_not_coherent`: after a removal the cache goes on answering.
-/

namespace NacosSdk.Config
open NacosSdk.Common NacosSdk.Lib.Run NacosSdk.Lib.Pending

/-! ## The other parts of the worker -/

/-- What an event does besides the entries. -/
structure Rest (s s' : ConfigWorker) (e : WorkerEvent) : Prop where
  namespace_ : s'.namespace_ = s.namespace_
  configFilters : s'.configFilters = s.configFilters
  adding : ∀ call ∈ s'.adding, call ∈ s.adding ∨ ∃ dataId group listener,
    e = .addListener dataId group listener ∧ call.request = ⟨dataId, group, s.namespace_⟩
  begun : ∀ key request query, s'.loop = .querying key request query →
    s.loop = .querying key request query ∨
      (e = .recv ∧ query = s.queries ∧ ∃ d, s.unifiedCache.get? key = some d ∧
        request = ⟨d.dataId, d.group, d.namespace_⟩)
  asking : ∀ key request query, s.loop = .querying key request query →
    s'.loop = .querying key request query ∨ ∃ answer, e = .changeAnswer answer
  waiting : ∀ key ∈ s.notifyChange, key ∈ s'.notifyChange ∨
    (e = .recv ∧ s.loop = .idle ∧
      (s.unifiedCache.get? key = none ∨ ∃ request query, s'.loop = .querying key request query))

section Rest

variable {s s' : ConfigWorker} {e : WorkerEvent}

theorem rest_of_same (hn : s'.namespace_ = s.namespace_)
    (hf : s'.configFilters = s.configFilters) (ha : ∀ call ∈ s'.adding, call ∈ s.adding)
    (hl : s'.loop = s.loop) (hc : ∀ key ∈ s.notifyChange, key ∈ s'.notifyChange) :
    Rest s s' e where
  namespace_ := hn
  configFilters := hf
  adding := fun call hm => Or.inl (ha call hm)
  begun := fun _ _ _ h => Or.inl (hl ▸ h)
  asking := fun _ _ _ h => Or.inl (hl.trans h)
  waiting := fun key hm => Or.inl (hc key hm)

theorem addAnswer_fields (s : ConfigWorker) (call : AddCall) (answer : QueryAnswer) :
    (s.addAnswer call answer).namespace_ = s.namespace_ ∧
    (s.addAnswer call answer).configFilters = s.configFilters ∧
    (s.addAnswer call answer).adding = s.adding ∧ (s.addAnswer call answer).loop = s.loop ∧
    (s.addAnswer call answer).notifyChange = s.notifyChange := by
  unfold ConfigWorker.addAnswer
  split <;> exact ⟨rfl, rfl, rfl, rfl, rfl⟩

theorem recv_rest {key : String} {rest : List String} (hloop : s.loop = .idle)
    (hchange : s.notifyChange = key :: rest) :
    Rest s ({ s with notifyChange := rest }.recv key) .recv := by
  unfold ConfigWorker.recv
  cases hd : s.unifiedCache.get? key with
  | none =>
    refine ⟨rfl, rfl, fun _ hm => Or.inl hm, fun _ _ _ h => Or.inl h, fun _ _ _ h => Or.inl h, ?_⟩
    intro k hm
    rw [hchange] at hm
    rcases List.mem_cons.mp hm with rfl | hrest
    · exact Or.inr ⟨rfl, hloop, Or.inl hd⟩
    · exact Or.inl hrest
  | some d =>
    refine ⟨rfl, rfl, fun _ hm => Or.inl hm, ?_, ?_, ?_⟩
    · intro k request query h
      cases h
      exact Or.inr ⟨rfl, rfl, d, hd, rfl⟩
    · intro k request query h
      rw [hloop] at h
      cases h
    · intro k hm
      rw [hchange] at hm
      rcases List.mem_cons.mp hm with rfl | hrest
      · exact Or.inr ⟨rfl, hloop, Or.inr ⟨_, _, rfl⟩⟩
      · exact Or.inl hrest

theorem changeAnswer_rest (s : ConfigWorker) (key : String) (query : Nat)
    (answer : QueryAnswer) : Rest s (s.changeAnswer key query answer) (.changeAnswer answer) := by
  have hleft : ∀ k r q, (s.changeAnswer key query answer).loop ≠ .querying k r q := by
    intro k r q
    unfold ConfigWorker.changeAnswer
    split
    · simp
    · split
      · simp
      · exact afterFill_ne_querying _ _ _ k r q
  have hsame : (s.changeAnswer key query answer).namespace_ = s.namespace_ ∧
      (s.changeAnswer key query answer).configFilters = s.configFilters ∧
      (s.changeAnswer key query answer).adding = s.adding ∧
      (s.changeAnswer key query answer).notifyChange = s.notifyChange := by
    unfold ConfigWorker.changeAnswer
    split
    · exact ⟨rfl, rfl, rfl, rfl⟩
    · split <;> exact ⟨rfl, rfl, rfl, rfl⟩
  obtain ⟨hn, hf, ha, hc⟩ := hsame
  exact ⟨hn, hf, fun call hm => Or.inl (ha ▸ hm), fun k r q h => absurd h (hleft k r q),
    fun _ _ _ _ => Or.inr ⟨answer, rfl⟩, fun k hm => Or.inl (hc ▸ hm)⟩

theorem dispatch_rest {key : String} {configResp : ConfigResponse}
    (hloop : s.loop = .filtering key configResp) : Rest s (s.dispatch key configResp) .dispatch := by
  have hsame : (s.dispatch key configResp).namespace_ = s.namespace_ ∧
      (s.dispatch key configResp).configFilters = s.configFilters ∧
      (s.dispatch key configResp).adding = s.adding ∧
      (s.dispatch key configResp).loop = .idle ∧
      (s.dispatch key configResp).notifyChange = s.notifyChange := by
    unfold ConfigWorker.dispatch
    split <;> exact ⟨rfl, rfl, rfl, rfl, rfl⟩
  obtain ⟨hn, hf, ha, hl, hc⟩ := hsame
  refine ⟨hn, hf, fun call hm => Or.inl (ha ▸ hm), ?_, ?_, fun k hm => Or.inl (hc ▸ hm)⟩
  · intro k r q h
    rw [hl] at h
    cases h
  · intro k r q h
    rw [hloop] at h
    cases h

theorem step_rest (h : s.step e = some s') : Rest s s' e := by
  cases step_cases h with
  | addListener dataId group listener =>
    simp only [ConfigWorker.addListener]
    split
    · exact rest_of_same rfl rfl (fun _ hm => hm) rfl fun _ hm => hm
    · refine ⟨rfl, rfl, ?_, fun _ _ _ h => Or.inl h, fun _ _ _ h => Or.inl h,
        fun _ hm => Or.inl hm⟩
      intro call hm
      rcases List.mem_append.mp hm with hold | hnew
      · exact Or.inl hold
      · rw [List.mem_singleton.mp hnew]
        exact Or.inr ⟨dataId, group, listener, rfl, rfl⟩
  | @addAnswer i call answer _ =>
    obtain ⟨hn, hf, ha, hl, hc⟩ :=
      addAnswer_fields { s with adding := s.adding.eraseIdx i } call answer
    have hchange : ∀ k ∈ s.notifyChange, k ∈
        ({ s with adding := s.adding.eraseIdx i }.addAnswer call answer).notifyChange := by
      intro k hm
      rw [hc]
      exact hm
    exact rest_of_same hn hf (fun c hm => List.mem_of_mem_eraseIdx (ha ▸ hm)) hl hchange
  | change => exact rest_of_same rfl rfl (fun _ hm => hm) rfl fun _ hm => List.mem_append_left _ hm
  | recv hloop hchange => exact recv_rest hloop hchange
  | @changeAnswer key _ query answer _ => exact changeAnswer_rest s key query answer
  | dispatch hloop => exact dispatch_rest hloop
  | removeListener | notify => exact rest_of_same rfl rfl (fun _ hm => hm) rfl fun _ hm => hm

end Rest

/-! ## The server -/

/-- How the server answers a query for a config that exists and for one that
does not. -/
structure QueryAnswers where
  found : ServerConfig → ConfigQueryResponse
  notFound : ConfigQueryResponse
  found_carries : ∀ config, Carries (found config) config
  notFound_fails : notFound.isSuccess = false
  notFound_code : notFound.isNotFound = true

def QueryAnswers.answer (answers : QueryAnswers) : Option ServerConfig → ConfigQueryResponse
  | some config => answers.found config
  | none => answers.notFound

/-- A worker and its server. -/
structure System where
  worker : ConfigWorker
  configs : ConfigQueryRequest → Option ServerConfig
  /-- Keys of the notifications that the handler did not take yet. -/
  pushes : List String
  /-- Answers of the server that the worker did not take in yet. -/
  served : Nat → Option ConfigQueryResponse
  /-- Keys of the notifications whose query got no answer of the server. -/
  unanswered : List String

inductive SystemEvent where
  /-- An event of the worker without an answer of the server. -/
  | client (e : WorkerEvent)
  | publish (request : ConfigQueryRequest) (config : ServerConfig)
  | remove (request : ConfigQueryRequest)
  /-- The handler takes notification `i`. -/
  | push (i : Nat)
  /-- The server answers a query in flight. -/
  | serve (query : Nat)
  /-- The answer reaches the waiting call `i`. -/
  | addAnswer (i : Nat)
  /-- The answer reaches the loop. -/
  | changeAnswer

def System.start (worker : ConfigWorker) (configs : ConfigQueryRequest → Option ServerConfig) :
    System where
  worker := worker
  configs := configs
  pushes := []
  served := fun _ => none
  unanswered := []

/-- The config that a query in flight asks for. -/
def ConfigWorker.requestOf (s : ConfigWorker) (query : Nat) : Option ConfigQueryRequest :=
  match s.loop with
  | .querying _ request q =>
    if q = query then some request
    else (s.adding.find? fun call => call.query = query).map AddCall.request
  | _ => (s.adding.find? fun call => call.query = query).map AddCall.request

theorem requestOf_loop {s : ConfigWorker} {key : String} {request : ConfigQueryRequest}
    {query : Nat} (h : s.loop = .querying key request query) :
    s.requestOf query = some request := by
  simp [ConfigWorker.requestOf, h]

def WorkerEvent.isAnswered : WorkerEvent → Bool
  | .addAnswer _ (.ok _) => true
  | .changeAnswer (.ok _) => true
  | _ => false

/-- The key of a notification whose query the event fails. -/
def ConfigWorker.failed (s : ConfigWorker) (e : WorkerEvent) : List String :=
  match e, s.loop with
  | .changeAnswer _, .querying key _ _ => [key]
  | _, _ => []

def System.step (answers : QueryAnswers) (s : System) : SystemEvent → Option System
  | .client e =>
    if e.isAnswered then none
    else (s.worker.step e).map fun worker =>
      { s with
        worker := worker
        -- the next query has no answer yet
        served := fun query => if query = s.worker.queries then none else s.served query
        unanswered := s.unanswered ++ s.worker.failed e }
  | .publish request config =>
    some { s with
      configs := fun r => if r = request then some config else s.configs r
      pushes := s.pushes ++ [request.groupKey] }
  | .remove request =>
    some { s with
      configs := fun r => if r = request then none else s.configs r
      pushes := s.pushes ++ [request.groupKey] }
  | .push i =>
    match s.pushes[i]? with
    | none => none
    | some key => (s.worker.step (.change key)).map fun worker =>
      { s with worker := worker, pushes := s.pushes.eraseIdx i }
  | .serve query =>
    match s.worker.requestOf query, s.served query with
    | some request, none =>
      some { s with
        served := fun q =>
          if q = query then some (answers.answer (s.configs request)) else s.served q }
    | _, _ => none
  | .addAnswer i =>
    match (s.worker.adding[i]?).bind fun call => s.served call.query with
    | none => none
    | some resp => (s.worker.step (.addAnswer i (.ok resp))).map fun worker =>
      { s with worker := worker }
  | .changeAnswer =>
    match s.worker.loop with
    | .querying _ _ query =>
      match s.served query with
      | none => none
      | some resp => (s.worker.step (.changeAnswer (.ok resp))).map fun worker =>
        { s with worker := worker }
    | _ => none

/-! ## Coherence -/

/-- What a query of the server yields now. -/
def System.direct (answers : QueryAnswers) (s : System) (request : ConfigQueryRequest) :
    Except Error ConfigResponse :=
  match s.configs request with
  | some config => .ok (config.seenThrough s.worker.configFilters request)
  | none => .error (.configNotFound (toErrMsg answers.notFound.toGrpcResponse "get_config"))

/-- `get_config` yields what the server holds. -/
def System.Coherent (answers : QueryAnswers) (s : System) (request : ConfigQueryRequest) : Prop :=
  s.worker.getConfig request.dataId request.group
      (.ok (answers.answer (s.configs request))) =
    some (s.direct answers request)

/-- A notification of the key waits at the handler or in the channel. -/
def System.Waiting (s : System) (key : String) : Prop :=
  key ∈ s.pushes ∨ key ∈ s.worker.notifyChange

def System.Asking (s : System) (key : String) : Prop :=
  ∃ request query, s.worker.loop = .querying key request query

/-- A notification of the key was not processed with an answer. -/
def System.Pending (s : System) (key : String) : Prop :=
  s.Waiting key ∨ s.Asking key ∨ key ∈ s.unanswered

/-- What `get_config` may read: nothing, or the config that the server holds.
A config that was removed is left out. -/
def Current (d : CacheData) (config : Option ServerConfig) : Prop :=
  d.served = false ∨ config = none ∨ ∃ c, config = some c ∧ Holds d c

/-- Only the config itself is listened to under its key, and an answer that
`add_listener` stores is the current one or a notification is pending. -/
def StoresCurrent (answers : QueryAnswers) (request : ConfigQueryRequest) (s : System)
    (e : SystemEvent) : Prop :=
  match e with
  | .client (.addListener dataId group _) =>
    groupKey dataId group s.worker.namespace_ = request.groupKey →
      dataId = request.dataId ∧ group = request.group
  | .addAnswer i =>
    ∀ call resp, s.worker.adding[i]? = some call → s.served call.query = some resp →
      call.request.groupKey = request.groupKey → resp.isSuccess = true →
      resp = answers.answer (s.configs request) ∨ s.Pending request.groupKey
  | _ => True

/-- The entry is the one of the config, whatever its filters. -/
structure Named (request : ConfigQueryRequest) (d : CacheData) : Prop where
  dataId : d.dataId = request.dataId
  group : d.group = request.group
  namespace_ : d.namespace_ = request.namespace_

/-- The invariant: what is cached is current unless a notification is pending. -/
structure Fresh (answers : QueryAnswers) (request : ConfigQueryRequest) (s : System) : Prop where
  namespace_ : s.worker.namespace_ = request.namespace_
  calls : ∀ call ∈ s.worker.adding, call.request.groupKey = request.groupKey →
    call.request = request
  named : ∀ d, s.worker.unifiedCache.get? request.groupKey = some d → Named request d
  asked : ∀ r q, s.worker.loop = .querying request.groupKey r q → r = request
  answered : ∀ r q resp, s.worker.loop = .querying request.groupKey r q →
    s.served q = some resp →
    resp = answers.answer (s.configs request) ∨ s.Waiting request.groupKey
  current : ∀ d, s.worker.unifiedCache.get? request.groupKey = some d →
    Current d (s.configs request) ∨ s.Pending request.groupKey

section Steps

variable {answers : QueryAnswers} {request : ConfigQueryRequest} {s s' : System}

theorem named_listeners {d : CacheData} (h : Named request d) (listeners : ListenerList) :
    Named request { d with listeners := listeners } :=
  ⟨h.dataId, h.group, h.namespace_⟩

theorem current_listeners {d : CacheData} {config : Option ServerConfig} (h : Current d config)
    (listeners : ListenerList) : Current { d with listeners := listeners } config := by
  rcases h with hserved | hnone | ⟨c, hc, hholds⟩
  · exact Or.inl hserved
  · exact Or.inr (Or.inl hnone)
  · exact Or.inr (Or.inr ⟨c, hc, hholds.contentType, hholds.content, hholds.md5,
      hholds.encryptedDataKey⟩)

/-- The loop goes on asking until it gets an answer. -/
theorem asking_kept {e : WorkerEvent} {worker : ConfigWorker} {key : String}
    (hstep : s.worker.step e = some worker) (he : ∀ answer, e ≠ .changeAnswer answer)
    (h : s.Asking key) : System.Asking { s with worker := worker } key := by
  obtain ⟨r, q, hl⟩ := h
  rcases (step_rest hstep).asking _ _ _ hl with hstill | ⟨answer, hans⟩
  · exact ⟨r, q, hstill⟩
  · exact absurd hans (he answer)

/-- A notification waits until the loop receives it. -/
theorem waiting_kept {e : WorkerEvent} {worker : ConfigWorker} {key : String}
    (hstep : s.worker.step e = some worker) (he : e ≠ .recv) (h : s.Waiting key) :
    System.Waiting { s with worker := worker } key := by
  rcases h with hpush | hchange
  · exact Or.inl hpush
  · rcases (step_rest hstep).waiting _ hchange with hstill | ⟨hrecv, _⟩
    · exact Or.inr hstill
    · exact absurd hrecv he

/-- No event puts another config under the key. -/
theorem step_named (h : Fresh answers request s) {e : WorkerEvent} {worker : ConfigWorker}
    (hstep : s.worker.step e = some worker) :
    ∀ d, worker.unifiedCache.get? request.groupKey = some d → Named request d := by
  have hall : ∀ key d, worker.unifiedCache.get? key = some d →
      key = request.groupKey → Named request d := by
    refine step_entries (fun _ _ _ hd hk => named_listeners (hd hk) _)
      (fun _ _ _ hd hk => named_listeners (hd hk) _) ?_
      (fun _ _ _ hd hk => named_listeners (hd hk) _) ?_ hstep ?_
    · intro _ d configResp hd hk
      obtain ⟨hdata, hgroup, hns, _⟩ := fillData_origin d configResp
      have hnamed := hd hk
      exact ⟨hdata.trans hnamed.dataId, hgroup.trans hnamed.group, hns.trans hnamed.namespace_⟩
    · intro call hm answer cacheData tasks he hk
      obtain ⟨hdata, hgroup, hns, _, _⟩ := entry_origin he
      have hcall := h.calls call hm hk
      rw [hcall] at hdata hgroup hns
      exact ⟨hdata, hgroup, hns⟩
    · rintro key d hd rfl
      exact h.named d hd
  exact fun d hd => hall _ d hd rfl

/-- An event of the worker that takes no answer to the loop's query for the
config. -/
theorem fresh_worker (h : Fresh answers request s) {e : WorkerEvent}
    (hstep : s.worker.step e = some s'.worker) (hconfigs : s'.configs = s.configs)
    (hserved : ∀ q resp, s'.served q = some resp →
      s.served q = some resp ∧ (e = .recv → q ≠ s.worker.queries))
    (hpushes : ∀ key ∈ s.pushes, key ∈ s'.pushes ∨ key ∈ s'.worker.notifyChange)
    (hunanswered : ∀ key ∈ s.unanswered, key ∈ s'.unanswered)
    (hasking : s.Asking request.groupKey → s'.Pending request.groupKey)
    (hadd : ∀ dataId group listener, e = .addListener dataId group listener →
      groupKey dataId group s.worker.namespace_ = request.groupKey →
      dataId = request.dataId ∧ group = request.group)
    (hinsert : ∀ i call answer cacheData tasks, e = .addAnswer i answer →
      s.worker.adding[i]? = some call → call.request.groupKey = request.groupKey →
      call.entry s.worker.configFilters answer = some (cacheData, tasks) →
      Current cacheData (s.configs request) ∨ s'.Pending request.groupKey)
    (hfill : ∀ answer configResp, e = .changeAnswer answer →
      getConfigInnerAsync answer = .ok configResp → ¬ s.Asking request.groupKey) :
    Fresh answers request s' := by
  have hrest := step_rest hstep
  have hentry := step_entry hstep request.groupKey
  have hwaiting : s.worker.loop ≠ .idle → s.Waiting request.groupKey →
      s'.Waiting request.groupKey := by
    rintro hbusy (hpush | hchange)
    · exact hpushes _ hpush
    · rcases hrest.waiting _ hchange with hstill | ⟨_, hidle, _⟩
      · exact Or.inr hstill
      · exact absurd hidle hbusy
  have hpending : s.worker.unifiedCache.get? request.groupKey ≠ none →
      s.Pending request.groupKey → s'.Pending request.groupKey := by
    rintro hsome ((hpush | hchange) | hask | hun)
    · exact Or.inl (hpushes _ hpush)
    · rcases hrest.waiting _ hchange with hstill | ⟨_, _, hnone | hask⟩
      · exact Or.inl (Or.inr hstill)
      · exact absurd hnone hsome
      · exact Or.inr (Or.inl hask)
    · exact hasking hask
    · exact Or.inr (Or.inr (hunanswered _ hun))
  have hkept : ∀ d, s.worker.unifiedCache.get? request.groupKey = some d →
      Current d (s.configs request) ∨ s'.Pending request.groupKey := by
    intro d hd
    exact (h.current d hd).imp_right (hpending (by simp [hd]))
  have hcached : ∀ d', s'.worker.unifiedCache.get? request.groupKey = some d' →
      Current d' (s.configs request) ∨ s'.Pending request.groupKey := by
    intro d' hd'
    rw [hd'] at hentry
    generalize hbefore : s.worker.unifiedCache.get? request.groupKey = before at hentry
    cases hentry with
    | same => exact hkept d' hbefore
    | added d => exact (hkept d hbefore).imp_left fun hc => current_listeners hc _
    | inserted _ hcall hkey he =>
      exact (hinsert _ _ _ _ _ rfl hcall hkey he).imp_left fun hc => current_listeners hc _
    | removed d => exact (hkept d hbefore).imp_left fun hc => current_listeners hc _
    | filled d hloop ha => exact absurd ⟨_, _, hloop⟩ (hfill _ _ rfl ha)
    | dispatched d => exact (hkept d hbefore).imp_left fun hc => current_listeners hc _
  refine ⟨?_, ?_, step_named h hstep, ?_, ?_, ?_⟩
  · rw [hrest.namespace_, h.namespace_]
  · intro call hm hk
    rcases hrest.adding call hm with hold | ⟨dataId, group, listener, he, hreq⟩
    · exact h.calls call hold hk
    · rw [hreq] at hk ⊢
      obtain ⟨rfl, rfl⟩ := hadd dataId group listener he hk
      rw [h.namespace_]
  · intro r q hl
    rcases hrest.begun _ _ _ hl with hold | ⟨_, _, d, hd, hr⟩
    · exact h.asked r q hold
    · have hnamed := h.named d hd
      rw [hr, hnamed.dataId, hnamed.group, hnamed.namespace_]
  · intro r q resp hl hresp
    obtain ⟨hbefore, hnew⟩ := hserved q resp hresp
    rw [hconfigs]
    rcases hrest.begun _ _ _ hl with hold | ⟨hrecv, hq, _⟩
    · rcases h.answered r q resp hold hbefore with hcurrent | hwait
      · exact Or.inl hcurrent
      · exact Or.inr (hwaiting (by simp [hold]) hwait)
    · exact absurd hq (hnew hrecv)
  · intro d hd
    rw [hconfigs]
    exact hcached d hd

/-- An answer that carries the current config fills an entry with it. -/
theorem current_of_answer {config : Option ServerConfig} {resp : ConfigQueryResponse}
    (ha : getConfigInnerAsync (.ok (answers.answer config)) = .ok resp) (d : CacheData) :
    Current (fillData d resp).1 config := by
  cases config with
  | none => exact Or.inr (Or.inl rfl)
  | some c =>
    have hcarries := answers.found_carries c
    rw [QueryAnswers.answer, carries_ok hcarries] at ha
    cases ha
    rw [fillData_carries hcarries]
    exact Or.inr (Or.inr ⟨c, rfl, rfl, rfl, rfl, rfl⟩)

theorem client_fresh (h : Fresh answers request s) {e : WorkerEvent}
    (hok : StoresCurrent answers request s (.client e))
    (hstep : s.step answers (.client e) = some s') :
    Fresh answers request s' := by
  simp only [System.step] at hstep
  split at hstep
  · cases hstep
  · next hanswered =>
    obtain ⟨worker, hw, rfl⟩ := Option.map_eq_some_iff.mp hstep
    have hrest := step_rest hw
    refine fresh_worker h hw rfl ?_ (fun _ hm => Or.inl hm)
      (fun _ hm => List.mem_append_left _ hm) ?_ ?_ ?_ ?_
    · intro q resp hresp
      simp only at hresp
      split at hresp
      · cases hresp
      · next hq => exact ⟨hresp, fun _ => hq⟩
    · rintro ⟨r, q, hl⟩
      rcases hrest.asking _ _ _ hl with hstill | ⟨answer, rfl⟩
      · exact Or.inr (Or.inl ⟨r, q, hstill⟩)
      · refine Or.inr (Or.inr (List.mem_append_right _ ?_))
        simp [ConfigWorker.failed, hl]
    · rintro dataId group listener rfl hk
      exact hok hk
    · -- a failed query leaves an entry without content
      rintro i call answer cacheData tasks rfl hcall hkey he
      rcases (entry_cases he).2 with ⟨resp, ha, _⟩ | ⟨_, rfl⟩
      · rw [(getConfigInnerAsync_ok ha).1] at hanswered
        exact absurd rfl hanswered
      · exact Or.inl (Or.inl rfl)
    · rintro answer configResp rfl ha
      rw [(getConfigInnerAsync_ok ha).1] at hanswered
      exact absurd rfl hanswered

theorem push_fresh (h : Fresh answers request s) {i : Nat}
    (hstep : s.step answers (.push i) = some s') : Fresh answers request s' := by
  simp only [System.step] at hstep
  split at hstep
  · cases hstep
  · next key hkey =>
    obtain ⟨worker, hw, rfl⟩ := Option.map_eq_some_iff.mp hstep
    refine fresh_worker h hw rfl (fun _ _ hresp => ⟨hresp, fun he => by cases he⟩) ?_
      (fun _ hm => hm) ?_ (fun _ _ _ he => by cases he) (fun _ _ _ _ _ he => by cases he)
      (fun _ _ he => by cases he)
    · intro k hm
      rcases mem_eraseIdx_or hkey hm with rfl | hstill
      · refine Or.inr ?_
        cases step_cases hw
        exact List.mem_append_right _ (List.mem_singleton_self _)
      · exact Or.inl hstill
    · intro hask
      exact Or.inr (Or.inl (asking_kept hw (fun _ he => by cases he) hask))

theorem addAnswer_fresh (h : Fresh answers request s) {i : Nat}
    (hok : StoresCurrent answers request s (.addAnswer i))
    (hstep : s.step answers (.addAnswer i) = some s') :
    Fresh answers request s' := by
  simp only [System.step] at hstep
  split at hstep
  · cases hstep
  · next resp hresp =>
    obtain ⟨worker, hw, rfl⟩ := Option.map_eq_some_iff.mp hstep
    obtain ⟨call, hcall, hserved⟩ := Option.bind_eq_some_iff.mp hresp
    have hask : s.Asking request.groupKey →
        System.Asking { s with worker := worker } request.groupKey :=
      asking_kept hw fun _ he => by cases he
    refine fresh_worker h hw rfl (fun _ _ hr => ⟨hr, fun he => by cases he⟩)
      (fun _ hm => Or.inl hm) (fun _ hm => hm) (fun ha => Or.inr (Or.inl (hask ha)))
      (fun _ _ _ he => by cases he) ?_ (fun _ _ he => by cases he)
    intro j other answer cacheData tasks he hother hkey hentry
    cases he
    rw [hcall] at hother
    cases hother
    rcases (entry_cases hentry).2 with ⟨filled, ha, hf⟩ | ⟨_, rfl⟩
    · obtain ⟨hsame, hsuccess⟩ := getConfigInnerAsync_ok ha
      cases hsame
      rcases hok call resp hcall hserved hkey hsuccess with rfl | hpend
      · have hcurrent := current_of_answer ha (CacheData.new s.worker.configFilters
          call.request.dataId call.request.group call.request.namespace_)
        rw [hf] at hcurrent
        exact Or.inl hcurrent
      · -- what is pending stays pending: the call receives nothing
        refine Or.inr ?_
        rcases hpend with hwait | hasked | hun
        · exact Or.inl (waiting_kept hw (fun he => by cases he) hwait)
        · exact Or.inr (Or.inl (hask hasked))
        · exact Or.inr (Or.inr hun)
    · exact Or.inl (Or.inl rfl)

/-- A current answer leaves the entry current. -/
theorem loopAnswer_current (query : Nat) {d : CacheData}
    (hd : (s.worker.changeAnswer request.groupKey query
      (.ok (answers.answer (s.configs request)))).unifiedCache.get? request.groupKey = some d) :
    Current d (s.configs request) := by
  cases ha : getConfigInnerAsync (.ok (answers.answer (s.configs request))) with
  | error e =>
    cases hc : s.configs request with
    | none => exact Or.inr (Or.inl rfl)
    | some c =>
      rw [hc, QueryAnswers.answer, carries_ok (answers.found_carries c)] at ha
      cases ha
  | ok filled =>
    cases hbefore : s.worker.unifiedCache.get? request.groupKey with
    | none =>
      simp only [ConfigWorker.changeAnswer, ha, hbefore] at hd
      cases hd
    | some before =>
      rw [changeAnswer_some query ha hbefore] at hd
      simp only [ConfigWorker.store, HashMap.get?_insert_self, Option.some.injEq] at hd
      rw [← hd]
      exact current_of_answer ha before

theorem changeAnswer_fresh (h : Fresh answers request s)
    (hstep : s.step answers .changeAnswer = some s') :
    Fresh answers request s' := by
  simp only [System.step] at hstep
  split at hstep
  · next key r q hloop =>
    split at hstep
    · cases hstep
    · next resp hresp =>
      obtain ⟨worker, hw, rfl⟩ := Option.map_eq_some_iff.mp hstep
      by_cases hkey : key = request.groupKey
      · subst hkey
        have hrest := step_rest hw
        have hwaiting : s.Waiting request.groupKey →
            System.Waiting { s with worker := worker } request.groupKey :=
          waiting_kept hw fun he => by cases he
        have hbegun : ∀ r' q', worker.loop = .querying request.groupKey r' q' →
            s.worker.loop = .querying request.groupKey r' q' := by
          intro r' q' hl
          rcases hrest.begun _ _ _ hl with hold | ⟨he, _⟩
          · exact hold
          · cases he
        refine ⟨hrest.namespace_.trans h.namespace_, ?_, step_named h hw, fun r' q' hl => h.asked r' q' (hbegun r' q' hl), ?_, ?_⟩
        · intro call hm
          rcases hrest.adding call hm with hold | ⟨_, _, _, he, _⟩
          · exact h.calls call hold
          · cases he
        · intro r' q' resp' hl hresp'
          exact (h.answered r' q' resp' (hbegun r' q' hl) hresp').imp_right hwaiting
        · intro d hd
          rcases h.answered r q resp hloop hresp with rfl | hwait
          · simp only [ConfigWorker.step, hloop, Option.some.injEq] at hw
            rw [← hw] at hd
            have hcurrent : Current d (s.configs request) := loopAnswer_current q hd
            exact Or.inl hcurrent
          · exact Or.inr (Or.inl (hwaiting hwait))
      · have hask : ¬ s.Asking request.groupKey := by
          rintro ⟨r', q', hl⟩
          rw [hloop] at hl
          cases hl
          exact hkey rfl
        exact fresh_worker h hw rfl (fun _ _ hr => ⟨hr, fun he => by cases he⟩)
          (fun _ hm => Or.inl hm) (fun _ hm => hm) (fun ha => absurd ha hask)
          (fun _ _ _ he => by cases he) (fun _ _ _ _ _ he => by cases he)
          (fun _ _ _ _ => hask)
  · cases hstep

/-- The server changes a config and sends a notification. -/
theorem change_fresh (h : Fresh answers request s) (r : ConfigQueryRequest)
    (config : Option ServerConfig) :
    Fresh answers request
      { s with
        configs := fun r' => if r' = r then config else s.configs r'
        pushes := s.pushes ++ [r.groupKey] } := by
  have hkept : ∀ key, s.Waiting key → System.Waiting
      { s with
        configs := fun r' => if r' = r then config else s.configs r'
        pushes := s.pushes ++ [r.groupKey] } key := by
    rintro key (hpush | hchange)
    · exact Or.inl (List.mem_append_left _ hpush)
    · exact Or.inr hchange
  by_cases hr : request = r
  · have hnew : System.Waiting
        { s with
          configs := fun r' => if r' = r then config else s.configs r'
          pushes := s.pushes ++ [r.groupKey] } request.groupKey := by
      rw [hr]
      exact Or.inl (List.mem_append_right _ (List.mem_singleton_self _))
    exact ⟨h.namespace_, h.calls, h.named, h.asked, fun _ _ _ _ _ => Or.inr hnew,
      fun _ _ => Or.inr (Or.inl hnew)⟩
  · refine ⟨h.namespace_, h.calls, h.named, h.asked, ?_, ?_⟩
    · intro r' q resp hl hresp
      simp only [if_neg hr]
      rcases h.answered r' q resp hl hresp with hcurrent | hwait
      · exact Or.inl hcurrent
      · exact Or.inr (hkept _ hwait)
    · intro d hd
      simp only [if_neg hr]
      rcases h.current d hd with hcurrent | hwait | hrest
      · exact Or.inl hcurrent
      · exact Or.inr (Or.inl (hkept _ hwait))
      · exact Or.inr (Or.inr hrest)

theorem serve_fresh (h : Fresh answers request s) {query : Nat}
    (hstep : s.step answers (.serve query) = some s') :
    Fresh answers request s' := by
  simp only [System.step] at hstep
  split at hstep
  · next r hasked _ =>
    cases hstep
    refine ⟨h.namespace_, h.calls, h.named, h.asked, ?_, h.current⟩
    intro r' q resp hl hresp
    simp only at hresp
    split at hresp
    · next hq =>
      -- the query of the loop is answered with what the server holds now
      cases hresp
      subst hq
      rw [requestOf_loop hl] at hasked
      cases hasked
      rw [h.asked r q hl]
      exact Or.inl rfl
    · exact h.answered r' q resp hl hresp
  · cases hstep

/-- **One event.** -/
theorem step_fresh {e : SystemEvent} (hok : StoresCurrent answers request s e)
    (hstep : s.step answers e = some s') (h : Fresh answers request s) :
    Fresh answers request s' := by
  cases e with
  | client e => exact client_fresh h hok hstep
  | publish r config =>
    cases hstep
    exact change_fresh h r (some config)
  | remove r =>
    cases hstep
    exact change_fresh h r none
  | push i => exact push_fresh h hstep
  | serve query => exact serve_fresh h hstep
  | addAnswer i => exact addAnswer_fresh h hok hstep
  | changeAnswer => exact changeAnswer_fresh h hstep

/-! ## The filters -/

/-- An answer that the event gives to a waiting call is an error or the server's. -/
def AnswersOf (s : System) (e : SystemEvent) (we : WorkerEvent) : Prop :=
  ∀ i answer, we = .addAnswer i answer → (∃ err, answer = .error err) ∨
    ∃ call resp, e = .addAnswer i ∧ s.worker.adding[i]? = some call ∧
      s.served call.query = some resp ∧ answer = .ok resp

/-- An event changes the server, or is one of the worker. -/
theorem system_moved (request : ConfigQueryRequest) {e : SystemEvent}
    (hstep : s.step answers e = some s') :
    (s'.worker = s.worker ∧
      (s'.configs request = s.configs request ∨ s'.Waiting request.groupKey)) ∨
    (s'.configs = s.configs ∧ ∃ we, s.worker.step we = some s'.worker ∧ AnswersOf s e we) := by
  cases e with
  | client we =>
    simp only [System.step] at hstep
    split at hstep
    · cases hstep
    · next hanswered =>
      obtain ⟨worker, hw, rfl⟩ := Option.map_eq_some_iff.mp hstep
      refine Or.inr ⟨rfl, we, hw, ?_⟩
      rintro i answer rfl
      cases answer with
      | error err => exact Or.inl ⟨err, rfl⟩
      | ok resp => exact absurd rfl hanswered
  | publish r config | remove r =>
    cases hstep
    refine Or.inl ⟨rfl, ?_⟩
    by_cases hr : request = r
    · rw [hr]
      exact Or.inr (Or.inl (List.mem_append_right _ (List.mem_singleton_self _)))
    · exact Or.inl (if_neg hr)
  | push i =>
    simp only [System.step] at hstep
    split at hstep
    · cases hstep
    · obtain ⟨worker, hw, rfl⟩ := Option.map_eq_some_iff.mp hstep
      exact Or.inr ⟨rfl, _, hw, fun _ _ he => by cases he⟩
  | serve query =>
    simp only [System.step] at hstep
    split at hstep
    · cases hstep
      exact Or.inl ⟨rfl, Or.inl rfl⟩
    · cases hstep
  | addAnswer i =>
    simp only [System.step] at hstep
    split at hstep
    · cases hstep
    · next resp hresp =>
      obtain ⟨worker, hw, rfl⟩ := Option.map_eq_some_iff.mp hstep
      obtain ⟨call, hcall, hserved⟩ := Option.bind_eq_some_iff.mp hresp
      refine Or.inr ⟨rfl, _, hw, ?_⟩
      intro j answer he
      cases he
      exact Or.inr ⟨call, resp, rfl, hcall, hserved, rfl⟩
  | changeAnswer =>
    simp only [System.step] at hstep
    split at hstep
    · split at hstep
      · cases hstep
      · obtain ⟨worker, hw, rfl⟩ := Option.map_eq_some_iff.mp hstep
        exact Or.inr ⟨rfl, _, hw, fun _ _ he => by cases he⟩
    · cases hstep

/-- The entry of the config has the filters of the worker. -/
structure Filtered (configFilters : List ConfigFilter) (request : ConfigQueryRequest)
    (worker : ConfigWorker) : Prop where
  filters : worker.configFilters = configFilters
  entry : ∀ d, worker.unifiedCache.get? request.groupKey = some d →
    d.configFilters = configFilters

theorem step_filtered {configFilters : List ConfigFilter} {e : SystemEvent}
    (hstep : s.step answers e = some s') (h : Filtered configFilters request s.worker) :
    Filtered configFilters request s'.worker := by
  rcases system_moved request hstep with ⟨hsame, _⟩ | ⟨_, we, hw, _⟩
  · rwa [hsame]
  · refine ⟨(step_rest hw).configFilters.trans h.filters, ?_⟩
    have hall : ∀ key d, s'.worker.unifiedCache.get? key = some d →
        key = request.groupKey → d.configFilters = configFilters := by
      refine step_entries (fun _ _ _ hd hk => hd hk) (fun _ _ _ hd hk => hd hk) ?_
        (fun _ _ _ hd hk => hd hk) ?_ hw ?_
      · intro _ d configResp hd hk
        exact (fillData_origin d configResp).2.2.2.trans (hd hk)
      · intro call _ answer cacheData tasks he _
        exact (entry_origin he).2.2.2.1.trans h.filters
      · rintro key d hd rfl
        exact h.entry d hd
    exact fun d hd => hall _ d hd rfl

end Steps

/-! ## Whole runs -/

/-- No notification of the key is left and each of their queries was answered. -/
def System.Quiet (s : System) (key : String) : Prop := ¬ s.Pending key

theorem queryConfig_answer (answers : QueryAnswers) (s : System) (request : ConfigQueryRequest) :
    queryConfig s.worker.configFilters request (.ok (answers.answer (s.configs request))) =
      some (s.direct answers request) := by
  unfold System.direct
  cases s.configs request with
  | none =>
    simp [queryConfig, QueryAnswers.answer, getConfigInnerAsync, answers.notFound_fails,
      answers.notFound_code]
  | some config => exact queryConfig_carries (answers.found_carries config) _ _

theorem start_fresh (answers : QueryAnswers) {configFilters : List ConfigFilter}
    {request : ConfigQueryRequest} {unifiedCache : HashMap CacheData}
    {configs : ConfigQueryRequest → Option ServerConfig}
    (h : ∀ d, unifiedCache.get? request.groupKey = some d →
      Named request d ∧ Current d (configs request)) :
    Fresh answers request (System.start
      (ConfigWorker.new request.namespace_ configFilters unifiedCache) configs) where
  namespace_ := rfl
  calls := fun _ hm => by cases hm
  named := fun d hd => (h d hd).1
  asked := fun _ _ hl => by cases hl
  answered := fun _ _ _ hl => by cases hl
  current := fun d hd => Or.inl (h d hd).2

/-- **Coherence.** In every run in which only the config itself is listened to
under its key and `add_listener` stores no outdated answer without a pending
notification, `get_config` agrees with the server in a quiet state if and only
if the config exists or the cache has no entry with content for it. -/
theorem getConfig_coherent_iff {answers : QueryAnswers} {configFilters : List ConfigFilter}
    {request : ConfigQueryRequest} {unifiedCache : HashMap CacheData}
    {configs : ConfigQueryRequest → Option ServerConfig} {es : List SystemEvent} {t : System}
    (hstart : ∀ d, unifiedCache.get? request.groupKey = some d →
      Own request configFilters d ∧ Current d (configs request))
    (hrun : Reaches (System.step answers) (StoresCurrent answers request)
      (System.start (ConfigWorker.new request.namespace_ configFilters unifiedCache) configs) es t)
    (hquiet : t.Quiet request.groupKey) :
    t.Coherent answers request ↔
      t.configs request ≠ none ∨
        ∀ d, t.worker.unifiedCache.get? request.groupKey = some d → d.served = false := by
  have hnamed : ∀ d, unifiedCache.get? request.groupKey = some d →
      Named request d ∧ Current d (configs request) := by
    intro d hd
    obtain ⟨hown, hcurrent⟩ := hstart d hd
    exact ⟨⟨hown.dataId, hown.group, hown.namespace_⟩, hcurrent⟩
  have hfresh : Fresh answers request t :=
    hrun.invariant (fun _ _ _ hok hs hi => step_fresh hok hs hi) (start_fresh answers hnamed)
  have hfiltered : Filtered configFilters request t.worker :=
    hrun.invariant (I := fun s => Filtered configFilters request s.worker)
      (fun _ _ _ _ hs hi => step_filtered hs hi)
      ⟨rfl, fun d hd => (hstart d hd).1.configFilters⟩
  unfold System.Coherent
  rw [ConfigWorker.getConfig_request hfresh.namespace_, queryConfig_answer]
  cases hd : t.worker.unifiedCache.get? request.groupKey with
  | none => simp
  | some d =>
    cases hserved : d.served with
    | false => simp [Option.filter_some, hserved]
    | true =>
      simp only [Option.filter_some, hserved, if_true]
      unfold System.direct
      cases hc : t.configs request with
      | none => simp [hserved]
      | some config =>
        -- a quiet entry that is read holds the config of the server
        have hholds : Holds d config := by
          rcases (hfresh.current d hd).resolve_right hquiet with hno | hno | ⟨c, hcc, hh⟩
          · rw [hserved] at hno
            cases hno
          · rw [hc] at hno
            cases hno
          · rw [hc] at hcc
            cases hcc
            exact hh
        have hname := hfresh.named d hd
        have hown : Own request configFilters d :=
          ⟨hname.dataId, hname.group, hname.namespace_, hfiltered.entry d hd⟩
        rw [filteredResponse_seenThrough hown hholds, hfiltered.filters]
        simp

/-! ## A removal -/

def plainAnswers : QueryAnswers where
  found := ServerConfig.response
  notFound := appNotFound
  found_carries := fun _ => ⟨rfl, rfl, rfl, rfl, rfl, rfl⟩
  notFound_fails := rfl
  notFound_code := rfl

/-- The config is published, and a listener is added to it. -/
def listenedConfig : List SystemEvent :=
  [.publish appRequest ⟨"a: 1", "yaml", "m1", none, 0⟩, .push 0, .client .recv,
    .client (.addListener "app.yaml" "DEFAULT_GROUP" 0), .serve 0, .addAnswer 0]

/-- The config is removed and the notification processed. -/
def removedConfig : List SystemEvent :=
  listenedConfig ++ [.remove appRequest, .push 0, .client .recv, .serve 1, .changeAnswer]

def systemStart : System := System.start workerStart fun _ => none

def systemAfter (es : List SystemEvent) : System :=
  (run (System.step plainAnswers) systemStart es).getD systemStart

/-- A call that stores an answer stores what the server holds. -/
def storesHeld (s : System) : SystemEvent → Bool
  | .client (.addListener dataId group _) =>
    dataId = appRequest.dataId && group = appRequest.group
  | .addAnswer i =>
    ((s.worker.adding[i]?).bind fun call => s.served call.query).all fun resp =>
      resp = plainAnswers.answer (s.configs appRequest)
  | _ => true

theorem storesCurrent_of_held (s : System) (e : SystemEvent) (h : storesHeld s e = true) :
    StoresCurrent plainAnswers appRequest s e := by
  cases e with
  | client e =>
    cases e with
    | addListener dataId group listener =>
      intro _
      simpa [storesHeld] using h
    | addAnswer | removeListener | change | recv | changeAnswer | dispatch | notify => trivial
  | addAnswer i =>
    intro call resp hcall hresp _ _
    refine Or.inl ?_
    simpa [storesHeld, hcall, hresp] using h
  | publish | remove | push | serve | changeAnswer => trivial

theorem getConfig_coherent_iff_removed :
    (systemAfter removedConfig).Coherent plainAnswers appRequest ↔
      (systemAfter removedConfig).configs appRequest ≠ none ∨
        ∀ d, (systemAfter removedConfig).worker.unifiedCache.get? appRequest.groupKey = some d →
          d.served = false := by
  have hrun : Reaches (System.step plainAnswers) (StoresCurrent plainAnswers appRequest)
      systemStart removedConfig (systemAfter removedConfig) :=
    runWhile_reaches storesCurrent_of_held
      (rfl : runWhile (System.step plainAnswers) storesHeld systemStart removedConfig =
        some (systemAfter removedConfig))
  refine getConfig_coherent_iff (fun _ h => by cases h) hrun ?_
  rintro ((h | h) | ⟨_, _, h⟩ | h) <;> cases h

/-- The server has no config any more, and `get_config` still yields it. -/
theorem removal_not_coherent :
    Reaches (System.step plainAnswers) anyStep systemStart removedConfig
        (systemAfter removedConfig) ∧
      (systemAfter removedConfig).Quiet appRequest.groupKey ∧
      (systemAfter removedConfig).configs appRequest = none ∧
      ¬ (systemAfter removedConfig).Coherent plainAnswers appRequest := by
  refine ⟨run_reaches rfl, ?_, rfl, fun hcoherent => ?_⟩
  · rintro ((h | h) | ⟨_, _, h⟩ | h) <;> cases h
  · have hread : (systemAfter removedConfig).worker.getConfig "app.yaml" "DEFAULT_GROUP"
        (.ok appNotFound) =
        some (.ok ⟨"app.yaml", "DEFAULT_GROUP", "public", "a: 1", "yaml", "m1"⟩) := rfl
    have hboth := hread.symm.trans hcoherent
    cases hboth

end NacosSdk.Config
