import NacosSdk.Common.Error
import NacosSdk.Common.HashMap
import NacosSdk.Lib.Run
import NacosSdk.Config.CacheData

/-!
# The config worker

`ConfigWorker` of `config/worker.rs`: `add_listener`, `remove_listener`,
`get_config` and the loop `notify_change_to_cache_data`, cut at their await
points. A call of `add_listener` for a key that is not cached waits for the
answer of its query; the loop waits for the next key, for the answer of its
query and for the filters. Proved here, for every worker and event:

* `step_cases`: what enables an event and where it leads;
* `step_entry`: all that an event can do to the cached entry of a key;
* `step_entries`: what those changes preserve holds of every entry.
-/

namespace NacosSdk.Config
open NacosSdk.Common NacosSdk.Lib.Run

/-! ## Queries -/

def groupKeySplit : String := "+_+"

def groupKey (dataId group namespace_ : String) : String :=
  "" ++ dataId ++ groupKeySplit ++ group ++ groupKeySplit ++ namespace_

structure ConfigQueryRequest where
  dataId : String
  group : String
  namespace_ : String
  deriving DecidableEq

def ConfigQueryRequest.groupKey (request : ConfigQueryRequest) : String :=
  Config.groupKey request.dataId request.group request.namespace_

structure ConfigQueryResponse extends GrpcResponse where
  contentType : Option String
  content : Option String
  md5 : Option String
  encryptedDataKey : Option String
  lastModified : Int
  deriving DecidableEq

def configNotFoundCode : Int := 300
def configQueryConflictCode : Int := 400

def ConfigQueryResponse.isNotFound (resp : ConfigQueryResponse) : Bool :=
  resp.errorCode = configNotFoundCode

def ConfigQueryResponse.isQueryConflict (resp : ConfigQueryResponse) : Bool :=
  resp.errorCode = configQueryConflictCode

/-- What `send_request` comes back with. -/
abbrev QueryAnswer := Except Error ConfigQueryResponse

def getConfigInnerAsync (answer : QueryAnswer) : Except Error ConfigQueryResponse :=
  match answer with
  | .error e => .error e
  | .ok resp =>
    if resp.isSuccess then .ok resp
    else
      let errStr := toErrMsg resp.toGrpcResponse "get_config"
      if resp.isNotFound then .error (.configNotFound errStr)
      else if resp.isQueryConflict then .error (.configQueryConflict errStr)
      else .error (.errResult errStr)

theorem getConfigInnerAsync_ok {answer : QueryAnswer} {resp : ConfigQueryResponse}
    (h : getConfigInnerAsync answer = .ok resp) :
    answer = .ok resp ∧ resp.isSuccess = true := by
  unfold getConfigInnerAsync at h
  split at h
  · cases h
  · split at h
    · next hsuccess =>
      cases h
      exact ⟨rfl, hsuccess⟩
    · split at h
      · cases h
      · split at h <;> cases h

/-! ## Filling an entry -/

/-- The end of `fill_data`: the first fill does not notify. -/
def CacheData.initialized (cacheData : CacheData) : CacheData × Option Bool :=
  if cacheData.initializing then ({ cacheData with initializing := false }, some false)
  else (cacheData, some true)

/-- `fill_data`: the entry and whether its listeners are to be notified. A part
that is missing panics (`none`) after the parts before it were written. -/
def fillData (cacheData : CacheData) (configResp : ConfigQueryResponse) :
    CacheData × Option Bool :=
  match configResp.contentType with
  | none => (cacheData, none)
  | some contentType =>
    match configResp.content with
    | none => ({ cacheData with contentType }, none)
    | some content =>
      match configResp.md5 with
      | none => ({ cacheData with contentType, content }, none)
      | some md5 =>
        CacheData.initialized { cacheData with
          contentType, content, md5
          encryptedDataKey := configResp.encryptedDataKey.getD ""
          lastModified := configResp.lastModified }

section Fill

variable (d : CacheData) (resp : ConfigQueryResponse)

theorem fillData_listeners : (fillData d resp).1.listeners = d.listeners := by
  unfold fillData CacheData.initialized
  repeat' split
  all_goals rfl

theorem fillData_origin : (fillData d resp).1.dataId = d.dataId ∧
    (fillData d resp).1.group = d.group ∧ (fillData d resp).1.namespace_ = d.namespace_ ∧
    (fillData d resp).1.configFilters = d.configFilters := by
  unfold fillData CacheData.initialized
  repeat' split
  all_goals exact ⟨rfl, rfl, rfl, rfl⟩

variable {resp}

/-- A complete answer gives the entry all its parts. -/
theorem fillData_complete {contentType content md5 : String}
    (ht : resp.contentType = some contentType) (hc : resp.content = some content)
    (hm : resp.md5 = some md5) :
    fillData d resp =
      ({ d with
          contentType, content, md5
          encryptedDataKey := resp.encryptedDataKey.getD ""
          lastModified := resp.lastModified
          initializing := false }, some (!d.initializing)) := by
  unfold fillData CacheData.initialized
  rw [ht, hc, hm]
  cases d.initializing <;> simp

variable {d}

/-- A panic leaves the md5 and the flag as they were. -/
theorem fillData_panic (h : (fillData d resp).2 = none) :
    (fillData d resp).1.md5 = d.md5 ∧ (fillData d resp).1.initializing = d.initializing := by
  unfold fillData CacheData.initialized at h ⊢
  cases ht : resp.contentType with
  | none => exact ⟨rfl, rfl⟩
  | some contentType =>
    cases hc : resp.content with
    | none => exact ⟨rfl, rfl⟩
    | some content =>
      cases hm : resp.md5 with
      | none => exact ⟨rfl, rfl⟩
      | some md5 =>
        simp only [ht, hc, hm] at h
        split at h <;> cases h

theorem fillData_filled {b : Bool} (h : (fillData d resp).2 = some b) :
    ∃ contentType content md5, resp.contentType = some contentType ∧
      resp.content = some content ∧ resp.md5 = some md5 := by
  unfold fillData at h
  cases ht : resp.contentType with
  | none => simp [ht] at h
  | some contentType =>
    cases hc : resp.content with
    | none => simp [ht, hc] at h
    | some content =>
      cases hm : resp.md5 with
      | none => simp [ht, hc, hm] at h
      | some md5 => exact ⟨contentType, content, md5, rfl, rfl, rfl⟩

end Fill

def CacheData.notifyListener (d : CacheData) :
    CacheData × List (ConfigListener × ConfigResponse) :=
  d.dispatchNotify (filteredResponse d.respSnapshot)

/-- `fill_data_and_notify`: the entry and the tasks it spawns. -/
def fillDataAndNotify (d : CacheData) (configResp : ConfigQueryResponse) :
    Option (CacheData × List (ConfigListener × ConfigResponse)) :=
  match fillData d configResp with
  | (_, none) => none
  | (filled, some false) => some (filled, [])
  | (filled, some true) => some filled.notifyListener

/-- The first fill of an entry notifies nobody. -/
theorem fillDataAndNotify_new {configFilters : List ConfigFilter}
    {dataId group namespace_ : String} {configResp : ConfigQueryResponse} {filled : CacheData}
    {tasks : List (ConfigListener × ConfigResponse)}
    (h : fillDataAndNotify (CacheData.new configFilters dataId group namespace_) configResp =
      some (filled, tasks)) :
    fillData (CacheData.new configFilters dataId group namespace_) configResp =
      (filled, some false) ∧ tasks = [] := by
  unfold fillDataAndNotify at h
  cases hf : fillData (CacheData.new configFilters dataId group namespace_) configResp with
  | mk entry flag =>
    cases flag with
    | none => simp [hf] at h
    | some notify =>
      obtain ⟨contentType, content, md5, ht, hc, hm⟩ := fillData_filled (by rw [hf])
      rw [fillData_complete _ ht hc hm] at hf
      cases hf
      rw [fillData_complete _ ht hc hm] at h
      cases h
      exact ⟨rfl, rfl⟩

/-! ## The worker -/

/-- A call of `add_listener` that waits for the answer of its query. -/
structure AddCall where
  request : ConfigQueryRequest
  listener : ConfigListener
  query : Nat
  deriving DecidableEq

/-- Where `notify_change_to_cache_data` stands; `dead` after a panic. -/
inductive NotifyLoop where
  | idle
  | querying (key : String) (request : ConfigQueryRequest) (query : Nat)
  | filtering (key : String) (configResp : ConfigResponse)
  | dead
  deriving DecidableEq

/-- The worker with everything in flight. Queries are numbered as they are
sent; no step reads the number or the last three fields. -/
structure ConfigWorker where
  namespace_ : String
  configFilters : List ConfigFilter
  unifiedCache : HashMap CacheData
  adding : List AddCall
  notifyChange : List String
  loop : NotifyLoop
  /-- Notification tasks that were spawned and did not run yet. -/
  notifying : List (ConfigListener × ConfigResponse)
  queries : Nat
  /-- Calls of `add_listener` that returned. -/
  returned : List (String × ConfigListener)
  /-- Calls of `remove_listener`. -/
  removed : List (String × ConfigListener)
  /-- Queries whose answer was stored, in the order of the stores. -/
  stored : List (String × Nat)

/-- What `Cache::new` loads: the fields that serde skips have their defaults. -/
def FromDisk (unifiedCache : HashMap CacheData) : Prop :=
  ∀ key d, unifiedCache.get? key = some d → d.reloaded = d

def ConfigWorker.new (namespace_ : String) (configFilters : List ConfigFilter)
    (unifiedCache : HashMap CacheData) : ConfigWorker where
  namespace_ := namespace_
  configFilters := configFilters
  unifiedCache := unifiedCache
  adding := []
  notifyChange := []
  loop := .idle
  notifying := []
  queries := 0
  returned := []
  removed := []
  stored := []

/-- The capacity of the channel. -/
def notifyChangeCapacity : Nat := 16

inductive WorkerEvent where
  /-- `add_listener` up to its first await. -/
  | addListener (dataId group : String) (listener : ConfigListener)
  /-- The query of the waiting call `i` is answered. -/
  | addAnswer (i : Nat) (answer : QueryAnswer)
  | removeListener (dataId group : String) (listener : ConfigListener)
  /-- The change handler or the list-watch loop sends a key. -/
  | change (key : String)
  /-- The loop takes the next key. -/
  | recv
  /-- The query of the loop is answered. -/
  | changeAnswer (answer : QueryAnswer)
  /-- The filters are done. -/
  | dispatch
  /-- The spawned task `i` calls its listener. -/
  | notify (i : Nat)

/-- The end of `add_listener`. -/
def ConfigWorker.register (s : ConfigWorker) (key : String) (listener : ConfigListener) :
    ConfigWorker :=
  { s with
    unifiedCache := s.unifiedCache.modify key fun d => d.addListener listener
    returned := s.returned ++ [(key, listener)] }

def ConfigWorker.addListener (s : ConfigWorker) (dataId group : String)
    (listener : ConfigListener) : ConfigWorker :=
  let request : ConfigQueryRequest := ⟨dataId, group, s.namespace_⟩
  if s.unifiedCache.containsKey request.groupKey then s.register request.groupKey listener
  else
    { s with
      adding := s.adding ++ [⟨request, listener, s.queries⟩]
      queries := s.queries + 1 }

/-- The entry that a waiting call builds from its answer, with the tasks. -/
def AddCall.entry (call : AddCall) (configFilters : List ConfigFilter) (answer : QueryAnswer) :
    Option (CacheData × List (ConfigListener × ConfigResponse)) :=
  let cacheData :=
    CacheData.new configFilters call.request.dataId call.request.group call.request.namespace_
  match getConfigInnerAsync answer with
  | .ok configResp => fillDataAndNotify cacheData configResp
  | .error _ => some (cacheData, [])

theorem entry_cases {call : AddCall} {configFilters : List ConfigFilter} {answer : QueryAnswer}
    {cacheData : CacheData} {tasks : List (ConfigListener × ConfigResponse)}
    (h : call.entry configFilters answer = some (cacheData, tasks)) :
    tasks = [] ∧
      ((∃ configResp, getConfigInnerAsync answer = .ok configResp ∧
          fillData (CacheData.new configFilters call.request.dataId call.request.group
            call.request.namespace_) configResp = (cacheData, some false)) ∨
        ((∃ e, getConfigInnerAsync answer = .error e) ∧
          cacheData = CacheData.new configFilters call.request.dataId call.request.group
            call.request.namespace_)) := by
  unfold AddCall.entry at h
  cases ha : getConfigInnerAsync answer with
  | error e =>
    simp only [ha, Option.some.injEq, Prod.mk.injEq] at h
    exact ⟨h.2.symm, Or.inr ⟨⟨e, rfl⟩, h.1.symm⟩⟩
  | ok configResp =>
    simp only [ha] at h
    obtain ⟨hf, ht⟩ := fillDataAndNotify_new h
    exact ⟨ht, Or.inl ⟨configResp, rfl, hf⟩⟩

/-- The entry of a call is for its own config and has no listener yet. -/
theorem entry_origin {call : AddCall} {configFilters : List ConfigFilter} {answer : QueryAnswer}
    {cacheData : CacheData} {tasks : List (ConfigListener × ConfigResponse)}
    (h : call.entry configFilters answer = some (cacheData, tasks)) :
    cacheData.dataId = call.request.dataId ∧ cacheData.group = call.request.group ∧
    cacheData.namespace_ = call.request.namespace_ ∧ cacheData.configFilters = configFilters ∧
    cacheData.listeners = ListenerList.empty := by
  rcases (entry_cases h).2 with ⟨resp, _, hf⟩ | ⟨_, rfl⟩
  · have horigin := fillData_origin (CacheData.new configFilters call.request.dataId
      call.request.group call.request.namespace_) resp
    have hlisteners := fillData_listeners (CacheData.new configFilters call.request.dataId
      call.request.group call.request.namespace_) resp
    rw [hf] at horigin hlisteners
    exact ⟨horigin.1, horigin.2.1, horigin.2.2.1, horigin.2.2.2, hlisteners⟩
  · exact ⟨rfl, rfl, rfl, rfl, rfl⟩

/-- `Cache::insert` of that entry. -/
def ConfigWorker.store (s : ConfigWorker) (key : String) (query : Nat) (d : CacheData) :
    ConfigWorker :=
  { s with
    unifiedCache := s.unifiedCache.insert key d
    stored := s.stored ++ [(key, query)] }

/-- The rest of a waiting call; `none` from its entry is a panic of the call. -/
def ConfigWorker.addAnswer (s : ConfigWorker) (call : AddCall) (answer : QueryAnswer) :
    ConfigWorker :=
  match call.entry s.configFilters answer with
  | none => s
  | some (cacheData, tasks) =>
    ({ s with notifying := s.notifying ++ tasks }.store call.request.groupKey call.query
      cacheData).register call.request.groupKey call.listener

def ConfigWorker.removeListener (s : ConfigWorker) (dataId group : String)
    (listener : ConfigListener) : ConfigWorker :=
  let key := groupKey dataId group s.namespace_
  { s with
    unifiedCache := s.unifiedCache.modify key fun d => d.removeListener listener
    removed := s.removed ++ [(key, listener)] }

/-- The loop receives `key`; a key without an entry is passed over. -/
def ConfigWorker.recv (s : ConfigWorker) (key : String) : ConfigWorker :=
  match s.unifiedCache.get? key with
  | none => s
  | some d =>
    { s with
      loop := .querying key ⟨d.dataId, d.group, d.namespace_⟩ s.queries
      queries := s.queries + 1 }

/-- Where the loop goes after `fill_data`. -/
def NotifyLoop.afterFill (key : String) (filled : CacheData) : Option Bool → NotifyLoop
  | none => .dead
  | some false => .idle
  | some true => .filtering key (filteredResponse filled.respSnapshot)

theorem afterFill_ne_querying (key : String) (filled : CacheData) (flag : Option Bool)
    (k : String) (request : ConfigQueryRequest) (query : Nat) :
    NotifyLoop.afterFill key filled flag ≠ .querying k request query := by
  rcases flag with _ | _ | _ <;> simp [NotifyLoop.afterFill]

/-- The loop goes on with the answer of its query. -/
def ConfigWorker.changeAnswer (s : ConfigWorker) (key : String) (query : Nat)
    (answer : QueryAnswer) : ConfigWorker :=
  match getConfigInnerAsync answer with
  | .error _ => { s with loop := .idle }
  | .ok configResp =>
    match s.unifiedCache.get? key with
    | none => { s with loop := .idle }
    | some d =>
      let filled := fillData d configResp
      { s.store key query filled.1 with loop := .afterFill key filled.1 filled.2 }

def ConfigWorker.dispatch (s : ConfigWorker) (key : String) (configResp : ConfigResponse) :
    ConfigWorker :=
  match s.unifiedCache.get? key with
  | none => { s with loop := .idle }
  | some d =>
    { s with
      unifiedCache := s.unifiedCache.insert key (d.dispatchNotify configResp).1
      notifying := s.notifying ++ (d.dispatchNotify configResp).2
      loop := .idle }

def ConfigWorker.step (s : ConfigWorker) : WorkerEvent → Option ConfigWorker
  | .addListener dataId group listener => some (s.addListener dataId group listener)
  | .addAnswer i answer =>
    match s.adding[i]? with
    | none => none
    | some call => some ({ s with adding := s.adding.eraseIdx i }.addAnswer call answer)
  | .removeListener dataId group listener => some (s.removeListener dataId group listener)
  | .change key =>
    if s.notifyChange.length < notifyChangeCapacity then
      some { s with notifyChange := s.notifyChange ++ [key] }
    else none
  | .recv =>
    match s.loop, s.notifyChange with
    | .idle, key :: rest => some ({ s with notifyChange := rest }.recv key)
    | _, _ => none
  | .changeAnswer answer =>
    match s.loop with
    | .querying key _ query => some (s.changeAnswer key query answer)
    | _ => none
  | .dispatch =>
    match s.loop with
    | .filtering key configResp => some (s.dispatch key configResp)
    | _ => none
  | .notify i =>
    match s.notifying[i]? with
    | none => none
    | some _ => some { s with notifying := s.notifying.eraseIdx i }

/-- A step, by its event: what enables it and where it leads. -/
inductive Stepped (s : ConfigWorker) : WorkerEvent → ConfigWorker → Prop
  | addListener (dataId group : String) (listener : ConfigListener) :
      Stepped s (.addListener dataId group listener) (s.addListener dataId group listener)
  | addAnswer {i : Nat} {call : AddCall} (answer : QueryAnswer) : s.adding[i]? = some call →
      Stepped s (.addAnswer i answer)
        ({ s with adding := s.adding.eraseIdx i }.addAnswer call answer)
  | removeListener (dataId group : String) (listener : ConfigListener) :
      Stepped s (.removeListener dataId group listener) (s.removeListener dataId group listener)
  | change (key : String) :
      Stepped s (.change key) { s with notifyChange := s.notifyChange ++ [key] }
  | recv {key : String} {rest : List String} : s.loop = .idle → s.notifyChange = key :: rest →
      Stepped s .recv ({ s with notifyChange := rest }.recv key)
  | changeAnswer {key : String} {request : ConfigQueryRequest} {query : Nat}
      (answer : QueryAnswer) : s.loop = .querying key request query →
      Stepped s (.changeAnswer answer) (s.changeAnswer key query answer)
  | dispatch {key : String} {configResp : ConfigResponse} :
      s.loop = .filtering key configResp → Stepped s .dispatch (s.dispatch key configResp)
  | notify (i : Nat) : Stepped s (.notify i) { s with notifying := s.notifying.eraseIdx i }

theorem step_cases {s s' : ConfigWorker} {e : WorkerEvent} (h : s.step e = some s') :
    Stepped s e s' := by
  cases e with
  | addListener dataId group listener =>
    cases h
    exact .addListener dataId group listener
  | addAnswer i answer =>
    simp only [ConfigWorker.step] at h
    split at h
    · cases h
    · next call hcall =>
      cases h
      exact .addAnswer answer hcall
  | removeListener dataId group listener =>
    cases h
    exact .removeListener dataId group listener
  | change key =>
    simp only [ConfigWorker.step] at h
    split at h
    · cases h
      exact .change key
    · cases h
  | recv =>
    simp only [ConfigWorker.step] at h
    split at h
    · next key rest hloop hchange =>
      cases h
      exact .recv hloop hchange
    · cases h
  | changeAnswer answer =>
    simp only [ConfigWorker.step] at h
    split at h
    · next key request query hloop =>
      cases h
      exact .changeAnswer answer hloop
    · cases h
  | dispatch =>
    simp only [ConfigWorker.step] at h
    split at h
    · next key configResp hloop =>
      cases h
      exact .dispatch hloop
    · cases h
  | notify i =>
    simp only [ConfigWorker.step] at h
    split at h
    · cases h
    · cases h
      exact .notify i

/-! ## What an event does to an entry -/

/-- All that an event can do to the entry of a key. -/
inductive EntryChange (s : ConfigWorker) (key : String) :
    WorkerEvent → Option CacheData → Option CacheData → Prop
  | same (e : WorkerEvent) (entry : Option CacheData) : EntryChange s key e entry entry
  | added {dataId group : String} {listener : ConfigListener} (d : CacheData) :
      groupKey dataId group s.namespace_ = key →
      EntryChange s key (.addListener dataId group listener) (some d)
        (some (d.addListener listener))
  | inserted {i : Nat} {call : AddCall} {answer : QueryAnswer} {cacheData : CacheData}
      {tasks : List (ConfigListener × ConfigResponse)} (entry : Option CacheData) :
      s.adding[i]? = some call → call.request.groupKey = key →
      call.entry s.configFilters answer = some (cacheData, tasks) →
      EntryChange s key (.addAnswer i answer) entry (some (cacheData.addListener call.listener))
  | removed {dataId group : String} {listener : ConfigListener} (d : CacheData) :
      groupKey dataId group s.namespace_ = key →
      EntryChange s key (.removeListener dataId group listener) (some d)
        (some (d.removeListener listener))
  | filled {request : ConfigQueryRequest} {query : Nat} {answer : QueryAnswer}
      {configResp : ConfigQueryResponse} (d : CacheData) :
      s.loop = .querying key request query → getConfigInnerAsync answer = .ok configResp →
      EntryChange s key (.changeAnswer answer) (some d) (some (fillData d configResp).1)
  | dispatched {configResp : ConfigResponse} (d : CacheData) :
      s.loop = .filtering key configResp →
      EntryChange s key .dispatch (some d) (some (d.dispatchNotify configResp).1)

section Steps

variable {s s' : ConfigWorker}

theorem addAnswer_cache (s : ConfigWorker) (call : AddCall) (answer : QueryAnswer) (k : String) :
    ((s.addAnswer call answer).unifiedCache.get? k = s.unifiedCache.get? k) ∨
      (call.request.groupKey = k ∧ ∃ cacheData tasks,
        call.entry s.configFilters answer = some (cacheData, tasks) ∧
        (s.addAnswer call answer).unifiedCache.get? k =
          some (cacheData.addListener call.listener)) := by
  unfold ConfigWorker.addAnswer
  cases he : call.entry s.configFilters answer with
  | none => exact Or.inl rfl
  | some entry =>
    obtain ⟨cacheData, tasks⟩ := entry
    simp only [ConfigWorker.register, ConfigWorker.store, HashMap.get?_modify]
    by_cases hk : k = call.request.groupKey
    · refine Or.inr ⟨hk.symm, cacheData, tasks, rfl, ?_⟩
      rw [if_pos hk, hk, HashMap.get?_insert_self, Option.map_some]
    · refine Or.inl ?_
      rw [if_neg hk, HashMap.get?_insert_ne _ _ hk]

theorem changeAnswer_cache (s : ConfigWorker) (key : String) (query : Nat) (answer : QueryAnswer)
    (k : String) :
    ((s.changeAnswer key query answer).unifiedCache.get? k = s.unifiedCache.get? k) ∨
      (k = key ∧ ∃ configResp d, getConfigInnerAsync answer = .ok configResp ∧
        s.unifiedCache.get? key = some d ∧
        (s.changeAnswer key query answer).unifiedCache.get? k =
          some (fillData d configResp).1) := by
  unfold ConfigWorker.changeAnswer
  cases ha : getConfigInnerAsync answer with
  | error e => exact Or.inl rfl
  | ok configResp =>
    cases hd : s.unifiedCache.get? key with
    | none => exact Or.inl rfl
    | some d =>
      by_cases hk : k = key
      · refine Or.inr ⟨hk, configResp, d, rfl, rfl, ?_⟩
        rw [hk]
        exact HashMap.get?_insert_self _ _ _
      · exact Or.inl (HashMap.get?_insert_ne _ _ hk)

/-- What the answer of the query leaves behind. -/
theorem changeAnswer_some {key : String} (query : Nat) {answer : QueryAnswer}
    {configResp : ConfigQueryResponse} {d : CacheData}
    (ha : getConfigInnerAsync answer = .ok configResp) (hd : s.unifiedCache.get? key = some d) :
    s.changeAnswer key query answer =
      { s.store key query (fillData d configResp).1 with
        loop := .afterFill key (fillData d configResp).1 (fillData d configResp).2 } := by
  simp only [ConfigWorker.changeAnswer, ha, hd]

theorem dispatch_cache (s : ConfigWorker) (key : String) (configResp : ConfigResponse)
    (k : String) :
    (s.dispatch key configResp).unifiedCache.get? k =
      if k = key then (s.unifiedCache.get? k).map fun d => (d.dispatchNotify configResp).1
      else s.unifiedCache.get? k := by
  unfold ConfigWorker.dispatch
  by_cases hk : k = key
  · rw [if_pos hk, hk]
    cases hd : s.unifiedCache.get? key with
    | none => simp only [hd, Option.map_none]
    | some d => simp only [HashMap.get?_insert_self, Option.map_some]
  · rw [if_neg hk]
    cases s.unifiedCache.get? key with
    | none => rfl
    | some d => exact HashMap.get?_insert_ne _ _ hk

/-- **One event.** -/
theorem step_entry {e : WorkerEvent} (h : s.step e = some s') (key : String) :
    EntryChange s key e (s.unifiedCache.get? key) (s'.unifiedCache.get? key) := by
  cases step_cases h with
  | addListener dataId group listener =>
    simp only [ConfigWorker.addListener]
    split
    · rw [ConfigWorker.register, HashMap.get?_modify]
      split
      · next hk =>
        cases hd : s.unifiedCache.get? key with
        | none => exact .same _ _
        | some d => exact .added d hk.symm
      · exact .same _ _
    · exact .same _ _
  | @addAnswer i call answer hcall =>
    rcases addAnswer_cache { s with adding := s.adding.eraseIdx i } call answer key with
      hsame | ⟨hk, cacheData, tasks, he, hs⟩
    · rw [hsame]
      exact .same _ _
    · rw [hs]
      exact .inserted _ hcall hk he
  | removeListener dataId group listener =>
    rw [ConfigWorker.removeListener, HashMap.get?_modify]
    split
    · next hk =>
      cases hd : s.unifiedCache.get? key with
      | none => exact .same _ _
      | some d => exact .removed d hk.symm
    · exact .same _ _
  | recv =>
    unfold ConfigWorker.recv
    split <;> exact .same _ _
  | @changeAnswer k request query answer hloop =>
    rcases changeAnswer_cache s k query answer key with hsame | ⟨rfl, resp, d, ha, hd, hs⟩
    · rw [hsame]
      exact .same _ _
    · rw [hs, hd]
      exact .filled d hloop ha
  | @dispatch k configResp hloop =>
    rw [dispatch_cache]
    split
    · next hk =>
      cases hd : s.unifiedCache.get? key with
      | none => exact .same _ _
      | some d => exact .dispatched d (hk ▸ hloop)
    · exact .same _ _
  | change | notify => exact .same _ _

/-- What every change of an entry preserves holds of every entry. -/
theorem step_entries {P : String → CacheData → Prop} {e : WorkerEvent}
    (hadd : ∀ key d listener, P key d → P key (d.addListener listener))
    (hremove : ∀ key d listener, P key d → P key (d.removeListener listener))
    (hfill : ∀ key d configResp, P key d → P key (fillData d configResp).1)
    (hdispatch : ∀ key d configResp, P key d → P key (d.dispatchNotify configResp).1)
    (hinsert : ∀ call ∈ s.adding, ∀ answer cacheData tasks,
      call.entry s.configFilters answer = some (cacheData, tasks) →
      P call.request.groupKey cacheData)
    (h : s.step e = some s') (hp : ∀ key d, s.unifiedCache.get? key = some d → P key d) :
    ∀ key d, s'.unifiedCache.get? key = some d → P key d := by
  intro key d' hd'
  have hchange := step_entry h key
  rw [hd'] at hchange
  generalize hentry : s.unifiedCache.get? key = entry at hchange
  cases hchange with
  | same => exact hp key d' hentry
  | added d => exact hadd key d _ (hp key d hentry)
  | inserted _ hcall hkey he =>
    rw [← hkey]
    exact hadd _ _ _ (hinsert _ (List.mem_of_getElem? hcall) _ _ _ he)
  | removed d => exact hremove key d _ (hp key d hentry)
  | filled d => exact hfill key d _ (hp key d hentry)
  | dispatched d => exact hdispatch key d _ (hp key d hentry)

end Steps

/-! ## Reading a config -/

/-- The query of `get_config` and the filters; `none` is a panic. -/
def queryConfig (configFilters : List ConfigFilter) (request : ConfigQueryRequest)
    (answer : QueryAnswer) : Option (Except Error ConfigResponse) :=
  match getConfigInnerAsync answer with
  | .error e => some (.error e)
  | .ok configResp =>
    match configResp.content with
    | none => none
    | some content =>
      let confResp := applyFilters configFilters
        ⟨request.dataId, request.group, request.namespace_, content,
          configResp.encryptedDataKey.getD ""⟩
      match configResp.contentType, configResp.md5 with
      | some contentType, some md5 =>
        some (.ok
          { dataId := confResp.dataId
            group := confResp.group
            namespace_ := confResp.namespace_
            content := confResp.content
            contentType := contentType
            md5 := md5 })
      | _, _ => none

/-- `get_config` answers from an entry with content and md5. -/
def CacheData.served (d : CacheData) : Bool := d.content ≠ "" && d.md5 ≠ ""

/-- `get_config`, where its own query would come back with `answer`. -/
def ConfigWorker.getConfig (s : ConfigWorker) (dataId group : String) (answer : QueryAnswer) :
    Option (Except Error ConfigResponse) :=
  let request : ConfigQueryRequest := ⟨dataId, group, s.namespace_⟩
  match (s.unifiedCache.get? request.groupKey).filter CacheData.served with
  | some d => some (.ok (filteredResponse d.respSnapshot))
  | none => queryConfig s.configFilters request answer

/-- A worker reads the configs of its own namespace. -/
theorem ConfigWorker.getConfig_request {s : ConfigWorker} {request : ConfigQueryRequest}
    (hns : s.namespace_ = request.namespace_) (answer : QueryAnswer) :
    s.getConfig request.dataId request.group answer =
      match (s.unifiedCache.get? request.groupKey).filter CacheData.served with
      | some d => some (.ok (filteredResponse d.respSnapshot))
      | none => queryConfig s.configFilters request answer := by
  have hrequest : (⟨request.dataId, request.group, s.namespace_⟩ : ConfigQueryRequest) =
      request := by
    rw [hns]
  simp only [ConfigWorker.getConfig, hrequest]

/-! ## Configs of the server -/

structure ServerConfig where
  content : String
  contentType : String
  md5 : String
  encryptedDataKey : Option String
  lastModified : Int
  deriving DecidableEq

/-- A successful answer with a config. -/
structure Carries (resp : ConfigQueryResponse) (config : ServerConfig) : Prop where
  success : resp.isSuccess = true
  contentType : resp.contentType = some config.contentType
  content : resp.content = some config.content
  md5 : resp.md5 = some config.md5
  encryptedDataKey : resp.encryptedDataKey = config.encryptedDataKey
  lastModified : resp.lastModified = config.lastModified

/-- What the user should see of a config. -/
def ServerConfig.seenThrough (config : ServerConfig) (configFilters : List ConfigFilter)
    (request : ConfigQueryRequest) : ConfigResponse :=
  let confResp := applyFilters configFilters
    ⟨request.dataId, request.group, request.namespace_, config.content,
      config.encryptedDataKey.getD ""⟩
  { dataId := confResp.dataId
    group := confResp.group
    namespace_ := confResp.namespace_
    content := confResp.content
    contentType := config.contentType
    md5 := config.md5 }

/-- The entry is the one of the config, with these filters. -/
structure Own (request : ConfigQueryRequest) (configFilters : List ConfigFilter)
    (d : CacheData) : Prop where
  dataId : d.dataId = request.dataId
  group : d.group = request.group
  namespace_ : d.namespace_ = request.namespace_
  configFilters : d.configFilters = configFilters

structure Holds (d : CacheData) (config : ServerConfig) : Prop where
  contentType : d.contentType = config.contentType
  content : d.content = config.content
  md5 : d.md5 = config.md5
  encryptedDataKey : d.encryptedDataKey = config.encryptedDataKey.getD ""

section Serve

variable {resp : ConfigQueryResponse} {config : ServerConfig}

theorem carries_ok (h : Carries resp config) : getConfigInnerAsync (.ok resp) = .ok resp := by
  simp [getConfigInnerAsync, h.success]

theorem queryConfig_carries (h : Carries resp config) (configFilters : List ConfigFilter)
    (request : ConfigQueryRequest) :
    queryConfig configFilters request (.ok resp) =
      some (.ok (config.seenThrough configFilters request)) := by
  simp only [queryConfig, carries_ok h, h.content, h.contentType, h.md5, h.encryptedDataKey]
  rfl

/-- An entry filled with a config holds all of it. -/
theorem fillData_carries (h : Carries resp config) (d : CacheData) :
    fillData d resp =
      ({ d with
          contentType := config.contentType
          content := config.content
          md5 := config.md5
          encryptedDataKey := config.encryptedDataKey.getD ""
          lastModified := config.lastModified
          initializing := false }, some (!d.initializing)) := by
  rw [fillData_complete d h.contentType h.content h.md5, h.encryptedDataKey, h.lastModified]

theorem filteredResponse_seenThrough {request : ConfigQueryRequest}
    {configFilters : List ConfigFilter} {d : CacheData}
    (hown : Own request configFilters d) (hholds : Holds d config) :
    filteredResponse d.respSnapshot = config.seenThrough configFilters request := by
  simp only [filteredResponse, CacheData.respSnapshot, ServerConfig.seenThrough, hown.dataId,
    hown.group, hown.namespace_, hown.configFilters, hholds.content, hholds.contentType,
    hholds.md5, hholds.encryptedDataKey]

end Serve

/-! ## A worker with one config -/

def appConfig (content md5 : String) : ConfigQueryResponse :=
  { GrpcResponse.ok with
    contentType := some "text"
    content := some content
    md5 := some md5
    encryptedDataKey := none
    lastModified := 0 }

/-- The answer for a config that does not exist. -/
def appNotFound : ConfigQueryResponse :=
  { resultCode := 500
    errorCode := configNotFoundCode
    message := some "config data not exist"
    contentType := none
    content := none
    md5 := none
    encryptedDataKey := none
    lastModified := 0 }

def appKey : String := groupKey "app.yaml" "DEFAULT_GROUP" "public"

def workerStart : ConfigWorker := ConfigWorker.new "public" [] ∅

/-- Where a run from an empty cache ends. -/
def workerAfter (es : List WorkerEvent) : ConfigWorker :=
  (run ConfigWorker.step workerStart es).getD workerStart

def appRequest : ConfigQueryRequest := ⟨"app.yaml", "DEFAULT_GROUP", "public"⟩

def ServerConfig.response (config : ServerConfig) : ConfigQueryResponse :=
  { GrpcResponse.ok with
    contentType := some config.contentType
    content := some config.content
    md5 := some config.md5
    encryptedDataKey := config.encryptedDataKey
    lastModified := config.lastModified }

end NacosSdk.Config
