import NacosSdk.Config.Coherence

/-!
# The list-watch of the config cache

The task `list_ensure_cache_data_newest` of `config/worker.rs` beside the worker
and its server. Each round sends the md5 of every cached config; the server names
those that changed, and the task puts their keys into the channel. Notifications
of the server may get lost between the rounds. Proved here:

* `system_noted`, `watch_noted`: what one event preserves;
* `listWatch_heals`: one round brings every entry up to date, however outdated
  the cache was before.
-/

namespace NacosSdk.Config
open NacosSdk.Common NacosSdk.Lib.Run NacosSdk.Lib.Pending

/-! ## The request -/

structure ConfigListenContext where
  dataId : String
  group : String
  tenant : String
  md5 : String
  deriving DecidableEq

structure ConfigContext where
  dataId : String
  group : String
  namespace_ : String
  deriving DecidableEq

structure ConfigChangeBatchListenResponse extends GrpcResponse where
  changedConfigs : Option (List ConfigContext)
  deriving DecidableEq

def CacheData.listenContext (c : CacheData) : ConfigListenContext where
  dataId := c.dataId
  group := c.group
  tenant := c.namespace_
  md5 := c.md5

def ConfigListenContext.request (context : ConfigListenContext) : ConfigQueryRequest where
  dataId := context.dataId
  group := context.group
  namespace_ := context.tenant

def ConfigQueryRequest.context (request : ConfigQueryRequest) : ConfigContext where
  dataId := request.dataId
  group := request.group
  namespace_ := request.namespace_

/-- How the server answers: it names every config whose md5 is another one. -/
structure ListenAnswers where
  answer : (ConfigQueryRequest → Option ServerConfig) → List ConfigListenContext →
    ConfigChangeBatchListenResponse
  succeeds : ∀ configs contexts, (answer configs contexts).isSuccess = true
  names : ∀ configs contexts, ∃ changed, (answer configs contexts).changedConfigs = some changed ∧
    ∀ context ∈ contexts, ∀ config, configs context.request = some config →
      config.md5 ≠ context.md5 → context.request.context ∈ changed

/-! ## The task -/

/-- Where the task stands. -/
inductive WatchAt where
  | top
  | asking (contexts : List ConfigListenContext)
  | answering (resp : ConfigChangeBatchListenResponse)
  | sending (keys : List String)
  | sleeping

/-- The keys of an answer. -/
def ConfigChangeBatchListenResponse.keys (resp : ConfigChangeBatchListenResponse) : List String :=
  if resp.isSuccess then
    match resp.changedConfigs with
    | some changed => changed.map fun context =>
        groupKey context.dataId context.group context.namespace_
    | none => []
  else []

structure Watched where
  sys : System
  place : WatchAt

/-- The contexts of a round. -/
def Watched.contexts (s : Watched) : List ConfigListenContext :=
  s.sys.worker.unifiedCache.values.map CacheData.listenContext

inductive WatchEvent where
  /-- An event of the worker or of the server. -/
  | system (e : SystemEvent)
  /-- Notification `i` is lost. -/
  | lose (i : Nat)
  /-- The task reads the cache and sends its request, if there is an entry. -/
  | list
  /-- The server answers. -/
  | serve
  /-- The answer arrives. -/
  | answered
  /-- The request fails. -/
  | failed
  /-- The next key is sent; the task sleeps after the last one. -/
  | send
  | wake

def Watched.step (answers : QueryAnswers) (listens : ListenAnswers) (s : Watched) :
    WatchEvent → Option Watched
  | .system e => (s.sys.step answers e).map fun sys => { s with sys := sys }
  | .lose i => some { s with sys := { s.sys with pushes := s.sys.pushes.eraseIdx i } }
  | .list =>
    match s.place with
    | .top => some { s with place := if s.contexts.isEmpty then .sleeping else .asking s.contexts }
    | _ => none
  | .serve =>
    match s.place with
    | .asking contexts => some { s with place := .answering (listens.answer s.sys.configs contexts) }
    | _ => none
  | .answered =>
    match s.place with
    | .answering resp => some { s with place := .sending resp.keys }
    | _ => none
  | .failed =>
    match s.place with
    | .asking _ | .answering _ => some { s with place := .sleeping }
    | _ => none
  | .send =>
    match s.place with
    | .sending (key :: rest) =>
      (s.sys.step answers (.client (.change key))).map fun sys => { sys, place := .sending rest }
    | .sending [] => some { s with place := .sleeping }
    | _ => none
  | .wake =>
    match s.place with
    | .sleeping => some { s with place := .top }
    | _ => none

/-! ## Where the entry of a config comes from -/

/-- Only the config itself is listened to under its key. -/
def OwnsKey (request : ConfigQueryRequest) (s : System) : SystemEvent → Prop
  | .client (.addListener dataId group _) =>
    groupKey dataId group s.worker.namespace_ = request.groupKey →
      dataId = request.dataId ∧ group = request.group
  | _ => True

/-- With `keys` waiting at the handler before the others, and with other failed
queries; no step reads these. -/
def System.beside (s : System) (keys unanswered : List String) : System :=
  { s with pushes := keys ++ s.pushes, unanswered }

def SystemEvent.beside (n : Nat) : SystemEvent → SystemEvent
  | .push i => .push (n + i)
  | e => e

/-- The keys whose query by the loop the event fails. -/
def System.failedBy (s : System) : SystemEvent → List String
  | .client e => s.worker.failed e
  | _ => []

section Steps

variable {answers : QueryAnswers} {listens : ListenAnswers} {request : ConfigQueryRequest}
  {s s' : System}

theorem beside_step {e : SystemEvent} (h : s.step answers e = some s')
    (keys unanswered : List String) :
    (s.beside keys unanswered).step answers (e.beside keys.length) =
      some (s'.beside keys (unanswered ++ s.failedBy e)) := by
  cases e with
  | client e =>
    simp only [System.step] at h
    split at h
    · cases h
    · next hanswered =>
      obtain ⟨worker, hw, rfl⟩ := Option.map_eq_some_iff.mp h
      simp only [System.step, SystemEvent.beside, System.beside, if_neg hanswered, hw,
        Option.map_some, System.failedBy]
      rfl
  | publish r config | remove r =>
    cases h
    simp only [System.step, SystemEvent.beside, System.beside, System.failedBy, List.append_nil,
      List.append_assoc]
  | push i =>
    simp only [System.step] at h
    split at h
    · cases h
    · next k hk =>
      obtain ⟨worker, hw, rfl⟩ := Option.map_eq_some_iff.mp h
      have hlater : keys.length ≤ keys.length + i := Nat.le_add_right _ _
      simp only [System.step, SystemEvent.beside, System.beside, System.failedBy, List.append_nil,
        List.getElem?_append_right hlater, List.eraseIdx_append_of_length_le hlater,
        Nat.add_sub_cancel_left, hk, hw, Option.map_some]
  | serve query =>
    simp only [System.step] at h
    split at h
    · next r hasked hserved =>
      cases h
      simp only [System.step, SystemEvent.beside, System.beside, System.failedBy, List.append_nil,
        hasked, hserved]
    · cases h
  | addAnswer i =>
    simp only [System.step] at h
    split at h
    · cases h
    · next resp hresp =>
      obtain ⟨worker, hw, rfl⟩ := Option.map_eq_some_iff.mp h
      simp only [System.step, SystemEvent.beside, System.beside, System.failedBy, List.append_nil,
        hresp, hw, Option.map_some]
  | changeAnswer =>
    simp only [System.step] at h
    split at h
    · next k r q hloop =>
      split at h
      · cases h
      · next resp hresp =>
        obtain ⟨worker, hw, rfl⟩ := Option.map_eq_some_iff.mp h
        simp only [System.step, SystemEvent.beside, System.beside, System.failedBy,
          List.append_nil, hloop, hresp, hw, Option.map_some]
    · cases h

/-- As if one more notification waited at the handler. -/
def System.promised (s : System) (key : String) : System := s.beside [key] []

theorem promised_waiting (s : System) (key : String) : (s.promised key).Waiting key :=
  Or.inl List.mem_cons_self

/-- What does not depend on whether the entry is outdated. -/
def Sited (answers : QueryAnswers) (request : ConfigQueryRequest) (s : System) : Prop :=
  Fresh answers request (s.promised request.groupKey)

/-- Of the rest of the system only the worker counts. -/
theorem sited_of_worker (h : Fresh answers request s) (hw : s'.worker = s.worker) :
    Sited answers request s' := by
  cases s
  cases s'
  cases hw
  exact ⟨h.namespace_, h.calls, h.named, h.asked,
    fun _ _ _ _ _ => Or.inr (promised_waiting _ _),
    fun _ _ => Or.inr (Or.inl (promised_waiting _ _))⟩

theorem step_sited {e : SystemEvent} (hok : OwnsKey request s e)
    (hstep : s.step answers e = some s') (h : Sited answers request s) :
    Sited answers request s' := by
  have hstores : StoresCurrent answers request (s.promised request.groupKey) (e.beside 1) := by
    cases e with
    | client e => cases e <;> exact hok
    | addAnswer i =>
      intro _ _ _ _ _ _
      exact Or.inr (Or.inl (promised_waiting s request.groupKey))
    | publish | remove | push | serve | changeAnswer => trivial
  have hpromised := beside_step hstep [request.groupKey] []
  exact sited_of_worker (step_fresh hstores hpromised h) rfl

/-! ## What an event of the system does to the entry -/

/-- As `Current`, as far as the md5 tells. -/
def UpToDate (d : CacheData) (config : Option ServerConfig) : Prop :=
  d.served = false ∨ config = none ∨ ∃ c, config = some c ∧ d.md5 = c.md5

theorem current_upToDate {d : CacheData} {config : Option ServerConfig} (h : Current d config) :
    UpToDate d config :=
  h.imp_right fun h => h.imp_right fun ⟨c, hc, hholds⟩ => ⟨c, hc, hholds.md5⟩

/-- The entry is the one before, but for its listeners. -/
structure SameText (d d' : CacheData) : Prop where
  md5 : d'.md5 = d.md5
  served : d'.served = d.served

theorem sameText_upToDate {d d' : CacheData} (h : SameText d d') {config : Option ServerConfig}
    (hd : UpToDate d config) : UpToDate d' config := by
  unfold UpToDate at *
  rwa [h.md5, h.served]

/-- An answer on the way to the loop is the current one, or a notification waits. -/
def AnswerCurrent (answers : QueryAnswers) (request : ConfigQueryRequest) (s : System) : Prop :=
  ∀ r q resp, s.worker.loop = .querying request.groupKey r q → s.served q = some resp →
    resp = answers.answer (s.configs request) ∨ s.Waiting request.groupKey

theorem pending_fresh (h : Sited answers request s)
    (ha : AnswerCurrent answers request s) (hp : s.Pending request.groupKey) :
    Fresh answers request s :=
  ⟨h.namespace_, h.calls, h.named, h.asked, ha, fun _ _ => Or.inr hp⟩

/-- A query begins with a notification. -/
theorem begun_notified {worker worker' : ConfigWorker} {e : WorkerEvent} {key : String}
    {r : ConfigQueryRequest} {q : Nat} (h : worker.step e = some worker')
    (hl : worker'.loop = .querying key r q) :
    worker.loop = .querying key r q ∨ key ∈ worker.notifyChange := by
  rcases (step_rest h).begun key r q hl with hold | ⟨rfl, _, d, _, _⟩
  · exact Or.inl hold
  · cases step_cases h with
    | @recv k rest hloop hchange =>
      refine Or.inr ?_
      simp only [ConfigWorker.recv] at hl
      split at hl
      · rw [hloop] at hl
        cases hl
      · cases hl
        rw [hchange]
        exact List.mem_cons_self

/-- The loop takes up no query of a config that nothing is pending for. -/
theorem quiet_notAsking {e : SystemEvent} (hstep : s.step answers e = some s')
    (hp : ¬ s.Pending request.groupKey) (r : ConfigQueryRequest) (q : Nat) :
    s'.worker.loop ≠ .querying request.groupKey r q := by
  intro hl
  rcases system_moved request hstep with ⟨hworker, _⟩ | ⟨_, we, hw, _⟩
  · rw [hworker] at hl
    exact hp (Or.inr (Or.inl ⟨r, q, hl⟩))
  · rcases begun_notified hw hl with hold | hnotified
    · exact hp (Or.inr (Or.inl ⟨r, q, hold⟩))
    · exact hp (Or.inl (Or.inr hnotified))

theorem step_answerCurrent {e : SystemEvent} (hok : StoresCurrent answers request s e)
    (hstep : s.step answers e = some s') (h : Sited answers request s)
    (ha : AnswerCurrent answers request s) : AnswerCurrent answers request s' := by
  by_cases hp : s.Pending request.groupKey
  · exact (step_fresh hok hstep (pending_fresh h ha hp)).answered
  · exact fun r q _ hl => absurd hl (quiet_notAsking hstep hp r q)

/-- An entry that a call inserts with nothing pending is current. -/
theorem inserted_current {e : SystemEvent} {we : WorkerEvent} {i : Nat} {call : AddCall}
    {answer : QueryAnswer} {cacheData : CacheData}
    {tasks : List (ConfigListener × ConfigResponse)} (hok : StoresCurrent answers request s e)
    (hans : AnswersOf s e we) (hwe : we = .addAnswer i answer)
    (hcall : s.worker.adding[i]? = some call) (hkey : call.request.groupKey = request.groupKey)
    (he : call.entry s.worker.configFilters answer = some (cacheData, tasks))
    (hp : ¬ s.Pending request.groupKey) : Current cacheData (s.configs request) := by
  rcases (entry_cases he).2 with ⟨filled, ha, hf⟩ | ⟨_, rfl⟩
  · obtain ⟨hsame, hsuccess⟩ := getConfigInnerAsync_ok ha
    rcases hans i answer hwe with ⟨err, herr⟩ | ⟨call', resp, rfl, hcall', hserved, hresp⟩
    · rw [herr] at hsame
      cases hsame
    · rw [hcall] at hcall'
      cases hcall'
      rw [hresp] at hsame ha
      cases hsame
      rcases hok call filled hcall hserved hkey hsuccess with rfl | hpend
      · have hcurrent := current_of_answer ha (CacheData.new s.worker.configFilters
          call.request.dataId call.request.group call.request.namespace_)
        rw [hf] at hcurrent
        exact hcurrent
      · exact absurd hpend hp
  · exact Or.inl rfl

/-- The entry after an event is current, or pending, or it is the one before. -/
theorem step_entryFrom {e : SystemEvent} (hok : StoresCurrent answers request s e)
    (hstep : s.step answers e = some s') (h : Sited answers request s)
    (ha : AnswerCurrent answers request s) {d' : CacheData}
    (hd' : s'.worker.unifiedCache.get? request.groupKey = some d') :
    (Current d' (s'.configs request) ∨ s'.Pending request.groupKey) ∨
      (¬ s.Pending request.groupKey ∧ s'.configs request = s.configs request ∧ ∃ d,
        s.worker.unifiedCache.get? request.groupKey = some d ∧ SameText d d') := by
  by_cases hp : s.Pending request.groupKey
  · exact Or.inl ((step_fresh hok hstep (pending_fresh h ha hp)).current d' hd')
  · rcases system_moved request hstep with
      ⟨hworker, hsame | hwait⟩ | ⟨hconfigs, we, hw, hans⟩
    · rw [hworker] at hd'
      exact Or.inr ⟨hp, hsame, d', hd', rfl, rfl⟩
    · exact Or.inl (Or.inr (Or.inl hwait))
    · have hentry := step_entry hw request.groupKey
      rw [hd'] at hentry
      rw [hconfigs]
      generalize hbefore : s.worker.unifiedCache.get? request.groupKey = before at hentry
      generalize hwe : we = event at hentry
      cases hentry with
      | same => exact Or.inr ⟨hp, rfl, d', rfl, rfl, rfl⟩
      | added d | removed d | dispatched d => exact Or.inr ⟨hp, rfl, d, rfl, rfl, rfl⟩
      | inserted _ hcall hkey he =>
        have hcurrent := inserted_current hok hans hwe hcall hkey he hp
        exact Or.inl (Or.inl (current_listeners hcurrent _))
      | filled d hloop => exact absurd (Or.inr (Or.inl ⟨_, _, hloop⟩)) hp

/-! ## Without the failed queries -/

/-- A notification of the key waits or is asked for; a query that failed leaves
nothing behind. -/
def System.Unsettled (s : System) (key : String) : Prop := s.Waiting key ∨ s.Asking key

/-- The failed queries forgotten. -/
def System.recount (s : System) : System := s.beside [] []

theorem recount_step {e : SystemEvent} (h : s.step answers e = some s') :
    s.recount.step answers e = some (s'.beside [] (s.failedBy e)) := by
  have hsame : e.beside 0 = e := by
    cases e with
    | push i => rw [SystemEvent.beside, Nat.zero_add]
    | client | publish | remove | serve | addAnswer | changeAnswer => rfl
  have hstep := beside_step h [] []
  rwa [List.length_nil, hsame] at hstep

/-- The event stores no outdated answer of a call with nothing waiting or asked
for, and fails no query of the loop for the config. -/
structure Undisturbed (answers : QueryAnswers) (request : ConfigQueryRequest) (s : System)
    (e : SystemEvent) : Prop where
  stores : StoresCurrent answers request s.recount e
  answered : request.groupKey ∉ s.failedBy e

theorem recount_pending {key : String} {unanswered : List String} (h : key ∉ unanswered)
    (hp : (s.beside [] unanswered).Pending key) : s.Unsettled key := by
  rcases hp with hwait | hask | hun
  · exact Or.inl hwait
  · exact Or.inr hask
  · exact absurd hun h

theorem undisturbed_answerCurrent {e : SystemEvent} (hok : Undisturbed answers request s e)
    (hstep : s.step answers e = some s') (h : Sited answers request s)
    (ha : AnswerCurrent answers request s) : AnswerCurrent answers request s' := by
  have hsited : Sited answers request s.recount := sited_of_worker h rfl
  have hnext : AnswerCurrent answers request (s'.beside [] (s.failedBy e)) :=
    step_answerCurrent hok.stores (recount_step hstep) hsited ha
  exact hnext

/-- The entry after such an event is current, or unsettled, or it is the one
before. -/
theorem undisturbed_entryFrom {e : SystemEvent} (hok : Undisturbed answers request s e)
    (hstep : s.step answers e = some s') (h : Sited answers request s)
    (ha : AnswerCurrent answers request s) {d' : CacheData}
    (hd' : s'.worker.unifiedCache.get? request.groupKey = some d') :
    (Current d' (s'.configs request) ∨ s'.Unsettled request.groupKey) ∨
      (¬ s.Unsettled request.groupKey ∧ s'.configs request = s.configs request ∧ ∃ d,
        s.worker.unifiedCache.get? request.groupKey = some d ∧ SameText d d') := by
  have hsited : Sited answers request s.recount := sited_of_worker h rfl
  rcases step_entryFrom hok.stores (recount_step hstep) hsited ha hd' with
    (hcurrent | hpending) | ⟨hp, hrest⟩
  · exact Or.inl (Or.inl hcurrent)
  · exact Or.inl (Or.inr (recount_pending hok.answered hpending))
  · refine Or.inr ⟨fun hu => hp ?_, hrest⟩
    exact hu.imp_right Or.inl

/-! ## A round -/

/-- The round has the entry's md5 under way, or the key of its config; at the top
of the loop every entry is still to be read. -/
def WatchAt.Noted (request : ConfigQueryRequest) (d : CacheData) : WatchAt → Prop
  | .top => True
  | .asking contexts => ∃ context ∈ contexts, context.request = request ∧ context.md5 = d.md5
  | .answering resp => request.groupKey ∈ resp.keys
  | .sending keys => request.groupKey ∈ keys
  | .sleeping => False

/-- An entry is up to date, unsettled, or noted in the round. -/
structure Healing (answers : QueryAnswers) (request : ConfigQueryRequest) (s : Watched) :
    Prop where
  sited : Sited answers request s.sys
  answer : AnswerCurrent answers request s.sys
  entry : ∀ d, s.sys.worker.unifiedCache.get? request.groupKey = some d →
    UpToDate d (s.sys.configs request) ∨ s.sys.Unsettled request.groupKey ∨
      s.place.Noted request d

/-- In the round the events are undisturbed, no notification of the config gets
lost and the request of the task is answered. -/
def InRound (answers : QueryAnswers) (request : ConfigQueryRequest) (s : Watched) :
    WatchEvent → Prop
  | .system e => Undisturbed answers request s.sys e
  | .lose i => s.sys.pushes[i]? ≠ some request.groupKey
  | .failed | .wake => False
  | .list | .serve | .answered | .send => True

theorem noted_sameText {d d' : CacheData} (h : SameText d d') {place : WatchAt}
    (hd : place.Noted request d) : place.Noted request d' := by
  cases place with
  | asking contexts =>
    obtain ⟨context, hm, hrequest, hmd5⟩ := hd
    exact ⟨context, hm, hrequest, hmd5.trans h.md5.symm⟩
  | top | answering resp | sending keys | sleeping => exact hd

/-- Its first half does not depend on the entries. -/
theorem ownsKey_of_stores {e : SystemEvent} (h : StoresCurrent answers request s.recount e) :
    OwnsKey request s e := by
  cases e with
  | client e => cases e <;> exact h
  | publish | remove | push | serve | addAnswer | changeAnswer => trivial

theorem system_noted {w w' : Watched} {e : SystemEvent}
    (hok : Undisturbed answers request w.sys e)
    (hstep : w.sys.step answers e = some w'.sys) (hplace : w'.place = w.place)
    (h : Healing answers request w) :
    Healing answers request w' := by
  refine ⟨step_sited (ownsKey_of_stores hok.stores) hstep h.sited,
    undisturbed_answerCurrent hok hstep h.sited h.answer, ?_⟩
  intro d' hd'
  rcases undisturbed_entryFrom hok hstep h.sited h.answer hd' with
    (hcurrent | hunsettled) | ⟨hsettled, hconfigs, d, hd, hsame⟩
  · exact Or.inl (current_upToDate hcurrent)
  · exact Or.inr (Or.inl hunsettled)
  · rw [hconfigs, hplace]
    rcases h.entry d hd with hupToDate | hunsettled | hnoted
    · exact Or.inl (sameText_upToDate hsame hupToDate)
    · exact absurd hunsettled hsettled
    · exact Or.inr (Or.inr (noted_sameText hsame hnoted))

theorem lose_noted {w : Watched} {i : Nat} (hok : w.sys.pushes[i]? ≠ some request.groupKey)
    (h : Healing answers request w) :
    Healing answers request
      { w with sys := { w.sys with pushes := w.sys.pushes.eraseIdx i } } := by
  have hpush : request.groupKey ∈ w.sys.pushes →
      request.groupKey ∈ w.sys.pushes.eraseIdx i := by
    intro hm
    cases hk : w.sys.pushes[i]? with
    | none => rwa [List.eraseIdx_of_length_le (List.getElem?_eq_none_iff.mp hk)]
    | some key =>
      rcases mem_eraseIdx_or hk hm with rfl | hstill
      · exact absurd hk hok
      · exact hstill
  refine ⟨sited_of_worker h.sited rfl, ?_, ?_⟩
  · intro r q resp hl hresp
    exact (h.answer r q resp hl hresp).imp_right fun hw => hw.imp_left hpush
  · intro d hd
    rcases h.entry d hd with hupToDate | hunsettled | hnoted
    · exact Or.inl hupToDate
    · exact Or.inr (Or.inl (hunsettled.imp_left fun hw => hw.imp_left hpush))
    · exact Or.inr (Or.inr hnoted)

/-- The task reads every entry. -/
theorem list_noted {w : Watched} (h : Healing answers request w) :
    Healing answers request
      { w with
        place := if w.contexts.isEmpty then .sleeping else .asking w.contexts } := by
  refine ⟨sited_of_worker h.sited rfl, h.answer, ?_⟩
  intro d hd
  have hnamed := h.sited.named d hd
  have hcontext : d.listenContext ∈ w.contexts :=
    List.mem_map_of_mem ((HashMap.mem_values _ _).mpr ⟨_, hd⟩)
  have hnonempty : w.contexts.isEmpty = false := by
    cases hc : w.contexts with
    | nil =>
      rw [hc] at hcontext
      cases hcontext
    | cons _ _ => rfl
  refine Or.inr (Or.inr ?_)
  rw [hnonempty]
  refine ⟨d.listenContext, hcontext, ?_, rfl⟩
  unfold ConfigListenContext.request CacheData.listenContext
  rw [hnamed.dataId, hnamed.group, hnamed.namespace_]

/-- The server names the config if the entry has another md5. -/
theorem serve_noted {w : Watched} {contexts : List ConfigListenContext}
    (hplace : w.place = .asking contexts) (h : Healing answers request w) :
    Healing answers request
      { w with place := .answering (listens.answer w.sys.configs contexts) } := by
  refine ⟨h.sited, h.answer, ?_⟩
  intro d hd
  rcases h.entry d hd with hupToDate | hunsettled | hnoted
  · exact Or.inl hupToDate
  · exact Or.inr (Or.inl hunsettled)
  · rw [hplace] at hnoted
    obtain ⟨context, hm, hrequest, hmd5⟩ := hnoted
    cases hc : w.sys.configs request with
    | none => exact Or.inl (Or.inr (Or.inl rfl))
    | some config =>
      by_cases hsame : d.md5 = config.md5
      · exact Or.inl (Or.inr (Or.inr ⟨config, rfl, hsame⟩))
      · obtain ⟨changed, hchanged, hnames⟩ := listens.names w.sys.configs contexts
        have hnamed : context.request.context ∈ changed := by
          apply hnames context hm config
          · rw [hrequest, hc]
          · rw [hmd5]
            exact Ne.symm hsame
        refine Or.inr (Or.inr ?_)
        simp only [WatchAt.Noted, ConfigChangeBatchListenResponse.keys, listens.succeeds, hchanged,
          if_true]
        refine List.mem_map.mpr ⟨_, hnamed, ?_⟩
        rw [hrequest]
        rfl

/-- A key that is sent waits in the channel. -/
theorem send_noted {w : Watched} {key : String} {rest : List String} {sys : System}
    (hplace : w.place = .sending (key :: rest))
    (hstep : w.sys.step answers (.client (.change key)) = some sys)
    (h : Healing answers request w) :
    Healing answers request { sys, place := .sending rest } := by
  have hsent : key ∈ sys.worker.notifyChange := by
    simp only [System.step, WorkerEvent.isAnswered, Bool.false_eq_true, if_false] at hstep
    obtain ⟨worker, hw, rfl⟩ := Option.map_eq_some_iff.mp hstep
    cases step_cases hw
    exact List.mem_append_right _ (List.mem_singleton_self key)
  have hok : Undisturbed answers request w.sys (.client (.change key)) :=
    ⟨trivial, List.not_mem_nil⟩
  have hafter : Healing answers request { w with sys := sys } :=
    system_noted hok hstep rfl h
  refine ⟨hafter.sited, hafter.answer, ?_⟩
  intro d hd
  rcases hafter.entry d hd with hupToDate | hunsettled | hnoted
  · exact Or.inl hupToDate
  · exact Or.inr (Or.inl hunsettled)
  · rw [hplace] at hnoted
    rcases List.mem_cons.mp hnoted with hkey | hrest
    · rw [← hkey] at hsent
      exact Or.inr (Or.inl (Or.inl (Or.inr hsent)))
    · exact Or.inr (Or.inr hrest)

/-- **One event.** -/
theorem watch_noted {w w' : Watched} {e : WatchEvent} (hok : InRound answers request w e)
    (hstep : w.step answers listens e = some w') (h : Healing answers request w) :
    Healing answers request w' := by
  cases e with
  | system e =>
    obtain ⟨sys, hsys, rfl⟩ := Option.map_eq_some_iff.mp hstep
    exact system_noted hok hsys rfl h
  | lose i =>
    cases hstep
    exact lose_noted hok h
  | list =>
    simp only [Watched.step] at hstep
    split at hstep
    · cases hstep
      exact list_noted h
    · cases hstep
  | serve =>
    simp only [Watched.step] at hstep
    split at hstep
    · next contexts hplace =>
      cases hstep
      exact serve_noted hplace h
    · cases hstep
  | answered =>
    simp only [Watched.step] at hstep
    split at hstep
    · next resp hplace =>
      cases hstep
      refine ⟨h.sited, h.answer, fun d hd => ?_⟩
      have hentry := h.entry d hd
      rw [hplace] at hentry
      exact hentry
    · cases hstep
  | send =>
    simp only [Watched.step] at hstep
    split at hstep
    · next key rest hplace =>
      obtain ⟨sys, hsys, rfl⟩ := Option.map_eq_some_iff.mp hstep
      exact send_noted hplace hsys h
    · next hplace =>
      cases hstep
      refine ⟨h.sited, h.answer, fun d hd => ?_⟩
      rcases h.entry d hd with hupToDate | hunsettled | hnoted
      · exact Or.inl hupToDate
      · exact Or.inr (Or.inl hunsettled)
      · rw [hplace] at hnoted
        cases hnoted
    · cases hstep
  | failed | wake => exact hok.elim

/-! ## Whole runs -/

/-- Before the round anything may happen, but that another config is listened to
under the key. -/
def Disturbed (request : ConfigQueryRequest) (s : Watched) : WatchEvent → Prop
  | .system e => OwnsKey request s.sys e
  | _ => True

theorem watch_sited {w w' : Watched} {e : WatchEvent} (hok : Disturbed request w e)
    (hstep : w.step answers listens e = some w')
    (h : Sited answers request w.sys) :
    Sited answers request w'.sys := by
  cases e with
  | system e =>
    obtain ⟨sys, hsys, rfl⟩ := Option.map_eq_some_iff.mp hstep
    exact step_sited hok hsys h
  | lose i =>
    cases hstep
    exact sited_of_worker h rfl
  | list | serve | answered | wake =>
    simp only [Watched.step] at hstep
    split at hstep
    · cases hstep
      exact sited_of_worker h rfl
    · cases hstep
  | failed =>
    simp only [Watched.step] at hstep
    split at hstep
    · cases hstep
      exact h
    · cases hstep
      exact h
    · cases hstep
  | send =>
    simp only [Watched.step] at hstep
    split at hstep
    · next key rest hplace =>
      obtain ⟨sys, hsys, rfl⟩ := Option.map_eq_some_iff.mp hstep
      have hown : OwnsKey request w.sys (.client (.change key)) := trivial
      exact step_sited hown hsys h
    · cases hstep
      exact h
    · cases hstep

/-- A worker that has just loaded any cache. -/
def Watched.start (worker : ConfigWorker) (configs : ConfigQueryRequest → Option ServerConfig) :
    Watched where
  sys := System.start worker configs
  place := .top

theorem start_sited (answers : QueryAnswers) (configFilters : List ConfigFilter)
    {unifiedCache : HashMap CacheData} (configs : ConfigQueryRequest → Option ServerConfig)
    (h : ∀ d, unifiedCache.get? request.groupKey = some d → Named request d) :
    Sited answers request
      (System.start (ConfigWorker.new request.namespace_ configFilters unifiedCache) configs) where
  namespace_ := rfl
  calls := fun _ hm => by cases hm
  named := h
  asked := fun _ _ hl => by cases hl
  answered := fun _ _ _ hl => by cases hl
  current := fun _ _ => Or.inr (Or.inl (promised_waiting _ _))

/-- **Healing.** However outdated the loaded cache was, whatever notifications
and queries failed before: after a round of the list-watch that begins while the
loop is not asking for the config, and in which neither a notification of it is
lost nor its query fails, an entry with content that nothing waits or is asked
for any more has the md5 of the config that the server holds. -/
theorem listWatch_heals {configFilters : List ConfigFilter} {unifiedCache : HashMap CacheData}
    {configs : ConfigQueryRequest → Option ServerConfig} {before es : List WatchEvent}
    {s t : Watched}
    (hload : ∀ d, unifiedCache.get? request.groupKey = some d → Named request d)
    (hbefore : Reaches (Watched.step answers listens) (Disturbed request)
      (Watched.start (ConfigWorker.new request.namespace_ configFilters unifiedCache) configs)
      before s)
    (htop : s.place = .top) (hidle : ¬ s.sys.Asking request.groupKey)
    (hround : Reaches (Watched.step answers listens) (InRound answers request) s es t)
    (hdone : t.place = .sleeping) (hsettled : ¬ t.sys.Unsettled request.groupKey)
    {d : CacheData} {config : ServerConfig}
    (hd : t.sys.worker.unifiedCache.get? request.groupKey = some d) (hserved : d.served = true)
    (hc : t.sys.configs request = some config) : d.md5 = config.md5 := by
  have hsited := hbefore.invariant
    (I := fun w => Sited answers request w.sys)
    (fun _ _ _ hok hstep => watch_sited hok hstep) (start_sited answers configFilters configs hload)
  have hstart : Healing answers request s :=
    ⟨hsited, fun r q _ hl => absurd ⟨r, q, hl⟩ hidle,
      fun _ _ => Or.inr (Or.inr (by rw [htop]; trivial))⟩
  have hend : Healing answers request t :=
    hround.invariant (fun _ _ _ hok hstep => watch_noted hok hstep) hstart
  rcases hend.entry d hd with hupToDate | hunsettled | hnoted
  · rcases hupToDate with hno | hno | ⟨c, hcc, hsame⟩
    · rw [hserved] at hno
      cases hno
    · rw [hc] at hno
      cases hno
    · rw [hc] at hcc
      cases hcc
      exact hsame
  · exact absurd hunsettled hsettled
  · rw [hdone] at hnoted
    exact hnoted.elim

end Steps

/-! ## A lost notification -/

/-- The server names the configs whose md5 is another one. -/
def plainListens : ListenAnswers where
  answer := fun configs contexts =>
    { GrpcResponse.ok with
      changedConfigs := some ((contexts.filter fun context =>
        (configs context.request).any fun config => config.md5 ≠ context.md5).map
          fun context => context.request.context) }
  succeeds := fun _ _ => rfl
  names := by
    intro configs contexts
    refine ⟨_, rfl, ?_⟩
    intro context hm config hc hmd5
    refine List.mem_map.mpr ⟨context, List.mem_filter.mpr ⟨hm, ?_⟩, rfl⟩
    simp [hc, hmd5]

/-- What the disk held of the config; its filters were not stored. -/
def outdatedEntry : CacheData :=
  { CacheData.new [] "app.yaml" "DEFAULT_GROUP" "public" with
    contentType := "yaml", content := "a: 0", md5 := "m0", initializing := false }

def keptFilter : ConfigFilter where
  filterReq := id
  filterResp := id

def outdatedStart : Watched :=
  Watched.start (ConfigWorker.new "public" [keptFilter]
    ((∅ : HashMap CacheData).insert appRequest.groupKey outdatedEntry)) fun _ => none

/-- The query for the first text fails, and the notification of the second is
lost. -/
def lostNotice : List WatchEvent :=
  [.system (.publish appRequest ⟨"a: 1", "yaml", "m1", none, 0⟩), .system (.push 0),
    .system (.client .recv),
    .system (.client (.changeAnswer (.error (.errResult "the connection is not connected")))),
    .system (.publish appRequest ⟨"a: 2", "yaml", "m2", none, 0⟩), .lose 0]

/-- A round in which a third text is published, and what is sent is processed. -/
def healingRound : List WatchEvent :=
  [.list, .serve, .system (.publish appRequest ⟨"a: 3", "yaml", "m3", none, 0⟩), .answered, .send,
    .system (.client .recv), .system (.serve 1), .system (.push 0), .send, .system .changeAnswer,
    .system (.client .dispatch), .system (.client .recv), .system (.serve 2),
    .system .changeAnswer]

def watchedAfter (start : Watched) (es : List WatchEvent) : Watched :=
  (run (Watched.step plainAnswers plainListens) start es).getD start

/-- Events that no guard of a round looks into. -/
def plainEvent : WatchEvent → Bool
  | .system e =>
    match e with
    | .client .recv | .client .dispatch => true
    | .publish _ _ | .push _ | .serve _ | .changeAnswer => true
    | _ => false
  | .list | .serve | .answered | .send => true
  | _ => false

theorem inRound_of_plain (s : Watched) (e : WatchEvent) (h : plainEvent e = true) :
    InRound plainAnswers appRequest s e := by
  cases e with
  | system e =>
    cases e with
    | client e =>
      cases e with
      | recv | dispatch => exact ⟨trivial, List.not_mem_nil⟩
      | addListener | addAnswer | removeListener | change | changeAnswer | notify => cases h
    | remove | addAnswer => cases h
    | publish | push | serve | changeAnswer => exact ⟨trivial, List.not_mem_nil⟩
  | lose | failed | wake => cases h
  | list | serve | answered | send => trivial

theorem listWatch_heals_lost :
    (outdatedStart.sys.worker.unifiedCache.get? appRequest.groupKey).map CacheData.md5 =
        some "m0" ∧
      ((watchedAfter outdatedStart lostNotice).sys.worker.unifiedCache.get?
        appRequest.groupKey).map CacheData.md5 = some "m0" ∧
      ((watchedAfter (watchedAfter outdatedStart lostNotice)
        healingRound).sys.worker.unifiedCache.get? appRequest.groupKey).map CacheData.md5 =
        some "m3" := by
  refine ⟨rfl, rfl, ?_⟩
  have hbefore : Reaches (Watched.step plainAnswers plainListens) (Disturbed appRequest)
      outdatedStart lostNotice (watchedAfter outdatedStart lostNotice) := by
    have hrun : Reaches (Watched.step plainAnswers plainListens) anyStep outdatedStart lostNotice
        (watchedAfter outdatedStart lostNotice) := run_getD_reaches rfl _
    refine (hrun.restrict (P := fun e => ∀ s, Disturbed appRequest s e) ?_).weaken
      fun s _ hok => hok.2 s
    simp [lostNotice, Disturbed, OwnsKey]
  have hround : Reaches (Watched.step plainAnswers plainListens)
      (InRound plainAnswers appRequest) (watchedAfter outdatedStart lostNotice) healingRound
      (watchedAfter (watchedAfter outdatedStart lostNotice) healingRound) :=
    runWhile_getD_reaches inRound_of_plain rfl _
  have hload : ∀ d, ((∅ : HashMap CacheData).insert appRequest.groupKey outdatedEntry).get?
      appRequest.groupKey = some d → Named appRequest d := by
    intro d hd
    rw [HashMap.get?_insert_self] at hd
    cases hd
    exact ⟨rfl, rfl, rfl⟩
  obtain ⟨d, hd⟩ : ∃ d, (watchedAfter (watchedAfter outdatedStart lostNotice)
      healingRound).sys.worker.unifiedCache.get? appRequest.groupKey = some d := ⟨_, rfl⟩
  have hserved : ((watchedAfter (watchedAfter outdatedStart lostNotice)
      healingRound).sys.worker.unifiedCache.get? appRequest.groupKey).any CacheData.served =
        true := rfl
  rw [hd, Option.any_some] at hserved
  have hmd5 := listWatch_heals hload hbefore rfl (by rintro ⟨_, _, h⟩; cases h) hround rfl
    (by rintro ((h | h) | ⟨_, _, h⟩) <;> cases h) hd hserved rfl
  rw [hd, Option.map_some, hmd5]

end NacosSdk.Config
