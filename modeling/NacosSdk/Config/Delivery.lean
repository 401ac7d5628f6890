import NacosSdk.Config.Worker
import Mathlib.Data.List.InsertIdx

/-!
# The last response of a listener

The notification tasks of the config worker with what the listeners ran with.
A task carries the response that was built before the filters; `last_md5` is
the md5 of the entry after them; the tasks run in any order. Proved here, for
every worker and every run:

* `wrapper_origin`: a wrapper is an old one, or a new one that records nothing;
* `delivery_step`: what a wrapper records is the md5 of the last response on
  the way to its listener, unless the entry has changed under the filters, a
  task overtakes another, or a notified listener gets a new wrapper;
* `last_delivered`: so with no task left it is the md5 that the listener ran
  with last;
* `overtaken_notification`, `replaced_entry_recorded`, `replaced_wrapper_recorded`:
  each of the three breaks this.
-/

namespace NacosSdk.Config
open NacosSdk.Common NacosSdk.Lib.Run NacosSdk.Lib.Pending

/-! ## The notifications -/

/-- A spawned task, with the key of the entry that spawned it. -/
structure Notification where
  key : String
  listener : ConfigListener
  configResp : ConfigResponse
  deriving DecidableEq

def Notification.task (notification : Notification) : ConfigListener × ConfigResponse :=
  (notification.listener, notification.configResp)

/-- The worker beside its notifications; no step of the worker reads the rest. -/
structure Delivery where
  worker : ConfigWorker
  pending : List Notification
  executed : List Notification

def Delivery.start (worker : ConfigWorker) : Delivery := ⟨worker, [], []⟩

/-- The tasks of a dispatch. -/
def ConfigWorker.spawns (s : ConfigWorker) : List Notification :=
  match s.loop with
  | .filtering key configResp =>
    match s.unifiedCache.get? key with
    | some d => (d.dispatchNotify configResp).2.map fun task => ⟨key, task.1, task.2⟩
    | none => []
  | _ => []

/-- The listener that the event gives a new wrapper. -/
def ConfigWorker.registers (s : ConfigWorker) : WorkerEvent → Option (String × ConfigListener)
  | .addListener dataId group listener =>
    let key := groupKey dataId group s.namespace_
    match s.unifiedCache.get? key with
    | some d => if listener ∈ d.listeners.registered then none else some (key, listener)
    | none => none
  | .addAnswer i answer =>
    match s.adding[i]? with
    | some call =>
      if (call.entry s.configFilters answer).isSome then
        some (call.request.groupKey, call.listener)
      else none
    | none => none
  | _ => none

def Delivery.spawned (t : Delivery) (worker : ConfigWorker) (tasks : List Notification) :
    Delivery :=
  { t with worker, pending := t.pending ++ tasks }

def Delivery.after (t : Delivery) (e : WorkerEvent) (worker : ConfigWorker) : Delivery :=
  match e with
  | .notify i =>
    { t with
      worker
      pending := t.pending.eraseIdx i
      executed := t.executed ++ t.pending[i]?.toList }
  | .dispatch => t.spawned worker t.worker.spawns
  | _ => { t with worker }

def Delivery.step (t : Delivery) (e : WorkerEvent) : Option Delivery :=
  (t.worker.step e).map (t.after e)

def isFor (key : String) (listener : ConfigListener) (notification : Notification) : Bool :=
  notification.key = key && notification.listener = listener

/-- The md5s of the responses that the listener ran with. -/
def Delivery.delivered (t : Delivery) (key : String) (listener : ConfigListener) : List String :=
  selected (isFor key listener) (·.configResp.md5) t.executed

/-- The same with the responses on their way. -/
def Delivery.flow (t : Delivery) (key : String) (listener : ConfigListener) : List String :=
  t.delivered key listener ++ selected (isFor key listener) (·.configResp.md5) t.pending

/-- Nothing is in flight. -/
def Delivery.Quiet (t : Delivery) : Prop :=
  t.worker.loop = .idle ∧ t.worker.notifyChange = [] ∧ t.worker.adding = [] ∧
    t.worker.notifying = []

/-- What a wrapper records is the md5 that its listener ran with last; that of a
listener that never ran records nothing. -/
def Delivery.LastDelivered (t : Delivery) : Prop :=
  ∀ key d, t.worker.unifiedCache.get? key = some d → ∀ wrapper ∈ d.listeners.wrappers,
    wrapper.lastMd5 = (t.delivered key wrapper.listener).getLast?.getD ""

/-! ## The condition -/

/-- The entry still has the md5 of the response, or everyone knows its md5. -/
def ConfigWorker.DispatchesCurrent (s : ConfigWorker) : Prop :=
  match s.loop with
  | .filtering key configResp =>
    ∀ d ∈ s.unifiedCache.get? key, ∀ wrapper ∈ d.listeners.wrappers,
      wrapper.lastMd5 ≠ d.md5 → configResp.md5 = d.md5
  | _ => True

/-- The event gives no new wrapper to a listener that was notified before: a
new wrapper has forgotten it. -/
def Delivery.RegistersFresh (t : Delivery) (e : WorkerEvent) : Prop :=
  match t.worker.registers e with
  | some (key, listener) => t.flow key listener = []
  | none => True

/-- No task overtakes an older one of its listener, a response is only
dispatched from the version that it was built from, and only listeners that were
not notified yet get a new wrapper. -/
def Delivery.InStep (t : Delivery) : WorkerEvent → Prop
  | .notify i => ∀ n ∈ t.pending[i]?, ¬ Overtakes (isFor n.key n.listener) t.pending i
  | .dispatch => t.worker.DispatchesCurrent
  | e => t.RegistersFresh e

instance (s : ConfigWorker) : Decidable s.DispatchesCurrent :=
  match h : s.loop with
  | .filtering key configResp =>
    decidable_of_iff (∀ d ∈ s.unifiedCache.get? key, ∀ wrapper ∈ d.listeners.wrappers,
      wrapper.lastMd5 ≠ d.md5 → configResp.md5 = d.md5) (by simp [ConfigWorker.DispatchesCurrent, h])
  | .idle => isTrue (by simp [ConfigWorker.DispatchesCurrent, h])
  | .querying _ _ _ => isTrue (by simp [ConfigWorker.DispatchesCurrent, h])
  | .dead => isTrue (by simp [ConfigWorker.DispatchesCurrent, h])

instance (t : Delivery) (e : WorkerEvent) : Decidable (t.RegistersFresh e) :=
  match h : t.worker.registers e with
  | some (key, listener) =>
    decidable_of_iff (t.flow key listener = []) (by simp [Delivery.RegistersFresh, h])
  | none => isTrue (by simp [Delivery.RegistersFresh, h])

instance (t : Delivery) : DecidablePred t.InStep
  | .notify i =>
    inferInstanceAs (Decidable (∀ n ∈ t.pending[i]?, ¬ (_ = [] ∧ _ ≠ [])))
  | .dispatch => inferInstanceAs (Decidable t.worker.DispatchesCurrent)
  | .addListener dataId group listener =>
    inferInstanceAs (Decidable (t.RegistersFresh (.addListener dataId group listener)))
  | .addAnswer i answer => inferInstanceAs (Decidable (t.RegistersFresh (.addAnswer i answer)))
  | .removeListener dataId group listener =>
    inferInstanceAs (Decidable (t.RegistersFresh (.removeListener dataId group listener)))
  | .change key => inferInstanceAs (Decidable (t.RegistersFresh (.change key)))
  | .recv => inferInstanceAs (Decidable (t.RegistersFresh .recv))
  | .changeAnswer answer => inferInstanceAs (Decidable (t.RegistersFresh (.changeAnswer answer)))

/-! ## Where a wrapper comes from -/

section Origin

variable {s s' : ConfigWorker}

theorem modify_lookup {cache : HashMap CacheData} {key k : String} {f : CacheData → CacheData}
    {d' : CacheData} (h : (cache.modify key f).get? k = some d') :
    (k ≠ key ∧ cache.get? k = some d') ∨ ∃ d, k = key ∧ cache.get? k = some d ∧ f d = d' := by
  rw [HashMap.get?_modify] at h
  split at h
  · next hk =>
    obtain ⟨d, hd, hf⟩ := Option.map_eq_some_iff.mp h
    exact Or.inr ⟨d, hk, hd, hf⟩
  · next hk => exact Or.inl ⟨hk, h⟩

/-- The wrapper was there before the event, or the event makes it and it records
nothing. -/
def ConfigWorker.Origin (s : ConfigWorker) (e : WorkerEvent) (key : String)
    (wrapper : ListenerWrapper) : Prop :=
  (s.registers e ≠ some (key, wrapper.listener) ∧
      ∃ d, s.unifiedCache.get? key = some d ∧ wrapper ∈ d.listeners.wrappers) ∨
    (s.registers e = some (key, wrapper.listener) ∧ wrapper.lastMd5 = "")

variable {key : String} {d d' : CacheData} {wrapper : ListenerWrapper}

theorem origin_same {e : WorkerEvent} (hregisters : s.registers e = none)
    (hd : s.unifiedCache.get? key = some d) (hw : wrapper ∈ d.listeners.wrappers) :
    s.Origin e key wrapper :=
  Or.inl ⟨by simp [hregisters], d, hd, hw⟩

/-- An event that registers under another key. -/
theorem origin_other {e : WorkerEvent} {other : String} {listener : ConfigListener}
    (hregisters : s.registers e = some (other, listener)) (hne : key ≠ other)
    (hd : s.unifiedCache.get? key = some d) (hw : wrapper ∈ d.listeners.wrappers) :
    s.Origin e key wrapper := by
  refine Or.inl ⟨fun heq => ?_, d, hd, hw⟩
  rw [hregisters] at heq
  exact hne (congrArg Prod.fst (Option.some.inj heq)).symm

theorem addListener_origin {dataId group : String} {listener : ConfigListener}
    (hd' : (s.addListener dataId group listener).unifiedCache.get? key = some d')
    (hw : wrapper ∈ d'.listeners.wrappers) :
    s.Origin (.addListener dataId group listener) key wrapper := by
  cases hk : s.unifiedCache.get? (groupKey dataId group s.namespace_) with
  | none =>
    have hsame : (s.addListener dataId group listener).unifiedCache = s.unifiedCache := by
      simp [ConfigWorker.addListener, HashMap.containsKey, ConfigQueryRequest.groupKey, hk]
    rw [hsame] at hd'
    exact origin_same (by simp [ConfigWorker.registers, hk]) hd' hw
  | some d =>
    have hregister : s.addListener dataId group listener =
        s.register (groupKey dataId group s.namespace_) listener := by
      simp [ConfigWorker.addListener, HashMap.containsKey, ConfigQueryRequest.groupKey, hk]
    have hregisters : s.registers (.addListener dataId group listener) =
        if listener ∈ d.listeners.registered then none
        else some (groupKey dataId group s.namespace_, listener) := by
      simp only [ConfigWorker.registers, hk]
    rw [hregister] at hd'
    by_cases hmem : listener ∈ d.listeners.registered
    · rw [if_pos hmem] at hregisters
      rcases modify_lookup hd' with ⟨_, hd⟩ | ⟨d, rfl, hd, rfl⟩
      · exact origin_same hregisters hd hw
      · cases hk.symm.trans hd
        rw [CacheData.addListener, add_wrappers, if_pos hmem] at hw
        exact origin_same hregisters hd hw
    · rw [if_neg hmem] at hregisters
      rcases modify_lookup hd' with ⟨hne, hd⟩ | ⟨d, rfl, hd, rfl⟩
      · exact origin_other hregisters hne hd hw
      · cases hk.symm.trans hd
        rw [CacheData.addListener, add_wrappers, if_neg hmem] at hw
        rcases List.mem_append.mp hw with hold | hnew
        · refine Or.inl ⟨fun heq => ?_, d, hd, hold⟩
          rw [hregisters] at heq
          have hlistener : listener = wrapper.listener :=
            congrArg Prod.snd (Option.some.inj heq)
          exact hmem (hlistener ▸ List.mem_map_of_mem hold)
        · have hmade : wrapper = ListenerWrapper.new listener := List.mem_singleton.mp hnew
          rw [hmade]
          exact Or.inr ⟨hregisters, rfl⟩

/-- The entry that a waiting call inserts has one wrapper. -/
theorem addAnswer_origin {i : Nat} {call : AddCall} {answer : QueryAnswer}
    (hcall : s.adding[i]? = some call)
    (hd' : ({ s with adding := s.adding.eraseIdx i }.addAnswer call answer).unifiedCache.get? key =
      some d')
    (hw : wrapper ∈ d'.listeners.wrappers) : s.Origin (.addAnswer i answer) key wrapper := by
  cases hentry : call.entry s.configFilters answer with
  | none =>
    have hsame : ({ s with adding := s.adding.eraseIdx i }.addAnswer call answer).unifiedCache =
        s.unifiedCache := by
      simp only [ConfigWorker.addAnswer, hentry]
    rw [hsame] at hd'
    exact origin_same (by simp [ConfigWorker.registers, hcall, hentry]) hd' hw
  | some made =>
    obtain ⟨cacheData, tasks⟩ := made
    have hregisters : s.registers (.addAnswer i answer) =
        some (call.request.groupKey, call.listener) := by
      simp [ConfigWorker.registers, hcall, hentry]
    have hcache : ({ s with adding := s.adding.eraseIdx i }.addAnswer call answer).unifiedCache =
        (s.unifiedCache.insert call.request.groupKey cacheData).modify call.request.groupKey
          fun d => d.addListener call.listener := by
      simp only [ConfigWorker.addAnswer, hentry]
      rfl
    rw [hcache] at hd'
    rcases modify_lookup hd' with ⟨hne, hd⟩ | ⟨d, rfl, hd, rfl⟩
    · rw [HashMap.get?_insert_ne _ _ hne] at hd
      exact origin_other hregisters hne hd hw
    · rw [HashMap.get?_insert_self] at hd
      cases hd
      have hempty := (entry_origin hentry).2.2.2.2
      rw [CacheData.addListener, add_wrappers, hempty] at hw
      have hmade : wrapper = ListenerWrapper.new call.listener := List.mem_singleton.mp hw
      rw [hmade]
      exact Or.inr ⟨hregisters, rfl⟩

/-- Every event but a dispatch leaves a wrapper as it was or makes one that
records nothing. -/
theorem wrapper_origin {e : WorkerEvent} (h : s.step e = some s') (he : e ≠ .dispatch)
    (hd' : s'.unifiedCache.get? key = some d') (hw : wrapper ∈ d'.listeners.wrappers) :
    s.Origin e key wrapper := by
  cases step_cases h with
  | addListener => exact addListener_origin hd' hw
  | addAnswer answer hcall => exact addAnswer_origin hcall hd' hw
  | removeListener dataId group listener =>
    rcases modify_lookup hd' with ⟨_, hd⟩ | ⟨d, _, hd, rfl⟩
    · exact origin_same rfl hd hw
    · exact origin_same rfl hd (mem_of_mem_remove hw)
  | change => exact origin_same rfl hd' hw
  | recv =>
    unfold ConfigWorker.recv at hd'
    split at hd' <;> exact origin_same rfl hd' hw
  | @changeAnswer k request query answer hloop =>
    rcases changeAnswer_cache s k query answer key with hsame | ⟨rfl, resp, d, _, hd, hs⟩
    · exact origin_same rfl (hsame ▸ hd') hw
    · rw [hs] at hd'
      cases hd'
      rw [fillData_listeners] at hw
      exact origin_same rfl hd hw
  | dispatch => exact absurd rfl he
  | notify => exact origin_same rfl hd' hw

/-- Only a dispatch spawns tasks, and only `notify` runs them. -/
theorem step_notifying {e : WorkerEvent} (h : s.step e = some s') (he : e ≠ .dispatch)
    (hn : ∀ i, e ≠ .notify i) : s'.notifying = s.notifying := by
  cases step_cases h with
  | addListener dataId group listener =>
    simp only [ConfigWorker.addListener]
    split <;> rfl
  | @addAnswer i call answer hcall =>
    unfold ConfigWorker.addAnswer
    split
    · rfl
    · next hentry =>
      rw [(entry_cases hentry).1]
      exact List.append_nil _
  | removeListener | change => rfl
  | recv =>
    unfold ConfigWorker.recv
    split <;> rfl
  | changeAnswer answer _ =>
    unfold ConfigWorker.changeAnswer
    split
    · rfl
    · split <;> rfl
  | dispatch => exact absurd rfl he
  | notify i => exact absurd rfl (hn i)

end Origin

/-! ## The invariant -/

/-- What the wrapper records is the md5 of the last response on the way. -/
def Delivery.Records (t : Delivery) (key : String) (wrapper : ListenerWrapper) : Prop :=
  wrapper.lastMd5 = (t.flow key wrapper.listener).getLast?.getD ""

structure Delivery.Sound (t : Delivery) : Prop where
  tasks : t.pending.map Notification.task = t.worker.notifying
  records : ∀ key d, t.worker.unifiedCache.get? key = some d →
    ∀ wrapper ∈ d.listeners.wrappers, t.Records key wrapper

theorem start_delivery_sound (namespace_ : String) (configFilters : List ConfigFilter)
    {unifiedCache : HashMap CacheData} (h : FromDisk unifiedCache) :
    (Delivery.start (ConfigWorker.new namespace_ configFilters unifiedCache)).Sound where
  tasks := rfl
  records := by
    intro key d hd wrapper hw
    rw [← h key d hd] at hw
    cases hw

section Steps

variable {t t' : Delivery}

theorem records_congr {key : String} {wrapper : ListenerWrapper} (h : t.Records key wrapper)
    (hflow : (t'.flow key wrapper.listener).getLast? = (t.flow key wrapper.listener).getLast?) :
    t'.Records key wrapper := by
  unfold Delivery.Records at h ⊢
  rw [hflow]
  exact h

theorem step_after {e : WorkerEvent} (h : t.step e = some t') :
    ∃ worker, t.worker.step e = some worker ∧ t' = t.after e worker := by
  obtain ⟨worker, hworker, rfl⟩ := Option.map_eq_some_iff.mp h
  exact ⟨worker, hworker, rfl⟩

/-- A new wrapper goes to a listener that nothing was sent to. -/
theorem other_delivery {e : WorkerEvent} {worker : ConfigWorker} (hs : t.Sound)
    (h : t.worker.step e = some worker) (he : e ≠ .dispatch) (hn : ∀ i, e ≠ .notify i)
    (hok : t.RegistersFresh e) : Delivery.Sound { t with worker } where
  tasks := hs.tasks.trans (step_notifying h he hn).symm
  records := by
    intro key d' hd' wrapper hw
    rcases wrapper_origin h he hd' hw with ⟨_, d, hd, hold⟩ | ⟨hnew, hempty⟩
    · exact records_congr (hs.records key d hd wrapper hold) rfl
    · have hnothing : t.flow key wrapper.listener = [] := by
        simpa only [Delivery.RegistersFresh, hnew] using hok
      have hsame : Delivery.flow { t with worker } key wrapper.listener = [] := hnothing
      unfold Delivery.Records
      rw [hsame, hempty]
      rfl

/-- A task that overtakes nobody leaves the last response on the way. -/
theorem notify_delivery {i : Nat} {worker : ConfigWorker} (hs : t.Sound)
    (h : t.worker.step (.notify i) = some worker) (hok : t.InStep (.notify i)) :
    Delivery.Sound { t with
      worker, pending := t.pending.eraseIdx i
      executed := t.executed ++ t.pending[i]?.toList } := by
  cases step_cases h
  constructor
  · show (t.pending.eraseIdx i).map Notification.task = t.worker.notifying.eraseIdx i
    rw [← hs.tasks, List.eraseIdx_map]
  · intro key d hd wrapper hw
    refine records_congr (hs.records key d hd wrapper hw) ?_
    unfold Delivery.flow Delivery.delivered
    cases hi : t.pending[i]? with
    | none => simp [List.eraseIdx_of_length_le (List.getElem?_eq_none_iff.mp hi)]
    | some n =>
      have hin : ¬ Overtakes (isFor n.key n.listener) t.pending i := hok n (by rw [hi]; rfl)
      cases hfor : isFor key wrapper.listener n with
      | false =>
        simp only [Option.toList_some, selected_append, selected_singleton_neg hfor,
          List.append_nil, selected_take_out hi hfor]
      | true =>
        have hsame : n.key = key ∧ n.listener = wrapper.listener := by
          simpa [isFor] using hfor
        rw [hsame.1, hsame.2] at hin
        simp only [Option.toList_some, selected_append, selected_singleton hfor]
        exact getLast?_take_out hi hfor hin (·.configResp.md5) _

/-- The tasks of a dispatch: one for each wrapper that records another md5. -/
theorem mem_spawned {d : CacheData} {configResp : ConfigResponse} {key : String}
    {n : Notification} :
    n ∈ (d.dispatchNotify configResp).2.map (fun task => (⟨key, task.1, task.2⟩ : Notification)) ↔
      ∃ wrapper ∈ d.listeners.wrappers, wrapper.lastMd5 ≠ d.md5 ∧
        n = ⟨key, wrapper.listener, configResp⟩ := by
  simp only [CacheData.dispatchNotify, List.map_map, List.mem_map, List.mem_filter,
    Function.comp_apply, decide_eq_true_eq]
  constructor
  · rintro ⟨wrapper, ⟨hw, hne⟩, rfl⟩
    exact ⟨wrapper, hw, hne, rfl⟩
  · rintro ⟨wrapper, hw, hne, rfl⟩
    exact ⟨wrapper, ⟨hw, hne⟩, rfl⟩

/-- Tasks for others change nothing. -/
theorem records_others {key : String} {wrapper : ListenerWrapper} {tasks : List Notification}
    (worker : ConfigWorker) (h : t.Records key wrapper)
    (hothers : ∀ n ∈ tasks, (n.key, n.listener) ≠ (key, wrapper.listener)) :
    (t.spawned worker tasks).Records key wrapper := by
  refine records_congr h ?_
  have hnone : selected (isFor key wrapper.listener) (·.configResp.md5) tasks = [] := by
    unfold selected
    rw [List.map_eq_nil_iff, List.filter_eq_nil_iff]
    intro n hn hfor
    exact hothers n hn (by simpa [isFor] using hfor)
  unfold Delivery.flow Delivery.delivered Delivery.spawned
  simp only [selected_append, hnone, List.append_nil]

/-- A task for the listener, and no task with another md5. -/
theorem records_spawned {key : String} {wrapper : ListenerWrapper} {tasks : List Notification}
    (worker : ConfigWorker) {n : Notification} (hn : n ∈ tasks)
    (hfor : isFor key wrapper.listener n = true)
    (hmd5 : ∀ other ∈ tasks, other.configResp.md5 = wrapper.lastMd5) :
    (t.spawned worker tasks).Records key wrapper := by
  have hlast : (selected (isFor key wrapper.listener) (·.configResp.md5) tasks).getLast? =
      some wrapper.lastMd5 := by
    cases hsel : (selected (isFor key wrapper.listener) (·.configResp.md5) tasks).getLast? with
    | none =>
      rw [List.getLast?_eq_none_iff, selected, List.map_eq_nil_iff,
        List.filter_eq_nil_iff] at hsel
      exact (hsel n hn hfor).elim
    | some md5 =>
      obtain ⟨other, hother, rfl⟩ := List.mem_map.mp (List.mem_of_getLast? hsel)
      rw [hmd5 other (List.mem_filter.mp hother).1]
  unfold Delivery.Records Delivery.flow Delivery.delivered Delivery.spawned
  simp only [selected_append]
  rw [← List.append_assoc, List.getLast?_append, hlast, Option.some_or, Option.getD_some]

/-- A wrapper of the entry that is dispatched: it knows the md5 already, or a
task with this md5 is spawned for it. -/
theorem records_seen {key : String} {d : CacheData} {configResp : ConfigResponse}
    {wrapper : ListenerWrapper} (worker : ConfigWorker) (h : t.Records key wrapper)
    (hw : wrapper ∈ d.listeners.wrappers)
    (hcurrent : wrapper.lastMd5 ≠ d.md5 → configResp.md5 = d.md5) :
    (t.spawned worker ((d.dispatchNotify configResp).2.map
      fun task => ⟨key, task.1, task.2⟩)).Records key (wrapper.seen d.md5) := by
  by_cases hknown : wrapper.lastMd5 = d.md5
  · have hseen : wrapper.seen d.md5 = wrapper := by
      unfold ListenerWrapper.seen
      rw [if_pos hknown]
    rw [hseen]
    refine records_others _ h ?_
    intro n hn heq
    obtain ⟨other, hother, hne, rfl⟩ := mem_spawned.mp hn
    have hsame : other = wrapper := List.inj_on_of_nodup_map d.listeners.nodup hother hw
      (congrArg Prod.snd heq)
    exact hne (hsame ▸ hknown)
  · refine records_spawned _ (mem_spawned.mpr ⟨wrapper, hw, hknown, rfl⟩) ?_ ?_
    · simp [isFor, seen_listener]
    · intro other hother
      obtain ⟨_, _, _, rfl⟩ := mem_spawned.mp hother
      rw [seen_lastMd5]
      exact hcurrent hknown

theorem dispatch_delivery {worker : ConfigWorker} (hs : t.Sound)
    (h : t.worker.step .dispatch = some worker) (hok : t.InStep .dispatch) :
    (t.spawned worker t.worker.spawns).Sound := by
  cases step_cases h with
  | @dispatch key configResp hloop =>
    have hok : ∀ d ∈ t.worker.unifiedCache.get? key, ∀ wrapper ∈ d.listeners.wrappers,
        wrapper.lastMd5 ≠ d.md5 → configResp.md5 = d.md5 := by
      have hcurrent : t.worker.DispatchesCurrent := hok
      simpa only [ConfigWorker.DispatchesCurrent, hloop] using hcurrent
    cases hd : t.worker.unifiedCache.get? key with
    | none =>
      have hspawns : t.worker.spawns = [] := by simp only [ConfigWorker.spawns, hloop, hd]
      have hdispatch : t.worker.dispatch key configResp = { t.worker with loop := .idle } := by
        simp only [ConfigWorker.dispatch, hd]
      rw [hspawns, hdispatch]
      constructor
      · show (t.pending ++ []).map Notification.task = t.worker.notifying
        rw [List.append_nil, hs.tasks]
      · intro k d' hd' wrapper hw
        exact records_others _ (hs.records k d' hd' wrapper hw) (by simp)
    | some d =>
      have hspawns : t.worker.spawns = (d.dispatchNotify configResp).2.map
          fun task => ⟨key, task.1, task.2⟩ := by
        simp only [ConfigWorker.spawns, hloop, hd]
      rw [hspawns]
      constructor
      · have hnotifying : (t.worker.dispatch key configResp).notifying =
            t.worker.notifying ++ (d.dispatchNotify configResp).2 := by
          simp only [ConfigWorker.dispatch, hd]
        show (t.pending ++ _).map Notification.task = (t.worker.dispatch key configResp).notifying
        rw [hnotifying, List.map_append, hs.tasks, List.map_map]
        congr 1
        exact List.map_id _
      · intro k d' hd' wrapper hw
        have hd' : (t.worker.dispatch key configResp).unifiedCache.get? k = some d' := hd'
        rw [dispatch_cache] at hd'
        by_cases hk : k = key
        · subst hk
          rw [if_pos rfl, hd] at hd'
          cases hd'
          obtain ⟨old, hold, rfl⟩ := List.mem_map.mp hw
          exact records_seen _ (hs.records k d hd old hold) hold (hok d hd old hold)
        · rw [if_neg hk] at hd'
          refine records_others _ (hs.records k d' hd' wrapper hw) ?_
          intro n hn heq
          obtain ⟨_, _, _, rfl⟩ := mem_spawned.mp hn
          exact hk (congrArg Prod.fst heq).symm

theorem delivery_step {e : WorkerEvent} (hok : t.InStep e) (h : t.step e = some t')
    (hs : t.Sound) : t'.Sound := by
  obtain ⟨worker, hworker, rfl⟩ := step_after h
  cases e with
  | notify i => exact notify_delivery hs hworker hok
  | dispatch => exact dispatch_delivery hs hworker hok
  | addListener | addAnswer | removeListener | change | recv | changeAnswer =>
    exact other_delivery hs hworker (by simp) (by simp) hok

end Steps

/-- **The last response.** With no task left, what a wrapper records is the md5
of the response that its listener ran with last. -/
theorem last_delivered {namespace_ : String} {configFilters : List ConfigFilter}
    {unifiedCache : HashMap CacheData} (hdisk : FromDisk unifiedCache) {es : List WorkerEvent}
    {t : Delivery}
    (h : Reaches Delivery.step Delivery.InStep
      (Delivery.start (ConfigWorker.new namespace_ configFilters unifiedCache)) es t)
    (hdone : t.worker.notifying = []) : t.LastDelivered := by
  have hsound : t.Sound := by
    apply Reaches.invariant (I := Delivery.Sound) _ h
      (start_delivery_sound namespace_ configFilters hdisk)
    intro t e t' hok hstep hs
    exact delivery_step hok hstep hs
  have hpending : t.pending = [] := List.map_eq_nil_iff.mp (hsound.tasks.trans hdone)
  intro key d hd wrapper hw
  have hrecords := hsound.records key d hd wrapper hw
  unfold Delivery.Records Delivery.flow at hrecords
  rw [hpending] at hrecords
  simpa only [selected, List.filter_nil, List.map_nil, List.append_nil] using hrecords

/-! ## Two changes of one config -/

def deliveryStart : Delivery := Delivery.start workerStart

/-- The config changes and its listeners are notified. -/
def changedTo (content md5 : String) : List WorkerEvent :=
  [.change appKey, .recv, .changeAnswer (.ok (appConfig content md5)), .dispatch]

def changedTwice : List WorkerEvent :=
  [.addListener "app.yaml" "DEFAULT_GROUP" 0, .addAnswer 0 (.ok (appConfig "a: 1" "m1"))] ++
    changedTo "a: 2" "m2" ++ changedTo "a: 3" "m3"

theorem empty_fromDisk : FromDisk ∅ := by
  intro key d h
  cases h

/-- The tasks run in the order of the changes. -/
def notifiedInTurn : List WorkerEvent := changedTwice ++ [.notify 0, .notify 0]

def notifiedOutOfTurn : List WorkerEvent := changedTwice ++ [.notify 1, .notify 0]

theorem last_delivered_inTurn :
    ((run Delivery.step deliveryStart notifiedInTurn).getD deliveryStart).LastDelivered :=
  last_delivered empty_fromDisk
    (runDecided_reaches Delivery.InStep (by decide +kernel) _) (by decide +kernel)

/-- A wrapper that records another md5 than its listener ran with last. -/
theorem not_lastDelivered {t : Delivery} (wrapper : ListenerWrapper)
    (hwrapper : (t.worker.unifiedCache.get? appKey).map (fun d => d.listeners.wrappers) =
      some [wrapper])
    {md5 : String} (hlast : (t.delivered appKey wrapper.listener).getLast? = some md5)
    (hne : wrapper.lastMd5 ≠ md5) : ¬ t.LastDelivered := by
  intro h
  obtain ⟨d, hd, hwrappers⟩ := Option.map_eq_some_iff.mp hwrapper
  have hrecords := h appKey d hd wrapper (by rw [hwrappers]; simp)
  rw [hlast] at hrecords
  exact hne hrecords

/-- The listener runs last with the first change and records the second one. -/
theorem overtaken_notification :
    ¬ ∀ es t, Reaches Delivery.step anyStep deliveryStart es t → t.Quiet → t.LastDelivered := by
  intro h
  have hrun : (run Delivery.step deliveryStart notifiedOutOfTurn).isSome = true := by
    decide +kernel
  have hquiet : ((run Delivery.step deliveryStart notifiedOutOfTurn).getD deliveryStart).Quiet :=
    ⟨by decide +kernel, by decide +kernel, by decide +kernel, by decide +kernel⟩
  have hlast : (((run Delivery.step deliveryStart notifiedOutOfTurn).getD deliveryStart).delivered
      appKey 0).getLast? = some "m2" := by decide +kernel
  exact not_lastDelivered ⟨"m3", 0⟩ (by decide +kernel) hlast (by decide)
    (h _ _ (run_getD_reaches hrun _) hquiet)

/-- A second call of `add_listener` replaces the entry while the filters run. -/
def replacedUnderFilters : List WorkerEvent :=
  [.addListener "app.yaml" "DEFAULT_GROUP" 0, .addListener "app.yaml" "DEFAULT_GROUP" 1,
    .addAnswer 0 (.ok (appConfig "a: 1" "m1")), .change appKey, .recv,
    .changeAnswer (.ok (appConfig "a: 2" "m2")), .addAnswer 0 (.ok (appConfig "a: 3" "m3")),
    .dispatch, .notify 0]

theorem replaced_entry_recorded :
    ¬ ((run Delivery.step deliveryStart replacedUnderFilters).getD deliveryStart).LastDelivered := by
  have hlast : (((run Delivery.step deliveryStart replacedUnderFilters).getD deliveryStart).delivered
      appKey 1).getLast? = some "m2" := by decide +kernel
  exact not_lastDelivered ⟨"m3", 1⟩ (by decide +kernel) hlast (by decide)

/-- Two calls of `add_listener` for one listener: the second one replaces the
entry after the listener was notified. -/
def replacedAfterNotice : List WorkerEvent :=
  [.addListener "app.yaml" "DEFAULT_GROUP" 0, .addListener "app.yaml" "DEFAULT_GROUP" 0,
    .addAnswer 0 (.ok (appConfig "a: 1" "m1"))] ++ changedTo "a: 2" "m2" ++
    [.notify 0, .addAnswer 0 (.ok (appConfig "a: 2" "m2"))]

theorem replaced_wrapper_recorded :
    ¬ ((run Delivery.step deliveryStart replacedAfterNotice).getD deliveryStart).LastDelivered := by
  have hlast : (((run Delivery.step deliveryStart replacedAfterNotice).getD deliveryStart).delivered
      appKey 0).getLast? = some "m2" := by decide +kernel
  exact not_lastDelivered ⟨"", 0⟩ (by decide +kernel) hlast (by decide)

end NacosSdk.Config
