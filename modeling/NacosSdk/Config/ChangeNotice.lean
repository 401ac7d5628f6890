import NacosSdk.Config.Worker

/-!
# Notices of a change

What one run through `notify_change_to_cache_data` does to the listeners of a
config, with calls of `add_listener` and `remove_listener` at every await
point. Proved here, for every run of a worker:

* `step_unseen`: the listeners of an entry that is still initializing have
  seen no md5;
* `change_noticed_iff`: exactly when the listeners learn of a change;
* `lateConfig_not_noticed`: a listener added before the config exists is not
  notified when it is published.
-/

namespace NacosSdk.Config
open NacosSdk.Common NacosSdk.Lib.Run

/-! ## The end of a notification -/

/-- The key and the md5 of the notification whose processing the event ends, if
its query succeeded with an md5. -/
def ConfigWorker.noticeEnded (s : ConfigWorker) (e : WorkerEvent) : Option (String × String) :=
  match e, s.loop with
  | .changeAnswer answer, .querying key _ query =>
    match getConfigInnerAsync answer, (s.changeAnswer key query answer).loop with
    | .error _, _ => none
    | .ok _, .filtering _ _ => none
    | .ok configResp, _ => configResp.md5.map fun md5 => (key, md5)
  | .dispatch, .filtering key configResp => some (key, configResp.md5)
  | _, _ => none

/-- Every listener of the entry has `md5` after the step, and exactly those
that had another one get one notification in it, for `md5`. -/
def Noticed (s s' : ConfigWorker) (key md5 : String) : Prop :=
  ∀ d, s.unifiedCache.get? key = some d → ∃ d' tasks,
    s'.unifiedCache.get? key = some d' ∧ s'.notifying = s.notifying ++ tasks ∧
    d'.listeners.registered = d.listeners.registered ∧
    (∀ wrapper ∈ d'.listeners.wrappers, wrapper.lastMd5 = md5) ∧
    tasks.map (·.1) =
      (d.listeners.wrappers.filter fun wrapper => wrapper.lastMd5 ≠ md5).map
        ListenerWrapper.listener ∧
    ∀ task ∈ tasks, task.2.md5 = md5

/-- There is no listener, or the filters are done and the entry still has the
md5 of the answer, or the loop stops before the filters and no listener needs
to hear of `md5`: of an entry that is still initializing, `md5` is empty. -/
def Tellable (s : ConfigWorker) (e : WorkerEvent) (key md5 : String) : Prop :=
  ∀ d, s.unifiedCache.get? key = some d →
    d.listeners.wrappers = [] ∨
      match e with
      | .dispatch => d.md5 = md5
      | _ =>
        if d.initializing then md5 = ""
        else ∀ wrapper ∈ d.listeners.wrappers, wrapper.lastMd5 = md5

/-! ## Entries that are initializing -/

/-- As long as an entry is initializing, its listeners have seen nothing. -/
def Unseen (d : CacheData) : Prop :=
  d.initializing = true →
    d.md5 = "" ∧ ∀ wrapper ∈ d.listeners.wrappers, wrapper.lastMd5 = ""

theorem addListener_unseen {d : CacheData} (h : Unseen d) (listener : ConfigListener) :
    Unseen (d.addListener listener) := by
  intro hi
  obtain ⟨hmd5, hall⟩ := h hi
  refine ⟨hmd5, fun wrapper hm => ?_⟩
  simp only [CacheData.addListener, add_wrappers] at hm
  split at hm
  · exact hall wrapper hm
  · rcases List.mem_append.mp hm with hold | hnew
    · exact hall wrapper hold
    · rw [List.mem_singleton.mp hnew]
      rfl

theorem removeListener_unseen {d : CacheData} (h : Unseen d) (listener : ConfigListener) :
    Unseen (d.removeListener listener) := by
  intro hi
  obtain ⟨hmd5, hall⟩ := h hi
  exact ⟨hmd5, fun wrapper hm => hall wrapper (mem_of_mem_remove hm)⟩

theorem fillData_unseen {d : CacheData} (h : Unseen d) (configResp : ConfigQueryResponse) :
    Unseen (fillData d configResp).1 := by
  intro hi
  cases hf : (fillData d configResp).2 with
  | none =>
    obtain ⟨hmd5, hinit⟩ := fillData_panic hf
    rw [fillData_listeners, hmd5]
    exact h (hinit ▸ hi)
  | some b =>
    obtain ⟨contentType, content, md5, ht, hc, hm⟩ := fillData_filled hf
    rw [fillData_complete d ht hc hm] at hi
    cases hi

theorem dispatchNotify_unseen {d : CacheData} (h : Unseen d) (configResp : ConfigResponse) :
    Unseen (d.dispatchNotify configResp).1 := by
  intro hi
  obtain ⟨hmd5, _⟩ := h hi
  refine ⟨hmd5, fun wrapper hm => ?_⟩
  rw [dispatchNotify_wrappers d configResp wrapper hm]
  exact hmd5

theorem entry_unseen {call : AddCall} {configFilters : List ConfigFilter} {answer : QueryAnswer}
    {cacheData : CacheData} {tasks : List (ConfigListener × ConfigResponse)}
    (h : call.entry configFilters answer = some (cacheData, tasks)) : Unseen cacheData := by
  intro hi
  rcases (entry_cases h).2 with ⟨resp, _, hf⟩ | ⟨_, rfl⟩
  · obtain ⟨contentType, content, md5, ht, hc, hm⟩ :=
      fillData_filled (b := false) (by rw [hf])
    rw [fillData_complete _ ht hc hm] at hf
    cases hf
    cases hi
  · exact ⟨rfl, fun _ hm => by cases hm⟩

/-- **Invariant of a run.** -/
theorem step_unseen {s s' : ConfigWorker} {e : WorkerEvent} (h : s.step e = some s')
    (hs : ∀ key d, s.unifiedCache.get? key = some d → Unseen d) :
    ∀ key d, s'.unifiedCache.get? key = some d → Unseen d :=
  step_entries (P := fun _ d => Unseen d)
    (fun _ _ listener hd => addListener_unseen hd listener)
    (fun _ _ listener hd => removeListener_unseen hd listener)
    (fun _ _ configResp hd => fillData_unseen hd configResp)
    (fun _ _ configResp hd => dispatchNotify_unseen hd configResp)
    (fun _ _ _ _ _ he => entry_unseen he) h hs

theorem fromDisk_unseen {unifiedCache : HashMap CacheData} (h : FromDisk unifiedCache) :
    ∀ key d, unifiedCache.get? key = some d → Unseen d := by
  intro key d hd hi
  rw [← h key d hd] at hi
  cases hi

/-! ## The two ends -/

section Ends

variable {s s' : ConfigWorker} {key md5 : String}

/-- The loop stops before the filters: nobody is notified. -/
theorem noticed_unchanged_iff {d d' : CacheData} (hd : s.unifiedCache.get? key = some d)
    (hd' : s'.unifiedCache.get? key = some d') (hl : d'.listeners = d.listeners)
    (hn : s'.notifying = s.notifying) :
    Noticed s s' key md5 ↔ ∀ wrapper ∈ d.listeners.wrappers, wrapper.lastMd5 = md5 := by
  constructor
  · intro hnoticed wrapper hm
    obtain ⟨after, tasks, hafter, _, _, hall, _⟩ := hnoticed d hd
    rw [hd'] at hafter
    cases hafter
    exact hall wrapper (hl ▸ hm)
  · intro hall before hbefore
    rw [hd] at hbefore
    cases hbefore
    refine ⟨d', [], hd', by simp [hn], by rw [hl], by rw [hl]; exact hall, ?_, by simp⟩
    have hnone : d.listeners.wrappers.filter (fun wrapper => wrapper.lastMd5 ≠ md5) = [] := by
      rw [List.filter_eq_nil_iff]
      intro wrapper hm
      simpa using hall wrapper hm
    rw [hnone]
    rfl

/-- The dispatch tells the listeners of the md5 of the entry. -/
theorem noticed_dispatch_iff {d : CacheData} {configResp : ConfigResponse}
    (hd : s.unifiedCache.get? key = some d) :
    Noticed s (s.dispatch key configResp) key configResp.md5 ↔
      d.listeners.wrappers = [] ∨ d.md5 = configResp.md5 := by
  have hcache : (s.dispatch key configResp).unifiedCache.get? key =
      some (d.dispatchNotify configResp).1 := by
    rw [dispatch_cache, if_pos rfl, hd, Option.map_some]
  have hnotifying : (s.dispatch key configResp).notifying =
      s.notifying ++ (d.dispatchNotify configResp).2 := by
    simp only [ConfigWorker.dispatch, hd]
  have hregistered : (d.dispatchNotify configResp).1.listeners.registered =
      d.listeners.registered := seen_registered _ _
  constructor
  · intro hnoticed
    obtain ⟨after, tasks, hafter, _, hreg, hall, _⟩ := hnoticed d hd
    rw [hcache] at hafter
    cases hafter
    cases hw : d.listeners.wrappers with
    | nil => exact Or.inl rfl
    | cons first rest =>
      have hseen : first.seen d.md5 ∈ (d.dispatchNotify configResp).1.listeners.wrappers :=
        List.mem_map.mpr ⟨first, by rw [hw]; exact List.mem_cons_self, rfl⟩
      rw [← hall _ hseen, seen_lastMd5]
      exact Or.inr rfl
  · intro hcond before hbefore
    rw [hd] at hbefore
    cases hbefore
    refine ⟨_, _, hcache, hnotifying, hregistered, ?_, ?_, ?_⟩
    · intro wrapper hm
      rcases hcond with hempty | hmd5
      · simp [CacheData.dispatchNotify, ListenerList.seen, hempty] at hm
      · rw [← hmd5]
        exact dispatchNotify_wrappers d configResp wrapper hm
    · rcases hcond with hempty | hmd5
      · simp [CacheData.dispatchNotify, hempty]
      · simp [CacheData.dispatchNotify, hmd5, Function.comp_def]
    · intro task hm
      obtain ⟨wrapper, _, rfl⟩ := List.mem_map.mp hm
      rfl

/-- Who has seen nothing needs to hear of every md5 but the empty one. -/
theorem unseen_all_iff {d : CacheData} (h : Unseen d) (md5 : String) :
    (∀ wrapper ∈ d.listeners.wrappers, wrapper.lastMd5 = md5) ↔
      d.listeners.wrappers = [] ∨
        if d.initializing then md5 = ""
        else ∀ wrapper ∈ d.listeners.wrappers, wrapper.lastMd5 = md5 := by
  cases hw : d.listeners.wrappers with
  | nil => simp
  | cons first rest =>
    split
    · next hi =>
      obtain ⟨_, hall⟩ := h hi
      rw [hw] at hall
      constructor
      · intro hmd5
        rw [← hmd5 first List.mem_cons_self]
        exact Or.inr (hall first List.mem_cons_self)
      · rintro (hnil | hempty)
        · cases hnil
        · rw [hempty]
          exact hall
    · simp

theorem noticed_changeAnswer_iff {request : ConfigQueryRequest} {query : Nat}
    {answer : QueryAnswer} {k : String} (hloop : s.loop = .querying k request query)
    (hunseen : ∀ d, s.unifiedCache.get? k = some d → Unseen d)
    (hend : s.noticeEnded (.changeAnswer answer) = some (key, md5)) :
    Noticed s (s.changeAnswer k query answer) key md5 ↔
      Tellable s (.changeAnswer answer) key md5 := by
  cases ha : getConfigInnerAsync answer with
  | error e => simp [ConfigWorker.noticeEnded, hloop, ha] at hend
  | ok configResp =>
    have hkey : k = key := by
      simp only [ConfigWorker.noticeEnded, hloop, ha] at hend
      split at hend
      · cases hend
      · cases hend
      · obtain ⟨m, _, hm⟩ := Option.map_eq_some_iff.mp hend
        exact congrArg Prod.fst hm
    subst hkey
    cases hd : s.unifiedCache.get? k with
    | none =>
      constructor
      · intro _ d hsome
        rw [hd] at hsome
        cases hsome
      · intro _ d hsome
        rw [hd] at hsome
        cases hsome
    | some d =>
      have hafter := changeAnswer_some query ha hd
      have hiff : Noticed s (s.changeAnswer k query answer) k md5 ↔
          ∀ wrapper ∈ d.listeners.wrappers, wrapper.lastMd5 = md5 := by
        rw [hafter]
        exact noticed_unchanged_iff hd (HashMap.get?_insert_self _ _ _)
          (fillData_listeners d configResp) rfl
      rw [hiff, unseen_all_iff (hunseen d hd)]
      constructor
      · intro hcond before hbefore
        rw [hd] at hbefore
        cases hbefore
        exact hcond
      · intro htell
        exact htell d hd

end Ends

/-! ## Whole runs -/

/-- **Changes are noticed.** In every run from a loaded cache, with any calls
and answers in any order, a step that ends a notification of `key` with the
answer `md5` leaves every listener with `md5`, and notifies exactly those that
had another one, if and only if the listeners are tellable before it. -/
theorem change_noticed_iff {namespace_ : String} {configFilters : List ConfigFilter}
    {unifiedCache : HashMap CacheData} (hdisk : FromDisk unifiedCache)
    {es : List WorkerEvent} {s s' : ConfigWorker} {e : WorkerEvent} {key md5 : String}
    (hrun : Reaches ConfigWorker.step anyStep
      (ConfigWorker.new namespace_ configFilters unifiedCache) es s)
    (hstep : s.step e = some s') (hend : s.noticeEnded e = some (key, md5)) :
    Noticed s s' key md5 ↔ Tellable s e key md5 := by
  have hunseen : ∀ key d, s.unifiedCache.get? key = some d → Unseen d :=
    hrun.invariant (fun _ _ _ _ hs hi => step_unseen hs hi) (fromDisk_unseen hdisk)
  cases e with
  | changeAnswer answer =>
    cases hloop : s.loop with
    | querying k request query =>
      simp only [ConfigWorker.step, hloop, Option.some.injEq] at hstep
      rw [← hstep]
      exact noticed_changeAnswer_iff hloop (hunseen k) hend
    | idle => simp [ConfigWorker.step, hloop] at hstep
    | filtering => simp [ConfigWorker.step, hloop] at hstep
    | dead => simp [ConfigWorker.step, hloop] at hstep
  | dispatch =>
    cases hloop : s.loop with
    | filtering k configResp =>
      simp only [ConfigWorker.step, hloop, Option.some.injEq] at hstep
      simp only [ConfigWorker.noticeEnded, hloop, Option.some.injEq, Prod.mk.injEq] at hend
      obtain ⟨rfl, rfl⟩ := hend
      rw [← hstep]
      cases hd : s.unifiedCache.get? k with
      | none => simp [Noticed, Tellable, hd]
      | some d =>
        rw [noticed_dispatch_iff hd]
        simp [Tellable, hd]
    | idle => simp [ConfigWorker.step, hloop] at hstep
    | querying => simp [ConfigWorker.step, hloop] at hstep
    | dead => simp [ConfigWorker.step, hloop] at hstep
  | addListener | addAnswer | removeListener | change | recv | notify =>
    simp [ConfigWorker.noticeEnded] at hend

/-! ## A listener and a publish -/

/-- A listener is added and the config is published after that; `first` is the
answer to the query of `add_listener`. -/
def addThenPublish (first : ConfigQueryResponse) : List WorkerEvent :=
  [.addListener "app.yaml" "DEFAULT_GROUP" 0, .addAnswer 0 (.ok first), .change appKey, .recv]

/-- The listener knows the config, and a second version is published. -/
def updateAnswered : List WorkerEvent :=
  addThenPublish (appConfig "a: 1" "m1") ++ [.changeAnswer (.ok (appConfig "a: 2" "m2"))]

/-- The listener was there before the first version. -/
def lateConfig : List WorkerEvent := addThenPublish appNotFound

theorem change_noticed_iff_update :
    Noticed (workerAfter updateAnswered) (workerAfter (updateAnswered ++ [.dispatch])) appKey
        "m2" ↔
      Tellable (workerAfter updateAnswered) .dispatch appKey "m2" := by
  have hrun : Reaches ConfigWorker.step anyStep workerStart updateAnswered
      (workerAfter updateAnswered) := run_reaches rfl
  exact change_noticed_iff (fun _ _ h => by cases h) hrun rfl rfl

/-- The listener was added before the config existed: the first publish fills
the entry, and the listener learns nothing. -/
theorem lateConfig_not_noticed :
    Reaches ConfigWorker.step anyStep workerStart lateConfig (workerAfter lateConfig) ∧
      (workerAfter lateConfig).step (.changeAnswer (.ok (appConfig "a: 1" "m1"))) =
        some (workerAfter (lateConfig ++ [.changeAnswer (.ok (appConfig "a: 1" "m1"))])) ∧
      (workerAfter lateConfig).noticeEnded (.changeAnswer (.ok (appConfig "a: 1" "m1"))) =
        some (appKey, "m1") ∧
      ¬ Noticed (workerAfter lateConfig)
        (workerAfter (lateConfig ++ [.changeAnswer (.ok (appConfig "a: 1" "m1"))])) appKey
        "m1" := by
  refine ⟨run_reaches rfl, rfl, rfl, fun hnoticed => ?_⟩
  obtain ⟨d', tasks, hd', _, _, hall, _⟩ := hnoticed _ rfl
  cases hd'
  exact absurd (hall _ List.mem_cons_self) (by decide)

end NacosSdk.Config
