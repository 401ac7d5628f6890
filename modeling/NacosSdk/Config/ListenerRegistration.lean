import NacosSdk.Config.Worker

/-!
# Overlapping registrations of listeners

`add_listener` tests for an entry, waits for a query and inserts a new entry.
Here any number of calls of `add_listener` and `remove_listener` and the notify
loop overlap at their await points. Proved here, for every run of a worker:

* `step_sound`: what one event preserves;
* `listeners_kept`: while no insertion takes away what the entry holds, every
  listener stays registered and every stored answer is newer than the last;
* `twoAdds_not_kept`: of two overlapping calls the second one removes the
  listener of the first.
-/

namespace NacosSdk.Config
open NacosSdk.Common NacosSdk.Lib.Run

/-! ## What is kept -/

def ConfigWorker.registeredFor (s : ConfigWorker) (key : String) : List ConfigListener :=
  match s.unifiedCache.get? key with
  | none => []
  | some d => d.listeners.registered

/-- The queries whose answers were stored under a key, in order. -/
def ConfigWorker.storedFor (s : ConfigWorker) (key : String) : List Nat :=
  (s.stored.filter fun p => p.1 = key).map (·.2)

/-- Who was added and never removed is registered, and every stored answer is
the one of a newer query than those before it. -/
structure ConfigWorker.Kept (s : ConfigWorker) (key : String) : Prop where
  listeners : ∀ listener, (key, listener) ∈ s.returned → (key, listener) ∉ s.removed →
    listener ∈ s.registeredFor key
  newest : (s.storedFor key).Pairwise (· < ·)

/-- An `add_listener` that inserts over an entry takes no other listener away
and stores the answer of a newer query. -/
def TakesNothing (key : String) (s : ConfigWorker) (e : WorkerEvent) : Prop :=
  match e with
  | .addAnswer i answer =>
    ∀ call, s.adding[i]? = some call → call.request.groupKey = key →
      (call.entry s.configFilters answer).isSome = true →
      (∀ listener ∈ s.registeredFor key,
        listener = call.listener ∨ (key, listener) ∈ s.removed) ∧
      ∀ query ∈ s.storedFor key, query < call.query
  | _ => True

theorem storedFor_snoc {s t : ConfigWorker} {k : String} {query : Nat}
    (h : t.stored = s.stored ++ [(k, query)]) (key : String) :
    t.storedFor key = if k = key then s.storedFor key ++ [query] else s.storedFor key := by
  unfold ConfigWorker.storedFor
  rw [h, List.filter_append, List.map_append]
  by_cases hk : k = key
  · simp [hk]
  · simp [hk]

theorem pairwise_snoc {xs : List Nat} {x : Nat} (h : xs.Pairwise (· < ·))
    (hx : ∀ y ∈ xs, y < x) : (xs ++ [x]).Pairwise (· < ·) := by
  rw [List.pairwise_append]
  refine ⟨h, List.pairwise_singleton _ _, ?_⟩
  intro y hy z hz
  rw [List.mem_singleton.mp hz]
  exact hx y hy

/-! ## The invariant -/

/-- The loop has the newest query of a key: no call of `add_listener` begins
while the key has an entry. -/
structure ConfigWorker.Sound (s : ConfigWorker) (key : String) : Prop extends s.Kept key where
  calls : ∀ call ∈ s.adding, call.query < s.queries
  answers : ∀ query ∈ s.storedFor key, query < s.queries
  fresh : s.unifiedCache.get? key = none → s.storedFor key = []
  loop : ∀ request query, s.loop = .querying key request query →
    s.unifiedCache.get? key ≠ none ∧ query < s.queries ∧
    (∀ earlier ∈ s.storedFor key, earlier < query) ∧
    ∀ call ∈ s.adding, call.request.groupKey = key → call.query < query

theorem new_sound (namespace_ : String) (configFilters : List ConfigFilter)
    (unifiedCache : HashMap CacheData) (key : String) :
    (ConfigWorker.new namespace_ configFilters unifiedCache).Sound key where
  listeners := fun _ h => by cases h
  newest := List.Pairwise.nil
  calls := fun _ h => by cases h
  answers := fun _ h => by cases h
  fresh := fun _ => rfl
  loop := fun _ _ h => by cases h

section Steps

variable {s t : ConfigWorker} {key : String}

/-- Only the entry's listeners, the calls and the logs of the key matter. -/
theorem sound_congr (h : s.Sound key)
    (hentry : t.unifiedCache.get? key = none ↔ s.unifiedCache.get? key = none)
    (hreg : t.registeredFor key = s.registeredFor key)
    (hret : ∀ listener, (key, listener) ∈ t.returned → (key, listener) ∈ s.returned)
    (hrem : ∀ listener, (key, listener) ∈ s.removed → (key, listener) ∈ t.removed)
    (hstored : t.storedFor key = s.storedFor key)
    (hcalls : ∀ call ∈ t.adding, call ∈ s.adding) (hqueries : t.queries = s.queries)
    (hloop : ∀ request query, t.loop = .querying key request query →
      s.loop = .querying key request query) : t.Sound key := by
  refine ⟨⟨?_, ?_⟩, ?_, ?_, ?_, ?_⟩
  · intro listener hr hm
    rw [hreg]
    exact h.listeners listener (hret listener hr) fun hrm => hm (hrem listener hrm)
  · rw [hstored]
    exact h.newest
  · intro call hm
    rw [hqueries]
    exact h.calls call (hcalls call hm)
  · rw [hstored, hqueries]
    exact h.answers
  · intro hnone
    rw [hstored]
    exact h.fresh (hentry.mp hnone)
  · intro request query hl
    obtain ⟨hsome, hq, hstore, hadd⟩ := h.loop request query (hloop request query hl)
    rw [hstored, hqueries]
    exact ⟨fun hnone => hsome (hentry.mp hnone), hq, hstore,
      fun call hm hk => hadd call (hcalls call hm) hk⟩

/-- Nothing of the entry or the logs is touched. -/
theorem sound_of_same (h : s.Sound key) (hcache : t.unifiedCache = s.unifiedCache)
    (hret : t.returned = s.returned) (hrem : t.removed = s.removed)
    (hstored : t.stored = s.stored) (hqueries : t.queries = s.queries)
    (hcalls : ∀ call ∈ t.adding, call ∈ s.adding)
    (hloop : ∀ request query, t.loop = .querying key request query →
      s.loop = .querying key request query) : t.Sound key := by
  refine sound_congr h (by rw [hcache]) ?_ ?_ ?_ ?_ hcalls hqueries hloop
  · simp only [ConfigWorker.registeredFor, hcache]
  · rw [hret]
    exact fun _ hm => hm
  · rw [hrem]
    exact fun _ hm => hm
  · simp only [ConfigWorker.storedFor, hstored]

/-- An answer that is newer than all before it is stored. -/
theorem stored_newer (h : s.Sound key) {query : Nat}
    (hstored : t.storedFor key = s.storedFor key ++ [query]) (hquery : query < s.queries)
    (hnewer : ∀ earlier ∈ s.storedFor key, earlier < query) :
    (t.storedFor key).Pairwise (· < ·) ∧ ∀ stored ∈ t.storedFor key, stored < s.queries := by
  rw [hstored]
  refine ⟨pairwise_snoc h.newest hnewer, ?_⟩
  intro stored hm
  rcases List.mem_append.mp hm with hold | hnew
  · exact h.answers stored hold
  · rw [List.mem_singleton.mp hnew]
    exact hquery

theorem mem_log_snoc {log : List (String × ConfigListener)} {k : String}
    {listener other : ConfigListener} :
    (key, other) ∈ log ++ [(k, listener)] ↔
      (key, other) ∈ log ∨ (key = k ∧ other = listener) := by
  simp only [List.mem_append, List.mem_singleton, Prod.mk.injEq]

/-- The end of `add_listener` on an entry. -/
theorem register_sound (h : s.Sound key) {k : String} (listener : ConfigListener)
    (hentry : k = key → s.unifiedCache.get? key ≠ none) : (s.register k listener).Sound key := by
  have hcache := HashMap.get?_modify s.unifiedCache k key fun d => d.addListener listener
  have hmem : ∀ other, other ∈ (s.register k listener).registeredFor key ↔
      other ∈ s.registeredFor key ∨ (key = k ∧ other = listener) := by
    intro other
    simp only [ConfigWorker.registeredFor, ConfigWorker.register, hcache]
    by_cases hk : key = k
    · rw [if_pos hk]
      cases hd : s.unifiedCache.get? key with
      | none => exact absurd hd (hentry hk.symm)
      | some d =>
        simp only [Option.map_some, CacheData.addListener, mem_add]
        tauto
    · rw [if_neg hk]
      simp [hk]
  have hnone : (s.register k listener).unifiedCache.get? key = none ↔
      s.unifiedCache.get? key = none := HashMap.get?_modify_eq_none _ _ _ _
  refine ⟨⟨?_, h.newest⟩, h.calls, h.answers, fun hn => h.fresh (hnone.mp hn), ?_⟩
  · intro other hr hm
    rw [hmem]
    rcases mem_log_snoc.mp hr with hold | hnew
    · exact Or.inl (h.listeners other hold hm)
    · exact Or.inr hnew
  · intro request query hl
    obtain ⟨hsome, hrest⟩ := h.loop request query hl
    exact ⟨fun hn => hsome (hnone.mp hn), hrest⟩

theorem addListener_sound (h : s.Sound key) (dataId group : String)
    (listener : ConfigListener) : (s.addListener dataId group listener).Sound key := by
  unfold ConfigWorker.addListener
  simp only
  split
  · next hcontains =>
    refine register_sound h listener fun hk hnone => ?_
    rw [← hk] at hnone
    simp [HashMap.containsKey, hnone] at hcontains
  · next hcontains =>
    refine ⟨⟨h.listeners, h.newest⟩, ?_, ?_, h.fresh, ?_⟩
    · intro call hm
      rcases List.mem_append.mp hm with hold | hnew
      · exact Nat.lt_succ_of_lt (h.calls call hold)
      · rw [List.mem_singleton.mp hnew]
        exact Nat.lt_succ_self _
    · intro query hm
      exact Nat.lt_succ_of_lt (h.answers query hm)
    · intro request query hl
      obtain ⟨hsome, hq, hstore, hadd⟩ := h.loop request query hl
      refine ⟨hsome, Nat.lt_succ_of_lt hq, hstore, ?_⟩
      intro call hm hk
      rcases List.mem_append.mp hm with hold | hnew
      · exact hadd call hold hk
      · -- a new call for the key would have found the entry
        rw [List.mem_singleton.mp hnew] at hk
        apply absurd hcontains
        rw [HashMap.containsKey, hk, not_not]
        exact Option.isSome_iff_ne_none.mpr hsome

/-- An insertion that takes nothing. -/
theorem store_sound (h : s.Sound key) {call : AddCall} {d : CacheData}
    (hcall : call.query < s.queries)
    (hloop : ∀ request query, s.loop = .querying key request query →
      call.request.groupKey = key → call.query < query)
    (hreg : call.request.groupKey = key → ∀ listener ∈ s.registeredFor key,
      listener = call.listener ∨ (key, listener) ∈ s.removed)
    (hnewer : call.request.groupKey = key → ∀ query ∈ s.storedFor key, query < call.query) :
    ((s.store call.request.groupKey call.query d).register call.request.groupKey
      call.listener).Sound key := by
  have hstored : ((s.store call.request.groupKey call.query d).register call.request.groupKey
      call.listener).storedFor key = if call.request.groupKey = key then
        s.storedFor key ++ [call.query] else s.storedFor key := storedFor_snoc rfl key
  have hcache := HashMap.get?_modify (s.unifiedCache.insert call.request.groupKey d)
    call.request.groupKey key fun d => d.addListener call.listener
  by_cases hk : call.request.groupKey = key
  · rw [if_pos hk] at hstored
    rw [if_pos hk.symm, hk, HashMap.get?_insert_self, Option.map_some] at hcache
    have hsome : ((s.store key call.query d).register key call.listener).unifiedCache.get? key =
        some (d.addListener call.listener) := hcache
    rw [hk] at hstored ⊢
    obtain ⟨hnewest, hanswers⟩ := stored_newer h hstored hcall (hnewer hk)
    refine ⟨⟨?_, hnewest⟩, h.calls, hanswers, ?_, ?_⟩
    · intro other hr hm
      have hother : other = call.listener := by
        rcases mem_log_snoc.mp hr with hold | ⟨_, hnew⟩
        · rcases hreg hk other (h.listeners other hold hm) with heq | hrem
          · exact heq
          · exact absurd hrem hm
        · exact hnew
      rw [ConfigWorker.registeredFor, hsome, hother]
      exact (mem_add _ _ _).mpr (Or.inl rfl)
    · intro hnone
      rw [hsome] at hnone
      cases hnone
    · intro request query hl
      obtain ⟨_, hq, hstore, hadd⟩ := h.loop request query hl
      refine ⟨by simp [hsome], hq, ?_, hadd⟩
      rw [hstored]
      intro earlier hm
      rcases List.mem_append.mp hm with hold | hnew
      · exact hstore earlier hold
      · rw [List.mem_singleton.mp hnew]
        exact hloop request query hl hk
  · rw [if_neg hk] at hstored
    rw [if_neg fun he => hk he.symm, HashMap.get?_insert_ne _ _ fun he => hk he.symm] at hcache
    have hsame : ((s.store call.request.groupKey call.query d).register call.request.groupKey
        call.listener).unifiedCache.get? key = s.unifiedCache.get? key := hcache
    refine sound_congr h (by rw [hsame]) ?_ ?_ (fun _ hm => hm) hstored (fun _ hm => hm) rfl
      (fun _ _ hl => hl)
    · rw [ConfigWorker.registeredFor, hsame]
      rfl
    · intro listener hm
      rcases mem_log_snoc.mp hm with hold | ⟨heq, _⟩
      · exact hold
      · exact absurd heq.symm hk

theorem addAnswer_sound (h : s.Sound key) {i : Nat} {call : AddCall} {answer : QueryAnswer}
    (hcall : s.adding[i]? = some call) (hok : TakesNothing key s (.addAnswer i answer)) :
    ({ s with adding := s.adding.eraseIdx i }.addAnswer call answer).Sound key := by
  have hrest : { s with adding := s.adding.eraseIdx i }.Sound key :=
    sound_of_same h rfl rfl rfl rfl rfl (fun _ hm => List.mem_of_mem_eraseIdx hm) fun _ _ hl => hl
  have hmem := List.mem_of_getElem? hcall
  unfold ConfigWorker.addAnswer
  cases he : call.entry s.configFilters answer with
  | none => exact hrest
  | some entry =>
    obtain ⟨cacheData, tasks⟩ := entry
    simp only
    have hlogged : { s with
        adding := s.adding.eraseIdx i
        notifying := s.notifying ++ tasks }.Sound key :=
      sound_of_same hrest rfl rfl rfl rfl rfl (fun _ hm => hm) fun _ _ hl => hl
    exact store_sound hlogged (h.calls call hmem)
      (fun request query hl hk => (h.loop request query hl).2.2.2 call hmem hk)
      (fun hk => (hok call hcall hk (by rw [he]; rfl)).1)
      (fun hk => (hok call hcall hk (by rw [he]; rfl)).2)

theorem removeListener_sound (h : s.Sound key) (dataId group : String)
    (listener : ConfigListener) : (s.removeListener dataId group listener).Sound key := by
  have hcache := HashMap.get?_modify s.unifiedCache (groupKey dataId group s.namespace_) key
    fun d => d.removeListener listener
  have hnone : (s.removeListener dataId group listener).unifiedCache.get? key = none ↔
      s.unifiedCache.get? key = none := HashMap.get?_modify_eq_none _ _ _ _
  refine ⟨⟨?_, h.newest⟩, h.calls, h.answers, fun hn => h.fresh (hnone.mp hn), ?_⟩
  · intro other hr hm
    have hnot : (key, other) ∉ s.removed := fun hold => hm (mem_log_snoc.mpr (Or.inl hold))
    have hkept := h.listeners other hr hnot
    simp only [ConfigWorker.registeredFor, ConfigWorker.removeListener, hcache] at hkept ⊢
    by_cases hk : key = groupKey dataId group s.namespace_
    · have hne : other ≠ listener := fun heq => hm (mem_log_snoc.mpr (Or.inr ⟨hk, heq⟩))
      rw [if_pos hk]
      cases hd : s.unifiedCache.get? key with
      | none => simp [hd] at hkept
      | some d =>
        simp only [hd] at hkept
        obtain ⟨wrapper, hw, hl⟩ := List.mem_map.mp hkept
        have hstill : wrapper ∈ (d.listeners.remove listener).wrappers :=
          mem_remove hw (by rw [hl]; exact hne)
        exact List.mem_map.mpr ⟨wrapper, hstill, hl⟩
    · rw [if_neg hk]
      exact hkept
  · intro request query hl
    obtain ⟨hsome, hrest⟩ := h.loop request query hl
    exact ⟨fun hn => hsome (hnone.mp hn), hrest⟩

theorem recv_sound (h : s.Sound key) (k : String) : (s.recv k).Sound key := by
  unfold ConfigWorker.recv
  cases hd : s.unifiedCache.get? k with
  | none => exact h
  | some d =>
    refine ⟨⟨h.listeners, h.newest⟩, ?_, ?_, h.fresh, ?_⟩
    · intro call hm
      exact Nat.lt_succ_of_lt (h.calls call hm)
    · intro query hm
      exact Nat.lt_succ_of_lt (h.answers query hm)
    · intro request query hl
      cases hl
      exact ⟨by simp [hd], Nat.lt_succ_self _, h.answers, fun call hm _ => h.calls call hm⟩

theorem changeAnswer_sound (h : s.Sound key) {k : String} {request : ConfigQueryRequest}
    {query : Nat} (hloop : s.loop = .querying k request query) (answer : QueryAnswer) :
    (s.changeAnswer k query answer).Sound key := by
  have hidle : { s with loop := .idle }.Sound key :=
    sound_of_same h rfl rfl rfl rfl rfl (fun _ hm => hm) fun _ _ hl => by cases hl
  cases ha : getConfigInnerAsync answer with
  | error e => simpa only [ConfigWorker.changeAnswer, ha] using hidle
  | ok configResp =>
    cases hd : s.unifiedCache.get? k with
    | none => simpa only [ConfigWorker.changeAnswer, ha, hd] using hidle
    | some d =>
      rw [changeAnswer_some query ha hd]
      have hleft : ∀ request' query', NotifyLoop.afterFill k (fillData d configResp).1
          (fillData d configResp).2 ≠ .querying key request' query' :=
        afterFill_ne_querying _ _ _ _
      have hstored : (s.store k query (fillData d configResp).1).storedFor key =
          if k = key then s.storedFor key ++ [query] else s.storedFor key :=
        storedFor_snoc rfl key
      have hcache := HashMap.get?_insert s.unifiedCache k key (fillData d configResp).1
      by_cases hk : k = key
      · subst hk
        rw [if_pos rfl] at hstored hcache
        obtain ⟨_, hq, hstore, _⟩ := h.loop request query hloop
        obtain ⟨hnewest, hanswers⟩ := stored_newer h hstored hq hstore
        refine ⟨⟨?_, hnewest⟩, h.calls, hanswers, ?_, ?_⟩
        · intro listener hr hm
          have hkept := h.listeners listener hr hm
          simp only [ConfigWorker.registeredFor, hd] at hkept
          simp only [ConfigWorker.registeredFor, ConfigWorker.store, hcache, fillData_listeners]
          exact hkept
        · intro hnone
          simp only [ConfigWorker.store, hcache] at hnone
          cases hnone
        · intro request' query' hl
          exact absurd hl (hleft request' query')
      · rw [if_neg hk] at hstored
        rw [if_neg fun he => hk he.symm] at hcache
        exact sound_congr h (by simp only [ConfigWorker.store, hcache])
          (by simp only [ConfigWorker.registeredFor, ConfigWorker.store, hcache])
          (fun _ hm => hm) (fun _ hm => hm) hstored (fun _ hm => hm) rfl
          (fun request' query' hl => absurd hl (hleft request' query'))

theorem dispatch_sound (h : s.Sound key) (k : String) (configResp : ConfigResponse) :
    (s.dispatch k configResp).Sound key := by
  have hcache := dispatch_cache s k configResp key
  have hentry : (s.dispatch k configResp).unifiedCache.get? key = none ↔
      s.unifiedCache.get? key = none := by
    rw [hcache]
    split
    · exact Option.map_eq_none_iff
    · exact Iff.rfl
  have hreg : (s.dispatch k configResp).registeredFor key = s.registeredFor key := by
    simp only [ConfigWorker.registeredFor, hcache]
    by_cases hk : key = k
    · rw [if_pos hk]
      cases s.unifiedCache.get? key with
      | none => rfl
      | some d => exact seen_registered _ _
    · rw [if_neg hk]
  unfold ConfigWorker.dispatch at hentry hreg ⊢
  cases hd : s.unifiedCache.get? k with
  | none =>
    exact sound_of_same h rfl rfl rfl rfl rfl (fun _ hm => hm) fun _ _ hl => by cases hl
  | some d =>
    simp only [hd] at hentry hreg
    exact sound_congr h hentry hreg (fun _ hm => hm) (fun _ hm => hm) rfl (fun _ hm => hm) rfl
      (fun _ _ hl => by cases hl)

/-- **One event.** -/
theorem step_sound {s' : ConfigWorker} {e : WorkerEvent} (hok : TakesNothing key s e)
    (hstep : s.step e = some s') (h : s.Sound key) : s'.Sound key := by
  cases step_cases hstep with
  | addListener dataId group listener => exact addListener_sound h dataId group listener
  | addAnswer answer hcall => exact addAnswer_sound h hcall hok
  | removeListener dataId group listener => exact removeListener_sound h dataId group listener
  | @recv k rest _ _ =>
    have hrest : { s with notifyChange := rest }.Sound key :=
      sound_of_same h rfl rfl rfl rfl rfl (fun _ hm => hm) fun _ _ hl => hl
    exact recv_sound hrest k
  | changeAnswer answer hloop => exact changeAnswer_sound h hloop answer
  | @dispatch k configResp _ => exact dispatch_sound h k configResp
  | change | notify =>
    exact sound_of_same h rfl rfl rfl rfl rfl (fun _ hm => hm) fun _ _ hl => hl

end Steps

/-! ## Whole runs -/

/-- **No listener is lost.** In every run in which no insertion takes anything
from the entry of `key`, every listener whose `add_listener` returned and that
was never removed is registered, and no stored answer is older than the one
before it. -/
theorem listeners_kept {namespace_ : String} {configFilters : List ConfigFilter}
    {unifiedCache : HashMap CacheData} {key : String} {es : List WorkerEvent} {t : ConfigWorker}
    (hrun : Reaches ConfigWorker.step (TakesNothing key)
      (ConfigWorker.new namespace_ configFilters unifiedCache) es t) : t.Kept key :=
  (hrun.invariant (fun _ _ _ hok hs hi => step_sound hok hs hi)
    (new_sound namespace_ configFilters unifiedCache key)).toKept

/-! ## Two overlapping calls -/

/-- Both calls find no entry and query; the first one is answered. -/
def oneAnswered : List WorkerEvent :=
  [.addListener "app.yaml" "DEFAULT_GROUP" 0, .addListener "app.yaml" "DEFAULT_GROUP" 1,
    .addAnswer 0 (.ok (appConfig "a: 1" "m1"))]

/-- The loop fails to query while both calls wait; the first listener is removed
before the second call inserts, and a call of another key has no answer. -/
def addsBeside : List WorkerEvent :=
  oneAnswered ++ [.addListener "db.yaml" "DEFAULT_GROUP" 2, .change appKey, .recv,
    .removeListener "app.yaml" "DEFAULT_GROUP" 0, .changeAnswer (.error .noAvailableServer),
    .addAnswer 0 (.ok (appConfig "a: 1" "m1")), .addListener "app.yaml" "DEFAULT_GROUP" 3,
    .addAnswer 0 (.error .noAvailableServer), .change appKey, .recv,
    .changeAnswer (.ok (appConfig "a: 2" "m2")), .dispatch]

/-- The second call is answered after a change was taken in. -/
def twoAdds : List WorkerEvent :=
  oneAnswered ++ [.change appKey, .recv, .changeAnswer (.ok (appConfig "a: 2" "m2")), .dispatch,
    .addAnswer 0 (.ok (appConfig "a: 1" "m1"))]

/-- The guard as a test. -/
def takesNothing (key : String) (s : ConfigWorker) : WorkerEvent → Bool
  | .addAnswer i answer =>
    s.adding[i]?.all fun call =>
      call.request.groupKey ≠ key || (call.entry s.configFilters answer).isNone ||
        ((s.registeredFor key).all fun listener =>
            listener = call.listener || s.removed.contains (key, listener)) &&
          (s.storedFor key).all fun query => query < call.query
  | _ => true

theorem takesNothing_sound {key : String} (s : ConfigWorker) (e : WorkerEvent)
    (h : takesNothing key s e = true) : TakesNothing key s e := by
  cases e with
  | addAnswer i answer =>
    intro call hcall hkey hentry
    have hsome : (call.entry s.configFilters answer).isNone = false := by
      rw [← Option.not_isSome, hentry]
      rfl
    simp only [takesNothing, hcall, Option.all_some, hkey, hsome] at h
    simpa using h
  | addListener | removeListener | change | recv | changeAnswer | dispatch | notify => trivial

theorem listeners_kept_beside : (workerAfter addsBeside).Kept appKey ∧
    (workerAfter addsBeside).registeredFor appKey = [1, 3] ∧
    (workerAfter addsBeside).storedFor appKey = [0, 1, 4] := by
  have hrun : Reaches ConfigWorker.step (TakesNothing appKey) workerStart addsBeside
      (workerAfter addsBeside) :=
    runWhile_getD_reaches takesNothing_sound (by decide +kernel) _
  exact ⟨listeners_kept hrun, by decide +kernel, by decide +kernel⟩

/-- Both calls returned, but the first listener is gone, and the answer of
query 1 replaced the one of query 2. -/
theorem twoAdds_not_kept :
    Reaches ConfigWorker.step anyStep workerStart twoAdds (workerAfter twoAdds) ∧
      (workerAfter twoAdds).adding = [] ∧ (workerAfter twoAdds).loop = .idle ∧
      (workerAfter twoAdds).removed = [] ∧
      (appKey, 0) ∈ (workerAfter twoAdds).returned ∧
      0 ∉ (workerAfter twoAdds).registeredFor appKey ∧
      ¬ ((workerAfter twoAdds).storedFor appKey).Pairwise (· < ·) := by
  refine ⟨run_reaches rfl, rfl, by decide, rfl, by decide, by decide, by decide⟩

end NacosSdk.Config
