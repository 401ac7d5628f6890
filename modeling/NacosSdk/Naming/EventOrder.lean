import NacosSdk.Lib.Pending
import NacosSdk.Lib.Run
import NacosSdk.Naming.Observable
import NacosSdk.Naming.Observer

/-!
# From the cache to the listeners

`ServiceInfoEmitter::emit` checks the cache, inserts the snapshot and sends it
to the observer; the observer spawns one task for each listener. Any emitter
and any task may be the next to move. Proved here, for every run of this
pipeline over any services:

* `check_insert`: a check and an insertion that nothing separates are
  `process_service_info`;
* `step_newest`: where nothing overtakes the newest snapshot, it stays the last
  one on the way to each subscribed listener;
* `lastEvent_upToDate`: so once nothing is in flight the last event a listener
  ran with carries the cached hosts;
* `overtakenSend_not_upToDate`: a send that overtakes another breaks this.
-/

namespace NacosSdk.Naming
open NacosSdk.Common NacosSdk.Lib.Run NacosSdk.Lib.Pending

/-! ## The pipeline -/

structure Pipeline where
  cache : HashMap ServiceInfo
  /-- Emits past the check, before the insertion. -/
  checked : List ServiceInfo
  /-- Emits past the insertion, before the send. -/
  inserted : List ServiceInfo
  channel : List ServiceInfo
  registry : ListenerRegistry
  /-- Spawned callbacks that have not run. -/
  spawned : List (Listener × NamingChangeEvent)
  executed : List (Listener × NamingChangeEvent)
  /-- Every inserted snapshot, oldest first; no step reads it. -/
  accepted : List ServiceInfo

inductive PipelineEvent where
  | check (info : ServiceInfo)
  | insert (i : Nat)
  | send (i : Nat)
  | observe
  | execute (i : Nat)
  | subscribe (key : String) (listener : Listener)
  | unsubscribe (key : String) (listener : Listener)
  deriving DecidableEq

/-- `channel::<(ServiceInfo, Span)>(1024)`. -/
def channelCapacity : Nat := 1024

def Pipeline.start (cache : HashMap ServiceInfo) (registry : ListenerRegistry) : Pipeline where
  cache := cache
  checked := []
  inserted := []
  channel := []
  registry := registry
  spawned := []
  executed := []
  accepted := []

/-- One step of an emitter, the observer, a spawned task or a caller; `p` is
the push-empty protection. -/
def Pipeline.step (p : Bool) (s : Pipeline) : PipelineEvent → Option Pipeline
  | .check info =>
    if (processServiceInfo p s.cache info).1 then
      some { s with checked := s.checked ++ [info] }
    else some s
  | .insert i =>
    match s.checked[i]? with
    | none => none
    | some info =>
      some { s with
        checked := s.checked.eraseIdx i
        cache := s.cache.insert info.key info
        inserted := s.inserted ++ [info]
        accepted := s.accepted ++ [info] }
  | .send i =>
    match s.inserted[i]? with
    | none => none
    | some info =>
      -- a full channel makes the sender wait
      if s.channel.length < channelCapacity then
        some { s with inserted := s.inserted.eraseIdx i, channel := s.channel ++ [info] }
      else none
  | .observe =>
    match s.channel with
    | [] => none
    | info :: rest =>
      some { s with channel := rest, spawned := s.spawned ++ Naming.observe s.registry info }
  | .execute i =>
    match s.spawned[i]? with
    | none => none
    | some task => some { s with spawned := s.spawned.eraseIdx i, executed := s.executed ++ [task] }
  | .subscribe key listener => some { s with registry := s.registry.subscribe key listener }
  | .unsubscribe key listener => some { s with registry := s.registry.unsubscribe key listener }

/-- A check with nothing between it and its insertion. -/
theorem check_insert (p : Bool) (s : Pipeline) (info : ServiceInfo) (rest : List PipelineEvent)
    (h : (processServiceInfo p s.cache info).1 = true) :
    run (Pipeline.step p) s (.check info :: .insert s.checked.length :: rest) =
      run (Pipeline.step p)
        { s with
          cache := (processServiceInfo p s.cache info).2
          inserted := s.inserted ++ [info]
          accepted := s.accepted ++ [info] } rest := by
  have hc : considered p info = true := by
    cases hc : considered p info with
    | true => rfl
    | false => simp [processServiceInfo_rejected hc] at h
  have hins : (processServiceInfo p s.cache info).2 = s.cache.insert info.key info := by
    rw [processServiceInfo_considered hc] at h ⊢
    simp only at h
    simp [h]
  simp [run, Pipeline.step, h, hins, List.eraseIdx_append_of_length_le]

/-! ## What is on the way to a listener -/

def isAbout (key : String) (info : ServiceInfo) : Bool := info.key = key

def isFor (key : String) (listener : Listener) (task : Listener × NamingChangeEvent) : Bool :=
  task.1 = listener && task.2.key = key

/-- The events of a service that a listener has run with. -/
def Pipeline.eventsOf (s : Pipeline) (key : String) (listener : Listener) :
    List NamingChangeEvent :=
  selected (isFor key listener) (·.2) s.executed

/-- The events of a service on their way to a listener, first those it has run
with, last those not yet sent. -/
def Pipeline.flow (s : Pipeline) (key : String) (listener : Listener) : List NamingChangeEvent :=
  s.eventsOf key listener ++ selected (isFor key listener) (·.2) s.spawned ++
    selected (isAbout key) NamingChangeEvent.ofInfo s.channel ++
    selected (isAbout key) NamingChangeEvent.ofInfo s.inserted

/-- The snapshots of a service that were accepted. -/
def Pipeline.acceptedOf (s : Pipeline) (key : String) : List ServiceInfo :=
  s.accepted.filter (isAbout key)

/-- Nothing is in flight. -/
def Pipeline.Quiet (s : Pipeline) : Prop :=
  s.checked = [] ∧ s.inserted = [] ∧ s.channel = [] ∧ s.spawned = []

/-- The last event of the service the listener ran with carries the cached
hosts. -/
def Pipeline.UpToDate (s : Pipeline) (key : String) (listener : Listener) : Prop :=
  ∃ info event, s.cache.get? key = some info ∧
    (s.eventsOf key listener).getLast? = some event ∧ event.instances = info.hosts

/-- The listener is not unsubscribed from the service. -/
def StaysSubscribed (key : String) (listener : Listener) (event : PipelineEvent) : Prop :=
  event ≠ .unsubscribe key listener

instance (key : String) (listener : Listener) (event : PipelineEvent) :
    Decidable (StaysSubscribed key listener event) :=
  inferInstanceAs (Decidable (¬ _))

/-- The newest inserted snapshot is not sent while an older one waits, and the
newest spawned callback does not run while an older one waits. -/
def InOrder (key : String) (listener : Listener) (s : Pipeline) : PipelineEvent → Prop
  | .send i => (∃ info, s.inserted[i]? = some info ∧ info.key = key) →
      ¬ Overtakes (isAbout key) s.inserted i
  | .execute i => (∃ task, s.spawned[i]? = some task ∧ isFor key listener task) →
      ¬ Overtakes (isFor key listener) s.spawned i
  | _ => True

/-- The listener is registered, the cache holds the last accepted snapshot and
that snapshot is the last one on its way. -/
structure Ordered (key : String) (listener : Listener) (s : Pipeline) : Prop where
  subscribed : listener ∈ s.registry.listenersOf key
  cached : ∀ info, (s.acceptedOf key).getLast? = some info → s.cache.get? key = some info
  newest : (s.flow key listener).getLast? =
    ((s.acceptedOf key).getLast?).map NamingChangeEvent.ofInfo

/-! ## One step -/

section Steps

variable {p : Bool} {key : String} {listener : Listener} {s s' : Pipeline}

/-- What a check leaves: at most one more emit past it. -/
theorem step_check {info : ServiceInfo} (h : s.step p (.check info) = some s') :
    ∃ checked, s' = { s with checked := checked } := by
  simp only [Pipeline.step] at h
  split at h <;> cases h
  · exact ⟨_, rfl⟩
  · exact ⟨s.checked, rfl⟩

theorem step_insert {i : Nat} (h : s.step p (.insert i) = some s') :
    ∃ info, s.checked[i]? = some info ∧
      s' = { s with
        checked := s.checked.eraseIdx i
        cache := s.cache.insert info.key info
        inserted := s.inserted ++ [info]
        accepted := s.accepted ++ [info] } := by
  simp only [Pipeline.step] at h
  split at h
  · cases h
  · next info hi =>
    cases h
    exact ⟨info, hi, rfl⟩

theorem step_send {i : Nat} (h : s.step p (.send i) = some s') :
    ∃ info, s.inserted[i]? = some info ∧
      s' = { s with inserted := s.inserted.eraseIdx i, channel := s.channel ++ [info] } := by
  simp only [Pipeline.step] at h
  split at h
  · cases h
  · next info hi =>
    split at h <;> cases h
    exact ⟨info, hi, rfl⟩

theorem step_observe (h : s.step p .observe = some s') :
    ∃ info rest, s.channel = info :: rest ∧
      s' = { s with channel := rest, spawned := s.spawned ++ Naming.observe s.registry info } := by
  simp only [Pipeline.step] at h
  split at h
  · cases h
  · next info rest hc =>
    cases h
    exact ⟨info, rest, hc, rfl⟩

theorem step_execute {i : Nat} (h : s.step p (.execute i) = some s') :
    ∃ task, s.spawned[i]? = some task ∧
      s' = { s with spawned := s.spawned.eraseIdx i, executed := s.executed ++ [task] } := by
  simp only [Pipeline.step] at h
  split at h
  · cases h
  · next task hi =>
    cases h
    exact ⟨task, hi, rfl⟩

theorem step_subscribed {e : PipelineEvent} (hstay : StaysSubscribed key listener e)
    (h : s.step p e = some s') (hs : listener ∈ s.registry.listenersOf key) :
    listener ∈ s'.registry.listenersOf key := by
  cases e with
  | check info =>
    obtain ⟨checked, rfl⟩ := step_check h
    exact hs
  | insert i =>
    obtain ⟨info, _, rfl⟩ := step_insert h
    exact hs
  | send i =>
    obtain ⟨info, _, rfl⟩ := step_send h
    exact hs
  | observe =>
    obtain ⟨info, rest, _, rfl⟩ := step_observe h
    exact hs
  | execute i =>
    obtain ⟨task, _, rfl⟩ := step_execute h
    exact hs
  | subscribe k l =>
    cases h
    rw [subscribe_listenersOf]
    split
    · next hk =>
      subst hk
      by_cases hl : listener = l
      · simp [hl]
      · simp [List.mem_erase_of_ne hl, hs]
    · exact hs
  | unsubscribe k l =>
    cases h
    rw [unsubscribe_listenersOf]
    split
    · next hk =>
      subst hk
      have hl : listener ≠ l := fun he => hstay (by rw [he])
      exact (List.mem_erase_of_ne hl).mpr hs
    · exact hs

/-- Only an insertion changes the cache and the accepted snapshots. -/
theorem step_cached {e : PipelineEvent} (h : s.step p e = some s')
    (hc : ∀ info, (s.acceptedOf key).getLast? = some info → s.cache.get? key = some info) :
    ∀ info, (s'.acceptedOf key).getLast? = some info → s'.cache.get? key = some info := by
  cases e with
  | insert i =>
    obtain ⟨info, _, rfl⟩ := step_insert h
    intro last hl
    simp only [Pipeline.acceptedOf, List.filter_append, List.filter_singleton] at hl
    by_cases hk : info.key = key
    · simp only [isAbout, hk, decide_true, cond_true, List.getLast?_concat, Option.some.injEq] at hl
      rw [← hl, ← hk]
      exact HashMap.get?_insert_self _ _ _
    · simp only [isAbout, hk, decide_false, cond_false, List.append_nil] at hl
      rw [HashMap.get?_insert_ne _ _ (Ne.symm hk)]
      exact hc last hl
  | check info =>
    obtain ⟨checked, rfl⟩ := step_check h
    exact hc
  | send i =>
    obtain ⟨info, _, rfl⟩ := step_send h
    exact hc
  | observe =>
    obtain ⟨info, rest, _, rfl⟩ := step_observe h
    exact hc
  | execute i =>
    obtain ⟨task, _, rfl⟩ := step_execute h
    exact hc
  | subscribe k l =>
    cases h
    exact hc
  | unsubscribe k l =>
    cases h
    exact hc

/-- A callback is spawned for a subscribed listener exactly when the observed
snapshot is about the service. -/
theorem selected_observe {registry : ListenerRegistry} (hs : listener ∈ registry.listenersOf key)
    (info : ServiceInfo) :
    selected (isFor key listener) (·.2) (Naming.observe registry info) =
      selected (isAbout key) NamingChangeEvent.ofInfo [info] := by
  rw [observe_eq]
  unfold selected
  rw [List.filter_map, List.map_map]
  by_cases hk : info.key = key
  · have hp : (isFor key listener ∘ fun l => (l, NamingChangeEvent.ofInfo info)) =
        fun l => l == listener := by
      funext l
      simp [isFor, hk]
      rfl
    have hone : List.count listener (registry.listenersOf key) = 1 :=
      List.count_eq_one_of_mem (registry.listenersOf_nodup key) hs
    rw [hp, List.filter_beq, hk, hone]
    simp [isAbout, hk]
  · have hf : (registry.listenersOf info.key).filter
        (isFor key listener ∘ fun l => (l, NamingChangeEvent.ofInfo info)) = [] := by
      rw [List.filter_eq_nil_iff]
      intro l _
      simp [isFor, hk]
    rw [hf]
    simp [isAbout, hk]

theorem flow_insert (info : ServiceInfo) (checked : List ServiceInfo) (cache : HashMap ServiceInfo)
    (accepted : List ServiceInfo) :
    Pipeline.flow { s with checked, cache, inserted := s.inserted ++ [info], accepted } key
        listener =
      s.flow key listener ++ selected (isAbout key) NamingChangeEvent.ofInfo [info] := by
  unfold Pipeline.flow Pipeline.eventsOf
  rw [selected_append, List.append_assoc _ _ (selected _ _ [info])]

/-- A send that does not overtake keeps the last event on the way. -/
theorem flow_send {i : Nat} {info : ServiceInfo} (hi : s.inserted[i]? = some info)
    (ho : info.key = key → ¬ Overtakes (isAbout key) s.inserted i) :
    (Pipeline.flow { s with
        inserted := s.inserted.eraseIdx i
        channel := s.channel ++ [info] } key listener).getLast? =
      (s.flow key listener).getLast? := by
  unfold Pipeline.flow Pipeline.eventsOf
  rw [selected_append]
  by_cases hk : info.key = key
  · have hp : isAbout key info = true := by simp [isAbout, hk]
    rw [selected_singleton hp, ← List.append_assoc]
    exact getLast?_take_out hi hp (ho hk) _ _
  · have hp : isAbout key info = false := by simp [isAbout, hk]
    rw [selected_singleton_neg hp, List.append_nil, selected_take_out hi hp]

theorem flow_observe {info : ServiceInfo} {rest : List ServiceInfo}
    (hs : listener ∈ s.registry.listenersOf key) (hc : s.channel = info :: rest) :
    Pipeline.flow { s with
        channel := rest
        spawned := s.spawned ++ Naming.observe s.registry info } key listener =
      s.flow key listener := by
  unfold Pipeline.flow Pipeline.eventsOf
  have hcons : s.channel = [info] ++ rest := hc
  rw [selected_append, selected_observe hs, hcons, selected_append]
  simp only [List.append_assoc]

/-- A callback that does not overtake keeps the last event on the way. -/
theorem flow_execute {i : Nat} {task : Listener × NamingChangeEvent}
    (hi : s.spawned[i]? = some task)
    (ho : isFor key listener task → ¬ Overtakes (isFor key listener) s.spawned i) :
    (Pipeline.flow { s with
        spawned := s.spawned.eraseIdx i
        executed := s.executed ++ [task] } key listener).getLast? =
      (s.flow key listener).getLast? := by
  unfold Pipeline.flow Pipeline.eventsOf
  apply getLast?_append_congr
  apply getLast?_append_congr
  rw [selected_append]
  cases hp : isFor key listener task with
  | true =>
    rw [selected_singleton hp]
    exact getLast?_take_out hi hp (ho hp) _ _
  | false => rw [selected_singleton_neg hp, List.append_nil, selected_take_out hi hp]

/-- **One step.** Where nothing overtakes it, the last accepted snapshot stays
the last one on the way to the listener. -/
theorem step_newest {e : PipelineEvent} (hin : InOrder key listener s e)
    (h : s.step p e = some s') (hs : Ordered key listener s) :
    (s'.flow key listener).getLast? =
      ((s'.acceptedOf key).getLast?).map NamingChangeEvent.ofInfo := by
  cases e with
  | insert i =>
    obtain ⟨info, _, rfl⟩ := step_insert h
    rw [flow_insert]
    simp only [Pipeline.acceptedOf, List.filter_append]
    have hnew := hs.newest
    unfold Pipeline.acceptedOf at hnew
    simp only [List.getLast?_append, hnew, selected, List.getLast?_map]
    cases ((s.accepted.filter (isAbout key)).getLast?) <;>
      cases (([info].filter (isAbout key)).getLast?) <;> rfl
  | send i =>
    obtain ⟨info, hi, rfl⟩ := step_send h
    rw [flow_send hi fun hk => hin ⟨info, hi, hk⟩]
    exact hs.newest
  | observe =>
    obtain ⟨info, rest, hc, rfl⟩ := step_observe h
    rw [flow_observe hs.subscribed hc]
    exact hs.newest
  | execute i =>
    obtain ⟨task, hi, rfl⟩ := step_execute h
    rw [flow_execute hi fun hf => hin ⟨task, hi, hf⟩]
    exact hs.newest
  | check info =>
    obtain ⟨checked, rfl⟩ := step_check h
    exact hs.newest
  | subscribe k l =>
    cases h
    exact hs.newest
  | unsubscribe k l =>
    cases h
    exact hs.newest

theorem step_ordered {e : PipelineEvent} (hstay : StaysSubscribed key listener e)
    (hin : InOrder key listener s e) (h : s.step p e = some s') (hs : Ordered key listener s) :
    Ordered key listener s' where
  subscribed := step_subscribed hstay h hs.subscribed
  cached := step_cached h hs.cached
  newest := step_newest hin h hs

end Steps

/-! ## Whole runs -/

theorem start_ordered {key : String} {listener : Listener} {cache : HashMap ServiceInfo}
    {registry : ListenerRegistry} (h : listener ∈ registry.listenersOf key) :
    Ordered key listener (Pipeline.start cache registry) where
  subscribed := h
  cached := fun _ hl => by cases hl
  newest := rfl

/-- Once nothing is in flight, everything on the way has arrived. -/
theorem flow_quiet {s : Pipeline} (h : s.Quiet) (key : String) (listener : Listener) :
    s.flow key listener = s.eventsOf key listener := by
  obtain ⟨_, hi, hc, hsp⟩ := h
  simp [Pipeline.flow, hi, hc, hsp, selected]

/-- **Listeners catch up.** In every run in which the listener stays subscribed
and nothing overtakes the newest snapshot, once nothing is in flight and a
snapshot was accepted, the last event the listener ran with carries the cached
hosts. -/
theorem lastEvent_upToDate {p : Bool} {key : String} {listener : Listener}
    {cache : HashMap ServiceInfo} {registry : ListenerRegistry} {es : List PipelineEvent}
    {t : Pipeline} (hsub : listener ∈ registry.listenersOf key)
    (hrun : Reaches (Pipeline.step p)
      (fun s e => StaysSubscribed key listener e ∧ InOrder key listener s e)
      (Pipeline.start cache registry) es t)
    (hquiet : t.Quiet) (hacc : t.acceptedOf key ≠ []) : t.UpToDate key listener := by
  have hinv : Ordered key listener t :=
    hrun.invariant (fun _ _ _ hok hs hi => step_ordered hok.1 hok.2 hs hi) (start_ordered hsub)
  have hlast := List.getLast?_eq_some_getLast hacc
  have hflow := hinv.newest
  rw [flow_quiet hquiet, hlast] at hflow
  exact ⟨_, _, hinv.cached _ hlast, hflow, rfl⟩

/-! ## Two emits of one service -/

/-- A send or a callback takes the oldest of those that wait. -/
def TakesOldest : PipelineEvent → Prop
  | .send i => i = 0
  | .execute i => i = 0
  | _ => True

instance (e : PipelineEvent) : Decidable (TakesOldest e) := by
  cases e <;> unfold TakesOldest <;> infer_instance

theorem inOrder_of_takesOldest {e : PipelineEvent} (h : TakesOldest e) (key : String)
    (listener : Listener) (s : Pipeline) : InOrder key listener s e := by
  cases e with
  | send i =>
    intro _
    rw [show i = 0 from h]
    exact not_overtakes_zero _ _
  | execute i =>
    intro _
    rw [show i = 0 from h]
    exact not_overtakes_zero _ _
  | check | insert | observe | subscribe | unsubscribe => trivial

def ordersRegistry : ListenerRegistry := ListenerRegistry.empty.subscribe ordersKey 0

/-- A poll and a push are both inserted before either is sent. -/
def twoEmits : List PipelineEvent :=
  [.check (ordersInfo 1 [hostAt "10.0.0.1" 8080]), .insert 0,
    .check (ordersInfo 2 [hostAt "10.0.0.2" 8080]), .insert 0]

def sentInOrder : List PipelineEvent :=
  twoEmits ++ [.send 0, .send 0, .observe, .observe, .execute 0, .execute 0]

/-- The second send goes first, so the listener ends with the hosts of the
first snapshot. -/
def overtakenSend : List PipelineEvent :=
  twoEmits ++ [.send 1, .send 0, .observe, .observe, .execute 0, .execute 0]

/-- Where a run of the two emits ends. -/
def afterEmits (es : List PipelineEvent) : Pipeline :=
  (run (Pipeline.step false) (Pipeline.start ∅ ordersRegistry) es).getD
    (Pipeline.start ∅ ordersRegistry)

theorem lastEvent_upToDate_sentInOrder :
    (afterEmits sentInOrder).UpToDate ordersKey 0 := by
  have hrun : Reaches (Pipeline.step false)
      (fun _ e => StaysSubscribed ordersKey 0 e ∧ TakesOldest e)
      (Pipeline.start ∅ ordersRegistry) sentInOrder (afterEmits sentInOrder) :=
    run_reaches_of rfl (by decide)
  exact lastEvent_upToDate (by decide)
    (hrun.weaken fun s e h => ⟨h.1, inOrder_of_takesOldest h.2 ordersKey 0 s⟩)
    ⟨rfl, rfl, rfl, rfl⟩ (by decide)

theorem overtakenSend_not_upToDate :
    Reaches (Pipeline.step false) (fun _ e => StaysSubscribed ordersKey 0 e)
        (Pipeline.start ∅ ordersRegistry) overtakenSend (afterEmits overtakenSend) ∧
      0 ∈ ordersRegistry.listenersOf ordersKey ∧ (afterEmits overtakenSend).Quiet ∧
      (afterEmits overtakenSend).acceptedOf ordersKey ≠ [] ∧
      ¬ (afterEmits overtakenSend).UpToDate ordersKey 0 := by
  refine ⟨run_reaches_of rfl (by decide), by decide, ⟨rfl, rfl, rfl, rfl⟩, by decide, ?_⟩
  rintro ⟨info, event, hcache, hlast, hhosts⟩
  have hc : (afterEmits overtakenSend).cache.get? ordersKey =
      some (ordersInfo 2 [hostAt "10.0.0.2" 8080]) := rfl
  have hl : ((afterEmits overtakenSend).eventsOf ordersKey 0).getLast? =
      some (NamingChangeEvent.ofInfo (ordersInfo 1 [hostAt "10.0.0.1" 8080])) := by decide
  rw [hc] at hcache
  rw [hl] at hlast
  cases hcache
  cases hlast
  exact absurd hhosts (by decide)

end NacosSdk.Naming
