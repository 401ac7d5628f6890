import NacosSdk.Lib.Separator
import NacosSdk.Naming.Service

/-!
# Registered listeners and their subscription

A registered listener depends on two more maps: the redo map renews its
subscription after a reconnection, the updater polls its service. Proved here,
for every sequence of completed calls on a service that starts empty:

* `take_tracked`: one call keeps the three maps together, unless it
  unsubscribes one of several listeners;
* `subscription_kept_iff`: for a service that shares no key with another one,
  the maps stay together after every call exactly when every unsubscribe call
  finds no other listener registered;
* `twoListeners_not_kept`: the first of two unsubscribe calls ends both.
-/

namespace NacosSdk.Naming
open NacosSdk.Common NacosSdk.Lib NacosSdk.Lib.Separator

/-! ## Calls -/

/-- A service under its normalized group. -/
structure Service where
  serviceName : String
  groupName : String
  deriving DecidableEq

def Service.of (serviceName : String) (groupName : Option String) : Service :=
  ⟨serviceName, normalizeGroupName groupName⟩

/-- The key of the registry and of the cache. -/
def Service.key (service : Service) : String :=
  getKeyWithoutClusters service.serviceName service.groupName

/-- The key of its subscription in the redo map. -/
def Service.taskName (service : Service) (namespace_ : String) : String :=
  requestName "SubscribeServiceRequest" (some namespace_) (some service.groupName)
    (some service.serviceName)

def Service.updateKey (service : Service) (clusters : String) : String :=
  updateTaskKey service.serviceName service.groupName clusters

inductive ServiceCall where
  | subscribe (serviceName : String) (groupName : Option String) (clusters : List String)
      (eventListener : Listener) (answer : Answer)
  | unsubscribe (serviceName : String) (groupName : Option String) (clusters : List String)
      (eventListener : Listener) (answer : Answer)
  | getAllInstances (serviceName : String) (groupName : Option String) (clusters : List String)
      (subscribe : Bool) (answer : Answer)
  | backgroundAnswer (i : Nat) (answer : Answer)
  | emit (info : ServiceInfo)

def NamingService.take (s : NamingService) : ServiceCall → NamingService
  | .subscribe serviceName groupName clusters eventListener answer =>
    (s.subscribe serviceName groupName clusters eventListener answer).2
  | .unsubscribe serviceName groupName clusters eventListener answer =>
    (s.unsubscribe serviceName groupName clusters eventListener answer).2
  | .getAllInstances serviceName groupName clusters subscribe answer =>
    (s.getAllInstances serviceName groupName clusters subscribe answer).2
  | .backgroundAnswer i answer => s.backgroundAnswer i answer
  | .emit info => s.emit info

def NamingService.takeAll (s : NamingService) (calls : List ServiceCall) : NamingService :=
  calls.foldl NamingService.take s

/-- The service and the joined clusters a call is about. -/
def ServiceCall.target : ServiceCall → Option (Service × String)
  | .subscribe serviceName groupName clusters _ _ =>
    some (Service.of serviceName groupName, joinClusters clusters)
  | .unsubscribe serviceName groupName clusters _ _ =>
    some (Service.of serviceName groupName, joinClusters clusters)
  | .getAllInstances serviceName groupName clusters _ _ =>
    some (Service.of serviceName groupName, joinClusters clusters)
  | .backgroundAnswer _ _ => none
  | .emit _ => none

/-- The listener that an accepted unsubscribe call takes from a service. -/
def ServiceCall.unsubscribes (call : ServiceCall) (service : Service) : Option Listener :=
  match call with
  | .unsubscribe serviceName groupName _ eventListener _ =>
    if isBlank serviceName = false ∧ Service.of serviceName groupName = service then
      some eventListener
    else none
  | _ => none

/-- Every request of the call is answered with success. -/
def ServiceCall.answered : ServiceCall → Bool
  | .subscribe _ _ _ _ answer => acknowledged answer
  | .unsubscribe _ _ _ _ answer => acknowledged answer
  | .getAllInstances _ _ _ _ answer => acknowledged answer
  | .backgroundAnswer _ answer => acknowledged answer
  | .emit _ => true

/-! ## The three maps -/

/-- The redo map holds the subscription of the service. -/
def NamingService.HasRedoTask (s : NamingService) (service : Service) : Prop :=
  ∃ task request, s.redo.map.get? (service.taskName s.namespace_) = some task ∧
    task.automaticRequest = .subscribe request ∧ request.subscribe = true ∧
    request.namespace_ = some s.namespace_ ∧ request.groupName = some service.groupName ∧
    request.serviceName = some service.serviceName

/-- The updater holds a running task of the service. -/
def NamingService.HasUpdateTask (s : NamingService) (service : Service) : Prop :=
  ∃ key task, s.updater.taskMap.get? key = some task ∧
    task.serviceName = service.serviceName ∧ task.groupName = service.groupName ∧
    s.updater.isRunning task = true

/-- While a listener is registered for the service, it is subscribed and
polled. -/
def NamingService.Kept (s : NamingService) (service : Service) : Prop :=
  s.registry.listenersOf service.key ≠ [] → s.HasRedoTask service ∧ s.HasUpdateTask service

/-- No call of another service files anything under a key of this one. -/
def Separate (namespace_ : String) (service : Service) (calls : List ServiceCall) : Prop :=
  ∀ call ∈ calls, ∀ other clusters, call.target = some (other, clusters) → other ≠ service →
    other.key ≠ service.key ∧ other.taskName namespace_ ≠ service.taskName namespace_ ∧
    ∀ own ∈ calls, ∀ c, own.target = some (service, c) →
      service.updateKey c ≠ other.updateKey clusters

/-- The maps agree on a service whose calls use the given clusters. -/
structure Tracked (namespace_ : String) (service : Service) (used : String → Prop)
    (s : NamingService) : Prop where
  namespace_eq : s.namespace_ = namespace_
  sound : s.updater.Sound
  own : ∀ c task, used c → s.updater.taskMap.get? (service.updateKey c) = some task →
    task.serviceName = service.serviceName ∧ task.groupName = service.groupName
  kept : s.registry.listenersOf service.key ≠ [] →
    s.HasRedoTask service ∧ ∃ c, used c ∧ s.updater.taskMap.get? (service.updateKey c) ≠ none

theorem new_tracked (namespace_ : String) (pushEmptyProtection : Bool)
    (namingCache : HashMap ServiceInfo) (service : Service) (used : String → Prop) :
    Tracked namespace_ service used
      (NamingService.new namespace_ pushEmptyProtection namingCache) where
  namespace_eq := rfl
  sound := new_sound
  own := fun _ _ _ h => by cases h
  kept := fun h => absurd rfl h

theorem tracked_kept {namespace_ : String} {service : Service} {used : String → Prop}
    {s : NamingService} (h : Tracked namespace_ service used s) : s.Kept service := by
  intro hl
  obtain ⟨hredo, c, hc, hu⟩ := h.kept hl
  obtain ⟨task, ht⟩ := Option.ne_none_iff_exists'.mp hu
  obtain ⟨hs, hg⟩ := h.own c task hc ht
  refine ⟨hredo, service.updateKey c, task, ht, hs, hg, ?_⟩
  unfold ServiceInfoUpdater.isRunning
  rw [h.sound.running _ _ ht]
  rfl

/-- Only the maps and the namespace matter. -/
theorem tracked_congr {namespace_ : String} {service : Service} {used : String → Prop}
    {s t : NamingService} (h : Tracked namespace_ service used s)
    (hn : t.namespace_ = s.namespace_) (hr : t.registry = s.registry)
    (hm : t.redo.map = s.redo.map) (hu : t.updater = s.updater) :
    Tracked namespace_ service used t := by
  refine ⟨hn.trans h.namespace_eq, hu ▸ h.sound, hu ▸ h.own, ?_⟩
  unfold NamingService.HasRedoTask
  rw [hn, hr, hm, hu]
  exact h.kept

/-- A call that touches no key of the service leaves its tasks as they were. -/
theorem kept_frame {namespace_ : String} {service : Service} {used : String → Prop}
    {s t : NamingService} (h : Tracked namespace_ service used s)
    (hn : t.namespace_ = s.namespace_)
    (hr : t.redo.map.get? (service.taskName namespace_) =
      s.redo.map.get? (service.taskName namespace_))
    (hu : ∀ c, used c → t.updater.taskMap.get? (service.updateKey c) =
      s.updater.taskMap.get? (service.updateKey c))
    (hl : s.registry.listenersOf service.key ≠ []) :
    t.HasRedoTask service ∧
      ∃ c, used c ∧ t.updater.taskMap.get? (service.updateKey c) ≠ none := by
  obtain ⟨⟨task, request, ht, hrest⟩, c, hc, hsome⟩ := h.kept hl
  refine ⟨⟨task, request, ?_, ?_⟩, c, hc, ?_⟩
  · rw [hn, h.namespace_eq, hr, ← h.namespace_eq]
    exact ht
  · rw [hn]
    exact hrest
  · rw [hu c hc]
    exact hsome

/-! ## One call -/

/-- A call on `other` either is about the service, with clusters in use, or
stays away from all its keys. -/
structure Fits (namespace_ : String) (service : Service) (used : String → Prop)
    (other : Service) (clusters : String) : Prop where
  same : other = service → used clusters
  key_ne : other ≠ service → other.key ≠ service.key
  taskName_ne : other ≠ service → other.taskName namespace_ ≠ service.taskName namespace_
  updateKey_ne : other ≠ service → ∀ c, used c → service.updateKey c ≠ other.updateKey clusters

section Calls

variable {namespace_ : String} {service : Service} {used : String → Prop} {s : NamingService}

theorem subscribeAsync_updateLookup (serviceName : String) (groupName : Option String)
    (clusters : List String) (eventListener : Option Listener) (answer : Answer) (key : String) :
    (s.subscribeAsync serviceName groupName clusters eventListener
        answer).2.updater.taskMap.get? key =
      if key = (Service.of serviceName groupName).updateKey (joinClusters clusters) ∧
          s.updater.taskMap.get? key = none then
        some (s.updater.startTask serviceName s.namespace_ (normalizeGroupName groupName)
          (joinClusters clusters)).1
      else s.updater.taskMap.get? key := by
  rw [subscribeAsync_updater]
  exact scheduleUpdate_lookup _ _ _ _ _ _

theorem unsubscribeAsync_updateLookup (serviceName : String) (groupName : Option String)
    (clusters : List String) (eventListener : Option Listener) (answer : Answer) (key : String) :
    (s.unsubscribeAsync serviceName groupName clusters eventListener
        answer).2.updater.taskMap.get? key =
      if key = (Service.of serviceName groupName).updateKey (joinClusters clusters) then none
      else s.updater.taskMap.get? key := by
  rw [unsubscribeAsync_updater]
  exact stopUpdate_lookup _ _ _ _ _

/-- Only the list of the service itself changes. -/
theorem subscribeAsync_listenersOf (serviceName : String) (groupName : Option String)
    (clusters : List String) (eventListener : Option Listener) (answer : Answer) {key : String}
    (hkey : (Service.of serviceName groupName).key ≠ key) :
    (s.subscribeAsync serviceName groupName clusters eventListener
      answer).2.registry.listenersOf key = s.registry.listenersOf key := by
  rw [subscribeAsync_registry]
  cases eventListener with
  | none => rfl
  | some listener =>
    rw [subscribe_listenersOf]
    exact if_neg fun he => hkey he.symm

theorem unsubscribeAsync_listenersOf (serviceName : String) (groupName : Option String)
    (clusters : List String) (listener : Listener) (answer : Answer) (key : String) :
    (s.unsubscribeAsync serviceName groupName clusters (some listener)
        answer).2.registry.listenersOf key =
      if key = (Service.of serviceName groupName).key then
        (s.registry.listenersOf key).erase listener
      else s.registry.listenersOf key := by
  rw [unsubscribeAsync_registry]
  simp only
  rw [unsubscribe_listenersOf]
  by_cases hk : key = getKeyWithoutClusters serviceName (normalizeGroupName groupName)
  · rw [if_pos hk, ← hk]
    exact (if_pos hk).symm
  · rw [if_neg hk]
    exact (if_neg hk).symm

/-- After a call on the service itself its redo task is there. -/
theorem subscribeAsync_hasRedoTask (serviceName : String) (groupName : Option String)
    (clusters : List String) (eventListener : Option Listener) (answer : Answer) :
    (s.subscribeAsync serviceName groupName clusters eventListener answer).2.HasRedoTask
      (Service.of serviceName groupName) := by
  refine ⟨(s.redo.newTask (s.subscribeRequest true serviceName (normalizeGroupName groupName)
    (joinClusters clusters))).1, _, ?_, rfl, rfl, ?_, rfl, rfl⟩
  · rw [subscribeAsync_namespace, subscribeAsync_redo, subscribeRequest_name]
    exact if_pos rfl
  · rw [subscribeAsync_namespace]
    rfl

theorem subscribeAsync_tracked (h : Tracked namespace_ service used s) (serviceName : String)
    (groupName : Option String) (clusters : List String) (eventListener : Option Listener)
    (answer : Answer)
    (hfit : Fits namespace_ service used (Service.of serviceName groupName)
      (joinClusters clusters)) :
    Tracked namespace_ service used
      (s.subscribeAsync serviceName groupName clusters eventListener answer).2 := by
  constructor
  · rw [subscribeAsync_namespace, h.namespace_eq]
  · rw [subscribeAsync_updater]
    exact scheduleUpdate_sound h.sound _ _ _ _
  · intro c task hc ht
    rw [subscribeAsync_updateLookup] at ht
    split at ht
    · next hkey =>
      by_cases hsame : Service.of serviceName groupName = service
      · cases ht
        exact ⟨congrArg Service.serviceName hsame, congrArg Service.groupName hsame⟩
      · exact absurd hkey.1 (hfit.updateKey_ne hsame c hc)
    · exact h.own c task hc ht
  · intro hl
    by_cases hsame : Service.of serviceName groupName = service
    · refine ⟨hsame ▸ subscribeAsync_hasRedoTask _ _ _ _ _, joinClusters clusters,
        hfit.same hsame, ?_⟩
      rw [subscribeAsync_updateLookup]
      split
      · simp
      · next hkey =>
        intro hnone
        exact hkey ⟨by rw [← hsame], hnone⟩
    · rw [subscribeAsync_listenersOf _ _ _ _ _ (hfit.key_ne hsame)] at hl
      refine kept_frame h (subscribeAsync_namespace _ _ _ _ _ _) ?_ (fun c hc => ?_) hl
      · rw [subscribeAsync_redo, subscribeRequest_name, h.namespace_eq]
        exact if_neg fun he => hfit.taskName_ne hsame he.symm
      · rw [subscribeAsync_updateLookup]
        exact if_neg fun hkey => hfit.updateKey_ne hsame c hc hkey.1

/-- An unsubscribe call of the service has to leave nobody registered. -/
theorem unsubscribeAsync_tracked (h : Tracked namespace_ service used s) (serviceName : String)
    (groupName : Option String) (clusters : List String) (listener : Listener) (answer : Answer)
    (hfit : Fits namespace_ service used (Service.of serviceName groupName)
      (joinClusters clusters))
    (halone : Service.of serviceName groupName = service →
      ∀ l ∈ s.registry.listenersOf service.key, l = listener) :
    Tracked namespace_ service used
      (s.unsubscribeAsync serviceName groupName clusters (some listener) answer).2 := by
  constructor
  · rw [unsubscribeAsync_namespace, h.namespace_eq]
  · rw [unsubscribeAsync_updater]
    exact stopUpdate_sound h.sound _ _ _
  · intro c task hc ht
    rw [unsubscribeAsync_updateLookup] at ht
    split at ht
    · cases ht
    · exact h.own c task hc ht
  · intro hl
    rw [unsubscribeAsync_listenersOf] at hl
    by_cases hsame : Service.of serviceName groupName = service
    · rw [if_pos (congrArg Service.key hsame).symm] at hl
      obtain ⟨l, hmem⟩ := List.exists_mem_of_ne_nil _ hl
      have hbefore := List.mem_of_mem_erase hmem
      rw [halone hsame l hbefore] at hmem
      exact absurd hmem (s.registry.listenersOf_nodup service.key).not_mem_erase
    · rw [if_neg fun he => hfit.key_ne hsame he.symm] at hl
      refine kept_frame h (unsubscribeAsync_namespace _ _ _ _ _ _) ?_ (fun c hc => ?_) hl
      · rw [unsubscribeAsync_redo, subscribeRequest_name, h.namespace_eq]
        exact if_neg fun he => hfit.taskName_ne hsame he.1.symm
      · rw [unsubscribeAsync_updateLookup]
        exact if_neg (hfit.updateKey_ne hsame c hc)

theorem backgroundAnswer_tracked (h : Tracked namespace_ service used s) (i : Nat)
    (answer : Answer) : Tracked namespace_ service used (s.backgroundAnswer i answer) := by
  unfold NamingService.backgroundAnswer
  split
  · exact h
  · simp only
    split
    · exact tracked_congr h rfl rfl rfl rfl
    · exact tracked_congr h rfl rfl rfl rfl

/-- **One call.** The maps stay together on a service under every call that
fits and does not unsubscribe one of several listeners. -/
theorem take_tracked (h : Tracked namespace_ service used s) (call : ServiceCall)
    (hfit : ∀ other clusters, call.target = some (other, clusters) →
      Fits namespace_ service used other clusters)
    (halone : ∀ listener, call.unsubscribes service = some listener →
      ∀ l ∈ s.registry.listenersOf service.key, l = listener) :
    Tracked namespace_ service used (s.take call) := by
  cases call with
  | subscribe serviceName groupName clusters eventListener answer =>
    simp only [NamingService.take, NamingService.subscribe, checkNotBlank]
    split
    · next hblank => exact h
    · exact subscribeAsync_tracked h _ _ _ _ _ (hfit _ _ rfl)
  | unsubscribe serviceName groupName clusters eventListener answer =>
    cases hblank : isBlank serviceName with
    | true =>
      simp only [NamingService.take, NamingService.unsubscribe, checkNotBlank, hblank, ↓reduceIte]
      exact h
    | false =>
      simp only [NamingService.take, NamingService.unsubscribe, checkNotBlank, hblank,
        Bool.false_eq_true, ↓reduceIte]
      refine unsubscribeAsync_tracked h _ _ _ _ _ (hfit _ _ rfl) fun hsame => halone _ ?_
      exact if_pos ⟨hblank, hsame⟩
  | getAllInstances serviceName groupName clusters subscribe answer =>
    simp only [NamingService.take, NamingService.getAllInstances, checkNotBlank]
    split
    · exact h
    · simp only [NamingService.getAllInstancesAsync]
      split
      · split
        · exact h
        · have hnorm : normalizeGroupName (some (normalizeGroupName groupName)) =
              normalizeGroupName groupName := normalizeGroupName_idem groupName
          have hgroup : Service.of serviceName (some (normalizeGroupName groupName)) =
              Service.of serviceName groupName := by
            unfold Service.of
            rw [hnorm]
          have hnext := subscribeAsync_tracked h serviceName (some (normalizeGroupName groupName))
            clusters none answer (hgroup ▸ hfit _ _ rfl)
          split
          · exact hnext
          · exact hnext
      · split
        · exact h
        · exact h
  | backgroundAnswer i answer => exact backgroundAnswer_tracked h i answer
  | emit info => exact tracked_congr h rfl rfl rfl rfl

end Calls

/-! ## Names without the separator's character -/

/-- A service whose names have no `@`, under a group. -/
structure Service.Plain (service : Service) : Prop where
  group_ne : service.groupName ≠ ""
  serviceName : '@' ∉ service.serviceName.toList
  groupName : '@' ∉ service.groupName.toList

theorem containsSeparator_false {s : String} (h : '@' ∉ s.toList) : containsSeparator s = false := by
  unfold containsSeparator
  rw [decide_eq_false_iff_not]
  intro hin
  exact h (hin.subset (by decide))

theorem plain_key {service : Service} (h : service.Plain) :
    service.key.toList =
      service.groupName.toList ++ '@' :: '@' :: service.serviceName.toList := by
  have hsep := containsSeparator_false h.serviceName
  simp [Service.key, getKeyWithoutClusters, getGroupedServiceName, h.group_ne, hsep,
    serviceInfoSeparator, String.toList_append]

/-- The part of an update key behind the service name. -/
def clusterTail (clusters : String) : List Char :=
  if clusters = "" then [] else '@' :: '@' :: clusters.toList

theorem clusterTail_tail (clusters : String) : Tail '@' (clusterTail clusters) := by
  unfold clusterTail
  split
  · exact tail_nil _
  · exact tail_cons _ _

theorem updateKey_toList (service : Service) (clusters : String) :
    (service.updateKey clusters).toList = service.key.toList ++ clusterTail clusters :=
  getKey_toList _ _

/-- Plain services have keys of their own, with any clusters behind them. -/
theorem plain_ext {a b : Service} (ha : a.Plain) (hb : b.Plain) {t u : List Char}
    (ht : Tail '@' t) (hu : Tail '@' u) (h : a.key.toList ++ t = b.key.toList ++ u) : a = b := by
  rw [plain_key ha, plain_key hb] at h
  simp only [List.append_assoc, List.cons_append] at h
  obtain ⟨hg, hrest⟩ :=
    append_inj_of_tail ha.groupName hb.groupName (tail_cons _ _) (tail_cons _ _) h
  simp only [List.cons.injEq, true_and] at hrest
  obtain ⟨hs, _⟩ := append_inj_of_tail ha.serviceName hb.serviceName ht hu hrest
  cases a
  cases b
  simp only [String.toList_inj] at hg hs
  rw [hg, hs]

theorem plain_taskName {a b : Service} (ha : a.Plain) (hb : b.Plain) (namespace_ : String)
    (h : a.taskName namespace_ = b.taskName namespace_) : a = b := by
  have hl := congrArg String.toList h
  simp only [Service.taskName, requestName, Option.getD_some, String.toList_append,
    List.append_assoc, List.append_cancel_left_eq] at hl
  have hat : ("@@" : String).toList = ['@', '@'] := rfl
  simp only [hat, List.cons_append, List.nil_append] at hl
  obtain ⟨hg, hrest⟩ :=
    append_inj_of_tail ha.groupName hb.groupName (tail_cons _ _) (tail_cons _ _) hl
  simp only [List.cons.injEq, true_and] at hrest
  obtain ⟨hs, _⟩ :=
    append_inj_of_tail ha.serviceName hb.serviceName (tail_cons _ _) (tail_cons _ _) hrest
  cases a
  cases b
  simp only [String.toList_inj] at hg hs
  rw [hg, hs]

/-- Services with plain names never share a key. -/
theorem separate_of_plain {service : Service} (hs : service.Plain) {calls : List ServiceCall}
    (hc : ∀ call ∈ calls, ∀ other clusters, call.target = some (other, clusters) → other.Plain)
    (namespace_ : String) : Separate namespace_ service calls := by
  intro call hmem other clusters ht hne
  have ho := hc call hmem other clusters ht
  refine ⟨fun hk => hne ?_, fun hk => hne ?_, fun own hown c hc' hk => hne ?_⟩
  · exact plain_ext ho hs (tail_nil '@') (tail_nil '@') (by rw [hk])
  · exact plain_taskName ho hs namespace_ hk
  · refine plain_ext ho hs (clusterTail_tail clusters) (clusterTail_tail c) ?_
    rw [← updateKey_toList, ← updateKey_toList, hk]

/-! ## Whole runs -/

theorem takeAll_snoc (s : NamingService) (calls : List ServiceCall) (call : ServiceCall) :
    s.takeAll (calls ++ [call]) = (s.takeAll calls).take call := by
  simp [NamingService.takeAll]

/-- The clusters that the calls on a service use. -/
def usedClusters (service : Service) (calls : List ServiceCall) (clusters : String) : Prop :=
  ∃ own ∈ calls, own.target = some (service, clusters)

theorem fits_of_separate {namespace_ : String} {service : Service} {calls : List ServiceCall}
    (h : Separate namespace_ service calls) {call : ServiceCall} (hmem : call ∈ calls)
    {other : Service} {clusters : String} (ht : call.target = some (other, clusters)) :
    Fits namespace_ service (usedClusters service calls) other clusters where
  same := by
    rintro rfl
    exact ⟨call, hmem, ht⟩
  key_ne := fun hne => (h call hmem other clusters ht hne).1
  taskName_ne := fun hne => (h call hmem other clusters ht hne).2.1
  updateKey_ne := by
    rintro hne c ⟨own, hown, hc⟩
    exact (h call hmem other clusters ht hne).2.2 own hown c hc

theorem take_unsubscribe {serviceName : String} (h : isBlank serviceName = false)
    (s : NamingService) (groupName : Option String) (clusters : List String) (listener : Listener)
    (answer : Answer) :
    s.take (.unsubscribe serviceName groupName clusters listener answer) =
      (s.unsubscribeAsync serviceName groupName clusters (some listener) answer).2 := by
  simp [NamingService.take, NamingService.unsubscribe, checkNotBlank, h]

/-- An acknowledged unsubscribe call of a service ends its redo task. -/
theorem unsubscribes_redo {s : NamingService} {call : ServiceCall} {service : Service}
    {listener : Listener} (h : call.unsubscribes service = some listener)
    (ha : call.answered = true) :
    (s.take call).redo.map.get? (service.taskName (s.take call).namespace_) = none ∧
      (s.take call).registry.listenersOf service.key =
        (s.registry.listenersOf service.key).erase listener := by
  cases call with
  | unsubscribe serviceName groupName clusters eventListener answer =>
    simp only [ServiceCall.unsubscribes] at h
    split at h
    · next hcond =>
      cases h
      obtain ⟨hblank, rfl⟩ := hcond
      rw [take_unsubscribe hblank]
      constructor
      · rw [unsubscribeAsync_namespace, unsubscribeAsync_redo, subscribeRequest_name]
        exact if_pos ⟨rfl, ha⟩
      · rw [unsubscribeAsync_listenersOf, if_pos rfl]
    · cases h
  | subscribe => cases h
  | getAllInstances => cases h
  | backgroundAnswer => cases h
  | emit => cases h

section Runs

variable {namespace_ : String} {pushEmptyProtection : Bool} {namingCache : HashMap ServiceInfo}

/-- **Subscriptions are kept.** Over a run of answered calls in which no other
service shares a key with this one, its registered listeners keep their redo
and update tasks after every call exactly when every unsubscribe call of the
service finds no other listener registered. -/
theorem subscription_kept_iff (service : Service) (calls : List ServiceCall)
    (hsep : Separate namespace_ service calls) (hans : ∀ call ∈ calls, call.answered = true) :
    (∀ past rest, calls = past ++ rest →
        ((NamingService.new namespace_ pushEmptyProtection namingCache).takeAll past).Kept
          service) ↔
      ∀ past call rest listener, calls = past ++ call :: rest →
        call.unsubscribes service = some listener →
        ∀ l ∈ ((NamingService.new namespace_ pushEmptyProtection namingCache).takeAll
          past).registry.listenersOf service.key, l = listener := by
  constructor
  · intro hkept past call rest listener he hu l hl
    have hafter := hkept (past ++ [call]) rest (by simp [he])
    rw [takeAll_snoc] at hafter
    obtain ⟨hredo, hreg⟩ := unsubscribes_redo (s := NamingService.takeAll _ past) hu
      (hans call (by simp [he]))
    by_contra hne
    have hmem := (List.mem_erase_of_ne hne).mpr hl
    rw [← hreg] at hmem
    obtain ⟨⟨task, request, ht, _⟩, _⟩ := hafter (List.ne_nil_of_mem hmem)
    rw [hredo] at ht
    cases ht
  · intro halone past
    have htracked : ∀ rest, calls = past ++ rest →
        Tracked namespace_ service (usedClusters service calls)
          ((NamingService.new namespace_ pushEmptyProtection namingCache).takeAll past) := by
      induction past using List.reverseRecOn with
      | nil => exact fun _ _ => new_tracked _ _ _ _ _
      | append_singleton past call ih =>
        intro rest he
        have he' : calls = past ++ call :: rest := by simp [he]
        rw [takeAll_snoc]
        exact take_tracked (ih _ he') call
          (fun other clusters ht => fits_of_separate hsep (by simp [he']) ht)
          (fun listener hu => halone past call rest listener he' hu)
    exact fun rest he => tracked_kept (htracked rest he)

end Runs

/-! ## Two listeners of one service -/

def ordersService : Service := Service.of "orders" none

def ordersAnswer : Answer :=
  .ok { GrpcResponse.ok with serviceInfo := ordersInfo 1 [hostAt "10.0.0.1" 8080] }

/-- Two listeners subscribe and the first one leaves. -/
def twoListeners : List ServiceCall :=
  [.subscribe "orders" none [] 0 ordersAnswer, .subscribe "orders" none [] 1 ordersAnswer,
    .unsubscribe "orders" none [] 0 ordersAnswer]

theorem ordersService_plain : ordersService.Plain := ⟨by decide, by decide, by decide⟩

theorem twoListeners_separate : Separate "public" ordersService twoListeners := by
  refine separate_of_plain ordersService_plain (fun call hmem other clusters ht => ?_) "public"
  have hother : ∀ c ∈ twoListeners, c.target.map (·.1) = some ordersService := by decide
  have hthis := hother call hmem
  rw [ht] at hthis
  cases hthis
  exact ordersService_plain

theorem subscription_kept_iff_twoListeners :
    (∀ past rest, twoListeners = past ++ rest →
        ((NamingService.new "public" true ∅).takeAll past).Kept ordersService) ↔
      ∀ past call rest listener, twoListeners = past ++ call :: rest →
        call.unsubscribes ordersService = some listener →
        ∀ l ∈ ((NamingService.new "public" true ∅).takeAll past).registry.listenersOf
          ordersService.key, l = listener :=
  subscription_kept_iff ordersService twoListeners twoListeners_separate (by decide)

/-- The second listener is still registered, but nothing renews or polls its
service any more. -/
theorem twoListeners_not_kept :
    (∀ call ∈ twoListeners, call.answered = true) ∧
      ((NamingService.new "public" true ∅).takeAll twoListeners).registry.listenersOf
        ordersService.key = [1] ∧
      ¬ ((NamingService.new "public" true ∅).takeAll twoListeners).Kept ordersService := by
  refine ⟨by decide, by decide, fun hkept => ?_⟩
  obtain ⟨⟨task, _, ht, _⟩, _⟩ := hkept (by decide)
  have hnone : ((NamingService.new "public" true ∅).takeAll twoListeners).redo.map.lookup
      (ordersService.taskName "public") = none := by decide
  exact absurd (ht.symm.trans hnone) (by simp)

end NacosSdk.Naming
