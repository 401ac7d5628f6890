import NacosSdk.Common.HashMap
import NacosSdk.Lib.LastCall
import NacosSdk.Naming.ServiceInfo

/-!
# The service info observer

The listener registry of `ServiceInfoObserver` and what one observed service
info spawns. An `Arc<dyn NamingEventListener>` is its address. Proved here, for
every registry:

* `subscribe_listenersOf`, `unsubscribe_listenersOf`: the list kept under every
  key after a call;
* `observe_eq`: one callback for each listener of the key, in list order.
-/

namespace NacosSdk.Naming
open NacosSdk.Common NacosSdk.Lib.LastCall

/-- The address of an `Arc<dyn NamingEventListener>`. -/
abbrev Listener := Nat

structure NamingChangeEvent where
  serviceName : String
  groupName : String
  clusters : String
  instances : Option (List ServiceInstance)
  deriving DecidableEq

/-- The registry key of the service an event is about. -/
def NamingChangeEvent.key (event : NamingChangeEvent) : String :=
  getKeyWithoutClusters event.serviceName event.groupName

def NamingChangeEvent.ofInfo (info : ServiceInfo) : NamingChangeEvent where
  serviceName := info.name
  groupName := info.groupName
  clusters := info.clusters
  instances := info.hosts

@[simp] theorem ofInfo_key (info : ServiceInfo) : (NamingChangeEvent.ofInfo info).key = info.key :=
  rfl

@[simp] theorem ofInfo_instances (info : ServiceInfo) :
    (NamingChangeEvent.ofInfo info).instances = info.hosts := rfl

/-! ## One listener list -/

def indexOfListener (vec : List Listener) (target : Listener) : Option Nat :=
  vec.findIdx? (· == target)

/-- The list after `subscribe`: an earlier occurrence is removed first. -/
def pushListener (listeners : List Listener) (listener : Listener) : List Listener :=
  match indexOfListener listeners listener with
  | some index => listeners.eraseIdx index ++ [listener]
  | none => listeners ++ [listener]

/-- The list after `unsubscribe`. -/
def dropListener (listeners : List Listener) (listener : Listener) : List Listener :=
  match indexOfListener listeners listener with
  | some index => listeners.eraseIdx index
  | none => listeners

theorem dropListener_eq (listeners : List Listener) (listener : Listener) :
    dropListener listeners listener = listeners.erase listener := by
  rw [List.erase_eq_eraseIdx]
  change dropListener listeners listener = match indexOfListener listeners listener with
    | none => listeners
    | some index => listeners.eraseIdx index
  unfold dropListener
  cases indexOfListener listeners listener with
  | none => rfl
  | some index => rfl

theorem pushListener_eq (listeners : List Listener) (listener : Listener) :
    pushListener listeners listener = listeners.erase listener ++ [listener] := by
  rw [← dropListener_eq]
  unfold pushListener dropListener
  cases indexOfListener listeners listener with
  | none => rfl
  | some index => rfl

theorem pushListener_nodup {listeners : List Listener} (h : listeners.Nodup)
    (listener : Listener) : (pushListener listeners listener).Nodup := by
  rw [pushListener_eq]
  refine List.Nodup.append (h.erase listener) (List.nodup_singleton listener) ?_
  intro l hl hs
  rw [List.mem_singleton.mp hs] at hl
  exact (h.not_mem_erase) hl

theorem dropListener_nodup {listeners : List Listener} (h : listeners.Nodup)
    (listener : Listener) : (dropListener listeners listener).Nodup := by
  rw [dropListener_eq]
  exact h.erase listener

/-! ## The registry -/

/-- The map of the observer; no list holds a listener twice. -/
structure ListenerRegistry where
  map : HashMap (List Listener)
  nodup : ∀ key listeners, map.get? key = some listeners → listeners.Nodup

/-- The map with one list replaced. -/
def ListenerRegistry.put (registry : ListenerRegistry) (key : String)
    (listeners : List Listener) (h : listeners.Nodup) : ListenerRegistry where
  map := registry.map.insert key listeners
  nodup := by
    intro k ls hl
    rw [HashMap.get?_insert] at hl
    split at hl
    · cases hl
      exact h
    · exact registry.nodup k ls hl

def ListenerRegistry.empty : ListenerRegistry where
  map := ∅
  nodup := fun _ _ h => absurd h (by simp)

/-- The listeners kept under a key. -/
def ListenerRegistry.listenersOf (registry : ListenerRegistry) (key : String) : List Listener :=
  (registry.map.get? key).getD []

theorem ListenerRegistry.listenersOf_nodup (registry : ListenerRegistry) (key : String) :
    (registry.listenersOf key).Nodup := by
  unfold listenersOf
  cases h : registry.map.get? key with
  | none => exact List.nodup_nil
  | some listeners => exact registry.nodup key listeners h

/-- `ServiceInfoObserver::subscribe`. -/
def ListenerRegistry.subscribe (registry : ListenerRegistry) (key : String)
    (listener : Listener) : ListenerRegistry :=
  match h : registry.map.get? key with
  | some listeners =>
    registry.put key (pushListener listeners listener)
      (pushListener_nodup (registry.nodup key listeners h) listener)
  | none => registry.put key [listener] (List.nodup_singleton listener)

/-- `ServiceInfoObserver::unsubscribe`; an emptied list stays under its key. -/
def ListenerRegistry.unsubscribe (registry : ListenerRegistry) (key : String)
    (listener : Listener) : ListenerRegistry :=
  match h : registry.map.get? key with
  | none => registry
  | some listeners =>
    registry.put key (dropListener listeners listener)
      (dropListener_nodup (registry.nodup key listeners h) listener)

theorem put_listenersOf (registry : ListenerRegistry) (key k : String)
    (listeners : List Listener) (h : listeners.Nodup) :
    (registry.put key listeners h).listenersOf k =
      if k = key then listeners else registry.listenersOf k := by
  unfold ListenerRegistry.listenersOf ListenerRegistry.put
  rw [HashMap.get?_insert]
  split
  · rfl
  · rfl

theorem subscribe_listenersOf (registry : ListenerRegistry) (key k : String)
    (listener : Listener) :
    (registry.subscribe key listener).listenersOf k =
      if k = key then (registry.listenersOf key).erase listener ++ [listener]
      else registry.listenersOf k := by
  unfold ListenerRegistry.subscribe
  split
  · next listeners h =>
    have hl : registry.listenersOf key = listeners := by
      simp [ListenerRegistry.listenersOf, h]
    rw [put_listenersOf, pushListener_eq, hl]
  · next h =>
    have hl : registry.listenersOf key = [] := by
      simp [ListenerRegistry.listenersOf, h]
    rw [put_listenersOf, hl, List.erase_nil, List.nil_append]

theorem unsubscribe_listenersOf (registry : ListenerRegistry) (key k : String)
    (listener : Listener) :
    (registry.unsubscribe key listener).listenersOf k =
      if k = key then (registry.listenersOf key).erase listener else registry.listenersOf k := by
  unfold ListenerRegistry.unsubscribe
  split
  · next h =>
    have hl : registry.listenersOf key = [] := by
      simp [ListenerRegistry.listenersOf, h]
    by_cases hk : k = key
    · rw [if_pos hk, hk, hl, List.erase_nil]
    · rw [if_neg hk]
  · next listeners h =>
    have hl : registry.listenersOf key = listeners := by
      simp [ListenerRegistry.listenersOf, h]
    rw [put_listenersOf, dropListener_eq, hl]

/-! ## Any calls -/

inductive RegistryCall where
  | subscribe (key : String) (listener : Listener)
  | unsubscribe (key : String) (listener : Listener)

def ListenerRegistry.call (registry : ListenerRegistry) : RegistryCall → ListenerRegistry
  | .subscribe key listener => registry.subscribe key listener
  | .unsubscribe key listener => registry.unsubscribe key listener

/-- Whether a call puts a listener under the key or takes it away, if it is about
both. -/
def RegistryCall.effect (key : String) : RegistryCall → Listener → Option Bool
  | .subscribe k l, listener => if key = k ∧ listener = l then some true else none
  | .unsubscribe k l, listener => if key = k ∧ listener = l then some false else none

theorem call_mem (registry : ListenerRegistry) (key : String) (call : RegistryCall)
    (listener : Listener) :
    listener ∈ (registry.call call).listenersOf key ↔
      match call.effect key listener with
      | some added => added = true
      | none => listener ∈ registry.listenersOf key := by
  cases call with
  | subscribe k l =>
    simp only [ListenerRegistry.call, RegistryCall.effect, subscribe_listenersOf]
    by_cases hkey : key = k
    · by_cases hlistener : listener = l
      · simp [hkey, hlistener]
      · simp [hkey, hlistener, List.mem_erase_of_ne hlistener]
    · simp [hkey]
  | unsubscribe k l =>
    simp only [ListenerRegistry.call, RegistryCall.effect, unsubscribe_listenersOf]
    by_cases hkey : key = k
    · by_cases hlistener : listener = l
      · simp [hkey, hlistener, (registry.listenersOf_nodup k).not_mem_erase]
      · simp [hkey, hlistener, List.mem_erase_of_ne hlistener]
    · simp [hkey]

/-- Under every key, each listener whose last call there was a subscription, once. -/
theorem registry_law (calls : List RegistryCall) (key : String) :
    ((calls.foldl ListenerRegistry.call ListenerRegistry.empty).listenersOf key).Nodup ∧
    ∀ listener,
      listener ∈ (calls.foldl ListenerRegistry.call ListenerRegistry.empty).listenersOf key ↔
        lastEffect (RegistryCall.effect key) calls listener = some true := by
  refine ⟨ListenerRegistry.listenersOf_nodup _ key, fun listener => ?_⟩
  refine mem_iff_lastEffect
    (fun (registry : ListenerRegistry) l => l ∈ registry.listenersOf key) ?_ ?_ ?_ calls listener
  · intro registry call l added he
    rw [call_mem, he]
  · intro registry call l he
    rw [call_mem, he]
  · intro l hm
    simp [ListenerRegistry.listenersOf, ListenerRegistry.empty] at hm

/-! ## One observed service info -/

/-- One round of `observe`: the callbacks that are spawned. -/
def observe (registry : ListenerRegistry) (serviceInfo : ServiceInfo) :
    List (Listener × NamingChangeEvent) :=
  match registry.map.get? serviceInfo.key with
  | none => []
  | some listeners =>
    if listeners.isEmpty then []
    else
      let namingEvent := NamingChangeEvent.ofInfo serviceInfo
      listeners.map fun listener => (listener, namingEvent)

theorem observe_eq (registry : ListenerRegistry) (serviceInfo : ServiceInfo) :
    observe registry serviceInfo =
      (registry.listenersOf serviceInfo.key).map
        fun listener => (listener, NamingChangeEvent.ofInfo serviceInfo) := by
  unfold observe ListenerRegistry.listenersOf
  cases registry.map.get? serviceInfo.key with
  | none => rfl
  | some listeners =>
    cases listeners with
    | nil => rfl
    | cons listener rest => rfl

end NacosSdk.Naming
