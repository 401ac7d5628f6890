import NacosSdk.Common.Error
import NacosSdk.Naming.Observable
import NacosSdk.Naming.Observer
import NacosSdk.Naming.Redo
import NacosSdk.Naming.Updater

/-!
# The naming service

`subscribe`, `unsubscribe` and `get_all_instances` of `naming/mod.rs` over the
naming cache, the listener registry, the redo map and the updater. A call is
one step; what the server answers to its request is an argument. Proved here,
for every service and call:

* `subscribeAsync_registry`, `subscribeAsync_redo`, `subscribeAsync_updater`:
  what a subscription leaves in the three maps;
* `unsubscribeAsync_registry`, `unsubscribeAsync_redo`, `unsubscribeAsync_updater`:
  what the end of one leaves there.
-/

namespace NacosSdk.Naming
open NacosSdk.Common NacosSdk.Lib

/-- `SubscribeServiceResponse` and `QueryServiceResponse`. -/
structure ServiceInfoResponse extends GrpcResponse where
  serviceInfo : ServiceInfo
  deriving DecidableEq

/-- What `request_to_server` returns. -/
abbrev Answer := Except Error ServiceInfoResponse

/-- A response of another result code than success is an error too. -/
def acknowledge (operation : String) (answer : Answer) : Except Error ServiceInfo :=
  match answer with
  | .error e => .error e
  | .ok response =>
    match handleResponse response.toGrpcResponse operation with
    | .error e => .error e
    | .ok () => .ok response.serviceInfo

/-- The request was answered with success. -/
def acknowledged (answer : Answer) : Bool :=
  match answer with
  | .error _ => false
  | .ok response => response.isSuccess

structure NamingService where
  namespace_ : String
  pushEmptyProtection : Bool
  namingCache : HashMap ServiceInfo
  registry : ListenerRegistry
  redo : RedoTaskExecutor
  updater : ServiceInfoUpdater
  /-- Tasks whose request was spawned and is not answered yet. -/
  background : List NamingRedoTask

/-- `NacosNamingService::new` over a cache that may have been loaded. -/
def NamingService.new (namespace_ : String) (pushEmptyProtection : Bool)
    (namingCache : HashMap ServiceInfo) : NamingService where
  namespace_ := namespace_
  pushEmptyProtection := pushEmptyProtection
  namingCache := namingCache
  registry := ListenerRegistry.empty
  redo := RedoTaskExecutor.new
  updater := ServiceInfoUpdater.new
  background := []

namespace NamingService

def subscribeRequest (s : NamingService) (subscribe : Bool)
    (serviceName groupName clusters : String) : AutomaticRequest :=
  .subscribe (SubscribeServiceRequest.new subscribe clusters (some serviceName)
    (some s.namespace_) (some groupName))

/-- The part of `subscribe_async` before the cache is read: the updater task,
the listener and an active redo task. -/
def addSubscription (s : NamingService) (serviceName groupName clusters : String)
    (eventListener : Option Listener) : NamingRedoTask × NamingService :=
  let key := getKeyWithoutClusters serviceName groupName
  let updater := s.updater.scheduleUpdate s.namespace_ serviceName groupName clusters
  let registry :=
    match eventListener with
    | some listener => s.registry.subscribe key listener
    | none => s.registry
  let made := s.redo.newTask (s.subscribeRequest true serviceName groupName clusters)
  let redoTask := made.1
  let redo := (made.2.active redoTask).addTask redoTask
  (redoTask, { s with updater, registry, redo })

def subscribeAsync (s : NamingService) (serviceName : String) (groupName : Option String)
    (clusters : List String) (eventListener : Option Listener) (answer : Answer) :
    Except Error ServiceInfo × NamingService :=
  let clusters := joinClusters clusters
  let groupName := normalizeGroupName groupName
  let key := getKeyWithoutClusters serviceName groupName
  let added := s.addSubscription serviceName groupName clusters eventListener
  let redoTask := added.1
  let s := added.2
  match s.namingCache.get? key with
  | some cachedInfo =>
    -- the request goes out in the background; its answer only freezes the task
    (.ok cachedInfo, { s with background := s.background ++ [redoTask] })
  | none =>
    match acknowledge "subscribe" answer with
    | .error e => (.error e, s)
    | .ok serviceInfo => (.ok serviceInfo, { s with redo := s.redo.frozen redoTask })

/-- The answer to a request that was sent in the background. -/
def backgroundAnswer (s : NamingService) (i : Nat) (answer : Answer) : NamingService :=
  match s.background[i]? with
  | none => s
  | some redoTask =>
    let s := { s with background := s.background.eraseIdx i }
    match acknowledge "subscribe" answer with
    | .error _ => s
    | .ok _ => { s with redo := s.redo.frozen redoTask }

def unsubscribeAsync (s : NamingService) (serviceName : String) (groupName : Option String)
    (clusters : List String) (eventListener : Option Listener) (answer : Answer) :
    Except Error Unit × NamingService :=
  let clusters := joinClusters clusters
  let groupName := normalizeGroupName groupName
  let updater := s.updater.stopUpdate serviceName groupName clusters
  let registry :=
    match eventListener with
    | some listener =>
      s.registry.unsubscribe (getKeyWithoutClusters serviceName groupName) listener
    | none => s.registry
  let made := s.redo.newTask (s.subscribeRequest false serviceName groupName clusters)
  let redoTask := made.1
  let s := { s with updater, registry, redo := made.2 }
  match acknowledge "unsubscribe" answer with
  | .error e => (.error e, s)
  | .ok _ => (.ok (), { s with redo := s.redo.removeTask redoTask.taskKey })

def getAllInstancesAsync (s : NamingService) (serviceName : String) (groupName : Option String)
    (clusters : List String) (subscribe : Bool) (answer : Answer) :
    Except Error (List ServiceInstance) × NamingService :=
  let clusterStr := joinClusters clusters
  let groupName := normalizeGroupName groupName
  if subscribe then
    let groupedName := getGroupedServiceName serviceName groupName
    let key := getKey groupedName clusterStr
    match s.namingCache.get? key with
    | some cachedInfo => (.ok (cachedInfo.hosts.getD []), s)
    | none =>
      let subscribed := s.subscribeAsync serviceName (some groupName) clusters none answer
      match subscribed.1 with
      | .ok serviceInfo => (.ok (serviceInfo.hosts.getD []), subscribed.2)
      | .error _ => (.ok [], subscribed.2)
  else
    match acknowledge "get_all_instances" answer with
    | .error e => (.error e, s)
    | .ok serviceInfo => (.ok (serviceInfo.hosts.getD []), s)

/-- A push or a poll that reaches the emitter. -/
def emit (s : NamingService) (info : ServiceInfo) : NamingService :=
  { s with namingCache := (processServiceInfo s.pushEmptyProtection s.namingCache info).2 }

/-! ## The public calls -/

/-- `subscribe` reports no failure of its request. -/
def subscribe (s : NamingService) (serviceName : String) (groupName : Option String)
    (clusters : List String) (eventListener : Listener) (answer : Answer) :
    Except Error Unit × NamingService :=
  match checkNotBlank serviceName "service_name" with
  | .error e => (.error e, s)
  | .ok _ =>
    (.ok (), (s.subscribeAsync serviceName groupName clusters (some eventListener) answer).2)

def unsubscribe (s : NamingService) (serviceName : String) (groupName : Option String)
    (clusters : List String) (eventListener : Listener) (answer : Answer) :
    Except Error Unit × NamingService :=
  match checkNotBlank serviceName "service_name" with
  | .error e => (.error e, s)
  | .ok _ => s.unsubscribeAsync serviceName groupName clusters (some eventListener) answer

def getAllInstances (s : NamingService) (serviceName : String) (groupName : Option String)
    (clusters : List String) (subscribe : Bool) (answer : Answer) :
    Except Error (List ServiceInstance) × NamingService :=
  match checkNotBlank serviceName "service_name" with
  | .error e => (.error e, s)
  | .ok _ => s.getAllInstancesAsync serviceName groupName clusters subscribe answer

end NamingService

/-! ## What a call leaves in the maps -/

theorem acknowledge_of_true {answer : Answer} (h : acknowledged answer = true)
    (operation : String) : ∃ info, acknowledge operation answer = .ok info := by
  cases answer with
  | error e => cases h
  | ok response =>
    have hs : handleResponse response.toGrpcResponse operation = .ok () :=
      (handleResponse_ok_iff _ _).mpr h
    exact ⟨response.serviceInfo, by simp [acknowledge, hs]⟩

theorem acknowledge_of_false {answer : Answer} (h : acknowledged answer = false)
    (operation : String) : ∃ e, acknowledge operation answer = .error e := by
  cases answer with
  | error e => exact ⟨e, rfl⟩
  | ok response =>
    have hs : response.isSuccess = false := h
    exact ⟨_, by simp [acknowledge, handleResponse, hs]; rfl⟩

section Calls

variable (s : NamingService) (serviceName : String) (groupName : Option String)
  (clusters : List String) (eventListener : Option Listener) (answer : Answer)

/-- `subscribe_async` leaves what `addSubscription` does, but for a flag and
the requests in the background. -/
theorem subscribeAsync_eq :
    ∃ flags background,
      (s.subscribeAsync serviceName groupName clusters eventListener answer).2 =
        let added := (s.addSubscription serviceName (normalizeGroupName groupName)
          (joinClusters clusters) eventListener).2
        { added with redo := { added.redo with flags }, background } := by
  simp only [NamingService.subscribeAsync]
  split
  · exact ⟨_, _, rfl⟩
  · split
    · exact ⟨_, _, rfl⟩
    · exact ⟨_, _, rfl⟩

theorem subscribeAsync_namespace :
    (s.subscribeAsync serviceName groupName clusters eventListener answer).2.namespace_ =
      s.namespace_ := by
  obtain ⟨_, _, he⟩ := subscribeAsync_eq s serviceName groupName clusters eventListener answer
  rw [he]
  rfl

theorem subscribeAsync_frame :
    (s.subscribeAsync serviceName groupName clusters eventListener answer).2.namingCache =
        s.namingCache ∧
      (s.subscribeAsync serviceName groupName clusters eventListener answer).2.pushEmptyProtection =
        s.pushEmptyProtection := by
  obtain ⟨_, _, he⟩ := subscribeAsync_eq s serviceName groupName clusters eventListener answer
  rw [he]
  exact ⟨rfl, rfl⟩

theorem subscribeAsync_registry :
    (s.subscribeAsync serviceName groupName clusters eventListener answer).2.registry =
      match eventListener with
      | some listener => s.registry.subscribe
          (getKeyWithoutClusters serviceName (normalizeGroupName groupName)) listener
      | none => s.registry := by
  obtain ⟨_, _, he⟩ := subscribeAsync_eq s serviceName groupName clusters eventListener answer
  rw [he]
  rfl

theorem subscribeAsync_updater :
    (s.subscribeAsync serviceName groupName clusters eventListener answer).2.updater =
      s.updater.scheduleUpdate s.namespace_ serviceName (normalizeGroupName groupName)
        (joinClusters clusters) := by
  obtain ⟨_, _, he⟩ := subscribeAsync_eq s serviceName groupName clusters eventListener answer
  rw [he]
  rfl

theorem subscribeAsync_redo (key : String) :
    (s.subscribeAsync serviceName groupName clusters eventListener answer).2.redo.map.get? key =
      if key = (s.subscribeRequest true serviceName (normalizeGroupName groupName)
          (joinClusters clusters)).name then
        some (s.redo.newTask (s.subscribeRequest true serviceName (normalizeGroupName groupName)
          (joinClusters clusters))).1
      else s.redo.map.get? key := by
  obtain ⟨_, _, he⟩ := subscribeAsync_eq s serviceName groupName clusters eventListener answer
  rw [he]
  exact HashMap.get?_insert _ _ _ _

theorem unsubscribeAsync_namespace :
    (s.unsubscribeAsync serviceName groupName clusters eventListener answer).2.namespace_ =
      s.namespace_ := by
  simp only [NamingService.unsubscribeAsync]
  split <;> rfl

theorem unsubscribeAsync_registry :
    (s.unsubscribeAsync serviceName groupName clusters eventListener answer).2.registry =
      match eventListener with
      | some listener => s.registry.unsubscribe
          (getKeyWithoutClusters serviceName (normalizeGroupName groupName)) listener
      | none => s.registry := by
  simp only [NamingService.unsubscribeAsync]
  split <;> rfl

theorem unsubscribeAsync_updater :
    (s.unsubscribeAsync serviceName groupName clusters eventListener answer).2.updater =
      s.updater.stopUpdate serviceName (normalizeGroupName groupName) (joinClusters clusters) := by
  simp only [NamingService.unsubscribeAsync]
  split <;> rfl

/-- The redo task goes once the request is acknowledged, whoever is still
registered. -/
theorem unsubscribeAsync_redo (key : String) :
    (s.unsubscribeAsync serviceName groupName clusters eventListener answer).2.redo.map.get? key =
      if key = (s.subscribeRequest false serviceName (normalizeGroupName groupName)
          (joinClusters clusters)).name ∧ acknowledged answer = true then none
      else s.redo.map.get? key := by
  simp only [NamingService.unsubscribeAsync]
  cases ha : acknowledged answer with
  | false =>
    obtain ⟨e, he⟩ := acknowledge_of_false ha "unsubscribe"
    simp only [he, Bool.false_eq_true, and_false, ↓reduceIte]
    rfl
  | true =>
    obtain ⟨info, hi⟩ := acknowledge_of_true ha "unsubscribe"
    simp only [hi, and_true]
    exact removeTask_lookup _ _ _

end Calls

/-- The name of a subscription's task does not tell subscribe, unsubscribe and
the clusters apart. -/
theorem subscribeRequest_name (s : NamingService) (subscribe : Bool)
    (serviceName groupName clusters : String) :
    (s.subscribeRequest subscribe serviceName groupName clusters).name =
      requestName "SubscribeServiceRequest" (some s.namespace_) (some groupName)
        (some serviceName) := rfl

end NacosSdk.Naming
