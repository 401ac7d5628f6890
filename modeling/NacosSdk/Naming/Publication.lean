import NacosSdk.Lib.Pending
import NacosSdk.Naming.Redo

/-!
# Publications and redo tasks

`register_instance`, `deregister_instance` and `batch_register_instance` of
`naming/mod.rs` with their redo tasks, beside the publications that the server
keeps for the connection. Proved here, for every sequence of calls that the
server acknowledges:

* `filed_iff`: the tasks in the map are the registrations that no later call
  has replaced under their redo key;
* `published_iff`: the publication of a service is that of the last call on it;
* `restores_iff`: a redo round over the active tasks, in whatever order,
  restores the publications exactly when the two agree;
* `restores_of_separate`: so they do when redo keys and services correspond.
-/

namespace NacosSdk.Naming
open NacosSdk.Common NacosSdk.Lib NacosSdk.Lib.Pending

/-! ## The server -/

/-- What a service is told apart by. -/
structure PublishedService where
  namespace_ : Option String
  groupName : Option String
  serviceName : Option String
  deriving DecidableEq

/-- The ephemeral publications of one connection. -/
abbrev Publications := PublishedService → Option (List ServiceInstance)

def Publications.none : Publications := fun _ => Option.none

def AutomaticRequest.service : AutomaticRequest → PublishedService
  | .ephemeral r => ⟨r.namespace_, r.groupName, r.serviceName⟩
  | .batch r => ⟨r.namespace_, r.groupName, r.serviceName⟩
  | .persistent r => ⟨r.namespace_, r.groupName, r.serviceName⟩
  | .subscribe r => ⟨r.namespace_, r.groupName, r.serviceName⟩

/-- A registration sets the publication, a deregistration clears it. -/
def InstanceRequest.publishes (request : InstanceRequest) :
    Option (Option (List ServiceInstance)) :=
  if request.rType = RequestType.register.requestCode then some (some [request.instance_])
  else if request.rType = RequestType.deregister.requestCode then some none
  else none

/-- The publication that the request leaves behind for its service, if it
concerns ephemeral instances. -/
def AutomaticRequest.publishes : AutomaticRequest → Option (Option (List ServiceInstance))
  | .ephemeral r => r.publishes
  | .batch r => some (some r.instances)
  | .persistent _ => none
  | .subscribe _ => none

/-- The same for one service. -/
def AutomaticRequest.leaves (request : AutomaticRequest) (service : PublishedService) :
    Option (Option (List ServiceInstance)) :=
  if request.service = service then request.publishes else none

def serve (published : Publications) (request : AutomaticRequest) : Publications :=
  fun service => (request.leaves service).getD (published service)

/-! ## The calls -/

/-- A call of the naming service that registers or deregisters. -/
inductive RegistrationCall where
  | registerInstance (serviceName : String) (groupName : Option String)
      (serviceInstance : ServiceInstance)
  | deregisterInstance (serviceName : String) (groupName : Option String)
      (serviceInstance : ServiceInstance)
  | batchRegisterInstance (serviceName : String) (groupName : Option String)
      (serviceInstances : List ServiceInstance)
  deriving DecidableEq

/-- `InstanceRequest` or `PersistentInstanceRequest`, as `ephemeral` says. -/
def instanceRequest (requestType : RequestType) (namespace_ serviceName : String)
    (groupName : Option String) (serviceInstance : ServiceInstance) : AutomaticRequest :=
  let request := InstanceRequest.new requestType serviceInstance (some serviceName)
    (some namespace_) (some (normalizeGroupName groupName))
  if serviceInstance.ephemeral then .ephemeral request else .persistent request

def RegistrationCall.request (namespace_ : String) : RegistrationCall → AutomaticRequest
  | .registerInstance serviceName groupName serviceInstance =>
    instanceRequest .register namespace_ serviceName groupName serviceInstance
  | .deregisterInstance serviceName groupName serviceInstance =>
    instanceRequest .deregister namespace_ serviceName groupName serviceInstance
  | .batchRegisterInstance serviceName groupName serviceInstances =>
    .batch (BatchInstanceRequest.new serviceInstances (some namespace_) (some serviceName)
      (some (normalizeGroupName groupName)))

/-- The call goes through `execute_by_register_with_redo`. -/
def RegistrationCall.registers : RegistrationCall → Bool
  | .registerInstance _ _ _ => true
  | .deregisterInstance _ _ _ => false
  | .batchRegisterInstance _ _ _ => true

/-- The redo tasks of a client beside what the server keeps for it. -/
structure Session where
  executor : RedoTaskExecutor
  published : Publications

def Session.new : Session := ⟨RedoTaskExecutor.new, Publications.none⟩

/-- With a server that answers with success. -/
def Session.executeByRegisterWithRedo (s : Session) (request : AutomaticRequest)
    (operation : String) : Except Error Unit × Session :=
  let made := s.executor.newTask request
  let redoTask := made.1
  let executor := (made.2.active redoTask).addTask redoTask
  let settled := executor.settle redoTask operation (.ok GrpcResponse.ok)
  (settled.1, ⟨settled.2, serve s.published request⟩)

/-- The task is made for its key only. -/
def Session.executeByDeregisterWithRedo (s : Session) (request : AutomaticRequest)
    (operation : String) : Except Error Unit × Session :=
  let made := s.executor.newTask request
  let redoTask := made.1
  match handleResponse GrpcResponse.ok operation with
  | .error e => (.error e, ⟨made.2, serve s.published request⟩)
  | .ok () => (.ok (), ⟨made.2.removeTask redoTask.taskKey, serve s.published request⟩)

def Session.take (namespace_ : String) (s : Session) (call : RegistrationCall) :
    Except Error Unit × Session :=
  let request := call.request namespace_
  match call with
  | .registerInstance _ _ serviceInstance =>
    s.executeByRegisterWithRedo request
      (if serviceInstance.ephemeral then "register_ephemeral_instance"
        else "register_persistent_instance")
  | .deregisterInstance _ _ serviceInstance =>
    s.executeByDeregisterWithRedo request
      (if serviceInstance.ephemeral then "deregister_ephemeral_instance"
        else "deregister_persistent_instance")
  | .batchRegisterInstance _ _ _ => s.executeByRegisterWithRedo request "batch_register_instance"

def Session.takeAll (namespace_ : String) (calls : List RegistrationCall) : Session :=
  calls.foldl (fun s call => (s.take namespace_ call).2) Session.new

/-! ## Disconnection, reconnection and a redo round -/

/-- The connection is lost with its publications, and there is another one. -/
def Session.reconnected (s : Session) : Session where
  executor := s.executor.onGrpcClientDisconnect.onGrpcClientReconnect
  published := Publications.none

/-- A task of the round is run and answered with success. -/
def Session.runTask (s : Session) (task : NamingRedoTask) : Session where
  executor := s.executor.callBack task (.ok GrpcResponse.ok)
  published := serve s.published task.automaticRequest

def Session.redoRound (s : Session) (order : List NamingRedoTask) : Session :=
  order.foldl Session.runTask s

/-- In whatever order the map yields its active tasks, the round restores what
was published. -/
def Session.Restores (s : Session) : Prop :=
  ∀ order : List NamingRedoTask, order.Perm s.reconnected.executor.activeTasks →
    (s.reconnected.redoRound order).published = s.published

/-! ## The publications of a run -/

theorem serve_foldl (requests : List AutomaticRequest) (published : Publications)
    (service : PublishedService) :
    requests.foldl serve published service =
      (requests.filterMap fun request => request.leaves service).getLast?.getD
        (published service) := by
  induction requests using List.reverseRecOn with
  | nil => rfl
  | append_singleton requests request ih =>
    rw [List.foldl_append, List.foldl_cons, List.foldl_nil, List.filterMap_append]
    show (request.leaves service).getD (requests.foldl serve published service) = _
    rw [ih]
    cases hleaves : request.leaves service with
    | none => simp [hleaves]
    | some publication => simp [hleaves]

theorem redoRound_published (s : Session) (order : List NamingRedoTask) :
    (s.redoRound order).published =
      (order.map NamingRedoTask.automaticRequest).foldl serve s.published := by
  unfold Session.redoRound
  induction order generalizing s with
  | nil => rfl
  | cons task rest ih =>
    rw [List.foldl_cons, ih]
    rfl

theorem handleResponse_acknowledged (operation : String) :
    handleResponse GrpcResponse.ok operation = .ok () :=
  (handleResponse_ok_iff _ _).mpr rfl

/-- Every call is answered, returns `Ok` and is served. -/
theorem take_spec (namespace_ : String) (s : Session) (call : RegistrationCall) :
    (s.take namespace_ call).1 = .ok () ∧
      (s.take namespace_ call).2.published = serve s.published (call.request namespace_) := by
  cases call <;>
    simp [Session.take, Session.executeByRegisterWithRedo, Session.executeByDeregisterWithRedo,
      RedoTaskExecutor.settle, handleResponse_acknowledged]

theorem takeAll_concat (namespace_ : String) (calls : List RegistrationCall)
    (call : RegistrationCall) :
    Session.takeAll namespace_ (calls ++ [call]) =
      ((Session.takeAll namespace_ calls).take namespace_ call).2 := by
  rw [Session.takeAll, List.foldl_append]
  rfl

theorem takeAll_published (namespace_ : String) (calls : List RegistrationCall) :
    (Session.takeAll namespace_ calls).published =
      (calls.map (RegistrationCall.request namespace_)).foldl serve Publications.none := by
  induction calls using List.reverseRecOn with
  | nil => rfl
  | append_singleton calls call ih =>
    rw [takeAll_concat, (take_spec _ _ _).2, ih, List.map_append, List.foldl_append]
    rfl

/-! ## The tasks of a run -/

/-- Every task is filed under its own key and has a flag. -/
def RedoTaskExecutor.Keyed (executor : RedoTaskExecutor) : Prop :=
  ∀ key task, executor.map.get? key = some task →
    task.taskKey = key ∧ task.active < executor.flags.fresh

theorem take_map (namespace_ : String) (s : Session) (call : RegistrationCall) :
    (s.take namespace_ call).2.executor.map =
      if call.registers then
        s.executor.map.insert (call.request namespace_).name
          ⟨s.executor.flags.fresh, call.request namespace_⟩
      else s.executor.map.erase (call.request namespace_).name := by
  cases call <;>
    simp [Session.take, Session.executeByRegisterWithRedo, Session.executeByDeregisterWithRedo,
      RedoTaskExecutor.settle, handleResponse_acknowledged, RegistrationCall.registers] <;>
    rfl

theorem take_fresh (namespace_ : String) (s : Session) (call : RegistrationCall) :
    (s.take namespace_ call).2.executor.flags.fresh = s.executor.flags.fresh + 1 := by
  cases call <;>
    simp [Session.take, Session.executeByRegisterWithRedo, Session.executeByDeregisterWithRedo,
      RedoTaskExecutor.settle, handleResponse_acknowledged, RedoTaskExecutor.addTask,
      RedoTaskExecutor.removeTask, RedoTaskExecutor.newTask]

theorem take_lookup (namespace_ : String) (s : Session) (call : RegistrationCall) (key : String) :
    (s.take namespace_ call).2.executor.map.get? key =
      if key = (call.request namespace_).name then
        if call.registers then some ⟨s.executor.flags.fresh, call.request namespace_⟩ else none
      else s.executor.map.get? key := by
  rw [take_map]
  cases call.registers with
  | true => exact HashMap.get?_insert _ _ _ _
  | false => exact HashMap.get?_erase _ _ _

theorem takeAll_keyed (namespace_ : String) (calls : List RegistrationCall) :
    (Session.takeAll namespace_ calls).executor.Keyed := by
  induction calls using List.reverseRecOn with
  | nil =>
    intro key task h
    cases h
  | append_singleton calls call ih =>
    intro key task h
    rw [takeAll_concat, take_lookup] at h
    rw [takeAll_concat, take_fresh]
    split at h
    · next hkey =>
      split at h
      · cases h
        exact ⟨hkey.symm, Nat.lt_succ_self _⟩
      · cases h
    · obtain ⟨hkey, hflag⟩ := ih key task h
      exact ⟨hkey, by omega⟩

/-- Under a key there is the request of the newest call of the key, if that one
registers. -/
theorem takeAll_lookup (namespace_ : String) (calls : List RegistrationCall) (key : String) :
    ((Session.takeAll namespace_ calls).executor.map.get? key).map
        NamingRedoTask.automaticRequest =
      ((newestOf (fun call => (call.request namespace_).name = key) calls).filter
        RegistrationCall.registers).map (RegistrationCall.request namespace_) := by
  induction calls using List.reverseRecOn with
  | nil => rfl
  | append_singleton calls call ih =>
    rw [takeAll_concat, take_lookup]
    by_cases hkey : key = (call.request namespace_).name
    · rw [if_pos hkey, newestOf_concat (by simp [hkey])]
      cases hregisters : call.registers with
      | true => simp [hregisters]
      | false => simp [hregisters]
    · rw [if_neg hkey, newestOf_concat_neg (by simp [Ne.symm hkey]), ih]

/-- A registration that no later call has replaced or removed. -/
def Filed (namespace_ : String) (calls : List RegistrationCall) (request : AutomaticRequest) :
    Prop :=
  ∃ before call after, calls = before ++ call :: after ∧ call.registers = true ∧
    call.request namespace_ = request ∧
    ∀ later ∈ after, (later.request namespace_).name ≠ request.name

theorem filed_iff (namespace_ : String) (calls : List RegistrationCall)
    (request : AutomaticRequest) :
    request ∈ (Session.takeAll namespace_ calls).executor.tasks.map
        NamingRedoTask.automaticRequest ↔ Filed namespace_ calls request := by
  have hnewest := takeAll_lookup namespace_ calls request.name
  constructor
  · intro h
    obtain ⟨task, htask, rfl⟩ := List.mem_map.mp h
    obtain ⟨key, hkey⟩ := (HashMap.mem_values _ _).mp htask
    obtain ⟨rfl, _⟩ := takeAll_keyed namespace_ calls key task hkey
    rw [show task.automaticRequest.name = task.taskKey from rfl, hkey] at hnewest
    obtain ⟨call, hcall, hrequest⟩ := Option.map_eq_some_iff.mp hnewest.symm
    obtain ⟨hcall, hregisters⟩ := Option.filter_eq_some_iff.mp hcall
    obtain ⟨before, after, hsplit, _, hafter⟩ := newestOf_eq_some.mp hcall
    exact ⟨before, call, after, hsplit, hregisters, hrequest,
      fun later hl => of_decide_eq_false (hafter later hl)⟩
  · rintro ⟨before, call, after, hsplit, hregisters, hrequest, hafter⟩
    have hcall := newestOf_eq_some.mpr ⟨before, after, hsplit, decide_eq_true (hrequest ▸ rfl),
      fun later hl => decide_eq_false (hafter later hl)⟩
    rw [hcall, Option.filter_some_pos hregisters, Option.map_some, hrequest] at hnewest
    obtain ⟨task, htask, hmade⟩ := Option.map_eq_some_iff.mp hnewest
    exact List.mem_map.mpr ⟨task, mem_tasks htask, hmade⟩

/-! ## Every task is active after a reconnection -/

theorem foldl_map_fresh {f : RedoTaskExecutor → NamingRedoTask → RedoTaskExecutor}
    (hf : ∀ executor task, (f executor task).map = executor.map ∧
      (f executor task).flags.fresh = executor.flags.fresh)
    (tasks : List NamingRedoTask) (executor : RedoTaskExecutor) :
    (tasks.foldl f executor).map = executor.map ∧
      (tasks.foldl f executor).flags.fresh = executor.flags.fresh := by
  induction tasks generalizing executor with
  | nil => exact ⟨rfl, rfl⟩
  | cons task rest ih =>
    obtain ⟨hmap, hfresh⟩ := ih (f executor task)
    exact ⟨hmap.trans (hf executor task).1, hfresh.trans (hf executor task).2⟩

theorem foldl_active_mono {flag : Nat} (tasks : List NamingRedoTask) {executor : RedoTaskExecutor}
    (h : executor.flags.load flag = some true) :
    (tasks.foldl RedoTaskExecutor.active executor).flags.load flag = some true := by
  induction tasks generalizing executor with
  | nil => exact h
  | cons task rest ih => exact ih (active_load_mono h task)

theorem foldl_active_load {tasks : List NamingRedoTask} {executor : RedoTaskExecutor}
    (hflags : ∀ task ∈ tasks, task.active < executor.flags.fresh) :
    ∀ task ∈ tasks,
      (tasks.foldl RedoTaskExecutor.active executor).flags.load task.active = some true := by
  induction tasks generalizing executor with
  | nil => simp
  | cons first rest ih =>
    intro task htask
    rw [List.foldl_cons]
    rcases List.mem_cons.mp htask with rfl | hrest
    · exact foldl_active_mono rest (active_load_self (hflags task (by simp)))
    · refine ih (fun other hother => ?_) task hrest
      rw [active_fresh]
      exact hflags other (by simp [hother])

theorem reconnected_tasks {s : Session} (h : s.executor.Keyed) :
    s.reconnected.executor.activeTasks = s.executor.tasks := by
  obtain ⟨hfrozenMap, hfrozenFresh⟩ := foldl_map_fresh
    (fun executor task => ⟨frozen_map executor task, frozen_fresh executor task⟩)
    s.executor.tasks s.executor
  obtain ⟨hactiveMap, _⟩ := foldl_map_fresh
    (fun executor task => ⟨active_map executor task, active_fresh executor task⟩)
    s.executor.onGrpcClientDisconnect.tasks s.executor.onGrpcClientDisconnect
  have hdisconnect : s.executor.onGrpcClientDisconnect.tasks = s.executor.tasks :=
    congrArg HashMap.values hfrozenMap
  have htasks : s.reconnected.executor.tasks = s.executor.tasks :=
    (congrArg HashMap.values hactiveMap).trans hdisconnect
  rw [RedoTaskExecutor.activeTasks, htasks, List.filter_eq_self]
  intro task htask
  refine decide_eq_true (foldl_active_load (fun other hother => ?_) task (hdisconnect ▸ htask))
  obtain ⟨key, hkey⟩ := (HashMap.mem_values _ _).mp (hdisconnect ▸ hother)
  rw [show s.executor.onGrpcClientDisconnect.flags.fresh = _ from hfrozenFresh]
  exact (h key other hkey).2

/-! ## Restoring the publications -/

/-- The last call on the service leaves this publication. -/
def Current (namespace_ : String) (calls : List RegistrationCall) (service : PublishedService)
    (publication : List ServiceInstance) : Prop :=
  ∃ before call after, calls = before ++ call :: after ∧
    (call.request namespace_).leaves service = some (some publication) ∧
    ∀ later ∈ after, (later.request namespace_).leaves service = none

/-- A task is left that publishes this for the service. -/
def OnFile (namespace_ : String) (calls : List RegistrationCall) (service : PublishedService)
    (publication : List ServiceInstance) : Prop :=
  ∃ request, Filed namespace_ calls request ∧ request.leaves service = some (some publication)

theorem published_iff (namespace_ : String) (calls : List RegistrationCall)
    (service : PublishedService) (publication : List ServiceInstance) :
    (Session.takeAll namespace_ calls).published service = some publication ↔
      Current namespace_ calls service publication := by
  rw [takeAll_published, serve_foldl, List.filterMap_map,
    show Publications.none service = none from rfl, Option.getD_eq_iff]
  simp only [reduceCtorEq, and_false, or_false, getLast?_filterMap_eq_some, Current,
    Function.comp_apply]

theorem register_publishes (namespace_ serviceName : String) (groupName : Option String)
    (serviceInstance : ServiceInstance) :
    (instanceRequest .register namespace_ serviceName groupName serviceInstance).publishes =
      if serviceInstance.ephemeral then some (some [serviceInstance]) else none := by
  unfold instanceRequest
  cases serviceInstance.ephemeral <;> rfl

theorem deregister_publishes (namespace_ serviceName : String) (groupName : Option String)
    (serviceInstance : ServiceInstance) :
    (instanceRequest .deregister namespace_ serviceName groupName serviceInstance).publishes =
      if serviceInstance.ephemeral then some none else none := by
  unfold instanceRequest
  cases serviceInstance.ephemeral <;> rfl

theorem leaves_some {request : AutomaticRequest} {service : PublishedService}
    {left : Option (List ServiceInstance)} (h : request.leaves service = some left) :
    request.service = service ∧ request.publishes = some left := by
  unfold AutomaticRequest.leaves at h
  split at h
  · next hservice => exact ⟨hservice, h⟩
  · cases h

/-- A call that leaves a list goes through `execute_by_register_with_redo`. -/
theorem registers_of_publishes {namespace_ : String} {call : RegistrationCall}
    {publication : List ServiceInstance}
    (h : (call.request namespace_).publishes = some (some publication)) :
    call.registers = true := by
  cases call with
  | registerInstance serviceName groupName serviceInstance => rfl
  | batchRegisterInstance serviceName groupName serviceInstances => rfl
  | deregisterInstance serviceName groupName serviceInstance =>
    have hcleared := deregister_publishes namespace_ serviceName groupName serviceInstance
    rw [show (instanceRequest .deregister namespace_ serviceName groupName
      serviceInstance).publishes = some (some publication) from h] at hcleared
    split at hcleared <;> cases hcleared

/-- A registration publishes a list or nothing. -/
theorem filed_leaves {namespace_ : String} {calls : List RegistrationCall}
    {request : AutomaticRequest} (h : Filed namespace_ calls request)
    {service : PublishedService} {left : Option (List ServiceInstance)}
    (hleaves : request.leaves service = some left) : ∃ publication, left = some publication := by
  obtain ⟨_, call, _, _, hregisters, rfl, _⟩ := h
  have hpublishes := (leaves_some hleaves).2
  cases call with
  | registerInstance serviceName groupName serviceInstance =>
    have hset := register_publishes namespace_ serviceName groupName serviceInstance
    rw [show (instanceRequest .register namespace_ serviceName groupName
      serviceInstance).publishes = some left from hpublishes] at hset
    split at hset
    · exact ⟨[serviceInstance], Option.some.inj hset⟩
    · cases hset
  | deregisterInstance serviceName groupName serviceInstance => cases hregisters
  | batchRegisterInstance serviceName groupName serviceInstances =>
    exact ⟨serviceInstances, (Option.some.inj hpublishes).symm⟩

section Round

variable {namespace_ : String} {calls : List RegistrationCall}

theorem mem_round {order : List NamingRedoTask}
    (horder : order.Perm (Session.takeAll namespace_ calls).reconnected.executor.activeTasks)
    (request : AutomaticRequest) :
    request ∈ order.map NamingRedoTask.automaticRequest ↔ Filed namespace_ calls request := by
  rw [reconnected_tasks (takeAll_keyed namespace_ calls)] at horder
  rw [← filed_iff]
  exact (horder.map NamingRedoTask.automaticRequest).mem_iff

theorem round_published (s : Session) (order : List NamingRedoTask) (service : PublishedService) :
    (s.reconnected.redoRound order).published service =
      ((order.map NamingRedoTask.automaticRequest).filterMap
        fun request => request.leaves service).getLast?.getD none := by
  rw [redoRound_published, serve_foldl]
  rfl

/-- What a round publishes is on file. -/
theorem onFile_of_round {order : List NamingRedoTask}
    (horder : order.Perm (Session.takeAll namespace_ calls).reconnected.executor.activeTasks)
    {service : PublishedService} {publication : List ServiceInstance}
    (h : ((Session.takeAll namespace_ calls).reconnected.redoRound order).published service =
      some publication) :
    OnFile namespace_ calls service publication := by
  rw [round_published, Option.getD_eq_iff] at h
  simp only [reduceCtorEq, and_false, or_false] at h
  obtain ⟨request, hrequest, hleaves⟩ := List.mem_filterMap.mp (List.mem_of_getLast? h)
  exact ⟨request, (mem_round horder request).mp hrequest, hleaves⟩

/-- Where a round publishes nothing, nothing is on file. -/
theorem round_of_onFile {order : List NamingRedoTask}
    (horder : order.Perm (Session.takeAll namespace_ calls).reconnected.executor.activeTasks)
    {service : PublishedService} {publication : List ServiceInstance}
    (h : OnFile namespace_ calls service publication) :
    ∃ published, ((Session.takeAll namespace_ calls).reconnected.redoRound order).published
      service = some published := by
  obtain ⟨request, hfiled, hleaves⟩ := h
  have hmem : some publication ∈ (order.map NamingRedoTask.automaticRequest).filterMap
      fun request => request.leaves service :=
    List.mem_filterMap.mpr ⟨request, (mem_round horder request).mpr hfiled, hleaves⟩
  rw [round_published]
  cases hlast : ((order.map NamingRedoTask.automaticRequest).filterMap
      fun request => request.leaves service).getLast? with
  | none =>
    rw [List.getLast?_eq_none_iff.mp hlast] at hmem
    cases hmem
  | some left =>
    obtain ⟨last, hmemLast, hleft⟩ := List.mem_filterMap.mp (List.mem_of_getLast? hlast)
    obtain ⟨published, rfl⟩ := filed_leaves ((mem_round horder last).mp hmemLast) hleft
    exact ⟨published, rfl⟩

/-- Some round publishes last what is on file. -/
theorem exists_round {service : PublishedService} {publication : List ServiceInstance}
    (h : OnFile namespace_ calls service publication) :
    ∃ order, order.Perm (Session.takeAll namespace_ calls).reconnected.executor.activeTasks ∧
      ((Session.takeAll namespace_ calls).reconnected.redoRound order).published service =
        some publication := by
  obtain ⟨request, hfiled, hleaves⟩ := h
  obtain ⟨task, htask, rfl⟩ := List.mem_map.mp
    ((mem_round (List.Perm.refl _) request).mpr hfiled)
  obtain ⟨others, horder⟩ := perm_moved_last htask
  have hlast : [task.automaticRequest].filterMap (fun request => request.leaves service) =
      [some publication] := by
    simp [hleaves]
  refine ⟨others ++ [task], horder, ?_⟩
  rw [round_published, List.map_append, List.filterMap_append, List.map_singleton, hlast,
    List.getLast?_concat]
  rfl

theorem restores_of_onFile
    (h : ∀ service publication, OnFile namespace_ calls service publication ↔
      Current namespace_ calls service publication) :
    (Session.takeAll namespace_ calls).Restores := by
  intro order horder
  funext service
  cases hround : ((Session.takeAll namespace_ calls).reconnected.redoRound order).published
      service with
  | some publication =>
    have hcurrent := (h service publication).mp (onFile_of_round horder hround)
    exact ((published_iff _ _ _ _).mpr hcurrent).symm
  | none =>
    cases hpublished : (Session.takeAll namespace_ calls).published service with
    | none => rfl
    | some publication =>
      have hfile := (h service publication).mpr ((published_iff _ _ _ _).mp hpublished)
      obtain ⟨published, hsome⟩ := round_of_onFile horder hfile
      rw [hround] at hsome
      cases hsome

/-- One kind of registration for each service, and keys that tell the services
apart. -/
theorem restores_of_separate
    (h : ∀ call ∈ calls, ∀ later ∈ calls,
      (later.request namespace_).name = (call.request namespace_).name ↔
        (later.request namespace_).leaves (call.request namespace_).service ≠ none) :
    (Session.takeAll namespace_ calls).Restores := by
  apply restores_of_onFile
  intro service publication
  constructor
  · rintro ⟨_, ⟨before, call, after, hsplit, _, rfl, hafter⟩, hleaves⟩
    refine ⟨before, call, after, hsplit, hleaves, fun later hl => ?_⟩
    by_contra hne
    rw [← (leaves_some hleaves).1] at hne
    have hcall : call ∈ calls := by simp [hsplit]
    have hlater : later ∈ calls := by simp [hsplit, hl]
    exact hafter later hl ((h call hcall later hlater).mpr hne)
  · rintro ⟨before, call, after, hsplit, hleaves, hafter⟩
    have hregisters := registers_of_publishes (leaves_some hleaves).2
    refine ⟨_, ⟨before, call, after, hsplit, hregisters, rfl, fun later hl hname => ?_⟩, hleaves⟩
    have hcall : call ∈ calls := by simp [hsplit]
    have hlater : later ∈ calls := by simp [hsplit, hl]
    have hne := (h call hcall later hlater).mp hname
    rw [(leaves_some hleaves).1] at hne
    exact hne (hafter later hl)

end Round

/-- **Restored publications.** A redo round restores what was published before
the connection was lost, in every order of the tasks, exactly when for every
service the tasks left publish what the last call on it did. -/
theorem restores_iff (namespace_ : String) (calls : List RegistrationCall) :
    (Session.takeAll namespace_ calls).Restores ↔
      ∀ service publication, OnFile namespace_ calls service publication ↔
        Current namespace_ calls service publication := by
  constructor
  · intro h service publication
    rw [← published_iff]
    constructor
    · intro hfile
      obtain ⟨order, horder, hround⟩ := exists_round hfile
      rw [← h order horder]
      exact hround
    · intro hpublished
      rw [← h _ (List.Perm.refl _)] at hpublished
      exact onFile_of_round (List.Perm.refl _) hpublished
  · exact restores_of_onFile

/-! ## A batch that comes back -/

/-- Two kinds of registration of one service. -/
def batchThenDeregister : List RegistrationCall :=
  [.batchRegisterInstance "orders" none [ServiceInstance.default],
    .deregisterInstance "orders" none ServiceInstance.default]

/-- The deregistration removes no task of the batch, and the redo round
publishes it again. -/
theorem batch_deregistered_returns :
    ¬ ∀ namespace_ calls,
      (∀ call ∈ calls, (RegistrationCall.request namespace_ call).publishes ≠ none) →
        (Session.takeAll namespace_ calls).Restores := by
  intro h
  have hrestores := h "public" batchThenDeregister (by decide) _ (List.Perm.refl _)
  have hservice := congrFun hrestores ⟨some "public", some defaultGroup, some "orders"⟩
  exact absurd hservice (by decide +kernel)

end NacosSdk.Naming
