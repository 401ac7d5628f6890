import NacosSdk.Common.Error
import NacosSdk.Common.HashMap
import NacosSdk.Lib.Cells
import NacosSdk.Naming.ServiceInfo

/-!
# Redo tasks

`naming/redo/mod.rs` and `naming/redo/automatic_request.rs`: the requests that
are sent again, the key they are filed under, and the executor's map. The
`active` flag of a task is a shared cell, because a caller may still hold a
task that the map has lost. Proved here:

* `addTask_lookup`, `removeTask_lookup`: the map after a call;
* `active_map`, `frozen_map`: the flags do not touch the map.
-/

namespace NacosSdk.Naming
open NacosSdk.Common NacosSdk.Lib

/-! ## Automatic requests -/

inductive RequestType where
  | register
  | deregister
  deriving DecidableEq

def RequestType.requestCode : RequestType → String
  | .register => "registerInstance"
  | .deregister => "deregisterInstance"

/-- `InstanceRequest` and `PersistentInstanceRequest`. -/
structure InstanceRequest where
  rType : String
  instance_ : ServiceInstance
  namespace_ : Option String
  serviceName : Option String
  groupName : Option String
  deriving DecidableEq

structure BatchInstanceRequest where
  rType : String
  instances : List ServiceInstance
  namespace_ : Option String
  serviceName : Option String
  groupName : Option String
  deriving DecidableEq

structure SubscribeServiceRequest where
  subscribe : Bool
  clusters : String
  namespace_ : Option String
  serviceName : Option String
  groupName : Option String
  deriving DecidableEq

inductive AutomaticRequest where
  | ephemeral (request : InstanceRequest)
  | batch (request : BatchInstanceRequest)
  | persistent (request : InstanceRequest)
  | subscribe (request : SubscribeServiceRequest)
  deriving DecidableEq

def InstanceRequest.new (requestType : RequestType) (instance_ : ServiceInstance)
    (serviceName namespace_ groupName : Option String) : InstanceRequest where
  rType := requestType.requestCode
  instance_ := instance_
  namespace_ := namespace_
  serviceName := serviceName
  groupName := groupName

def BatchInstanceRequest.new (instances : List ServiceInstance)
    (namespace_ serviceName groupName : Option String) : BatchInstanceRequest where
  rType := "batchRegisterInstance"
  instances := instances
  namespace_ := namespace_
  serviceName := serviceName
  groupName := groupName

def SubscribeServiceRequest.new (subscribe : Bool) (clusters : String)
    (serviceName namespace_ groupName : Option String) : SubscribeServiceRequest where
  subscribe := subscribe
  clusters := clusters
  namespace_ := namespace_
  serviceName := serviceName
  groupName := groupName

/-- `format!("{}@@{}@@{}@@{}", namespace, group_name, service_name, identity)`. -/
def requestName (identity : String) (namespace_ groupName serviceName : Option String) : String :=
  namespace_.getD "" ++ "@@" ++ groupName.getD "" ++ "@@" ++ serviceName.getD "" ++ "@@" ++ identity

def AutomaticRequest.name : AutomaticRequest → String
  | .ephemeral r => requestName "InstanceRequest" r.namespace_ r.groupName r.serviceName
  | .batch r => requestName "BatchInstanceRequest" r.namespace_ r.groupName r.serviceName
  | .persistent r => requestName "PersistentInstanceRequest" r.namespace_ r.groupName r.serviceName
  | .subscribe r => requestName "SubscribeServiceRequest" r.namespace_ r.groupName r.serviceName

/-! ## The executor -/

structure NamingRedoTask where
  /-- The cell of the task's flag. -/
  active : Nat
  automaticRequest : AutomaticRequest
  deriving DecidableEq

def NamingRedoTask.taskKey (task : NamingRedoTask) : String := task.automaticRequest.name

/-- The map of `RedoTaskExecutor` with the flags of all tasks ever made. -/
structure RedoTaskExecutor where
  map : HashMap NamingRedoTask
  flags : Cells Bool

def RedoTaskExecutor.new : RedoTaskExecutor where
  map := ∅
  flags := []

/-- `NamingRedoTask::new`: a task with a flag of its own, not active yet. -/
def RedoTaskExecutor.newTask (executor : RedoTaskExecutor) (request : AutomaticRequest) :
    NamingRedoTask × RedoTaskExecutor :=
  ({ active := executor.flags.fresh, automaticRequest := request },
    { executor with flags := executor.flags.make false })

def RedoTaskExecutor.active (executor : RedoTaskExecutor) (task : NamingRedoTask) :
    RedoTaskExecutor :=
  { executor with flags := executor.flags.store task.active true }

def RedoTaskExecutor.frozen (executor : RedoTaskExecutor) (task : NamingRedoTask) :
    RedoTaskExecutor :=
  { executor with flags := executor.flags.store task.active false }

def RedoTaskExecutor.isActive (executor : RedoTaskExecutor) (task : NamingRedoTask) : Bool :=
  executor.flags.load task.active = some true

def RedoTaskExecutor.addTask (executor : RedoTaskExecutor) (task : NamingRedoTask) :
    RedoTaskExecutor :=
  { executor with map := executor.map.insert task.taskKey task }

def RedoTaskExecutor.removeTask (executor : RedoTaskExecutor) (taskKey : String) :
    RedoTaskExecutor :=
  { executor with map := executor.map.erase taskKey }

/-- The values of the map. -/
def RedoTaskExecutor.tasks (executor : RedoTaskExecutor) : List NamingRedoTask :=
  executor.map.values

def RedoTaskExecutor.onGrpcClientReconnect (executor : RedoTaskExecutor) : RedoTaskExecutor :=
  executor.tasks.foldl RedoTaskExecutor.active executor

def RedoTaskExecutor.onGrpcClientDisconnect (executor : RedoTaskExecutor) : RedoTaskExecutor :=
  executor.tasks.foldl RedoTaskExecutor.frozen executor

/-- The tasks that one tick of the schedule collects. -/
def RedoTaskExecutor.activeTasks (executor : RedoTaskExecutor) : List NamingRedoTask :=
  executor.tasks.filter executor.isActive

/-! ## Answers -/

/-- The end of `execute_by_register_with_redo` and of the direct path of
`subscribe_async`: only an acknowledged request freezes its task. -/
def RedoTaskExecutor.settle (executor : RedoTaskExecutor) (task : NamingRedoTask)
    (operation : String) (answer : Except Error GrpcResponse) :
    Except Error Unit × RedoTaskExecutor :=
  match answer with
  | .error e => (.error e, executor)
  | .ok response =>
    match handleResponse response operation with
    | .error e => (.error e, executor)
    | .ok () => (.ok (), executor.frozen task)

/-- The callback of `NamingRedoTask::run`: `AutomaticRequest::run` passes on
every response of the right type, whatever its result code. -/
def RedoTaskExecutor.callBack (executor : RedoTaskExecutor) (task : NamingRedoTask)
    (answer : Except Error GrpcResponse) : RedoTaskExecutor :=
  match answer with
  | .error _ => executor.active task
  | .ok _ => executor.frozen task

@[simp] theorem newTask_map (executor : RedoTaskExecutor) (request : AutomaticRequest) :
    (executor.newTask request).2.map = executor.map := rfl

@[simp] theorem active_map (executor : RedoTaskExecutor) (task : NamingRedoTask) :
    (executor.active task).map = executor.map := rfl

@[simp] theorem frozen_map (executor : RedoTaskExecutor) (task : NamingRedoTask) :
    (executor.frozen task).map = executor.map := rfl

theorem active_load_self {executor : RedoTaskExecutor} {task : NamingRedoTask}
    (h : task.active < executor.flags.fresh) :
    (executor.active task).flags.load task.active = some true :=
  load_store_self _ _ h

/-- Activating a task leaves every active one active. -/
theorem active_load_mono {executor : RedoTaskExecutor} {flag : Nat}
    (h : executor.flags.load flag = some true) (task : NamingRedoTask) :
    (executor.active task).flags.load flag = some true := by
  by_cases hf : task.active = flag
  · subst hf
    exact active_load_self (lt_fresh_of_load h)
  · exact (load_store_ne _ _ hf).trans h

theorem frozen_load_ne {executor : RedoTaskExecutor} {task : NamingRedoTask} {flag : Nat}
    (h : task.active ≠ flag) :
    (executor.frozen task).flags.load flag = executor.flags.load flag :=
  load_store_ne _ _ h

theorem isActive_fresh {executor : RedoTaskExecutor} {task : NamingRedoTask}
    (h : executor.isActive task = true) : task.active < executor.flags.fresh :=
  lt_fresh_of_load (of_decide_eq_true h)

theorem active_isActive {executor : RedoTaskExecutor} {task : NamingRedoTask}
    (h : executor.isActive task = true) : (executor.active task).isActive task = true :=
  decide_eq_true (active_load_self (isActive_fresh h))

theorem frozen_isActive {executor : RedoTaskExecutor} {task : NamingRedoTask}
    (h : executor.isActive task = true) : (executor.frozen task).isActive task = false := by
  have hload : (executor.frozen task).flags.load task.active = some false :=
    load_store_self _ _ (isActive_fresh h)
  simp [RedoTaskExecutor.isActive, hload]

@[simp] theorem active_fresh (executor : RedoTaskExecutor) (task : NamingRedoTask) :
    (executor.active task).flags.fresh = executor.flags.fresh :=
  fresh_store _ _ _

@[simp] theorem frozen_fresh (executor : RedoTaskExecutor) (task : NamingRedoTask) :
    (executor.frozen task).flags.fresh = executor.flags.fresh :=
  fresh_store _ _ _

theorem mem_tasks {executor : RedoTaskExecutor} {key : String} {task : NamingRedoTask}
    (h : executor.map.get? key = some task) : task ∈ executor.tasks :=
  (HashMap.mem_values _ _).mpr ⟨key, h⟩

theorem settle_executor (executor : RedoTaskExecutor) (task : NamingRedoTask) (operation : String)
    (answer : Except Error GrpcResponse) :
    (executor.settle task operation answer).2 =
      match answer with
      | .error _ => executor
      | .ok response => if response.isSuccess then executor.frozen task else executor := by
  cases answer with
  | error e => rfl
  | ok response =>
    cases hs : response.isSuccess with
    | true => simp [RedoTaskExecutor.settle, handleResponse, hs]
    | false => simp [RedoTaskExecutor.settle, handleResponse, hs]

theorem addTask_lookup (executor : RedoTaskExecutor) (task : NamingRedoTask) (key : String) :
    (executor.addTask task).map.get? key =
      if key = task.taskKey then some task else executor.map.get? key :=
  HashMap.get?_insert _ _ _ _

theorem removeTask_lookup (executor : RedoTaskExecutor) (taskKey key : String) :
    (executor.removeTask taskKey).map.get? key =
      if key = taskKey then none else executor.map.get? key :=
  HashMap.get?_erase _ _ _

end NacosSdk.Naming
