import NacosSdk.Lib.Run
import NacosSdk.Naming.Publication

/-!
# Deregistration beside the redo loop

One call of `deregister_instance` with the ticks of the redo loop, which holds
the read lock of the map until the last task of its round is answered. Requests
on their way reach the server in any order. Proved here, for every history of
the map and every run:

* `past_apart`: the tasks in the map are under their own keys and have flags of
  their own, whatever was registered, deregistered and run again before;
* `takeAll_past`: a session of acknowledged calls is such a history;
* `withdrawal_step`: once the deregistration is served, nothing is published
  and no registration is on its way, unless one was or is sent then;
* `withdrawn`: so after the return nothing is published or sent again;
* `redo_publishes_again`: the round that is going on sends a registration after
  the deregistration was acknowledged.
-/

namespace NacosSdk.Naming
open NacosSdk.Common NacosSdk.Lib NacosSdk.Lib.Run

/-! ## The call -/

/-- The arguments of `deregister_instance`. -/
structure Deregistration where
  namespace_ : String
  serviceName : String
  groupName : Option String
  serviceInstance : ServiceInstance

def Deregistration.request (d : Deregistration) : AutomaticRequest :=
  instanceRequest .deregister d.namespace_ d.serviceName d.groupName d.serviceInstance

def Deregistration.operation (d : Deregistration) : String :=
  if d.serviceInstance.ephemeral then "deregister_ephemeral_instance"
  else "deregister_persistent_instance"

/-- The publication that a request leaves behind, if it concerns persistent
instances. -/
def AutomaticRequest.publishesPersistent :
    AutomaticRequest → Option (Option (List ServiceInstance))
  | .persistent r => r.publishes
  | .ephemeral _ => none
  | .batch _ => none
  | .subscribe _ => none

/-- What a request leaves behind for the service of the call. -/
def Deregistration.leaves (d : Deregistration) (request : AutomaticRequest) :
    Option (Option (List ServiceInstance)) :=
  if request.service = d.request.service then
    if d.serviceInstance.ephemeral then request.publishes else request.publishesPersistent
  else none

/-- The request is a registration of the service. -/
def Deregistration.Registers (d : Deregistration) (request : AutomaticRequest) : Prop :=
  (d.leaves request).join.isSome = true

instance (d : Deregistration) : DecidablePred d.Registers := fun request =>
  inferInstanceAs (Decidable ((d.leaves request).join.isSome = true))

theorem leaves_request (d : Deregistration) : d.leaves d.request = some none := by
  unfold Deregistration.leaves Deregistration.request instanceRequest
  rw [if_pos rfl]
  cases d.serviceInstance.ephemeral <;> rfl

/-- What is no registration leaves nothing published. -/
theorem leaves_nothing {d : Deregistration} {request : AutomaticRequest}
    (h : ¬ d.Registers request) : (d.leaves request).getD none = none := by
  unfold Deregistration.Registers at h
  cases hleaves : d.leaves request with
  | none => rfl
  | some left =>
    rw [hleaves] at h
    cases left with
    | none => rfl
    | some publication => exact absurd rfl h

/-! ## What happened before -/

/-- What the map and the flags of the tasks went through before the call. -/
inductive Past where
  | registered (request : AutomaticRequest) (operation : String)
      (answer : Except Error GrpcResponse)
  | deregistered (request : AutomaticRequest)
  | reconnected
  | disconnected
  | redone (task : NamingRedoTask) (answer : Except Error GrpcResponse)

def RedoTaskExecutor.went (executor : RedoTaskExecutor) : Past → RedoTaskExecutor
  | .registered request operation answer =>
    let made := executor.newTask request
    (((made.2.active made.1).addTask made.1).settle made.1 operation answer).2
  | .deregistered request =>
    let made := executor.newTask request
    made.2.removeTask made.1.taskKey
  | .reconnected => executor.onGrpcClientReconnect
  | .disconnected => executor.onGrpcClientDisconnect
  | .redone task answer => executor.callBack task answer

/-- Every task is under its own key, and no two have the same flag. -/
structure RedoTaskExecutor.Apart (executor : RedoTaskExecutor) : Prop where
  keyed : executor.Keyed
  own : ∀ task ∈ executor.tasks, ∀ other ∈ executor.tasks,
    task.active = other.active → task = other

theorem new_apart : RedoTaskExecutor.new.Apart where
  keyed := fun _ _ h => by cases h
  own := fun _ h => by cases h

/-- The flags may change, and there may be more of them. -/
theorem apart_flags {executor executor' : RedoTaskExecutor} (h : executor.Apart)
    (hmap : executor'.map = executor.map) (hfresh : executor.flags.fresh ≤ executor'.flags.fresh) :
    executor'.Apart where
  keyed := by
    intro key task hkey
    rw [hmap] at hkey
    obtain ⟨htask, hflag⟩ := h.keyed key task hkey
    exact ⟨htask, by omega⟩
  own := by
    rw [show executor'.tasks = executor.tasks from congrArg HashMap.values hmap]
    exact h.own

theorem newTask_apart {executor : RedoTaskExecutor} (h : executor.Apart)
    (request : AutomaticRequest) : (executor.newTask request).2.Apart := by
  refine apart_flags h rfl ?_
  show _ ≤ (executor.flags.make false).fresh
  rw [fresh_make]
  omega

theorem active_apart {executor : RedoTaskExecutor} (h : executor.Apart) (task : NamingRedoTask) :
    (executor.active task).Apart :=
  apart_flags h rfl (active_fresh executor task).ge

theorem frozen_apart {executor : RedoTaskExecutor} (h : executor.Apart) (task : NamingRedoTask) :
    (executor.frozen task).Apart :=
  apart_flags h rfl (frozen_fresh executor task).ge

theorem callBack_apart {executor : RedoTaskExecutor} (h : executor.Apart) (task : NamingRedoTask)
    (answer : Except Error GrpcResponse) : (executor.callBack task answer).Apart := by
  cases answer with
  | error _ => exact active_apart h task
  | ok _ => exact frozen_apart h task

theorem foldl_apart {f : RedoTaskExecutor → NamingRedoTask → RedoTaskExecutor}
    (hf : ∀ executor task, executor.Apart → (f executor task).Apart)
    (tasks : List NamingRedoTask) {executor : RedoTaskExecutor} (h : executor.Apart) :
    (tasks.foldl f executor).Apart := by
  induction tasks generalizing executor with
  | nil => exact h
  | cons task rest ih => exact ih (hf executor task h)

theorem mem_tasks_removeTask {executor : RedoTaskExecutor} {taskKey : String}
    {task : NamingRedoTask} (hkeyed : executor.Keyed)
    (h : task ∈ (executor.removeTask taskKey).tasks) :
    task ∈ executor.tasks ∧ task.taskKey ≠ taskKey := by
  obtain ⟨key, hkey⟩ := (HashMap.mem_values _ _).mp h
  rw [removeTask_lookup] at hkey
  split at hkey
  · cases hkey
  · next hne => exact ⟨mem_tasks hkey, (hkeyed key task hkey).1 ▸ hne⟩

theorem removeTask_apart {executor : RedoTaskExecutor} (h : executor.Apart) (taskKey : String) :
    (executor.removeTask taskKey).Apart where
  keyed := by
    intro key task hkey
    rw [removeTask_lookup] at hkey
    split at hkey
    · cases hkey
    · exact h.keyed key task hkey
  own := by
    intro task htask other hother
    exact h.own task (mem_tasks_removeTask h.keyed htask).1 other
      (mem_tasks_removeTask h.keyed hother).1

/-- A task with a new flag replaces the one of its key. -/
theorem registered_apart {executor : RedoTaskExecutor} (h : executor.Apart)
    (request : AutomaticRequest) :
    (((executor.newTask request).2.active (executor.newTask request).1).addTask
      (executor.newTask request).1).Apart := by
  let made := executor.newTask request
  let active := made.2.active made.1
  have hlookup : ∀ key, (active.addTask made.1).map.get? key =
      if key = made.1.taskKey then some made.1 else executor.map.get? key :=
    fun key => addTask_lookup active made.1 key
  have hfresh : (active.addTask made.1).flags.fresh = executor.flags.fresh + 1 := by
    show (made.2.active made.1).flags.fresh = _
    rw [active_fresh]
    exact fresh_make _ _
  have hmem : ∀ task ∈ (active.addTask made.1).tasks,
      task = made.1 ∨ task ∈ executor.tasks ∧ task.active < executor.flags.fresh := by
    intro task htask
    obtain ⟨key, hkey⟩ := (HashMap.mem_values _ _).mp htask
    rw [hlookup] at hkey
    split at hkey
    · exact Or.inl (Option.some.inj hkey).symm
    · exact Or.inr ⟨mem_tasks hkey, (h.keyed key task hkey).2⟩
  constructor
  · intro key task hkey
    rw [hlookup] at hkey
    rw [hfresh]
    split at hkey
    · next hmade =>
      cases hkey
      exact ⟨hmade.symm, Nat.lt_succ_self _⟩
    · obtain ⟨htask, hflag⟩ := h.keyed key task hkey
      exact ⟨htask, by omega⟩
  · intro task htask other hother hflag
    have hmade : made.1.active = executor.flags.fresh := rfl
    rcases hmem task htask with rfl | ⟨hold, hlt⟩
    · rcases hmem other hother with rfl | ⟨_, hlt'⟩
      · rfl
      · omega
    · rcases hmem other hother with rfl | ⟨hold', _⟩
      · omega
      · exact h.own task hold other hold' hflag

theorem went_apart {executor : RedoTaskExecutor} (h : executor.Apart) (past : Past) :
    (executor.went past).Apart := by
  cases past with
  | registered request operation answer =>
    have hadded := registered_apart h request
    show (RedoTaskExecutor.settle _ _ operation answer).2.Apart
    rw [settle_executor]
    split
    · exact hadded
    · split
      · exact frozen_apart hadded _
      · exact hadded
  | deregistered request => exact removeTask_apart (newTask_apart h request) _
  | reconnected => exact foldl_apart (fun _ task h => active_apart h task) _ h
  | disconnected => exact foldl_apart (fun _ task h => frozen_apart h task) _ h
  | redone task answer => exact callBack_apart h task answer

/-- The calls of a session are such a history. -/
theorem takeAll_past (namespace_ : String) (calls : List RegistrationCall) :
    ∃ past : List Past, (Session.takeAll namespace_ calls).executor =
      past.foldl RedoTaskExecutor.went RedoTaskExecutor.new := by
  induction calls using List.reverseRecOn with
  | nil => exact ⟨[], rfl⟩
  | append_singleton calls call ih =>
    obtain ⟨past, hpast⟩ := ih
    have hlast : ∃ last, ((Session.takeAll namespace_ calls).take namespace_ call).2.executor =
        (Session.takeAll namespace_ calls).executor.went last := by
      cases call with
      | registerInstance serviceName groupName serviceInstance =>
        exact ⟨.registered _ (if serviceInstance.ephemeral then "register_ephemeral_instance"
          else "register_persistent_instance") (.ok GrpcResponse.ok), rfl⟩
      | deregisterInstance serviceName groupName serviceInstance =>
        refine ⟨.deregistered (RegistrationCall.request namespace_
          (.deregisterInstance serviceName groupName serviceInstance)), ?_⟩
        simp only [Session.take, Session.executeByDeregisterWithRedo, handleResponse_acknowledged]
        rfl
      | batchRegisterInstance serviceName groupName serviceInstances =>
        exact ⟨.registered _ "batch_register_instance" (.ok GrpcResponse.ok), rfl⟩
    obtain ⟨last, hlast⟩ := hlast
    refine ⟨past ++ [last], ?_⟩
    rw [takeAll_concat, hlast, hpast, List.foldl_append]
    rfl

theorem past_apart (past : List Past) :
    (past.foldl RedoTaskExecutor.went RedoTaskExecutor.new).Apart := by
  induction past using List.reverseRecOn with
  | nil => exact new_apart
  | append_singleton past last ih =>
    rw [List.foldl_append]
    exact went_apart ih last

/-! ## The system -/

inductive DeregisterCall where
  | ready
  | sent (request : Nat)
  /-- Answered with success, and waiting for the lock. -/
  | acknowledged
  | returned
  | failed
  deriving DecidableEq

/-- One tick of `start_schedule`, from its read lock to the end of its round. -/
inductive RedoTick where
  | idle
  | holding (rest : List NamingRedoTask)
  | awaiting (request : Nat) (task : NamingRedoTask) (rest : List NamingRedoTask)
  deriving DecidableEq

structure Withdrawal where
  executor : RedoTaskExecutor
  /-- What the server holds of the service for the client. -/
  published : Option (List ServiceInstance)
  /-- The requests that the server has not processed. -/
  flights : List (Nat × AutomaticRequest)
  /-- The number of the next request. -/
  sent : Nat
  tick : RedoTick
  call : DeregisterCall

inductive WithdrawalEvent where
  /-- The active tasks, in the order of the map. -/
  | tick (order : List NamingRedoTask)
  | runNext
  | answered (answer : Except Error GrpcResponse)
  | endRound
  | start
  | process (i : Nat)
  | acknowledge (answer : Except Error GrpcResponse)
  | remove

/-- Any map, and any requests that are still on their way. -/
def Withdrawal.start (past : List Past) (published : Option (List ServiceInstance))
    (flights : List AutomaticRequest) : Withdrawal where
  executor := past.foldl RedoTaskExecutor.went RedoTaskExecutor.new
  published := published
  flights := (List.range flights.length).zip flights
  sent := flights.length
  tick := .idle
  call := .ready

/-- The tasks that the round has not done with. -/
def RedoTick.tasks : RedoTick → List NamingRedoTask
  | .idle => []
  | .holding rest => rest
  | .awaiting _ task rest => task :: rest

/-- The server has not processed the request. -/
def Withdrawal.InFlight (s : Withdrawal) (request : Nat) : Prop :=
  ∃ flight ∈ s.flights, flight.1 = request

instance (s : Withdrawal) : DecidablePred s.InFlight := fun request =>
  inferInstanceAs (Decidable (∃ flight ∈ s.flights, flight.1 = request))

/-- Success is answered to a request that was processed. -/
def Withdrawal.MayAnswer (s : Withdrawal) (request : Nat) : Except Error GrpcResponse → Prop
  | .error _ => True
  | .ok response => response.isSuccess = true → ¬ s.InFlight request

instance (s : Withdrawal) (request : Nat) : DecidablePred (s.MayAnswer request)
  | .error _ => inferInstanceAs (Decidable True)
  | .ok response =>
    inferInstanceAs (Decidable (response.isSuccess = true → ¬ s.InFlight request))

def Withdrawal.send (s : Withdrawal) (request : AutomaticRequest) : Withdrawal :=
  { s with flights := s.flights ++ [(s.sent, request)], sent := s.sent + 1 }

namespace Withdrawal

variable (d : Deregistration)

/-- `execute_by_deregister_with_redo` after its request. -/
def acknowledged (s : Withdrawal) (answer : Except Error GrpcResponse) : Withdrawal :=
  match answer with
  | .error _ => { s with call := .failed }
  | .ok response =>
    match handleResponse response d.operation with
    | .error _ => { s with call := .failed }
    | .ok () => { s with call := .acknowledged }

def step (s : Withdrawal) : WithdrawalEvent → Option Withdrawal
  | .tick order =>
    match s.tick with
    | .idle =>
      if order.Perm s.executor.activeTasks then some { s with tick := .holding order } else none
    | _ => none
  | .runNext =>
    match s.tick with
    | .holding (task :: rest) =>
      some { s.send task.automaticRequest with tick := .awaiting s.sent task rest }
    | _ => none
  | .answered answer =>
    match s.tick with
    | .awaiting request task rest =>
      if s.MayAnswer request answer then
        some { s with executor := s.executor.callBack task answer, tick := .holding rest }
      else none
    | _ => none
  | .endRound =>
    match s.tick with
    | .holding [] => some { s with tick := .idle }
    | _ => none
  | .start =>
    match s.call with
    | .ready =>
      some { s.send d.request with
        executor := (s.executor.newTask d.request).2
        call := .sent s.sent }
    | _ => none
  | .process i =>
    match s.flights[i]? with
    | some flight =>
      some { s with
        published := (d.leaves flight.2).getD s.published
        flights := s.flights.eraseIdx i }
    | none => none
  | .acknowledge answer =>
    match s.call with
    | .sent request => if s.MayAnswer request answer then some (s.acknowledged d answer) else none
    | _ => none
  | .remove =>
    match s.call, s.tick with
    | .acknowledged, .idle =>
      some { s with executor := s.executor.removeTask d.request.name, call := .returned }
    | _, _ => none

/-! ## The invariant -/

/-- The server has processed the request of the call. -/
def Cleared (s : Withdrawal) : Prop :=
  match s.call with
  | .ready => False
  | .sent request => ¬ s.InFlight request
  | .acknowledged => True
  | .returned => True
  | .failed => False

/-- Neither this round nor a later tick registers the service. -/
def Silent (s : Withdrawal) : Prop :=
  ∀ task ∈ s.tick.tasks ++ s.executor.activeTasks, ¬ d.Registers task.automaticRequest

/-- Nothing is left of the service, and nothing brings it back. -/
structure Withdrawn (s : Withdrawal) : Prop where
  published : s.flights = [] → s.published = none
  silent : s.Silent d

/-- No registration of the service is on its way when the deregistration is
processed, none is sent from then until the return, and its tasks are those that
are removed. -/
def Settled (s : Withdrawal) : WithdrawalEvent → Prop
  | .process i => ∀ flight ∈ s.flights[i]?, s.call = .sent flight.1 →
      ∀ other ∈ s.flights.eraseIdx i, ¬ d.Registers other.2
  | .runNext => s.Cleared → s.call ≠ .returned →
      ∀ task ∈ s.tick.tasks.head?, ¬ d.Registers task.automaticRequest
  | .remove => ∀ task ∈ s.executor.activeTasks, d.Registers task.automaticRequest →
      task.taskKey = d.request.name
  | _ => True

instance (s : Withdrawal) : Decidable s.Cleared :=
  match h : s.call with
  | .ready => isFalse (by simp [Cleared, h])
  | .sent request => decidable_of_iff (¬ s.InFlight request) (by simp [Cleared, h])
  | .acknowledged => isTrue (by simp [Cleared, h])
  | .returned => isTrue (by simp [Cleared, h])
  | .failed => isFalse (by simp [Cleared, h])

instance (s : Withdrawal) : DecidablePred (s.Settled d)
  | .process i => inferInstanceAs (Decidable (∀ flight ∈ s.flights[i]?, _ → ∀ other ∈ _, _))
  | .runNext => inferInstanceAs (Decidable (s.Cleared → s.call ≠ .returned → ∀ task ∈ _, _))
  | .remove => inferInstanceAs (Decidable (∀ task ∈ s.executor.activeTasks, _ → _))
  | .tick _ => inferInstanceAs (Decidable True)
  | .answered _ => inferInstanceAs (Decidable True)
  | .endRound => inferInstanceAs (Decidable True)
  | .start => inferInstanceAs (Decidable True)
  | .acknowledge _ => inferInstanceAs (Decidable True)

structure Sound (s : Withdrawal) : Prop where
  apart : s.executor.Apart
  round : ∀ task ∈ s.tick.tasks, task ∈ s.executor.tasks
  below : ∀ flight ∈ s.flights, flight.1 < s.sent
  own : ∀ request, s.call = .sent request → request < s.sent ∧
    ∀ flight ∈ s.flights, flight.1 = request → flight.2 = d.request
  cleared : s.Cleared → s.published = none ∧ ∀ flight ∈ s.flights, ¬ d.Registers flight.2
  silent : s.call = .returned → s.Silent d

variable {d} {s s' : Withdrawal}

theorem start_sound (past : List Past) (published : Option (List ServiceInstance))
    (flights : List AutomaticRequest) : (start past published flights).Sound d where
  apart := past_apart past
  round := fun _ h => by cases h
  below := by
    intro flight h
    exact List.mem_range.mp (List.of_mem_zip h).1
  own := fun _ h => by cases h
  cleared := fun h => h.elim
  silent := fun h => by cases h

/-! ## The round -/

theorem mem_activeTasks {executor : RedoTaskExecutor} {task : NamingRedoTask} :
    task ∈ executor.activeTasks ↔
      task ∈ executor.tasks ∧ executor.flags.load task.active = some true := by
  simp [RedoTaskExecutor.activeTasks, RedoTaskExecutor.isActive]

theorem tick_sound {order : List NamingRedoTask} (h : s.step d (.tick order) = some s')
    (hs : s.Sound d) : s'.Sound d := by
  simp only [step] at h
  split at h
  · split at h
    · next horder =>
      cases h
      refine ⟨hs.apart, ?_, hs.below, hs.own, hs.cleared, ?_⟩
      · intro task htask
        exact (mem_activeTasks.mp (horder.mem_iff.mp htask)).1
      · intro hreturned task htask
        apply hs.silent hreturned task
        rcases List.mem_append.mp htask with hround | hactive
        · exact List.mem_append_right _ (horder.mem_iff.mp hround)
        · exact List.mem_append_right _ hactive
    · cases h
  · cases h

/-- A request that was sent before is not the one that is sent now. -/
theorem inFlight_send {request : Nat} (h : request < s.sent) (other : AutomaticRequest) :
    (s.send other).InFlight request ↔ s.InFlight request := by
  unfold InFlight send
  constructor
  · rintro ⟨flight, hmem, hflight⟩
    rcases List.mem_append.mp hmem with hold | hnew
    · exact ⟨flight, hold, hflight⟩
    · rw [List.mem_singleton.mp hnew] at hflight
      have : s.sent = request := hflight
      omega
  · rintro ⟨flight, hmem, hflight⟩
    exact ⟨flight, List.mem_append_left _ hmem, hflight⟩

theorem below_send (hs : s.Sound d) (request : AutomaticRequest) :
    ∀ flight ∈ (s.send request).flights, flight.1 < (s.send request).sent := by
  intro flight hmem
  show flight.1 < s.sent + 1
  rcases List.mem_append.mp hmem with hold | hnew
  · have := hs.below flight hold
    omega
  · rw [List.mem_singleton.mp hnew]
    exact Nat.lt_succ_self _

theorem runNext_sound (hok : s.Settled d .runNext) (h : s.step d .runNext = some s')
    (hs : s.Sound d) : s'.Sound d := by
  simp only [step] at h
  split at h
  · next task rest htick =>
    cases h
    have hround : s.tick.tasks = task :: rest := by rw [htick]; rfl
    refine ⟨hs.apart, ?_, below_send hs _, ?_, ?_, ?_⟩
    · intro other hother
      exact hs.round other (hround ▸ hother)
    · intro request hcall
      obtain ⟨hlt, hown⟩ := hs.own request hcall
      refine ⟨Nat.lt_succ_of_lt hlt, fun flight hmem hflight => ?_⟩
      rcases List.mem_append.mp hmem with hold | hnew
      · exact hown flight hold hflight
      · rw [List.mem_singleton.mp hnew] at hflight
        have : s.sent = request := hflight
        omega
    · intro hcleared
      have hbefore : s.Cleared := by
        unfold Cleared at hcleared ⊢
        cases hcall : s.call with
        | sent request =>
          simp only [send, hcall] at hcleared
          exact fun hin => hcleared ((inFlight_send (hs.own request hcall).1 _).mpr hin)
        | ready => simp only [send, hcall] at hcleared
        | failed => simp only [send, hcall] at hcleared
        | acknowledged => trivial
        | returned => trivial
      obtain ⟨hpublished, hflights⟩ := hs.cleared hbefore
      refine ⟨hpublished, fun flight hmem => ?_⟩
      rcases List.mem_append.mp hmem with hold | hnew
      · exact hflights flight hold
      · rw [List.mem_singleton.mp hnew]
        by_cases hreturned : s.call = .returned
        · exact hs.silent hreturned task (by simp [hround])
        · exact hok hbefore hreturned task (by rw [hround]; rfl)
    · intro hreturned other hother
      apply hs.silent hreturned other
      rw [hround]
      exact hother
  · cases h

/-- The callback changes the flag of its own task only. -/
theorem callBack_active {executor : RedoTaskExecutor} (h : executor.Apart) {task : NamingRedoTask}
    (htask : task ∈ executor.tasks) {answer : Except Error GrpcResponse} {other : NamingRedoTask}
    (hother : other ∈ (executor.callBack task answer).activeTasks) :
    other = task ∨ other ∈ executor.activeTasks := by
  obtain ⟨hmem, hflag⟩ := mem_activeTasks.mp hother
  have hmap : (executor.callBack task answer).map = executor.map := by cases answer <;> rfl
  have hmem : other ∈ executor.tasks := by
    rw [RedoTaskExecutor.tasks, hmap] at hmem
    exact hmem
  by_cases hsame : task.active = other.active
  · exact Or.inl (h.own task htask other hmem hsame).symm
  · refine Or.inr (mem_activeTasks.mpr ⟨hmem, ?_⟩)
    rw [← hflag]
    cases answer with
    | error _ => exact (load_store_ne _ _ hsame).symm
    | ok _ => exact (load_store_ne _ _ hsame).symm

theorem answered_sound {answer : Except Error GrpcResponse}
    (h : s.step d (.answered answer) = some s') (hs : s.Sound d) : s'.Sound d := by
  simp only [step] at h
  split at h
  · next request task rest htick =>
    split at h
    · cases h
      have hround : s.tick.tasks = task :: rest := by rw [htick]; rfl
      have htask : task ∈ s.executor.tasks := hs.round task (by rw [hround]; simp)
      have htasks : (s.executor.callBack task answer).tasks = s.executor.tasks := by
        cases answer <;> rfl
      refine ⟨callBack_apart hs.apart _ _, ?_, hs.below, hs.own, hs.cleared, ?_⟩
      · intro other hother
        show other ∈ (s.executor.callBack task answer).tasks
        rw [htasks]
        exact hs.round other (by rw [hround]; exact List.mem_cons_of_mem _ hother)
      · intro hreturned other hother
        have hsilent := hs.silent hreturned
        rcases List.mem_append.mp hother with hrest | hactive
        · apply hsilent other
          rw [hround]
          exact List.mem_append_left _ (List.mem_cons_of_mem _ hrest)
        · rcases callBack_active hs.apart htask hactive with rfl | hbefore
          · exact hsilent other (by rw [hround]; simp)
          · exact hsilent other (List.mem_append_right _ hbefore)
    · cases h
  · cases h

theorem endRound_sound (h : s.step d .endRound = some s') (hs : s.Sound d) : s'.Sound d := by
  simp only [step] at h
  split at h
  · cases h
    refine ⟨hs.apart, fun _ hmem => (List.not_mem_nil hmem).elim, hs.below, hs.own, hs.cleared, ?_⟩
    intro hreturned task htask
    exact hs.silent hreturned task (List.mem_append_right _ htask)
  · cases h

/-! ## The call and the server -/

theorem startCall_sound (h : s.step d .start = some s') (hs : s.Sound d) : s'.Sound d := by
  simp only [step] at h
  split at h
  · cases h
    have hfresh : (s.send d.request).InFlight s.sent :=
      ⟨(s.sent, d.request), by simp [send], rfl⟩
    refine ⟨newTask_apart hs.apart d.request, hs.round, below_send hs d.request, ?_, ?_, ?_⟩
    · intro request hcall
      cases hcall
      refine ⟨Nat.lt_succ_self _, fun flight hmem hflight => ?_⟩
      rcases List.mem_append.mp hmem with hold | hnew
      · have := hs.below flight hold
        omega
      · rw [List.mem_singleton.mp hnew]
    · intro hcleared
      exact (hcleared hfresh).elim
    · intro hreturned
      cases hreturned
  · cases h

theorem process_sound {i : Nat} (hok : s.Settled d (.process i))
    (h : s.step d (.process i) = some s') (hs : s.Sound d) : s'.Sound d := by
  simp only [step] at h
  split at h
  · next flight hflight =>
    cases h
    have hmem : flight ∈ s.flights := List.mem_of_getElem? hflight
    have hsub : ∀ other ∈ s.flights.eraseIdx i, other ∈ s.flights :=
      fun other hother => List.mem_of_mem_eraseIdx hother
    refine ⟨hs.apart, hs.round, fun other hother => hs.below other (hsub other hother), ?_, ?_,
      hs.silent⟩
    · intro request hcall
      obtain ⟨hlt, hown⟩ := hs.own request hcall
      exact ⟨hlt, fun other hother => hown other (hsub other hother)⟩
    · intro hcleared
      show (d.leaves flight.2).getD s.published = none ∧ _
      by_cases hbefore : s.Cleared
      · obtain ⟨hpublished, hflights⟩ := hs.cleared hbefore
        rw [hpublished, leaves_nothing (hflights flight hmem)]
        exact ⟨rfl, fun other hother => hflights other (hsub other hother)⟩
      · -- the request of the call has just been processed
        cases hcall : s.call with
        | sent request =>
          simp only [Cleared, hcall, not_not] at hcleared hbefore
          obtain ⟨last, hlast, hnumber⟩ := hbefore
          have hsame : flight.1 = request := by
            rcases Pending.mem_eraseIdx_or hflight hlast with rfl | hleft
            · exact hnumber
            · exact (hcleared ⟨last, hleft, hnumber⟩).elim
          rw [(hs.own request hcall).2 flight hmem hsame, leaves_request]
          exact ⟨rfl, hok flight (by rw [hflight]; rfl) (by rw [hsame, hcall])⟩
        | ready => simp only [Cleared, hcall] at hcleared
        | failed => simp only [Cleared, hcall] at hcleared
        | acknowledged => exact (hbefore (by simp only [Cleared, hcall])).elim
        | returned => exact (hbefore (by simp only [Cleared, hcall])).elim
  · cases h

/-- The call moves on without sending or returning. -/
theorem moved_sound (hs : s.Sound d) {call : DeregisterCall}
    (hsent : ∀ request, call ≠ .sent request) (hreturned : call ≠ .returned)
    (hcleared : Cleared { s with call := call } → s.Cleared) :
    Sound d { s with call := call } where
  apart := hs.apart
  round := hs.round
  below := hs.below
  own := fun request hcall => (hsent request hcall).elim
  cleared := fun h => hs.cleared (hcleared h)
  silent := fun hcall => (hreturned hcall).elim

theorem acknowledge_sound {answer : Except Error GrpcResponse}
    (h : s.step d (.acknowledge answer) = some s') (hs : s.Sound d) : s'.Sound d := by
  have hfailed : Sound d { s with call := .failed } :=
    moved_sound hs (by simp) (by simp)
      (fun hcleared => hcleared.elim)
  simp only [step] at h
  split at h
  · next request hcall =>
    split at h
    · next hmay =>
      cases h
      cases answer with
      | error e => exact hfailed
      | ok response =>
        unfold acknowledged
        cases hsuccess : response.isSuccess with
        | false =>
          simp only [handleResponse, hsuccess, Bool.false_eq_true, ↓reduceIte]
          exact hfailed
        | true =>
          simp only [(handleResponse_ok_iff response d.operation).mpr hsuccess]
          have hcleared : s.Cleared := by
            simp only [Cleared, hcall]
            exact hmay hsuccess
          exact moved_sound hs (by simp) (by simp)
            (fun _ => hcleared)
    · cases h
  · cases h

theorem remove_sound (hok : s.Settled d .remove) (h : s.step d .remove = some s')
    (hs : s.Sound d) : s'.Sound d := by
  simp only [step] at h
  split at h
  · next hcall htick =>
    cases h
    have hcleared : s.Cleared := by simp only [Cleared, hcall]
    refine ⟨removeTask_apart hs.apart _, ?_, hs.below, by simp,
      fun _ => hs.cleared hcleared, ?_⟩
    · intro task htask
      rw [show s.tick.tasks = [] by rw [htick]; rfl] at htask
      cases htask
    · intro _ task htask hregisters
      rw [show s.tick.tasks = [] by rw [htick]; rfl, List.nil_append] at htask
      obtain ⟨hmem, hactive⟩ := mem_activeTasks.mp htask
      obtain ⟨hold, hne⟩ := mem_tasks_removeTask hs.apart.keyed hmem
      exact hne (hok task (mem_activeTasks.mpr ⟨hold, hactive⟩) hregisters)
  · cases h

theorem withdrawal_step {e : WithdrawalEvent} (hok : s.Settled d e) (h : s.step d e = some s')
    (hs : s.Sound d) : s'.Sound d := by
  cases e with
  | tick order => exact tick_sound h hs
  | runNext => exact runNext_sound hok h hs
  | answered answer => exact answered_sound h hs
  | endRound => exact endRound_sound h hs
  | start => exact startCall_sound h hs
  | process i => exact process_sound hok h hs
  | acknowledge answer => exact acknowledge_sound h hs
  | remove => exact remove_sound hok h hs

/-- **Deregistration.** After the call has returned, nothing is published once
the requests on their way are processed, and no tick registers the service. -/
theorem withdrawn {past : List Past} {published : Option (List ServiceInstance)}
    {flights : List AutomaticRequest} {es : List WithdrawalEvent}
    (h : Reaches (step d) (Settled d) (start past published flights) es s)
    (hreturned : s.call = .returned) : s.Withdrawn d := by
  have hsound : s.Sound d := by
    apply Reaches.invariant (I := fun s : Withdrawal => s.Sound d) _ h
      (start_sound past published flights)
    intro s e s' hok hstep hs
    exact withdrawal_step hok hstep hs
  have hcleared : s.Cleared := by simp only [Cleared, hreturned]
  exact ⟨fun _ => (hsound.cleared hcleared).1, hsound.silent hreturned⟩

/-! ## A registration that failed before -/

def ordersInstance : Deregistration := ⟨"public", "orders", none, ServiceInstance.default⟩

/-- The registration has failed, and its task is active. -/
def failedRegistration : List Past :=
  [.registered (instanceRequest .register "public" "orders" none ServiceInstance.default)
    "register_ephemeral_instance" (.error (.clientUnhealthy "the connection is not connected"))]

def failedBefore : Withdrawal := start failedRegistration none []

def failedTasks : List NamingRedoTask := failedBefore.executor.activeTasks

/-- The round sends the task before the server processes the deregistration, and
ends after the answer to the call; another round follows the return. -/
def roundBeside : List WithdrawalEvent :=
  [.tick failedTasks, .runNext, .start, .process 0, .process 0,
    .acknowledge (.ok GrpcResponse.ok), .answered (.ok GrpcResponse.ok), .endRound, .remove,
    .tick [], .endRound]

/-- The round has collected the task before the call and sends it after the
answer to the call. -/
def roundAround : List WithdrawalEvent :=
  [.tick failedTasks, .start, .process 0, .acknowledge (.ok GrpcResponse.ok), .runNext, .process 0,
    .answered (.ok GrpcResponse.ok), .endRound, .remove]

theorem withdrawn_roundBeside :
    ((run (step ordersInstance) failedBefore roundBeside).getD failedBefore).Withdrawn
      ordersInstance :=
  withdrawn (runDecided_reaches (Settled ordersInstance) (by decide +kernel) _)
    (by decide +kernel)

theorem redo_publishes_again :
    ¬ ∀ d past published flights es s,
      Reaches (step d) anyStep (start past published flights) es s → s.call = .returned →
        s.Withdrawn d := by
  intro h
  have hrun : (run (step ordersInstance) failedBefore roundAround).isSome = true := by
    decide +kernel
  have hwithdrawn := h ordersInstance failedRegistration none [] roundAround _
    (run_getD_reaches hrun failedBefore) (by decide +kernel)
  exact absurd (hwithdrawn.published (by decide +kernel)) (by decide +kernel)

end Withdrawal

end NacosSdk.Naming
