import NacosSdk.Naming.Service

/-!
# The loop of an update task

The future that `ServiceInfoUpdateTask::start` of `naming/updater/mod.rs`
spawns. Every await and every look at the `running` flag ends a step; what the
flag holds, what the cache holds and what the server answers are arguments.
Proved here, for every loop and step:

* `updateStep_cases`: all that a step can do;
* `updateStep_task`: a loop keeps its flag and its key;
* `updateStep_late`: how many queries and service infos are still to come once
  the flag is cleared.
-/

namespace NacosSdk.Naming
open NacosSdk.Common NacosSdk.Lib

/-! ## The delay -/

/-- `DEFAULT_DELAY`. -/
def defaultDelay : UInt64 := 1000

/-- `DEFAULT_UPDATE_CACHE_TIME_MULTIPLE`. -/
def defaultUpdateCacheTimeMultiple : Int64 := 6

/-- `MAX_FAILED`. -/
def maxFailed : UInt8 := 6

/-- `(delay_time << failed_count).min(DEFAULT_DELAY * 60)`. -/
def delayTimeMillis (delayTime : UInt64) (failedCount : UInt8) : UInt64 :=
  min (delayTime <<< failedCount.toUInt64) (defaultDelay * 60)

/-- `(cache_millis * MULTIPLE) as u64`. -/
def cacheDelay (cacheMillis : Int64) : UInt64 :=
  (cacheMillis * defaultUpdateCacheTimeMultiple).toUInt64

/-- The `i64` that is sent as the `cache_millis` of a service info. -/
def ServiceInfo.cacheMillis64 (info : ServiceInfo) : Int64 := Int64.ofInt info.cacheMillis

/-- `last_ref_time as u64`. -/
def ServiceInfo.lastRefTime64 (info : ServiceInfo) : UInt64 :=
  (Int64.ofInt info.lastRefTime).toUInt64

/-! ## The loop -/

structure ServiceQueryRequest where
  cluster : String
  groupName : Option String
  healthyOnly : Bool
  udpPort : Int
  namespace_ : Option String
  serviceName : Option String
  deriving DecidableEq

inductive UpdatePhase where
  /-- At the head of the loop. -/
  | testing
  | sleeping (delayTimeMillis : UInt64)
  | refreshing
  | requesting
  | querying
  | emitting (serviceInfo : ServiceInfo)
  | ended
  deriving DecidableEq

structure UpdateLoop where
  /-- The cell of the running flag. -/
  running : Nat
  request : ServiceQueryRequest
  delayTime : UInt64
  lastRefreshTime : UInt64
  failedCount : UInt8
  phase : UpdatePhase
  /-- All queries sent so far. -/
  sent : List ServiceQueryRequest
  /-- All service infos emitted so far. -/
  emitted : List ServiceInfo
  deriving DecidableEq

/-- The loop as it is spawned. -/
def UpdateLoop.start (task : ServiceInfoUpdateTask) : UpdateLoop where
  running := task.running
  request :=
    { cluster := task.cluster
      groupName := some task.groupName
      healthyOnly := false
      udpPort := 0
      namespace_ := some task.namespace_
      serviceName := some task.serviceName }
  delayTime := defaultDelay
  lastRefreshTime := 0xFFFFFFFFFFFFFFFF
  failedCount := 0
  phase := .testing
  sent := []
  emitted := []

/-- The key under which the loop reads the cache. -/
def UpdateLoop.key (loop : UpdateLoop) : String :=
  updateTaskKey (loop.request.serviceName.getD "") (loop.request.groupName.getD "")
    loop.request.cluster

inductive UpdateEvent where
  /-- The head of the loop is reached. -/
  | test
  /-- The sleep is over. -/
  | wake
  | refresh (cached : Option ServiceInfo)
  | send
  | answer (answer : Answer)
  | emit
  deriving DecidableEq

def UpdateLoop.refresh (loop : UpdateLoop) : Option ServiceInfo → UpdateLoop
  | none => { loop with phase := .requesting }
  | some serviceInfo =>
    -- outdated: the cache holds nothing newer than the last refresh
    if loop.lastRefreshTime ≥ serviceInfo.lastRefTime64 then { loop with phase := .requesting }
    else { loop with phase := .testing, lastRefreshTime := serviceInfo.lastRefTime64 }

/-- The query failed, or its answer is no success. -/
def UpdateLoop.fail (loop : UpdateLoop) : UpdateLoop :=
  { loop with
    phase := .testing
    failedCount := if loop.failedCount < maxFailed then loop.failedCount + 1
      else loop.failedCount }

def UpdateLoop.receive (loop : UpdateLoop) : Answer → UpdateLoop
  | .error _ => loop.fail
  | .ok response =>
    if response.isSuccess then
      { loop with
        phase := .emitting response.serviceInfo
        lastRefreshTime := response.serviceInfo.lastRefTime64
        delayTime := cacheDelay response.serviceInfo.cacheMillis64 }
    else loop.fail

/-- The next step, when the flag is read as `running`. -/
def UpdateLoop.step (loop : UpdateLoop) (running : Bool) : UpdateEvent → Option UpdateLoop
  | .test =>
    match loop.phase with
    | .testing =>
      if running then
        some { loop with
          phase := .sleeping (delayTimeMillis loop.delayTime loop.failedCount) }
      else some { loop with phase := .ended }
    | _ => none
  | .wake =>
    match loop.phase with
    | .sleeping _ =>
      if running then some { loop with phase := .refreshing }
      else some { loop with phase := .ended }
    | _ => none
  | .refresh cached =>
    match loop.phase with
    | .refreshing => some (loop.refresh cached)
    | _ => none
  | .send =>
    match loop.phase with
    | .requesting => some { loop with phase := .querying, sent := loop.sent ++ [loop.request] }
    | _ => none
  | .answer answer =>
    match loop.phase with
    | .querying => some (loop.receive answer)
    | _ => none
  | .emit =>
    match loop.phase with
    | .emitting serviceInfo =>
      some { loop with
        phase := .testing
        failedCount := 0
        emitted := loop.emitted ++ [serviceInfo] }
    | _ => none

/-! ## What a step does -/

/-- All that one step of a loop can do. -/
inductive UpdateLoop.Step (loop : UpdateLoop) (running : Bool) : UpdateEvent → UpdateLoop → Prop
  | sleep (hphase : loop.phase = .testing) (hrunning : running = true) :
      Step loop running .test
        { loop with phase := .sleeping (delayTimeMillis loop.delayTime loop.failedCount) }
  | stopAtHead (hphase : loop.phase = .testing) (hrunning : running = false) :
      Step loop running .test { loop with phase := .ended }
  | wake {millis : UInt64} (hphase : loop.phase = .sleeping millis) (hrunning : running = true) :
      Step loop running .wake { loop with phase := .refreshing }
  | stopAfterSleep {millis : UInt64} (hphase : loop.phase = .sleeping millis)
      (hrunning : running = false) : Step loop running .wake { loop with phase := .ended }
  | refresh (cached : Option ServiceInfo) (hphase : loop.phase = .refreshing) :
      Step loop running (.refresh cached) (loop.refresh cached)
  | send (hphase : loop.phase = .requesting) :
      Step loop running .send
        { loop with phase := .querying, sent := loop.sent ++ [loop.request] }
  | answer (answer : Answer) (hphase : loop.phase = .querying) :
      Step loop running (.answer answer) (loop.receive answer)
  | emit {serviceInfo : ServiceInfo} (hphase : loop.phase = .emitting serviceInfo) :
      Step loop running .emit
        { loop with
          phase := .testing
          failedCount := 0
          emitted := loop.emitted ++ [serviceInfo] }

theorem updateStep_cases {loop loop' : UpdateLoop} {running : Bool} {e : UpdateEvent}
    (h : loop.step running e = some loop') : loop.Step running e loop' := by
  cases e with
  | test =>
    simp only [UpdateLoop.step] at h
    split at h
    · next hphase =>
      cases running with
      | true =>
        cases h
        exact .sleep hphase rfl
      | false =>
        cases h
        exact .stopAtHead hphase rfl
    · cases h
  | wake =>
    simp only [UpdateLoop.step] at h
    split at h
    · next hphase =>
      cases running with
      | true =>
        cases h
        exact .wake hphase rfl
      | false =>
        cases h
        exact .stopAfterSleep hphase rfl
    · cases h
  | refresh cached =>
    simp only [UpdateLoop.step] at h
    split at h
    · next hphase =>
      cases h
      exact .refresh cached hphase
    · cases h
  | send =>
    simp only [UpdateLoop.step] at h
    split at h
    · next hphase =>
      cases h
      exact .send hphase
    · cases h
  | answer answer =>
    simp only [UpdateLoop.step] at h
    split at h
    · next hphase =>
      cases h
      exact .answer answer hphase
    · cases h
  | emit =>
    simp only [UpdateLoop.step] at h
    split at h
    · next hphase =>
      cases h
      exact .emit hphase
    · cases h

/-- What a loop never writes. -/
def UpdateLoop.task (loop : UpdateLoop) : Nat × String := (loop.running, loop.key)

theorem receive_phase (loop : UpdateLoop) (answer : Answer) :
    (loop.receive answer).phase = .testing ∨
      ∃ serviceInfo, (loop.receive answer).phase = .emitting serviceInfo := by
  unfold UpdateLoop.receive
  split
  · exact Or.inl rfl
  · split
    · exact Or.inr ⟨_, rfl⟩
    · exact Or.inl rfl

theorem receive_kept (loop : UpdateLoop) (answer : Answer) :
    (loop.receive answer).task = loop.task ∧ (loop.receive answer).sent = loop.sent ∧
      (loop.receive answer).emitted = loop.emitted := by
  unfold UpdateLoop.receive
  split
  · exact ⟨rfl, rfl, rfl⟩
  · split <;> exact ⟨rfl, rfl, rfl⟩

theorem refresh_phase (loop : UpdateLoop) (cached : Option ServiceInfo) :
    (loop.refresh cached).phase = .requesting ∨ (loop.refresh cached).phase = .testing := by
  unfold UpdateLoop.refresh
  split
  · exact Or.inl rfl
  · split
    · exact Or.inl rfl
    · exact Or.inr rfl

theorem refresh_kept (loop : UpdateLoop) (cached : Option ServiceInfo) :
    (loop.refresh cached).task = loop.task ∧ (loop.refresh cached).sent = loop.sent ∧
      (loop.refresh cached).emitted = loop.emitted := by
  unfold UpdateLoop.refresh
  split
  · exact ⟨rfl, rfl, rfl⟩
  · split <;> exact ⟨rfl, rfl, rfl⟩

theorem updateStep_task {loop loop' : UpdateLoop} {running : Bool} {e : UpdateEvent}
    (h : loop.step running e = some loop') : loop'.task = loop.task := by
  cases updateStep_cases h with
  | refresh cached => exact (refresh_kept loop cached).1
  | answer answer => exact (receive_kept loop answer).1
  | _ => rfl

/-! ## After the flag is cleared -/

/-- Queries that a loop can still send before it looks at its flag. -/
def UpdatePhase.queriesLeft : UpdatePhase → Nat
  | .refreshing | .requesting => 1
  | _ => 0

/-- Service infos that a loop can still emit before it looks at its flag. -/
def UpdatePhase.emitsLeft : UpdatePhase → Nat
  | .refreshing | .requesting | .querying | .emitting _ => 1
  | _ => 0

def UpdateLoop.queriesBound (loop : UpdateLoop) : Nat := loop.sent.length + loop.phase.queriesLeft

def UpdateLoop.emitsBound (loop : UpdateLoop) : Nat := loop.emitted.length + loop.phase.emitsLeft

theorem queriesLeft_le (phase : UpdatePhase) : phase.queriesLeft ≤ 1 := by
  cases phase <;> simp [UpdatePhase.queriesLeft]

theorem emitsLeft_le (phase : UpdatePhase) : phase.emitsLeft ≤ 1 := by
  cases phase <;> simp [UpdatePhase.emitsLeft]

/-- A loop that reads a cleared flag never raises its bounds. -/
theorem updateStep_late {loop loop' : UpdateLoop} {e : UpdateEvent}
    (h : loop.step false e = some loop') :
    loop'.queriesBound ≤ loop.queriesBound ∧ loop'.emitsBound ≤ loop.emitsBound := by
  unfold UpdateLoop.queriesBound UpdateLoop.emitsBound
  cases updateStep_cases h with
  | sleep hphase hrunning => cases hrunning
  | wake hphase hrunning => cases hrunning
  | stopAtHead hphase _ => simp [UpdatePhase.queriesLeft, UpdatePhase.emitsLeft]
  | stopAfterSleep hphase _ => simp [UpdatePhase.queriesLeft, UpdatePhase.emitsLeft]
  | refresh cached hphase =>
    obtain ⟨_, hsent, hemitted⟩ := refresh_kept loop cached
    rw [hsent, hemitted, hphase]
    rcases refresh_phase loop cached with hnext | hnext <;>
      simp [hnext, UpdatePhase.queriesLeft, UpdatePhase.emitsLeft]
  | send hphase => simp [hphase, UpdatePhase.queriesLeft, UpdatePhase.emitsLeft]
  | answer answer hphase =>
    obtain ⟨_, hsent, hemitted⟩ := receive_kept loop answer
    rw [hsent, hemitted, hphase]
    rcases receive_phase loop answer with hnext | ⟨serviceInfo, hnext⟩ <;>
      simp [hnext, UpdatePhase.queriesLeft, UpdatePhase.emitsLeft]
  | emit hphase => simp [hphase, UpdatePhase.queriesLeft, UpdatePhase.emitsLeft]

end NacosSdk.Naming
