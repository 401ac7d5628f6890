import NacosSdk.Lib.Budget
import NacosSdk.Remote.SendRequest

/-!
# The health check of a connection

The task `FailoverConnection::health_check` of
`common/remote/grpc/nacos_grpc_connection.rs` on a clock in milliseconds, beside
the connection that shares its flag and the time of the last answer with it. The
task runs as soon as its timer is due. Proved here, for every run:

* `stepped`: all that an event can do;
* `step_timed`: the timer is never further off than the task sets it;
* `stopped_kept`: a task that has ended sends nothing more.
-/

namespace NacosSdk.Remote
open NacosSdk.Common NacosSdk.Lib.Run

/-! ## Messages -/

/-- A request of the module `internal`, without fields of its own. -/
structure HealthCheckRequest where
  headers : HashMap String
  requestId : Option String
  deriving DecidableEq

def HealthCheckRequest.default : HealthCheckRequest where
  headers := ∅
  requestId := none

structure HealthCheckResponse extends GrpcResponse where
  requestId : Option String
  deriving DecidableEq

/-- `HealthCheckResponse::ok()`. -/
def HealthCheckResponse.ok : HealthCheckResponse := { GrpcResponse.ok with requestId := none }

/-- `serde_json` on the default request and its text. -/
@[reducible] def healthCheckCodec : GrpcMessageData HealthCheckRequest :=
  oneCodec "HealthCheckRequest" HealthCheckRequest.default
    "\x7b\"headers\":\x7b\x7d,\"requestId\":null\x7d"

/-- `serde_json` on the response and its text. -/
@[reducible] def healthyCodec : GrpcMessageData HealthCheckResponse :=
  oneCodec "HealthCheckResponse" HealthCheckResponse.ok
    "\x7b\"resultCode\":200,\"errorCode\":0,\"message\":\"Response ok\",\"requestId\":null\x7d"

/-! ## The task -/

def healthCheckRequestTimeout : Nat := 3000
def healthCheckInterval : Nat := 5000
def healthCheckRetryTimes : Nat := 3

/-- The pauses between attempts are shorter. -/
def jitterEnd : Nat := 500

/-- Where the task stands, with the time its timer is due. -/
inductive HealthCheckAt where
  | top
  | sleeping (due : Nat)
  | jittering (attempt due : Nat)
  /-- It waits for `poll_ready`, however long that takes. -/
  | readying (attempt : Nat)
  | calling (attempt due : Nat)
  | stopped
  deriving DecidableEq

def HealthCheckAt.due : HealthCheckAt → Option Nat
  | .sleeping due | .jittering _ due | .calling _ due => some due
  | .top | .readying _ | .stopped => none

/-- No step reads the last two fields: the requests that were sent, and the time
spent waiting for `poll_ready`. -/
structure HealthCheck where
  now : Nat
  lastActive : Nat
  svcHealth : Bool
  activeHealthCheck : Bool
  place : HealthCheckAt
  calls : Nat
  waited : Nat
  deriving DecidableEq

/-- `FailoverConnection::new`. -/
def HealthCheck.new (now lastActive : Nat) (svcHealth : Bool) : HealthCheck where
  now
  lastActive
  svcHealth
  activeHealthCheck := true
  place := .top
  calls := 0
  waited := 0

/-- Who stores the time of the last answer, beside the task and `poll_ready`. -/
inductive SignOfLife where
  /-- A message on the server stream. -/
  | streamMessage
  /-- A call of the application or a probe has come back, with an answer or an
  error of the connection. -/
  | callReturned
  deriving DecidableEq

/-- Who clears the flag, beside the task. -/
inductive FlagLoss where
  /-- The stream task, after the end of the server stream. -/
  | streamClosed
  /-- `poll_ready`, when the service is not ready. -/
  | notReady
  | failover
  deriving DecidableEq

inductive HealthCheckEvent where
  /-- A millisecond passes. -/
  | tick
  | activity (sign : SignOfLife)
  /-- `poll_ready`: the connection is initialized. -/
  | connected
  | lost (loss : FlagLoss)
  /-- The owner drops the connection. -/
  | drop
  /-- The test of the loop and what follows it at once. -/
  | check
  | wake
  | jittered
  | ready (result : Except Error Unit)
  /-- The call returns; `jitter` is drawn if another attempt follows. -/
  | answered (answer : Except Error Payload) (jitter : Nat)
  | timeout (jitter : Nat)

/-- After the attempts. -/
def HealthCheck.conclude (s : HealthCheck) (healthy : Bool) : HealthCheck :=
  { s with
    lastActive := if healthy then s.now else s.lastActive
    svcHealth := if healthy then s.svcHealth else false
    place := .sleeping (s.now + healthCheckInterval) }

/-- After an attempt that failed. -/
def HealthCheck.retry (s : HealthCheck) (attempt jitter : Nat) : HealthCheck :=
  if attempt + 1 < healthCheckRetryTimes then
    { s with place := .jittering (attempt + 1) (s.now + jitter) }
  else s.conclude false

section Task

variable [GrpcMessageData HealthCheckRequest] (localIp : String)

def healthCheckPayload : Except Error Payload :=
  (GrpcMessageBuilder.new localIp HealthCheckRequest.default).build.intoPayload

/-- An attempt up to its first await. -/
def HealthCheck.begin (s : HealthCheck) (attempt : Nat) : HealthCheck :=
  match healthCheckPayload localIp with
  | .error _ => s.conclude false
  | .ok _ => { s with place := .readying attempt }

variable [GrpcMessageData HealthCheckResponse] [GrpcMessageData ErrorResponse]

def isHealthy : Except Error Payload → Bool
  | .error _ => false
  | .ok response =>
    match GrpcMessage.fromPayload HealthCheckResponse response with
    | .ok _ => true
    | .error _ => false

def HealthCheck.step (s : HealthCheck) : HealthCheckEvent → Option HealthCheck
  | .tick =>
    match s.place with
    | .top => none
    | .readying _ => some { s with now := s.now + 1, waited := s.waited + 1 }
    | .stopped => some { s with now := s.now + 1 }
    | .sleeping due | .jittering _ due | .calling _ due =>
      if s.now < due then some { s with now := s.now + 1 } else none
  | .activity _ => some { s with lastActive := s.now }
  | .connected => some { s with svcHealth := true, lastActive := s.now }
  | .lost _ => some { s with svcHealth := false }
  | .drop => some { s with activeHealthCheck := false }
  | .check =>
    match s.place with
    | .top =>
      if !s.activeHealthCheck then some { s with place := .stopped }
      else if s.now - s.lastActive < healthCheckInterval then
        some { s with place := .sleeping (s.now + healthCheckInterval) }
      else some (s.begin localIp 0)
    | _ => none
  | .wake =>
    match s.place with
    | .sleeping due => if s.now = due then some { s with place := .top } else none
    | _ => none
  | .jittered =>
    match s.place with
    | .jittering attempt due => if s.now = due then some (s.begin localIp attempt) else none
    | _ => none
  | .ready result =>
    match s.place, result with
    | .readying attempt, .ok () =>
      some { s with
        place := .calling attempt (s.now + healthCheckRequestTimeout)
        calls := s.calls + 1 }
    | .readying _, .error _ => some (s.conclude false)
    | _, _ => none
  | .answered answer jitter =>
    match s.place with
    | .calling attempt _ =>
      if isHealthy answer then some (s.conclude true)
      else if jitter < jitterEnd then some (s.retry attempt jitter) else none
    | _ => none
  | .timeout jitter =>
    match s.place with
    | .calling attempt due =>
      if s.now = due ∧ jitter < jitterEnd then some (s.retry attempt jitter) else none
    | _ => none

end Task

/-! ## Timers -/

/-- The timer is no further off than the task sets it. -/
def HealthCheckAt.Timed (now : Nat) : HealthCheckAt → Prop
  | .top | .stopped => True
  | .sleeping due => now ≤ due ∧ due ≤ now + healthCheckInterval
  | .jittering attempt due =>
    (0 < attempt ∧ attempt < healthCheckRetryTimes) ∧ now ≤ due ∧ due < now + jitterEnd
  | .readying attempt => attempt < healthCheckRetryTimes
  | .calling attempt due =>
    attempt < healthCheckRetryTimes ∧ now ≤ due ∧ due ≤ now + healthCheckRequestTimeout

structure HealthCheck.Timed (s : HealthCheck) : Prop where
  lastActive : s.lastActive ≤ s.now
  place : s.place.Timed s.now
  stopped : s.place = .stopped → s.activeHealthCheck = false

theorem new_timed {now lastActive : Nat} (h : lastActive ≤ now) (svcHealth : Bool) :
    (HealthCheck.new now lastActive svcHealth).Timed where
  lastActive := h
  place := trivial
  stopped := by simp [HealthCheck.new]

theorem conclude_timed {s : HealthCheck} (h : s.Timed) (healthy : Bool) : (s.conclude healthy).Timed where
  lastActive := by
    cases healthy
    · exact h.lastActive
    · exact le_refl s.now
  place := by simp [HealthCheck.conclude, HealthCheckAt.Timed]
  stopped := by simp [HealthCheck.conclude]

theorem retry_timed {s : HealthCheck} (h : s.Timed) {attempt jitter : Nat} (hjitter : jitter < jitterEnd) :
    (s.retry attempt jitter).Timed := by
  unfold HealthCheck.retry
  split
  · next hattempt =>
    refine ⟨h.lastActive, ⟨⟨Nat.succ_pos _, hattempt⟩, ?_, ?_⟩, by simp⟩
    · exact Nat.le_add_right _ _
    · exact Nat.add_lt_add_left hjitter _
  · exact conclude_timed h false

/-- Who owns the task, and a flag that is cleared, are as before. -/
structure Flags (s s' : HealthCheck) : Prop where
  activeHealthCheck : s'.activeHealthCheck = s.activeHealthCheck
  svcHealth : s.svcHealth = false → s'.svcHealth = false

theorem conclude_flags (s : HealthCheck) (healthy : Bool) : Flags s (s.conclude healthy) where
  activeHealthCheck := rfl
  svcHealth := by
    intro h
    cases healthy <;> simp [HealthCheck.conclude, h]

theorem retry_flags (s : HealthCheck) (attempt jitter : Nat) : Flags s (s.retry attempt jitter) := by
  unfold HealthCheck.retry
  split
  · exact ⟨rfl, id⟩
  · exact conclude_flags s false

section Runs

variable [GrpcMessageData HealthCheckRequest] {localIp : String} {s s' : HealthCheck}
  {e : HealthCheckEvent}

theorem begin_timed (h : s.Timed) {attempt : Nat} (hattempt : attempt < healthCheckRetryTimes) :
    (s.begin localIp attempt).Timed := by
  unfold HealthCheck.begin
  split
  · exact conclude_timed h false
  · exact ⟨h.lastActive, hattempt, by simp⟩

theorem begin_flags (s : HealthCheck) (attempt : Nat) : Flags s (s.begin localIp attempt) := by
  unfold HealthCheck.begin
  split
  · exact conclude_flags s false
  · exact ⟨rfl, id⟩

theorem begin_encoded {payload : Payload} (h : healthCheckPayload localIp = .ok payload)
    (s : HealthCheck) (attempt : Nat) :
    s.begin localIp attempt = { s with place := .readying attempt } := by
  unfold HealthCheck.begin
  rw [h]

variable [GrpcMessageData HealthCheckResponse] [GrpcMessageData ErrorResponse]

/-! ## What an event does -/

/-- A step, by its event. -/
inductive HealthStepped (localIp : String) (s : HealthCheck) : HealthCheckEvent → HealthCheck → Prop
  | waited {attempt : Nat} : s.place = .readying attempt →
      HealthStepped localIp s .tick { s with now := s.now + 1, waited := s.waited + 1 }
  | ended : s.place = .stopped → HealthStepped localIp s .tick { s with now := s.now + 1 }
  | passed {due : Nat} : s.place.due = some due → s.now < due →
      HealthStepped localIp s .tick { s with now := s.now + 1 }
  | activity (sign : SignOfLife) :
      HealthStepped localIp s (.activity sign) { s with lastActive := s.now }
  | connected : HealthStepped localIp s .connected { s with svcHealth := true, lastActive := s.now }
  | lost (loss : FlagLoss) : HealthStepped localIp s (.lost loss) { s with svcHealth := false }
  | drop : HealthStepped localIp s .drop { s with activeHealthCheck := false }
  | stop : s.place = .top → s.activeHealthCheck = false →
      HealthStepped localIp s .check { s with place := .stopped }
  | rest : s.place = .top → s.activeHealthCheck = true →
      s.now - s.lastActive < healthCheckInterval →
      HealthStepped localIp s .check { s with place := .sleeping (s.now + healthCheckInterval) }
  | probe : s.place = .top → s.activeHealthCheck = true →
      healthCheckInterval ≤ s.now - s.lastActive →
      HealthStepped localIp s .check (s.begin localIp 0)
  | wake : s.place = .sleeping s.now → HealthStepped localIp s .wake { s with place := .top }
  | jittered {attempt : Nat} : s.place = .jittering attempt s.now →
      HealthStepped localIp s .jittered (s.begin localIp attempt)
  | ready {attempt : Nat} : s.place = .readying attempt →
      HealthStepped localIp s (.ready (.ok ())) { s with
        place := .calling attempt (s.now + healthCheckRequestTimeout)
        calls := s.calls + 1 }
  | notReady {attempt : Nat} (e : Error) : s.place = .readying attempt →
      HealthStepped localIp s (.ready (.error e)) (s.conclude false)
  | healthy {attempt due : Nat} {answer : Except Error Payload} (jitter : Nat) :
      s.place = .calling attempt due → isHealthy answer = true →
      HealthStepped localIp s (.answered answer jitter) (s.conclude true)
  | unhealthy {attempt due jitter : Nat} {answer : Except Error Payload} :
      s.place = .calling attempt due → isHealthy answer = false → jitter < jitterEnd →
      HealthStepped localIp s (.answered answer jitter) (s.retry attempt jitter)
  | timedOut {attempt jitter : Nat} : s.place = .calling attempt s.now → jitter < jitterEnd →
      HealthStepped localIp s (.timeout jitter) (s.retry attempt jitter)

theorem stepped (h : s.step localIp e = some s') : HealthStepped localIp s e s' := by
  cases e with
  | tick =>
    simp only [HealthCheck.step] at h
    split at h
    · cases h
    · next attempt hp =>
      cases h
      exact .waited hp
    · next hp =>
      cases h
      exact .ended hp
    all_goals
      next hp =>
      split at h
      · next hdue =>
        cases h
        exact .passed (by rw [hp]; rfl) hdue
      · cases h
  | activity sign =>
    cases h
    exact .activity sign
  | connected =>
    cases h
    exact .connected
  | lost loss =>
    cases h
    exact .lost loss
  | drop =>
    cases h
    exact .drop
  | check =>
    simp only [HealthCheck.step] at h
    split at h
    · next hp =>
      split at h
      · next hactive =>
        cases h
        exact .stop hp (by simpa using hactive)
      · next hactive =>
        split at h
        · next hidle =>
          cases h
          exact .rest hp (by simpa using hactive) hidle
        · next hidle =>
          cases h
          exact .probe hp (by simpa using hactive) (by omega)
    · cases h
  | wake =>
    simp only [HealthCheck.step] at h
    split at h
    · next due hp =>
      split at h
      · next hdue =>
        cases h
        exact .wake (hdue ▸ hp)
      · cases h
    · cases h
  | jittered =>
    simp only [HealthCheck.step] at h
    split at h
    · next attempt due hp =>
      split at h
      · next hdue =>
        cases h
        exact .jittered (hdue ▸ hp)
      · cases h
    · cases h
  | ready result =>
    simp only [HealthCheck.step] at h
    split at h
    · next attempt hp =>
      cases h
      exact .ready hp
    · next attempt e hp =>
      cases h
      exact .notReady e hp
    · cases h
  | answered answer jitter =>
    simp only [HealthCheck.step] at h
    split at h
    · next attempt due hp =>
      split at h
      · next hhealthy =>
        cases h
        exact .healthy jitter hp hhealthy
      · next hhealthy =>
        split at h
        · next hjitter =>
          cases h
          exact .unhealthy hp (by simpa using hhealthy) hjitter
        · cases h
    · cases h
  | timeout jitter =>
    simp only [HealthCheck.step] at h
    split at h
    · next attempt due hp =>
      split at h
      · next hdue =>
        cases h
        exact .timedOut (hdue.1 ▸ hp) hdue.2
      · cases h
    · cases h

theorem step_timed (hstep : s.step localIp e = some s') (h : s.Timed) : s'.Timed := by
  have hplace := h.place
  cases stepped hstep with
  | waited hp =>
    rw [hp] at hplace
    exact ⟨Nat.le_succ_of_le h.lastActive, by rw [hp]; exact hplace, by simp [hp]⟩
  | ended hp => exact ⟨Nat.le_succ_of_le h.lastActive, by simp [hp, HealthCheckAt.Timed], h.stopped⟩
  | passed hp hdue =>
    refine ⟨Nat.le_succ_of_le h.lastActive, ?_, h.stopped⟩
    cases hs : s.place <;> rw [hs] at hp hplace <;>
      simp only [HealthCheckAt.due, Option.some.injEq, reduceCtorEq] at hp <;>
      simp only [HealthCheckAt.Timed] at hplace ⊢ <;> omega
  | activity => exact ⟨le_refl s.now, hplace, h.stopped⟩
  | connected => exact ⟨le_refl s.now, hplace, h.stopped⟩
  | lost => exact ⟨h.lastActive, hplace, h.stopped⟩
  | drop => exact ⟨h.lastActive, hplace, fun _ => rfl⟩
  | stop hp hactive => exact ⟨h.lastActive, trivial, fun _ => hactive⟩
  | rest hp hactive hidle => exact ⟨h.lastActive, ⟨Nat.le_add_right _ _, le_refl _⟩, by simp⟩
  | probe hp hactive hidle => exact begin_timed h (by decide)
  | wake hp => exact ⟨h.lastActive, trivial, by simp⟩
  | jittered hp =>
    rw [hp] at hplace
    exact begin_timed h hplace.1.2
  | ready hp =>
    rw [hp] at hplace
    exact ⟨h.lastActive, ⟨hplace, Nat.le_add_right _ _, le_refl _⟩, by simp⟩
  | notReady e hp => exact conclude_timed h false
  | healthy jitter hp hhealthy => exact conclude_timed h true
  | unhealthy hp hunhealthy hjitter => exact retry_timed h hjitter
  | timedOut hp hjitter => exact retry_timed h hjitter

theorem step_flags (hstep : s.step localIp e = some s') (hconnected : e ≠ .connected)
    (hdrop : e ≠ .drop) : Flags s s' := by
  cases stepped hstep with
  | connected => exact absurd rfl hconnected
  | drop => exact absurd rfl hdrop
  | waited | ended | passed | activity | stop | rest | wake | ready => exact ⟨rfl, id⟩
  | lost => exact ⟨rfl, fun _ => rfl⟩
  | probe | jittered => exact begin_flags s _
  | notReady | healthy => exact conclude_flags s _
  | unhealthy | timedOut => exact retry_flags s _ _

theorem stopped_kept (hstep : s.step localIp e = some s') (h : s.place = .stopped) :
    s'.place = .stopped ∧ s'.calls = s.calls := by
  cases e with
  | tick =>
    simp only [HealthCheck.step, h] at hstep
    cases hstep
    exact ⟨rfl, rfl⟩
  | activity | connected | lost | drop =>
    cases hstep
    exact ⟨h, rfl⟩
  | check | wake | jittered | ready | answered | timeout => simp [HealthCheck.step, h] at hstep

/-- Time passes in a state that lets it. -/
theorem ticks_reach {ok : HealthCheck → HealthCheckEvent → Prop} (hok : ∀ s, ok s .tick) (n : Nat)
    (h : ∀ k < n, { s with now := s.now + k }.step localIp .tick =
      some { s with now := s.now + (k + 1) }) :
    Reaches (HealthCheck.step localIp) ok s (List.replicate n .tick) { s with now := s.now + n } :=
  replicate_reaches (fun k => { s with now := s.now + k }) n (fun _ _ => hok _) h

theorem tick_sleeping {due : Nat} (hp : s.place = .sleeping due) {k : Nat}
    (hk : s.now + k < due) : { s with now := s.now + k }.step localIp .tick =
      some { s with now := s.now + (k + 1) } := by
  simp only [HealthCheck.step, hp, if_pos hk, Nat.add_assoc]

theorem run_timed {now lastActive : Nat} {svcHealth : Bool} {before : List HealthCheckEvent}
    (h : Reaches (HealthCheck.step localIp) anyStep (HealthCheck.new now lastActive svcHealth)
      before s) (hstart : lastActive ≤ now) : s.Timed :=
  h.invariant (fun _ _ _ _ hstep => step_timed hstep) (new_timed hstart svcHealth)

end Runs

end NacosSdk.Remote
