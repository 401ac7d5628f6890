import NacosSdk.Remote.HealthBudget

/-!
# The pace of the health check

Proved here, for every run of the task:

* `step_paced`: what one step does to the requests that were sent;
* `healthCheck_paced`: how often a connection is probed, and when that ends.
-/

namespace NacosSdk.Remote
open NacosSdk.Common NacosSdk.Lib.Run

/-- The requests of the attempts that are under way. -/
def HealthCheckAt.roundCalls : HealthCheckAt → Nat
  | .jittering attempt _ | .readying attempt => attempt
  | .calling attempt _ => attempt + 1
  | .top | .sleeping _ | .stopped => 0

/-- The time up to which the task sends nothing. -/
def HealthCheck.quietUntil (s : HealthCheck) : Nat :=
  match s.place with
  | .sleeping due => due
  | _ => s.now

/-- Since `begun`, when `before` requests had been sent, `rounds` rounds have
ended, each with no more requests than there are attempts and a pause of an
interval after it. -/
structure HealthCheck.Paced (begun before rounds : Nat) (s : HealthCheck) : Prop where
  started : begun + healthCheckInterval * rounds ≤ s.quietUntil
  counted : s.calls ≤ before + healthCheckRetryTimes * rounds + s.place.roundCalls

theorem conclude_paced {s : HealthCheck} {begun before rounds : Nat}
    (h : s.Paced begun before rounds) (hplace : s.quietUntil = s.now)
    (hround : s.place.roundCalls ≤ healthCheckRetryTimes) (healthy : Bool) :
    (s.conclude healthy).Paced begun before (rounds + 1) where
  started := by
    have hstarted := h.started
    rw [hplace] at hstarted
    simp only [HealthCheck.conclude, HealthCheck.quietUntil, healthCheckInterval] at *
    omega
  counted := by
    have hcounted := h.counted
    simp only [HealthCheck.conclude, HealthCheckAt.roundCalls, healthCheckRetryTimes] at *
    omega

theorem retry_paced {s : HealthCheck} {begun before rounds attempt due jitter : Nat}
    (hs : s.Timed) (h : s.Paced begun before rounds) (hp : s.place = .calling attempt due) :
    ∃ rounds', (s.retry attempt jitter).Paced begun before rounds' := by
  have hplace := hs.place
  rw [hp] at hplace
  unfold HealthCheck.retry
  split
  · refine ⟨rounds, ?_, ?_⟩
    · have hstarted := h.started
      simpa only [HealthCheck.quietUntil, hp] using hstarted
    · have hcounted := h.counted
      simpa only [hp, HealthCheckAt.roundCalls] using hcounted
  · refine ⟨rounds + 1, conclude_paced h ?_ ?_ false⟩
    · simp only [HealthCheck.quietUntil, hp]
    · rw [hp]
      exact hplace.1

/-- The rounds that have begun fit into the time. -/
theorem paced_now {s : HealthCheck} {begun before rounds : Nat} (hs : s.Timed)
    (h : s.Paced begun before rounds) :
    s.calls ≤ before +
      healthCheckRetryTimes * ((s.now - begun) / healthCheckInterval + 1) := by
  have hplace := hs.place
  have hstarted := h.started
  have hcounted := h.counted
  unfold HealthCheck.quietUntil healthCheckInterval at hstarted
  unfold healthCheckRetryTimes healthCheckInterval at *
  cases hp : s.place with
  | top | stopped =>
    simp only [hp, HealthCheckAt.roundCalls] at hstarted hcounted
    omega
  | sleeping due =>
    rw [hp] at hplace
    have hdue : due ≤ s.now + 5000 := hplace.2
    simp only [hp, HealthCheckAt.roundCalls] at hstarted hcounted
    omega
  | jittering attempt due =>
    rw [hp] at hplace
    have hattempt : attempt < 3 := hplace.1.2
    simp only [hp, HealthCheckAt.roundCalls] at hstarted hcounted
    omega
  | readying attempt =>
    rw [hp] at hplace
    have hattempt : attempt < 3 := hplace
    simp only [hp, HealthCheckAt.roundCalls] at hstarted hcounted
    omega
  | calling attempt due =>
    rw [hp] at hplace
    have hattempt : attempt < 3 := hplace.1
    simp only [hp, HealthCheckAt.roundCalls] at hstarted hcounted
    omega

section Runs

variable [GrpcMessageData HealthCheckRequest] {localIp : String} {s s' : HealthCheck}
  {e : HealthCheckEvent}

theorem begin_paced {begun before rounds attempt : Nat} (h : s.Paced begun before rounds)
    (hplace : s.quietUntil = s.now) (hround : s.place.roundCalls = attempt)
    (hattempt : attempt ≤ healthCheckRetryTimes) :
    ∃ rounds', (s.begin localIp attempt).Paced begun before rounds' := by
  unfold HealthCheck.begin
  split
  · exact ⟨rounds + 1, conclude_paced h hplace (hround ▸ hattempt) false⟩
  · refine ⟨rounds, ?_, ?_⟩
    · have hstarted := h.started
      rwa [hplace] at hstarted
    · have hcounted := h.counted
      rwa [hround] at hcounted

variable [GrpcMessageData HealthCheckResponse] [GrpcMessageData ErrorResponse]

theorem step_paced {begun before rounds : Nat} (hstep : s.step localIp e = some s')
    (hs : s.Timed) (h : s.Paced begun before rounds) :
    ∃ rounds', s'.Paced begun before rounds' := by
  have hplace := hs.place
  have hcounted := h.counted
  have hstarted := h.started
  cases stepped hstep with
  | waited hp | ended hp =>
    refine ⟨rounds, ?_, hcounted⟩
    simp only [HealthCheck.quietUntil, hp] at *
    omega
  | passed hp hdue =>
    refine ⟨rounds, ?_, hcounted⟩
    cases hs : s.place with
    | sleeping due | jittering attempt due | calling attempt due =>
      simp only [HealthCheck.quietUntil, hs] at *
      omega
    | top | readying attempt | stopped =>
      rw [hs] at hp
      cases hp
  | activity | connected | lost | drop => exact ⟨rounds, hstarted, hcounted⟩
  | stop hp | rest hp | wake hp =>
    simp only [HealthCheck.quietUntil, hp, HealthCheckAt.roundCalls] at hstarted hcounted
    refine ⟨rounds, ?_, ?_⟩
    · simp only [HealthCheck.quietUntil]
      omega
    · simpa only [HealthCheckAt.roundCalls] using hcounted
  | probe hp =>
    exact begin_paced h (by simp only [HealthCheck.quietUntil, hp]) (by rw [hp]; rfl) (by decide)
  | jittered hp =>
    rw [hp] at hplace
    exact begin_paced h (by simp only [HealthCheck.quietUntil, hp]) (by rw [hp]; rfl)
      (Nat.le_of_lt hplace.1.2)
  | ready hp =>
    simp only [HealthCheck.quietUntil, hp, HealthCheckAt.roundCalls] at hstarted hcounted
    refine ⟨rounds, ?_, ?_⟩
    · simpa only [HealthCheck.quietUntil] using hstarted
    · simp only [HealthCheckAt.roundCalls]
      omega
  | notReady e hp =>
    rw [hp] at hplace
    refine ⟨rounds + 1, conclude_paced h ?_ ?_ false⟩
    · simp only [HealthCheck.quietUntil, hp]
    · rw [hp]
      exact Nat.le_of_lt hplace
  | healthy jitter hp =>
    rw [hp] at hplace
    refine ⟨rounds + 1, conclude_paced h ?_ ?_ true⟩
    · simp only [HealthCheck.quietUntil, hp]
    · rw [hp]
      exact hplace.1
  | unhealthy hp | timedOut hp => exact retry_paced hs h hp

/-- **Pace.** Between any two states of the task the requests are at most as many
as there are attempts for each interval begun; and the task of a dropped
connection has ended an interval and the longest attempts later, not counting the
time it waits to send, and then sends nothing more. -/
theorem healthCheck_paced {now lastActive : Nat} {svcHealth : Bool}
    {before : List HealthCheckEvent} (hstart : lastActive ≤ now)
    (h : Reaches (HealthCheck.step localIp) anyStep (HealthCheck.new now lastActive svcHealth)
      before s) :
    (∀ es t, Reaches (HealthCheck.step localIp) anyStep s es t →
      t.calls ≤ s.calls +
        healthCheckRetryTimes * ((t.now - s.now) / healthCheckInterval + 1)) ∧
    (∀ es t, s.activeHealthCheck = false → Reaches (HealthCheck.step localIp) anyStep s es t →
      s.now + (healthCheckInterval + probeTime 0) + t.waited < t.now + s.waited →
      t.place = .stopped ∧
        ∀ later u, Reaches (HealthCheck.step localIp) anyStep t later u → u.calls = t.calls) := by
  have hs := run_timed h hstart
  refine ⟨?_, ?_⟩
  · intro es t hrun
    have hbegun : ∃ rounds, s.Paced s.now s.calls rounds := by
      refine ⟨0, ?_, by omega⟩
      unfold HealthCheck.quietUntil
      cases hp : s.place with
      | sleeping due =>
        have hplace := hs.place
        rw [hp] at hplace
        exact hplace.1
      | top | jittering | readying | calling | stopped => exact le_refl _
    have hrounds : t.Timed ∧ ∃ rounds, t.Paced s.now s.calls rounds := by
      refine hrun.invariant (I := fun t => t.Timed ∧ ∃ rounds, t.Paced s.now s.calls rounds)
        ?_ ⟨hs, hbegun⟩
      rintro _ _ _ _ hstep ⟨htimed, rounds, hpaced⟩
      exact ⟨step_timed hstep htimed, step_paced hstep htimed hpaced⟩
    obtain ⟨htimed, rounds, hpaced⟩ := hrounds
    exact paced_now htimed hpaced
  · intro es t hdropped hrun hlate
    have hstopped := dropped_late hrun hs hdropped hlate
    refine ⟨hstopped, fun later u hlater => ?_⟩
    have hkept := hlater.invariant (I := fun u => u.place = .stopped ∧ u.calls = t.calls)
      (fun _ _ _ _ hstep hi => ⟨(stopped_kept hstep hi.1).1,
        (stopped_kept hstep hi.1).2.trans hi.2⟩) ⟨hstopped, rfl⟩
    exact hkept.2

end Runs

/-- Three attempts at once, each answered with an error. -/
def failedAttempts (e : Error) : List HealthCheckEvent :=
  [.ready (.ok ()), .answered (.error e) 0, .jittered, .ready (.ok ()), .answered (.error e) 0,
    .jittered, .ready (.ok ()), .answered (.error e) 0]

/-- The state after `rounds` rounds of failed attempts, the first of them 5 s after
the last answer. -/
def afterRounds (rounds : Nat) (activeHealthCheck : Bool) : HealthCheck where
  now := healthCheckInterval * rounds
  lastActive := 0
  svcHealth := false
  activeHealthCheck
  place := .sleeping (healthCheckInterval * (rounds + 1))
  calls := healthCheckRetryTimes * rounds
  waited := 0

/-- Two rounds of probes within an interval, six requests in all; the connection is
dropped after them, and 20 s later the task has ended. -/
theorem healthCheck_paced_dropped :
    letI := healthCheckCodec
    letI := healthyCodec
    letI := failCodec
    ∃ es t later u, Reaches (HealthCheck.step "10.0.0.7") anyStep
        (HealthCheck.new healthCheckInterval 0 true) es t ∧
      t.now - healthCheckInterval = healthCheckInterval ∧ t.calls = 6 ∧
      t.calls ≤ 0 + healthCheckRetryTimes *
        ((t.now - healthCheckInterval) / healthCheckInterval + 1) ∧
      Reaches (HealthCheck.step "10.0.0.7") anyStep t later u ∧ u.place = .stopped := by
  let _ := healthCheckCodec
  let _ := healthyCodec
  let _ := failCodec
  let e := Error.errResult "the connection is not connected"
  have hfirst : Reaches (HealthCheck.step "10.0.0.7") anyStep
      (HealthCheck.new healthCheckInterval 0 true) (.check :: failedAttempts e)
      (afterRounds 1 true) := run_reaches rfl
  have hsleep := fun rounds active => @ticks_reach _ "10.0.0.7" (afterRounds rounds active) _ _
    anyStep (fun _ => trivial) healthCheckInterval
    fun k hk => tick_sleeping rfl (Nat.add_lt_add_left hk (healthCheckInterval * rounds))
  have hsecond : Reaches (HealthCheck.step "10.0.0.7") anyStep
      { afterRounds 1 true with now := 2 * healthCheckInterval }
      (.wake :: .check :: failedAttempts e ++ [.drop]) (afterRounds 2 false) := run_reaches rfl
  have hend : Reaches (HealthCheck.step "10.0.0.7") anyStep
      { afterRounds 2 false with now := 3 * healthCheckInterval } [.wake, .check]
      { afterRounds 2 false with now := 3 * healthCheckInterval, place := .stopped } :=
    run_reaches rfl
  have hafter := @ticks_reach _ "10.0.0.7"
    { afterRounds 2 false with now := 3 * healthCheckInterval, place := .stopped } _ _ anyStep
    (fun _ => trivial) 15000 fun _ _ => rfl
  have hprobes := (hfirst.append (hsleep 1 true)).append hsecond
  have hlater := ((hsleep 2 false).append hend).append hafter
  have hpace := (healthCheck_paced (Nat.zero_le _) (Reaches.refl _)).1 _ _ hprobes
  have hdropped := (healthCheck_paced (Nat.zero_le _) hprobes).2 _ _ rfl hlater (by decide)
  exact ⟨_, _, _, _, hprobes, rfl, rfl, hpace, hlater, hdropped.1⟩

end NacosSdk.Remote
