import Mathlib.Algebra.Group.Nat.Defs
import NacosSdk.Lib.Run
import NacosSdk.Remote.PollReady

/-!
# The pauses between connection attempts

`NacosGrpcConnection` on a clock in milliseconds. A sleep is over when its time
has passed; what the other futures answer, when the connection is polled and when
the health flag is cleared is left open. Proved here, for every run:

* `backoff_eq`: how long the pauses are together;
* `backoff_law`: attempts keep at least these pauses, and no pause is longer than
  the longest one;
* `recovery_law`: the connection comes back after one pause, once its surroundings
  do.
-/

namespace NacosSdk.Remote
open NacosSdk.Common NacosSdk.Lib.Run

/-! ## The pauses -/

/-- The pause after failure `n`, in milliseconds. -/
def pause (n : Nat) : Nat := 1000 * (sleepTime (UInt32.ofNat n)).toNat

/-- The first `n` pauses together. -/
def backoff : Nat → Nat
  | 0 => 0
  | n + 1 => backoff n + pause (n + 1)

def longestPause : Nat := 64000

theorem sleepTime_toNat (retryCount : UInt32) :
    (sleepTime retryCount).toNat = 2 ^ min retryCount.toNat 6 := by
  unfold sleepTime
  split
  · next hlarge =>
    have hmin : min retryCount.toNat 6 = 6 := by
      have hto : 6 < retryCount.toNat := UInt32.lt_iff_toNat_lt.mp hlarge
      omega
    rw [hmin]
    rfl
  · next hsmall =>
    have hto : retryCount.toNat ≤ 6 := UInt32.le_iff_toNat_le.mp (UInt32.not_lt.mp hsmall)
    have hall : ∀ k < 7, ((1 : UInt32) <<< UInt32.ofNat k).toNat = 2 ^ min k 6 := by decide
    have hone := hall retryCount.toNat (by omega)
    rwa [UInt32.ofNat_toNat] at hone

theorem pause_le (n : Nat) : pause n ≤ longestPause := by
  unfold pause longestPause
  rw [sleepTime_toNat]
  have hpow : 2 ^ min (UInt32.ofNat n).toNat 6 ≤ 2 ^ 6 :=
    Nat.pow_le_pow_right (by decide) (Nat.min_le_right _ _)
  omega

theorem pause_eq {n : Nat} (h : n < 2 ^ 32) : pause n = 1000 * 2 ^ min n 6 := by
  unfold pause
  rw [sleepTime_toNat, UInt32.toNat_ofNat_of_lt' h]

/-- The pauses double until the sixth and then stay as they are. -/
theorem backoff_eq {n : Nat} (h : n < 2 ^ 32) :
    backoff n = if n ≤ 6 then 1000 * (2 ^ (n + 1) - 2) else 1000 * (64 * n - 258) := by
  induction n with
  | zero => rfl
  | succ n ih =>
    rw [backoff, ih (by omega), pause_eq h]
    by_cases hsmall : n + 1 ≤ 6
    · rw [if_pos (by omega), if_pos hsmall, Nat.min_eq_left hsmall]
      have hpow : 2 ^ (n + 1 + 1) = 2 * 2 ^ (n + 1) := Nat.pow_succ'
      have hpos : 2 ≤ 2 ^ (n + 1) := Nat.le_self_pow (by omega) 2
      omega
    · rw [if_neg hsmall, Nat.min_eq_right (by omega)]
      by_cases hsix : n = 6
      · subst hsix
        decide
      · rw [if_neg (by omega)]
        omega

theorem backoff_mono {m n : Nat} (h : m ≤ n) : backoff m ≤ backoff n := by
  induction h with
  | refl => exact Nat.le_refl _
  | step _ ih => exact Nat.le_trans ih (Nat.le_add_right _ _)

/-! ## A connection on a clock -/

/-- A connection with its clock and with counts that its code does not read. -/
structure Clocked where
  conn : NacosGrpcConnection
  now : Nat
  /-- When the last sleep is over. -/
  wakeAt : Nat
  /-- The failures and the attempts in a row, and since when: the start, the last
  initialisation or the last time the connection gave up. -/
  failures : Nat
  attempts : Nat
  since : Nat

def Clocked.new (maxRetries : Option UInt32) (now : Nat) : Clocked where
  conn := NacosGrpcConnection.new maxRetries
  now := now
  wakeAt := now
  failures := 0
  attempts := 0
  since := now

/-- The sleep is polled by the clock. -/
def Clocked.polls (s : Clocked) (polls : Polls) : Polls :=
  { polls with sleep := if s.wakeAt ≤ s.now then .ready () else .pending }

/-- A row of failures ends before the pass to `c`. -/
def Clocked.restarts (s : Clocked) (c : NacosGrpcConnection) : Bool :=
  s.conn.givesUp || initCompleted s.conn c

/-- The clock and the counts after the pass to `c`. -/
def Clocked.passed (s : Clocked) (c : NacosGrpcConnection) : Clocked where
  conn := c
  now := s.now
  wakeAt :=
    match c.state with
    | .retry sleep => if s.conn.state.isRetry then s.wakeAt else s.now + 1000 * sleep.toNat
    | _ => s.wakeAt
  failures :=
    if s.restarts c then 0
    else s.failures + (!s.conn.state.isRetry && c.state.isRetry).toNat
  attempts :=
    if s.restarts c then 0
    else s.attempts + (decide (s.conn.state = .idle) && decide (c.state = .connecting)).toNat
  since := if s.restarts c then s.now else s.since

inductive ClockEvent where
  | tick
  | pass (polls : Polls)
  | clearHealth

def Clocked.step (s : Clocked) : ClockEvent → Option Clocked
  | .tick => some { s with now := s.now + 1 }
  | .pass polls => some (s.passed (s.conn.pass (s.polls polls)).1)
  | .clearHealth => some { s with conn := s.conn.clearHealth }

/-! ## What a pass does to the clock -/

/-- A future that the pass may poll has failed. -/
def Polls.Fails (polls : Polls) : Prop :=
  ∃ e, polls.makeService = .ready (.error e) ∨ polls.init = .ready (.error e) ∨
    polls.service = .ready (.error e)

/-- What a pass that waits has found. -/
def Clocked.Waits (s : Clocked) (polls : Polls) : Prop :=
  match s.conn.state with
  | .idle => False
  | .connecting => polls.makeService = .pending
  | .initializing => polls.init = .pending
  | .connected => True
  | .retry _ => s.now < s.wakeAt

/-- All that a pass can do, each with the state that it is taken in. -/
inductive ClockPassed (s : Clocked) (polls : Polls) : Clocked → Prop
  | gaveUp : s.conn.givesUp = true → ClockPassed s polls { s with
      conn := { s.conn with retryCount := 0 }
      failures := 0
      attempts := 0
      since := s.now }
  | waited : s.Waits polls → ClockPassed s polls s
  | started : s.conn.state = .idle → ClockPassed s polls { s with
      conn := { s.conn with
        connectionIdWatcher := s.conn.connectionIdWatcher.send none
        state := .connecting }
      attempts := s.attempts + 1 }
  | linked : s.conn.state = .connecting →
      ClockPassed s polls { s with conn := { s.conn with state := .initializing } }
  | failed (health : Bool) : s.conn.state.isRetry = false →
      polls.Fails ∨ s.conn.state = .connected ∧ s.conn.health = false →
      ClockPassed s polls { s with
        conn := { s.conn with health }.toRetry
        wakeAt := s.now + 1000 * (sleepTime (s.conn.retryCount + 1)).toNat
        failures := s.failures + 1 }
  | initialized (id : String) : s.conn.state = .initializing → ClockPassed s polls { s with
      conn := { s.conn with
        connectionIdWatcher := s.conn.connectionIdWatcher.send (some id)
        retryCount := 0
        health := true
        isInitialized := true
        state := .connected
        connectionId := some id }
      failures := 0
      attempts := 0
      since := s.now }
  | slept : s.conn.state.isRetry = true → s.wakeAt ≤ s.now →
      ClockPassed s polls { s with conn := { s.conn with state := .idle } }

theorem passed_waited {s : Clocked} (hgives : s.conn.givesUp = false) : s.passed s.conn = s := by
  cases hstate : s.conn.state <;>
    simp [Clocked.passed, Clocked.restarts, initCompleted, hgives, hstate, State.isRetry]

theorem passed_gaveUp {s : Clocked} (hgives : s.conn.givesUp = true) :
    s.passed { s.conn with retryCount := 0 } = { s with
      conn := { s.conn with retryCount := 0 }
      failures := 0
      attempts := 0
      since := s.now } := by
  cases hstate : s.conn.state <;>
    simp [Clocked.passed, Clocked.restarts, hgives, hstate, State.isRetry]

theorem passed_failure {s : Clocked} (hgives : s.conn.givesUp = false)
    (hretry : s.conn.state.isRetry = false) (health : Bool) :
    s.passed { s.conn with health }.toRetry = { s with
      conn := { s.conn with health }.toRetry
      wakeAt := s.now + 1000 * (sleepTime (s.conn.retryCount + 1)).toNat
      failures := s.failures + 1 } := by
  have hrestarts : s.restarts { s.conn with health }.toRetry = false := by
    simp [Clocked.restarts, initCompleted, NacosGrpcConnection.toRetry, hgives]
  simp only [Clocked.passed, hrestarts, hretry]
  simp [NacosGrpcConnection.toRetry, State.isRetry]

theorem clock_passed (s : Clocked) (polls : Polls) :
    ClockPassed s polls (s.passed (s.conn.pass (s.polls polls)).1) := by
  cases hgives : s.conn.givesUp with
  | true =>
    have hpass : (s.conn.pass (s.polls polls)).1 = { s.conn with retryCount := 0 } := by
      simp [NacosGrpcConnection.pass, hgives]
    rw [hpass, passed_gaveUp hgives]
    exact .gaveUp hgives
  | false =>
    have hwaited : s.Waits polls → ClockPassed s polls (s.passed s.conn) := by
      intro hwaits
      rw [passed_waited hgives]
      exact .waited hwaits
    have hfailed : s.conn.state.isRetry = false →
        polls.Fails ∨ s.conn.state = .connected ∧ s.conn.health = false → ∀ health,
          ClockPassed s polls (s.passed { s.conn with health }.toRetry) := by
      intro hretry hcause health
      rw [passed_failure hgives hretry]
      exact .failed health hretry hcause
    simp only [NacosGrpcConnection.pass, hgives, Bool.false_eq_true, if_false,
      NacosGrpcConnection.attend, Clocked.polls]
    cases hstate : s.conn.state with
    | idle =>
      have hpassed : ClockPassed s polls _ := .started hstate
      simpa [Clocked.passed, Clocked.restarts, initCompleted, hgives, hstate, State.isRetry]
        using hpassed
    | connecting =>
      rcases hp : polls.makeService with _ | e | _
      · exact hwaited (by simp [Clocked.Waits, hstate, hp])
      · exact hfailed (by rw [hstate]; rfl) (Or.inl ⟨e, Or.inl hp⟩) s.conn.health
      · have hpassed : ClockPassed s polls _ := .linked hstate
        simpa [Clocked.passed, Clocked.restarts, initCompleted, hgives, hstate, State.isRetry]
          using hpassed
    | initializing =>
      rcases hp : polls.init with _ | e | id
      · exact hwaited (by simp [Clocked.Waits, hstate, hp])
      · exact hfailed (by rw [hstate]; rfl) (Or.inl ⟨e, Or.inr (Or.inl hp)⟩) s.conn.health
      · have hpassed : ClockPassed s polls _ := .initialized id hstate
        simpa [Clocked.passed, Clocked.restarts, initCompleted, hgives, hstate, State.isRetry]
          using hpassed
    | connected =>
      have hwaits : s.Waits polls := by simp [Clocked.Waits, hstate]
      rcases hp : polls.service with _ | e | _
      · exact hwaited hwaits
      · exact hfailed (by rw [hstate]; rfl) (Or.inl ⟨e, Or.inr (Or.inr hp)⟩) false
      · cases hh : s.conn.health with
        | false => exact hfailed (by rw [hstate]; rfl) (Or.inr ⟨hstate, hh⟩) s.conn.health
        | true => exact hwaited hwaits
    | retry n =>
      by_cases hawake : s.wakeAt ≤ s.now
      · have hpassed : ClockPassed s polls _ := .slept (by rw [hstate]; rfl) hawake
        simpa [hawake, Clocked.passed, Clocked.restarts, initCompleted, hgives, hstate,
          State.isRetry] using hpassed
      · simpa [hawake] using hwaited (by simpa [Clocked.Waits, hstate] using hawake)

/-! ## Attempts keep the pauses -/

/-- An attempt is under way. -/
def State.attempting : State → Bool
  | .connecting | .initializing => true
  | .idle | .connected | .retry _ => false

structure Clocked.Paced (s : Clocked) : Prop where
  count : s.conn.retryCount = UInt32.ofNat s.failures
  /-- The last failure came after all pauses but the last one. -/
  failed : s.since + backoff (s.failures - 1) ≤ s.now
  /-- The last pause is over, or the connection sleeps until it is. -/
  paused : s.since + backoff s.failures ≤
    if s.conn.state.isRetry then max s.now s.wakeAt else s.now
  attempts : s.attempts ≤ s.failures + s.conn.state.attempting.toNat
  sleeps : s.conn.state.isRetry = true → s.wakeAt ≤ s.now + longestPause

theorem clock_new_paced (maxRetries : Option UInt32) (now : Nat) : (Clocked.new maxRetries now).Paced where
  count := rfl
  failed := Nat.le_refl _
  paused := Nat.le_refl _
  attempts := Nat.zero_le _
  sleeps := nofun

theorem clock_tick_paced {s : Clocked} (h : s.Paced) : { s with now := s.now + 1 }.Paced := by
  obtain ⟨hcount, hfailed, hpaused, hattempts, hsleeps⟩ := h
  refine ⟨hcount, Nat.le_succ_of_le hfailed, ?_, hattempts, fun hretry => ?_⟩
  · simp only at hpaused ⊢
    split at hpaused
    · next hretry =>
      rw [if_pos hretry]
      omega
    · next hretry =>
      rw [if_neg hretry]
      omega
  · have hsleep := hsleeps hretry
    simp only
    omega

theorem failed_paced {s : Clocked} (h : s.Paced) (hretry : s.conn.state.isRetry = false)
    (health : Bool) :
    { s with
      conn := { s.conn with health }.toRetry
      wakeAt := s.now + 1000 * (sleepTime (s.conn.retryCount + 1)).toNat
      failures := s.failures + 1 }.Paced := by
  obtain ⟨hcount, hfailed, hpaused, hattempts, hsleeps⟩ := h
  rw [hretry] at hpaused
  have hnext : s.conn.retryCount + 1 = UInt32.ofNat (s.failures + 1) := by
    rw [hcount, UInt32.ofNat_add]
    rfl
  have hpause : 1000 * (sleepTime (s.conn.retryCount + 1)).toNat = pause (s.failures + 1) := by
    rw [hnext]
    rfl
  have hlong := pause_le (s.failures + 1)
  have hbackoff : backoff (s.failures + 1) = backoff s.failures + pause (s.failures + 1) := rfl
  refine ⟨hnext, hpaused, ?_, ?_, fun _ => ?_⟩
  · simp only [hpause, NacosGrpcConnection.toRetry, State.isRetry, if_true, hbackoff]
    simp only [Bool.false_eq_true, if_false] at hpaused
    omega
  · have hone : s.conn.state.attempting.toNat ≤ 1 := Bool.toNat_le _
    simp only [NacosGrpcConnection.toRetry, State.attempting, Bool.toNat_false]
    omega
  · simp only [hpause]
    omega

theorem clock_pass_paced {s s' : Clocked} {polls : Polls} (h : s.Paced) (hpass : ClockPassed s polls s') : s'.Paced := by
  obtain ⟨hcount, hfailed, hpaused, hattempts, hsleeps⟩ := h
  cases hpass with
  | gaveUp _ =>
    refine ⟨rfl, Nat.le_refl _, ?_, Nat.zero_le _, hsleeps⟩
    simp only [backoff]
    split <;> omega
  | waited _ => exact ⟨hcount, hfailed, hpaused, hattempts, hsleeps⟩
  | started hstate =>
    rw [hstate] at hpaused hattempts
    exact ⟨hcount, hfailed, hpaused, Nat.succ_le_succ hattempts, nofun⟩
  | linked hstate =>
    rw [hstate] at hpaused hattempts
    exact ⟨hcount, hfailed, hpaused, hattempts, nofun⟩
  | failed health hretry _ =>
    exact failed_paced ⟨hcount, hfailed, hpaused, hattempts, hsleeps⟩ hretry health
  | initialized id _ => exact ⟨rfl, Nat.le_refl _, Nat.le_refl _, Nat.zero_le _, nofun⟩
  | slept hretry hawake =>
    rw [if_pos hretry, Nat.max_eq_left hawake] at hpaused
    refine ⟨hcount, hfailed, hpaused, ?_, nofun⟩
    have hnone : s.conn.state.attempting = false := by
      obtain ⟨n, hstate⟩ := exists_of_isRetry hretry
      rw [hstate]
      rfl
    rw [hnone] at hattempts
    exact hattempts

theorem clock_step_paced {s s' : Clocked} {e : ClockEvent} (hstep : s.step e = some s') (h : s.Paced) :
    s'.Paced := by
  cases e with
  | tick =>
    cases hstep
    exact clock_tick_paced h
  | pass polls =>
    cases hstep
    exact clock_pass_paced h (clock_passed s polls)
  | clearHealth =>
    cases hstep
    exact ⟨h.count, h.failed, h.paused, h.attempts, h.sleeps⟩

theorem paced_kept {s : Clocked} (h : s.Paced) : s.since + backoff (s.attempts - 1) ≤ s.now := by
  have hattempts := h.attempts
  cases hattempting : s.conn.state.attempting with
  | true =>
    have hretry : s.conn.state.isRetry = false := by
      cases hstate : s.conn.state with
      | retry n =>
        rw [hstate] at hattempting
        cases hattempting
      | idle | connecting | initializing | connected => rfl
    have hpaused := h.paused
    rw [hretry] at hpaused
    rw [hattempting] at hattempts
    have hmono := backoff_mono (Nat.sub_le_of_le_add hattempts)
    exact Nat.le_trans (Nat.add_le_add_left hmono _) hpaused
  | false =>
    rw [hattempting] at hattempts
    have hmono := backoff_mono (Nat.sub_le_sub_right hattempts 1)
    exact Nat.le_trans (Nat.add_le_add_left hmono _) h.failed

/-- **Backoff.** In every run, the attempts since the last success keep the pauses
that double up to the longest one, and no sleep ends later than one longest pause
from now. -/
theorem backoff_law {maxRetries : Option UInt32} {start : Nat} {es : List ClockEvent} {t : Clocked}
    (h : Reaches Clocked.step anyStep (Clocked.new maxRetries start) es t) :
    (t.attempts < 2 ^ 32 → t.since + (if t.attempts ≤ 7 then 1000 * (2 ^ t.attempts - 2)
      else 1000 * (64 * t.attempts - 322)) ≤ t.now) ∧
    (t.conn.state.isRetry = true → t.wakeAt ≤ t.now + longestPause) := by
  have hpaced : t.Paced :=
    h.invariant (fun _ _ _ _ hstep => clock_step_paced hstep) (clock_new_paced maxRetries start)
  refine ⟨fun hcount => ?_, hpaced.sleeps⟩
  have hkept := paced_kept hpaced
  rw [backoff_eq (by omega)] at hkept
  cases hattempts : t.attempts with
  | zero =>
    rw [hattempts] at hkept
    simpa using hkept
  | succ n =>
    rw [hattempts] at hkept
    simp only [Nat.add_sub_cancel] at hkept
    split
    · next hsmall =>
      rwa [if_pos (by omega)] at hkept
    · next hlarge =>
      rw [if_neg (by omega)] at hkept
      have hshift : 64 * (n + 1) - 322 = 64 * n - 258 := Nat.add_sub_add_right (64 * n) 64 258
      rw [hshift]
      exact hkept

/-- The futures of an attempt that finds no server. -/
def noServer : Polls :=
  { pollsDone "c1" with makeService := .ready (.error .noAvailableServer) }

def clockedAfter (s : Clocked) (passes : Nat) : Clocked :=
  (run Clocked.step s (List.replicate passes (.pass noServer))).getD s

theorem passes_reach (s : Clocked) (passes : Nat)
    (h : (run Clocked.step s (List.replicate passes (.pass noServer))).isSome = true) :
    Reaches Clocked.step anyStep s (List.replicate passes (.pass noServer))
      (clockedAfter s passes) :=
  run_getD_reaches h s

/-- Time passes and nobody polls. -/
theorem clock_ticks {ok : Clocked → ClockEvent → Prop} (hok : ∀ s, ok s .tick) (s : Clocked)
    (n : Nat) : Reaches Clocked.step ok s (List.replicate n .tick) { s with now := s.now + n } :=
  replicate_reaches (fun k => { s with now := s.now + k }) n (fun _ _ => hok _) fun _ _ => rfl

/-- The first of five attempts has failed. -/
def failedStart : Clocked := clockedAfter (Clocked.new (some 5) 0) 2

/-- The second attempt, two seconds later, has failed too. -/
def failedTwice : Clocked := clockedAfter { failedStart with now := 2000 } 3

/-- The third attempt, four seconds later. -/
def thirdAttempt : Clocked := clockedAfter { failedTwice with now := 6000 } 2

theorem backoff_law_thirdAttempt :
    (∃ es, Reaches Clocked.step anyStep (Clocked.new (some 5) 0) es failedTwice) ∧
    failedTwice.wakeAt = 6000 ∧ failedTwice.wakeAt ≤ failedTwice.now + longestPause ∧
    (∃ es, Reaches Clocked.step anyStep (Clocked.new (some 5) 0) es thirdAttempt) ∧
    thirdAttempt.attempts = 3 ∧
    thirdAttempt.since + (if thirdAttempt.attempts ≤ 7 then 1000 * (2 ^ thirdAttempt.attempts - 2)
      else 1000 * (64 * thirdAttempt.attempts - 322)) ≤ thirdAttempt.now ∧
    thirdAttempt.now = thirdAttempt.since + 1000 * (2 ^ 3 - 2) := by
  have hfailed : Reaches Clocked.step anyStep (Clocked.new (some 5) 0) _ failedStart :=
    passes_reach _ 2 rfl
  have hagain : Reaches Clocked.step anyStep { failedStart with now := 2000 } _ failedTwice :=
    passes_reach _ 3 rfl
  have hthird : Reaches Clocked.step anyStep { failedTwice with now := 6000 } _ thirdAttempt :=
    passes_reach _ 2 rfl
  have hticks := @clock_ticks anyStep fun _ => trivial
  have htwice := (hfailed.append (hticks failedStart 2000)).append hagain
  have hthree := (htwice.append (hticks failedTwice 4000)).append hthird
  exact ⟨⟨_, htwice⟩, rfl, (backoff_law htwice).2 rfl, ⟨_, hthree⟩, rfl,
    (backoff_law hthree).1 (by decide), rfl⟩

/-! ## Recovery -/

/-- Nothing fails any more. -/
def Willing (_ : Clocked) : ClockEvent → Prop
  | .tick => True
  | .pass polls => ¬ polls.Fails
  | .clearHealth => False

/-- The futures of an attempt are done when they are polled. -/
def ClockEvent.prompt : ClockEvent → Bool
  | .pass polls => decide (polls.makeService ≠ .pending) && decide (polls.init ≠ .pending)
  | .tick | .clearHealth => false

def State.distance : State → Nat
  | .retry _ => 4
  | .idle => 3
  | .connecting => 2
  | .initializing => 1
  | .connected => 0

/-- The passes that are left until the connection is there, one for giving up. -/
def NacosGrpcConnection.distance (c : NacosGrpcConnection) : Nat :=
  c.state.distance + c.givesUp.toNat

structure Clocked.Recovering (limit : Nat) (s : Clocked) : Prop where
  sleeps : s.conn.state.isRetry = true → s.wakeAt ≤ limit
  connected : s.conn.state = .connected → s.conn.isInitialized = true ∧ s.conn.health = true
  retries : s.conn.maxRetries ≠ some 0

theorem givesUp_zero {c : NacosGrpcConnection} (h : c.maxRetries ≠ some 0) :
    { c with retryCount := 0 }.givesUp = false := by
  have hpos : ¬ c.maxRetries.getD 1 ≤ 0 := by
    cases hmax : c.maxRetries with
    | none => decide
    | some n =>
      intro hle
      exact h (hmax.trans (congrArg some (UInt32.le_zero_iff.mp hle)))
  simp [NacosGrpcConnection.givesUp, hpos]

theorem initialized_goesOn {c : NacosGrpcConnection} (h : c.isInitialized = true) :
    c.givesUp = false := by
  simp [NacosGrpcConnection.givesUp, h]

theorem recovering_pass {limit : Nat} {s s' : Clocked} {polls : Polls} (h : s.Recovering limit)
    (hwilling : ¬ polls.Fails) (hpass : ClockPassed s polls s') :
    s'.Recovering limit ∧ s'.conn.distance ≤ s.conn.distance ∧
      (limit ≤ s.now → (ClockEvent.pass polls).prompt = true →
        s'.conn.distance < s.conn.distance ∨ s.conn.distance = 0) := by
  obtain ⟨hsleeps, hconnected, hretries⟩ := h
  cases hpass with
  | gaveUp hgives =>
    have hlower : { s.conn with retryCount := 0 }.distance < s.conn.distance := by
      simp [NacosGrpcConnection.distance, givesUp_zero hretries, hgives]
    exact ⟨⟨hsleeps, hconnected, hretries⟩, Nat.le_of_lt hlower, fun _ _ => Or.inl hlower⟩
  | waited hwaits =>
    refine ⟨⟨hsleeps, hconnected, hretries⟩, Nat.le_refl _, fun hlate hprompt => ?_⟩
    simp only [ClockEvent.prompt, Bool.and_eq_true, decide_eq_true_eq] at hprompt
    unfold Clocked.Waits at hwaits
    cases hstate : s.conn.state with
    | idle =>
      rw [hstate] at hwaits
      exact hwaits.elim
    | connecting =>
      rw [hstate] at hwaits
      exact absurd hwaits hprompt.1
    | initializing =>
      rw [hstate] at hwaits
      exact absurd hwaits hprompt.2
    | connected =>
      have hgoesOn := initialized_goesOn (hconnected hstate).1
      exact Or.inr (by simp [NacosGrpcConnection.distance, hstate, State.distance, hgoesOn])
    | retry n =>
      rw [hstate] at hwaits
      have hwake := hsleeps (by rw [hstate]; rfl)
      omega
  | started hstate =>
    have hlower : (State.connecting).distance + s.conn.givesUp.toNat < s.conn.distance := by
      simp [NacosGrpcConnection.distance, hstate, State.distance]
    exact ⟨⟨nofun, nofun, hretries⟩, Nat.le_of_lt hlower, fun _ _ => Or.inl hlower⟩
  | linked hstate =>
    have hlower : (State.initializing).distance + s.conn.givesUp.toNat < s.conn.distance := by
      simp [NacosGrpcConnection.distance, hstate, State.distance]
    exact ⟨⟨nofun, nofun, hretries⟩, Nat.le_of_lt hlower, fun _ _ => Or.inl hlower⟩
  | slept hretry hawake =>
    obtain ⟨n, hstate⟩ := exists_of_isRetry hretry
    have hlower : (State.idle).distance + s.conn.givesUp.toNat < s.conn.distance := by
      simp [NacosGrpcConnection.distance, hstate, State.distance]
    exact ⟨⟨nofun, nofun, hretries⟩, Nat.le_of_lt hlower, fun _ _ => Or.inl hlower⟩
  | failed health hretry hcause =>
    rcases hcause with hfails | ⟨hstate, hunhealthy⟩
    · exact absurd hfails hwilling
    · rw [(hconnected hstate).2] at hunhealthy
      cases hunhealthy
  | initialized id hstate =>
    have hlower : 0 < s.conn.distance := by
      simp only [NacosGrpcConnection.distance, hstate, State.distance]
      omega
    exact ⟨⟨nofun, fun _ => ⟨rfl, rfl⟩, hretries⟩, Nat.zero_le _, fun _ _ => Or.inl hlower⟩

theorem recovering_step {limit : Nat} {s s' : Clocked} {e : ClockEvent} (h : s.Recovering limit)
    (hwilling : Willing s e) (hstep : s.step e = some s') :
    s'.Recovering limit ∧ s.now ≤ s'.now ∧ s'.conn.distance ≤ s.conn.distance ∧
      (limit ≤ s.now → e.prompt = true →
        s'.conn.distance < s.conn.distance ∨ s.conn.distance = 0) := by
  cases e with
  | tick =>
    cases hstep
    exact ⟨⟨h.sleeps, h.connected, h.retries⟩, Nat.le_succ _, Nat.le_refl _, nofun⟩
  | pass polls =>
    cases hstep
    obtain ⟨hrecovering, hle, hlower⟩ := recovering_pass h hwilling (clock_passed s polls)
    exact ⟨hrecovering, Nat.le_refl _, hle, hlower⟩
  | clearHealth => exact hwilling.elim

/-- Each prompt pass after the limit brings the connection nearer. -/
theorem recovering_run {limit : Nat} {s t : Clocked} {es : List ClockEvent}
    (hrun : Reaches Clocked.step Willing s es t) (h : s.Recovering limit) (hlate : limit ≤ s.now) :
    t.Recovering limit ∧
      t.conn.distance ≤ s.conn.distance - (es.filter ClockEvent.prompt).length := by
  induction hrun with
  | refl => exact ⟨h, Nat.le_refl _⟩
  | @next s s' t e es hok hstep _ ih =>
    obtain ⟨hrecovering, hnow, hle, hlower⟩ := recovering_step h hok hstep
    obtain ⟨hend, hdistance⟩ := ih hrecovering (Nat.le_trans hlate hnow)
    refine ⟨hend, ?_⟩
    cases hprompt : e.prompt with
    | false =>
      rw [List.filter_cons_of_neg (by simp [hprompt])]
      omega
    | true =>
      rw [List.filter_cons_of_pos hprompt, List.length_cons]
      rcases hlower hlate hprompt with hless | hzero <;> omega

theorem connected_of_distance {c : NacosGrpcConnection} (h : c.distance = 0) :
    c.state = .connected := by
  have hstate : c.state.distance = 0 := by
    unfold NacosGrpcConnection.distance at h
    omega
  cases hc : c.state with
  | connected => rfl
  | idle | connecting | initializing | retry _ =>
    rw [hc] at hstate
    cases hstate

theorem distance_le (c : NacosGrpcConnection) : c.distance ≤ 5 := by
  have hgives : c.givesUp.toNat ≤ 1 := Bool.toNat_le _
  unfold NacosGrpcConnection.distance
  cases c.state <;> simp only [State.distance] <;> omega

/-- A connected connection was initialised, and the setting stays. -/
structure Clocked.Kept (maxRetries : Option UInt32) (s : Clocked) : Prop where
  connected : s.conn.state = .connected → s.conn.isInitialized = true
  retries : s.conn.maxRetries = maxRetries

theorem clock_pass_kept {maxRetries : Option UInt32} {s s' : Clocked} {polls : Polls}
    (h : s.Kept maxRetries) (hpass : ClockPassed s polls s') : s'.Kept maxRetries := by
  obtain ⟨hconnected, hretries⟩ := h
  cases hpass with
  | gaveUp | waited => exact ⟨hconnected, hretries⟩
  | started | linked | failed | slept => exact ⟨nofun, hretries⟩
  | initialized id _ => exact ⟨fun _ => rfl, hretries⟩

theorem clock_step_kept {maxRetries : Option UInt32} {s s' : Clocked} {e : ClockEvent}
    (hstep : s.step e = some s') (h : s.Kept maxRetries) : s'.Kept maxRetries := by
  cases e with
  | tick | clearHealth =>
    cases hstep
    exact ⟨h.connected, h.retries⟩
  | pass polls =>
    cases hstep
    exact clock_pass_kept h (clock_passed s polls)

/-- **Recovery.** However long the surroundings have failed: when nothing fails any
more, five prompt passes after the longest pause find the connection connected and
healthy. -/
theorem recovery_law {maxRetries : Option UInt32} {start : Nat} {before es later : List ClockEvent}
    {s u t : Clocked} (hmax : maxRetries ≠ some 0)
    (hbefore : Reaches Clocked.step anyStep (Clocked.new maxRetries start) before s)
    (hhealth : s.conn.state = .connected → s.conn.health = true)
    (hpause : Reaches Clocked.step Willing s es u) (hlate : s.now + longestPause ≤ u.now)
    (hrun : Reaches Clocked.step Willing u later t)
    (hprompt : 5 ≤ (later.filter ClockEvent.prompt).length) :
    t.conn.state = .connected ∧ t.conn.health = true := by
  have hkept : s.Kept maxRetries :=
    hbefore.invariant (fun _ _ _ _ hstep => clock_step_kept hstep) ⟨nofun, rfl⟩
  have hpaced : s.Paced :=
    hbefore.invariant (fun _ _ _ _ hstep => clock_step_paced hstep) (clock_new_paced maxRetries start)
  have hstart : s.Recovering (s.now + longestPause) :=
    ⟨hpaced.sleeps, fun hstate => ⟨hkept.connected hstate, hhealth hstate⟩,
      fun hzero => hmax (hkept.retries.symm.trans hzero)⟩
  have hslept : u.Recovering (s.now + longestPause) :=
    hpause.invariant (fun _ _ _ hok hstep hi => (recovering_step hi hok hstep).1) hstart
  obtain ⟨hend, hdistance⟩ := recovering_run hrun hslept hlate
  have hfar := distance_le u.conn
  have hstate := connected_of_distance (c := t.conn) (by omega)
  exact ⟨hstate, (hend.connected hstate).2⟩

def pausedStart : Clocked := { failedStart with now := failedStart.now + longestPause }

def fivePasses : List ClockEvent := List.replicate 5 (.pass (pollsDone "c1"))

def recoveredStart : Clocked := (run Clocked.step pausedStart fivePasses).getD pausedStart

theorem fivePasses_willing (s : Clocked) (e : ClockEvent) (h : e ∈ fivePasses) : Willing s e := by
  rw [List.eq_of_mem_replicate h]
  rintro ⟨e, hfails | hfails | hfails⟩ <;> cases hfails

theorem recovery_law_failedStart :
    recoveredStart.conn.state = .connected ∧ recoveredStart.conn.health = true := by
  have hrun : Reaches Clocked.step anyStep pausedStart fivePasses recoveredStart :=
    run_getD_reaches rfl _
  have hbefore : Reaches Clocked.step anyStep (Clocked.new (some 5) 0)
      (List.replicate 2 (.pass noServer)) failedStart := passes_reach _ 2 rfl
  exact recovery_law (by decide) hbefore (fun hstate => absurd hstate (by decide))
    (clock_ticks (fun _ => trivial) failedStart longestPause) (Nat.le_refl _)
    (hrun.guarded (P := Willing pausedStart) (fivePasses_willing pausedStart)) (by decide)

end NacosSdk.Remote
