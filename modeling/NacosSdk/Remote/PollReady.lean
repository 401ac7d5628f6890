import NacosSdk.Lib.Loop
import NacosSdk.Remote.Connection

/-!
# One call of `poll_ready`

The loop of `NacosGrpcConnection::poll_ready` as a whole. Before each pass
another task may write the health flag, and each pass polls its future anew.
Proved here, for every connection and whatever its surroundings do:

* `moves_of_pass`: from which state to which a pass goes on;
* `pollReady_returns`: a call returns within six passes, if no new sleep is over
  at its first poll.
-/

namespace NacosSdk.Remote
open NacosSdk.Common NacosSdk.Lib.Loop

/-! ## The loop -/

/-- What happens around each pass of a call. -/
structure Surroundings where
  polls : Nat → Polls
  health : Nat → Bool

/-- Pass `i` of a call. -/
def NacosGrpcConnection.passIn (around : Surroundings) (i : Nat) (c : NacosGrpcConnection) :
    NacosGrpcConnection × Option (Poll (Except Error Unit)) :=
  { c with health := around.health i }.pass (around.polls i)

/-- `poll_ready`, for `n` passes at most. -/
def NacosGrpcConnection.pollReady (around : Surroundings) (n : Nat) (c : NacosGrpcConnection) :
    NacosGrpcConnection × Option (Poll (Except Error Unit)) :=
  loop (NacosGrpcConnection.passIn around) n 0 c

/-- The connection before pass `i`. -/
def NacosGrpcConnection.beforePass (around : Surroundings) (c : NacosGrpcConnection) (i : Nat) :
    NacosGrpcConnection :=
  before (NacosGrpcConnection.passIn around) c i

/-- A sleep of at least one second that a pass of the call created is pending when
it is polled first. -/
def SleepsPending (around : Surroundings) (c : NacosGrpcConnection) : Prop :=
  ∀ i n, (c.beforePass around i).state.isRetry = false →
    (c.beforePass around (i + 1)).state = .retry n → 1 ≤ n →
      (around.polls (i + 1)).sleep = .pending

/-! ## One pass -/

/-- The moves of a pass that goes on. -/
inductive Moves : State → State → Prop
  | start : Moves .idle .connecting
  | link : Moves .connecting .initializing
  | connect : Moves .initializing .connected
  | fail {s : State} {n : UInt32} : s = .connecting ∨ s = .initializing ∨ s = .connected → 1 ≤ n →
      Moves s (.retry n)
  | wake (n : UInt32) : Moves (.retry n) .idle

theorem one_le_sleepTime (retryCount : UInt32) : 1 ≤ sleepTime retryCount := by
  unfold sleepTime
  split
  · decide
  · next hle =>
    have hsmall : retryCount.toNat < 7 := by
      have hto : retryCount.toNat ≤ 6 := UInt32.le_iff_toNat_le.mp (UInt32.not_lt.mp hle)
      omega
    have hall : ∀ k < 7, (1 : UInt32) ≤ 1 <<< UInt32.ofNat k := by decide
    have hone := hall retryCount.toNat hsmall
    rwa [UInt32.ofNat_toNat] at hone

theorem exists_of_isRetry {s : State} (h : s.isRetry = true) : ∃ n, s = .retry n := by
  cases s with
  | retry n => exact ⟨n, rfl⟩
  | idle => cases h
  | connecting => cases h
  | initializing => cases h
  | connected => cases h

theorem toRetry_moves {c : NacosGrpcConnection}
    (h : c.state = .connecting ∨ c.state = .initializing ∨ c.state = .connected) :
    Moves c.state c.toRetry.state :=
  Moves.fail h (one_le_sleepTime _)

theorem moves_of_passed {c c' : NacosGrpcConnection} {polls : Polls}
    (h : Passed c polls c' none) : Moves c.state c'.state := by
  cases h with
  | started hs =>
    rw [hs]
    exact Moves.start
  | linked hs =>
    rw [hs]
    exact Moves.link
  | notLinked hs _ => exact toRetry_moves (Or.inl hs)
  | initialized id hs _ _ =>
    rw [hs]
    exact Moves.connect
  | notInitialized hs _ => exact toRetry_moves (Or.inr (Or.inl hs))
  | unhealthy hs _ _ => exact toRetry_moves (Or.inr (Or.inr hs))
  | broken hs _ => exact toRetry_moves (c := { c with health := false }) (Or.inr (Or.inr hs))
  | slept hs =>
    obtain ⟨n, hstate⟩ := exists_of_isRetry hs
    rw [hstate]
    exact Moves.wake n

theorem moves_to_retry {s : State} {n : UInt32} (h : Moves s (.retry n)) :
    s.isRetry = false ∧ 1 ≤ n := by
  cases h with
  | fail hstate hlong =>
    refine ⟨?_, hlong⟩
    rcases hstate with rfl | rfl | rfl
    · rfl
    · rfl
    · rfl

theorem moves_of_pass {around : Surroundings} {i : Nat} {c : NacosGrpcConnection}
    (h : (c.passIn around i).2 = none) : Moves c.state (c.passIn around i).1.state := by
  have hpassed := passed { c with health := around.health i } (around.polls i)
  unfold NacosGrpcConnection.passIn at h ⊢
  rw [h] at hpassed
  have hmoves := moves_of_passed hpassed
  exact hmoves

/-- A pass that polls a pending sleep returns. -/
theorem pass_of_sleeping {around : Surroundings} {i : Nat} {c : NacosGrpcConnection} {n : UInt32}
    (hstate : c.state = .retry n) (hsleep : (around.polls i).sleep = .pending) :
    (c.passIn around i).2 ≠ none := by
  unfold NacosGrpcConnection.passIn NacosGrpcConnection.pass
  split
  · simp
  · unfold NacosGrpcConnection.attend
    simp [hstate, hsleep]

/-! ## All passes -/

/-- The most passes that may follow; only the first pass can meet a sleep that an
earlier call created. -/
def State.passesLeft (i : Nat) : State → Nat
  | .retry _ => if i = 0 then 5 else 0
  | .idle => 4
  | .connecting => 3
  | .initializing => 2
  | .connected => 1

/-- The connection before pass `i`, where a sleep is pending unless it is older
than the call. -/
structure Running (around : Surroundings) (start : NacosGrpcConnection) (i : Nat)
    (c : NacosGrpcConnection) : Prop where
  reached : c = start.beforePass around i
  asleep : ∀ n, c.state = .retry n → 0 < i → (around.polls i).sleep = .pending

variable {around : Surroundings} {start c : NacosGrpcConnection} {i : Nat}

theorem start_running : Running around start 0 start where
  reached := rfl
  asleep := fun _ _ h => absurd h (Nat.lt_irrefl 0)

theorem running_next (hsleeps : SleepsPending around start) (h : Running around start i c)
    (hpass : (c.passIn around i).2 = none) :
    Running around start (i + 1) (c.passIn around i).1 := by
  have hmoves := moves_of_pass hpass
  obtain rfl := h.reached
  refine ⟨rfl, ?_⟩
  intro n hretry _
  obtain ⟨hnot, hlong⟩ := moves_to_retry (hretry ▸ hmoves)
  exact hsleeps i n hnot hretry hlong

/-- Every move leaves fewer passes, unless it wakes from a sleep of this call. -/
theorem passesLeft_moves {s s' : State} (h : Moves s s') (hfirst : ∀ n, s = .retry n → i = 0) :
    s'.passesLeft (i + 1) < s.passesLeft i := by
  cases h with
  | start => simp [State.passesLeft]
  | link => simp [State.passesLeft]
  | connect => simp [State.passesLeft]
  | fail hstate _ =>
    rcases hstate with rfl | rfl | rfl
    · simp [State.passesLeft]
    · simp [State.passesLeft]
    · simp [State.passesLeft]
  | wake n =>
    obtain rfl := hfirst n rfl
    simp [State.passesLeft]

theorem passesLeft_next (h : Running around start i c) (hpass : (c.passIn around i).2 = none) :
    (c.passIn around i).1.state.passesLeft (i + 1) < c.state.passesLeft i := by
  refine passesLeft_moves (moves_of_pass hpass) fun n hstate => ?_
  -- a sleep of this call would have ended it
  by_contra hne
  exact pass_of_sleeping hstate (h.asleep n hstate (Nat.pos_of_ne_zero hne)) hpass

theorem passesLeft_le (s : State) (i : Nat) : s.passesLeft i ≤ 5 := by
  unfold State.passesLeft
  split
  · split <;> omega
  · omega
  · omega
  · omega
  · omega

/-- **Six passes.** Whatever its futures and the health flag do, one call of
`poll_ready` returns within six passes, if no new sleep is over at its first
poll. -/
theorem pollReady_returns (around : Surroundings) (c : NacosGrpcConnection)
    (hsleeps : SleepsPending around c) :
    ∃ result, ∀ n, 6 ≤ n → (c.pollReady around n).2 = some result := by
  have hbound : c.state.passesLeft 0 < 6 := Nat.lt_succ_of_le (passesLeft_le c.state 0)
  obtain ⟨result, hresult⟩ :=
    loop_returns (fun i c => c.state.passesLeft i) (fun _ _ => running_next hsleeps)
      (fun _ _ => passesLeft_next) start_running hbound
  refine ⟨result, fun n hn => ?_⟩
  unfold NacosGrpcConnection.pollReady
  rw [loop_eq_of_le hresult hn, hresult]

/-- A call that takes all six passes: an old sleep is over, and the connection is
made and found unhealthy. -/
def sixPasses : Surroundings where
  polls := fun i => { pollsDone "1" with sleep := if i = 0 then .ready () else .pending }
  health := fun _ => false

def sleeping : NacosGrpcConnection :=
  { NacosGrpcConnection.new (some 3) with state := .retry 2, retryCount := 1 }

theorem pollReady_returns_sixPasses :
    (∃ result, ∀ n, 6 ≤ n → (sleeping.pollReady sixPasses n).2 = some result) ∧
      (sleeping.pollReady sixPasses 5).2 = none := by
  refine ⟨pollReady_returns sixPasses sleeping ?_, by decide +kernel⟩
  intro i n _ _ _
  rfl

end NacosSdk.Remote
