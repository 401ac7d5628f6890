import NacosSdk.Lib.Run
import NacosSdk.Remote.HostPort

/-!
# Request ids

`generate_request_id` of `common/remote/mod.rs`, called by any number of threads.
A call draws its number in one atomic step; when the sequence is near its end the
call sets it back in another one, and other calls may draw between the two. Proved
here:

* `drawn_odd`: the ids of the client are odd;
* `requestIds_law`: they are positive while few calls are between their two steps,
  and no id comes twice until the sequence was set back.
-/

namespace NacosSdk.Remote
open NacosSdk.Lib.Run

def i64Max : Int := 9223372036854775807

def sequenceInitialValue : Int := 1
def sequenceDelta : Int := 2

/-- `fetch_add` of a number that is not negative; it wraps. -/
def wrappingAdd (n d : Int) : Int :=
  if i64Max < n + d then n + d - 2 * (i64Max + 1) else n + d

/-- The sequence with the calls that still have to set it back. -/
structure Sequence where
  value : Int
  pending : List Int
  /-- The numbers drawn so far, the newest first. -/
  drawn : List Int

def Sequence.new : Sequence where
  value := sequenceInitialValue
  pending := []
  drawn := []

inductive SequenceEvent where
  /-- A call draws its number. -/
  | fetchAdd
  /-- Pending call `i` sets the sequence back. -/
  | store (i : Nat)
  deriving DecidableEq

def Sequence.step (s : Sequence) : SequenceEvent → Option Sequence
  | .fetchAdd =>
    some {
      value := wrappingAdd s.value sequenceDelta
      pending := if s.value > i64Max - 1000 then s.value :: s.pending else s.pending
      drawn := s.value :: s.drawn }
  | .store i =>
    if i < s.pending.length then
      some { s with value := sequenceInitialValue, pending := s.pending.eraseIdx i }
    else none

/-- What the call returns. -/
def requestId (seq : Int) : String := toString seq

/-- Fewer than 499 other calls are between their two steps when a call draws. -/
def FewPending (s : Sequence) : SequenceEvent → Prop
  | .fetchAdd => s.pending.length < 499
  | .store _ => True

/-! ## The numbers -/

section Steps

variable {s s' : Sequence} {e : SequenceEvent}

/-- Wrapping keeps a number odd. -/
theorem wrapping_odd {n : Int} (h : n % 2 = 1) : wrappingAdd n sequenceDelta % 2 = 1 := by
  unfold wrappingAdd sequenceDelta i64Max
  split <;> omega

structure Sequence.Odd (s : Sequence) : Prop where
  value : s.value % 2 = 1
  drawn : ∀ n ∈ s.drawn, n % 2 = 1

theorem step_odd (hstep : s.step e = some s') (h : s.Odd) : s'.Odd := by
  cases e with
  | fetchAdd =>
    cases hstep
    refine ⟨wrapping_odd h.value, ?_⟩
    intro n hn
    rcases List.mem_cons.mp hn with rfl | hold
    · exact h.value
    · exact h.drawn n hold
  | store i =>
    simp only [Sequence.step] at hstep
    split at hstep
    · cases hstep
      exact ⟨rfl, h.drawn⟩
    · cases hstep

theorem drawn_odd {es : List SequenceEvent} {t : Sequence}
    (h : Reaches Sequence.step anyStep Sequence.new es t) : t.Odd :=
  h.invariant (fun _ _ _ _ hstep => step_odd hstep) ⟨rfl, nofun⟩

/-- Beyond the mark the sequence runs ahead by two for each pending call. -/
structure Sequence.Positive (s : Sequence) : Prop where
  odd : s.Odd
  value : 0 < s.value ∧ s.value ≤ i64Max - 998 + 2 * s.pending.length
  few : s.pending.length ≤ 499
  drawn : ∀ n ∈ s.drawn, 0 < n ∧ n ≤ i64Max

theorem wrappingAdd_eq {n d : Int} (h : n + d ≤ i64Max) : wrappingAdd n d = n + d :=
  if_neg (Int.not_lt.mpr h)

theorem step_positive (hok : FewPending s e) (hstep : s.step e = some s') (h : s.Positive) :
    s'.Positive := by
  have hodd := step_odd hstep h.odd
  obtain ⟨hpos, hbound⟩ := h.value
  cases e with
  | fetchAdd =>
    have hfew : s.pending.length < 499 := hok
    have hadd : wrappingAdd s.value sequenceDelta = s.value + 2 :=
      wrappingAdd_eq (by unfold sequenceDelta; omega)
    cases hstep
    refine ⟨hodd, ⟨by simp only [hadd]; omega, ?_⟩, ?_, ?_⟩
    · simp only [hadd]
      split
      · simp only [List.length_cons]
        omega
      · omega
    · simp only
      split
      · simp only [List.length_cons]
        omega
      · exact h.few
    · intro n hn
      rcases List.mem_cons.mp hn with rfl | hold
      · exact ⟨hpos, by omega⟩
      · exact h.drawn n hold
  | store i =>
    simp only [Sequence.step] at hstep
    split at hstep
    · cases hstep
      have hfew := h.few
      have hlength := List.length_eraseIdx_le s.pending i
      refine ⟨hodd, ⟨by simp [sequenceInitialValue], ?_⟩, Nat.le_trans hlength hfew, h.drawn⟩
      simp only [sequenceInitialValue, i64Max]
      omega
    · cases hstep

theorem new_positive : Sequence.new.Positive where
  odd := ⟨rfl, nofun⟩
  value := ⟨by decide, by decide⟩
  few := by decide
  drawn := nofun

end Steps

/-! ## The ids -/

theorem requestId_toList (n : Nat) : (requestId n).toList = Nat.toDigits 10 n := by
  change (Nat.repr n).toList = Nat.toDigits 10 n
  simp [Nat.repr]

/-- Two numbers that a call returns as the same id are the same. -/
theorem requestId_inj {m n : Int} (hm : 0 < m) (hn : 0 < n) (h : requestId m = requestId n) :
    m = n := by
  obtain ⟨a, rfl⟩ := Int.eq_ofNat_of_zero_le (Int.le_of_lt hm)
  obtain ⟨b, rfl⟩ := Int.eq_ofNat_of_zero_le (Int.le_of_lt hn)
  have hdigits : Nat.toDigits 10 a = Nat.toDigits 10 b := by
    rw [← requestId_toList, ← requestId_toList, h]
  have hread := congrArg (Nat.ofDigitChars 10 · 0) hdigits
  simp only [Nat.ofDigitChars_ten_toDigits] at hread
  rw [hread]

theorem ids_nodup {drawn : List Int} (hpositive : ∀ n ∈ drawn, 0 < n)
    (hfalling : drawn.Pairwise (· > ·)) : (drawn.map requestId).Nodup := by
  refine List.pairwise_map.mpr (hfalling.imp_of_mem ?_)
  intro m n hm hn hlt hsame
  have heq := requestId_inj (hpositive m hm) (hpositive n hn) hsame
  omega

/-- The numbers drawn after those `before`: they fall towards the older ones, and
the sequence is past them. -/
def Sequence.Rising (before : List Int) (s : Sequence) : Prop :=
  ∃ new, s.drawn = new ++ before ∧ new.Pairwise (· > ·) ∧ ∀ n ∈ new, n < s.value

/-- A draw that does not wrap. -/
theorem fetch_rising {before : List Int} {s s' : Sequence} (hvalue : s.value + 2 ≤ i64Max)
    (hstep : s.step .fetchAdd = some s') (h : s.Rising before) : s'.Rising before := by
  obtain ⟨new, hdrawn, hfalling, hpast⟩ := h
  cases hstep
  have hadd : wrappingAdd s.value sequenceDelta = s.value + 2 := wrappingAdd_eq hvalue
  refine ⟨s.value :: new, by simp only [hdrawn, List.cons_append],
    List.pairwise_cons.mpr ⟨hpast, hfalling⟩, ?_⟩
  intro n hn
  simp only [hadd]
  rcases List.mem_cons.mp hn with rfl | hold
  · omega
  · have hlt := hpast n hold
    omega

/-- How many numbers come before the first call that sets the sequence back. -/
def firstRound : Nat := 4611686018427387404

/-- In the first round no call is pending. -/
structure Sequence.Early (s : Sequence) : Prop where
  pending : s.pending = []
  value : s.value = 2 * s.drawn.length + 1
  rising : s.Rising []
  positive : ∀ n ∈ s.drawn, 0 < n

theorem step_early {s s' : Sequence} {e : SequenceEvent} (hstep : s.step e = some s')
    (h : s.drawn.length ≤ firstRound → s.Early) : s'.drawn.length ≤ firstRound → s'.Early := by
  intro hlength
  cases e with
  | fetchAdd =>
    have hshort : s.drawn.length < firstRound := by
      cases hstep
      exact hlength
    obtain ⟨hpending, hvalue, hrising, hpositive⟩ := h (Nat.le_of_lt hshort)
    have hmark : s.value ≤ i64Max - 1000 := by
      unfold firstRound at hshort
      unfold i64Max
      omega
    have hnew := fetch_rising (by omega) hstep hrising
    have hadd : wrappingAdd s.value sequenceDelta = s.value + 2 :=
      wrappingAdd_eq (by unfold sequenceDelta; omega)
    cases hstep
    refine ⟨by simp [hpending, Int.not_lt.mpr hmark], ?_, hnew, ?_⟩
    · simp only [hadd, List.length_cons]
      omega
    · intro n hn
      rcases List.mem_cons.mp hn with rfl | hold
      · omega
      · exact hpositive n hold
  | store i =>
    simp only [Sequence.step] at hstep
    split at hstep
    · next hlt =>
      cases hstep
      rw [(h hlength).pending] at hlt
      cases hlt
    · cases hstep

theorem new_rising (s : Sequence) : s.Rising s.drawn :=
  ⟨[], rfl, List.Pairwise.nil, nofun⟩

theorem draws_counted {s t : Sequence} {later : List SequenceEvent}
    {ok : Sequence → SequenceEvent → Prop} (hrun : Reaches Sequence.step ok s later t)
    (hdraws : ∀ e ∈ later, e = .fetchAdd) : t.drawn.length = later.length + s.drawn.length := by
  induction hrun with
  | refl => simp
  | @next s s' t e es _ hstep _ ih =>
    have hrest := ih fun e he => hdraws e (List.mem_cons_of_mem _ he)
    obtain rfl := hdraws e List.mem_cons_self
    cases hstep
    simp only [List.length_cons] at hrest ⊢
    omega

/-- Draws that no call sets back. -/
theorem draws_rising {s t : Sequence} {later : List SequenceEvent} (h : s.Positive)
    (hrun : Reaches Sequence.step FewPending s later t) (hdraws : ∀ e ∈ later, e = .fetchAdd) :
    ∃ new, t.drawn = new ++ s.drawn ∧ new.length = later.length ∧ (new.map requestId).Nodup := by
  have hend : t.Positive ∧ t.Rising s.drawn := by
    refine (hrun.restrict hdraws).invariant (I := fun u => u.Positive ∧ u.Rising s.drawn) ?_
      ⟨h, new_rising s⟩
    rintro u e u' ⟨hfew, rfl⟩ hstep ⟨hpositive, hrising⟩
    have hlast : u.value + 2 ≤ i64Max := by
      have hbound := hpositive.value.2
      have hpending : u.pending.length < 499 := hfew
      omega
    exact ⟨step_positive hfew hstep hpositive, fetch_rising hlast hstep hrising⟩
  obtain ⟨hpositive, new, hdrawn, hfalling, _⟩ := hend
  refine ⟨new, hdrawn, ?_, ids_nodup (fun n hn => ?_) hfalling⟩
  · have hcount := draws_counted hrun hdraws
    rw [hdrawn, List.length_append] at hcount
    omega
  · exact (hpositive.drawn n (by rw [hdrawn]; exact List.mem_append_left _ hn)).1

/-- **Request ids.** Every id of the client is odd, whatever the threads do. While
few calls are between their two steps every id is positive, the ids of the first
round are different, and so are the ids drawn while no call sets the sequence
back. -/
theorem requestIds_law :
    (∀ es t, Reaches Sequence.step anyStep Sequence.new es t → ∀ n ∈ t.drawn, n % 2 = 1) ∧
    (∀ es s, Reaches Sequence.step FewPending Sequence.new es s →
      (∀ n ∈ s.drawn, 0 < n ∧ n ≤ i64Max) ∧
      (s.drawn.length ≤ firstRound → (s.drawn.map requestId).Nodup) ∧
      ∀ later t, Reaches Sequence.step FewPending s later t → (∀ e ∈ later, e = .fetchAdd) →
        ∃ new, t.drawn = new ++ s.drawn ∧ new.length = later.length ∧
          (new.map requestId).Nodup) := by
  refine ⟨fun es t h => (drawn_odd h).drawn, fun es s h => ?_⟩
  have hpositive : s.Positive :=
    h.invariant (fun _ _ _ hok hstep => step_positive hok hstep) new_positive
  refine ⟨hpositive.drawn, fun hlength => ?_, fun later t => draws_rising hpositive⟩
  have hearly : s.drawn.length ≤ firstRound → s.Early :=
    h.invariant (I := fun s => s.drawn.length ≤ firstRound → s.Early)
      (fun _ _ _ _ hstep => step_early hstep) fun _ => ⟨rfl, rfl, new_rising _, nofun⟩
  obtain ⟨new, hdrawn, hfalling, _⟩ := (hearly hlength).rising
  rw [List.append_nil] at hdrawn
  rw [← hdrawn] at hfalling
  exact ids_nodup (hearly hlength).positive hfalling

/-! ## Two threads near the end of the sequence -/

/-- The first `n` numbers, the newest first. -/
def firstNumbers : Nat → List Int
  | 0 => []
  | n + 1 => (2 * n + 1 : Int) :: firstNumbers n

theorem firstNumbers_length (n : Nat) : (firstNumbers n).length = n := by
  induction n with
  | zero => rfl
  | succ n ih => rw [firstNumbers, List.length_cons, ih]

/-- The sequence after `n` draws of its first round. -/
def drawnFirst (n : Nat) : Sequence where
  value := 2 * n + 1
  pending := []
  drawn := firstNumbers n

theorem drawnFirst_step {n : Nat} (h : n < firstRound) :
    (drawnFirst n).step .fetchAdd = some (drawnFirst (n + 1)) := by
  unfold firstRound at h
  have hmark : ¬ i64Max - 1000 < (2 * n + 1 : Int) := by
    unfold i64Max
    omega
  have hadd : wrappingAdd (2 * n + 1) sequenceDelta = 2 * (n + 1 : Nat) + 1 := by
    rw [wrappingAdd_eq (by unfold sequenceDelta i64Max; omega)]
    unfold sequenceDelta
    omega
  simp only [Sequence.step, drawnFirst, firstNumbers, hadd, gt_iff_lt, if_neg hmark]

theorem firstRound_reaches : Reaches Sequence.step FewPending Sequence.new
    (List.replicate firstRound .fetchAdd) (drawnFirst firstRound) := by
  refine replicate_reaches drawnFirst firstRound (fun k _ => ?_) fun k => drawnFirst_step
  change 0 < 499
  decide

/-- Two threads have drawn beyond the mark, and one of them has set the sequence
back. -/
def setBack (drawn : List Int) : Sequence where
  value := 1
  pending := [9223372036854774809]
  drawn := 9223372036854774811 :: 9223372036854774809 :: drawn

theorem setBack_reaches (drawn : List Int) : Reaches Sequence.step FewPending
    ⟨9223372036854774809, [], drawn⟩ [.fetchAdd, .fetchAdd, .store 0] (setBack drawn) := by
  refine .next ?_ rfl (.next ?_ rfl (.next trivial rfl (.refl _)))
  · change 0 < 499
    decide
  · change 1 < 499
    decide

/-- The next two draws. -/
theorem drawnAgain_reaches (drawn : List Int) : Reaches Sequence.step FewPending (setBack drawn)
    [.fetchAdd, .fetchAdd] { setBack drawn with
      value := 5, drawn := 3 :: 1 :: (setBack drawn).drawn } := by
  refine .next ?_ rfl (.next ?_ rfl (.refl _)) <;> change 1 < 499 <;> decide

/-- The ids of the first round are different; the two that are drawn while a thread
still has to set the sequence back are positive and different too. -/
theorem requestIds_law_setBack :
    ((firstNumbers firstRound).map requestId).Nodup ∧
    ∃ t, Reaches Sequence.step FewPending (setBack (firstNumbers firstRound))
        [.fetchAdd, .fetchAdd] t ∧ t.pending.length = 1 ∧
      ∃ new, t.drawn = new ++ (setBack (firstNumbers firstRound)).drawn ∧ new.length = 2 ∧
        (new.map requestId).Nodup := by
  have hvalue : drawnFirst firstRound = ⟨9223372036854774809, [], firstNumbers firstRound⟩ := by
    have heq : (2 * (firstRound : Nat) + 1 : Int) = 9223372036854774809 := by decide
    rw [drawnFirst, heq]
  have hround := firstRound_reaches
  have hback := hround
  rw [hvalue] at hback
  have hset := hback.append (setBack_reaches (firstNumbers firstRound))
  have hagain := drawnAgain_reaches (firstNumbers firstRound)
  have hfirst := (requestIds_law.2 _ _ hround).2.1
  have hlater := (requestIds_law.2 _ _ hset).2.2 _ _ hagain (by simp)
  exact ⟨hfirst (Nat.le_of_eq (firstNumbers_length firstRound)), _, hagain, rfl, hlater⟩

end NacosSdk.Remote
