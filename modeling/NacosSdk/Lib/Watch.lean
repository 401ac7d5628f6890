import Mathlib.Data.List.Basic

/-!
# A channel that keeps only the latest value

`Watch` is the value that was sent last with the number of sends. A follower is
the task that waits for a change, reads the value, compares it with the one it
read before and calls its listener; a send may come between its wake and its
read, so it may miss values and may read one twice. Proved here, for all types,
rules and followers:

* `Tracks.send`, `Tracks.wake`, `Tracks.read`: a follower that has caught up has
  read the value last;
* `mem_calls_read`: what one read adds to the calls.
-/

namespace NacosSdk.Lib

variable {α : Type _} {β : Type _}

structure Watch (α : Type _) where
  value : α
  version : Nat
  deriving DecidableEq

def Watch.channel (a : α) : Watch α where
  value := a
  version := 0

def Watch.send (w : Watch α) (a : α) : Watch α where
  value := a
  version := w.version + 1

/-- A task that follows a channel, with every call of its listener. -/
structure Follower (α β : Type _) where
  /-- The version that the receiver has marked as seen. -/
  seen : Nat
  /-- `changed()` has returned and the value is not read yet. -/
  woken : Bool
  previous : α
  calls : List β
  deriving DecidableEq

/-- A receiver of `w` whose task takes `first` for what it read before. -/
def Watch.follow (w : Watch α) (first : α) : Follower α β where
  seen := w.version
  woken := false
  previous := first
  calls := []

/-- `changed().await` returns. -/
def Follower.wake (w : Watch α) (f : Follower α β) : Option (Follower α β) :=
  if f.woken = false ∧ f.seen ≠ w.version then
    some { f with seen := w.version, woken := true }
  else none

/-- `borrow()`, the comparison with the previous value and the call. -/
def Follower.read (rule : α → α → Option β) (w : Watch α) (f : Follower α β) :
    Option (Follower α β) :=
  if f.woken then
    some { f with
      woken := false
      previous := w.value
      calls := f.calls ++ (rule f.previous w.value).toList }
  else none

/-- The task waits for a change that is yet to come. -/
def Follower.CaughtUp (f : Follower α β) (w : Watch α) : Prop :=
  f.woken = false ∧ f.seen = w.version

instance (f : Follower α β) (w : Watch α) : Decidable (f.CaughtUp w) :=
  inferInstanceAs (Decidable (_ ∧ _))

/-! ## What one step of the task does -/

theorem wake_eq {w : Watch α} {f f' : Follower α β} (h : f.wake w = some f') :
    f' = { f with seen := w.version, woken := true } := by
  unfold Follower.wake at h
  split at h
  · exact (Option.some.inj h).symm
  · cases h

theorem read_eq {rule : α → α → Option β} {w : Watch α} {f f' : Follower α β}
    (h : f.read rule w = some f') :
    f' = { f with
      woken := false
      previous := w.value
      calls := f.calls ++ (rule f.previous w.value).toList } := by
  unfold Follower.read at h
  split at h
  · exact (Option.some.inj h).symm
  · cases h

theorem mem_calls_read {rule : α → α → Option β} {w : Watch α} {f f' : Follower α β}
    (h : f.read rule w = some f') (b : β) :
    b ∈ f'.calls ↔ b ∈ f.calls ∨ rule f.previous w.value = some b := by
  rw [read_eq h]
  simp

/-! ## A follower that has caught up -/

/-- The receiver is behind, or the task has read the current value last. -/
structure Tracks (w : Watch α) (f : Follower α β) : Prop where
  seen_le : f.seen ≤ w.version
  current : f.CaughtUp w → f.previous = w.value

theorem follow_tracks (w : Watch α) : Tracks w (w.follow w.value : Follower α β) where
  seen_le := Nat.le_refl _
  current := fun _ => rfl

theorem Tracks.send {w : Watch α} {f : Follower α β} (h : Tracks w f) (a : α) :
    Tracks (w.send a) f := by
  have hlt : f.seen < (w.send a).version := Nat.lt_succ_of_le h.seen_le
  constructor
  · omega
  · rintro ⟨_, hseen⟩
    omega

theorem Tracks.wake {w : Watch α} {f f' : Follower α β} (_ : Tracks w f) (hw : f.wake w = some f') :
    Tracks w f' := by
  rw [wake_eq hw]
  constructor
  · exact Nat.le_refl _
  · rintro ⟨hwoken, _⟩
    cases hwoken

theorem Tracks.read {rule : α → α → Option β} {w : Watch α} {f f' : Follower α β}
    (h : Tracks w f) (hr : f.read rule w = some f') : Tracks w f' := by
  rw [read_eq hr]
  exact ⟨h.seen_le, fun _ => rfl⟩

end NacosSdk.Lib
