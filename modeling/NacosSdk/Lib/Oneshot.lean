/-!
# A value that is sent once

A channel for one value: its sender sends the value or is dropped, its receiver
takes the value or is dropped. Beside it the demand with which a taker lets its
giver go on. Proved here, for every type of values:

* `send_live`, `send_gone`: what sending does;
* `poll_pending`: a receiver waits only for a sender that is still there.
-/

namespace NacosSdk.Lib.Oneshot

variable {α : Type _}

/-- What a giver sees of its taker: nothing yet, that it wants a value, or that it
is gone. -/
inductive Demand where
  | idle
  | want
  | closed
  deriving DecidableEq

structure Channel (α : Type _) where
  value : Option α
  senderLive : Bool
  receiverLive : Bool
  deriving DecidableEq

def Channel.new : Channel α where
  value := none
  senderLive := true
  receiverLive := true

/-- Sending uses the sender up; it fails when the receiver is gone. -/
def Channel.send (c : Channel α) (a : α) : Bool × Channel α :=
  if c.receiverLive then (true, { c with value := some a, senderLive := false })
  else (false, { c with senderLive := false })

def Channel.dropSender (c : Channel α) : Channel α := { c with senderLive := false }

/-- A value that was sent is dropped with its receiver. -/
def Channel.dropReceiver (c : Channel α) : Channel α :=
  { c with value := none, receiverLive := false }

/-- What the receiver finds: `none` while it has to wait, `some none` when the
sender was dropped. -/
def Channel.poll (c : Channel α) : Option (Option α) :=
  match c.value with
  | some a => some (some a)
  | none => if c.senderLive then none else some none

theorem send_live {c : Channel α} (h : c.receiverLive = true) (a : α) :
    c.send a = (true, { c with value := some a, senderLive := false }) := by
  simp [Channel.send, h]

theorem send_gone {c : Channel α} (h : c.receiverLive = false) (a : α) :
    c.send a = (false, c.dropSender) := by
  simp [Channel.send, Channel.dropSender, h]

theorem poll_pending {c : Channel α} : c.poll = none ↔ c.value = none ∧ c.senderLive = true := by
  unfold Channel.poll
  cases c.value <;> simp

theorem poll_received {c : Channel α} {a : α} : c.poll = some (some a) ↔ c.value = some a := by
  unfold Channel.poll
  cases c.value <;> simp

theorem poll_dropped {c : Channel α} :
    c.poll = some none ↔ c.value = none ∧ c.senderLive = false := by
  unfold Channel.poll
  cases c.value <;> simp

end NacosSdk.Lib.Oneshot
