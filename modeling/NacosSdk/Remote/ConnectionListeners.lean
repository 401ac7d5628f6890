import NacosSdk.Remote.Connection

/-!
# The connected and the disconnected listener

`connected_listener` and `disconnected_listener` of
`common/remote/grpc/nacos_grpc_connection.rs`: two tasks that follow the
connection id, a channel that keeps only the latest value. Proved here, for
every connection and every schedule of the two tasks:

* `sends_eq`: the values that the passes of `poll_ready` send;
* `listeners_called`: both listeners are called as they should be while no
  value is sent over one that a task still needs;
* `listeners_missed`: a reconnection that a task sleeps through is lost.
-/

namespace NacosSdk.Remote
open NacosSdk.Common NacosSdk.Lib NacosSdk.Lib.Run

/-- The call of the connected listener: from no id to an id. -/
def connectedRule (previous current : Option String) : Option String :=
  if previous.isNone then current else none

/-- The call of the disconnected listener: from an id to no id. -/
def disconnectedRule (previous current : Option String) : Option String :=
  if current.isNone then previous else none

abbrev ListenerTask := Follower (Option String) String

/-- The value that one pass sends to the watcher of the connection id. -/
def NacosGrpcConnection.sends (c : NacosGrpcConnection) (polls : Polls) : Option (Option String) :=
  if c.givesUp then none
  else
    match c.state with
    | .idle => some none
    | .initializing =>
      match polls.init with
      | .ready (.ok id) => some (some id)
      | _ => none
    | _ => none

/-- The watcher after a pass is the one before it or holds what the pass sent. -/
theorem sends_eq (c : NacosGrpcConnection) (polls : Polls) :
    (c.pass polls).1.connectionIdWatcher =
      (c.sends polls).elim c.connectionIdWatcher c.connectionIdWatcher.send := by
  unfold NacosGrpcConnection.pass NacosGrpcConnection.sends
  by_cases hg : c.givesUp = true
  · rw [if_pos hg, if_pos hg]
    rfl
  · rw [if_neg hg, if_neg hg]
    unfold NacosGrpcConnection.attend
    cases hs : c.state with
    | idle => rfl
    | connecting => rcases polls.makeService with _ | _ | _ <;> rfl
    | initializing => rcases polls.init with _ | _ | _ <;> rfl
    | connected =>
      rcases polls.service with _ | _ | _
      · rfl
      · rfl
      · cases hh : c.health <;> rfl
    | retry n => cases polls.sleep <;> rfl

theorem sends_some_state {c : NacosGrpcConnection} {polls : Polls} {id : String}
    (h : c.sends polls = some (some id)) : c.state = .initializing := by
  unfold NacosGrpcConnection.sends at h
  split at h
  · cases h
  · cases hs : c.state <;> simp [hs] at h ⊢

/-! ## What a listener has heard -/

/-- The listener tasks beside the watcher and all values that were sent to it. -/
structure Heard (w : Watch (Option String)) (connected disconnected : ListenerTask)
    (sent : List (Option String)) : Prop where
  connected_tracks : Tracks w connected
  disconnected_tracks : Tracks w disconnected
  last : sent.getLast?.getD none = w.value
  /-- The present connection is announced, or the task reads it next. -/
  announced : ∀ id, w.value = some id → id ∈ connected.calls ∨ connected.previous = none
  /-- The end of an earlier one is announced, or the task reads it next. -/
  closed : ∀ id, some id ∈ sent.dropLast →
    id ∈ disconnected.calls ∨ (disconnected.previous = some id ∧ w.value = none)

variable {w : Watch (Option String)} {connected connected' disconnected disconnected' : ListenerTask}
  {sent : List (Option String)}

theorem follow_heard : Heard (Watch.channel none) ((Watch.channel none).follow none)
    ((Watch.channel none).follow none) [] where
  connected_tracks := follow_tracks _
  disconnected_tracks := follow_tracks _
  last := rfl
  announced := fun _ h => by cases h
  closed := fun _ h => by cases h

/-- A value of the history was sent before the last one or is the present one. -/
theorem Heard.mem_sent (h : Heard w connected disconnected sent) {id : String}
    (hm : some id ∈ sent) : some id ∈ sent.dropLast ∨ w.value = some id := by
  have hne : sent ≠ [] := by
    rintro rfl
    cases hm
  have hlast := h.last
  rw [List.getLast?_eq_some_getLast hne, Option.getD_some] at hlast
  rw [← List.dropLast_append_getLast hne, List.mem_append, List.mem_singleton, hlast] at hm
  rcases hm with hm | hm
  · exact Or.inl hm
  · exact Or.inr hm.symm

theorem Heard.send_none (h : Heard w connected disconnected sent)
    (hseen : w.value = none ∨ disconnected.previous = w.value) :
    Heard (w.send none) connected disconnected (sent ++ [none]) where
  connected_tracks := h.connected_tracks.send none
  disconnected_tracks := h.disconnected_tracks.send none
  last := by simp [Watch.send]
  announced := fun _ hv => by cases hv
  closed := by
    intro id hm
    rw [List.dropLast_concat] at hm
    rcases h.mem_sent hm with hold | hv
    · rcases h.closed id hold with hcalled | ⟨hprevious, _⟩
      · exact Or.inl hcalled
      · exact Or.inr ⟨hprevious, rfl⟩
    · rcases hseen with hnone | hprevious
      · rw [hnone] at hv
        cases hv
      · exact Or.inr ⟨hprevious.trans hv, rfl⟩

theorem Heard.send_some (h : Heard w connected disconnected sent) (hw : w.value = none)
    (hc : connected.previous = none) (hd : disconnected.previous = none) (id : String) :
    Heard (w.send (some id)) connected disconnected (sent ++ [some id]) where
  connected_tracks := h.connected_tracks.send _
  disconnected_tracks := h.disconnected_tracks.send _
  last := by simp [Watch.send]
  announced := fun _ _ => Or.inr hc
  closed := by
    intro id' hm
    rw [List.dropLast_concat] at hm
    rcases h.mem_sent hm with hold | hv
    · rcases h.closed id' hold with hcalled | ⟨hprevious, _⟩
      · exact Or.inl hcalled
      · rw [hd] at hprevious
        cases hprevious
    · rw [hw] at hv
      cases hv

theorem Heard.wake_connected (h : Heard w connected disconnected sent)
    (hwake : connected.wake w = some connected') : Heard w connected' disconnected sent := by
  refine ⟨h.connected_tracks.wake hwake, h.disconnected_tracks, h.last, ?_, h.closed⟩
  rw [wake_eq hwake]
  exact h.announced

theorem Heard.wake_disconnected (h : Heard w connected disconnected sent)
    (hwake : disconnected.wake w = some disconnected') : Heard w connected disconnected' sent := by
  refine ⟨h.connected_tracks, h.disconnected_tracks.wake hwake, h.last, h.announced, ?_⟩
  rw [wake_eq hwake]
  exact h.closed

theorem Heard.read_connected (h : Heard w connected disconnected sent)
    (hread : connected.read connectedRule w = some connected') :
    Heard w connected' disconnected sent := by
  refine ⟨h.connected_tracks.read hread, h.disconnected_tracks, h.last, ?_, h.closed⟩
  intro id hv
  refine Or.inl ((mem_calls_read hread id).mpr ?_)
  rcases h.announced id hv with hcalled | hprevious
  · exact Or.inl hcalled
  · exact Or.inr (by simp [connectedRule, hprevious, hv])

theorem Heard.read_disconnected (h : Heard w connected disconnected sent)
    (hread : disconnected.read disconnectedRule w = some disconnected') :
    Heard w connected disconnected' sent := by
  refine ⟨h.connected_tracks, h.disconnected_tracks.read hread, h.last, h.announced, ?_⟩
  intro id hm
  refine Or.inl ((mem_calls_read hread id).mpr ?_)
  rcases h.closed id hm with hcalled | ⟨hprevious, hv⟩
  · exact Or.inl hcalled
  · exact Or.inr (by simp [disconnectedRule, hprevious, hv])

/-! ## The connection and the two tasks -/

inductive ListenEvent where
  | pass (polls : Polls)
  | clearHealth
  | wakeConnected
  | readConnected
  | wakeDisconnected
  | readDisconnected

/-- A connection with its listener tasks and every value it sent. -/
structure Listened where
  conn : NacosGrpcConnection
  connected : ListenerTask
  disconnected : ListenerTask
  sent : List (Option String)

/-- `connected_listener` and `disconnected_listener` on a new connection. -/
def Listened.new (maxRetries : Option UInt32) : Listened where
  conn := NacosGrpcConnection.new maxRetries
  connected := (NacosGrpcConnection.new maxRetries).connectionIdWatcher.follow none
  disconnected := (NacosGrpcConnection.new maxRetries).connectionIdWatcher.follow none
  sent := []

def Listened.step (t : Listened) : ListenEvent → Option Listened
  | .pass polls =>
    some { t with
      conn := (t.conn.pass polls).1
      sent := t.sent ++ (t.conn.sends polls).toList }
  | .clearHealth => some { t with conn := t.conn.clearHealth }
  | .wakeConnected =>
    (t.connected.wake t.conn.connectionIdWatcher).map fun task => { t with connected := task }
  | .readConnected =>
    (t.connected.read connectedRule t.conn.connectionIdWatcher).map
      fun task => { t with connected := task }
  | .wakeDisconnected =>
    (t.disconnected.wake t.conn.connectionIdWatcher).map fun task => { t with disconnected := task }
  | .readDisconnected =>
    (t.disconnected.read disconnectedRule t.conn.connectionIdWatcher).map
      fun task => { t with disconnected := task }

/-- Who has caught up has announced the present connection, and the end of
every connection that a later one followed. -/
def Listened.Announced (t : Listened) : Prop :=
  (∀ id, t.connected.CaughtUp t.conn.connectionIdWatcher →
    t.conn.connectionIdWatcher.value = some id → id ∈ t.connected.calls) ∧
  (∀ (i j : Nat) (id later : String), i < j → t.sent[i]? = some (some id) →
    t.sent[j]? = some (some later) → t.disconnected.CaughtUp t.conn.connectionIdWatcher →
    id ∈ t.disconnected.calls)

/-- The value may be sent: an id when both tasks last read that there was none,
and the end of a connection when the disconnected listener's task last read its
id. -/
def Listened.MaySend (t : Listened) : Option (Option String) → Prop
  | none => True
  | some none => t.conn.connectionIdWatcher.value = none ∨
      t.disconnected.previous = t.conn.connectionIdWatcher.value
  | some (some _) => t.connected.previous = none ∧ t.disconnected.previous = none

instance (t : Listened) : DecidablePred t.MaySend
  | none => inferInstanceAs (Decidable True)
  | some none => inferInstanceAs (Decidable (_ = _ ∨ _ = _))
  | some (some _) => inferInstanceAs (Decidable (_ = _ ∧ _ = _))

/-- Nothing is sent over a value that a task still needs. -/
def Listened.NotMissed (t : Listened) : ListenEvent → Prop
  | .pass polls => t.MaySend (t.conn.sends polls)
  | _ => True

instance (t : Listened) : DecidablePred t.NotMissed
  | .pass polls => inferInstanceAs (Decidable (t.MaySend (t.conn.sends polls)))
  | .clearHealth => inferInstanceAs (Decidable True)
  | .wakeConnected => inferInstanceAs (Decidable True)
  | .readConnected => inferInstanceAs (Decidable True)
  | .wakeDisconnected => inferInstanceAs (Decidable True)
  | .readDisconnected => inferInstanceAs (Decidable True)

/-- The invariant of the guarded runs. -/
structure Listened.Sound (t : Listened) : Prop where
  heard : Heard t.conn.connectionIdWatcher t.connected t.disconnected t.sent
  /-- No id is up while a connection is being made. -/
  attempt : t.conn.state = .connecting ∨ t.conn.state = .initializing →
    t.conn.connectionIdWatcher.value = none

theorem new_listened_sound (maxRetries : Option UInt32) : (Listened.new maxRetries).Sound where
  heard := follow_heard
  attempt := fun _ => rfl

theorem pass_attempt {c : NacosGrpcConnection} (polls : Polls)
    (h : c.state = .connecting ∨ c.state = .initializing → c.connectionIdWatcher.value = none)
    (hs : (c.pass polls).1.state = .connecting ∨ (c.pass polls).1.state = .initializing) :
    (c.pass polls).1.connectionIdWatcher.value = none := by
  have hp := passed c polls
  generalize (c.pass polls).1 = c', (c.pass polls).2 = r at hp hs
  cases hp with
  | gaveUp _ => exact h hs
  | waited => exact h hs
  | started _ => rfl
  | linked hc => exact h (Or.inl hc)
  | served _ _ => exact h hs
  | notLinked _ _ => simp [NacosGrpcConnection.toRetry] at hs
  | initialized _ _ _ _ => simp at hs
  | notInitialized _ _ => simp [NacosGrpcConnection.toRetry] at hs
  | unhealthy _ _ _ => simp [NacosGrpcConnection.toRetry] at hs
  | broken _ _ => simp [NacosGrpcConnection.toRetry] at hs
  | slept _ => simp at hs

theorem Listened.Sound.pass {t : Listened} (h : t.Sound) (polls : Polls)
    (hok : t.NotMissed (.pass polls)) :
    Listened.Sound { t with
      conn := (t.conn.pass polls).1
      sent := t.sent ++ (t.conn.sends polls).toList } := by
  refine ⟨?_, pass_attempt polls h.attempt⟩
  show Heard (t.conn.pass polls).1.connectionIdWatcher _ _ _
  rw [sends_eq]
  have hok : t.MaySend (t.conn.sends polls) := hok
  rcases hs : t.conn.sends polls with _ | _ | id
  · simpa using h.heard
  · rw [hs] at hok
    exact h.heard.send_none hok
  · rw [hs] at hok
    have hnone := h.attempt (Or.inr (sends_some_state hs))
    exact h.heard.send_some hnone hok.1 hok.2 id

theorem listened_step {t t' : Listened} {e : ListenEvent} (hok : t.NotMissed e)
    (hs : t.step e = some t') (h : t.Sound) : t'.Sound := by
  cases e with
  | pass polls =>
    obtain rfl := Option.some.inj hs
    exact h.pass polls hok
  | clearHealth =>
    obtain rfl := Option.some.inj hs
    exact ⟨h.heard, h.attempt⟩
  | wakeConnected =>
    obtain ⟨task, htask, rfl⟩ := Option.map_eq_some_iff.mp hs
    exact ⟨h.heard.wake_connected htask, h.attempt⟩
  | readConnected =>
    obtain ⟨task, htask, rfl⟩ := Option.map_eq_some_iff.mp hs
    exact ⟨h.heard.read_connected htask, h.attempt⟩
  | wakeDisconnected =>
    obtain ⟨task, htask, rfl⟩ := Option.map_eq_some_iff.mp hs
    exact ⟨h.heard.wake_disconnected htask, h.attempt⟩
  | readDisconnected =>
    obtain ⟨task, htask, rfl⟩ := Option.map_eq_some_iff.mp hs
    exact ⟨h.heard.read_disconnected htask, h.attempt⟩

theorem Listened.Sound.announced {t : Listened} (h : t.Sound) : t.Announced := by
  constructor
  · intro id hcaught hv
    rcases h.heard.announced id hv with hcalled | hprevious
    · exact hcalled
    · rw [h.heard.connected_tracks.current hcaught, hv] at hprevious
      cases hprevious
  · intro i j id later hij hi hj hcaught
    have hj' : j < t.sent.length := (List.getElem?_eq_some_iff.mp hj).1
    have hm : some id ∈ t.sent.dropLast := by
      apply List.mem_of_getElem? (i := i)
      rw [List.getElem?_dropLast, if_pos (by omega)]
      exact hi
    rcases h.heard.closed id hm with hcalled | ⟨hprevious, hv⟩
    · exact hcalled
    · rw [h.heard.disconnected_tracks.current hcaught, hv] at hprevious
      cases hprevious

/-- **The listeners are called.** In every run in which nothing is sent over a
value that a task still needs, the connected listener has announced the present
connection and the disconnected listener the end of every earlier one, once
their tasks have caught up. -/
theorem listeners_called {maxRetries : Option UInt32} {es : List ListenEvent} {t : Listened}
    (h : Reaches Listened.step Listened.NotMissed (Listened.new maxRetries) es t) :
    t.Announced := by
  apply Listened.Sound.announced
  apply Reaches.invariant (I := Listened.Sound) _ h (new_listened_sound maxRetries)
  intro t e t' hok hs hsound
  exact listened_step hok hs hsound

/-! ## A reconnection, slept through or not -/

/-- From `Idle` to `Connected` under `id`. -/
def connectEvents (id : String) : List ListenEvent :=
  [.pass (pollsDone id), .pass (pollsDone id), .pass (pollsDone id)]

/-- The health flag is cleared and `poll_ready` goes back to `Idle`. -/
def loseEvents (id : String) : List ListenEvent :=
  [.clearHealth, .pass (pollsDone id), .pass (pollsDone id)]

def catchUpEvents : List ListenEvent :=
  [.wakeConnected, .readConnected, .wakeDisconnected, .readDisconnected]

/-- The tasks follow the first connection and read nothing of its end. -/
def sleptThrough : List ListenEvent :=
  connectEvents "1" ++ catchUpEvents ++ loseEvents "1" ++ connectEvents "2" ++ catchUpEvents

/-- The tasks read the end of the first connection before the second is made. -/
def followed : List ListenEvent :=
  connectEvents "1" ++ catchUpEvents ++ loseEvents "1" ++ [.pass (pollsDone "2")] ++
    catchUpEvents ++ [.pass (pollsDone "2"), .pass (pollsDone "2")] ++ catchUpEvents

theorem listeners_called_followed :
    ((run Listened.step (Listened.new none) followed).getD (Listened.new none)).Announced :=
  listeners_called (runDecided_reaches Listened.NotMissed (by decide +kernel) _)

/-- The tasks have caught up with the second connection, and neither listener
was called for the change. -/
theorem listeners_missed :
    ¬ ∀ es t, Reaches Listened.step anyStep (Listened.new none) es t → t.Announced := by
  intro h
  have hrun : (run Listened.step (Listened.new none) sleptThrough).isSome = true := by
    decide +kernel
  obtain ⟨hconnected, _⟩ := h _ _ (run_getD_reaches hrun (Listened.new none))
  exact absurd (hconnected "2" (by decide +kernel) (by decide +kernel)) (by decide +kernel)

end NacosSdk.Remote
