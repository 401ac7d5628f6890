import NacosSdk.Lib.Cells
import NacosSdk.Remote.Connection

/-!
# The server streams of successive connections

`setup` and `init_connection` of `common/remote/grpc/nacos_grpc_connection.rs`:
every attempt spawns a task for its server stream, and all of them share the
health flag with `poll_ready`. Proved here, for every connection and every
interleaving of the tasks:

* `flag_law`: no old stream clears the flag of its successor and no ended
  stream leaves it set, while a connection is entered only with its stream open
  and every stream before it over;
* `old_stream_clears_flag`: what an old stream that is still open does.
-/

namespace NacosSdk.Remote
open NacosSdk.Common NacosSdk.Lib NacosSdk.Lib.Run

/-- Where the task of a server stream is. -/
inductive StreamTask where
  /-- It waits for the server to open the stream. -/
  | opening
  /-- The stream is open and the task waits for the connection id. -/
  | waiting
  | running
  /-- The loop is over and the health flag exchanged. -/
  | ended
  /-- It returned before its loop. -/
  | closed
  deriving DecidableEq

structure ServerStream where
  task : StreamTask
  /-- The id that the initialisation sent to the task. -/
  connId : Option String
  deriving DecidableEq

def ServerStream.over (s : ServerStream) : Bool := s.task = .ended || s.task = .closed

/-- The stream is opened. -/
def ServerStream.opened (s : ServerStream) : Option ServerStream :=
  if s.task = .opening then some { s with task := .waiting } else none

/-- "can't open server stream": the task returns, and leaves the flag alone. -/
def ServerStream.notOpened (s : ServerStream) : Option ServerStream :=
  if s.task = .opening then some { s with task := .closed } else none

/-- `conn_id_sender.send`, which fails when the task has returned. -/
def ServerStream.sendId (id : String) (s : ServerStream) : Option ServerStream :=
  if (s.task = .opening ∨ s.task = .waiting) ∧ s.connId = none then
    some { s with connId := some id }
  else none

/-- The task receives the id and enters its loop. -/
def ServerStream.takeId (s : ServerStream) : Option ServerStream :=
  if s.task = .waiting ∧ s.connId.isSome then some { s with task := .running } else none

/-- The sender was dropped and the task returns. -/
def ServerStream.noId (s : ServerStream) : Option ServerStream :=
  if s.task = .waiting ∧ s.connId = none then some { s with task := .closed } else none

/-- The loop ends. -/
def ServerStream.ended (s : ServerStream) : Option ServerStream :=
  if s.task = .running then some { s with task := .ended } else none

/-- A connection with the streams of all its attempts. -/
structure Streamed where
  conn : NacosGrpcConnection
  streams : Cells ServerStream
  /-- The stream of the present attempt. -/
  current : Option Nat

def Streamed.new (maxRetries : Option UInt32) : Streamed where
  conn := NacosGrpcConnection.new maxRetries
  streams := []
  current := none

inductive StreamEvent where
  | pass (polls : Polls)
  | clearHealth
  | spawn
  | opened (n : Nat)
  | notOpened (n : Nat)
  | sendId (id : String)
  | takeId (n : Nat)
  | noId (n : Nat)
  | ended (n : Nat)

/-- The stream `n` takes a step of its own. -/
def Streamed.stream (t : Streamed) (n : Nat) (f : ServerStream → Option ServerStream) :
    Option Streamed :=
  ((t.streams.load n).bind f).map fun s => { t with streams := t.streams.store n s }

/-- The id that the present attempt has sent to its stream. -/
def Streamed.currentId (t : Streamed) : Option String :=
  (t.current.bind t.streams.load).bind ServerStream.connId

/-- The future of `init_connection` is done exactly when it has sent the id. -/
def Streamed.answers (t : Streamed) (polls : Polls) : Bool :=
  match polls.init with
  | .ready (.ok id) => t.currentId = some id
  | _ => t.currentId = none

/-- The pass makes a new `init_connection` future. -/
def startsInit (c c' : NacosGrpcConnection) : Bool :=
  c.state = .connecting && c'.state = .initializing

def Streamed.step (t : Streamed) : StreamEvent → Option Streamed
  | .pass polls =>
    if t.conn.state = .initializing ∧ t.answers polls = false then none
    else
      some { t with
        conn := (t.conn.pass polls).1
        current := if startsInit t.conn (t.conn.pass polls).1 then none else t.current }
  | .clearHealth => some { t with conn := t.conn.clearHealth }
  | .spawn =>
    if t.conn.state = .initializing ∧ t.current = none then
      some { t with
        streams := t.streams.make { task := .opening, connId := none }
        current := some t.streams.fresh }
    else none
  | .opened n => t.stream n ServerStream.opened
  | .notOpened n => t.stream n ServerStream.notOpened
  | .sendId id =>
    if t.conn.state = .initializing then
      t.current.bind fun n => t.stream n (ServerStream.sendId id)
    else none
  | .takeId n => t.stream n ServerStream.takeId
  | .noId n =>
    if t.conn.state = .initializing ∧ t.current = some n then none
    else t.stream n ServerStream.noId
  | .ended n => (t.stream n ServerStream.ended).map fun t => { t with conn := t.conn.clearHealth }

/-- While connected, the end of an old stream leaves the flag set, and the end
of the own stream has cleared it. -/
structure Streamed.FlagLaw (t : Streamed) : Prop where
  old : ∀ n t', t.conn.state = .connected → t.current ≠ some n →
    t.step (.ended n) = some t' → t.conn.health = true → t'.conn.health = true
  own : ∀ n s, t.conn.state = .connected → t.current = some n → t.streams.load n = some s →
    s.over = true → t.conn.health = false

/-- The own stream is open, and every other stream that has its id is over. -/
def Streamed.Settled (t : Streamed) : Prop :=
  ∀ n < t.streams.length, ∀ s ∈ t.streams.load n, s.connId.isSome = true →
    if t.current = some n then s.task = .waiting ∨ s.task = .running else s.over = true

instance (t : Streamed) : Decidable t.Settled := by
  unfold Streamed.Settled
  infer_instance

/-- The pass finds the initialisation done. -/
def Streamed.connects (t : Streamed) : Bool :=
  t.conn.state = .initializing && !t.conn.givesUp && t.currentId.isSome

/-- A connection is entered in a settled state. -/
def Streamed.EntersSettled (t : Streamed) : StreamEvent → Prop
  | .pass _ => t.connects = true → t.Settled
  | _ => True

instance (t : Streamed) : DecidablePred t.EntersSettled
  | .pass _ => inferInstanceAs (Decidable (t.connects = true → t.Settled))
  | .clearHealth => inferInstanceAs (Decidable True)
  | .spawn => inferInstanceAs (Decidable True)
  | .opened _ => inferInstanceAs (Decidable True)
  | .notOpened _ => inferInstanceAs (Decidable True)
  | .sendId _ => inferInstanceAs (Decidable True)
  | .takeId _ => inferInstanceAs (Decidable True)
  | .noId _ => inferInstanceAs (Decidable True)
  | .ended _ => inferInstanceAs (Decidable True)

/-! ## One step of a stream -/

theorem stream_eq {t t' : Streamed} {n : Nat} {f : ServerStream → Option ServerStream}
    (h : t.stream n f = some t') :
    ∃ s s', t.streams.load n = some s ∧ f s = some s' ∧
      t' = { t with streams := t.streams.store n s' } := by
  unfold Streamed.stream at h
  obtain ⟨s', hs', rfl⟩ := Option.map_eq_some_iff.mp h
  obtain ⟨s, hs, hf⟩ := Option.bind_eq_some_iff.mp hs'
  exact ⟨s, s', hs, hf, rfl⟩

theorem load_store_cases {streams : Cells ServerStream} {n m : Nat} {s s' r : ServerStream}
    (hs : streams.load n = some s) (hr : (streams.store n s').load m = some r) :
    (m = n ∧ r = s') ∨ (m ≠ n ∧ streams.load m = some r) := by
  by_cases hm : m = n
  · subst hm
    rw [load_store_self _ _ (lt_fresh_of_load hs)] at hr
    exact Or.inl ⟨rfl, (Option.some.inj hr).symm⟩
  · rw [load_store_ne _ _ (Ne.symm hm)] at hr
    exact Or.inr ⟨hm, hr⟩

/-- The invariant of the guarded runs. -/
structure Streamed.Sound (t : Streamed) : Prop where
  /-- The own stream has its id, is open or was, and has cleared the flag if it is over. -/
  own : t.conn.state = .connected → ∃ n s, t.current = some n ∧ t.streams.load n = some s ∧
    s.connId.isSome = true ∧ s.task ≠ .opening ∧ (s.over = true → t.conn.health = false)
  old : t.conn.state = .connected → ∀ n s, t.current ≠ some n → t.streams.load n = some s →
    s.connId.isSome = true → s.over = true
  running : ∀ n s, t.streams.load n = some s → s.task = .running → s.connId.isSome = true

theorem new_streamed_sound (maxRetries : Option UInt32) : (Streamed.new maxRetries).Sound where
  own := fun h => by cases h
  old := fun h => by cases h
  running := fun n s h => by simp [Streamed.new, Cells.load] at h

theorem Streamed.Sound.flagLaw {t : Streamed} (h : t.Sound) : t.FlagLaw := by
  constructor
  · intro n t' hstate hother hstep _
    obtain ⟨t'', hstream, rfl⟩ := Option.map_eq_some_iff.mp hstep
    obtain ⟨s, s', hs, hended, rfl⟩ := stream_eq hstream
    -- an old stream with its id is over, so it cannot end again
    have hrun : s.task = .running := by
      unfold ServerStream.ended at hended
      split at hended
      · assumption
      · cases hended
    have hover := h.old hstate n s hother hs (h.running n s hs hrun)
    simp [ServerStream.over, hrun] at hover
  · intro n s hstate hcurrent hs hover
    obtain ⟨n', s', hcurrent', hs', _, _, hflag⟩ := h.own hstate
    rw [hcurrent] at hcurrent'
    obtain rfl := Option.some.inj hcurrent'
    rw [hs] at hs'
    obtain rfl := Option.some.inj hs'
    exact hflag hover

theorem Streamed.Sound.clearHealth {t : Streamed} (h : t.Sound) :
    Streamed.Sound { t with conn := t.conn.clearHealth } where
  own := by
    intro hstate
    obtain ⟨n, s, hcurrent, hs, hid, hopen, _⟩ := h.own hstate
    exact ⟨n, s, hcurrent, hs, hid, hopen, fun _ => rfl⟩
  old := h.old
  running := h.running

/-- A stream with its id stays opened, and is over only if it was or the flag
is cleared. -/
theorem Streamed.Sound.stream {t : Streamed} (h : t.Sound) {n : Nat} {s s' : ServerStream}
    (hs : t.streams.load n = some s) (hid : s'.connId = s.connId)
    (hrun : s'.task = .running → s.connId.isSome = true)
    (hover : s.over = true → s'.over = true)
    (hown : s.connId.isSome = true → s.task ≠ .opening →
      s'.task ≠ .opening ∧ (s'.over = true → s.over = true ∨ t.conn.health = false)) :
    Streamed.Sound { t with streams := t.streams.store n s' } := by
  constructor
  · intro hstate
    obtain ⟨m, r, hcurrent, hr, hrid, hopen, hflag⟩ := h.own hstate
    by_cases hm : m = n
    · subst hm
      rw [hs] at hr
      obtain rfl := Option.some.inj hr
      obtain ⟨hopen', hover'⟩ := hown hrid hopen
      refine ⟨m, s', hcurrent, load_store_self _ _ (lt_fresh_of_load hs), hid ▸ hrid, hopen', ?_⟩
      intro ho
      rcases hover' ho with hold | hclear
      · exact hflag hold
      · exact hclear
    · exact ⟨m, r, hcurrent, (load_store_ne _ _ (Ne.symm hm)).trans hr, hrid, hopen, hflag⟩
  · intro hstate m r hother hr hrid
    rcases load_store_cases hs hr with ⟨rfl, rfl⟩ | ⟨_, hold⟩
    · exact hover (h.old hstate _ s hother hs (hid ▸ hrid))
    · exact h.old hstate m r hother hold hrid
  · intro m r hr hrunning
    rcases load_store_cases hs hr with ⟨rfl, rfl⟩ | ⟨_, hold⟩
    · rw [hid]
      exact hrun hrunning
    · exact h.running m r hold hrunning

/-- Outside `Connected` only the running streams matter. -/
theorem Streamed.Sound.unconnected {t' : Streamed} (hstate : t'.conn.state ≠ .connected)
    (hrun : ∀ n s, t'.streams.load n = some s → s.task = .running → s.connId.isSome = true) :
    t'.Sound where
  own := fun hc => absurd hc hstate
  old := fun hc => absurd hc hstate
  running := hrun

theorem Streamed.Sound.opened {t : Streamed} (h : t.Sound) {n : Nat} {s s' : ServerStream}
    (hs : t.streams.load n = some s) (hf : s.opened = some s') :
    Streamed.Sound { t with streams := t.streams.store n s' } := by
  unfold ServerStream.opened at hf
  split at hf
  · next htask =>
    obtain rfl := Option.some.inj hf
    exact h.stream hs rfl (fun hr => by cases hr)
      (fun ho => by simp [ServerStream.over, htask] at ho) fun _ hne => absurd htask hne
  · cases hf

theorem Streamed.Sound.notOpened {t : Streamed} (h : t.Sound) {n : Nat} {s s' : ServerStream}
    (hs : t.streams.load n = some s) (hf : s.notOpened = some s') :
    Streamed.Sound { t with streams := t.streams.store n s' } := by
  unfold ServerStream.notOpened at hf
  split at hf
  · next htask =>
    obtain rfl := Option.some.inj hf
    exact h.stream hs rfl (fun hr => by cases hr) (fun _ => rfl) fun _ hne => absurd htask hne
  · cases hf

theorem Streamed.Sound.takeId {t : Streamed} (h : t.Sound) {n : Nat} {s s' : ServerStream}
    (hs : t.streams.load n = some s) (hf : s.takeId = some s') :
    Streamed.Sound { t with streams := t.streams.store n s' } := by
  unfold ServerStream.takeId at hf
  split at hf
  · next htask =>
    obtain rfl := Option.some.inj hf
    refine h.stream hs rfl (fun _ => htask.2)
      (fun ho => by simp [ServerStream.over, htask.1] at ho) fun _ _ => ⟨by simp, ?_⟩
    intro ho
    cases ho
  · cases hf

theorem Streamed.Sound.noId {t : Streamed} (h : t.Sound) {n : Nat} {s s' : ServerStream}
    (hs : t.streams.load n = some s) (hf : s.noId = some s') :
    Streamed.Sound { t with streams := t.streams.store n s' } := by
  unfold ServerStream.noId at hf
  split at hf
  · next htask =>
    obtain rfl := Option.some.inj hf
    refine h.stream hs rfl (fun hr => by cases hr) (fun _ => rfl) fun hid _ => ?_
    rw [htask.2] at hid
    cases hid
  · cases hf

/-- The end of a stream comes with the exchange of the flag. -/
theorem Streamed.Sound.ended {t : Streamed} (h : t.Sound) {n : Nat} {s s' : ServerStream}
    (hs : t.streams.load n = some s) (hf : s.ended = some s') :
    Streamed.Sound
      { t with streams := t.streams.store n s', conn := t.conn.clearHealth } := by
  unfold ServerStream.ended at hf
  split at hf
  · next htask =>
    obtain rfl := Option.some.inj hf
    exact h.clearHealth.stream hs rfl (fun hr => by cases hr) (fun _ => rfl)
      fun _ _ => ⟨by simp, fun _ => Or.inr rfl⟩
  · cases hf

theorem Streamed.Sound.spawn {t : Streamed} (h : t.Sound) (hstate : t.conn.state = .initializing) :
    Streamed.Sound { t with
      streams := t.streams.make { task := .opening, connId := none }
      current := some t.streams.fresh } := by
  apply Streamed.Sound.unconnected (by rw [hstate]; simp)
  intro n s hs hrun
  by_cases hn : n < t.streams.fresh
  · rw [load_make_of_lt _ _ hn] at hs
    exact h.running n s hs hrun
  · have hlast : n = t.streams.fresh := by
      have hlt := lt_fresh_of_load hs
      rw [fresh_make] at hlt
      omega
    subst hlast
    rw [load_make_fresh] at hs
    obtain rfl := Option.some.inj hs
    cases hrun

theorem Streamed.Sound.sendId {t : Streamed} (h : t.Sound) (hstate : t.conn.state = .initializing)
    {id : String} {n : Nat} {s s' : ServerStream} (hs : t.streams.load n = some s)
    (hf : s.sendId id = some s') :
    Streamed.Sound { t with streams := t.streams.store n s' } := by
  apply Streamed.Sound.unconnected (by rw [hstate]; simp)
  intro m r hr hrun
  rcases load_store_cases hs hr with ⟨rfl, rfl⟩ | ⟨_, hold⟩
  · unfold ServerStream.sendId at hf
    split at hf
    · obtain rfl := Option.some.inj hf
      rfl
    · cases hf
  · exact h.running m r hold hrun

/-! ## A pass of `poll_ready` -/

/-- A pass that ends in `Connected` left the connection as it was or found the
initialisation done. -/
theorem pass_connected {c : NacosGrpcConnection} (polls : Polls)
    (h : (c.pass polls).1.state = .connected) :
    (c.state = .connected ∧ (c.pass polls).1.health = c.health) ∨
      (c.state = .initializing ∧ c.givesUp = false ∧ ∃ id, polls.init = .ready (.ok id)) := by
  have hp := passed c polls
  generalize (c.pass polls).1 = c', (c.pass polls).2 = r at hp h
  cases hp with
  | gaveUp _ => exact Or.inl ⟨h, rfl⟩
  | waited => exact Or.inl ⟨h, rfl⟩
  | served hs _ => exact Or.inl ⟨hs, rfl⟩
  | initialized id hs hinit hg => exact Or.inr ⟨hs, hg, id, hinit⟩
  | started _ => cases h
  | linked _ => cases h
  | notLinked _ _ => cases h
  | notInitialized _ _ => cases h
  | unhealthy _ _ _ => cases h
  | broken _ _ => cases h
  | slept _ => cases h

theorem startsInit_of_connected {c c' : NacosGrpcConnection} (h : c'.state = .connected) :
    startsInit c c' = false := by
  simp [startsInit, h]

theorem currentId_eq {t : Streamed} {id : String} (h : t.currentId = some id) :
    ∃ n s, t.current = some n ∧ t.streams.load n = some s ∧ s.connId = some id := by
  unfold Streamed.currentId at h
  obtain ⟨s, hs, hid⟩ := Option.bind_eq_some_iff.mp h
  obtain ⟨n, hn, hload⟩ := Option.bind_eq_some_iff.mp hs
  exact ⟨n, s, hn, hload, hid⟩

/-- A connection that is entered in a settled state. -/
theorem Streamed.Settled.own {t : Streamed} (h : t.Settled) {id : String}
    (hid : t.currentId = some id) :
    ∃ n s, t.current = some n ∧ t.streams.load n = some s ∧ s.connId.isSome = true ∧
      s.task ≠ .opening ∧ s.over = false := by
  obtain ⟨n, s, hcurrent, hs, hconn⟩ := currentId_eq hid
  have hsome : s.connId.isSome = true := by rw [hconn]; rfl
  have hopen := h n (lt_fresh_of_load hs) s hs hsome
  rw [if_pos hcurrent] at hopen
  refine ⟨n, s, hcurrent, hs, hsome, ?_⟩
  rcases hopen with htask | htask <;> simp [ServerStream.over, htask]

theorem Streamed.Settled.old {t : Streamed} (h : t.Settled) {n : Nat} {s : ServerStream}
    (hother : t.current ≠ some n) (hs : t.streams.load n = some s)
    (hid : s.connId.isSome = true) : s.over = true := by
  have hover := h n (lt_fresh_of_load hs) s hs hid
  rwa [if_neg hother] at hover

theorem Streamed.Sound.pass {t : Streamed} (h : t.Sound) {polls : Polls}
    (hok : t.EntersSettled (.pass polls))
    (hanswers : ¬ (t.conn.state = .initializing ∧ t.answers polls = false)) :
    Streamed.Sound { t with
      conn := (t.conn.pass polls).1
      current := if startsInit t.conn (t.conn.pass polls).1 then none else t.current } := by
  by_cases hc : (t.conn.pass polls).1.state = .connected
  · rw [startsInit_of_connected hc]
    simp only [Bool.false_eq_true, ↓reduceIte]
    rcases pass_connected polls hc with ⟨hstate, hhealth⟩ | ⟨hstate, hg, id, hinit⟩
    · refine ⟨fun _ => ?_, fun _ => h.old hstate, h.running⟩
      show ∃ n s, _ ∧ _ ∧ _ ∧ _ ∧ (_ → (t.conn.pass polls).1.health = false)
      rw [hhealth]
      exact h.own hstate
    · have hid : t.currentId = some id := by
        by_contra hne
        exact hanswers ⟨hstate, by simp [Streamed.answers, hinit, hne]⟩
      have hsettled : t.Settled := hok (by simp [Streamed.connects, hstate, hg, hid])
      refine ⟨fun _ => ?_, fun _ n s => hsettled.old, h.running⟩
      obtain ⟨n, s, hcurrent, hs, hsome, hopen, hover⟩ := hsettled.own hid
      refine ⟨n, s, hcurrent, hs, hsome, hopen, fun ho => ?_⟩
      rw [hover] at ho
      cases ho
  · exact Streamed.Sound.unconnected hc h.running

theorem streamed_step {t t' : Streamed} {e : StreamEvent} (hok : t.EntersSettled e)
    (hs : t.step e = some t') (h : t.Sound) : t'.Sound := by
  cases e with
  | pass polls =>
    simp only [Streamed.step] at hs
    split at hs
    · cases hs
    · next hanswers =>
      obtain rfl := Option.some.inj hs
      exact h.pass hok hanswers
  | clearHealth =>
    obtain rfl := Option.some.inj hs
    exact h.clearHealth
  | spawn =>
    simp only [Streamed.step] at hs
    split at hs
    · next hspawn =>
      obtain rfl := Option.some.inj hs
      exact h.spawn hspawn.1
    · cases hs
  | opened n =>
    obtain ⟨s, s', hload, hf, rfl⟩ := stream_eq hs
    exact h.opened hload hf
  | notOpened n =>
    obtain ⟨s, s', hload, hf, rfl⟩ := stream_eq hs
    exact h.notOpened hload hf
  | sendId id =>
    simp only [Streamed.step] at hs
    split at hs
    · next hstate =>
      obtain ⟨n, _, hstream⟩ := Option.bind_eq_some_iff.mp hs
      obtain ⟨s, s', hload, hf, rfl⟩ := stream_eq hstream
      exact h.sendId hstate hload hf
    · cases hs
  | takeId n =>
    obtain ⟨s, s', hload, hf, rfl⟩ := stream_eq hs
    exact h.takeId hload hf
  | noId n =>
    simp only [Streamed.step] at hs
    split at hs
    · cases hs
    · obtain ⟨s, s', hload, hf, rfl⟩ := stream_eq hs
      exact h.noId hload hf
  | ended n =>
    obtain ⟨t'', hstream, rfl⟩ := Option.map_eq_some_iff.mp hs
    obtain ⟨s, s', hload, hf, rfl⟩ := stream_eq hstream
    exact h.ended hload hf

/-- **The health flag and the streams.** In every run in which each connection is
entered with its own stream open and every older one over, no old stream clears
the flag of a connection, and the flag is clear once the own stream is over. -/
theorem flag_law {maxRetries : Option UInt32} {es : List StreamEvent} {t : Streamed}
    (h : Reaches Streamed.step Streamed.EntersSettled (Streamed.new maxRetries) es t) :
    t.FlagLaw := by
  apply Streamed.Sound.flagLaw
  apply Reaches.invariant (I := Streamed.Sound) _ h (new_streamed_sound maxRetries)
  intro t e t' hok hs hsound
  exact streamed_step hok hs hsound

/-! ## A reconnection, with the old stream closed or open -/

/-- A connection under `id`, whose stream is the `n`th, up to the id. -/
def initEvents (n : Nat) (id : String) : List StreamEvent :=
  [.pass (pollsDone id), .pass (pollsDone id), .spawn, .opened n, .sendId id]

def enterEvents (n : Nat) (id : String) : List StreamEvent :=
  initEvents n id ++ [.pass (pollsDone id), .takeId n]

/-- The first stream ends, `poll_ready` sees the flag and connects again. -/
def closedFirst : List StreamEvent :=
  enterEvents 0 "1" ++ [.ended 0, .pass (pollsDone "1"), .pass (pollsDone "1")] ++ enterEvents 1 "2"

theorem flag_law_closedFirst :
    ((run Streamed.step (Streamed.new none) closedFirst).getD (Streamed.new none)).FlagLaw :=
  flag_law (runDecided_reaches Streamed.EntersSettled (by decide +kernel) _)

/-- A failed health check clears the flag while the first stream is open. -/
def leftOpen : List StreamEvent :=
  enterEvents 0 "1" ++ [.clearHealth, .pass (pollsDone "1"), .pass (pollsDone "1")] ++
    enterEvents 1 "2"

/-- The old stream ends after its successor is connected and clears the flag. -/
theorem old_stream_clears_flag :
    ¬ ∀ es t, Reaches Streamed.step anyStep (Streamed.new none) es t → t.FlagLaw := by
  intro h
  let t := (run Streamed.step (Streamed.new none) leftOpen).getD (Streamed.new none)
  have hrun : (run Streamed.step (Streamed.new none) leftOpen).isSome = true := by
    decide +kernel
  have hlaw : t.FlagLaw := h _ _ (run_getD_reaches hrun (Streamed.new none))
  have hended : (t.step (.ended 0)).map (fun t => t.conn.health) = some false := by
    decide +kernel
  obtain ⟨t', ht', hcleared⟩ := Option.map_eq_some_iff.mp hended
  have hflag := hlaw.old 0 t' (by decide +kernel) (by decide +kernel) ht' (by decide +kernel)
  rw [hcleared] at hflag
  cases hflag

/-- The own stream ends between the id and the store of the flag, which is then
set for a connection without a stream. -/
theorem ended_stream_keeps_flag :
    ∃ es t, Reaches Streamed.step anyStep (Streamed.new none) es t ∧
      t.conn.state = .connected ∧ t.conn.health = true ∧
      (t.current.bind t.streams.load).map ServerStream.over = some true := by
  let es := initEvents 0 "1" ++ [.takeId 0, .ended 0, .pass (pollsDone "1")]
  have hrun : (run Streamed.step (Streamed.new none) es).isSome = true := by decide +kernel
  exact ⟨es, _, run_getD_reaches hrun (Streamed.new none), by decide +kernel, by decide +kernel,
    by decide +kernel⟩

end NacosSdk.Remote
