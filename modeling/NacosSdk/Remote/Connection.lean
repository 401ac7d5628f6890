import NacosSdk.Common.Error
import NacosSdk.Lib.Run
import NacosSdk.Lib.Watch

/-!
# The connection state machine

`NacosGrpcConnection` of `common/remote/grpc/nacos_grpc_connection.rs`:
`poll_ready`, one pass of its loop at a time, and `call`. What a polled future
answers comes from outside. Proved here, for every connection and every answer:

* `passed`: all that one pass can do;
* `ready_law_iff`: the settings of `max_retries` for which a connection that
  reports ready is connected and healthy, or has failed to connect;
* `call_serves`: what follows for a request that is sent after it.
-/

namespace NacosSdk.Remote
open NacosSdk.Common NacosSdk.Lib NacosSdk.Lib.Run

/-- `std::task::Poll`. -/
inductive Poll (α : Type) where
  | pending
  | ready (a : α)
  deriving DecidableEq

instance : DecidableEq (Except Error Unit)
  | .ok _, .ok _ => isTrue rfl
  | .error a, .error b => decidable_of_iff (a = b) (by simp)
  | .ok _, .error _ => isFalse (by simp)
  | .error _, .ok _ => isFalse (by simp)

def maxRetry : UInt32 := 6

/-- The pause before the next attempt, in seconds. -/
def sleepTime (retryCount : UInt32) : UInt32 :=
  if retryCount > maxRetry then 1 <<< maxRetry else 1 <<< retryCount

inductive State where
  | idle
  | connecting
  | initializing
  | connected
  | retry (sleep : UInt32)
  deriving DecidableEq

def State.isRetry : State → Bool
  | .retry _ => true
  | _ => false

structure NacosGrpcConnection where
  state : State
  health : Bool
  connectionId : Option String
  retryCount : UInt32
  connectionIdWatcher : Watch (Option String)
  maxRetries : Option UInt32
  isInitialized : Bool

def NacosGrpcConnection.new (maxRetries : Option UInt32) : NacosGrpcConnection where
  state := .idle
  health := false
  connectionId := none
  retryCount := 0
  connectionIdWatcher := Watch.channel none
  maxRetries
  isInitialized := false

/-- What the futures answer when they are polled; a pass polls the one that its
state holds. -/
structure Polls where
  makeService : Poll (Except Error Unit)
  init : Poll (Except Error String)
  service : Poll (Except Error Unit)
  sleep : Poll Unit

/-- Every future is done, and the connection gets `id`. -/
def pollsDone (id : String) : Polls where
  makeService := .ready (.ok ())
  init := .ready (.ok id)
  service := .ready (.ok ())
  sleep := .ready ()

/-- The test at the top of the loop. -/
def NacosGrpcConnection.givesUp (c : NacosGrpcConnection) : Bool :=
  !c.isInitialized && c.retryCount ≥ c.maxRetries.getD 1

/-- Count a failure and sleep before the next attempt. -/
def NacosGrpcConnection.toRetry (c : NacosGrpcConnection) : NacosGrpcConnection :=
  let retryCount := c.retryCount + 1
  { c with retryCount, state := .retry (sleepTime retryCount) }

/-- The match on the state; without a result the loop continues. -/
def NacosGrpcConnection.attend (c : NacosGrpcConnection) (polls : Polls) :
    NacosGrpcConnection × Option (Poll (Except Error Unit)) :=
  match c.state with
  | .idle =>
    ({ c with
        connectionIdWatcher := c.connectionIdWatcher.send none
        state := .connecting }, none)
  | .connecting =>
    match polls.makeService with
    | .pending => (c, some .pending)
    | .ready (.ok ()) => ({ c with state := .initializing }, none)
    | .ready (.error _) => (c.toRetry, none)
  | .initializing =>
    match polls.init with
    | .pending => (c, some .pending)
    | .ready (.ok connectionId) =>
      ({ c with
          connectionIdWatcher := c.connectionIdWatcher.send (some connectionId)
          retryCount := 0
          health := true
          isInitialized := true
          state := .connected
          connectionId := some connectionId }, none)
    | .ready (.error _) => (c.toRetry, none)
  | .connected =>
    match polls.service with
    | .pending => (c, some .pending)
    | .ready (.ok ()) => if !c.health then (c.toRetry, none) else (c, some (.ready (.ok ())))
    | .ready (.error _) => ({ c with health := false }.toRetry, none)
  | .retry _ =>
    match polls.sleep with
    | .pending => (c, some .pending)
    | .ready () => ({ c with state := .idle }, none)

/-- One pass of the loop of `poll_ready`. -/
def NacosGrpcConnection.pass (c : NacosGrpcConnection) (polls : Polls) :
    NacosGrpcConnection × Option (Poll (Except Error Unit)) :=
  if c.givesUp then ({ c with retryCount := 0 }, some (.ready (.ok ()))) else c.attend polls

/-- `call`, where `serve` is the call of the inner service. -/
def NacosGrpcConnection.call {α β : Type} (c : NacosGrpcConnection) (serve : α → Except Error β)
    (req : α) : Except Error β :=
  match c.state with
  | .connected => serve req
  | _ => .error (.errResult "the connection is not connected")

/-- The health flag is shared; whoever holds it may clear it. -/
def NacosGrpcConnection.clearHealth (c : NacosGrpcConnection) : NacosGrpcConnection :=
  { c with health := false }

/-! ## What one pass does -/

/-- The outcomes of one pass, each with the state that it is taken in. -/
inductive Passed (c : NacosGrpcConnection) (polls : Polls) :
    NacosGrpcConnection → Option (Poll (Except Error Unit)) → Prop
  | gaveUp : c.givesUp = true → Passed c polls { c with retryCount := 0 } (some (.ready (.ok ())))
  | waited : Passed c polls c (some .pending)
  | started : c.state = .idle → Passed c polls
      { c with connectionIdWatcher := c.connectionIdWatcher.send none, state := .connecting } none
  | linked : c.state = .connecting → Passed c polls { c with state := .initializing } none
  | notLinked : c.state = .connecting → c.givesUp = false → Passed c polls c.toRetry none
  | initialized (id : String) : c.state = .initializing → polls.init = .ready (.ok id) →
      c.givesUp = false → Passed c polls
        { c with
          connectionIdWatcher := c.connectionIdWatcher.send (some id)
          retryCount := 0
          health := true
          isInitialized := true
          state := .connected
          connectionId := some id } none
  | notInitialized : c.state = .initializing → c.givesUp = false → Passed c polls c.toRetry none
  | served : c.state = .connected → c.health = true → Passed c polls c (some (.ready (.ok ())))
  | unhealthy : c.state = .connected → c.health = false → c.givesUp = false →
      Passed c polls c.toRetry none
  | broken : c.state = .connected → c.givesUp = false →
      Passed c polls { c with health := false }.toRetry none
  | slept : c.state.isRetry = true → Passed c polls { c with state := .idle } none

theorem attended (c : NacosGrpcConnection) (polls : Polls) (h : c.givesUp = false) :
    Passed c polls (c.attend polls).1 (c.attend polls).2 := by
  unfold NacosGrpcConnection.attend
  cases hs : c.state with
  | idle => exact Passed.started hs
  | connecting =>
    rcases hp : polls.makeService with _ | _ | _
    · exact Passed.waited
    · exact Passed.notLinked hs h
    · exact Passed.linked hs
  | initializing =>
    rcases hp : polls.init with _ | _ | id
    · exact Passed.waited
    · exact Passed.notInitialized hs h
    · exact Passed.initialized id hs hp h
  | connected =>
    rcases hp : polls.service with _ | _ | _
    · exact Passed.waited
    · exact Passed.broken hs h
    · cases hh : c.health with
      | false =>
        simp only [Bool.not_false, ↓reduceIte]
        exact Passed.unhealthy hs hh h
      | true =>
        simp only [Bool.not_true, Bool.false_eq_true, ↓reduceIte]
        exact Passed.served hs hh
  | retry n =>
    rcases hp : polls.sleep with _ | _
    · exact Passed.waited
    · exact Passed.slept (by rw [hs]; rfl)

theorem passed (c : NacosGrpcConnection) (polls : Polls) :
    Passed c polls (c.pass polls).1 (c.pass polls).2 := by
  unfold NacosGrpcConnection.pass
  split
  · next h => exact Passed.gaveUp h
  · next h => exact attended c polls (Bool.eq_false_iff.mpr h)

theorem pass_maxRetries (c : NacosGrpcConnection) (polls : Polls) :
    (c.pass polls).1.maxRetries = c.maxRetries := by
  have h := passed c polls
  generalize (c.pass polls).1 = c', (c.pass polls).2 = r at h
  cases h <;> rfl

/-! ## What a connection that reports ready has done -/

inductive PollEvent where
  | pass (polls : Polls)
  | clearHealth

/-- A connection with counts that its code does not read. -/
structure Watched where
  conn : NacosGrpcConnection
  /-- The successful initialisations. -/
  inits : Nat
  /-- The attempts that failed since the connection last reported ready. -/
  failed : Nat

def Watched.new (maxRetries : Option UInt32) : Watched where
  conn := NacosGrpcConnection.new maxRetries
  inits := 0
  failed := 0

/-- The pass from `c` to `c'` ended a connection attempt without a connection. -/
def attemptFailed (c c' : NacosGrpcConnection) : Bool :=
  (c.state = .connecting || c.state = .initializing) && c'.state.isRetry

def initCompleted (c c' : NacosGrpcConnection) : Bool :=
  c.state = .initializing && c'.state = .connected

def Watched.passed (t : Watched) (c : NacosGrpcConnection)
    (result : Option (Poll (Except Error Unit))) : Watched where
  conn := c
  inits := t.inits + (initCompleted t.conn c).toNat
  failed :=
    if result = some (.ready (.ok ())) then 0 else t.failed + (attemptFailed t.conn c).toNat

def Watched.step (t : Watched) : PollEvent → Option Watched
  | .pass polls => some (t.passed (t.conn.pass polls).1 (t.conn.pass polls).2)
  | .clearHealth => some { t with conn := t.conn.clearHealth }

/-- When the next pass reports ready, the connection is connected and was
healthy, or it was never initialised and an attempt has failed. -/
def Watched.ReadyLaw (t : Watched) : Prop :=
  ∀ polls, (t.conn.pass polls).2 = some (.ready (.ok ())) →
    (((t.conn.pass polls).1.state = .connected ∧ t.conn.health = true) ∨
      (t.inits = 0 ∧ 0 < t.failed)) ∧
    (0 < t.inits → (t.conn.pass polls).1.state = .connected)

def Watched.HealthLaw (t : Watched) : Prop := t.conn.health = true → t.conn.state = .connected

/-- What every pass keeps, whatever the setting. -/
structure Watched.Sound (t : Watched) : Prop where
  inits : t.conn.isInitialized = true ↔ 0 < t.inits
  health : t.HealthLaw
  connected : t.conn.state = .connected → t.conn.isInitialized = true
  failed : t.conn.isInitialized = false → t.conn.retryCount ≠ 0 → 0 < t.failed

theorem new_watched_sound (maxRetries : Option UInt32) : (Watched.new maxRetries).Sound where
  inits := by simp [Watched.new, NacosGrpcConnection.new]
  health := fun h => by cases h
  connected := fun h => by cases h
  failed := fun _ h => absurd rfl h

theorem passed_failed {t : Watched} {c : NacosGrpcConnection}
    {result : Option (Poll (Except Error Unit))} (h : result ≠ some (.ready (.ok ()))) :
    (t.passed c result).failed = t.failed + (attemptFailed t.conn c).toNat :=
  if_neg h

theorem passed_inits {t : Watched} {c : NacosGrpcConnection}
    (result : Option (Poll (Except Error Unit))) (h : initCompleted t.conn c = false) :
    (t.passed c result).inits = t.inits := by
  simp [Watched.passed, h]

/-- A failed attempt is counted and the state is left for a pause. -/
theorem Watched.Sound.failedAttempt {t : Watched} (h : t.Sound)
    (hs : t.conn.state = .connecting ∨ t.conn.state = .initializing) :
    (t.passed t.conn.toRetry none).Sound := by
  have hcount : attemptFailed t.conn t.conn.toRetry = true := by
    rcases hs with hs | hs <;>
      simp [attemptFailed, hs, NacosGrpcConnection.toRetry, State.isRetry]
  have hinit : initCompleted t.conn t.conn.toRetry = false := by
    simp [initCompleted, NacosGrpcConnection.toRetry]
  constructor
  · rw [passed_inits none hinit]
    exact h.inits
  · intro hh
    have hstate := h.health hh
    rcases hs with hs | hs <;> rw [hs] at hstate <;> cases hstate
  · intro hc
    cases hc
  · intro _ _
    rw [passed_failed (by simp), hcount]
    show 0 < t.failed + 1
    omega

/-- A connected service that is dropped was initialised before. -/
theorem Watched.Sound.dropped {t : Watched} (h : t.Sound) (hs : t.conn.state = .connected) :
    (t.passed t.conn.clearHealth.toRetry none).Sound := by
  have hi : t.conn.isInitialized = true := h.connected hs
  have hinit : initCompleted t.conn t.conn.clearHealth.toRetry = false := by
    simp [initCompleted, NacosGrpcConnection.toRetry]
  constructor
  · rw [passed_inits none hinit]
    exact h.inits
  · intro hh
    cases hh
  · intro hc
    cases hc
  · intro hn
    have hn' : t.conn.isInitialized = false := hn
    rw [hi] at hn'
    cases hn'

theorem Watched.Sound.initialized {t : Watched} (_ : t.Sound) (id : String)
    (hs : t.conn.state = .initializing) :
    (t.passed
      { t.conn with
        connectionIdWatcher := t.conn.connectionIdWatcher.send (some id)
        retryCount := 0
        health := true
        isInitialized := true
        state := .connected
        connectionId := some id } none).Sound where
  inits := by simp [Watched.passed, initCompleted, hs]
  health := fun _ => rfl
  connected := fun _ => rfl
  failed := fun hn => by cases hn

/-- A pass that neither ends an attempt nor makes a connection. -/
theorem Watched.Sound.quiet {t : Watched} (h : t.Sound) {c : NacosGrpcConnection}
    {result : Option (Poll (Except Error Unit))} (hinit : initCompleted t.conn c = false)
    (hi : c.isInitialized = t.conn.isInitialized)
    (hh : c.health = true → c.state = .connected)
    (hc : c.state = .connected → t.conn.state = .connected)
    (hf : c.isInitialized = false → c.retryCount ≠ 0 →
      t.conn.retryCount ≠ 0 ∧ result ≠ some (.ready (.ok ()))) :
    (t.passed c result).Sound := by
  constructor
  · rw [passed_inits result hinit]
    show c.isInitialized = true ↔ _
    rw [hi]
    exact h.inits
  · exact hh
  · intro hs
    show c.isInitialized = true
    rw [hi]
    exact h.connected (hc hs)
  · intro hn hr
    obtain ⟨hold, hresult⟩ := hf hn hr
    have hold := h.failed (hi ▸ hn) hold
    rw [passed_failed hresult]
    omega

/-- A pass from one state without a connection to another. -/
theorem Watched.Sound.movedOn {t : Watched} (h : t.Sound) {c : NacosGrpcConnection}
    (hs : t.conn.state ≠ .connected) (hc : c.state ≠ .connected)
    (hhealth : c.health = t.conn.health) (hi : c.isInitialized = t.conn.isInitialized)
    (hcount : c.retryCount = t.conn.retryCount) : (t.passed c none).Sound := by
  refine h.quiet (by simp [initCompleted, hc]) hi ?_ (fun hstate => absurd hstate hc) ?_
  · intro hh
    exact absurd (h.health (hhealth ▸ hh)) hs
  · intro _ hr
    exact ⟨hcount ▸ hr, by simp⟩

theorem Watched.Sound.passed {t : Watched} (h : t.Sound) (polls : Polls)
    {c : NacosGrpcConnection} {result : Option (Poll (Except Error Unit))}
    (hp : Passed t.conn polls c result) : (t.passed c result).Sound := by
  cases hp with
  | gaveUp _ =>
    refine h.quiet ?_ rfl h.health id fun _ hr => absurd rfl hr
    cases hs : t.conn.state <;> simp [initCompleted, hs]
  | waited =>
    refine h.quiet ?_ rfl h.health id fun _ hr => ⟨hr, by simp⟩
    cases hs : t.conn.state <;> simp [initCompleted, hs]
  | started hs => exact h.movedOn (by simp [hs]) (by simp) rfl rfl rfl
  | linked hs => exact h.movedOn (by simp [hs]) (by simp) rfl rfl rfl
  | notLinked hs _ => exact h.failedAttempt (Or.inl hs)
  | initialized id hs _ _ => exact h.initialized id hs
  | notInitialized hs _ => exact h.failedAttempt (Or.inr hs)
  | served hs _ =>
    refine h.quiet (by simp [initCompleted, hs]) rfl h.health id fun hn _ => ?_
    rw [h.connected hs] at hn
    cases hn
  | unhealthy hs hh _ =>
    have hclear : t.conn.clearHealth = t.conn := by
      rw [NacosGrpcConnection.clearHealth, ← hh]
    have hd := h.dropped hs
    rw [hclear] at hd
    exact hd
  | broken hs _ => exact h.dropped hs
  | slept hs =>
    refine h.movedOn ?_ (by simp) rfl rfl rfl
    intro hconn
    rw [hconn] at hs
    cases hs

theorem Watched.Sound.clearHealth {t : Watched} (h : t.Sound) :
    Watched.Sound { t with conn := t.conn.clearHealth } where
  inits := h.inits
  health := fun hh => by cases hh
  connected := h.connected
  failed := h.failed

theorem watched_step {t t' : Watched} {e : PollEvent} (hs : t.step e = some t') (h : t.Sound) :
    t'.Sound ∧ t'.conn.maxRetries = t.conn.maxRetries := by
  cases e with
  | pass polls =>
    obtain rfl := Option.some.inj hs
    exact ⟨h.passed polls (passed t.conn polls), pass_maxRetries t.conn polls⟩
  | clearHealth =>
    obtain rfl := Option.some.inj hs
    exact ⟨h.clearHealth, rfl⟩

theorem watched_run {maxRetries : Option UInt32} {es : List PollEvent} {t : Watched}
    (h : Reaches Watched.step anyStep (Watched.new maxRetries) es t) :
    t.Sound ∧ t.conn.maxRetries = maxRetries := by
  apply Reaches.invariant (I := fun t => t.Sound ∧ t.conn.maxRetries = maxRetries) _ h
  · exact ⟨new_watched_sound maxRetries, rfl⟩
  · rintro t e t' _ hs ⟨hsound, hmax⟩
    obtain ⟨hsound', hmax'⟩ := watched_step hs hsound
    exact ⟨hsound', hmax'.trans hmax⟩

/-- Who gives up has failed, unless no attempt is allowed at all. -/
theorem Watched.Sound.gives_up {t : Watched} (h : t.Sound) (hmax : t.conn.maxRetries ≠ some 0)
    (hg : t.conn.givesUp = true) : t.inits = 0 ∧ 0 < t.failed := by
  simp only [NacosGrpcConnection.givesUp, Bool.and_eq_true, Bool.not_eq_true',
    decide_eq_true_eq] at hg
  obtain ⟨hi, hcount⟩ := hg
  constructor
  · by_contra hne
    have hpos : 0 < t.inits := by omega
    rw [h.inits.mpr hpos] at hi
    cases hi
  · apply h.failed hi
    intro hzero
    rw [hzero, ge_iff_le, UInt32.le_zero_iff] at hcount
    cases hm : t.conn.maxRetries with
    | none => simp [hm] at hcount
    | some n =>
      rw [hm, Option.getD_some] at hcount
      exact hmax (by rw [hm, hcount])

theorem Watched.Sound.ready {t : Watched} (h : t.Sound) (hmax : t.conn.maxRetries ≠ some 0) :
    t.ReadyLaw := by
  intro polls hr
  have hp := Remote.passed t.conn polls
  rw [hr] at hp
  generalize (t.conn.pass polls).1 = c at hp
  cases hp with
  | gaveUp hg =>
    obtain ⟨hzero, hfailed⟩ := h.gives_up hmax hg
    exact ⟨Or.inr ⟨hzero, hfailed⟩, fun hpos => by omega⟩
  | served hs hh => exact ⟨Or.inl ⟨hs, hh⟩, fun _ => hs⟩

/-- With `max_retries` set to zero the first pass reports ready, and no attempt
was made. -/
theorem zero_retries_ready (polls : Polls) :
    ((NacosGrpcConnection.new (some 0)).pass polls).2 = some (.ready (.ok ())) := rfl

theorem new_zero_not_ready_law : ¬ (Watched.new (some 0)).ReadyLaw := by
  intro h
  obtain ⟨hlaw, _⟩ := h (pollsDone "1") (zero_retries_ready (pollsDone "1"))
  rcases hlaw with ⟨_, hh⟩ | ⟨_, hf⟩
  · cases hh
  · exact absurd hf (Nat.lt_irrefl 0)

/-- **A connection that reports ready.** In every run, whenever it reports ready
it is connected and healthy or it was never initialised and an attempt has
failed since it last did, and it is healthy only while it is connected: exactly
if `max_retries` is not zero. -/
theorem ready_law_iff (maxRetries : Option UInt32) :
    (∀ es t, Reaches Watched.step anyStep (Watched.new maxRetries) es t →
      t.ReadyLaw ∧ t.HealthLaw) ↔ maxRetries ≠ some 0 := by
  constructor
  · rintro h rfl
    exact new_zero_not_ready_law (h [] _ (Reaches.refl _)).1
  · intro hne es t hr
    obtain ⟨hsound, hmax⟩ := watched_run hr
    exact ⟨hsound.ready (hmax ▸ hne), hsound.health⟩

theorem ready_law_fails_at_zero :
    ¬ ∀ es t, Reaches Watched.step anyStep (Watched.new (some 0)) es t →
      t.ReadyLaw ∧ t.HealthLaw :=
  fun h => new_zero_not_ready_law (h [] _ (Reaches.refl _)).1

/-- Once the connection was initialised, a request that follows a ready answer
is handed to the inner service. -/
theorem call_serves {α β : Type} {c : NacosGrpcConnection} (hi : c.isInitialized = true)
    {polls : Polls} (hr : (c.pass polls).2 = some (.ready (.ok ()))) (serve : α → Except Error β)
    (req : α) : (c.pass polls).1.call serve req = serve req := by
  have hp := passed c polls
  rw [hr] at hp
  generalize (c.pass polls).1 = c' at hp
  cases hp with
  | gaveUp hg =>
    simp [NacosGrpcConnection.givesUp, hi] at hg
  | served hs _ => simp [NacosGrpcConnection.call, hs]

end NacosSdk.Remote
