import NacosSdk.Common.Error
import NacosSdk.Remote.GrpcMessage
import NacosSdk.Lib.Cells
import NacosSdk.Lib.Oneshot
import NacosSdk.Lib.Run

/-!
# Calls over a gRPC connection

`NacosGrpcConnection::call`, the checks and the opening of the server stream
(`common/remote/grpc/nacos_grpc_connection.rs`) each hand a request to a spawned
task (`unary_request`, `bi_request` of `common/remote/grpc/tonic.rs`) and wait for
its callback. Callers and tasks go on in any order; a caller may be dropped at any
time, and a health check gives up after its timeout. The stream, `poll_ready` and
the health check store `last_active` too. Proved here:

* `step_ok`, `step_rank`: what one step of one call preserves and uses up;
* `grpcCalls_law`: what holds in every run of any number of calls.
-/

namespace NacosSdk.Remote
open NacosSdk.Common NacosSdk.Lib NacosSdk.Lib.Oneshot NacosSdk.Lib.Run

variable {α β : Type}

/-! ## One call -/

/-- Where a call is made: what its error says, whether an answer counts as
activity, and how long it waits, in milliseconds, with what it says then. -/
structure CallSite where
  context : String
  active : Bool
  timeout : Option (Nat × String)
  deriving DecidableEq

/-- `NacosGrpcConnection::call`. -/
def connectionCall : CallSite where
  context := "sender has been drop"
  active := true
  timeout := none

/-- `HEALTH_CHECK_REQUEST_TIMEOUT`. -/
def connectionCheckTimeout : Nat := 3000

def connectionHealthCheck : CallSite where
  context := "grpc request callback failed"
  active := false
  timeout := some (connectionCheckTimeout, "connection health check request timeout")

def checkServer : CallSite where
  context := "grpc request callback failed"
  active := false
  timeout := none

/-- The server stream of `setup`. -/
def streamCall : CallSite where
  context := "server stream callback failed"
  active := false
  timeout := none

/-- Where the future of the caller stands. -/
inductive Caller (β : Type) where
  | created
  | waiting
  | done (result : Except Error β)
  | dropped

/-- Where the task stands; a task that is dropped drops its callback. -/
inductive GrpcCallTask (β : Type) where
  | canSend
  | pollReady
  | calling
  | sending (response : β)
  | ended (ret : Except Error Unit)
  | dropped

def GrpcCallTask.over : GrpcCallTask β → Bool
  | .ended _ | .dropped => true
  | .canSend | .pollReady | .calling | .sending _ => false

def Caller.over : Caller β → Bool
  | .done _ | .dropped => true
  | .created | .waiting => false

structure GrpcCall (α β : Type) where
  request : α
  site : CallSite
  demand : Demand
  channel : Channel β
  caller : Caller β
  task : GrpcCallTask β
  /-- When the caller was polled first. -/
  polledAt : Nat
  /-- When it gave up. -/
  gaveUp : Option Nat
  /-- Whether the caller was ever polled, what the inner service was called with
  and what it answered. -/
  asked : Bool
  served : List α
  answers : List β

/-- `create_grpc_callback`, with the task spawned. -/
def GrpcCall.create (site : CallSite) (request : α) : GrpcCall α β where
  request := request
  site := site
  demand := .idle
  channel := Channel.new
  caller := .created
  task := .canSend
  polledAt := 0
  gaveUp := none
  asked := false
  served := []
  answers := []

/-- `recv_response`. -/
def recvResponse (context : String) : Option β → Except Error β
  | some response => .ok response
  | none => .error (.errResult context)

/-- The task returns and drops its callback. -/
def GrpcCall.finish (c : GrpcCall α β) (ret : Except Error Unit) : GrpcCall α β :=
  { c with channel := c.channel.dropSender, task := .ended ret }

def closedMessage (name : String) : String :=
  name ++ " failed, callback can not invoke, receiver has been closed."

def sendMessage (name : String) : String :=
  name ++ " failed, callback can not invoke, send error."

inductive CallStep (β : Type) where
  /-- The caller is polled for the first time: `tk.want()`. -/
  | poll
  | dropCaller
  /-- `can_send` returns. -/
  | canSend
  /-- The inner service is ready or fails; when ready it is called. -/
  | ready (result : Except Error Unit)
  /-- The inner service answers. -/
  | respond (response : β)
  | send
  | dropTask
  /-- `rx.await` returns. -/
  | receive
  /-- The time for it is over. -/
  | timeout

/-- The steps of the caller and of its task, which is `name`, at the time `now`. -/
def GrpcCall.step (name : String) (now : Nat) (c : GrpcCall α β) :
    CallStep β → Option (GrpcCall α β)
  | .poll =>
    match c.caller with
    | .created =>
      some { c with demand := .want, caller := .waiting, polledAt := now, asked := true }
    | _ => none
  | .dropCaller =>
    match c.caller with
    | .created | .waiting =>
      some { c with demand := .closed, channel := c.channel.dropReceiver, caller := .dropped }
    | _ => none
  | .canSend =>
    match c.task, c.demand with
    | .canSend, .want => some { c with task := .pollReady }
    | .canSend, .closed => some (c.finish (.error (.errResult (closedMessage name))))
    | _, _ => none
  | .ready result =>
    match c.task, result with
    | .pollReady, .ok () => some { c with task := .calling, served := c.request :: c.served }
    | .pollReady, .error e => some (c.finish (.error e))
    | _, _ => none
  | .respond response =>
    match c.task with
    | .calling => some { c with task := .sending response, answers := response :: c.answers }
    | _ => none
  | .send =>
    match c.task with
    | .sending response =>
      match c.channel.send response with
      | (true, channel) => some { c with channel, task := .ended (.ok ()) }
      | (false, channel) =>
        some { c with channel, task := .ended (.error (.errResult (sendMessage name))) }
    | _ => none
  | .dropTask =>
    if c.task.over then none
    else some { c with channel := c.channel.dropSender, task := .dropped }
  | .receive =>
    match c.caller, c.channel.poll with
    | .waiting, some received =>
      some { c with
        demand := .closed
        channel := c.channel.dropReceiver
        caller := .done (recvResponse c.site.context received) }
    | _, _ => none
  | .timeout =>
    match c.caller, c.channel.poll, c.site.timeout with
    | .waiting, none, some (limit, message) =>
      if c.polledAt + limit ≤ now then
        some { c with
          demand := .closed
          channel := c.channel.dropReceiver
          caller := .done (.error (.errResult message))
          gaveUp := some now }
      else none
    | _, _, _ => none

/-- All that a step can do, each with the state that it is taken in. -/
inductive CallStepped (name : String) (now : Nat) (c : GrpcCall α β) :
    CallStep β → GrpcCall α β → Prop
  | asked : c.caller = .created → CallStepped name now c .poll
      { c with demand := .want, caller := .waiting, polledAt := now, asked := true }
  | callerDropped : c.caller.over = false → CallStepped name now c .dropCaller
      { c with demand := .closed, channel := c.channel.dropReceiver, caller := .dropped }
  | wanted : c.task = .canSend → c.demand = .want →
      CallStepped name now c .canSend { c with task := .pollReady }
  | closed : c.task = .canSend → c.demand = .closed →
      CallStepped name now c .canSend (c.finish (.error (.errResult (closedMessage name))))
  | isReady : c.task = .pollReady → CallStepped name now c (.ready (.ok ()))
      { c with task := .calling, served := c.request :: c.served }
  | notReady (e : Error) : c.task = .pollReady →
      CallStepped name now c (.ready (.error e)) (c.finish (.error e))
  | responded (response : β) : c.task = .calling → CallStepped name now c (.respond response)
      { c with task := .sending response, answers := response :: c.answers }
  | sent (response : β) : c.task = .sending response → c.channel.receiverLive = true →
      CallStepped name now c .send { c with
        channel := { c.channel with value := some response, senderLive := false }
        task := .ended (.ok ()) }
  | unsent (response : β) : c.task = .sending response → c.channel.receiverLive = false →
      CallStepped name now c .send (c.finish (.error (.errResult (sendMessage name))))
  | taskDropped : c.task.over = false → CallStepped name now c .dropTask
      { c with channel := c.channel.dropSender, task := .dropped }
  | received (found : Option β) : c.caller = .waiting → c.channel.poll = some found →
      CallStepped name now c .receive { c with
        demand := .closed
        channel := c.channel.dropReceiver
        caller := .done (recvResponse c.site.context found) }
  | timedOut {limit : Nat} {message : String} : c.caller = .waiting → c.channel.poll = none →
      c.site.timeout = some (limit, message) → c.polledAt + limit ≤ now →
      CallStepped name now c .timeout { c with
        demand := .closed
        channel := c.channel.dropReceiver
        caller := .done (.error (.errResult message))
        gaveUp := some now }

theorem call_stepped {name : String} {now : Nat} {c c' : GrpcCall α β} {e : CallStep β}
    (h : c.step name now e = some c') : CallStepped name now c e c' := by
  cases e with
  | poll =>
    simp only [GrpcCall.step] at h
    split at h
    · next hcaller =>
      cases h
      exact .asked hcaller
    · cases h
  | dropCaller =>
    simp only [GrpcCall.step] at h
    split at h
    · next hcaller =>
      cases h
      exact .callerDropped (by rw [hcaller]; rfl)
    · next hcaller =>
      cases h
      exact .callerDropped (by rw [hcaller]; rfl)
    · cases h
  | canSend =>
    simp only [GrpcCall.step] at h
    split at h
    · next htask hdemand =>
      cases h
      exact .wanted htask hdemand
    · next htask hdemand =>
      cases h
      exact .closed htask hdemand
    · cases h
  | ready result =>
    simp only [GrpcCall.step] at h
    split at h
    · next htask =>
      cases h
      exact .isReady htask
    · next htask =>
      cases h
      exact .notReady _ htask
    · cases h
  | respond response =>
    simp only [GrpcCall.step] at h
    split at h
    · next htask =>
      cases h
      exact .responded response htask
    · cases h
  | send =>
    simp only [GrpcCall.step] at h
    split at h
    · next response htask =>
      cases hreceiver : c.channel.receiverLive with
      | true =>
        rw [send_live hreceiver] at h
        cases h
        exact .sent response htask hreceiver
      | false =>
        rw [send_gone hreceiver] at h
        cases h
        exact .unsent response htask hreceiver
    · cases h
  | dropTask =>
    simp only [GrpcCall.step] at h
    split at h
    · cases h
    · next hover =>
      cases h
      exact .taskDropped (by simpa using hover)
  | receive =>
    simp only [GrpcCall.step] at h
    split at h
    · next found hcaller hpoll =>
      cases h
      exact .received found hcaller hpoll
    · cases h
  | timeout =>
    simp only [GrpcCall.step] at h
    split at h
    · next hcaller hpoll hsite =>
      split at h
      · next hlate =>
        cases h
        exact .timedOut hcaller hpoll hsite hlate
      · cases h
    · cases h

/-! ## What a step of one call preserves -/

/-- The request has not reached the inner service. -/
def GrpcCall.Untouched (c : GrpcCall α β) : Prop := c.served = [] ∧ c.answers = []

/-- The request has reached the inner service, once and for a caller that asked. -/
def GrpcCall.Reached (c : GrpcCall α β) : Prop := c.asked = true ∧ c.served = [c.request]

def GrpcCallTask.failed : GrpcCallTask β → Prop
  | .ended (.error _) | .dropped => True
  | _ => False

def GrpcCall.TaskOk (c : GrpcCall α β) : GrpcCallTask β → Prop
  | .canSend => c.Untouched ∧ c.channel.value = none
  | .pollReady => c.asked = true ∧ c.Untouched ∧ c.channel.value = none
  | .calling => c.Reached ∧ c.answers = [] ∧ c.channel.value = none
  | .sending response => c.Reached ∧ c.answers = [response] ∧ c.channel.value = none
  | .ended (.ok ()) =>
    c.Reached ∧ ∃ response, c.answers = [response] ∧
      (c.caller = .waiting → c.channel.value = some response)
  | .ended (.error _) | .dropped =>
    c.channel.value = none ∧ (c.Untouched ∨ c.Reached ∧ c.answers.length ≤ 1)

/-- The caller gave up with `e`, no sooner than it may. -/
def GrpcCall.GaveUp (c : GrpcCall α β) (e : Error) : Prop :=
  ∃ limit message now, c.site.timeout = some (limit, message) ∧ e = .errResult message ∧
    c.gaveUp = some now ∧ c.polledAt + limit ≤ now

def GrpcCall.CallerOk (c : GrpcCall α β) : Caller β → Prop
  | .created => c.demand = .idle ∧ c.asked = false
  | .waiting => c.demand = .want ∧ c.asked = true
  | .dropped => c.demand = .closed
  | .done (.ok response) =>
    c.demand = .closed ∧ c.task = .ended (.ok ()) ∧ c.answers = [response]
  | .done (.error e) =>
    c.demand = .closed ∧ (e = .errResult c.site.context ∧ c.task.failed ∨
      c.GaveUp e ∧ c.task ≠ .ended (.ok ()))

structure GrpcCall.Ok (c : GrpcCall α β) : Prop where
  caller : c.CallerOk c.caller
  task : c.TaskOk c.task
  receiver : c.channel.receiverLive = !c.caller.over
  sender : c.channel.senderLive = !c.task.over

theorem create_ok (site : CallSite) (request : α) : (GrpcCall.create site request : GrpcCall α β).Ok where
  caller := ⟨rfl, rfl⟩
  task := ⟨⟨rfl, rfl⟩, rfl⟩
  receiver := rfl
  sender := rfl

section Steps

variable {name : String} {now : Nat} {c c' : GrpcCall α β}

theorem failed_over {task : GrpcCallTask β} (h : task.failed) : task.over = true := by
  cases task with
  | canSend | pollReady | calling | sending response => exact h.elim
  | ended ret | dropped => rfl

/-- The steps of a task leave what holds of its caller; with a caller that is over
it does not end well. -/
theorem callerOk_kept (h : c.Ok) (hlive : c.task.over = false) {channel : Channel β}
    {task : GrpcCallTask β} {served : List α} {answers : List β}
    (hover : c.caller.over = true → task ≠ .ended (.ok ())) :
    ({ c with channel, task, served, answers } : GrpcCall α β).CallerOk c.caller := by
  have hc := h.caller
  cases hcall : c.caller with
  | created | waiting | dropped =>
    rw [hcall] at hc
    exact hc
  | done result =>
    rw [hcall] at hc hover
    cases result with
    | ok response =>
      rw [hc.2.1] at hlive
      cases hlive
    | error e =>
      rcases hc.2 with ⟨_, hfailed⟩ | ⟨hgaveUp, _⟩
      · rw [failed_over hfailed] at hlive
        cases hlive
      · exact ⟨hc.1, Or.inr ⟨hgaveUp, hover rfl⟩⟩

theorem finish_ok (h : c.Ok) (hlive : c.task.over = false) (hvalue : c.channel.value = none)
    (hserved : c.Untouched ∨ c.Reached ∧ c.answers.length ≤ 1) (e : Error) :
    (c.finish (.error e)).Ok where
  caller := callerOk_kept h hlive (by simp)
  task := ⟨hvalue, hserved⟩
  receiver := h.receiver
  sender := rfl

/-- Only a caller that asked wants anything. -/
theorem wanted_asked (h : c.Ok) (hdemand : c.demand = .want) : c.asked = true := by
  have hc := h.caller
  cases hcall : c.caller with
  | created => simp [hcall, GrpcCall.CallerOk, hdemand] at hc
  | waiting =>
    rw [hcall] at hc
    exact hc.2
  | dropped => simp [hcall, GrpcCall.CallerOk, hdemand] at hc
  | done result => cases result <;> simp [hcall, GrpcCall.CallerOk, hdemand] at hc

/-- Nobody asked before, so the task has not got past `can_send`. -/
theorem unasked_taskOk (hasked : c.asked = false) {task : GrpcCallTask β} (h : c.TaskOk task) :
    ({ c with demand := .want, caller := .waiting, polledAt := now, asked := true } :
      GrpcCall α β).TaskOk task := by
  have hunreached : ¬ c.Reached := fun hreached => by
    rw [hreached.1] at hasked
    cases hasked
  cases task with
  | canSend => exact h
  | pollReady =>
    rw [h.1] at hasked
    cases hasked
  | calling | sending response => exact absurd h.1 hunreached
  | dropped => exact ⟨h.1, Or.inl (h.2.resolve_right fun hr => hunreached hr.1)⟩
  | ended ret =>
    cases ret with
    | ok u => exact absurd h.1 hunreached
    | error e => exact ⟨h.1, Or.inl (h.2.resolve_right fun hr => hunreached hr.1)⟩

theorem callerGone_taskOk {task : GrpcCallTask β} (h : c.TaskOk task) {caller : Caller β}
    (hover : caller.over = true) {gaveUp : Option Nat} :
    ({ c with demand := .closed, channel := c.channel.dropReceiver, caller, gaveUp } :
      GrpcCall α β).TaskOk task := by
  cases task with
  | canSend => exact ⟨h.1, rfl⟩
  | pollReady => exact ⟨h.1, h.2.1, rfl⟩
  | calling | sending response => exact ⟨h.1, h.2.1, rfl⟩
  | dropped => exact ⟨rfl, h.2⟩
  | ended ret =>
    cases ret with
    | ok u =>
      obtain ⟨hreached, response, hanswers, _⟩ := h
      refine ⟨hreached, response, hanswers, ?_⟩
      rintro rfl
      cases hover
    | error e => exact ⟨rfl, h.2⟩

/-- A task that is dropped has sent nothing. -/
theorem live_unsent (h : c.Ok) (hlive : c.task.over = false) :
    c.channel.value = none ∧ (c.Untouched ∨ c.Reached ∧ c.answers.length ≤ 1) := by
  have ht := h.task
  cases htask : c.task with
  | canSend =>
    rw [htask] at ht
    exact ⟨ht.2, Or.inl ht.1⟩
  | pollReady =>
    rw [htask] at ht
    exact ⟨ht.2.2, Or.inl ht.2.1⟩
  | calling =>
    rw [htask] at ht
    exact ⟨ht.2.2, Or.inr ⟨ht.1, by simp [ht.2.1]⟩⟩
  | sending response =>
    rw [htask] at ht
    exact ⟨ht.2.2, Or.inr ⟨ht.1, by simp [ht.2.1]⟩⟩
  | ended ret | dropped =>
    rw [htask] at hlive
    cases hlive

/-- What `rx.await` finds. -/
theorem polled_cases (h : c.Ok) (hcaller : c.caller = .waiting) {found : Option β}
    (hpoll : c.channel.poll = some found) :
    (∃ response, found = some response ∧ c.task = .ended (.ok ()) ∧ c.Reached ∧
      c.answers = [response]) ∨
    (found = none ∧ c.task.failed ∧ (c.Untouched ∨ c.Reached ∧ c.answers.length ≤ 1)) := by
  have ht := h.task
  have hs := h.sender
  cases htask : c.task with
  | canSend | pollReady | calling | sending response =>
    -- The channel is empty and the sender is there.
    have hvalue : c.channel.value = none := by
      rw [htask] at ht
      simp only [GrpcCall.TaskOk] at ht
      simp only [ht]
    rw [htask] at hs
    rw [poll_pending.mpr ⟨hvalue, hs⟩] at hpoll
    cases hpoll
  | dropped =>
    rw [htask] at ht hs
    rw [poll_dropped.mpr ⟨ht.1, hs⟩] at hpoll
    cases hpoll
    exact Or.inr ⟨rfl, trivial, ht.2⟩
  | ended ret =>
    rw [htask] at ht hs
    cases ret with
    | ok u =>
      obtain ⟨hreached, response, hanswers, hvalue⟩ := ht
      rw [poll_received.mpr (hvalue hcaller)] at hpoll
      cases hpoll
      exact Or.inl ⟨response, rfl, rfl, hreached, hanswers⟩
    | error e =>
      rw [poll_dropped.mpr ⟨ht.1, hs⟩] at hpoll
      cases hpoll
      exact Or.inr ⟨rfl, trivial, ht.2⟩

theorem received_ok (h : c.Ok) (hcaller : c.caller = .waiting) {found : Option β}
    (hpoll : c.channel.poll = some found) :
    ({ c with
      demand := .closed
      channel := c.channel.dropReceiver
      caller := .done (recvResponse c.site.context found) } : GrpcCall α β).Ok := by
  rcases polled_cases h hcaller hpoll with
    ⟨response, rfl, htask, hreached, hanswers⟩ | ⟨rfl, hfailed, hserved⟩
  · refine ⟨⟨rfl, htask, hanswers⟩, ?_, rfl, h.sender⟩
    rw [htask]
    exact ⟨hreached, response, hanswers, nofun⟩
  · refine ⟨⟨rfl, Or.inl ⟨rfl, hfailed⟩⟩, ?_, rfl, h.sender⟩
    cases htask : c.task with
    | dropped => exact ⟨rfl, hserved⟩
    | ended ret =>
      cases ret with
      | ok u => simp [htask, GrpcCallTask.failed] at hfailed
      | error e => exact ⟨rfl, hserved⟩
    | canSend | pollReady | calling | sending response =>
      simp [htask, GrpcCallTask.failed] at hfailed

/-- A caller gives up while its task is there. -/
theorem timedOut_ok (h : c.Ok) {limit : Nat} {message : String} (hpoll : c.channel.poll = none)
    (hsite : c.site.timeout = some (limit, message)) (hlate : c.polledAt + limit ≤ now) :
    ({ c with
      demand := .closed
      channel := c.channel.dropReceiver
      caller := .done (.error (.errResult message))
      gaveUp := some now } : GrpcCall α β).Ok := by
  have hlive : c.task ≠ .ended (.ok ()) := by
    intro htask
    have hs := h.sender
    rw [(poll_pending.mp hpoll).2, htask] at hs
    cases hs
  exact ⟨⟨rfl, Or.inr ⟨⟨limit, message, now, hsite, rfl, rfl, hlate⟩, hlive⟩⟩,
    callerGone_taskOk h.task rfl, rfl, h.sender⟩

theorem step_ok {e : CallStep β} (hstep : c.step name now e = some c') (h : c.Ok) : c'.Ok := by
  have hc := h.caller
  have ht := h.task
  have hr := h.receiver
  have hs := h.sender
  -- Where the task goes on, it was not over.
  have hlive : ∀ {task}, c.task = task → task.over = false → c.task.over = false :=
    fun htask hover => htask ▸ hover
  cases call_stepped hstep with
  | asked hcaller =>
    rw [hcaller] at hc hr
    exact ⟨⟨rfl, rfl⟩, unasked_taskOk hc.2 ht, hr, hs⟩
  | callerDropped _ => exact ⟨rfl, callerGone_taskOk ht rfl, rfl, hs⟩
  | wanted htask hdemand =>
    have hasked := wanted_asked h hdemand
    rw [htask] at ht hs
    exact ⟨callerOk_kept h (hlive htask rfl) (by simp), ⟨hasked, ht.1, ht.2⟩, hr, hs⟩
  | closed htask _ =>
    rw [htask] at ht
    exact finish_ok h (hlive htask rfl) ht.2 (Or.inl ht.1) _
  | isReady htask =>
    rw [htask] at ht hs
    obtain ⟨hasked, ⟨hserved, hanswers⟩, hvalue⟩ := ht
    exact ⟨callerOk_kept h (hlive htask rfl) (by simp),
      ⟨⟨hasked, by rw [hserved]⟩, hanswers, hvalue⟩, hr, hs⟩
  | notReady e htask =>
    rw [htask] at ht
    exact finish_ok h (hlive htask rfl) ht.2.2 (Or.inl ht.2.1) _
  | responded response htask =>
    rw [htask] at ht hs
    exact ⟨callerOk_kept h (hlive htask rfl) (by simp), ⟨ht.1, by rw [ht.2.1], ht.2.2⟩, hr, hs⟩
  | sent response htask hreceiver =>
    rw [htask] at ht
    have hwaits : c.caller.over = true → (.ended (.ok ()) : GrpcCallTask β) ≠ .ended (.ok ()) := by
      intro hover
      rw [hreceiver, hover] at hr
      cases hr
    exact ⟨callerOk_kept h (hlive htask rfl) hwaits, ⟨ht.1, response, ht.2.1, fun _ => rfl⟩,
      hr, rfl⟩
  | unsent response htask _ =>
    have hunsent := live_unsent h (hlive htask rfl)
    exact finish_ok h (hlive htask rfl) hunsent.1 hunsent.2 _
  | taskDropped hover =>
    have hunsent := live_unsent h hover
    exact ⟨callerOk_kept h hover (by simp), hunsent, hr, rfl⟩
  | received found hcaller hpoll => exact received_ok h hcaller hpoll
  | timedOut _ hpoll hsite hlate => exact timedOut_ok h hpoll hsite hlate

/-! ## What a step of one call uses up -/

def Caller.rank : Caller β → Nat
  | .created => 2
  | .waiting => 1
  | .done _ | .dropped => 0

def GrpcCallTask.rank : GrpcCallTask β → Nat
  | .canSend => 4
  | .pollReady => 3
  | .calling => 2
  | .sending _ => 1
  | .ended _ | .dropped => 0

/-- The steps that are left, at most. -/
def GrpcCall.rank (c : GrpcCall α β) : Nat := c.caller.rank + c.task.rank

theorem caller_rank {caller : Caller β} (h : caller.over = false) : 0 < caller.rank := by
  cases caller with
  | created | waiting => simp [Caller.rank]
  | done result | dropped => cases h

theorem live_rank {task : GrpcCallTask β} (h : task.over = false) : 0 < task.rank := by
  cases task with
  | canSend | pollReady | calling | sending response => simp [GrpcCallTask.rank]
  | ended ret | dropped => cases h

/-- Every step moves the caller or the task on. -/
theorem step_rank {e : CallStep β} (hstep : c.step name now e = some c') :
    c'.rank + 1 ≤ c.rank := by
  unfold GrpcCall.rank
  cases call_stepped hstep with
  | asked hcaller =>
    rw [hcaller]
    simp only [Caller.rank]
    omega
  | callerDropped hover =>
    have hpos := caller_rank hover
    change 0 + c.task.rank + 1 ≤ _
    omega
  | received _ hcaller | timedOut hcaller =>
    rw [hcaller]
    simp only [Caller.rank]
    omega
  | wanted htask _ | closed htask _ | isReady htask | notReady _ htask | responded _ htask
  | sent _ htask _ | unsent _ htask _ =>
    rw [htask]
    simp only [GrpcCall.finish, GrpcCallTask.rank]
    omega
  | taskDropped hover =>
    have hpos := live_rank hover
    change c.caller.rank + 0 + 1 ≤ _
    omega

/-- The steps that the caller and its task take on their own, without the inner
service, without a timeout and without anything being dropped. -/
def CallStep.own : CallStep β → Bool
  | .poll | .canSend | .send | .receive => true
  | .dropCaller | .ready _ | .respond _ | .dropTask | .timeout => false

/-- Both are over, or the task waits for the inner service. -/
def GrpcCall.Settled (c : GrpcCall α β) : Prop :=
  c.caller.over = true ∧ c.task.over = true ∨ c.task = .pollReady ∨ c.task = .calling

theorem stuck_settled (h : c.Ok)
    (hstuck : ∀ e : CallStep β, e.own = true → c.step name now e = none) : c.Settled := by
  have hpoll := hstuck .poll rfl
  have hcanSend := hstuck .canSend rfl
  have hsend := hstuck .send rfl
  have hreceive := hstuck .receive rfl
  have hc := h.caller
  have hs := h.sender
  cases htask : c.task with
  | pollReady => exact Or.inr (Or.inl htask)
  | calling => exact Or.inr (Or.inr htask)
  | sending response =>
    simp only [GrpcCall.step, htask] at hsend
    split at hsend <;> cases hsend
  | canSend =>
    cases hcaller : c.caller with
    | created => simp [GrpcCall.step, hcaller] at hpoll
    | waiting =>
      rw [hcaller] at hc
      simp [GrpcCall.step, htask, hc.1] at hcanSend
    | dropped =>
      rw [hcaller] at hc
      have hclosed : c.demand = .closed := hc
      simp [GrpcCall.step, htask, hclosed] at hcanSend
    | done result =>
      rw [hcaller] at hc
      cases result <;> simp [GrpcCall.step, htask, hc.1] at hcanSend
  | ended ret | dropped =>
    rw [htask] at hs
    have hover : c.task.over = true := by rw [htask]; rfl
    cases hcaller : c.caller with
    | created => simp [GrpcCall.step, hcaller] at hpoll
    | waiting =>
      -- The sender is gone, so there is something to find.
      cases hfound : c.channel.poll with
      | none =>
        rw [(poll_pending.mp hfound).2] at hs
        cases hs
      | some found => simp [GrpcCall.step, hcaller, hfound] at hreceive
    | done result | dropped => exact Or.inl ⟨by rw [hcaller]; rfl, hover⟩

end Steps

/-! ## Any number of calls -/

/-- What else stores `last_active`: the loop of the server stream, `poll_ready`
when it has connected, and the health check. -/
inductive ActiveWriter where
  | stream
  | connected
  | healthCheck
  deriving DecidableEq

/-- Who stored `last_active`. -/
inductive ActiveStore where
  | call (i : Nat)
  | other (writer : ActiveWriter)
  deriving DecidableEq

structure GrpcCalls (α β : Type) where
  calls : Cells (GrpcCall α β)
  lastActive : Nat
  /-- Who stored it and when, the newest first. -/
  stores : List (ActiveStore × Nat)

def GrpcCalls.start (now : Nat) : GrpcCalls α β where
  calls := []
  lastActive := now
  stores := []

inductive CallEvent (α β : Type) where
  | call (site : CallSite) (request : α)
  | step (i : Nat) (now : Nat) (e : CallStep β)
  | store (writer : ActiveWriter) (now : Nat)

/-- The caller has received a response, at a site where that counts. -/
def GrpcCall.counted (c : GrpcCall α β) : Bool :=
  match c.caller with
  | .done (.ok _) => c.site.active
  | _ => false

/-- It has just received it. -/
def GrpcCall.active (c : GrpcCall α β) : CallStep β → Bool
  | .receive => c.counted
  | _ => false

def GrpcCalls.store (s : GrpcCalls α β) (writer : ActiveStore) (now : Nat) : GrpcCalls α β :=
  { s with lastActive := now, stores := (writer, now) :: s.stores }

def GrpcCalls.step (name : String) (s : GrpcCalls α β) : CallEvent α β → Option (GrpcCalls α β)
  | .call site request => some { s with calls := s.calls.make (GrpcCall.create site request) }
  | .step i now e =>
    match s.calls.load i with
    | none => none
    | some c =>
      match c.step name now e with
      | none => none
      | some c' =>
        if c'.active e then some ({ s with calls := s.calls.store i c' }.store (.call i) now)
        else some { s with calls := s.calls.store i c' }
  | .store writer now => some (s.store (.other writer) now)

theorem calls_step_cases {name : String} {s s' : GrpcCalls α β} {e : CallEvent α β}
    (hstep : s.step name e = some s') :
    (∃ site request, e = .call site request ∧
      s' = { s with calls := s.calls.make (GrpcCall.create site request) }) ∨
    (∃ i now e' c c', e = .step i now e' ∧ s.calls.load i = some c ∧
      c.step name now e' = some c' ∧ s'.calls = s.calls.store i c' ∧
      (c'.active e' = true ∧ s'.lastActive = now ∧ s'.stores = (.call i, now) :: s.stores ∨
        c'.active e' = false ∧ s'.lastActive = s.lastActive ∧ s'.stores = s.stores)) ∨
    (∃ writer now, e = .store writer now ∧ s' = s.store (.other writer) now) := by
  cases e with
  | call site request =>
    cases hstep
    exact Or.inl ⟨site, request, rfl, rfl⟩
  | step i now e' =>
    simp only [GrpcCalls.step] at hstep
    split at hstep
    · cases hstep
    · next c hload =>
      split at hstep
      · cases hstep
      · next c' hcall =>
        refine Or.inr (Or.inl ⟨i, now, e', c, c', rfl, hload, hcall, ?_⟩)
        split at hstep
        · next hactive =>
          cases hstep
          exact ⟨rfl, Or.inl ⟨hactive, rfl, rfl⟩⟩
        · next hactive =>
          cases hstep
          exact ⟨rfl, Or.inr ⟨by simpa using hactive, rfl, rfl⟩⟩
  | store writer now =>
    cases hstep
    exact Or.inr (Or.inr ⟨writer, now, rfl, rfl⟩)

theorem counted_eq {c c' : GrpcCall α β} (hcaller : c'.caller = c.caller) (hsite : c'.site = c.site) :
    c'.counted = c.counted := by
  unfold GrpcCall.counted
  rw [hcaller, hsite]

theorem over_of_counted {c : GrpcCall α β} (h : c.counted = true) : c.caller.over = true := by
  unfold GrpcCall.counted at h
  split at h
  · next hcaller =>
    rw [hcaller]
    rfl
  · cases h

theorem step_counted {name : String} {now : Nat} {c c' : GrpcCall α β} {e : CallStep β}
    (hstep : c.step name now e = some c') : c'.counted = (c.counted || c'.active e) := by
  have hlive : c.caller.over = false → c.counted = false := by
    intro hover
    by_contra hcounted
    rw [over_of_counted (by simpa using hcounted)] at hover
    cases hover
  cases call_stepped hstep with
  | asked hcaller | received _ hcaller | timedOut hcaller =>
    rw [hlive (by rw [hcaller]; rfl)]
    rfl
  | callerDropped hover =>
    rw [hlive hover]
    rfl
  | wanted | closed | isReady | notReady | responded | sent | unsent | taskDropped =>
    exact (counted_eq rfl rfl).trans (Bool.or_false _).symm

/-- `last_active` is the time of the newest store; of the calls exactly those
stored it that received a response at a counting site. -/
structure GrpcCalls.Activity (start : Nat) (s : GrpcCalls α β) : Prop where
  last : s.lastActive = (s.stores.head?.map Prod.snd).getD start
  listed : ∀ i, (∃ now, (.call i, now) ∈ s.stores) ↔
    ∃ c, s.calls.load i = some c ∧ c.counted = true

/-- The stores besides those of calls. -/
def otherStore : ActiveStore × Nat → Option (ActiveWriter × Nat)
  | (.call _, _) => none
  | (.other writer, now) => some (writer, now)

/-- Those of a run. -/
def CallEvent.other : CallEvent α β → Option (ActiveWriter × Nat)
  | .store writer now => some (writer, now)
  | .call _ _ | .step _ _ _ => none

structure GrpcCalls.Ok (start : Nat) (s : GrpcCalls α β) : Prop where
  calls : ∀ i c, s.calls.load i = some c → c.Ok
  activity : s.Activity start

theorem start_calls_ok (now : Nat) : (GrpcCalls.start now : GrpcCalls α β).Ok now where
  calls := by
    intro i c h
    cases h
  activity := by
    refine ⟨rfl, fun i => ⟨?_, ?_⟩⟩
    · rintro ⟨now, h⟩
      cases h
    · rintro ⟨c, h, _⟩
      cases h

section Runs

variable {name : String} {start : Nat} {s t : GrpcCalls α β} {e : CallEvent α β}

theorem call_activity (h : s.Activity start) (site : CallSite) (request : α) :
    ({ s with calls := s.calls.make (GrpcCall.create site request) } : GrpcCalls α β).Activity
      start := by
  refine ⟨h.last, fun i => (h.listed i).trans ⟨?_, ?_⟩⟩
  · rintro ⟨c, hload, hcounted⟩
    exact ⟨c, (load_make_of_lt _ _ (lt_fresh_of_load hload)).trans hload, hcounted⟩
  · rintro ⟨c, hload, hcounted⟩
    rcases made_cases hload with ⟨rfl, _⟩ | hold
    · cases hcounted
    · exact ⟨c, hold, hcounted⟩

theorem counted_stored {i now : Nat} {c c' : GrpcCall α β} {e : CallStep β}
    (hload : s.calls.load i = some c) (hcall : c.step name now e = some c') (j : Nat) :
    (∃ d, (s.calls.store i c').load j = some d ∧ d.counted = true) ↔
      (∃ d, s.calls.load j = some d ∧ d.counted = true) ∨ j = i ∧ c'.active e = true := by
  have hcounted := step_counted hcall
  constructor
  · rintro ⟨d, hd, hdone⟩
    rcases stored_cases hd with ⟨rfl, rfl⟩ | ⟨_, hold⟩
    · rw [hcounted, Bool.or_eq_true] at hdone
      exact hdone.imp (fun hold => ⟨c, hload, hold⟩) fun hnew => ⟨rfl, hnew⟩
    · exact Or.inl ⟨d, hold, hdone⟩
  · intro hdone
    by_cases heq : j = i
    · subst heq
      refine ⟨c', load_store_self _ _ (lt_fresh_of_load hload), ?_⟩
      rw [hcounted, Bool.or_eq_true]
      refine hdone.imp ?_ fun hnew => hnew.2
      rintro ⟨d, hd, hold⟩
      rw [hload] at hd
      cases hd
      exact hold
    · obtain ⟨d, hd, hold⟩ := hdone.resolve_right fun hnew => heq hnew.1
      exact ⟨d, (load_store_ne _ _ (Ne.symm heq)).trans hd, hold⟩

theorem store_activity (h : s.Activity start) (writer : ActiveWriter) (now : Nat) :
    (s.store (.other writer) now).Activity start := by
  refine ⟨rfl, fun i => (Iff.trans ⟨?_, ?_⟩ (h.listed i))⟩
  · rintro ⟨time, hm⟩
    rcases List.mem_cons.mp hm with heq | hold
    · cases heq
    · exact ⟨time, hold⟩
  · rintro ⟨time, hold⟩
    exact ⟨time, List.mem_cons_of_mem _ hold⟩

theorem calls_step_ok (hstep : s.step name e = some t) (h : s.Ok start) : t.Ok start := by
  rcases calls_step_cases hstep with ⟨site, request, rfl, rfl⟩ |
    ⟨i, now, e', c, c', rfl, hload, hcall, hcalls, hactivity⟩ | ⟨writer, now, rfl, rfl⟩
  · refine ⟨fun j d hd => ?_, call_activity h.activity site request⟩
    rcases made_cases hd with ⟨rfl, _⟩ | hold
    · exact create_ok site request
    · exact h.calls j d hold
  · have hstored := counted_stored (s := s) hload hcall
    refine ⟨fun j d hd => ?_, ?_⟩
    · rw [hcalls] at hd
      rcases stored_cases hd with ⟨rfl, _⟩ | ⟨_, hold⟩
      · exact step_ok hcall (h.calls i c hload)
      · exact h.calls j d hold
    · rcases hactivity with ⟨hactive, hlast, hstores⟩ | ⟨hquiet, hlast, hstores⟩
      · refine ⟨by rw [hlast, hstores]; rfl, fun j => ?_⟩
        rw [hstores, hcalls, hstored j, ← h.activity.listed j]
        constructor
        · rintro ⟨time, hm⟩
          rcases List.mem_cons.mp hm with heq | hold
          · cases heq
            exact Or.inr ⟨rfl, hactive⟩
          · exact Or.inl ⟨time, hold⟩
        · rintro (⟨time, hold⟩ | ⟨rfl, _⟩)
          · exact ⟨time, List.mem_cons_of_mem _ hold⟩
          · exact ⟨now, List.mem_cons_self⟩
      · refine ⟨by rw [hlast, hstores, h.activity.last], fun j => ?_⟩
        rw [hstores, hcalls, hstored j, h.activity.listed j, hquiet]
        simp
  · exact ⟨h.calls, store_activity h.activity writer now⟩

/-- The other stores of a run are all there, in their order. -/
theorem run_others {es : List (CallEvent α β)}
    (h : Reaches (GrpcCalls.step name) anyStep (GrpcCalls.start start) es t) :
    t.stores.filterMap otherStore = (es.filterMap CallEvent.other).reverse := by
  refine h.history (I := fun es t =>
    t.stores.filterMap otherStore = (es.filterMap CallEvent.other).reverse) rfl ?_
  intro past u e u' _ _ hstep hu
  rw [List.filterMap_append, List.reverse_append, ← hu]
  rcases calls_step_cases hstep with ⟨site, request, rfl, rfl⟩ |
    ⟨i, now, e', c, c', rfl, _, _, _, ⟨_, _, hstores⟩ | ⟨_, _, hstores⟩⟩ | ⟨writer, now, rfl, rfl⟩
  · rfl
  · rw [hstores]
    rfl
  · rw [hstores]
    rfl
  · rfl

/-- A call takes at most seven events: its own and six steps. -/
theorem calls_step_rank (hstep : s.step name e = some t) :
    t.calls.total GrpcCall.rank + 1 + 7 * s.calls.length ≤
      s.calls.total GrpcCall.rank + 7 * t.calls.length +
        ([e].filterMap CallEvent.other).length := by
  rcases calls_step_cases hstep with ⟨site, request, rfl, rfl⟩ |
    ⟨i, now, e', c, c', rfl, hload, hcall, hcalls, -⟩ | ⟨writer, now, rfl, rfl⟩
  · have hmade := total_make GrpcCall.rank s.calls (GrpcCall.create site request)
    have hrank : (GrpcCall.create site request : GrpcCall α β).rank = 6 := rfl
    have hlength : (s.calls.make (GrpcCall.create site request)).length = s.calls.length + 1 :=
      fresh_make _ _
    simp only [hmade, hrank, hlength]
    omega
  · have hstored := total_store GrpcCall.rank hload c'
    have hlower := step_rank hcall
    have hlength : (s.calls.store i c').length = s.calls.length := fresh_store _ _ _
    rw [hcalls, hlength]
    omega
  · have hone : ([(.store writer now : CallEvent α β)].filterMap CallEvent.other).length = 1 := rfl
    rw [hone]
    simp only [GrpcCalls.store]
    omega

theorem calls_run_rank {es : List (CallEvent α β)}
    (h : Reaches (GrpcCalls.step name) anyStep s es t) :
    t.calls.total GrpcCall.rank + es.length + 7 * s.calls.length ≤
      s.calls.total GrpcCall.rank + 7 * t.calls.length +
        (es.filterMap CallEvent.other).length := by
  induction h with
  | refl => simp
  | @next s s' t e es _ hstep _ ih =>
    have hfirst := calls_step_rank hstep
    rw [← List.singleton_append, List.filterMap_append, List.length_append, List.length_append,
      List.length_singleton]
    omega

/-- What a caller and its task owe each other. -/
structure GrpcCall.Lawful (c : GrpcCall α β) : Prop where
  /-- The inner service is called at most once, with the call's own request, and
  only after the caller was polled. -/
  served : c.served = [] ∨ c.served = [c.request] ∧ c.asked = true
  /-- A response that arrives is the one that the service gave. -/
  response : ∀ response, c.caller = .done (.ok response) → c.answers = [response]
  /-- Without a response the task has failed or was dropped, or the caller gave up
  before the task ended, and then it does not end well. -/
  error : ∀ e, c.caller = .done (.error e) → e = .errResult c.site.context ∧ c.task.failed ∨
    c.GaveUp e ∧ c.task ≠ .ended (.ok ())
  /-- A task that ends well has handed over what the service answered. -/
  sent : c.task = .ended (.ok ()) → c.caller = .dropped ∨ ∃ response, c.answers = [response] ∧
    (c.caller = .waiting ∧ c.channel.value = some response ∨ c.caller = .done (.ok response))

theorem ok_served {c : GrpcCall α β} (h : c.Ok) : c.Untouched ∨ c.Reached := by
  have ht := h.task
  cases htask : c.task with
  | canSend =>
    rw [htask] at ht
    exact Or.inl ht.1
  | pollReady =>
    rw [htask] at ht
    exact Or.inl ht.2.1
  | calling | sending response =>
    rw [htask] at ht
    exact Or.inr ht.1
  | dropped =>
    rw [htask] at ht
    exact ht.2.imp id And.left
  | ended ret =>
    rw [htask] at ht
    cases ret with
    | ok u => exact Or.inr ht.1
    | error e => exact ht.2.imp id And.left

theorem ok_sent {c : GrpcCall α β} (h : c.Ok) (htask : c.task = .ended (.ok ())) :
    c.caller = .dropped ∨ ∃ response, c.answers = [response] ∧
      (c.caller = .waiting ∧ c.channel.value = some response ∨ c.caller = .done (.ok response)) := by
  have ht := h.task
  have hc := h.caller
  rw [htask] at ht
  obtain ⟨hreached, response, hanswers, hvalue⟩ := ht
  cases hcaller : c.caller with
  | created =>
    rw [hcaller] at hc
    have hasked := hreached.1
    rw [hc.2] at hasked
    cases hasked
  | waiting => exact Or.inr ⟨response, hanswers, Or.inl ⟨rfl, hvalue hcaller⟩⟩
  | dropped => exact Or.inl rfl
  | done result =>
    rw [hcaller] at hc
    cases result with
    | ok received => exact Or.inr ⟨received, hc.2.2, Or.inr rfl⟩
    | error e =>
      rcases hc.2 with ⟨_, hfailed⟩ | ⟨_, hlive⟩
      · rw [htask] at hfailed
        cases hfailed
      · exact absurd htask hlive

theorem ok_lawful {c : GrpcCall α β} (h : c.Ok) : c.Lawful where
  served := (ok_served h).imp And.left fun hreached => ⟨hreached.2, hreached.1⟩
  response := by
    intro response hcaller
    have hc := h.caller
    rw [hcaller] at hc
    exact hc.2.2
  error := by
    intro e hcaller
    have hc := h.caller
    rw [hcaller] at hc
    exact hc.2
  sent := ok_sent h

/-- No caller and no task can go on by itself. -/
def GrpcCalls.Stuck (name : String) (s : GrpcCalls α β) : Prop :=
  ∀ i now (e : CallStep β), e.own = true → s.step name (.step i now e) = none

theorem calls_stuck_settled (h : s.Ok start) (hstuck : s.Stuck name) {i : Nat} {c : GrpcCall α β}
    (hload : s.calls.load i = some c) : c.Settled := by
  refine @stuck_settled _ _ name 0 c (h.calls i c hload) fun e hown => ?_
  have hnone := hstuck i 0 e hown
  simp only [GrpcCalls.step, hload] at hnone
  split at hnone
  · next hcall => exact hcall
  · split at hnone <;> cases hnone

/-- **Calls.** In every run of any number of calls, each caller and its task keep
to their law, `last_active` is the time of the newest store, a caller's own when
it received a response (a failure of the service included), there are at most
seven events for each call beside the other stores, and where nobody can go on
alone every call is over or waits for the inner service. -/
theorem grpcCalls_law {es : List (CallEvent α β)}
    (h : Reaches (GrpcCalls.step name) anyStep (GrpcCalls.start start) es t) :
    (∀ i c, t.calls.load i = some c → c.Lawful) ∧
    t.Activity start ∧
    t.stores.filterMap otherStore = (es.filterMap CallEvent.other).reverse ∧
    es.length ≤ 7 * t.calls.length + (es.filterMap CallEvent.other).length ∧
    (t.Stuck name → ∀ i c, t.calls.load i = some c → c.Settled) := by
  have hok : t.Ok start :=
    h.invariant (fun _ _ _ _ hstep => calls_step_ok hstep) (start_calls_ok start)
  refine ⟨fun i c hload => ok_lawful (hok.calls i c hload), hok.activity, run_others h, ?_,
    fun hstuck i c hload => calls_stuck_settled hok hstuck hload⟩
  have hrank := calls_run_rank h
  have hstart : (GrpcCalls.start start : GrpcCalls α β).calls.total GrpcCall.rank = 0 := rfl
  have hnone : (GrpcCalls.start start : GrpcCalls α β).calls.length = 0 := rfl
  omega

end Runs

/-! ## Three unary calls -/

/-- `unary_request` and `bi_request`, each with what it hands over. -/
def unaryRequest : String := "unary_request"
def biRequest : String := "bi_request"

abbrev UnaryCalls := GrpcCalls Payload (Except Error Payload)

def emptyPayload : Payload where
  metadata := none
  body := none

/-- The caller of the first call is dropped before it is polled; the service does
not answer the second one, and says so at time 7. A check of the connection gives
up before its answer, and the server has sent a message in the meantime. -/
def threeCalls : List (CallEvent Payload (Except Error Payload)) :=
  [.call connectionCall emptyPayload, .call connectionCall emptyPayload,
    .call connectionHealthCheck emptyPayload, .step 1 1 .poll, .step 0 1 .dropCaller,
    .step 2 1 .poll, .step 0 2 .canSend, .step 1 2 .canSend, .step 2 2 .canSend,
    .step 1 3 (.ready (.ok ())), .step 2 3 (.ready (.ok ())),
    .step 1 6 (.respond (.error (.tonicGrpcStatus "unavailable"))), .step 1 6 .send,
    .step 1 7 .receive, .store .stream 9, .step 2 3001 .timeout,
    .step 2 3002 (.respond (.ok emptyPayload)), .step 2 3002 .send]

def callsAfter (es : List (CallEvent Payload (Except Error Payload))) : UnaryCalls :=
  (run (GrpcCalls.step unaryRequest) (GrpcCalls.start 0) es).getD (GrpcCalls.start 0)

theorem grpcCalls_law_gaveUp :
    (callsAfter threeCalls).lastActive = 9 ∧
    (callsAfter threeCalls).stores = [(.other .stream, 9), (.call 1, 7)] ∧
    ((callsAfter threeCalls).calls.map fun c => c.served.length) = [0, 1, 1] ∧
    ((callsAfter threeCalls).calls.load 2).map GrpcCall.caller =
      some (.done (.error (.errResult "connection health check request timeout"))) ∧
    (callsAfter threeCalls).Activity 0 ∧
    (∀ i c, (callsAfter threeCalls).calls.load i = some c → c.Lawful) ∧
    threeCalls.length ≤ 7 * 3 + 1 :=
  have hlaw := grpcCalls_law (run_getD_reaches rfl _)
  ⟨rfl, rfl, rfl, rfl, hlaw.2.1, hlaw.1, hlaw.2.2.2.1⟩

end NacosSdk.Remote
