import NacosSdk.Lib.Pending
import NacosSdk.Lib.Run
import NacosSdk.Naming.Redo

/-!
# Redo tasks across reconnections

The connection, the two tasks that watch it, the handlers they spawn, the
requests on their way and the redo schedule. Any of them may move next; the
lock of the redo map keeps `add_task` and `remove_task` out of a running round
or handler. Proved here, for every run:

* `handler_alone`: a handler that nothing interrupts is the source's method;
* `step_kept`: on an established connection every mapped task stays active,
  acknowledged on it, or still to be activated by its reconnect handler, unless
  a stale freeze hits it;
* `registrations_kept`: so once nothing is pending, every task is active or
  acknowledged on the current connection;
* `lateDisconnect_not_kept`, `lateAnswer_not_kept`: a disconnect handler that
  runs late, or an answer that comes late, freezes a task on the next connection.
-/

namespace NacosSdk.Naming
open NacosSdk.Common NacosSdk.Lib NacosSdk.Lib.Run NacosSdk.Lib.Pending

/-! ## The link -/

/-- `on_grpc_client_reconnect` or `on_grpc_client_disconnect` in its task. -/
structure Handler where
  activates : Bool
  connection : Nat
  /-- The tasks still to visit; `none` before it has the read lock. -/
  todo : Option (List NamingRedoTask)
  deriving DecidableEq

/-- A request on its way, sent by a caller or by the redo schedule. -/
structure Flight where
  task : NamingRedoTask
  redo : Bool
  sentOn : Option Nat
  deriving DecidableEq

/-- An answer whose continuation or callback has not run. A response is received
on the connection that its request was sent on. -/
structure Reply where
  task : NamingRedoTask
  redo : Bool
  answer : Except Error GrpcResponse
  receivedOn : Option Nat

/-- One tick of `start_schedule`, which holds the read lock to its end. -/
inductive Round where
  | idle
  | holding (rest : List NamingRedoTask)
  | awaiting (rest : List NamingRedoTask)
  deriving DecidableEq

structure Link where
  executor : RedoTaskExecutor
  /-- The watched value: the established connection. -/
  connection : Option Nat
  /-- The number of connections so far. -/
  connections : Nat
  /-- What the connected listener saw last, and whether it has caught up. -/
  connectedPrevious : Option Nat
  connectedSeen : Bool
  disconnectedPrevious : Option Nat
  disconnectedSeen : Bool
  handlers : List Handler
  flights : List Flight
  replies : List Reply
  round : Round
  /-- Which flag was acknowledged on which connection; no step reads it. -/
  acked : List (Nat × Nat)

inductive LinkEvent where
  | lose
  | establish
  | pollConnected
  | pollDisconnected
  | startHandler (i : Nat)
  | handlerStep (i : Nat)
  | register (request : AutomaticRequest)
  | remove (taskKey : String)
  | transmit (i : Nat)
  | receive (i : Nat) (answer : Except Error GrpcResponse)
  | continuation (i : Nat)
  | tick
  | runNext

def Link.start : Link where
  executor := RedoTaskExecutor.new
  connection := none
  connections := 0
  connectedPrevious := none
  connectedSeen := true
  disconnectedPrevious := none
  disconnectedSeen := true
  handlers := []
  flights := []
  replies := []
  round := .idle
  acked := []

/-- The response was received on the connection and reports success. -/
def Reply.acknowledgedOn (reply : Reply) (connection : Nat) : Bool :=
  reply.receivedOn = some connection &&
    match reply.answer with
    | .error _ => false
    | .ok response => response.isSuccess

/-- The continuation or callback of the answer freezes the task. -/
def Reply.freezes (reply : Reply) : Bool :=
  match reply.answer with
  | .error _ => false
  | .ok response => reply.redo || response.isSuccess

namespace Link

/-- Neither a round nor a handler holds the read lock. -/
def writeFree (s : Link) : Bool :=
  s.round = .idle && s.handlers.all fun handler => handler.todo.isNone

/-- A request is answered by a response only once it was sent; it may fail at
any time. The call keeps the channel that it was sent on, so its response may
come after the loss of that connection and while a later one is established. -/
def mayReceive (flight : Flight) : Except Error GrpcResponse → Bool
  | .error _ => true
  | .ok _ => flight.sentOn.isSome

/-- The acknowledgements with that of a reply, if it is one. -/
def record (s : Link) (reply : Reply) : List (Nat × Nat) :=
  match reply.receivedOn with
  | some c => if reply.acknowledgedOn c then s.acked ++ [(reply.task.active, c)] else s.acked
  | none => s.acked

/-- The continuation of a direct call, or the callback that lets the round go
on. -/
def answered (s : Link) (reply : Reply) : Link :=
  if reply.redo then
    { s with
      executor := s.executor.callBack reply.task reply.answer
      round := match s.round with
        | .awaiting rest => .holding rest
        | round => round }
  else { s with executor := (s.executor.settle reply.task "register" reply.answer).2 }

def step (s : Link) : LinkEvent → Option Link
  | .lose =>
    match s.connection with
    | none => none
    | some _ =>
      some { s with connection := none, connectedSeen := false, disconnectedSeen := false }
  | .establish =>
    match s.connection with
    | some _ => none
    | none =>
      some { s with
        connection := some (s.connections + 1)
        connections := s.connections + 1
        connectedSeen := false
        disconnectedSeen := false }
  | .pollConnected =>
    if s.connectedSeen then none
    else
      let handlers :=
        match s.connectedPrevious, s.connection with
        | none, some c =>
          s.handlers ++ [{ activates := true, connection := c, todo := none }]
        | _, _ => s.handlers
      some { s with connectedSeen := true, connectedPrevious := s.connection, handlers }
  | .pollDisconnected =>
    if s.disconnectedSeen then none
    else
      let handlers :=
        match s.disconnectedPrevious, s.connection with
        | some c, none =>
          s.handlers ++ [{ activates := false, connection := c, todo := none }]
        | _, _ => s.handlers
      some { s with disconnectedSeen := true, disconnectedPrevious := s.connection, handlers }
  | .startHandler i =>
    match s.handlers[i]? with
    | some handler =>
      if handler.todo.isSome then none
      else some { s with
        handlers := s.handlers.set i { handler with todo := some s.executor.tasks } }
    | none => none
  | .handlerStep i =>
    match s.handlers[i]? with
    | some handler =>
      match handler.todo with
      | none => none
      | some [] => some { s with handlers := s.handlers.eraseIdx i }
      | some (task :: rest) =>
        some { s with
          executor :=
            if handler.activates then s.executor.active task else s.executor.frozen task
          handlers := s.handlers.set i { handler with todo := some rest } }
    | none => none
  | .register request =>
    if s.writeFree then
      let made := s.executor.newTask request
      some { s with
        executor := (made.2.active made.1).addTask made.1
        flights := s.flights ++ [{ task := made.1, redo := false, sentOn := none }] }
    else none
  | .remove taskKey =>
    if s.writeFree then some { s with executor := s.executor.removeTask taskKey } else none
  | .transmit i =>
    match s.flights[i]?, s.connection with
    | some flight, some c =>
      if flight.sentOn.isSome then none
      else some { s with flights := s.flights.set i { flight with sentOn := some c } }
    | _, _ => none
  | .receive i answer =>
    match s.flights[i]? with
    | some flight =>
      if mayReceive flight answer then
        let reply : Reply :=
          { task := flight.task, redo := flight.redo, answer, receivedOn := flight.sentOn }
        some { s with
          flights := s.flights.eraseIdx i
          replies := s.replies ++ [reply]
          acked := s.record reply }
      else none
    | none => none
  | .continuation i =>
    match s.replies[i]? with
    | some reply => some (answered { s with replies := s.replies.eraseIdx i } reply)
    | none => none
  | .tick =>
    match s.round with
    | .idle => some { s with round := .holding s.executor.activeTasks }
    | _ => none
  | .runNext =>
    match s.round with
    | .holding (task :: rest) =>
      some { s with
        round := .awaiting rest
        flights := s.flights ++ [{ task, redo := true, sentOn := none }] }
    | .holding [] => some { s with round := .idle }
    | _ => none

/-! ## A handler on its own -/

/-- What is left of a handler's loop, with nothing between its steps. -/
theorem handlerStep_all {i connection : Nat} {activates : Bool} (todo : List NamingRedoTask)
    {s : Link} (hi : s.handlers[i]? = some ⟨activates, connection, some todo⟩) :
    Reaches step anyStep s (List.replicate (todo.length + 1) (.handlerStep i))
      { s with
        executor := todo.foldl (fun executor task =>
          if activates then executor.active task else executor.frozen task) s.executor
        handlers := s.handlers.eraseIdx i } := by
  induction todo generalizing s with
  | nil =>
    refine Reaches.next trivial ?_ (Reaches.refl _)
    simp only [step, hi, List.foldl_nil]
  | cons task rest ih =>
    have hlt : i < s.handlers.length := (List.getElem?_eq_some_iff.mp hi).1
    have hvisit : s.step (.handlerStep i) = some { s with
        executor := if activates then s.executor.active task else s.executor.frozen task
        handlers := s.handlers.set i ⟨activates, connection, some rest⟩ } := by
      simp only [step, hi]
    have hleft : (s.handlers.set i ⟨activates, connection, some rest⟩)[i]? =
        some ⟨activates, connection, some rest⟩ := List.getElem?_set_self hlt
    apply Reaches.next trivial hvisit
    rw [← List.eraseIdx_set_eq (l := s.handlers) (a := ⟨activates, connection, some rest⟩)]
    exact ih hleft

/-- A handler that nothing interrupts is `on_grpc_client_reconnect` or
`on_grpc_client_disconnect`. -/
theorem handler_alone {s : Link} {i : Nat} {handler : Handler}
    (hi : s.handlers[i]? = some handler) (hnew : handler.todo = none) :
    Reaches step anyStep s
      (.startHandler i :: List.replicate (s.executor.tasks.length + 1) (.handlerStep i))
      { s with
        executor := if handler.activates then s.executor.onGrpcClientReconnect
          else s.executor.onGrpcClientDisconnect
        handlers := s.handlers.eraseIdx i } := by
  have hlt : i < s.handlers.length := (List.getElem?_eq_some_iff.mp hi).1
  have hstart : s.step (.startHandler i) = some { s with
      handlers := s.handlers.set i { handler with todo := some s.executor.tasks } } := by
    simp [step, hi, hnew]
  have hleft : (s.handlers.set i { handler with todo := some s.executor.tasks })[i]? =
      some { handler with todo := some s.executor.tasks } := List.getElem?_set_self hlt
  have hloop : (if handler.activates then s.executor.onGrpcClientReconnect
      else s.executor.onGrpcClientDisconnect) = s.executor.tasks.foldl (fun executor task =>
        if handler.activates then executor.active task else executor.frozen task) s.executor := by
    cases handler.activates with
    | true => rfl
    | false => rfl
  apply Reaches.next trivial hstart
  rw [hloop, ← List.eraseIdx_set_eq (l := s.handlers)
    (a := { handler with todo := some s.executor.tasks })]
  exact handlerStep_all _ hleft

/-! ## What has to hold -/

/-- The reconnect handler of the connection has still to activate the task with
this flag. -/
def Renews (s : Link) (c flag : Nat) : Prop :=
  (s.connectedSeen = false ∧ s.connectedPrevious = none) ∨
    ∃ handler ∈ s.handlers, handler.activates = true ∧ handler.connection = c ∧
      ∀ todo, handler.todo = some todo → ∃ task ∈ todo, task.active = flag

/-- Active, or acknowledged on the connection, or still to be activated. -/
def Settled (s : Link) (c flag : Nat) : Prop :=
  s.executor.flags.load flag = some true ∨ (flag, c) ∈ s.acked ∨ s.Renews c flag

/-- The flag that a step freezes without a success received on the connection:
by a disconnect handler, by an answer from before, or by a redo request that
was answered with a failure. -/
def staleFreeze (s : Link) (c : Nat) : LinkEvent → Option Nat
  | .continuation i =>
    match s.replies[i]? with
    | some reply =>
      if reply.freezes && !reply.acknowledgedOn c then some reply.task.active else none
    | none => none
  | .handlerStep i =>
    match s.handlers[i]? with
    | some handler =>
      match handler.activates, handler.todo with
      | false, some (task :: _) => some task.active
      | _, _ => none
    | none => none
  | _ => none

/-- A stale freeze on an established connection hits a mapped task only where
it is acknowledged there or the reconnect handler has still to activate it, and
a connection is established only after the connected listener saw the loss. -/
def NoStaleFreeze (s : Link) (e : LinkEvent) : Prop :=
  (∀ c key task, s.connection = some c → s.executor.map.get? key = some task →
    s.staleFreeze c e = some task.active →
    (task.active, c) ∈ s.acked ∨ s.Renews c task.active) ∧
  (e = .establish → s.connectedPrevious = none)

/-- No handler, response, callback or round is pending. -/
def Quiet (s : Link) : Prop :=
  s.connectedSeen = true ∧ s.disconnectedSeen = true ∧ s.handlers = [] ∧ s.flights = [] ∧
    s.replies = [] ∧ s.round = .idle

/-- Every mapped task is active or acknowledged on the connection. -/
def Kept (s : Link) (c : Nat) : Prop :=
  ∀ key task, s.executor.map.get? key = some task →
    s.executor.isActive task = true ∨ (task.active, c) ∈ s.acked

/-- The invariant behind `Kept`. -/
structure Sound (s : Link) : Prop where
  inRange : ∀ key task, s.executor.map.get? key = some task →
    task.active < s.executor.flags.fresh
  recorded : ∀ reply ∈ s.replies, ∀ c, reply.acknowledgedOn c = true →
    (reply.task.active, c) ∈ s.acked
  settled : ∀ c, s.connection = some c → ∀ key task, s.executor.map.get? key = some task →
    s.Settled c task.active

/-! ## Pending reconnect handlers -/

theorem renews_append {s s' : Link} {c flag : Nat} {more : List Handler} (h : s.Renews c flag)
    (hseen : s'.connectedSeen = s.connectedSeen)
    (hprev : s'.connectedPrevious = s.connectedPrevious)
    (hh : s'.handlers = s.handlers ++ more) : s'.Renews c flag := by
  unfold Renews
  rw [hseen, hprev, hh]
  rcases h with h | ⟨handler, hm, hrest⟩
  · exact Or.inl h
  · exact Or.inr ⟨handler, List.mem_append_left _ hm, hrest⟩

theorem renews_congr {s s' : Link} {c flag : Nat} (h : s.Renews c flag)
    (hseen : s'.connectedSeen = s.connectedSeen)
    (hprev : s'.connectedPrevious = s.connectedPrevious) (hh : s'.handlers = s.handlers) :
    s'.Renews c flag :=
  renews_append h hseen hprev (hh.trans (List.append_nil _).symm)

/-- A handler is replaced by one that still activates what it would have. -/
theorem renews_set {s s' : Link} {c flag i : Nat} {handler handler' : Handler}
    (h : s.Renews c flag) (hi : s.handlers[i]? = some handler)
    (hseen : s'.connectedSeen = s.connectedSeen)
    (hprev : s'.connectedPrevious = s.connectedPrevious)
    (hh : s'.handlers = s.handlers.set i handler')
    (hkeep : handler.activates = true → handler.connection = c →
      (∀ todo, handler.todo = some todo → ∃ task ∈ todo, task.active = flag) →
      handler'.activates = true ∧ handler'.connection = c ∧
        ∀ todo, handler'.todo = some todo → ∃ task ∈ todo, task.active = flag) :
    s'.Renews c flag := by
  unfold Renews
  rw [hseen, hprev, hh]
  rcases h with h | ⟨other, hm, ha, hc, ht⟩
  · exact Or.inl h
  · rcases mem_set_or hi hm handler' with rfl | hm'
    · have hlt : i < s.handlers.length := (List.getElem?_eq_some_iff.mp hi).1
      exact Or.inr ⟨handler', List.mem_set hlt handler', hkeep ha hc ht⟩
    · exact Or.inr ⟨other, hm', ha, hc, ht⟩

/-- Each of the three reasons may carry over to another state. -/
theorem settled_imp {s s' : Link} {c flag : Nat} (h : s.Settled c flag)
    (hload : s.executor.flags.load flag = some true →
      s'.executor.flags.load flag = some true)
    (hacked : (flag, c) ∈ s.acked → (flag, c) ∈ s'.acked)
    (hrenews : s.Renews c flag → s'.Renews c flag) : s'.Settled c flag := by
  rcases h with hactive | hack | hren
  · exact Or.inl (hload hactive)
  · exact Or.inr (Or.inl (hacked hack))
  · exact Or.inr (Or.inr (hrenews hren))

/-! ## One step -/

section Steps

variable {s s' : Link}

/-- A write to one flag, with the map and everything else left alone. -/
theorem sound_of_write (hs : s.Sound) (hmap : s'.executor.map = s.executor.map)
    (hfresh : s'.executor.flags.fresh = s.executor.flags.fresh)
    (hc : s'.connection = s.connection) (ha : s'.acked = s.acked)
    (hr : ∀ reply ∈ s'.replies, reply ∈ s.replies)
    (hsettled : ∀ c key task, s.connection = some c → s.executor.map.get? key = some task →
      s.Settled c task.active → s'.Settled c task.active) : s'.Sound := by
  constructor
  · rw [hmap, hfresh]
    exact hs.inRange
  · intro reply hm c hack
    rw [ha]
    exact hs.recorded reply (hr reply hm) c hack
  · intro c hcon key task ht
    rw [hc] at hcon
    rw [hmap] at ht
    exact hsettled c key task hcon ht (hs.settled c hcon key task ht)

/-- A step that leaves the executor, the connection and the acknowledgements
alone keeps the invariant if it loses no pending reconnect handler. -/
theorem sound_of_renews (hs : s.Sound) (he : s'.executor = s.executor)
    (hc : s'.connection = s.connection) (ha : s'.acked = s.acked)
    (hr : ∀ reply ∈ s'.replies, reply ∈ s.replies)
    (hren : ∀ c key task, s.connection = some c → s.executor.map.get? key = some task →
      s.Renews c task.active → s'.Renews c task.active) : s'.Sound := by
  refine sound_of_write hs (by rw [he]) (by rw [he]) hc ha hr fun c key task hcon ht hsettled => ?_
  refine settled_imp hsettled ?_ ?_ (hren c key task hcon ht)
  · rw [he]
    exact id
  · rw [ha]
    exact id

theorem lose_sound (h : s.step .lose = some s') (hs : s.Sound) : s'.Sound := by
  simp only [step] at h
  split at h
  · cases h
  · cases h
    exact ⟨hs.inRange, hs.recorded, fun c hcon => by cases hcon⟩

/-- A new connection finds every task still to be activated. -/
theorem establish_sound (h : s.step .establish = some s') (hprev : s.connectedPrevious = none)
    (hs : s.Sound) : s'.Sound := by
  simp only [step] at h
  split at h
  · cases h
  · cases h
    exact ⟨hs.inRange, hs.recorded, fun c _ key task _ => Or.inr (Or.inr (Or.inl ⟨rfl, hprev⟩))⟩

theorem pollConnected_sound (h : s.step .pollConnected = some s') (hs : s.Sound) : s'.Sound := by
  simp only [step] at h
  split at h
  · cases h
  · cases h
    refine sound_of_renews hs rfl rfl rfl (fun _ hm => hm) fun c key task hcon _ hren => ?_
    rcases hren with ⟨_, hprev⟩ | ⟨handler, hm, hrest⟩
    · -- the listener fires for the connection that is established now
      refine Or.inr ⟨{ activates := true, connection := c, todo := none }, ?_, rfl, rfl, ?_⟩
      · simp only [hprev, hcon]
        simp
      · intro todo ht
        cases ht
    · refine Or.inr ⟨handler, ?_, hrest⟩
      simp only
      split
      · exact List.mem_append_left _ hm
      · exact hm

theorem pollDisconnected_sound (h : s.step .pollDisconnected = some s') (hs : s.Sound) :
    s'.Sound := by
  simp only [step] at h
  split at h
  · cases h
  · cases h
    refine sound_of_renews hs rfl rfl rfl (fun _ hm => hm) fun c key task _ _ hren => ?_
    split
    · exact renews_append hren rfl rfl rfl
    · exact renews_congr hren rfl rfl rfl

/-- A handler that takes the lock sees every mapped task. -/
theorem startHandler_sound {i : Nat} (h : s.step (.startHandler i) = some s') (hs : s.Sound) :
    s'.Sound := by
  simp only [step] at h
  split at h
  · next handler hi =>
    split at h
    · cases h
    · cases h
      refine sound_of_renews hs rfl rfl rfl (fun _ hm => hm) fun c key task _ ht hren => ?_
      refine renews_set hren hi rfl rfl rfl fun ha hc _ => ⟨ha, hc, ?_⟩
      intro todo htodo
      cases htodo
      exact ⟨task, mem_tasks ht, rfl⟩
  · cases h

/-- What a handler keeps pending after it has visited one task. -/
theorem renews_visit {c flag i : Nat} {handler : Handler} {task : NamingRedoTask}
    {rest : List NamingRedoTask} (h : s.Renews c flag) (hi : s.handlers[i]? = some handler)
    (htodo : handler.todo = some (task :: rest))
    (hother : handler.activates = true → task.active ≠ flag)
    (hseen : s'.connectedSeen = s.connectedSeen)
    (hprev : s'.connectedPrevious = s.connectedPrevious)
    (hh : s'.handlers = s.handlers.set i { handler with todo := some rest }) :
    s'.Renews c flag := by
  refine renews_set h hi hseen hprev hh fun ha hc ht => ⟨ha, hc, ?_⟩
  intro todo hrest
  cases hrest
  obtain ⟨next, hm, hf⟩ := ht _ htodo
  rcases List.mem_cons.mp hm with rfl | hm
  · exact absurd hf (hother ha)
  · exact ⟨next, hm, hf⟩

theorem activate_sound {i : Nat} {handler : Handler} {task : NamingRedoTask}
    {rest : List NamingRedoTask} (hi : s.handlers[i]? = some handler)
    (htodo : handler.todo = some (task :: rest)) (hs : s.Sound) :
    Sound { s with
      executor := s.executor.active task
      handlers := s.handlers.set i { handler with todo := some rest } } := by
  refine sound_of_write hs rfl (active_fresh _ _) rfl rfl (fun _ hm => hm)
    fun c key mapped _ hl hset => ?_
  by_cases hflag : task.active = mapped.active
  · refine Or.inl ?_
    rw [← hflag]
    exact active_load_self (hflag ▸ hs.inRange key mapped hl)
  · exact settled_imp hset (fun hload => active_load_mono hload task) id
      fun hren => renews_visit hren hi htodo (fun _ => hflag) rfl rfl rfl

/-- The disconnect handler freezes a task; this is harmless where it is to be
activated again or was acknowledged on the connection. -/
theorem freeze_sound {i : Nat} {handler : Handler} {task : NamingRedoTask}
    {rest : List NamingRedoTask} (hi : s.handlers[i]? = some handler)
    (hfreezes : handler.activates = false) (htodo : handler.todo = some (task :: rest))
    (hok : s.NoStaleFreeze (.handlerStep i)) (hs : s.Sound) :
    Sound { s with
      executor := s.executor.frozen task
      handlers := s.handlers.set i { handler with todo := some rest } } := by
  have hrenews : ∀ c flag, s.Renews c flag →
      Renews { s with
        executor := s.executor.frozen task
        handlers := s.handlers.set i { handler with todo := some rest } } c flag := by
    intro c flag hren
    refine renews_visit hren hi htodo (fun ha => ?_) rfl rfl rfl
    rw [hfreezes] at ha
    cases ha
  refine sound_of_write hs rfl (frozen_fresh _ _) rfl rfl (fun _ hm => hm)
    fun c key mapped hcon hl hset => ?_
  by_cases hflag : task.active = mapped.active
  · have hstale : s.staleFreeze c (.handlerStep i) = some mapped.active := by
      simp [staleFreeze, hi, hfreezes, htodo, hflag]
    rcases hok.1 c key mapped hcon hl hstale with hack | hren
    · exact Or.inr (Or.inl hack)
    · exact Or.inr (Or.inr (hrenews c _ hren))
  · exact settled_imp hset (fun hload => (frozen_load_ne hflag).trans hload) id (hrenews c _)

theorem handlerStep_sound {i : Nat} (h : s.step (.handlerStep i) = some s')
    (hok : s.NoStaleFreeze (.handlerStep i)) (hs : s.Sound) : s'.Sound := by
  simp only [step] at h
  split at h
  · next handler hi =>
    split at h
    · cases h
    · next htodo =>
      cases h
      refine sound_of_renews hs rfl rfl rfl (fun _ hm => hm) fun c key task _ _ hren => ?_
      rcases hren with hren | ⟨other, hm, ha, hc, ht⟩
      · exact Or.inl hren
      · rcases mem_eraseIdx_or hi hm with rfl | hm'
        · -- a handler with nothing left has no task to activate
          obtain ⟨_, hm, _⟩ := ht _ htodo
          simp at hm
        · exact Or.inr ⟨other, hm', ha, hc, ht⟩
    · next task rest htodo =>
      cases h
      by_cases hact : handler.activates = true
      · rw [if_pos hact]
        exact activate_sound hi htodo hs
      · rw [if_neg hact]
        exact freeze_sound hi (Bool.eq_false_iff.mpr hact) htodo hok hs
  · cases h

/-- A new task is mapped under a flag of its own, and active. -/
theorem register_sound {request : AutomaticRequest} (h : s.step (.register request) = some s')
    (hs : s.Sound) : s'.Sound := by
  simp only [step] at h
  split at h
  · cases h
    have hfresh : ((s.executor.newTask request).2.active
        (s.executor.newTask request).1).flags.fresh = s.executor.flags.fresh + 1 := by
      simp [RedoTaskExecutor.newTask]
    constructor
    · intro key task ht
      rw [addTask_lookup] at ht
      have hnew : s.executor.flags.fresh < _ := Nat.lt_succ_self s.executor.flags.fresh
      split at ht
      · cases ht
        exact hfresh.symm ▸ hnew
      · have hold := hs.inRange key task ht
        have hlt : task.active < s.executor.flags.fresh + 1 := by omega
        exact hfresh.symm ▸ hlt
    · exact hs.recorded
    · intro c hcon key task ht
      rw [addTask_lookup] at ht
      split at ht
      · cases ht
        refine Or.inl (active_load_self ?_)
        simp [RedoTaskExecutor.newTask]
      · have hold := hs.inRange key task ht
        refine settled_imp (hs.settled c hcon key task ht) (fun hload => ?_) id
          fun hren => renews_congr hren rfl rfl rfl
        apply active_load_mono
        exact (load_make_of_lt _ _ hold).trans hload
  · cases h

theorem remove_sound {taskKey : String} (h : s.step (.remove taskKey) = some s') (hs : s.Sound) :
    s'.Sound := by
  simp only [step] at h
  split at h
  · cases h
    have hold : ∀ key task, (s.executor.removeTask taskKey).map.get? key = some task →
        s.executor.map.get? key = some task := by
      intro key task ht
      rw [removeTask_lookup] at ht
      split at ht
      · cases ht
      · exact ht
    refine ⟨fun key task ht => hs.inRange key task (hold key task ht), hs.recorded, ?_⟩
    intro c hcon key task ht
    exact settled_imp (hs.settled c hcon key task (hold key task ht)) id id
      fun hren => renews_congr hren rfl rfl rfl
  · cases h

theorem acked_record {entry : Nat × Nat} (h : entry ∈ s.acked) (reply : Reply) :
    entry ∈ s.record reply := by
  unfold record
  split
  · split
    · exact List.mem_append_left _ h
    · exact h
  · exact h

theorem record_acknowledged {reply : Reply} {c : Nat} (h : reply.acknowledgedOn c = true) :
    (reply.task.active, c) ∈ s.record reply := by
  have hon : reply.receivedOn = some c := by
    simp only [Reply.acknowledgedOn, Bool.and_eq_true, decide_eq_true_eq] at h
    exact h.1
  unfold record
  simp only [hon]
  rw [if_pos h]
  exact List.mem_append_right _ (List.mem_singleton.mpr rfl)

/-- A success is recorded for the connection that it is received on. -/
theorem receive_sound {i : Nat} {answer : Except Error GrpcResponse}
    (h : s.step (.receive i answer) = some s') (hs : s.Sound) : s'.Sound := by
  simp only [step] at h
  split at h
  · next flight hi =>
    split at h
    · cases h
      constructor
      · exact hs.inRange
      · intro reply hm c hack
        rcases List.mem_append.mp hm with hm | hm
        · exact acked_record (hs.recorded reply hm c hack) _
        · cases List.mem_singleton.mp hm
          exact record_acknowledged hack
      · intro c hcon key task ht
        exact settled_imp (hs.settled c hcon key task ht) id (fun hack => acked_record hack _)
          fun hren => renews_congr hren rfl rfl rfl
    · cases h
  · cases h

/-- What an answer does to the flags. -/
theorem answered_executor (s : Link) (reply : Reply) :
    (s.answered reply).executor =
      if reply.freezes then s.executor.frozen reply.task
      else if reply.redo then s.executor.active reply.task else s.executor := by
  unfold answered Reply.freezes
  cases hr : reply.redo with
  | true => cases ha : reply.answer <;> simp [RedoTaskExecutor.callBack]
  | false =>
    simp only [Bool.false_eq_true, ↓reduceIte, settle_executor, Bool.false_or]
    cases ha : reply.answer <;> simp

theorem answered_frame (s : Link) (reply : Reply) :
    (s.answered reply).connection = s.connection ∧ (s.answered reply).acked = s.acked ∧
      (s.answered reply).replies = s.replies ∧ (s.answered reply).handlers = s.handlers ∧
      (s.answered reply).connectedSeen = s.connectedSeen ∧
      (s.answered reply).connectedPrevious = s.connectedPrevious := by
  unfold answered
  split <;> exact ⟨rfl, rfl, rfl, rfl, rfl, rfl⟩

/-- A freeze by a success received on the connection is acknowledged there; any
other one is stale. -/
theorem continuation_sound {i : Nat} (h : s.step (.continuation i) = some s')
    (hok : s.NoStaleFreeze (.continuation i)) (hs : s.Sound) : s'.Sound := by
  simp only [step] at h
  split at h
  · next reply hi =>
    cases h
    obtain ⟨hc, ha, hr, hh, hseen, hprev⟩ :=
      answered_frame { s with replies := s.replies.eraseIdx i } reply
    have he := answered_executor { s with replies := s.replies.eraseIdx i } reply
    simp only at he
    have hmem : reply ∈ s.replies := List.mem_of_getElem? hi
    refine sound_of_write hs ?_ ?_ hc ha (fun r hm => ?_) fun c key task hcon hl hset => ?_
    · rw [he]
      split
      · rfl
      · split <;> rfl
    · rw [he]
      split
      · exact frozen_fresh _ _
      · split
        · exact active_fresh _ _
        · rfl
    · rw [hr] at hm
      exact List.mem_of_mem_eraseIdx hm
    · have hacked : ∀ entry ∈ s.acked,
          entry ∈ (answered { s with replies := s.replies.eraseIdx i } reply).acked := by
        rw [ha]
        exact fun _ hm => hm
      have hren : s.Renews c task.active →
          Renews (answered { s with replies := s.replies.eraseIdx i } reply) c task.active :=
        fun hren => renews_congr hren hseen hprev hh
      cases hf : reply.freezes with
      | true =>
        rw [hf, if_pos rfl] at he
        by_cases hflag : reply.task.active = task.active
        · cases hack : reply.acknowledgedOn c with
          | true => exact Or.inr (Or.inl (hacked _ (hflag ▸ hs.recorded reply hmem c hack)))
          | false =>
            have hstale : s.staleFreeze c (.continuation i) = some task.active := by
              simp [staleFreeze, hi, hf, hack, hflag]
            exact Or.inr ((hok.1 c key task hcon hl hstale).imp (hacked _) hren)
        · refine settled_imp hset (fun hload => ?_) (hacked _) hren
          rw [he]
          exact (frozen_load_ne hflag).trans hload
      | false =>
        rw [hf, if_neg Bool.false_ne_true] at he
        refine settled_imp hset (fun hload => ?_) (hacked _) hren
        rw [he]
        split
        · exact active_load_mono hload _
        · exact hload
  · cases h

/-- **One step.** Every mapped task stays active, acknowledged on the
connection or still to be activated, under any step that is no stale freeze. -/
theorem step_kept {e : LinkEvent} (hok : s.NoStaleFreeze e) (h : s.step e = some s')
    (hs : s.Sound) : s'.Sound := by
  cases e with
  | lose => exact lose_sound h hs
  | establish => exact establish_sound h (hok.2 rfl) hs
  | pollConnected => exact pollConnected_sound h hs
  | pollDisconnected => exact pollDisconnected_sound h hs
  | startHandler i => exact startHandler_sound h hs
  | handlerStep i => exact handlerStep_sound h hok hs
  | register request => exact register_sound h hs
  | remove taskKey => exact remove_sound h hs
  | receive i answer => exact receive_sound h hs
  | continuation i => exact continuation_sound h hok hs
  | transmit i =>
    simp only [step] at h
    split at h
    · split at h
      · cases h
      · cases h
        exact sound_of_renews hs rfl rfl rfl (fun _ hm => hm) fun _ _ _ _ _ hren => hren
    · cases h
  | tick =>
    simp only [step] at h
    split at h
    · cases h
      exact sound_of_renews hs rfl rfl rfl (fun _ hm => hm) fun _ _ _ _ _ hren => hren
    · cases h
  | runNext =>
    simp only [step] at h
    split at h
    · cases h
      exact sound_of_renews hs rfl rfl rfl (fun _ hm => hm) fun _ _ _ _ _ hren => hren
    · cases h
      exact sound_of_renews hs rfl rfl rfl (fun _ hm => hm) fun _ _ _ _ _ hren => hren
    · cases h

end Steps

/-! ## Whole runs -/

theorem start_sound : Sound start where
  inRange := fun _ _ h => by cases h
  recorded := fun _ h => by cases h
  settled := fun _ h => by cases h

theorem not_renews_of_quiet {s : Link} (h : s.Quiet) (c flag : Nat) : ¬ s.Renews c flag := by
  obtain ⟨hseen, _, hh, _⟩ := h
  rintro (⟨hno, _⟩ | ⟨handler, hm, _⟩)
  · rw [hseen] at hno
    cases hno
  · rw [hh] at hm
    cases hm

/-- **No registration is forgotten.** In every run without a stale freeze, once
nothing is pending on an established connection, every mapped task is active or
was acknowledged on this connection. -/
theorem registrations_kept {es : List LinkEvent} {t : Link} {c : Nat}
    (hrun : Reaches step NoStaleFreeze start es t) (hc : t.connection = some c)
    (hq : t.Quiet) : t.Kept c := by
  have hsound : t.Sound :=
    hrun.invariant (fun _ _ _ hok hs hi => step_kept hok hs hi) start_sound
  intro key task ht
  rcases hsound.settled c hc key task ht with hload | hack | hren
  · exact Or.inl (decide_eq_true hload)
  · exact Or.inr hack
  · exact absurd hren (not_renews_of_quiet hq c task.active)

/-! ## A registration and a reconnection -/

/-- The test behind `Renews`. -/
def renewsTest (s : Link) (c flag : Nat) : Bool :=
  (!s.connectedSeen && s.connectedPrevious.isNone) ||
    s.handlers.any fun handler => handler.activates && handler.connection == c &&
      match handler.todo with
      | none => true
      | some todo => todo.any fun task => task.active == flag

/-- A stale freeze on the connection is acknowledged there or made good by its
reconnect handler. -/
def calm (s : Link) (e : LinkEvent) : Bool :=
  (match s.connection with
    | none => true
    | some c =>
      match s.staleFreeze c e with
      | none => true
      | some flag => s.acked.contains (flag, c) || s.renewsTest c flag) &&
    match e with
    | .establish => s.connectedPrevious.isNone
    | _ => true

theorem renews_of_test {s : Link} {c flag : Nat} (h : s.renewsTest c flag = true) :
    s.Renews c flag := by
  simp only [renewsTest, Bool.or_eq_true, Bool.and_eq_true, Bool.not_eq_eq_eq_not, Bool.not_true,
    Option.isNone_iff_eq_none, List.any_eq_true, beq_iff_eq] at h
  rcases h with h | ⟨handler, hm, ⟨ha, hc⟩, htodo⟩
  · exact Or.inl h
  · refine Or.inr ⟨handler, hm, ha, hc, fun todo ht => ?_⟩
    simpa [ht] using htodo

theorem noStaleFreeze_of_calm (s : Link) (e : LinkEvent) (h : s.calm e = true) :
    s.NoStaleFreeze e := by
  simp only [calm, Bool.and_eq_true] at h
  obtain ⟨hfreeze, hestablish⟩ := h
  constructor
  · intro c key task hcon _ hstale
    simp only [hcon, hstale, Bool.or_eq_true, List.contains_iff_mem] at hfreeze
    exact hfreeze.imp_right renews_of_test
  · rintro rfl
    simpa using hestablish

def ordersRequest : AutomaticRequest :=
  .ephemeral (InstanceRequest.new .register ServiceInstance.default (some "orders")
    (some "public") (some defaultGroup))

/-- A connection with its handler, which finds no task yet. -/
def connected : List LinkEvent :=
  [.establish, .pollConnected, .pollDisconnected, .startHandler 0, .handlerStep 0]

/-- The connection is lost and another one is established; both handlers of the
change are spawned, that of the loss first. -/
def changeover : List LinkEvent :=
  [.lose, .pollConnected, .pollDisconnected, .establish, .pollConnected, .pollDisconnected]

/-- The answer to the registration comes from connection 1 while connection 2 is
established. The disconnect handler and this answer freeze the task before the
reconnect handler activates it, and the redo schedule registers it again. -/
def reconnected : List LinkEvent :=
  connected ++ [.register ordersRequest, .transmit 0] ++ changeover ++
    [.receive 0 (.ok GrpcResponse.ok), .startHandler 0, .handlerStep 0, .handlerStep 0,
      .continuation 0, .startHandler 0, .handlerStep 0, .handlerStep 0, .tick, .runNext,
      .transmit 0, .receive 0 (.ok GrpcResponse.ok), .continuation 0, .runNext]

/-- The registration is acknowledged on connection 1; after the change the
handler of the loss runs after the one of the new connection. -/
def lateDisconnect : List LinkEvent :=
  connected ++ [.register ordersRequest, .transmit 0, .receive 0 (.ok GrpcResponse.ok),
      .continuation 0] ++ changeover ++
    [.startHandler 1, .handlerStep 1, .handlerStep 1, .startHandler 0, .handlerStep 0,
      .handlerStep 0]

/-- Both handlers have run, in order, when the answer of connection 1 comes. -/
def lateAnswer : List LinkEvent :=
  connected ++ [.register ordersRequest, .transmit 0] ++ changeover ++
    [.startHandler 0, .handlerStep 0, .handlerStep 0, .startHandler 0, .handlerStep 0,
      .handlerStep 0, .receive 0 (.ok GrpcResponse.ok), .continuation 0]

/-- Where a run from the start ends. -/
def reached (es : List LinkEvent) : Link := (run step start es).getD start

theorem registrations_kept_reconnected : (reached reconnected).Kept 2 :=
  registrations_kept (runWhile_reaches noStaleFreeze_of_calm
    (rfl : runWhile step calm start reconnected = some (reached reconnected)))
    rfl ⟨rfl, rfl, rfl, rfl, rfl, rfl⟩

/-- The task of the registration, not active and not acknowledged. -/
theorem not_kept_of_frozen {s : Link} {c : Nat} {key : String} {task : NamingRedoTask}
    (hmapped : s.executor.map.get? key = some task) (hfrozen : s.executor.isActive task = false)
    (hack : (task.active, c) ∉ s.acked) : ¬ s.Kept c := by
  intro hkept
  rcases hkept key task hmapped with hactive | hm
  · rw [hfrozen] at hactive
    cases hactive
  · exact hack hm

/-- The registration is frozen on connection 2, which never saw it. -/
theorem lateDisconnect_not_kept :
    Reaches step anyStep start lateDisconnect (reached lateDisconnect) ∧
      (reached lateDisconnect).connection = some 2 ∧ (reached lateDisconnect).Quiet ∧
      ¬ (reached lateDisconnect).Kept 2 := by
  refine ⟨run_reaches rfl, rfl, ⟨rfl, rfl, rfl, rfl, rfl, rfl⟩, ?_⟩
  have hmapped : (reached lateDisconnect).executor.map.get? ordersRequest.name =
      some { active := 0, automaticRequest := ordersRequest } := by decide
  exact not_kept_of_frozen hmapped (by decide) (by decide)

/-- The same through a late answer alone. -/
theorem lateAnswer_not_kept :
    Reaches step anyStep start lateAnswer (reached lateAnswer) ∧
      (reached lateAnswer).connection = some 2 ∧ (reached lateAnswer).Quiet ∧
      ¬ (reached lateAnswer).Kept 2 := by
  refine ⟨run_reaches rfl, rfl, ⟨rfl, rfl, rfl, rfl, rfl, rfl⟩, ?_⟩
  have hmapped : (reached lateAnswer).executor.map.get? ordersRequest.name =
      some { active := 0, automaticRequest := ordersRequest } := by decide
  exact not_kept_of_frozen hmapped (by decide) (by decide)

end Link

end NacosSdk.Naming
