import NacosSdk.Naming.Service
import NacosSdk.Remote.GrpcMessage

/-!
# What counts as an acknowledged request

The answer to an automatic request on its way through three layers:
`NacosGrpcClient::send_request` decodes the payload, `AutomaticRequest::run`
hands the outcome to the callback of its redo task, and the direct path tests
the result code with `handle_response`. Proved here, for every request type and
every answer:

* `settle_isActive`, `callBack_isActive`: which answers freeze a task;
* `redo_agrees_iff`: exactly when the two paths agree;
* `failedResponse_not_agrees`: a registration that the server has refused.
-/

namespace NacosSdk.Naming
open NacosSdk.Common NacosSdk.Lib NacosSdk.Remote

/-! ## Answers -/

structure InstanceResponse extends GrpcResponse where
  rType : Option String
  deriving DecidableEq

structure BatchInstanceResponse extends GrpcResponse where
  rType : Option String
  deriving DecidableEq

section Layers

variable [GrpcMessageData ErrorResponse] [GrpcMessageData InstanceResponse]
  [GrpcMessageData BatchInstanceResponse] [GrpcMessageData ServiceInfoResponse]

/-- The end of `send_request`: the body of the payload that came back, or the
error of the encoding, the transport or the decoding. -/
def receiveResponse (T : Type) [GrpcMessageData T] (answer : Except Error Payload) :
    Except Error T :=
  match answer with
  | .error e => .error e
  | .ok payload =>
    match GrpcMessage.fromPayload T payload with
    | .error e => .error e
    | .ok message => .ok message.body

/-- `send_request` with the response type of the request. -/
def AutomaticRequest.receive (request : AutomaticRequest) (answer : Except Error Payload) :
    Except Error GrpcResponse :=
  match request with
  | .ephemeral _ =>
    (receiveResponse InstanceResponse answer).map InstanceResponse.toGrpcResponse
  | .batch _ =>
    (receiveResponse BatchInstanceResponse answer).map BatchInstanceResponse.toGrpcResponse
  | .persistent _ =>
    (receiveResponse InstanceResponse answer).map InstanceResponse.toGrpcResponse
  | .subscribe _ =>
    (receiveResponse ServiceInfoResponse answer).map ServiceInfoResponse.toGrpcResponse

/-- A redo run of the task that is answered so. -/
def RedoTaskExecutor.redone (executor : RedoTaskExecutor) (task : NamingRedoTask)
    (answer : Except Error Payload) : RedoTaskExecutor :=
  executor.callBack task (task.automaticRequest.receive answer)

/-- The direct path of the same request with the same answer. -/
def RedoTaskExecutor.direct (executor : RedoTaskExecutor) (task : NamingRedoTask)
    (operation : String) (answer : Except Error Payload) : RedoTaskExecutor :=
  (executor.settle task operation (task.automaticRequest.receive answer)).2

/-- A well-typed response with the success result code arrived. -/
def AutomaticRequest.Acknowledged (request : AutomaticRequest) (answer : Except Error Payload) :
    Prop :=
  ∃ response, request.receive answer = .ok response ∧ response.isSuccess = true

/-- The redo path freezes the task exactly when the direct path does, and that is
when the request was acknowledged. -/
structure RedoTaskExecutor.Agrees (executor : RedoTaskExecutor) (task : NamingRedoTask)
    (operation : String) (answer : Except Error Payload) : Prop where
  same : (executor.redone task answer).isActive task = false ↔
    (executor.direct task operation answer).isActive task = false
  acknowledged : (executor.redone task answer).isActive task = false ↔
    task.automaticRequest.Acknowledged answer

/-! ## The two paths -/

variable {executor : RedoTaskExecutor} {task : NamingRedoTask}

/-- The redo path freezes the task for every well-typed response. -/
theorem callBack_isActive (h : executor.isActive task = true) (answer : Except Error Payload) :
    (executor.redone task answer).isActive task = false ↔
      ∃ response, task.automaticRequest.receive answer = .ok response := by
  unfold RedoTaskExecutor.redone RedoTaskExecutor.callBack
  cases hreceived : task.automaticRequest.receive answer with
  | error e => simp [active_isActive h]
  | ok response => simp [frozen_isActive h]

/-- The direct path freezes the task for every acknowledged request. -/
theorem settle_isActive (h : executor.isActive task = true) (operation : String)
    (answer : Except Error Payload) :
    (executor.direct task operation answer).isActive task = false ↔
      task.automaticRequest.Acknowledged answer := by
  unfold RedoTaskExecutor.direct AutomaticRequest.Acknowledged
  rw [settle_executor]
  cases hreceived : task.automaticRequest.receive answer with
  | error e => simp [h]
  | ok response =>
    cases hsuccess : response.isSuccess with
    | true => simp [hsuccess, frozen_isActive h]
    | false => simp [hsuccess, h]

/-- **Redo and direct path.** They agree on an answer exactly when it is not a
well-typed response with another result code than success. -/
theorem redo_agrees_iff (h : executor.isActive task = true) (operation : String)
    (answer : Except Error Payload) :
    executor.Agrees task operation answer ↔
      ∀ response, task.automaticRequest.receive answer = .ok response →
        response.isSuccess = true := by
  constructor
  · intro hagrees response hreceived
    obtain ⟨response', hreceived', hsuccess⟩ :=
      hagrees.acknowledged.mp ((callBack_isActive h answer).mpr ⟨response, hreceived⟩)
    obtain rfl := Except.ok.inj (hreceived'.symm.trans hreceived)
    exact hsuccess
  · intro hsuccess
    have hacknowledged : (executor.redone task answer).isActive task = false ↔
        task.automaticRequest.Acknowledged answer := by
      rw [callBack_isActive h]
      constructor
      · rintro ⟨response, hreceived⟩
        exact ⟨response, hreceived, hsuccess response hreceived⟩
      · rintro ⟨response, hreceived, _⟩
        exact ⟨response, hreceived⟩
    exact ⟨hacknowledged.trans (settle_isActive h operation answer).symm, hacknowledged⟩

end Layers

/-! ## A refused registration -/

/-- `serde_json` on the failed response to a registration. -/
@[reducible] def failedInstanceCodec : GrpcMessageData InstanceResponse where
  identity := "InstanceResponse"
  toVec := fun _ => .error "not written"
  fromSlice := fun bytes =>
    if bytes = failJson then .ok { GrpcResponse.fail with rType := none } else .error "not read"

/-- A message type that is not met here. -/
@[reducible] def unusedCodec (T : Type) (identity : String) : GrpcMessageData T where
  identity
  toVec := fun _ => .error "not written"
  fromSlice := fun _ => .error "not read"

@[reducible] def unusedBatchCodec : GrpcMessageData BatchInstanceResponse :=
  unusedCodec BatchInstanceResponse "BatchInstanceResponse"

@[reducible] def unusedSubscribeCodec : GrpcMessageData ServiceInfoResponse :=
  unusedCodec ServiceInfoResponse "SubscribeServiceResponse"

/-- A registration and its active task. -/
def renewal : NamingRedoTask × RedoTaskExecutor :=
  let made := RedoTaskExecutor.new.newTask (.ephemeral (InstanceRequest.new .register
    ServiceInstance.default (some "orders") (some "public") (some "DEFAULT_GROUP")))
  (made.1, (made.2.active made.1).addTask made.1)

def refused : Payload where
  metadata := some { Metadata.empty with type := "InstanceResponse" }
  body := some { typeUrl := "InstanceResponse", value := failJson }

theorem redo_agrees_iff_unreachable :
    @RedoTaskExecutor.Agrees failCodec failedInstanceCodec unusedBatchCodec unusedSubscribeCodec
      renewal.2 renewal.1 "register_instance" (.error .noAvailableServer) :=
  (@redo_agrees_iff failCodec failedInstanceCodec unusedBatchCodec unusedSubscribeCodec
    renewal.2 renewal.1 (by decide +kernel) "register_instance" (.error .noAvailableServer)).mpr
    (fun _ hreceived => by cases hreceived)

/-- The answer of result code 500 freezes the task on the redo path only. -/
theorem failedResponse_not_agrees :
    ¬ ∀ (executor : RedoTaskExecutor) (task : NamingRedoTask) (operation : String)
      (answer : Except Error Payload), executor.isActive task = true →
      @RedoTaskExecutor.Agrees failCodec failedInstanceCodec unusedBatchCodec unusedSubscribeCodec
        executor task operation answer := by
  intro h
  obtain ⟨hsame, _⟩ :=
    h renewal.2 renewal.1 "register_instance" (.ok refused) (by decide +kernel)
  exact absurd hsame (by decide +kernel)

end NacosSdk.Naming
