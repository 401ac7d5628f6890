import NacosSdk.Config.Worker
import NacosSdk.Remote.ServerRequests

/-!
# Notifications of changed configs

`ConfigChangeNotifyHandler` of `config/handler.rs` on the server stream of the
config client. Proved here, for every stream:

* `changes_reach`: a worker with room takes the keys that the handler sends;
* `configStream_law`: which keys reach the worker, in which order, and what the
  server reads in the replies.
-/

namespace NacosSdk.Config
open NacosSdk.Common NacosSdk.Remote NacosSdk.Lib.Run

structure ConfigChangeNotifyRequest where
  headers : HashMap String
  requestId : Option String
  namespace_ : Option String
  dataId : Option String
  group : Option String
  deriving DecidableEq

structure ConfigChangeNotifyResponse extends GrpcResponse where
  requestId : Option String
  deriving DecidableEq

namespace ConfigChangeNotifyResponse

def ok : ConfigChangeNotifyResponse := { GrpcResponse.ok with requestId := none }

/-- `request_id`, the setter. -/
def withRequestId (response : ConfigChangeNotifyResponse) (requestId : String) :
    ConfigChangeNotifyResponse :=
  { response with requestId := some requestId }

end ConfigChangeNotifyResponse

/-- What the handler needs of a request. -/
structure ConfigChange where
  key : String
  requestId : String
  deriving DecidableEq

/-- The request names a config; the id and the namespace may be absent. -/
def ConfigChangeNotifyRequest.change (serverReq : ConfigChangeNotifyRequest) :
    Option ConfigChange :=
  let serverReqId := serverReq.requestId.getD ""
  let reqNamespace := serverReq.namespace_.getD ""
  match serverReq.dataId, serverReq.group with
  | some reqDataId, some reqGroup => some ⟨groupKey reqDataId reqGroup reqNamespace, serverReqId⟩
  | _, _ => none

def ConfigChange.response (change : ConfigChange) : ConfigChangeNotifyResponse :=
  ConfigChangeNotifyResponse.ok.withRequestId change.requestId

/-- `notify_change_tx.send`: the keys that were sent. -/
def ConfigChange.send (sent : List String) (change : ConfigChange) : List String :=
  sent ++ [change.key]

/-- The key that a push puts into the channel. -/
def changedKey : Push ConfigChange → Option String
  | .request change => some change.key
  | .detection _ => none

theorem sent_keys (pushes : List (Push ConfigChange)) (sent : List String) :
    pushes.foldl (Push.act ConfigChange.send) sent = sent ++ pushes.filterMap changedKey := by
  induction pushes generalizing sent with
  | nil => simp
  | cons push rest ih =>
    rw [List.foldl_cons, ih]
    cases push with
    | request change =>
      have hkey : changedKey (.request change) = some change.key := rfl
      rw [List.filterMap_cons_some hkey]
      simp [Push.act, ConfigChange.send]
    | detection requestId =>
      have hkey : changedKey (.detection requestId) = none := rfl
      rw [List.filterMap_cons_none hkey, Push.act]

/-- The keys go into the worker's channel in their order while it has room. -/
theorem changes_reach (keys : List String) {worker : ConfigWorker}
    (h : worker.notifyChange.length + keys.length ≤ notifyChangeCapacity) :
    Reaches ConfigWorker.step anyStep worker (keys.map .change)
      { worker with notifyChange := worker.notifyChange ++ keys } := by
  induction keys generalizing worker with
  | nil =>
    simp only [List.map_nil, List.append_nil]
    exact Reaches.refl worker
  | cons key rest ih =>
    rw [List.length_cons] at h
    have hstep : worker.step (.change key) =
        some { worker with notifyChange := worker.notifyChange ++ [key] } := by
      simp only [ConfigWorker.step]
      rw [if_pos (by omega)]
    refine Reaches.next trivial hstep ?_
    have hrest := @ih { worker with notifyChange := worker.notifyChange ++ [key] }
      (by simp only [List.length_append, List.length_singleton]; omega)
    simpa using hrest

section Stream

variable [GrpcMessageData ConfigChangeNotifyRequest] [GrpcMessageData ClientDetectionRequest]
  [GrpcMessageData ErrorResponse]

/-- What the config client takes from a payload. -/
def configPushOf (payload : Payload) : Option (Push ConfigChange) :=
  pushOf ConfigChangeNotifyRequest ConfigChangeNotifyRequest.change payload

/-- A request of the server that names a config is a push. -/
theorem configPushOf_intoPayload (hlossless : Lossless ConfigChangeNotifyRequest)
    (hdistinct : (GrpcMessageData.identity ConfigChangeNotifyRequest : String) ≠
      GrpcMessageData.identity ClientDetectionRequest)
    {message : GrpcMessage ConfigChangeNotifyRequest} {payload : Payload}
    (h : message.intoPayload = .ok payload) :
    configPushOf payload = message.body.change.map .request := by
  obtain ⟨any, hmeta, _, _⟩ := intoPayload_ok h
  unfold configPushOf pushOf
  rw [hmeta]
  dsimp only
  rw [if_neg hdistinct, if_pos rfl, requested_intoPayload (hlossless _) h]

variable [GrpcMessageData ConfigChangeNotifyResponse] [GrpcMessageData ClientDetectionResponse]

/-- `ConfigChangeNotifyHandler::request_reply`. -/
def configChangeNotifyHandler (localIp : String) : ServerRequestHandler (List String) :=
  requestReply localIp fun (serverReq : ConfigChangeNotifyRequest) sent =>
    match serverReq.change with
    | none => none
    | some change => some (change.response, change.send sent)

/-- The handlers that `ConfigWorker::new` registers. -/
def configHandlers (localIp : String) : HandlerMap (List String) :=
  builtHandlers localIp ((∅ : HandlerMap (List String)).insert
    (GrpcMessageData.identity ConfigChangeNotifyRequest) (configChangeNotifyHandler localIp))

theorem config_handles (localIp : String) :
    Handles (configHandlers localIp) configPushOf (Push.act ConfigChange.send)
      (Push.reply localIp ConfigChange.response) := by
  apply built_handles
  intro serverReq sent
  cases serverReq.change <;> rfl

/-- **Changes.** The keys of the notifications go into the worker's channel in
the order of the stream, each notification gets a reply with its own id, and only
the end of the stream is ever cut off; a notification that the server encodes
with the config's name is one of them. -/
theorem configStream_law (hrequest : Lossless ConfigChangeNotifyRequest)
    (hresponse : Lossless ConfigChangeNotifyResponse)
    (hdetection : Lossless ClientDetectionResponse)
    (hdistinct : (GrpcMessageData.identity ConfigChangeNotifyRequest : String) ≠
      GrpcMessageData.identity ClientDetectionRequest)
    (localIp : String) (items : List StreamItem) :
    let (replies, sent) := serveStream (configHandlers localIp) items []
    (∃ pushes cut lost, (received items).filterMap configPushOf = pushes ++ cut ∧
      sent = pushes.filterMap changedKey ∧
      pushes.filterMap (Push.reply localIp ConfigChange.response) = replies ++ lost ∧
      lost.length ≤ 1 ∧ ((∀ d ∈ items, d.taken = true) → cut = [] ∧ lost = [])) ∧
    (∀ worker : ConfigWorker, worker.notifyChange.length + sent.length ≤ notifyChangeCapacity →
      Reaches ConfigWorker.step anyStep worker (sent.map .change)
        { worker with notifyChange := worker.notifyChange ++ sent }) ∧
    (∀ push reply, Push.reply localIp ConfigChange.response push = some reply →
      push.Answered ConfigChange.response reply) ∧
    (∀ (message : GrpcMessage ConfigChangeNotifyRequest) payload,
      message.intoPayload = .ok payload →
        configPushOf payload = message.body.change.map .request) := by
  obtain ⟨pushes, cut, lost, hall, hsent, hreplies, hlost, htaken⟩ :=
    serveStream_law (config_handles localIp) items []
  refine ⟨⟨pushes, cut, lost, hall, ?_, hreplies, hlost, htaken⟩, fun worker => changes_reach _,
    fun push reply => reply_answered hresponse hdetection,
    fun message payload => configPushOf_intoPayload hrequest hdistinct⟩
  rw [hsent, sent_keys, List.nil_append]

end Stream

/-! ## One notification -/

/-- The server says that `app.yaml` changed. -/
def appChangeNotice : GrpcMessage ConfigChangeNotifyRequest where
  headers := ∅
  body :=
    { headers := ∅, requestId := some "7", namespace_ := some "public"
      dataId := some "app.yaml", group := some "DEFAULT_GROUP" }
  clientIp := "10.0.0.1"

def appChange : ConfigChange := ⟨"app.yaml+_+DEFAULT_GROUP+_+public", "7"⟩

/-- `serde_json` on the notification and its text. -/
@[reducible] def appChangeCodec : GrpcMessageData ConfigChangeNotifyRequest :=
  oneCodec "ConfigChangeNotifyRequest" appChangeNotice.body
    ("\x7b\"headers\":\x7b\x7d,\"requestId\":\"7\",\"tenant\":\"public\"," ++
      "\"dataId\":\"app.yaml\",\"group\":\"DEFAULT_GROUP\"\x7d")

/-- `serde_json` on its response and that text. -/
@[reducible] def appChangedCodec : GrpcMessageData ConfigChangeNotifyResponse :=
  oneCodec "ConfigChangeNotifyResponse" appChange.response
    "\x7b\"resultCode\":200,\"errorCode\":0,\"message\":\"Response ok\",\"requestId\":\"7\"\x7d"

theorem configStream_law_app :
    letI := appChangeCodec
    letI := appChangedCodec
    letI := detectionCodec
    letI := detectedCodec
    letI := failCodec
    ∃ payload reply, appChangeNotice.intoPayload = .ok payload ∧
      serveStream (configHandlers "10.0.0.7") [⟨.ok payload, true⟩] [] =
        ([reply], ["app.yaml+_+DEFAULT_GROUP+_+public"]) ∧
      ReadAs appChange.response reply := by
  let _ := appChangeCodec
  let _ := appChangedCodec
  let _ := detectionCodec
  let _ := detectedCodec
  let _ := failCodec
  obtain ⟨_, _, hread, _⟩ := configStream_law (oneCodec_lossless _ appChangeNotice.body _)
    (oneCodec_lossless _ appChange.response _) (oneCodec_lossless _ _ _)
    (by decide) "10.0.0.7" [⟨appChangeNotice.intoPayload, true⟩]
  exact ⟨_, _, rfl, rfl, hread (.request appChange) _ rfl⟩

end NacosSdk.Config
