import NacosSdk.Naming.EmptyProtection
import NacosSdk.Remote.ServerRequests

/-!
# Snapshots that the server pushes

`NamingPushRequestHandler` of `naming/handler/naming_push_request_handler.rs` on
the server stream of the naming client. The handler waits until its snapshot is
emitted; emits of other tasks are the subject of `Pipeline`. Proved here, for
every stream:

* `namingStream_law`: which snapshots are emitted, in which order, and what the
  server reads in the replies.
-/

namespace NacosSdk.Naming
open NacosSdk.Common NacosSdk.Remote

structure NotifySubscriberRequest where
  serviceInfo : ServiceInfo
  headers : HashMap String
  requestId : Option String
  namespace_ : Option String
  serviceName : Option String
  groupName : Option String
  deriving DecidableEq

structure NotifySubscriberResponse extends GrpcResponse where
  requestId : Option String
  deriving DecidableEq

def NotifySubscriberResponse.ok : NotifySubscriberResponse :=
  { GrpcResponse.ok with requestId := none }

/-- What the handler takes from a request. -/
structure SubscriberNotice where
  serviceInfo : ServiceInfo
  requestId : Option String
  deriving DecidableEq

def NotifySubscriberRequest.notice (body : NotifySubscriberRequest) : SubscriberNotice where
  serviceInfo := body.serviceInfo
  requestId := body.requestId

def SubscriberNotice.response (notice : SubscriberNotice) : NotifySubscriberResponse :=
  { NotifySubscriberResponse.ok with requestId := notice.requestId }

def SubscriberNotice.emit (emitter : ServiceInfoEmitter) (notice : SubscriberNotice) :
    ServiceInfoEmitter :=
  emitter.emit notice.serviceInfo

/-- The snapshot that a push emits. -/
def pushedInfo : Push SubscriberNotice → Option ServiceInfo
  | .request notice => some notice.serviceInfo
  | .detection _ => none

theorem emitted_infos (pushes : List (Push SubscriberNotice)) (emitter : ServiceInfoEmitter) :
    pushes.foldl (Push.act SubscriberNotice.emit) emitter =
      emitter.emitAll (pushes.filterMap pushedInfo) := by
  induction pushes generalizing emitter with
  | nil => rfl
  | cons push rest ih =>
    rw [List.foldl_cons, ih]
    cases push with
    | request notice =>
      have hinfo : pushedInfo (.request notice) = some notice.serviceInfo := rfl
      rw [List.filterMap_cons_some hinfo]
      rfl
    | detection requestId =>
      have hinfo : pushedInfo (.detection requestId) = none := rfl
      rw [List.filterMap_cons_none hinfo]
      rfl

section Stream

variable [GrpcMessageData NotifySubscriberRequest] [GrpcMessageData ClientDetectionRequest]
  [GrpcMessageData ErrorResponse]

/-- What the naming client takes from a payload. -/
def namingPushOf (payload : Payload) : Option (Push SubscriberNotice) :=
  pushOf NotifySubscriberRequest (fun body => some body.notice) payload

theorem namingPushOf_intoPayload
    (hdistinct : (GrpcMessageData.identity NotifySubscriberRequest : String) ≠
      GrpcMessageData.identity ClientDetectionRequest)
    {message : GrpcMessage NotifySubscriberRequest} {payload : Payload}
    (hserde : ReadsBack message.body) (h : message.intoPayload = .ok payload) :
    namingPushOf payload = some (.request message.body.notice) := by
  obtain ⟨any, hmeta, _, _⟩ := intoPayload_ok h
  unfold namingPushOf pushOf
  rw [hmeta]
  dsimp only
  rw [if_neg hdistinct, if_pos rfl, requested_intoPayload hserde h]
  rfl

variable [GrpcMessageData NotifySubscriberResponse] [GrpcMessageData ClientDetectionResponse]

/-- `NamingPushRequestHandler::request_reply`. -/
def namingPushRequestHandler (localIp : String) : ServerRequestHandler ServiceInfoEmitter :=
  requestReply localIp fun (body : NotifySubscriberRequest) emitter =>
    some (body.notice.response, body.notice.emit emitter)

/-- The handlers that `NacosNamingService::new` registers. -/
def namingHandlers (localIp : String) : HandlerMap ServiceInfoEmitter :=
  builtHandlers localIp ((∅ : HandlerMap ServiceInfoEmitter).insert
    (GrpcMessageData.identity NotifySubscriberRequest) (namingPushRequestHandler localIp))

theorem naming_handles (localIp : String) :
    Handles (namingHandlers localIp) namingPushOf (Push.act SubscriberNotice.emit)
      (Push.reply localIp SubscriberNotice.response) :=
  built_handles fun _ _ => rfl

/-- **Snapshots.** The snapshots that the server pushes are emitted in the order
of the stream, each gets a reply with its own id, and only the end of the stream
is ever cut off; what the server encodes is one of them where `serde_json` reads
the snapshot back. No entry of the cache is lost, and under the protection cache
and channel stay valid. -/
theorem namingStream_law (hresponse : Lossless NotifySubscriberResponse)
    (hdetection : Lossless ClientDetectionResponse)
    (hdistinct : (GrpcMessageData.identity NotifySubscriberRequest : String) ≠
      GrpcMessageData.identity ClientDetectionRequest)
    (localIp : String) (items : List StreamItem) (emitter : ServiceInfoEmitter) :
    let (replies, emitted) := serveStream (namingHandlers localIp) items emitter
    (∃ pushes cut lost, (received items).filterMap namingPushOf = pushes ++ cut ∧
      emitted = emitter.emitAll (pushes.filterMap pushedInfo) ∧
      pushes.filterMap (Push.reply localIp SubscriberNotice.response) = replies ++ lost ∧
      lost.length ≤ 1 ∧ ((∀ d ∈ items, d.taken = true) → cut = [] ∧ lost = [])) ∧
    (∀ key, (emitter.cache.get? key).isSome = true → (emitted.cache.get? key).isSome = true) ∧
    (emitter.Protected → emitted.Protected) ∧
    (∀ push reply, Push.reply localIp SubscriberNotice.response push = some reply →
      push.Answered SubscriberNotice.response reply) ∧
    (∀ (message : GrpcMessage NotifySubscriberRequest) payload,
      ReadsBack message.body → message.intoPayload = .ok payload →
        namingPushOf payload = some (.request message.body.notice)) := by
  obtain ⟨pushes, cut, lost, hall, hemitted, hreplies, hlost, htaken⟩ :=
    serveStream_law (naming_handles localIp) items emitter
  rw [emitted_infos] at hemitted
  refine ⟨⟨pushes, cut, lost, hall, hemitted, hreplies, hlost, htaken⟩, ?_, ?_,
    fun push reply => reply_answered hresponse hdetection,
    fun message payload => namingPushOf_intoPayload hdistinct⟩
  · intro key hkey
    rw [hemitted]
    exact emitAll_keeps_entry hkey _
  · intro hprotected
    rw [hemitted]
    exact hprotected.emitAll _

end Stream

/-! ## Two snapshots -/

/-- The server pushes the service `orders` with these hosts. -/
def ordersNotice (requestId : String) (hosts : List ServiceInstance) :
    GrpcMessage NotifySubscriberRequest where
  headers := ∅
  body :=
    { serviceInfo :=
        { ServiceInfo.default with
          name := "orders", groupName := "DEFAULT_GROUP", hosts := some hosts }
      headers := ∅, requestId := some requestId, namespace_ := none, serviceName := none
      groupName := none }
  clientIp := "10.0.0.1"

/-- What `serde_json` writes for it. -/
def ordersText (requestId hosts : String) : String :=
  "\x7b\"serviceInfo\":\x7b\"name\":\"orders\",\"groupName\":\"DEFAULT_GROUP\"," ++
    "\"clusters\":\"\",\"cacheMillis\":1000,\"lastRefTime\":0,\"checksum\":\"\"," ++
    "\"allIPs\":false,\"allIps\":false,\"reachProtectionThreshold\":false,\"hosts\":[" ++ hosts ++
    "]\x7d,\"headers\":\x7b\x7d,\"requestId\":\"" ++ requestId ++
    "\",\"namespace\":null,\"serviceName\":null,\"groupName\":null\x7d"

/-- One host, then none. -/
def ordersUp : GrpcMessage NotifySubscriberRequest :=
  ordersNotice "8" [{ ServiceInstance.default with ip := "10.0.0.2", port := 80 }]

def ordersGone : GrpcMessage NotifySubscriberRequest := ordersNotice "9" []

/-- Whether the client is alive. -/
def ordersProbe : GrpcMessage ClientDetectionRequest where
  headers := ∅
  body := ⟨∅, some "1"⟩
  clientIp := "10.0.0.1"

/-- The texts of the two requests. -/
def ordersRows : List (NotifySubscriberRequest × String) :=
  [(ordersUp.body, ordersText "8"
      ("\x7b\"instanceId\":null,\"ip\":\"10.0.0.2\",\"port\":80,\"weight\":1.0," ++
        "\"healthy\":true,\"enabled\":true,\"ephemeral\":true,\"clusterName\":\"DEFAULT\"," ++
        "\"serviceName\":null,\"metadata\":\x7b\x7d\x7d")),
    (ordersGone.body, ordersText "9" "")]

/-- The texts of their responses. -/
def ordersNotedRows : List (NotifySubscriberResponse × String) :=
  [(ordersUp.body.notice.response,
      "\x7b\"resultCode\":200,\"errorCode\":0,\"message\":\"Response ok\",\"requestId\":\"8\"\x7d"),
    (ordersGone.body.notice.response,
      "\x7b\"resultCode\":200,\"errorCode\":0,\"message\":\"Response ok\",\"requestId\":\"9\"\x7d")]

/-- `serde_json` on the requests. -/
@[reducible] def ordersNoticeCodec : GrpcMessageData NotifySubscriberRequest :=
  tableCodec "NotifySubscriberRequest" ordersRows

/-- `serde_json` on the responses. -/
@[reducible] def ordersNotedCodec : GrpcMessageData NotifySubscriberResponse :=
  tableCodec "NotifySubscriberResponse" ordersNotedRows

/-- The host is emitted, the empty snapshot after it is not, and all three
requests get their own reply. -/
theorem namingStream_law_orders :
    letI := ordersNoticeCodec
    letI := ordersNotedCodec
    letI := detectionCodec
    letI := detectedCodec
    letI := failCodec
    ∃ up probe gone replies emitted,
      ordersUp.intoPayload = .ok up ∧ ordersProbe.intoPayload = .ok probe ∧
      ordersGone.intoPayload = .ok gone ∧
      serveStream (namingHandlers "10.0.0.7")
        [⟨.ok up, true⟩, ⟨.ok probe, true⟩, ⟨.ok gone, true⟩] (ServiceInfoEmitter.new true) =
          (replies, emitted) ∧
      emitted.cache.get? "DEFAULT_GROUP@@orders" = some ordersUp.body.serviceInfo ∧
      emitted.Protected ∧
      List.Forall₂ (Push.Answered SubscriberNotice.response)
        [.request ordersUp.body.notice, .detection (some "1"), .request ordersGone.body.notice]
        replies := by
  let _ := ordersNoticeCodec
  let _ := ordersNotedCodec
  let _ := detectionCodec
  let _ := detectedCodec
  let _ := failCodec
  have hrequest : Lossless NotifySubscriberRequest := tableCodec_lossless _ (by decide +kernel)
  have hresponse : Lossless NotifySubscriberResponse := tableCodec_lossless _ (by decide +kernel)
  obtain ⟨up, hup⟩ : ∃ up, ordersUp.intoPayload = .ok up := ⟨_, rfl⟩
  obtain ⟨probe, hprobe⟩ : ∃ probe, ordersProbe.intoPayload = .ok probe := ⟨_, rfl⟩
  obtain ⟨gone, hgone⟩ : ∃ gone, ordersGone.intoPayload = .ok gone := ⟨_, rfl⟩
  obtain ⟨first, hreply⟩ : ∃ first, Push.reply "10.0.0.7" SubscriberNotice.response
    (.request ordersUp.body.notice) = some first := ⟨_, rfl⟩
  obtain ⟨second, hreply'⟩ : ∃ second, Push.reply "10.0.0.7" SubscriberNotice.response
    (.detection (some "1")) = some second := ⟨_, rfl⟩
  obtain ⟨third, hreply''⟩ : ∃ third, Push.reply "10.0.0.7" SubscriberNotice.response
    (.request ordersGone.body.notice) = some third := ⟨_, rfl⟩
  obtain ⟨⟨pushes, cut, lost, hall, hemitted, hreplies, _, htaken⟩, _, hprotected, hread,
    hencoded⟩ := namingStream_law hresponse (oneCodec_lossless _ _ _) (by decide) "10.0.0.7"
      [⟨.ok up, true⟩, ⟨.ok probe, true⟩, ⟨.ok gone, true⟩] (ServiceInfoEmitter.new true)
  obtain ⟨rfl, rfl⟩ := htaken (by simp)
  have hup' := hencoded ordersUp up (hrequest _) hup
  have hgone' := hencoded ordersGone gone (hrequest _) hgone
  have hprobe' : namingPushOf probe = some (.detection (some "1")) := by
    cases hprobe
    rfl
  have hpushes : pushes = [.request ordersUp.body.notice, .detection (some "1"),
      .request ordersGone.body.notice] := by
    rw [← List.append_nil pushes, ← hall]
    simp [received, hup', hgone', hprobe']
  subst hpushes
  rw [List.append_nil, List.filterMap_cons_some hreply, List.filterMap_cons_some hreply',
    List.filterMap_cons_some hreply'', List.filterMap_nil] at hreplies
  have hsafe := hprotected new_protected
  rw [hemitted] at hsafe
  exact ⟨up, probe, gone, [first, second, third], _, hup, hprobe, hgone,
    Prod.ext hreplies.symm hemitted, rfl, hsafe,
    .cons (hread _ _ hreply) (.cons (hread _ _ hreply') (.cons (hread _ _ hreply'') .nil))⟩

end NacosSdk.Naming
