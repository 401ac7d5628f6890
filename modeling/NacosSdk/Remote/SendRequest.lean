import NacosSdk.Auth.Plugin
import NacosSdk.Remote.GrpcMessage

/-!
# Requests and their answers

`GrpcMessageBuilder` and `GrpcRequestMessage` of
`common/remote/grpc/message/mod.rs`, and `NacosGrpcClient::send_request` of
`common/remote/grpc/nacos_grpc_client.rs`. The connection is a function from the
payload that is sent to the payload that comes back. Proved here, for every
client, request and connection:

* `headerOf_payload`: which of the three sources a header comes from;
* `sendRequest_law`: what the server reads and what the caller gets.
-/

namespace NacosSdk.Remote
open NacosSdk.Common NacosSdk.Auth

/-! ## Building messages -/

structure GrpcMessageBuilder (T : Type) where
  headers : HashMap String
  body : T
  clientIp : String

namespace GrpcMessageBuilder

variable {T : Type}

/-- `new`; `localIp` is the address of this host. -/
def new (localIp : String) (body : T) : GrpcMessageBuilder T where
  headers := ∅
  body
  clientIp := localIp

def header (builder : GrpcMessageBuilder T) (key value : String) : GrpcMessageBuilder T :=
  { builder with headers := builder.headers.insert key value }

def addHeaders (builder : GrpcMessageBuilder T) (headers : HashMap String) :
    GrpcMessageBuilder T :=
  { builder with headers := builder.headers.extend headers }

def build (builder : GrpcMessageBuilder T) : GrpcMessage T where
  headers := builder.headers
  body := builder.body
  clientIp := builder.clientIp

end GrpcMessageBuilder

/-- What the `request` macro adds to a request: its headers, which
`take_headers` leaves empty, and the resource of its module. -/
class GrpcRequestMessage (T : Type) extends GrpcMessageData T where
  headers : T → HashMap String
  withoutHeaders : T → T
  requestResource : T → Option RequestResource

/-- `request_resource` of a request of the module `config`. -/
def configResource (namespace_ group dataId : Option String) : RequestResource where
  requestType := "Config"
  namespace_
  group
  resource := dataId

/-- `request_resource` of a request of the module `naming`. -/
def namingResource (namespace_ groupName serviceName : Option String) : RequestResource where
  requestType := "Naming"
  namespace_
  group := groupName
  resource := serviceName

/-! ## Headers -/

def appField : String := "app"

structure NacosGrpcClient where
  appName : String
  /-- `get_login_identity` of the auth plugin, at the moment of the call. -/
  getLoginIdentity : RequestResource → LoginIdentityContext
  localIp : String

section Sending

variable {Request Response : Type} [GrpcRequestMessage Request]

/-- The headers that go beside `app`. -/
def NacosGrpcClient.requestHeaders (client : NacosGrpcClient) (request : Request) :
    HashMap String :=
  let requestHeaders := GrpcRequestMessage.headers request
  match GrpcRequestMessage.requestResource request with
  | none => requestHeaders
  | some resource => requestHeaders.extend (client.getLoginIdentity resource).contexts

def NacosGrpcClient.grpcRequest (client : NacosGrpcClient) (request : Request) :
    GrpcMessage Request :=
  let requestHeaders := client.requestHeaders request
  ((GrpcMessageBuilder.new client.localIp (GrpcRequestMessage.withoutHeaders request)).header
    appField client.appName).addHeaders requestHeaders |>.build

/-- Where a header comes from: the auth plugin, the request, the client. -/
def NacosGrpcClient.headerOf (client : NacosGrpcClient) (request : Request) (key : String) :
    Option String :=
  let identity := (GrpcRequestMessage.requestResource request).bind fun resource =>
    (client.getLoginIdentity resource).contexts.get? key
  (identity.or ((GrpcRequestMessage.headers request).get? key)).or
    (if key = appField then some client.appName else none)

theorem requestHeaders_get? (client : NacosGrpcClient) (request : Request) (key : String) :
    (client.requestHeaders request).get? key =
      ((GrpcRequestMessage.requestResource request).bind fun resource =>
        (client.getLoginIdentity resource).contexts.get? key).or
        ((GrpcRequestMessage.headers request).get? key) := by
  unfold NacosGrpcClient.requestHeaders
  cases GrpcRequestMessage.requestResource request with
  | none => simp
  | some resource => simp [HashMap.get?_extend]

theorem headerOf_payload (client : NacosGrpcClient) (request : Request) (key : String) :
    (client.grpcRequest request).headers.get? key = client.headerOf request key := by
  have hbuilt : (client.grpcRequest request).headers =
      ((∅ : HashMap String).insert appField client.appName).extend
        (client.requestHeaders request) := rfl
  rw [hbuilt, HashMap.get?_extend, requestHeaders_get?, HashMap.get?_insert, HashMap.get?_empty]
  rfl

/-! ## Calls -/

variable [GrpcMessageData Response] [GrpcMessageData ErrorResponse]

def NacosGrpcClient.sendRequest (client : NacosGrpcClient) (Response : Type)
    [GrpcMessageData Response] (send : Payload → Except Error Payload) (request : Request) :
    Except Error Response :=
  match (client.grpcRequest request).intoPayload with
  | .error e => .error e
  | .ok grpcRequest =>
    match send grpcRequest with
    | .error e => .error e
    | .ok grpcResponse =>
      match GrpcMessage.fromPayload Response grpcResponse with
      | .error e => .error e
      | .ok message => .ok message.body

variable {client : NacosGrpcClient} {send : Payload → Except Error Payload} {request : Request}

theorem sendRequest_ok_iff {response : Response} :
    client.sendRequest Response send request = .ok response ↔
      ∃ payload reply message, (client.grpcRequest request).intoPayload = .ok payload ∧
        send payload = .ok reply ∧ GrpcMessage.fromPayload Response reply = .ok message ∧
        message.body = response := by
  unfold NacosGrpcClient.sendRequest
  cases hp : (client.grpcRequest request).intoPayload with
  | error e => simp
  | ok payload =>
    cases hs : send payload with
    | error e => simp [hs]
    | ok reply =>
      cases hm : GrpcMessage.fromPayload Response reply with
      | error e => simp [hs, hm]
      | ok message => simp [hs, hm]

/-- **A call.** The payload carries the request without its headers, and under
each header the value of the auth plugin before that of the request before that
of the client; the server reads it so, and the caller gets the answer of the
server as it was sent, where `serde_json` reads them back; and whatever the caller
gets came back for this very request. -/
theorem sendRequest_law (client : NacosGrpcClient) (send : Payload → Except Error Payload)
    (request : Request) :
    (∀ payload, (client.grpcRequest request).intoPayload = .ok payload →
      (∃ metadata any, payload.metadata = some metadata ∧ payload.body = some any ∧
        metadata.type = GrpcMessageData.identity Request ∧ metadata.clientIp = client.localIp ∧
        (∀ key, metadata.headers.get? key = client.headerOf request key) ∧
        GrpcMessageData.toVec (GrpcRequestMessage.withoutHeaders request) = .ok any.value) ∧
      (ReadsBack (GrpcRequestMessage.withoutHeaders request) →
        ∃ message, GrpcMessage.fromPayload Request payload = .ok message ∧
          message.body = GrpcRequestMessage.withoutHeaders request ∧
          ∀ key, message.headers.get? key = client.headerOf request key)) ∧
    (∀ payload (answer : GrpcMessage Response) reply,
      (client.grpcRequest request).intoPayload = .ok payload →
      answer.intoPayload = .ok reply → send payload = .ok reply → ReadsBack answer.body →
      client.sendRequest Response send request = .ok answer.body) ∧
    (∀ response, client.sendRequest Response send request = .ok response →
      ∃ payload reply any, (client.grpcRequest request).intoPayload = .ok payload ∧
        send payload = .ok reply ∧ reply.body = some any ∧
        GrpcMessageData.fromSlice any.value = .ok response ∧
        (reply.type = GrpcMessageData.identity Response ∨ reply.type = "")) := by
  refine ⟨?_, ?_, ?_⟩
  · intro payload hpayload
    obtain ⟨any, hmeta, hbody, hvec⟩ := intoPayload_ok hpayload
    refine ⟨⟨_, any, hmeta, hbody, rfl, rfl, headerOf_payload client request, hvec⟩, ?_⟩
    intro hserde
    have hread := fromPayload_of_readsBack hserde hpayload
    exact ⟨_, hread, rfl, headerOf_payload client request⟩
  · intro payload answer reply hpayload hreply hsend hserde
    have hread := fromPayload_of_readsBack hserde hreply
    exact sendRequest_ok_iff.mpr ⟨payload, reply, answer, hpayload, hsend, hread, rfl⟩
  · intro response h
    obtain ⟨payload, reply, message, hpayload, hsend, hread, rfl⟩ := sendRequest_ok_iff.mp h
    obtain ⟨any, hbody, hdecoded, htype, _⟩ := fromPayload_ok_iff.mp hread
    exact ⟨payload, reply, any, hpayload, hsend, hbody, fromProtoAny_ok_iff.mp hdecoded, htype⟩

end Sending

/-! ## The removal of a config -/

/-- A request of the module `config`. -/
structure ConfigRemoveRequest where
  tag : Option String
  headers : HashMap String
  requestId : Option String
  namespace_ : Option String
  dataId : Option String
  group : Option String
  deriving DecidableEq

/-- What the macro adds to it. -/
@[reducible] def ConfigRemoveRequest.message (codec : GrpcMessageData ConfigRemoveRequest) :
    GrpcRequestMessage ConfigRemoveRequest :=
  { codec with
    headers := ConfigRemoveRequest.headers
    withoutHeaders := fun request => { request with headers := ∅ }
    requestResource := fun request =>
      some (configResource request.namespace_ request.group request.dataId) }

structure ConfigRemoveResponse extends GrpcResponse where
  requestId : Option String
  deriving DecidableEq

/-- A removal with a token of its own. -/
def removeApp : ConfigRemoveRequest where
  tag := none
  headers := ((∅ : HashMap String).insert "trace" "9").insert "accessToken" "own"
  requestId := some "7"
  namespace_ := some "public"
  dataId := some "app.yaml"
  group := some "DEFAULT_GROUP"

/-- The answer of the server. -/
def removedApp : GrpcMessage ConfigRemoveResponse where
  headers := ∅
  body := { GrpcResponse.ok with requestId := some "7" }
  clientIp := "10.0.0.1"

/-- `serde_json` on the request without its headers and its text. -/
@[reducible] def removeCodec : GrpcMessageData ConfigRemoveRequest :=
  oneCodec "ConfigRemoveRequest" { removeApp with headers := ∅ }
    ("\x7b\"tag\":null,\"headers\":\x7b\x7d,\"requestId\":\"7\",\"tenant\":\"public\"," ++
      "\"dataId\":\"app.yaml\",\"group\":\"DEFAULT_GROUP\"\x7d")

/-- `serde_json` on the answer and its text. -/
@[reducible] def removedCodec : GrpcMessageData ConfigRemoveResponse :=
  oneCodec "ConfigRemoveResponse" removedApp.body
    "\x7b\"resultCode\":200,\"errorCode\":0,\"message\":\"Response ok\",\"requestId\":\"7\"\x7d"

/-- A client whose plugin knows a token for every config. -/
def ordersClient : NacosGrpcClient where
  appName := "orders"
  getLoginIdentity := fun resource =>
    if resource.requestType = "Config" then
      LoginIdentityContext.default.addContext "accessToken" "t1"
    else LoginIdentityContext.default
  localIp := "10.0.0.7"

/-- The token of the plugin replaces that of the request; the other headers of
the request and of the client go beside it. -/
theorem sendRequest_law_removed :
    letI := ConfigRemoveRequest.message removeCodec
    letI := removedCodec
    letI := failCodec
    ∃ payload reply, (ordersClient.grpcRequest removeApp).intoPayload = .ok payload ∧
      (∃ message, GrpcMessage.fromPayload ConfigRemoveRequest payload = .ok message ∧
        message.body = { removeApp with headers := ∅ } ∧
        message.headers.get? "accessToken" = some "t1" ∧
        message.headers.get? "trace" = some "9" ∧ message.headers.get? "app" = some "orders") ∧
      removedApp.intoPayload = .ok reply ∧
      ordersClient.sendRequest ConfigRemoveResponse (fun _ => .ok reply) removeApp =
        .ok removedApp.body := by
  let _ := ConfigRemoveRequest.message removeCodec
  let _ := removedCodec
  let _ := failCodec
  have hrequest : Lossless ConfigRemoveRequest :=
    oneCodec_lossless "ConfigRemoveRequest" { removeApp with headers := ∅ } _
  have hresponse : Lossless ConfigRemoveResponse :=
    oneCodec_lossless "ConfigRemoveResponse" removedApp.body _
  obtain ⟨hserver, hcaller, _⟩ := @sendRequest_law _ ConfigRemoveResponse _ _ _ ordersClient
    (fun _ => removedApp.intoPayload) removeApp
  obtain ⟨message, hread, hbody, hheaders⟩ := (hserver _ rfl).2 (hrequest _)
  refine ⟨_, _, rfl, ⟨message, hread, hbody, ?_, ?_, ?_⟩, rfl,
    hcaller _ removedApp _ rfl rfl rfl (hresponse _)⟩
  · rw [hheaders]
    rfl
  · rw [hheaders]
    rfl
  · rw [hheaders]
    rfl

end NacosSdk.Remote
