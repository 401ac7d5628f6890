import NacosSdk.Remote.SendRequest

/-!
# Requests of the server

The loop of the server-stream task in `setup`
(`common/remote/grpc/nacos_grpc_connection.rs`), the handlers that it calls
(`common/remote/grpc/handlers`) and the map that `NacosGrpcClientBuilder::build`
gives it. A handler changes the client, here of any type `σ`. Proved here, for
every map and every stream:

* `serveStream_law`: what the server sent is handled in order and once, each
  request gets its own reply, and only the end of the stream is ever cut off;
* `requestReply_requested`: what a handler makes of one payload;
* `built_handles`: so for a service with one handler.
-/

namespace NacosSdk.Remote
open NacosSdk.Common

variable {σ : Type}

/-! ## Handlers -/

/-- `ServerRequestHandler::request_reply`: the reply, and what it does to the
client. -/
abbrev ServerRequestHandler (σ : Type) := Payload → σ → Option Payload × σ

abbrev HandlerMap (σ : Type) := HashMap (ServerRequestHandler σ)

/-- `DefaultHandler`, which only logs. -/
def defaultHandler : ServerRequestHandler σ := fun _ client => (none, client)

section Reply

variable {T R : Type} [GrpcMessageData T] [GrpcMessageData R] [GrpcMessageData ErrorResponse]

/-- What every other handler does: decode the request, serve it, encode the
response. -/
def requestReply (localIp : String) (serve : T → σ → Option (R × σ)) : ServerRequestHandler σ :=
  fun request client =>
    match GrpcMessage.fromPayload T request with
    | .error _ => (none, client)
    | .ok message =>
      match serve message.body client with
      | none => (none, client)
      | some (response, client) =>
        match (GrpcMessageBuilder.new localIp response).build.intoPayload with
        | .ok payload => (some payload, client)
        | .error _ => (none, client)

/-- The payload of a response, where it can be encoded. -/
def replyPayload (localIp : String) (response : R) : Option Payload :=
  match (GrpcMessageBuilder.new localIp response).build.intoPayload with
  | .ok payload => some payload
  | .error _ => none

/-- The server reads `reply` as `response`. -/
def ReadAs (response : R) (reply : Payload) : Prop :=
  ∃ message, GrpcMessage.fromPayload R reply = .ok message ∧ message.body = response

theorem replyPayload_readAs {localIp : String} {response : R} {reply : Payload}
    (hserde : ReadsBack response) (h : replyPayload localIp response = some reply) :
    ReadAs response reply := by
  unfold replyPayload at h
  cases hp : (GrpcMessageBuilder.new localIp response).build.intoPayload with
  | error e => simp [hp] at h
  | ok payload =>
    simp only [hp, Option.some.injEq] at h
    subst h
    exact ⟨_, fromPayload_of_readsBack hserde hp, rfl⟩

variable {α : Type}

/-- The request of type `T` in a payload, as `read` takes it. -/
def requested (T : Type) [GrpcMessageData T] (read : T → Option α) (payload : Payload) : Option α :=
  match GrpcMessage.fromPayload T payload with
  | .error _ => none
  | .ok message => read message.body

theorem requested_intoPayload {read : T → Option α} {message : GrpcMessage T} {payload : Payload}
    (hserde : ReadsBack message.body) (h : message.intoPayload = .ok payload) :
    requested T read payload = read message.body := by
  unfold requested
  rw [fromPayload_of_readsBack hserde h]

/-- A handler whose service is fixed by what it reads of the request. -/
theorem requestReply_requested {localIp : String} {serve : T → σ → Option (R × σ)}
    {read : T → Option α} {respond : α → R} {act : σ → α → σ}
    (hserve : ∀ body client, serve body client =
      (read body).map fun push => (respond push, act client push))
    (request : Payload) (client : σ) :
    requestReply localIp serve request client =
      match requested T read request with
      | none => (none, client)
      | some push => (replyPayload localIp (respond push), act client push) := by
  unfold requestReply requested
  cases hm : GrpcMessage.fromPayload T request with
  | error e => rfl
  | ok message =>
    simp only [hserve]
    cases read message.body with
    | none => rfl
    | some push =>
      simp only [Option.map_some, replyPayload]
      cases (GrpcMessageBuilder.new localIp (respond push)).build.intoPayload <;> rfl

end Reply

structure ClientDetectionRequest where
  headers : HashMap String
  requestId : Option String
  deriving DecidableEq

structure ClientDetectionResponse extends GrpcResponse where
  requestId : Option String
  deriving DecidableEq

def ClientDetectionResponse.ok : ClientDetectionResponse :=
  { GrpcResponse.ok with requestId := none }

/-- What the handler responds to a request with this id. -/
def ClientDetectionResponse.of (requestId : Option String) : ClientDetectionResponse :=
  { ClientDetectionResponse.ok with requestId := requestId }

def clientDetectionRequestHandler [GrpcMessageData ClientDetectionRequest]
    [GrpcMessageData ClientDetectionResponse] [GrpcMessageData ErrorResponse] (localIp : String) :
    ServerRequestHandler σ :=
  requestReply localIp fun (request : ClientDetectionRequest) client =>
    some (ClientDetectionResponse.of request.requestId, client)

/-- `serde_json` on the request with the id 1 and its text. -/
@[reducible] def detectionCodec : GrpcMessageData ClientDetectionRequest :=
  oneCodec "ClientDetectionRequest" ⟨∅, some "1"⟩
    "\x7b\"headers\":\x7b\x7d,\"requestId\":\"1\"\x7d"

/-- `serde_json` on its response and that text. -/
@[reducible] def detectedCodec : GrpcMessageData ClientDetectionResponse :=
  oneCodec "ClientDetectionResponse" (ClientDetectionResponse.of (some "1"))
    "\x7b\"resultCode\":200,\"errorCode\":0,\"message\":\"Response ok\",\"requestId\":\"1\"\x7d"

/-- `build` adds the handler of `ClientDetectionRequest` to those registered. -/
def builtHandlers [GrpcMessageData ClientDetectionRequest]
    [GrpcMessageData ClientDetectionResponse] [GrpcMessageData ErrorResponse] (localIp : String)
    (registered : HandlerMap σ) : HandlerMap σ :=
  registered.insert (GrpcMessageData.identity ClientDetectionRequest)
    (clientDetectionRequestHandler localIp)

/-! ## The stream -/

/-- What the stream yields next, and whether the local stream still takes a
reply to it. -/
structure StreamItem where
  item : Except Error Payload
  taken : Bool

/-- One message of the server; without a type it is skipped. -/
def attendMessage (handlers : HandlerMap σ) (response : Payload) (client : σ) :
    Option Payload × σ :=
  match response.metadata with
  | none => (none, client)
  | some metadata => ((handlers.get? metadata.type).getD defaultHandler) response client

/-- The loop over the stream: the replies that were sent, and the client. -/
def serveStream (handlers : HandlerMap σ) : List StreamItem → σ → List Payload × σ
  | [], client => ([], client)
  | next :: rest, client =>
    match next.item with
    | .error _ => ([], client)
    | .ok response =>
      match attendMessage handlers response client with
      | (none, client) => serveStream handlers rest client
      | (some reply, client) =>
        if next.taken then
          let (replies, client) := serveStream handlers rest client
          (reply :: replies, client)
        else ([], client)

/-- The messages before the stream breaks. -/
def received : List StreamItem → List Payload
  | [] => []
  | next :: rest =>
    match next.item with
    | .error _ => []
    | .ok response => response :: received rest

/-- Each message that `pushOf` takes for a request acts on the client and gets
its reply, and nothing else does anything. -/
def Handles {α : Type} (handlers : HandlerMap σ) (pushOf : Payload → Option α)
    (act : σ → α → σ) (replyOf : α → Option Payload) : Prop :=
  ∀ payload client, attendMessage handlers payload client =
    match pushOf payload with
    | none => (none, client)
    | some push => (replyOf push, act client push)

/-- **The stream.** The client is changed by the requests in the order the
server sent them, up to a request whose reply the local stream does not take;
the replies are theirs, in the same order. -/
theorem serveStream_law {α : Type} {handlers : HandlerMap σ} {pushOf : Payload → Option α}
    {act : σ → α → σ} {replyOf : α → Option Payload} (h : Handles handlers pushOf act replyOf)
    (items : List StreamItem) (client : σ) :
    ∃ pushes cut lost, (received items).filterMap pushOf = pushes ++ cut ∧
      (serveStream handlers items client).2 = pushes.foldl act client ∧
      pushes.filterMap replyOf = (serveStream handlers items client).1 ++ lost ∧
      lost.length ≤ 1 ∧
      ((∀ d ∈ items, d.taken = true) → cut = [] ∧ lost = []) := by
  induction items generalizing client with
  | nil => exact ⟨[], [], [], rfl, rfl, rfl, by simp, fun _ => ⟨rfl, rfl⟩⟩
  | cons next rest ih =>
    unfold serveStream received
    cases hitem : next.item with
    | error e => exact ⟨[], [], [], rfl, rfl, rfl, by simp, fun _ => ⟨rfl, rfl⟩⟩
    | ok payload =>
      have htail : (∀ d ∈ next :: rest, d.taken = true) → ∀ d ∈ rest, d.taken = true :=
        fun ht d hd => ht d (List.mem_cons_of_mem _ hd)
      dsimp only
      rw [h payload client]
      cases hpush : pushOf payload with
      | none =>
        rw [List.filterMap_cons_none hpush]
        obtain ⟨pushes, cut, lost, hall, hclient, hreplies, hlost, htaken⟩ := ih client
        exact ⟨pushes, cut, lost, hall, hclient, hreplies, hlost, fun ht => htaken (htail ht)⟩
      | some push =>
        rw [List.filterMap_cons_some hpush]
        obtain ⟨pushes, cut, lost, hall, hclient, hreplies, hlost, htaken⟩ := ih (act client push)
        dsimp only
        cases hreply : replyOf push with
        | none =>
          refine ⟨push :: pushes, cut, lost, by rw [hall, List.cons_append], hclient, ?_, hlost,
            fun ht => htaken (htail ht)⟩
          rw [List.filterMap_cons_none hreply, hreplies]
        | some reply =>
          cases ht : next.taken with
          | false =>
            -- the request has acted and its reply is lost
            refine ⟨[push], (received rest).filterMap pushOf, [reply], rfl, rfl, ?_, le_refl 1, ?_⟩
            · simp [hreply]
            · intro htaken
              rw [htaken next List.mem_cons_self] at ht
              cases ht
          | true =>
            refine ⟨push :: pushes, cut, lost, by rw [hall, List.cons_append], hclient, ?_, hlost,
              fun ht => htaken (htail ht)⟩
            rw [List.filterMap_cons_some hreply, hreplies]
            rfl

/-! ## The handlers of one service -/

/-- A request of the service, or one of `ClientDetectionRequest`. -/
inductive Push (α : Type) where
  | request (push : α)
  | detection (requestId : Option String)
  deriving DecidableEq

section Service

variable {α T R : Type} [GrpcMessageData R] [GrpcMessageData ClientDetectionResponse]
  [GrpcMessageData ErrorResponse]

def Push.act (act : σ → α → σ) (client : σ) : Push α → σ
  | .request push => act client push
  | .detection _ => client

def Push.reply (localIp : String) (respond : α → R) : Push α → Option Payload
  | .request push => replyPayload localIp (respond push)
  | .detection requestId => replyPayload localIp (ClientDetectionResponse.of requestId)

/-- A reply of the service is read as its response, with the request's id where
the server asks whether the client is alive. -/
def Push.Answered (respond : α → R) : Push α → Payload → Prop
  | .request push, reply => ReadAs (respond push) reply
  | .detection requestId, reply => ReadAs (ClientDetectionResponse.of requestId) reply

theorem reply_answered (hresponse : Lossless R) (hdetection : Lossless ClientDetectionResponse)
    {localIp : String} {respond : α → R} {push : Push α} {reply : Payload}
    (h : push.reply localIp respond = some reply) : push.Answered respond reply := by
  cases push with
  | request push => exact replyPayload_readAs (hresponse _) h
  | detection requestId => exact replyPayload_readAs (hdetection _) h

variable [GrpcMessageData T] [GrpcMessageData ClientDetectionRequest]

/-- What a payload asks of a service that registers one handler, for `T`. -/
def pushOf (T : Type) [GrpcMessageData T] (read : T → Option α) (payload : Payload) :
    Option (Push α) :=
  match payload.metadata with
  | none => none
  | some metadata =>
    if metadata.type = GrpcMessageData.identity ClientDetectionRequest then
      (requested ClientDetectionRequest (fun request => some request.requestId) payload).map
        .detection
    else if metadata.type = GrpcMessageData.identity T then
      (requested T read payload).map .request
    else none

omit [GrpcMessageData T] [GrpcMessageData R] in
theorem clientDetection_reply (localIp : String) (payload : Payload) (client : σ) :
    clientDetectionRequestHandler localIp payload client =
      match requested ClientDetectionRequest (fun request => some request.requestId) payload with
      | none => (none, client)
      | some requestId =>
        (replyPayload localIp (ClientDetectionResponse.of requestId), client) := by
  unfold clientDetectionRequestHandler requestReply requested
  cases GrpcMessage.fromPayload ClientDetectionRequest payload with
  | error e => rfl
  | ok message =>
    simp only [replyPayload]
    cases (GrpcMessageBuilder.new localIp
      (ClientDetectionResponse.of message.body.requestId)).build.intoPayload <;> rfl

/-- `register_server_request_handler` for `T`, then `build`. -/
theorem built_handles {localIp : String} {serve : T → σ → Option (R × σ)}
    {read : T → Option α} {respond : α → R} {act : σ → α → σ}
    (hserve : ∀ body client, serve body client =
      (read body).map fun push => (respond push, act client push)) :
    Handles (builtHandlers localIp
        ((∅ : HandlerMap σ).insert (GrpcMessageData.identity T) (requestReply localIp serve)))
      (pushOf T read) (Push.act act) (Push.reply localIp respond) := by
  intro payload client
  unfold attendMessage pushOf builtHandlers
  cases payload.metadata with
  | none => rfl
  | some metadata =>
    dsimp only
    rw [HashMap.get?_insert, HashMap.get?_insert, HashMap.get?_empty]
    by_cases hdetection : metadata.type = GrpcMessageData.identity ClientDetectionRequest
    · rw [if_pos hdetection, if_pos hdetection]
      rw [Option.getD_some, clientDetection_reply]
      cases requested ClientDetectionRequest (fun request => some request.requestId) payload <;> rfl
    · rw [if_neg hdetection, if_neg hdetection]
      by_cases hrequest : metadata.type = GrpcMessageData.identity T
      · rw [if_pos hrequest, if_pos hrequest, Option.getD_some,
          requestReply_requested hserve payload client]
        cases requested T read payload <;> rfl
      · rw [if_neg hrequest, if_neg hrequest]
        rfl

end Service

end NacosSdk.Remote
