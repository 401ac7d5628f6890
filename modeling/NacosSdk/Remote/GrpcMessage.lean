import NacosSdk.Common.Error
import NacosSdk.Common.HashMap

/-!
# Messages and payloads

`GrpcMessage` and `GrpcMessageData` of `common/remote/grpc/message/mod.rs`.
What `serde_json` writes and reads for a message type is a parameter. Proved
here, for every message type and every payload:

* `fromPayload_ok_iff`: the payloads that are decoded, and to what;
* `fromPayload_foreign`: the error of a payload of another type;
* `payload_laws`: both, with the round trip.
-/

namespace NacosSdk.Remote
open NacosSdk.Common

abbrev Bytes := List UInt8

/-- `prost_types::Any`. -/
structure ProtoAny where
  typeUrl : String
  value : Bytes

structure Metadata where
  type : String
  clientIp : String
  headers : HashMap String

/-- `Metadata::default()`. -/
def Metadata.empty : Metadata where
  type := ""
  clientIp := ""
  headers := ∅

structure Payload where
  metadata : Option Metadata
  body : Option ProtoAny

/-- The type string, empty where it is absent. -/
def Payload.type (payload : Payload) : String := (payload.metadata.getD Metadata.empty).type

/-- `GrpcMessageData`: the identity of a message type, and what `serde_json` does
with its values; an error of `serde_json` is its text. -/
class GrpcMessageData (T : Type) where
  identity : String
  toVec : T → Except String Bytes
  fromSlice : Bytes → Except String T

/-- `serde_json` reads the body back from what it wrote for it; a float that is no
number or infinite is written as `null` and is not read back. -/
def ReadsBack {T : Type} [GrpcMessageData T] (body : T) : Prop :=
  ∀ bytes, GrpcMessageData.toVec body = .ok bytes → GrpcMessageData.fromSlice bytes = .ok body

/-- `serde_json` reads back what it wrote. -/
def Lossless (T : Type) [GrpcMessageData T] : Prop :=
  ∀ (body : T) (bytes : Bytes), GrpcMessageData.toVec body = .ok bytes →
    GrpcMessageData.fromSlice bytes = .ok body

structure ErrorResponse where
  resultCode : Int
  errorCode : Int
  message : Option String
  requestId : Option String
  deriving DecidableEq

def ErrorResponse.toError (response : ErrorResponse) : Error :=
  .errResponse response.requestId response.resultCode response.errorCode response.message

/-- The error that is returned for a body read as an error response. -/
def carriedError : Except Error ErrorResponse → Error
  | .ok response => response.toError
  | .error e => e

structure GrpcMessage (T : Type) where
  headers : HashMap String
  body : T
  clientIp : String

variable {T : Type} [GrpcMessageData T]

def toProtoAny (body : T) : Except Error ProtoAny :=
  match GrpcMessageData.toVec body with
  | .ok value => .ok { typeUrl := GrpcMessageData.identity T, value }
  | .error e => .error (.serialization e)

def fromProtoAny (T : Type) [GrpcMessageData T] (any : ProtoAny) : Except Error T :=
  match GrpcMessageData.fromSlice any.value with
  | .ok body => .ok body
  | .error e => .error (.serialization e)

def GrpcMessage.intoPayload (message : GrpcMessage T) : Except Error Payload :=
  let metadata : Metadata :=
    { type := GrpcMessageData.identity T, clientIp := message.clientIp, headers := message.headers }
  match toProtoAny message.body with
  | .ok body => .ok { metadata := some metadata, body := some body }
  | .error e => .error e

def GrpcMessage.fromPayload (T : Type) [GrpcMessageData T] [GrpcMessageData ErrorResponse]
    (payload : Payload) : Except Error (GrpcMessage T) :=
  match payload.body with
  | none => .error (.errResult "grpc payload body is empty")
  | some any =>
    let metadata := payload.metadata.getD Metadata.empty
    let clientIp := metadata.clientIp
    let headers := metadata.headers
    if metadata.type ≠ "" then
      if GrpcMessageData.identity T = metadata.type then
        match fromProtoAny T any with
        | .ok body => .ok { headers, body, clientIp }
        | .error e => .error e
      else
        match fromProtoAny ErrorResponse any with
        | .ok response => .error response.toError
        | .error e => .error e
    else
      match fromProtoAny T any with
      | .ok body => .ok { headers, body, clientIp }
      | .error e =>
        match fromProtoAny ErrorResponse any with
        | .ok response => .error response.toError
        | .error _ => .error e

/-! ## Encoding -/

theorem toProtoAny_ok {body : T} {any : ProtoAny} (h : toProtoAny body = .ok any) :
    GrpcMessageData.toVec body = .ok any.value := by
  unfold toProtoAny at h
  cases hv : GrpcMessageData.toVec body with
  | ok value =>
    rw [hv] at h
    obtain rfl := Except.ok.inj h
    rfl
  | error e =>
    rw [hv] at h
    cases h

theorem fromProtoAny_ok_iff {any : ProtoAny} {body : T} :
    fromProtoAny T any = .ok body ↔ GrpcMessageData.fromSlice any.value = .ok body := by
  unfold fromProtoAny
  cases GrpcMessageData.fromSlice (T := T) any.value <;> simp

theorem intoPayload_ok {message : GrpcMessage T} {payload : Payload}
    (h : message.intoPayload = .ok payload) :
    ∃ any, payload.metadata = some {
        type := GrpcMessageData.identity T
        clientIp := message.clientIp
        headers := message.headers } ∧
      payload.body = some any ∧ GrpcMessageData.toVec message.body = .ok any.value := by
  unfold GrpcMessage.intoPayload at h
  cases ha : toProtoAny message.body with
  | ok any =>
    rw [ha] at h
    obtain rfl := Except.ok.inj h
    exact ⟨any, rfl, rfl, toProtoAny_ok ha⟩
  | error e =>
    rw [ha] at h
    cases h

/-! ## Decoding -/

section Decoding
variable [GrpcMessageData ErrorResponse]

theorem fromPayload_no_body {payload : Payload} (h : payload.body = none) :
    GrpcMessage.fromPayload T payload = .error (.errResult "grpc payload body is empty") := by
  unfold GrpcMessage.fromPayload
  rw [h]

/-- A payload of the type asked for, or of none, whose body decodes. -/
theorem fromPayload_decoded {payload : Payload} {any : ProtoAny} {body : T}
    (hbody : payload.body = some any) (hdecoded : fromProtoAny T any = .ok body)
    (htype : payload.type = GrpcMessageData.identity T ∨ payload.type = "") :
    GrpcMessage.fromPayload T payload = .ok {
      headers := (payload.metadata.getD Metadata.empty).headers
      body
      clientIp := (payload.metadata.getD Metadata.empty).clientIp } := by
  unfold GrpcMessage.fromPayload
  unfold Payload.type at htype
  simp only [hbody, hdecoded]
  by_cases hempty : (payload.metadata.getD Metadata.empty).type = ""
  · rw [if_neg (not_not.mpr hempty)]
  · rw [if_pos hempty, if_pos (htype.resolve_right hempty).symm]

/-- A payload of another type is an error, the one its body carries if it
carries one. -/
theorem fromPayload_foreign {payload : Payload} {any : ProtoAny} (hbody : payload.body = some any)
    (hne : payload.type ≠ "") (hforeign : payload.type ≠ GrpcMessageData.identity T) :
    GrpcMessage.fromPayload T payload =
      .error (carriedError (fromProtoAny ErrorResponse any)) := by
  unfold Payload.type at hne hforeign
  unfold GrpcMessage.fromPayload
  simp only [hbody]
  rw [if_pos hne, if_neg (Ne.symm hforeign)]
  cases fromProtoAny ErrorResponse any <;> rfl

/-- The body of the type asked for, or of none, does not decode. -/
theorem fromPayload_undecoded {payload : Payload} {any : ProtoAny} {e : Error}
    (hbody : payload.body = some any) (hfailed : fromProtoAny T any = .error e)
    (htype : payload.type = GrpcMessageData.identity T ∨ payload.type = "") :
    ∃ e', GrpcMessage.fromPayload T payload = .error e' := by
  unfold GrpcMessage.fromPayload
  unfold Payload.type at htype
  simp only [hbody, hfailed]
  by_cases hempty : (payload.metadata.getD Metadata.empty).type = ""
  · rw [if_neg (not_not.mpr hempty)]
    cases fromProtoAny ErrorResponse any with
    | ok response => exact ⟨_, rfl⟩
    | error _ => exact ⟨_, rfl⟩
  · rw [if_pos hempty, if_pos (htype.resolve_right hempty).symm]
    exact ⟨_, rfl⟩

/-- Exactly these payloads are decoded. -/
theorem fromPayload_ok_iff {payload : Payload} {message : GrpcMessage T} :
    GrpcMessage.fromPayload T payload = .ok message ↔
      ∃ any, payload.body = some any ∧ fromProtoAny T any = .ok message.body ∧
        (payload.type = GrpcMessageData.identity T ∨ payload.type = "") ∧
        message.headers = (payload.metadata.getD Metadata.empty).headers ∧
        message.clientIp = (payload.metadata.getD Metadata.empty).clientIp := by
  constructor
  · intro h
    cases hbody : payload.body with
    | none =>
      rw [fromPayload_no_body hbody] at h
      cases h
    | some any =>
      by_cases htype : payload.type = GrpcMessageData.identity T ∨ payload.type = ""
      · cases hdecoded : fromProtoAny T any with
        | ok body =>
          rw [fromPayload_decoded hbody hdecoded htype] at h
          obtain rfl := Except.ok.inj h
          exact ⟨any, rfl, hdecoded, htype, rfl, rfl⟩
        | error e =>
          obtain ⟨e', he'⟩ := fromPayload_undecoded hbody hdecoded htype
          rw [he'] at h
          cases h
      · obtain ⟨hforeign, hne⟩ := not_or.mp htype
        rw [fromPayload_foreign hbody hne hforeign] at h
        cases h
  · rintro ⟨any, hbody, hdecoded, htype, hheaders, hclientIp⟩
    rw [fromPayload_decoded hbody hdecoded htype, ← hheaders, ← hclientIp]

theorem fromPayload_of_readsBack {message : GrpcMessage T} {payload : Payload}
    (hserde : ReadsBack message.body) (h : message.intoPayload = .ok payload) :
    GrpcMessage.fromPayload T payload = .ok message := by
  obtain ⟨any, hmeta, hbody, hvec⟩ := intoPayload_ok h
  have hread := fromProtoAny_ok_iff.mpr (hserde _ hvec)
  apply fromPayload_ok_iff.mpr
  refine ⟨any, hbody, hread, Or.inl ?_, ?_, ?_⟩
  · rw [Payload.type, hmeta]
    rfl
  · rw [hmeta]
    rfl
  · rw [hmeta]
    rfl

theorem fromPayload_intoPayload (hserde : Lossless T) {message : GrpcMessage T} {payload : Payload}
    (h : message.intoPayload = .ok payload) :
    GrpcMessage.fromPayload T payload = .ok message :=
  fromPayload_of_readsBack (hserde message.body) h

/-- **Payloads.** What was encoded is decoded as it was; what is decoded has a
body that decodes and the type asked for or none; and a payload of another type
is an error, with the fields of the error response if its body is one. -/
theorem payload_laws (hserde : Lossless T) :
    (∀ (message : GrpcMessage T) (payload : Payload), message.intoPayload = .ok payload →
      GrpcMessage.fromPayload T payload = .ok message) ∧
    (∀ (payload : Payload) (message : GrpcMessage T),
      GrpcMessage.fromPayload T payload = .ok message →
        ∃ any, payload.body = some any ∧
          GrpcMessageData.fromSlice any.value = .ok message.body ∧
          (payload.type = GrpcMessageData.identity T ∨ payload.type = "")) ∧
    (∀ payload : Payload, payload.type ≠ "" → payload.type ≠ GrpcMessageData.identity T →
      ∃ e, GrpcMessage.fromPayload T payload = .error e ∧
        ∀ (any : ProtoAny) (response : ErrorResponse), payload.body = some any →
          GrpcMessageData.fromSlice any.value = .ok response →
          e = .errResponse response.requestId response.resultCode response.errorCode
            response.message) := by
  refine ⟨fun message payload h => fromPayload_intoPayload hserde h, ?_, ?_⟩
  · intro payload message h
    obtain ⟨any, hbody, hdecoded, htype, _, _⟩ := fromPayload_ok_iff.mp h
    exact ⟨any, hbody, fromProtoAny_ok_iff.mp hdecoded, htype⟩
  · intro payload hne hforeign
    cases hbody : payload.body with
    | none => exact ⟨_, fromPayload_no_body hbody, fun any response hb => by cases hb⟩
    | some any =>
      refine ⟨_, fromPayload_foreign hbody hne hforeign, ?_⟩
      intro any' response hb hslice
      obtain rfl := Option.some.inj hb
      rw [fromProtoAny_ok_iff.mpr hslice]
      rfl

end Decoding

/-! ## One message type -/

/-- `ErrorResponse::fail()`. -/
def ErrorResponse.fail : ErrorResponse where
  resultCode := GrpcResponse.fail.resultCode
  errorCode := GrpcResponse.fail.errorCode
  message := GrpcResponse.fail.message
  requestId := none

/-- The bytes of a text without escapes or wide characters. -/
def asciiBytes (text : String) : Bytes := text.toList.map fun c => UInt8.ofNat c.toNat

/-- `serde_json` on some values and their texts. -/
@[reducible] def tableCodec {T : Type} [DecidableEq T] (identity : String)
    (rows : List (T × String)) : GrpcMessageData T where
  identity := identity
  toVec := fun body =>
    match rows.find? fun row => row.1 = body with
    | some row => .ok (asciiBytes row.2)
    | none => .error "not written"
  fromSlice := fun bytes =>
    match rows.find? fun row => asciiBytes row.2 = bytes with
    | some row => .ok row.1
    | none => .error "not read"

theorem tableCodec_lossless {T : Type} [DecidableEq T] (identity : String)
    {rows : List (T × String)} (h : (rows.map fun row => asciiBytes row.2).Nodup) :
    @Lossless T (tableCodec identity rows) := by
  intro body bytes hwritten
  have hvec : (match rows.find? fun row => row.1 = body with
      | some row => .ok (asciiBytes row.2)
      | none => .error "not written") = (.ok bytes : Except String Bytes) := hwritten
  show (match rows.find? fun row => asciiBytes row.2 = bytes with
      | some row => .ok row.1
      | none => .error "not read") = (.ok body : Except String T)
  cases hfound : rows.find? fun row => row.1 = body with
  | none =>
    rw [hfound] at hvec
    cases hvec
  | some row =>
    rw [hfound] at hvec
    obtain rfl := Except.ok.inj hvec
    have hbody : row.1 = body := by simpa using List.find?_some hfound
    have hmem := List.mem_of_find?_eq_some hfound
    cases hback : rows.find? fun other => asciiBytes other.2 = asciiBytes row.2 with
    | none =>
      have hnot := List.find?_eq_none.mp hback row hmem
      simp at hnot
    | some other =>
      have hsame : other = row := List.inj_on_of_nodup_map h (List.mem_of_find?_eq_some hback) hmem
        (by simpa using List.find?_some hback)
      dsimp only
      rw [hsame, hbody]

/-- `serde_json` on one value and its text. -/
@[reducible] def oneCodec {T : Type} [DecidableEq T] (identity : String) (value : T)
    (text : String) : GrpcMessageData T :=
  tableCodec identity [(value, text)]

theorem oneCodec_lossless {T : Type} [DecidableEq T] (identity : String) (value : T)
    (text : String) : @Lossless T (oneCodec identity value text) :=
  tableCodec_lossless identity (List.nodup_singleton _)

/-- What `serde_json` writes for `ErrorResponse::fail()`. -/
def failText : String :=
  "\x7b\"resultCode\":500,\"errorCode\":0,\"message\":\"Response fail\",\"requestId\":null\x7d"

def failJson : Bytes := asciiBytes failText

/-- `serde_json` on `ErrorResponse::fail()` and its text. -/
@[reducible] def failCodec : GrpcMessageData ErrorResponse :=
  oneCodec "ErrorResponse" ErrorResponse.fail failText

theorem failCodec_lossless : @Lossless ErrorResponse failCodec :=
  oneCodec_lossless "ErrorResponse" ErrorResponse.fail failText

def failMessage : GrpcMessage ErrorResponse where
  headers := ∅
  body := ErrorResponse.fail
  clientIp := "127.0.0.1"

theorem payload_laws_failMessage :
    ∃ payload, @GrpcMessage.intoPayload ErrorResponse failCodec failMessage = .ok payload ∧
      @GrpcMessage.fromPayload ErrorResponse failCodec failCodec payload = .ok failMessage :=
  ⟨_, rfl, (@payload_laws ErrorResponse failCodec failCodec failCodec_lossless).1 _ _ rfl⟩

end NacosSdk.Remote
