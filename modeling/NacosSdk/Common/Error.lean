import Mathlib.Data.List.Basic

/-!
# Errors and responses

`api/error.rs`, `common/error.rs`, the fields that the `response` macro adds to
every response, and the parameter check of `common/util.rs`.
-/

namespace NacosSdk.Common

/-- `api::error::Error`; an error wrapped from another crate is its text. -/
inductive Error where
  | serialization (message : String)
  | errResult (message : String)
  | invalidParam (param message : String)
  | errResponse (requestId : Option String) (retCode errorCode : Int) (message : Option String)
  | configNotFound (message : String)
  | configQueryConflict (message : String)
  | clientShutdown (message : String)
  | clientUnhealthy (message : String)
  | tonicGrpcTransport (message : String)
  | tonicGrpcStatus (message : String)
  | grpcBufferRequest (message : String)
  | noAvailableServer
  | wrongServerAddress (message : String)
  deriving DecidableEq

/-- The fields that every response has. -/
structure GrpcResponse where
  resultCode : Int
  errorCode : Int
  message : Option String
  deriving DecidableEq

def successCode : Int := 200

def GrpcResponse.isSuccess (response : GrpcResponse) : Bool := response.resultCode = successCode

/-- `GrpcResponse` of `ok()`. -/
def GrpcResponse.ok : GrpcResponse where
  resultCode := successCode
  errorCode := 0
  message := some "Response ok"

/-- `GrpcResponse` of `fail()`. -/
def GrpcResponse.fail : GrpcResponse where
  resultCode := 500
  errorCode := 0
  message := some "Response fail"

def toErrMsg (response : GrpcResponse) (operation : String) : String :=
  "handle " ++ operation ++ " failed: result_code=" ++ toString response.resultCode ++
    ", error_code=" ++ toString response.errorCode ++ ", message=" ++ response.message.getD ""

def handleResponse (response : GrpcResponse) (operation : String) : Except Error Unit :=
  if response.isSuccess then .ok ()
  else .error (.errResult (toErrMsg response operation))

theorem handleResponse_ok_iff (response : GrpcResponse) (operation : String) :
    handleResponse response operation = .ok () ↔ response.isSuccess = true := by
  unfold handleResponse
  cases response.isSuccess <;> simp

/-! ## Parameter checks -/

/-- `char::is_whitespace`: the code points with the property `White_Space`. -/
def isWhitespace (c : Char) : Bool :=
  (9 ≤ c.toNat && c.toNat ≤ 13) || c.toNat = 0x20 || c.toNat = 0x85 || c.toNat = 0xA0 ||
    c.toNat = 0x1680 || (0x2000 ≤ c.toNat && c.toNat ≤ 0x200A) || c.toNat = 0x2028 ||
    c.toNat = 0x2029 || c.toNat = 0x202F || c.toNat = 0x205F || c.toNat = 0x3000

/-- `param_val.trim().is_empty()`. -/
def isBlank (s : String) : Bool := s.toList.all isWhitespace

def checkNotBlank (paramVal paramName : String) : Except Error String :=
  if isBlank paramVal then .error (.invalidParam paramName "param must not blank!")
  else .ok paramVal

end NacosSdk.Common
