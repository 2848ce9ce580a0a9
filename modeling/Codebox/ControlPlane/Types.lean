import Codebox.Support.Counter

/-! # Requests and responses of the control plane -/

namespace Codebox.ControlPlane

open Codebox.Support

abbrev Bytes := List UInt8

/-- A non-nil identifier that the client draws; it is only compared. -/
abbrev CommandId := Nat

structure ApiError where
  status : Nat
  code : String
  message : String
  deriving Repr, DecidableEq

namespace ApiError

def serviceUnavailable : ApiError :=
  ⟨503, "service_unavailable", "control-plane service is unavailable"⟩

def authenticationRequired : ApiError :=
  ⟨401, "authentication_required", "operator authentication is required"⟩

def idempotencyConflict : ApiError :=
  ⟨409, "idempotency_conflict", "idempotency key was used for another request"⟩

def idempotencyUnavailable : ApiError :=
  ⟨503, "idempotency_unavailable", "idempotency registry is temporarily unavailable"⟩

def sessionLimit : ApiError := ⟨429, "session_limit", "operator session limit reached"⟩

end ApiError

/-- What makes two requests with one key the same request. -/
structure RequestIdentity where
  method : Bytes
  route : Bytes
  body : Bytes
  instanceId : Nat
  logoutSessionSeq : Option Nat
  deriving Repr, DecidableEq

def RequestIdentity.storageBytes (identity : RequestIdentity) : Nat :=
  let method := saturatingAdd 64 identity.method.length
  let route := saturatingAdd method identity.route.length
  let body := saturatingAdd route identity.body.length
  saturatingAdd body (match identity.logoutSessionSeq with
    | none => 0
    | some _ => 8)

structure CachedResponse where
  status : Nat
  headers : List (Bytes × Bytes)
  body : Bytes
  deriving Repr, DecidableEq

def CachedResponse.storageBytes (response : CachedResponse) : Nat :=
  response.headers.foldl (fun total (name, value) => saturatingAdd (saturatingAdd total name.length) value.length)
    (saturatingAdd 64 response.body.length)

end Codebox.ControlPlane
