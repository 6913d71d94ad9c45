/-
This file models the headers of RPC requests and responses.

A request header leaves out the operation command when there is none and the two
identifiers when they are empty; reading puts the same values back for what is missing.
-/

import BoosterSdk.Library.JsonValue

namespace Booster.Robot

open Json (Codec readMember writeMember member_roundTrips)

variable {F : NumberFormat}

structure RpcCallMode where
  value : Int32
  deriving DecidableEq

def RpcCallMode.kRequestResponse : RpcCallMode := ⟨0⟩

structure RpcOperationCommand where
  value : Int32
  deriving DecidableEq

def RpcOperationCommand.kNone : RpcOperationCommand := ⟨0⟩

/-! ### RequestHeader -/

structure RequestHeader where
  apiId : Int64
  callMode : RpcCallMode
  operationCommand : RpcOperationCommand
  reqId : Text
  operationId : Text

namespace RequestHeader

def construct (_ : RequestHeader) : RequestHeader :=
  ⟨0, .kRequestResponse, .kNone, Text.empty, Text.empty⟩

def fromJson (json : Json F) (self : RequestHeader) : Except Thrown RequestHeader := do
  let apiId ← json.load "api_id"
  let callMode ← json.valueOr "call_mode" RpcCallMode.kRequestResponse.value
  let operationCommand ← json.valueOr "operation_command" RpcOperationCommand.kNone.value
  let reqId ← json.valueOr "req_id" Text.empty
  let operationId ← json.valueOr "operation_id" Text.empty
  return {
    self with
    apiId := apiId
    callMode := ⟨callMode⟩
    operationCommand := ⟨operationCommand⟩
    reqId := reqId
    operationId := operationId
  }

def toJson (self : RequestHeader) : Except Thrown (Json F) := do
  let json ← Json.null.store "api_id" self.apiId
  let json ← json.store "call_mode" self.callMode.value
  let json ←
    if self.operationCommand ≠ .kNone then
      json.store "operation_command" self.operationCommand.value
    else pure json
  let json ← if self.reqId.isEmpty then pure json else json.store "req_id" self.reqId
  let json ←
    if self.operationId.isEmpty then pure json else json.store "operation_id" self.operationId
  return json

def codec : Codec F RequestHeader := ⟨construct, toJson, fromJson⟩

/-- What is left out is what reading supplies. -/
theorem roundTrips (value : RequestHeader) : (codec : Codec F RequestHeader).RoundTrips value := by
  obtain ⟨apiId, callMode, operationCommand, reqId, operationId⟩ := value
  by_cases noCommand : operationCommand = .kNone <;> by_cases noReq : reqId = Text.empty <;>
    by_cases noOperation : operationId = Text.empty <;>
    simp [Codec.RoundTrips, codec, toJson, fromJson, noCommand, noReq, noOperation]

end RequestHeader

/-! ### ResponseHeader -/

structure ResponseHeader where
  status : Int64

namespace ResponseHeader

def construct (_ : ResponseHeader) : ResponseHeader := ⟨-1⟩

def fromJson : Json F → ResponseHeader → Except Thrown ResponseHeader :=
  readMember "status" fun status self => { self with status := status }

def toJson : ResponseHeader → Except Thrown (Json F) := writeMember "status" status

def codec : Codec F ResponseHeader := ⟨construct, toJson, fromJson⟩

theorem roundTrips (value : ResponseHeader) : (codec : Codec F ResponseHeader).RoundTrips value :=
  member_roundTrips fun _ => rfl

end ResponseHeader

end Booster.Robot
