/-
This file models `DeviceInfo` and the queries that fill it, and says for which response
bodies a query keeps the body.

One decoder serves the wrapper that `ToJson` writes and the bare body of a response, and
takes for a wrapper whatever has the two keys of one. Wrapping again and unwrapping gives
back any body, so what a query has kept stays; a body with both keys is not kept.
-/

import BoosterSdk.LocoQueries

namespace Booster.Robot.B1

open B1LocoClient
open Json (Codec)

variable {F : NumberFormat}

/-! ### DeviceInfo -/

structure DeviceInfoKind where
  value : Int32
  deriving DecidableEq

namespace DeviceInfoKind

def kUnknown : DeviceInfoKind := ⟨-1⟩

def kSensors : DeviceInfoKind := ⟨0⟩

def kHands : DeviceInfoKind := ⟨1⟩

def kRobotModel : DeviceInfoKind := ⟨2⟩

end DeviceInfoKind

structure DeviceInfo (F : NumberFormat) where
  kind : DeviceInfoKind
  json : Json F

namespace DeviceInfo

/-- Whether a value is taken for a wrapper. -/
def isWrapper (json : Json F) : Bool := json.contains "kind" && json.contains "body"

def fromJson (json : Json F) (self : DeviceInfo F) : Except Thrown (DeviceInfo F) :=
  if isWrapper json then do
    let kind ← json.loadAt "kind"
    let body ← json.at_ "body"
    return { self with kind := ⟨kind⟩, json := body }
  else return { self with kind := .kUnknown, json := json }

def toJson (self : DeviceInfo F) : Except Thrown (Json F) := do
  let out ← Json.null.store "kind" self.kind.value
  out.assign "body" self.json

/-- Writing and reading again, a number of times. -/
def reencode : Nat → DeviceInfo F → Except Thrown (DeviceInfo F)
  | 0, self => return self
  | times + 1, self => do
    let json ← self.toJson
    let self ← fromJson json self
    self.reencode times

/-- Whatever the body, what was written is read back. -/
theorem reencode_eq (times : Nat) (self : DeviceInfo F) : self.reencode times = .ok self := by
  induction times with
  | zero => rfl
  | succ times inductionHypothesis =>
    have written : self.toJson =
        .ok (.object [("kind", Json.encode self.kind.value), ("body", self.json)]) := rfl
    have read : fromJson (.object [("kind", Json.encode self.kind.value), ("body", self.json)])
        self = .ok self := by
      simp [fromJson, isWrapper]
    rw [reencode, written, Json.ok_bind, read, Json.ok_bind, inductionHypothesis]

end DeviceInfo

/-! ### The queries -/

/-- The decoder of a query, which sets the kind after reading. -/
def DeviceInfo.queried (kind : DeviceInfoKind) : Codec F (DeviceInfo F) where
  construct := id
  toJson := toJson
  fromJson bodyJson self := do
    let info ← DeviceInfo.fromJson bodyJson self
    return { info with kind := kind }

namespace B1LocoClient

variable (transport : Int32 → Text → Int32 × Text) (parse : Text → Except Failure (Json F))
  (info : DeviceInfo F)

def getSensorsInto : Except Failure (Int32 × DeviceInfo F) :=
  queryInto transport parse (DeviceInfo.queried .kSensors) getSensors info

def getHandsInto : Except Failure (Int32 × DeviceInfo F) :=
  queryInto transport parse (DeviceInfo.queried .kHands) getHands info

def getRobotModelInto : Except Failure (Int32 × DeviceInfo F) :=
  queryInto transport parse (DeviceInfo.queried .kRobotModel) getRobotModel info

end B1LocoClient

/-! ### Which bodies are kept -/

/-- A query keeps a body: whatever the text it is parsed from and whatever the caller's object held,
it succeeds with the body and the kind of the query, however often they are written and read
again. -/
def KeepsBody
    (query : (Int32 → Text → Int32 × Text) → (Text → Except Failure (Json F)) →
      DeviceInfo F → Except Failure (Int32 × DeviceInfo F))
    (kind : DeviceInfoKind) (body : Json F) : Prop :=
  ∀ text parse info, parse text = .ok body → ∃ after,
    query (fun _ _ => (0, text)) parse info = .ok (0, after) ∧
      after.json = body ∧ after.kind = kind ∧
      ∀ times, ∃ again, after.reencode times = .ok again ∧ again.json = body ∧ again.kind = kind

/-- What is taken for a wrapper is not read as it is. -/
theorem fromJson_wrapper_ne {json : Json F} {self after : DeviceInfo F}
    (wrapper : DeviceInfo.isWrapper json = true)
    (read : DeviceInfo.fromJson json self = .ok after) : after.json ≠ json := by
  unfold DeviceInfo.fromJson at read
  rw [if_pos wrapper] at read
  obtain ⟨kind, _, read⟩ := Json.bind_eq_ok read
  obtain ⟨inner, lookup, read⟩ := Json.bind_eq_ok read
  cases read
  cases json with
  | object fields =>
    rw [Json.at_object] at lookup
    cases found : Json.field "body" fields with
    | none =>
      rw [found] at lookup
      cases lookup
    | some value =>
      rw [found] at lookup
      cases lookup
      exact Json.field_ne found
  | _ => cases lookup

/-- A query keeps exactly the bodies that are not taken for a wrapper. -/
theorem queryInto_keeps_iff (sent : Sent) (kind : DeviceInfoKind) (body : Json F) :
    KeepsBody (fun transport parse info =>
        queryInto transport parse (DeviceInfo.queried kind) (.ok sent) info) kind body ↔
      DeviceInfo.isWrapper body = false := by
  constructor
  · intro keeps
    by_contra wrapper
    rw [Bool.not_eq_false] at wrapper
    obtain ⟨after, result, same, _⟩ :=
      keeps Text.empty (fun _ => .ok body) ⟨.kUnknown, .null⟩ rfl
    dsimp only at result
    rw [B1LocoClient.queryInto_answered rfl rfl] at result
    cases read : DeviceInfo.fromJson body ⟨.kUnknown, .null⟩ with
    | error thrown =>
      simp only [DeviceInfo.queried, read] at result
      cases result
    | ok info =>
      simp only [DeviceInfo.queried, read] at result
      cases result
      exact fromJson_wrapper_ne wrapper read same
  · intro bare text parse info parsed
    refine ⟨⟨kind, body⟩, ?_, rfl, rfl, fun times => ⟨_, DeviceInfo.reencode_eq times _, rfl, rfl⟩⟩
    dsimp only
    rw [B1LocoClient.queryInto_answered rfl parsed]
    simp only [DeviceInfo.queried, DeviceInfo.fromJson, bare]
    rfl

/-- `GetSensors`, `GetHands` and `GetRobotModel` keep the body of a response exactly when it does
not have both keys of a wrapper. -/
theorem queries_keep_iff (body : Json F) :
    (KeepsBody getSensorsInto .kSensors body ↔
      ¬ (body.contains "kind" = true ∧ body.contains "body" = true)) ∧
    (KeepsBody getHandsInto .kHands body ↔
      ¬ (body.contains "kind" = true ∧ body.contains "body" = true)) ∧
    (KeepsBody getRobotModelInto .kRobotModel body ↔
      ¬ (body.contains "kind" = true ∧ body.contains "body" = true)) := by
  have wrapper : DeviceInfo.isWrapper body = false ↔
      ¬ (body.contains "kind" = true ∧ body.contains "body" = true) := by
    unfold DeviceInfo.isWrapper
    rw [← Bool.and_eq_true, Bool.not_eq_true]
  rw [← wrapper]
  exact ⟨queryInto_keeps_iff _ _ body, queryInto_keeps_iff _ _ body,
    queryInto_keeps_iff _ _ body⟩

/-- A body that has the keys of a wrapper. -/
def wrapperLike : Json WireClass.wholeNumbers :=
  .object [("body", .unsigned 2), ("kind", .unsigned 1)]

/-- `GetSensors` succeeds and keeps only what is under one of its keys. -/
theorem getSensors_unwraps :
    getSensorsInto (fun _ _ => (0, Text.ofLiteral "\x7b\"body\":2,\"kind\":1\x7d"))
        (fun _ => .ok wrapperLike) ⟨.kUnknown, .null⟩ = .ok (0, ⟨.kSensors, .unsigned 2⟩) ∧
      ¬ KeepsBody getSensorsInto .kSensors wrapperLike := by
  refine ⟨rfl, fun keeps => ?_⟩
  obtain ⟨after, result, same, _⟩ :=
    keeps Text.empty (fun _ => .ok wrapperLike) ⟨.kUnknown, .null⟩ rfl
  cases result
  cases same

end Booster.Robot.B1
