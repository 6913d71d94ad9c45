/-
This file models what the locomotion client does with the answers to its queries and says
that the caller's object then holds what the service wrote.

A status that is not zero is returned at once and leaves the object. Otherwise the body is
parsed and read into the object, and of what the object held before nothing is left.
-/

import BoosterSdk.LocoClient

namespace Booster.Robot

open DecimalText (FloatText)
open Json (Codec Single map_bind)
open Nlohmann (ParseError parse)
open Nlohmann.Serializer (dump dump_encoded parse_of_dump)

variable {F : NumberFormat}

/-! ### Transforms -/

structure Quaternion (F : NumberFormat) where
  x : Single F
  y : Single F
  z : Single F
  w : Single F

namespace Quaternion

def initial : Quaternion F :=
  ⟨⟨F.singleOfInt 0⟩, ⟨F.singleOfInt 0⟩, ⟨F.singleOfInt 0⟩, ⟨F.singleOfInt 0⟩⟩

def fromJson (json : Json F) (self : Quaternion F) : Except Thrown (Quaternion F) := do
  let x ← json.load "x"
  let y ← json.load "y"
  let z ← json.load "z"
  let w ← json.load "w"
  return { self with x := x, y := y, z := z, w := w }

def toJson (self : Quaternion F) : Except Thrown (Json F) := do
  let json ← Json.null.store "x" self.x
  let json ← json.store "y" self.y
  let json ← json.store "z" self.z
  let json ← json.store "w" self.w
  return json

def codec : Codec F (Quaternion F) := ⟨fun _ => initial, toJson, fromJson⟩

theorem roundTrips (value : Quaternion F) : (codec : Codec F (Quaternion F)).RoundTrips value := by
  refine ⟨_, rfl, fun memory => ?_⟩
  simp [codec, fromJson]

theorem fromJson_canonical (json : Json F) (self : Quaternion F) :
    fromJson json.canonical self = fromJson json self := by
  simp [fromJson]

end Quaternion

structure Transform (F : NumberFormat) where
  position : Position F
  orientation : Quaternion F

namespace Transform

def initial : Transform F := ⟨Position.initial, Quaternion.initial⟩

def fromJson (json : Json F) (self : Transform F) : Except Thrown (Transform F) := do
  let position ← Position.fromJson (← json.index "position") self.position
  let orientation ← Quaternion.fromJson (← json.index "orientation") self.orientation
  return { self with position := position, orientation := orientation }

def toJson (self : Transform F) : Except Thrown (Json F) := do
  let json ← Json.null.assign "position" (← self.position.toJson)
  let json ← json.assign "orientation" (← self.orientation.toJson)
  return json

def codec : Codec F (Transform F) := ⟨fun _ => initial, toJson, fromJson⟩

theorem roundTrips (value : Transform F) : (codec : Codec F (Transform F)).RoundTrips value := by
  obtain ⟨position, wrotePosition, readPosition⟩ := value.position.roundTrips
  obtain ⟨orientation, wroteOrientation, readOrientation⟩ := value.orientation.roundTrips
  have atPosition := readPosition Position.initial
  have atOrientation := readOrientation Quaternion.initial
  simp only [Position.codec] at wrotePosition atPosition
  simp only [Quaternion.codec] at wroteOrientation atOrientation
  simp [Codec.RoundTrips, codec, toJson, wrotePosition, wroteOrientation, fromJson, initial,
    atPosition, atOrientation]

theorem fromJson_canonical (json : Json F) (self : Transform F) :
    fromJson json.canonical self = fromJson json self := by
  simp [fromJson, map_bind, Position.fromJson_canonical, Quaternion.fromJson_canonical]

end Transform

namespace B1.B1LocoClient

/-! ### Queries -/

/-- What a query can throw: what reading and writing can, or that the body is no JSON. -/
inductive Failure where
  | thrown (thrown : Thrown)
  | parseError (error : ParseError)

/-- What the queries have in common: the status and what the caller's object holds. -/
def queryInto {α : Type} (transport : Int32 → Text → Int32 × Text)
    (parse : Text → Except Failure (Json F)) (codec : Codec F α) (request : Except Thrown Sent)
    (out : α) : Except Failure (Int32 × α) := do
  let sent ← request.mapError .thrown
  let (ret, body) := transport sent.apiId sent.param
  if ret ≠ 0 then return (ret, out)
  let bodyJson ← parse body
  let out ← (codec.fromJson bodyJson out).mapError .thrown
  return (ret, out)

section Answered

variable {α : Type} {transport : Int32 → Text → Int32 × Text}
  {parse : Text → Except Failure (Json F)} {codec : Codec F α} {sent : Sent} {ret : Int32}
  {body : Text}

/-- A status other than zero is returned, and the caller's object left. -/
theorem queryInto_refused (replied : transport sent.apiId sent.param = (ret, body))
    (failed : ret ≠ 0) (out : α) :
    queryInto transport parse codec (.ok sent) out = .ok (ret, out) := by
  show (let (ret, body) := transport sent.apiId sent.param
    (do
      if ret ≠ 0 then return (ret, out)
      let bodyJson ← parse body
      let out ← (codec.fromJson bodyJson out).mapError .thrown
      return (ret, out) : Except Failure (Int32 × α))) = _
  rw [replied]
  exact if_pos failed

/-- With status zero the body is read into the caller's object. -/
theorem queryInto_answered {json : Json F}
    (replied : transport sent.apiId sent.param = (0, body)) (parsed : parse body = .ok json)
    (out : α) :
    queryInto transport parse codec (.ok sent) out =
      (fun value => (0, value)) <$> (codec.fromJson json out).mapError .thrown := by
  show (let (ret, body) := transport sent.apiId sent.param
    (do
      if ret ≠ 0 then return (ret, out)
      let bodyJson ← parse body
      let out ← (codec.fromJson bodyJson out).mapError .thrown
      return (ret, out) : Except Failure (Int32 × α))) = _
  rw [replied]
  dsimp only
  rw [if_neg (not_not.mpr rfl), parsed]
  show ((codec.fromJson json out).mapError Failure.thrown >>= fun value => pure (0, value)) = _
  cases codec.fromJson json out <;> rfl

end Answered

section Queries

variable (floats : FloatText F.Double) (transport : Int32 → Text → Int32 × Text)

/-- `nlohmann::json::parse(resp.GetBody())`. -/
def parseBody (body : Text) : Except Failure (Json F) := (parse floats body).mapError .parseError

def getModeInto (getModeResponse : GetModeResponse) : Except Failure (Int32 × GetModeResponse) :=
  queryInto transport (parseBody floats) GetModeResponse.codec getMode getModeResponse

def getStatusInto (getStatusResponse : GetStatusResponse) :
    Except Failure (Int32 × GetStatusResponse) :=
  queryInto transport (parseBody floats) GetStatusResponse.codec getStatus getStatusResponse

def getRobotInfoInto (getRobotInfoResponse : GetRobotInfoResponse) :
    Except Failure (Int32 × GetRobotInfoResponse) :=
  queryInto transport (parseBody floats) GetRobotInfoResponse.codec getRobotInfo
    getRobotInfoResponse

def getTrainedTrajStatusInto (response : GetTrainedTrajStatusResponse) :
    Except Failure (Int32 × GetTrainedTrajStatusResponse) :=
  queryInto transport (parseBody floats) GetTrainedTrajStatusResponse.codec getTrainedTrajStatus
    response

def getFrameTransformInto (src dst : Frame) (transform : Transform F) :
    Except Failure (Int32 × Transform F) :=
  queryInto transport (parseBody floats) Transform.codec (getFrameTransform floats src dst)
    transform

/-- The response is read into an object of its own, of which the identifier is kept. -/
def loadedTrajectory : Codec F Text where
  construct := id
  toJson tid := LoadCustomTrainedTrajResponse.toJson ⟨tid⟩
  fromJson bodyJson _ := do
    let loadResp ← LoadCustomTrainedTrajResponse.fromJson bodyJson ⟨Text.empty⟩
    return loadResp.tid

def loadCustomTrainedTrajInto (traj : CustomTrainedTraj F) (tid : Text) :
    Except Failure (Int32 × Text) :=
  queryInto transport (parseBody floats) loadedTrajectory (loadCustomTrainedTraj floats traj) tid

end Queries

/-- A query. -/
inductive LocoQuery (F : NumberFormat) where
  | getMode
  | getStatus
  | getRobotInfo
  | getTrainedTrajStatus
  | getFrameTransform (src dst : Frame)
  | loadCustomTrainedTraj (traj : CustomTrainedTraj F)

namespace LocoQuery

/-- What the caller's object is of. -/
def Answer : LocoQuery F → Type
  | getMode => GetModeResponse
  | getStatus => GetStatusResponse
  | getRobotInfo => GetRobotInfoResponse
  | getTrainedTrajStatus => GetTrainedTrajStatusResponse
  | getFrameTransform _ _ => Transform F
  | loadCustomTrainedTraj _ => Text

def codec : (query : LocoQuery F) → Codec F query.Answer
  | getMode => GetModeResponse.codec
  | getStatus => GetStatusResponse.codec
  | getRobotInfo => GetRobotInfoResponse.codec
  | getTrainedTrajStatus => GetTrainedTrajStatusResponse.codec
  | getFrameTransform _ _ => Transform.codec
  | loadCustomTrainedTraj _ => loadedTrajectory

section Asking

variable (floats : FloatText F.Double)

def request : LocoQuery F → Except Thrown Sent
  | getMode => B1LocoClient.getMode
  | getStatus => B1LocoClient.getStatus
  | getRobotInfo => B1LocoClient.getRobotInfo
  | getTrainedTrajStatus => B1LocoClient.getTrainedTrajStatus
  | getFrameTransform src dst => B1LocoClient.getFrameTransform floats src dst
  | loadCustomTrainedTraj traj => B1LocoClient.loadCustomTrainedTraj floats traj

variable (transport : Int32 → Text → Int32 × Text)

def ask : (query : LocoQuery F) → query.Answer → Except Failure (Int32 × query.Answer)
  | getMode => getModeInto floats transport
  | getStatus => getStatusInto floats transport
  | getRobotInfo => getRobotInfoInto floats transport
  | getTrainedTrajStatus => getTrainedTrajStatusInto floats transport
  | getFrameTransform src dst => getFrameTransformInto floats transport src dst
  | loadCustomTrainedTraj traj => loadCustomTrainedTrajInto floats transport traj

theorem ask_eq (query : LocoQuery F) (out : query.Answer) :
    query.ask floats transport out =
      queryInto transport (parseBody floats) query.codec (query.request floats) out := by
  cases query <;> rfl

/-! ### Answers -/

/-- Reading overwrites an object. -/
theorem overwrites (query : LocoQuery F) (json : Json F) (first second : query.Answer) :
    query.codec.fromJson json first = query.codec.fromJson json second := by
  cases query <;> rfl

/-- An answer is read from the form of what was written of it. -/
theorem answers (query : LocoQuery F) (value : query.Answer) :
    ∃ json, query.codec.toJson value = .ok json ∧
      ∀ out, query.codec.fromJson json.canonical out = .ok value := by
  have survived : ∃ json, query.codec.toJson value = .ok json ∧ ∀ memory,
      query.codec.fromJson json.canonical (query.codec.construct memory) = .ok value := by
    cases query with
    | getMode =>
      exact survives (GetModeResponse.roundTrips value) fun json _ => member_alike json
    | getStatus =>
      exact survives (GetStatusResponse.roundTrips value) fun _ => GetStatusResponse.alike
    | getRobotInfo =>
      exact survives (GetRobotInfoResponse.roundTrips value) fun json _ =>
        GetRobotInfoResponse.fromJson_canonical json
    | getTrainedTrajStatus =>
      exact survives (GetTrainedTrajStatusResponse.roundTrips value) fun json _ =>
        GetTrainedTrajStatusResponse.fromJson_canonical json
    | getFrameTransform src dst =>
      exact survives (Transform.roundTrips value) fun json _ => Transform.fromJson_canonical json
    | loadCustomTrainedTraj traj =>
      exact ⟨_, rfl, fun _ => rfl⟩
  obtain ⟨json, wrote, reads⟩ := survived
  refine ⟨json, wrote, fun out => ?_⟩
  rw [query.overwrites json.canonical out (query.codec.construct out), reads]

/-- What a service answers: a status, and if it is zero the text of an answer with finite floats. -/
def Answered (query : LocoQuery F) (value : query.Answer) (ret : Int32) (body : Text) : Prop :=
  ret = 0 → ∃ json, query.codec.toJson value = .ok json ∧ Robot.Finite floats json ∧
    dump floats json = .ok body

/-- A query returns the status it was answered with, and the caller's object, whatever it held, then
holds the answer if the status is zero and what it held otherwise. -/
theorem ask_answered (query : LocoQuery F) (value out : query.Answer) {sent : Sent} {ret : Int32}
    {body : Text} (requested : query.request floats = .ok sent)
    (replied : transport sent.apiId sent.param = (ret, body))
    (answered : query.Answered floats value ret body) :
    query.ask floats transport out = .ok (ret, if ret = 0 then value else out) := by
  rw [ask_eq, requested]
  by_cases success : ret = 0
  · obtain ⟨json, wrote, finite, dumped⟩ := answered success
    obtain ⟨again, wroteAgain, reads⟩ := query.answers value
    cases wrote.symm.trans wroteAgain
    have parsed : parseBody floats body = .ok json.canonical := by
      rw [parseBody, parse_of_dump floats dumped, reread_stored floats json finite]
      rfl
    rw [success] at replied
    rw [queryInto_answered replied parsed, reads, success]
    rfl
  · rw [queryInto_refused replied success, if_neg success]

end Asking

/-- A robot that walks and does two things. -/
def walking : GetStatusResponse := ⟨⟨2⟩, ⟨3⟩, [⟨1⟩, ⟨4⟩]⟩

/-- What is written of its status. -/
def walkingJson : Json SignedWhole.format :=
  .object [("current_mode", .integer 2), ("current_body_control", .integer 3),
    ("current_actions", .array [.integer 1, .integer 4])]

theorem ask_answered_walking :
    ∃ body, getStatus.ask SignedWhole.floats (fun _ _ => (0, body)) ⟨⟨0⟩, ⟨0⟩, [⟨7⟩]⟩ =
      .ok (0, walking) := by
  have encoded : walkingJson.stored.Encoded := encoded_stored walkingJson
    (by simp [walkingJson, Json.Encoded, Json.Every, Json.EveryField, Json.EveryElement])
  obtain ⟨body, dumped, _⟩ := dump_encoded SignedWhole.floats encoded
  exact ⟨body, ask_answered SignedWhole.floats (fun _ _ => (0, body)) getStatus walking
    ⟨⟨0⟩, ⟨0⟩, [⟨7⟩]⟩ rfl rfl fun _ => ⟨walkingJson, rfl, by simp [walkingJson], dumped⟩⟩

end LocoQuery

end B1.B1LocoClient

end Booster.Robot
