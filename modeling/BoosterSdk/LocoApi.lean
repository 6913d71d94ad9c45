/-
This file models the payload classes of the locomotion service.

Each class writes itself to a JSON value and reads itself from one, field by field and
with the keys of its own two functions. A member without an initializer is whatever
memory held before the object was constructed. The underlying type of a scoped
enumeration is `int` and all its values are values of the enumeration; an unscoped
enumeration has the values its enumerators need. Enumerators that no function uses are
left out.
-/

import BoosterSdk.Library.JsonValue

namespace Booster.Robot

open Json (Single Double Stored Codec ReadsBack enumeration encode decode readMember writeMember
  member_roundTrips readEach elements isArray field array pushEach_readsBack
  pushEach_null_readsBack decode_encode)

variable {F : NumberFormat}

/-! ### Enumerations and entities of all services -/

structure RobotMode where
  value : Int32
  deriving DecidableEq

def RobotMode.kUnknown : RobotMode := ⟨-1⟩

instance : Stored F RobotMode := enumeration RobotMode.value RobotMode.mk fun _ => rfl

structure BodyControl where
  value : Int32
  deriving DecidableEq

instance : Stored F BodyControl := enumeration BodyControl.value BodyControl.mk fun _ => rfl

structure Action where
  value : Int32
  deriving DecidableEq

instance : Stored F Action := enumeration Action.value Action.mk fun _ => rfl

structure Frame where
  value : Int32
  deriving DecidableEq

instance : Stored F Frame := enumeration Frame.value Frame.mk fun _ => rfl

structure TrainedTrajStatus where
  value : Int32
  deriving DecidableEq

def TrainedTrajStatus.kIdle : TrainedTrajStatus := ⟨0⟩

instance : Stored F TrainedTrajStatus :=
  enumeration TrainedTrajStatus.value TrainedTrajStatus.mk fun _ => rfl

structure Position (F : NumberFormat) where
  x : Single F
  y : Single F
  z : Single F

namespace Position

def initial : Position F := ⟨⟨F.singleOfInt 0⟩, ⟨F.singleOfInt 0⟩, ⟨F.singleOfInt 0⟩⟩

def fromJson (json : Json F) (self : Position F) : Except Thrown (Position F) := do
  let x ← json.load "x"
  let y ← json.load "y"
  let z ← json.load "z"
  return { self with x := x, y := y, z := z }

def toJson (self : Position F) : Except Thrown (Json F) := do
  let json ← Json.null.store "x" self.x
  let json ← json.store "y" self.y
  let json ← json.store "z" self.z
  return json

def codec : Codec F (Position F) := ⟨fun _ => initial, toJson, fromJson⟩

theorem roundTrips (value : Position F) : (codec : Codec F (Position F)).RoundTrips value := by
  refine ⟨_, rfl, fun memory => ?_⟩
  simp [codec, fromJson]

end Position

structure Orientation (F : NumberFormat) where
  roll : Single F
  pitch : Single F
  yaw : Single F

namespace Orientation

def initial : Orientation F := ⟨⟨F.singleOfInt 0⟩, ⟨F.singleOfInt 0⟩, ⟨F.singleOfInt 0⟩⟩

def fromJson (json : Json F) (self : Orientation F) : Except Thrown (Orientation F) := do
  let roll ← json.load "roll"
  let pitch ← json.load "pitch"
  let yaw ← json.load "yaw"
  return { self with roll := roll, pitch := pitch, yaw := yaw }

def toJson (self : Orientation F) : Except Thrown (Json F) := do
  let json ← Json.null.store "roll" self.roll
  let json ← json.store "pitch" self.pitch
  let json ← json.store "yaw" self.yaw
  return json

def codec : Codec F (Orientation F) := ⟨fun _ => initial, toJson, fromJson⟩

theorem roundTrips (value : Orientation F) :
    (codec : Codec F (Orientation F)).RoundTrips value := by
  refine ⟨_, rfl, fun memory => ?_⟩
  simp [codec, fromJson]

end Orientation

structure Posture (F : NumberFormat) where
  position : Position F
  orientation : Orientation F

namespace Posture

def initial : Posture F := ⟨Position.initial, Orientation.initial⟩

def fromJson (json : Json F) (self : Posture F) : Except Thrown (Posture F) := do
  let position ← Position.fromJson (← json.index "position") self.position
  let orientation ← Orientation.fromJson (← json.index "orientation") self.orientation
  return { self with position := position, orientation := orientation }

def toJson (self : Posture F) : Except Thrown (Json F) := do
  let json ← Json.null.assign "position" (← self.position.toJson)
  let json ← json.assign "orientation" (← self.orientation.toJson)
  return json

def codec : Codec F (Posture F) := ⟨fun _ => initial, toJson, fromJson⟩

theorem roundTrips (value : Posture F) : (codec : Codec F (Posture F)).RoundTrips value := by
  obtain ⟨position, wrotePosition, readPosition⟩ := value.position.roundTrips
  obtain ⟨orientation, wroteOrientation, readOrientation⟩ := value.orientation.roundTrips
  have atPosition := readPosition Position.initial
  have atOrientation := readOrientation Orientation.initial
  simp only [Position.codec] at wrotePosition atPosition
  simp only [Orientation.codec] at wroteOrientation atOrientation
  simp [Codec.RoundTrips, codec, toJson, wrotePosition, wroteOrientation, fromJson, initial,
    atPosition, atOrientation]

end Posture

namespace B1

/-! ### Enumerations of the locomotion service -/

inductive HandIndex where
  | kLeftHand
  | kRightHand
  deriving DecidableEq

def HandIndex.value : HandIndex → Int32
  | kLeftHand => 0
  | kRightHand => 1

/-- Other values are not values of the enumeration. -/
def HandIndex.ofValue (value : Int32) : HandIndex := if value = 0 then kLeftHand else kRightHand

instance : Stored F HandIndex := enumeration HandIndex.value HandIndex.ofValue fun index => by
  cases index <;> rfl

inductive HandAction where
  | kHandOpen
  | kHandClose
  deriving DecidableEq

def HandAction.value : HandAction → Int32
  | kHandOpen => 0
  | kHandClose => 1

/-- Other values are not values of the enumeration. -/
def HandAction.ofValue (value : Int32) : HandAction := if value = 0 then kHandOpen else kHandClose

instance : Stored F HandAction := enumeration HandAction.value HandAction.ofValue fun action => by
  cases action <;> rfl

structure BoosterHandType where
  value : Int32
  deriving DecidableEq

instance : Stored F BoosterHandType :=
  enumeration BoosterHandType.value BoosterHandType.mk fun _ => rfl

structure GaitType where
  value : Int32
  deriving DecidableEq

def GaitType.kWholeBodyHumanlikeGait : GaitType := ⟨0⟩

instance : Stored F GaitType := enumeration GaitType.value GaitType.mk fun _ => rfl

structure GetUpVersion where
  value : Int32
  deriving DecidableEq

def GetUpVersion.kV1 : GetUpVersion := ⟨0⟩

instance : Stored F GetUpVersion := enumeration GetUpVersion.value GetUpVersion.mk fun _ => rfl

structure GripperControlMode where
  value : Int32
  deriving DecidableEq

instance : Stored F GripperControlMode :=
  enumeration GripperControlMode.value GripperControlMode.mk fun _ => rfl

structure DanceId where
  value : Int32
  deriving DecidableEq

instance : Stored F DanceId := enumeration DanceId.value DanceId.mk fun _ => rfl

structure WholeBodyDanceId where
  value : Int32
  deriving DecidableEq

instance : Stored F WholeBodyDanceId :=
  enumeration WholeBodyDanceId.value WholeBodyDanceId.mk fun _ => rfl

structure JointOrder where
  value : Int32
  deriving DecidableEq

def JointOrder.kMuJoCo : JointOrder := ⟨0⟩

instance : Stored F JointOrder := enumeration JointOrder.value JointOrder.mk fun _ => rfl

structure VisualKickVersion where
  value : Int32
  deriving DecidableEq

instance : Stored F VisualKickVersion :=
  enumeration VisualKickVersion.value VisualKickVersion.mk fun _ => rfl

/-! ### Payloads -/

structure RotateHeadParameter (F : NumberFormat) where
  pitch : Single F
  yaw : Single F

namespace RotateHeadParameter

def fromJson (json : Json F) (self : RotateHeadParameter F) :
    Except Thrown (RotateHeadParameter F) := do
  let pitch ← json.load "pitch"
  let yaw ← json.load "yaw"
  return { self with pitch := pitch, yaw := yaw }

def toJson (self : RotateHeadParameter F) : Except Thrown (Json F) := do
  let json ← Json.null.store "pitch" self.pitch
  let json ← json.store "yaw" self.yaw
  return json

def codec : Codec F (RotateHeadParameter F) := ⟨id, toJson, fromJson⟩

theorem roundTrips (value : RotateHeadParameter F) :
    (codec : Codec F (RotateHeadParameter F)).RoundTrips value := by
  refine ⟨_, rfl, fun memory => ?_⟩
  simp [codec, fromJson]

end RotateHeadParameter

structure RotateHeadWithTimeParameter (F : NumberFormat) where
  pitch : Single F
  yaw : Single F
  timeMillis : Int32

namespace RotateHeadWithTimeParameter

def fromJson (json : Json F) (self : RotateHeadWithTimeParameter F) :
    Except Thrown (RotateHeadWithTimeParameter F) := do
  let pitch ← json.load "pitch"
  let yaw ← json.load "yaw"
  let timeMillis ← json.load "time_millis"
  return { self with pitch := pitch, yaw := yaw, timeMillis := timeMillis }

def toJson (self : RotateHeadWithTimeParameter F) : Except Thrown (Json F) := do
  let json ← Json.null.store "pitch" self.pitch
  let json ← json.store "yaw" self.yaw
  let json ← json.store "time_millis" self.timeMillis
  return json

def codec : Codec F (RotateHeadWithTimeParameter F) := ⟨id, toJson, fromJson⟩

theorem roundTrips (value : RotateHeadWithTimeParameter F) :
    (codec : Codec F (RotateHeadWithTimeParameter F)).RoundTrips value := by
  refine ⟨_, rfl, fun memory => ?_⟩
  simp [codec, fromJson]

end RotateHeadWithTimeParameter

structure ChangeModeParameter where
  mode : RobotMode

namespace ChangeModeParameter

def fromJson : Json F → ChangeModeParameter → Except Thrown ChangeModeParameter :=
  readMember "mode" fun mode self => { self with mode := mode }

def toJson : ChangeModeParameter → Except Thrown (Json F) := writeMember "mode" mode

def codec : Codec F ChangeModeParameter := ⟨id, toJson, fromJson⟩

theorem roundTrips (value : ChangeModeParameter) :
    (codec : Codec F ChangeModeParameter).RoundTrips value :=
  member_roundTrips fun _ => rfl

end ChangeModeParameter

structure SwitchGaitParameter where
  gaitType : GaitType

namespace SwitchGaitParameter

def construct (_ : SwitchGaitParameter) : SwitchGaitParameter := ⟨.kWholeBodyHumanlikeGait⟩

def fromJson : Json F → SwitchGaitParameter → Except Thrown SwitchGaitParameter :=
  readMember "gait_type" fun gaitType self => { self with gaitType := gaitType }

def toJson : SwitchGaitParameter → Except Thrown (Json F) := writeMember "gait_type" gaitType

def codec : Codec F SwitchGaitParameter := ⟨construct, toJson, fromJson⟩

theorem roundTrips (value : SwitchGaitParameter) :
    (codec : Codec F SwitchGaitParameter).RoundTrips value :=
  member_roundTrips fun _ => rfl

end SwitchGaitParameter

structure GetModeResponse where
  mode : RobotMode

namespace GetModeResponse

def fromJson : Json F → GetModeResponse → Except Thrown GetModeResponse :=
  readMember "mode" fun mode self => { self with mode := mode }

def toJson : GetModeResponse → Except Thrown (Json F) := writeMember "mode" mode

def codec : Codec F GetModeResponse := ⟨id, toJson, fromJson⟩

theorem roundTrips (value : GetModeResponse) : (codec : Codec F GetModeResponse).RoundTrips value :=
  member_roundTrips fun _ => rfl

end GetModeResponse

structure GetStatusResponse where
  currentMode : RobotMode
  currentBodyControl : BodyControl
  currentActions : List Action

namespace GetStatusResponse

def construct (memory : GetStatusResponse) : GetStatusResponse :=
  { memory with currentActions := [] }

def fromJson (json : Json F) (self : GetStatusResponse) : Except Thrown GetStatusResponse := do
  let currentMode ← json.load "current_mode"
  let currentBodyControl ← json.load "current_body_control"
  let actionsVec ← (← json.index "current_actions").readEach decode []
  return {
    self with
    currentMode := currentMode
    currentBodyControl := currentBodyControl
    currentActions := actionsVec
  }

def toJson (self : GetStatusResponse) : Except Thrown (Json F) := do
  let json ← Json.null.store "current_mode" self.currentMode
  let json ← json.store "current_body_control" self.currentBodyControl
  let actionsIntVec := self.currentActions.map Action.value
  let json ← json.store "current_actions" actionsIntVec
  return json

def codec : Codec F GetStatusResponse := ⟨construct, toJson, fromJson⟩

/-- A list of actions is read back from the list of their values. -/
theorem readEach_values (actions prior : List Action) :
    (encode (actions.map Action.value) : Json F).readEach decode prior =
      .ok (prior ++ actions) := by
  induction actions generalizing prior with
  | nil =>
    rw [List.append_nil]
    rfl
  | cons action rest inductionHypothesis =>
    have later := inductionHypothesis (prior ++ [action])
    rw [List.append_assoc, List.singleton_append] at later
    rw [← later]
    show (_ <$> decode (encode action : Json F)) >>= _ = _
    rw [decode_encode]
    rfl

theorem roundTrips (value : GetStatusResponse) :
    (codec : Codec F GetStatusResponse).RoundTrips value := by
  refine ⟨_, rfl, fun memory => ?_⟩
  simp [codec, fromJson, readEach_values]

end GetStatusResponse

structure GetRobotInfoResponse where
  name : Text
  nickname : Text
  version : Text
  model : Text
  serialNumber : Text
  edition : Text
  region : Text

namespace GetRobotInfoResponse

def construct (_ : GetRobotInfoResponse) : GetRobotInfoResponse :=
  ⟨Text.empty, Text.empty, Text.empty, Text.empty, Text.empty, Text.empty, Text.empty⟩

def fromJson (json : Json F) (self : GetRobotInfoResponse) :
    Except Thrown GetRobotInfoResponse := do
  let name ← json.load "name"
  let nickname ← json.load "nickname"
  let version ← json.load "version"
  let model ← json.load "model"
  let serialNumber ← json.load "serial_number"
  let edition ← json.load "edition"
  let region ← json.load "region"
  return {
    self with
    name := name
    nickname := nickname
    version := version
    model := model
    serialNumber := serialNumber
    edition := edition
    region := region
  }

def toJson (self : GetRobotInfoResponse) : Except Thrown (Json F) := do
  let json ← Json.null.store "name" self.name
  let json ← json.store "nickname" self.nickname
  let json ← json.store "version" self.version
  let json ← json.store "model" self.model
  let json ← json.store "serial_number" self.serialNumber
  let json ← json.store "edition" self.edition
  let json ← json.store "region" self.region
  return json

def codec : Codec F GetRobotInfoResponse := ⟨construct, toJson, fromJson⟩

theorem roundTrips (value : GetRobotInfoResponse) :
    (codec : Codec F GetRobotInfoResponse).RoundTrips value := by
  refine ⟨_, rfl, fun memory => ?_⟩
  simp [codec, fromJson]

end GetRobotInfoResponse

structure MoveParameter (F : NumberFormat) where
  vx : Single F
  vy : Single F
  vyaw : Single F

namespace MoveParameter

def fromJson (json : Json F) (self : MoveParameter F) : Except Thrown (MoveParameter F) := do
  let vx ← json.load "vx"
  let vy ← json.load "vy"
  let vyaw ← json.load "vyaw"
  return { self with vx := vx, vy := vy, vyaw := vyaw }

def toJson (self : MoveParameter F) : Except Thrown (Json F) := do
  let json ← Json.null.store "vx" self.vx
  let json ← json.store "vy" self.vy
  let json ← json.store "vyaw" self.vyaw
  return json

def codec : Codec F (MoveParameter F) := ⟨id, toJson, fromJson⟩

theorem roundTrips (value : MoveParameter F) :
    (codec : Codec F (MoveParameter F)).RoundTrips value := by
  refine ⟨_, rfl, fun memory => ?_⟩
  simp [codec, fromJson]

end MoveParameter

structure RotateHeadWithDirectionParameter where
  pitchDirection : Int32
  yawDirection : Int32

namespace RotateHeadWithDirectionParameter

def fromJson (json : Json F) (self : RotateHeadWithDirectionParameter) :
    Except Thrown RotateHeadWithDirectionParameter := do
  let pitchDirection ← json.load "pitch_direction"
  let yawDirection ← json.load "yaw_direction"
  return { self with pitchDirection := pitchDirection, yawDirection := yawDirection }

def toJson (self : RotateHeadWithDirectionParameter) : Except Thrown (Json F) := do
  let json ← Json.null.store "pitch_direction" self.pitchDirection
  let json ← json.store "yaw_direction" self.yawDirection
  return json

def codec : Codec F RotateHeadWithDirectionParameter := ⟨id, toJson, fromJson⟩

theorem roundTrips (value : RotateHeadWithDirectionParameter) :
    (codec : Codec F RotateHeadWithDirectionParameter).RoundTrips value := by
  refine ⟨_, rfl, fun memory => ?_⟩
  simp [codec, fromJson]

end RotateHeadWithDirectionParameter

structure GetUpParameter where
  version : GetUpVersion

namespace GetUpParameter

def construct (_ : GetUpParameter) : GetUpParameter := ⟨.kV1⟩

def fromJson (json : Json F) (self : GetUpParameter) : Except Thrown GetUpParameter := do
  if json.contains "version" then
    let version ← json.load "version"
    return { self with version := version }
  else
    return { self with version := .kV1 }

def toJson : GetUpParameter → Except Thrown (Json F) := writeMember "version" version

def codec : Codec F GetUpParameter := ⟨construct, toJson, fromJson⟩

theorem roundTrips (value : GetUpParameter) :
    (codec : Codec F GetUpParameter).RoundTrips value := by
  refine ⟨_, rfl, fun memory => ?_⟩
  simp [codec, fromJson]

end GetUpParameter

structure GetUpWithModeParameter where
  mode : RobotMode
  version : GetUpVersion

namespace GetUpWithModeParameter

def construct (_ : GetUpWithModeParameter) : GetUpWithModeParameter := ⟨.kUnknown, .kV1⟩

def fromJson (json : Json F) (self : GetUpWithModeParameter) :
    Except Thrown GetUpWithModeParameter := do
  let mode ← json.load "mode"
  if json.contains "version" then
    let version ← json.load "version"
    return { self with mode := mode, version := version }
  else
    return { self with mode := mode, version := .kV1 }

def toJson (self : GetUpWithModeParameter) : Except Thrown (Json F) := do
  let json ← Json.null.store "mode" self.mode
  let json ← json.store "version" self.version
  return json

def codec : Codec F GetUpWithModeParameter := ⟨construct, toJson, fromJson⟩

theorem roundTrips (value : GetUpWithModeParameter) :
    (codec : Codec F GetUpWithModeParameter).RoundTrips value := by
  refine ⟨_, rfl, fun memory => ?_⟩
  simp [codec, fromJson]

end GetUpWithModeParameter

structure WaveHandParameter where
  handIndex : HandIndex
  handAction : HandAction

namespace WaveHandParameter

def fromJson (json : Json F) (self : WaveHandParameter) : Except Thrown WaveHandParameter := do
  let handIndex ← json.load "hand_index"
  let handAction ← json.load "hand_action"
  return { self with handIndex := handIndex, handAction := handAction }

def toJson (self : WaveHandParameter) : Except Thrown (Json F) := do
  let json ← Json.null.store "hand_index" self.handIndex
  let json ← json.store "hand_action" self.handAction
  return json

def codec : Codec F WaveHandParameter := ⟨id, toJson, fromJson⟩

theorem roundTrips (value : WaveHandParameter) :
    (codec : Codec F WaveHandParameter).RoundTrips value := by
  refine ⟨_, rfl, fun memory => ?_⟩
  simp [codec, fromJson]

end WaveHandParameter

structure HandshakeParameter where
  handAction : HandAction

namespace HandshakeParameter

def fromJson : Json F → HandshakeParameter → Except Thrown HandshakeParameter :=
  readMember "hand_action" fun handAction self => { self with handAction := handAction }

def toJson : HandshakeParameter → Except Thrown (Json F) := writeMember "hand_action" handAction

def codec : Codec F HandshakeParameter := ⟨id, toJson, fromJson⟩

theorem roundTrips (value : HandshakeParameter) :
    (codec : Codec F HandshakeParameter).RoundTrips value :=
  member_roundTrips fun _ => rfl

end HandshakeParameter

structure HandOnChestGreetingParameter where
  up : Bool

namespace HandOnChestGreetingParameter

def construct (_ : HandOnChestGreetingParameter) : HandOnChestGreetingParameter := ⟨false⟩

def fromJson : Json F → HandOnChestGreetingParameter → Except Thrown HandOnChestGreetingParameter :=
  readMember "up" fun up self => { self with up := up }

def toJson : HandOnChestGreetingParameter → Except Thrown (Json F) := writeMember "up" up

def codec : Codec F HandOnChestGreetingParameter := ⟨construct, toJson, fromJson⟩

theorem roundTrips (value : HandOnChestGreetingParameter) :
    (codec : Codec F HandOnChestGreetingParameter).RoundTrips value :=
  member_roundTrips fun _ => rfl

end HandOnChestGreetingParameter

structure MoveHandEndEffectorParameter (F : NumberFormat) where
  targetPosture : Posture F
  auxPosture : Posture F
  timeMillis : Int32
  handIndex : HandIndex
  hasAux : Bool
  newVersion : Bool

namespace MoveHandEndEffectorParameter

def construct (memory : MoveHandEndEffectorParameter F) : MoveHandEndEffectorParameter F where
  targetPosture := Posture.initial
  auxPosture := Posture.initial
  timeMillis := 1000
  handIndex := memory.handIndex
  hasAux := false
  newVersion := false

def fromJson (json : Json F) (self : MoveHandEndEffectorParameter F) :
    Except Thrown (MoveHandEndEffectorParameter F) := do
  let targetPosture ← Posture.fromJson (← json.index "target_posture") self.targetPosture
  let hasAux ← json.load "has_aux"
  let auxPosture ←
    if hasAux then Posture.fromJson (← json.index "aux_posture") self.auxPosture
    else pure self.auxPosture
  let timeMillis ← json.load "time_millis"
  let handIndex ← json.load "hand_index"
  let newVersion ← json.load "new_version"
  return ⟨targetPosture, auxPosture, timeMillis, handIndex, hasAux, newVersion⟩

def toJson (self : MoveHandEndEffectorParameter F) : Except Thrown (Json F) := do
  let json ← Json.null.assign "target_posture" (← self.targetPosture.toJson)
  let json ←
    if self.hasAux then json.assign "aux_posture" (← self.auxPosture.toJson) else pure json
  let json ← json.store "time_millis" self.timeMillis
  let json ← json.store "hand_index" self.handIndex
  let json ← json.store "has_aux" self.hasAux
  let json ← json.store "new_version" self.newVersion
  return json

def codec : Codec F (MoveHandEndEffectorParameter F) := ⟨construct, toJson, fromJson⟩

/-- The auxiliary posture is not written when there is none, so an object without one reads back
when it holds the posture of a new object. -/
theorem roundTrips (value : MoveHandEndEffectorParameter F)
    (unused : value.hasAux = false → value.auxPosture = Posture.initial) :
    (codec : Codec F (MoveHandEndEffectorParameter F)).RoundTrips value := by
  obtain ⟨target, wroteTarget, readTarget⟩ := value.targetPosture.roundTrips
  obtain ⟨aux, wroteAux, readAux⟩ := value.auxPosture.roundTrips
  have atTarget := readTarget Posture.initial
  have atAux := readAux Posture.initial
  simp only [Posture.codec] at wroteTarget wroteAux atTarget atAux
  obtain ⟨targetPosture, auxPosture, timeMillis, handIndex, hasAux, newVersion⟩ := value
  cases hasAux with
  | true =>
    simp [Codec.RoundTrips, codec, toJson, wroteTarget, wroteAux, fromJson, construct, atTarget,
      atAux]
  | false =>
    have empty : auxPosture = Posture.initial := unused rfl
    simp [Codec.RoundTrips, codec, toJson, wroteTarget, fromJson, construct, atTarget, empty]

end MoveHandEndEffectorParameter

structure GripperMotionParameter where
  position : Int32
  force : Int32
  speed : Int32

namespace GripperMotionParameter

def construct (_ : GripperMotionParameter) : GripperMotionParameter := ⟨0, 0, 0⟩

def fromJson (json : Json F) (self : GripperMotionParameter) :
    Except Thrown GripperMotionParameter := do
  let position ← json.load "position"
  let force ← json.load "force"
  let speed ← json.load "speed"
  return { self with position := position, force := force, speed := speed }

def toJson (self : GripperMotionParameter) : Except Thrown (Json F) := do
  let json ← Json.null.store "position" self.position
  let json ← json.store "force" self.force
  let json ← json.store "speed" self.speed
  return json

def codec : Codec F GripperMotionParameter := ⟨construct, toJson, fromJson⟩

theorem roundTrips (value : GripperMotionParameter) :
    (codec : Codec F GripperMotionParameter).RoundTrips value := by
  refine ⟨_, rfl, fun memory => ?_⟩
  simp [codec, fromJson]

end GripperMotionParameter

structure ControlGripperParameter where
  motionParam : GripperMotionParameter
  mode : GripperControlMode
  handIndex : HandIndex

namespace ControlGripperParameter

def construct (memory : ControlGripperParameter) : ControlGripperParameter :=
  { memory with motionParam := memory.motionParam.construct }

def fromJson (json : Json F) (self : ControlGripperParameter) :
    Except Thrown ControlGripperParameter := do
  let motionParam ← GripperMotionParameter.fromJson (← json.index "motion_param") self.motionParam
  let mode ← json.load "mode"
  let handIndex ← json.load "hand_index"
  return { self with motionParam := motionParam, mode := mode, handIndex := handIndex }

def toJson (self : ControlGripperParameter) : Except Thrown (Json F) := do
  let json ← Json.null.assign "motion_param" (← self.motionParam.toJson)
  let json ← json.store "mode" self.mode
  let json ← json.store "hand_index" self.handIndex
  return json

def codec : Codec F ControlGripperParameter := ⟨construct, toJson, fromJson⟩

theorem roundTrips (value : ControlGripperParameter) :
    (codec : Codec F ControlGripperParameter).RoundTrips value := by
  have motionParam : (GripperMotionParameter.codec : Codec F _).RoundTrips value.motionParam :=
    value.motionParam.roundTrips
  obtain ⟨motion, wrote, reads⟩ := motionParam
  simp only [GripperMotionParameter.codec] at wrote reads
  simp [Codec.RoundTrips, codec, toJson, wrote, fromJson, construct, reads]

end ControlGripperParameter

structure MoveDualHandEndEffectorParameter (F : NumberFormat) where
  leftTargetPosture : Posture F
  rightTargetPosture : Posture F
  timeMillis : Int32

namespace MoveDualHandEndEffectorParameter

def construct (_ : MoveDualHandEndEffectorParameter F) : MoveDualHandEndEffectorParameter F :=
  ⟨Posture.initial, Posture.initial, 1000⟩

def fromJson (json : Json F) (self : MoveDualHandEndEffectorParameter F) :
    Except Thrown (MoveDualHandEndEffectorParameter F) := do
  let leftTargetPosture ←
    Posture.fromJson (← json.index "left_target_posture") self.leftTargetPosture
  let rightTargetPosture ←
    Posture.fromJson (← json.index "right_target_posture") self.rightTargetPosture
  let timeMillis ← json.load "time_millis"
  return ⟨leftTargetPosture, rightTargetPosture, timeMillis⟩

def toJson (self : MoveDualHandEndEffectorParameter F) : Except Thrown (Json F) := do
  let json ← Json.null.assign "left_target_posture" (← self.leftTargetPosture.toJson)
  let json ← json.assign "right_target_posture" (← self.rightTargetPosture.toJson)
  let json ← json.store "time_millis" self.timeMillis
  return json

def codec : Codec F (MoveDualHandEndEffectorParameter F) := ⟨construct, toJson, fromJson⟩

theorem roundTrips (value : MoveDualHandEndEffectorParameter F) :
    (codec : Codec F (MoveDualHandEndEffectorParameter F)).RoundTrips value := by
  obtain ⟨left, wroteLeft, readLeft⟩ := value.leftTargetPosture.roundTrips
  obtain ⟨right, wroteRight, readRight⟩ := value.rightTargetPosture.roundTrips
  have atLeft := readLeft Posture.initial
  have atRight := readRight Posture.initial
  simp only [Posture.codec] at wroteLeft wroteRight atLeft atRight
  simp [Codec.RoundTrips, codec, toJson, wroteLeft, wroteRight, fromJson, construct, atLeft,
    atRight]

end MoveDualHandEndEffectorParameter

structure GetFrameTransformParameter where
  src : Frame
  dst : Frame

namespace GetFrameTransformParameter

def fromJson (json : Json F) (self : GetFrameTransformParameter) :
    Except Thrown GetFrameTransformParameter := do
  let src ← json.load "src"
  let dst ← json.load "dst"
  return { self with src := src, dst := dst }

def toJson (self : GetFrameTransformParameter) : Except Thrown (Json F) := do
  let json ← Json.null.store "src" self.src
  let json ← json.store "dst" self.dst
  return json

def codec : Codec F GetFrameTransformParameter := ⟨id, toJson, fromJson⟩

theorem roundTrips (value : GetFrameTransformParameter) :
    (codec : Codec F GetFrameTransformParameter).RoundTrips value := by
  refine ⟨_, rfl, fun memory => ?_⟩
  simp [codec, fromJson]

end GetFrameTransformParameter

structure SwitchHandEndEffectorControlModeParameter where
  switchOn : Bool

namespace SwitchHandEndEffectorControlModeParameter

def fromJson :
    Json F → SwitchHandEndEffectorControlModeParameter →
      Except Thrown SwitchHandEndEffectorControlModeParameter :=
  readMember "switch_on" fun switchOn self => { self with switchOn := switchOn }

def toJson : SwitchHandEndEffectorControlModeParameter → Except Thrown (Json F) :=
  writeMember "switch_on" switchOn

def codec : Codec F SwitchHandEndEffectorControlModeParameter := ⟨id, toJson, fromJson⟩

theorem roundTrips (value : SwitchHandEndEffectorControlModeParameter) :
    (codec : Codec F SwitchHandEndEffectorControlModeParameter).RoundTrips value :=
  member_roundTrips fun _ => rfl

end SwitchHandEndEffectorControlModeParameter

structure DexterousFingerParameter where
  seq : Int32
  angle : Int32
  force : Int32
  speed : Int32

namespace DexterousFingerParameter

def initial : DexterousFingerParameter := ⟨-1, 0, 0, 0⟩

def construct (_ : DexterousFingerParameter) : DexterousFingerParameter := initial

def fromJson (json : Json F) (self : DexterousFingerParameter) :
    Except Thrown DexterousFingerParameter := do
  let seq ← json.load "seq"
  let angle ← json.load "angle"
  let force ← json.load "force"
  let speed ← json.load "speed"
  return { self with seq := seq, angle := angle, force := force, speed := speed }

def toJson (self : DexterousFingerParameter) : Except Thrown (Json F) := do
  let json ← Json.null.store "seq" self.seq
  let json ← json.store "angle" self.angle
  let json ← json.store "force" self.force
  let json ← json.store "speed" self.speed
  return json

def codec : Codec F DexterousFingerParameter := ⟨construct, toJson, fromJson⟩

theorem roundTrips (value : DexterousFingerParameter) :
    (codec : Codec F DexterousFingerParameter).RoundTrips value := by
  refine ⟨_, rfl, fun memory => ?_⟩
  simp [codec, fromJson]

end DexterousFingerParameter

structure ControlDexterousHandParameter where
  fingerParams : List DexterousFingerParameter
  handIndex : HandIndex
  handType : BoosterHandType

namespace ControlDexterousHandParameter

def construct (memory : ControlDexterousHandParameter) : ControlDexterousHandParameter :=
  { memory with fingerParams := [] }

def fromJson (json : Json F) (self : ControlDexterousHandParameter) :
    Except Thrown ControlDexterousHandParameter := do
  let fingerParams ← (← json.index "finger_params").readEach
    (DexterousFingerParameter.fromJson · DexterousFingerParameter.initial) self.fingerParams
  let handIndex ← json.load "hand_index"
  let handType ← json.load "hand_type"
  return { self with fingerParams := fingerParams, handIndex := handIndex, handType := handType }

def toJson (self : ControlDexterousHandParameter) : Except Thrown (Json F) := do
  let json ← Json.null.pushEach "finger_params" DexterousFingerParameter.toJson self.fingerParams
  let json ← json.store "hand_index" self.handIndex
  let json ← json.store "hand_type" self.handType
  return json

def codec : Codec F ControlDexterousHandParameter := ⟨construct, toJson, fromJson⟩

/-- An empty list of fingers is not written, and reading a missing list leaves the list of a new
object empty. -/
theorem roundTrips (value : ControlDexterousHandParameter) :
    (codec : Codec F ControlDexterousHandParameter).RoundTrips value := by
  obtain ⟨fingerParams, handIndex, handType⟩ := value
  cases fingerParams with
  | nil =>
    refine ⟨_, rfl, fun memory => ?_⟩
    simp [codec, fromJson, construct, readEach, elements]
  | cons finger rest =>
    have readsBack : ∀ member ∈ finger :: rest, ReadsBack
        (DexterousFingerParameter.toJson : _ → Except Thrown (Json F))
        (DexterousFingerParameter.fromJson · DexterousFingerParameter.initial) member :=
      fun member _ => member.roundTrips.imp fun _ both => ⟨both.1, both.2 member⟩
    obtain ⟨written, wrote, reads⟩ :=
      pushEach_null_readsBack "finger_params" readsBack (List.cons_ne_nil finger rest)
    simp [Codec.RoundTrips, codec, toJson, wrote, fromJson, construct, reads]

end ControlDexterousHandParameter

structure DanceParameter where
  danceId : DanceId

namespace DanceParameter

def fromJson : Json F → DanceParameter → Except Thrown DanceParameter :=
  readMember "dance_id" fun danceId self => { self with danceId := danceId }

def toJson : DanceParameter → Except Thrown (Json F) := writeMember "dance_id" danceId

def codec : Codec F DanceParameter := ⟨id, toJson, fromJson⟩

theorem roundTrips (value : DanceParameter) : (codec : Codec F DanceParameter).RoundTrips value :=
  member_roundTrips fun _ => rfl

end DanceParameter

structure PlaySoundParameter where
  soundFilePath : Text

namespace PlaySoundParameter

def construct (_ : PlaySoundParameter) : PlaySoundParameter := ⟨Text.empty⟩

def fromJson : Json F → PlaySoundParameter → Except Thrown PlaySoundParameter :=
  readMember "sound_file_path" fun soundFilePath self =>
    { self with soundFilePath := soundFilePath }

def toJson : PlaySoundParameter → Except Thrown (Json F) :=
  writeMember "sound_file_path" soundFilePath

def codec : Codec F PlaySoundParameter := ⟨construct, toJson, fromJson⟩

theorem roundTrips (value : PlaySoundParameter) :
    (codec : Codec F PlaySoundParameter).RoundTrips value :=
  member_roundTrips fun _ => rfl

end PlaySoundParameter

structure ReplayTrajectoryParameter where
  trajFilePath : Text

namespace ReplayTrajectoryParameter

def construct (_ : ReplayTrajectoryParameter) : ReplayTrajectoryParameter := ⟨Text.empty⟩

def fromJson : Json F → ReplayTrajectoryParameter → Except Thrown ReplayTrajectoryParameter :=
  readMember "traj_file_path" fun trajFilePath self => { self with trajFilePath := trajFilePath }

def toJson : ReplayTrajectoryParameter → Except Thrown (Json F) :=
  writeMember "traj_file_path" trajFilePath

def codec : Codec F ReplayTrajectoryParameter := ⟨construct, toJson, fromJson⟩

theorem roundTrips (value : ReplayTrajectoryParameter) :
    (codec : Codec F ReplayTrajectoryParameter).RoundTrips value :=
  member_roundTrips fun _ => rfl

end ReplayTrajectoryParameter

structure ZeroTorqueDragParameter where
  enable : Bool

namespace ZeroTorqueDragParameter

def construct (_ : ZeroTorqueDragParameter) : ZeroTorqueDragParameter := ⟨false⟩

def fromJson : Json F → ZeroTorqueDragParameter → Except Thrown ZeroTorqueDragParameter :=
  readMember "enable" fun enable self => { self with enable := enable }

def toJson : ZeroTorqueDragParameter → Except Thrown (Json F) := writeMember "enable" enable

def codec : Codec F ZeroTorqueDragParameter := ⟨construct, toJson, fromJson⟩

theorem roundTrips (value : ZeroTorqueDragParameter) :
    (codec : Codec F ZeroTorqueDragParameter).RoundTrips value :=
  member_roundTrips fun _ => rfl

end ZeroTorqueDragParameter

structure RecordTrajectoryParameter where
  enable : Bool

namespace RecordTrajectoryParameter

def construct (_ : RecordTrajectoryParameter) : RecordTrajectoryParameter := ⟨false⟩

def fromJson : Json F → RecordTrajectoryParameter → Except Thrown RecordTrajectoryParameter :=
  readMember "enable" fun enable self => { self with enable := enable }

def toJson : RecordTrajectoryParameter → Except Thrown (Json F) := writeMember "enable" enable

def codec : Codec F RecordTrajectoryParameter := ⟨construct, toJson, fromJson⟩

theorem roundTrips (value : RecordTrajectoryParameter) :
    (codec : Codec F RecordTrajectoryParameter).RoundTrips value :=
  member_roundTrips fun _ => rfl

end RecordTrajectoryParameter

structure WholeBodyDanceParameter where
  danceId : WholeBodyDanceId

namespace WholeBodyDanceParameter

def fromJson : Json F → WholeBodyDanceParameter → Except Thrown WholeBodyDanceParameter :=
  readMember "dance_id" fun danceId self => { self with danceId := danceId }

def toJson : WholeBodyDanceParameter → Except Thrown (Json F) := writeMember "dance_id" danceId

def codec : Codec F WholeBodyDanceParameter := ⟨id, toJson, fromJson⟩

theorem roundTrips (value : WholeBodyDanceParameter) :
    (codec : Codec F WholeBodyDanceParameter).RoundTrips value :=
  member_roundTrips fun _ => rfl

end WholeBodyDanceParameter

structure UpperBodyCustomControlParameter where
  start : Bool

namespace UpperBodyCustomControlParameter

def fromJson :
    Json F → UpperBodyCustomControlParameter →
      Except Thrown UpperBodyCustomControlParameter :=
  readMember "start" fun start self => { self with start := start }

def toJson : UpperBodyCustomControlParameter → Except Thrown (Json F) := writeMember "start" start

def codec : Codec F UpperBodyCustomControlParameter := ⟨id, toJson, fromJson⟩

theorem roundTrips (value : UpperBodyCustomControlParameter) :
    (codec : Codec F UpperBodyCustomControlParameter).RoundTrips value :=
  member_roundTrips fun _ => rfl

end UpperBodyCustomControlParameter

structure CustomModelParams (F : NumberFormat) where
  actionScale : List (Double F)
  kp : List (Double F)
  kd : List (Double F)

namespace CustomModelParams

def initial : CustomModelParams F := ⟨[], [], []⟩

def construct (_ : CustomModelParams F) : CustomModelParams F := initial

def fromJson (json : Json F) (self : CustomModelParams F) :
    Except Thrown (CustomModelParams F) := do
  let actionScale ←
    if json.contains "action_scale" then json.load "action_scale" else pure self.actionScale
  let kp ← if json.contains "kp" then json.load "kp" else pure self.kp
  let kd ← if json.contains "kd" then json.load "kd" else pure self.kd
  return ⟨actionScale, kp, kd⟩

def toJson (self : CustomModelParams F) : Except Thrown (Json F) := do
  let json ← Json.null.store "action_scale" self.actionScale
  let json ← json.store "kp" self.kp
  let json ← json.store "kd" self.kd
  return json

def codec : Codec F (CustomModelParams F) := ⟨construct, toJson, fromJson⟩

theorem roundTrips (value : CustomModelParams F) :
    (codec : Codec F (CustomModelParams F)).RoundTrips value := by
  refine ⟨_, rfl, fun memory => ?_⟩
  simp [codec, fromJson]

end CustomModelParams

structure CustomModel (F : NumberFormat) where
  filePath : Text
  params : List (CustomModelParams F)
  jointOrder : JointOrder

namespace CustomModel

def construct (_ : CustomModel F) : CustomModel F := ⟨Text.empty, [], .kMuJoCo⟩

def fromJson (json : Json F) (self : CustomModel F) : Except Thrown (CustomModel F) := do
  let filePath ← json.load "file_path"
  let params ←
    if json.contains "params" && (← json.index "params").isArray then
      (← json.index "params").readEach (CustomModelParams.fromJson · CustomModelParams.initial) []
    else pure []
  let jointOrder ← json.load "joint_order"
  return { self with filePath := filePath, params := params, jointOrder := jointOrder }

def toJson (self : CustomModel F) : Except Thrown (Json F) := do
  let json ← Json.null.store "file_path" self.filePath
  let json ← json.assign "params" (Json.array [])
  let json ← json.pushEach "params" CustomModelParams.toJson self.params
  let json ← json.store "joint_order" self.jointOrder
  return json

def codec : Codec F (CustomModel F) := ⟨construct, toJson, fromJson⟩

theorem roundTrips (value : CustomModel F) :
    (codec : Codec F (CustomModel F)).RoundTrips value := by
  have readsBack : ∀ params ∈ value.params, ReadsBack CustomModelParams.toJson
      (CustomModelParams.fromJson · CustomModelParams.initial) params :=
    fun params _ => params.roundTrips.imp fun _ both => ⟨both.1, both.2 params⟩
  have found : field "params" [("file_path", encode value.filePath), ("params", array [])] =
      some (array ([] : List (Json F))) := by simp
  obtain ⟨written, wrote, reads⟩ := pushEach_readsBack "params" value.params readsBack found
  simp [Codec.RoundTrips, codec, toJson, wrote, fromJson, isArray, reads]

end CustomModel

structure CustomTrainedTraj (F : NumberFormat) where
  trajFilePath : Text
  model : CustomModel F

namespace CustomTrainedTraj

def construct (memory : CustomTrainedTraj F) : CustomTrainedTraj F :=
  ⟨Text.empty, memory.model.construct⟩

def fromJson (json : Json F) (self : CustomTrainedTraj F) :
    Except Thrown (CustomTrainedTraj F) := do
  let trajFilePath ← json.load "traj_file_path"
  let model ← CustomModel.fromJson (← json.index "model") self.model
  return ⟨trajFilePath, model⟩

def toJson (self : CustomTrainedTraj F) : Except Thrown (Json F) := do
  let json ← Json.null.store "traj_file_path" self.trajFilePath
  let json ← json.assign "model" (← self.model.toJson)
  return json

def codec : Codec F (CustomTrainedTraj F) := ⟨construct, toJson, fromJson⟩

theorem roundTrips (value : CustomTrainedTraj F) :
    (codec : Codec F (CustomTrainedTraj F)).RoundTrips value := by
  obtain ⟨model, wrote, reads⟩ := value.model.roundTrips
  simp only [CustomModel.codec] at wrote reads
  simp [Codec.RoundTrips, codec, toJson, wrote, fromJson, construct, reads]

end CustomTrainedTraj

structure LoadCustomTrainedTrajResponse where
  tid : Text

namespace LoadCustomTrainedTrajResponse

def construct (_ : LoadCustomTrainedTrajResponse) : LoadCustomTrainedTrajResponse := ⟨Text.empty⟩

def fromJson :
    Json F → LoadCustomTrainedTrajResponse →
      Except Thrown LoadCustomTrainedTrajResponse :=
  readMember "tid" fun tid self => { self with tid := tid }

def toJson : LoadCustomTrainedTrajResponse → Except Thrown (Json F) := writeMember "tid" tid

def codec : Codec F LoadCustomTrainedTrajResponse := ⟨construct, toJson, fromJson⟩

theorem roundTrips (value : LoadCustomTrainedTrajResponse) :
    (codec : Codec F LoadCustomTrainedTrajResponse).RoundTrips value :=
  member_roundTrips fun _ => rfl

end LoadCustomTrainedTrajResponse

structure CustomTrainedTrajParameter where
  tid : Text

namespace CustomTrainedTrajParameter

def construct (_ : CustomTrainedTrajParameter) : CustomTrainedTrajParameter := ⟨Text.empty⟩

def fromJson : Json F → CustomTrainedTrajParameter → Except Thrown CustomTrainedTrajParameter :=
  readMember "tid" fun tid self => { self with tid := tid }

def toJson : CustomTrainedTrajParameter → Except Thrown (Json F) := writeMember "tid" tid

def codec : Codec F CustomTrainedTrajParameter := ⟨construct, toJson, fromJson⟩

theorem roundTrips (value : CustomTrainedTrajParameter) :
    (codec : Codec F CustomTrainedTrajParameter).RoundTrips value :=
  member_roundTrips fun _ => rfl

end CustomTrainedTrajParameter

structure GetTrainedTrajStatusResponse where
  status : TrainedTrajStatus
  trajId : Text

namespace GetTrainedTrajStatusResponse

def construct (_ : GetTrainedTrajStatusResponse) : GetTrainedTrajStatusResponse :=
  ⟨.kIdle, Text.empty⟩

def fromJson (json : Json F) (self : GetTrainedTrajStatusResponse) :
    Except Thrown GetTrainedTrajStatusResponse := do
  let status ← json.load "status"
  let trajId ← json.valueOr "traj_id" Text.empty
  return { self with status := status, trajId := trajId }

def toJson (self : GetTrainedTrajStatusResponse) : Except Thrown (Json F) := do
  let json ← Json.null.store "status" self.status
  let json ← json.store "traj_id" self.trajId
  return json

def codec : Codec F GetTrainedTrajStatusResponse := ⟨construct, toJson, fromJson⟩

theorem roundTrips (value : GetTrainedTrajStatusResponse) :
    (codec : Codec F GetTrainedTrajStatusResponse).RoundTrips value := by
  refine ⟨_, rfl, fun memory => ?_⟩
  simp [codec, fromJson]

end GetTrainedTrajStatusResponse

structure VisualKickParameter where
  start : Bool
  version : VisualKickVersion

namespace VisualKickParameter

def fromJson (json : Json F) (self : VisualKickParameter) : Except Thrown VisualKickParameter := do
  let start ← json.load "start"
  let version ← json.load "version"
  return { self with start := start, version := version }

def toJson (self : VisualKickParameter) : Except Thrown (Json F) := do
  let json ← Json.null.store "start" self.start
  let json ← json.store "version" self.version
  return json

def codec : Codec F VisualKickParameter := ⟨id, toJson, fromJson⟩

theorem roundTrips (value : VisualKickParameter) :
    (codec : Codec F VisualKickParameter).RoundTrips value := by
  refine ⟨_, rfl, fun memory => ?_⟩
  simp [codec, fromJson]

end VisualKickParameter

structure LionDancePrepareParameter where
  start : Bool

namespace LionDancePrepareParameter

def fromJson : Json F → LionDancePrepareParameter → Except Thrown LionDancePrepareParameter :=
  readMember "start" fun start self => { self with start := start }

def toJson : LionDancePrepareParameter → Except Thrown (Json F) := writeMember "start" start

def codec : Codec F LionDancePrepareParameter := ⟨id, toJson, fromJson⟩

theorem roundTrips (value : LionDancePrepareParameter) :
    (codec : Codec F LionDancePrepareParameter).RoundTrips value :=
  member_roundTrips fun _ => rfl

end LionDancePrepareParameter

structure LionDanceMoveParameter where
  start : Bool

namespace LionDanceMoveParameter

def fromJson : Json F → LionDanceMoveParameter → Except Thrown LionDanceMoveParameter :=
  readMember "start" fun start self => { self with start := start }

def toJson : LionDanceMoveParameter → Except Thrown (Json F) := writeMember "start" start

def codec : Codec F LionDanceMoveParameter := ⟨id, toJson, fromJson⟩

theorem roundTrips (value : LionDanceMoveParameter) :
    (codec : Codec F LionDanceMoveParameter).RoundTrips value :=
  member_roundTrips fun _ => rfl

end LionDanceMoveParameter

structure LionDanceStartParameter where
  danceIdx : Int32

namespace LionDanceStartParameter

def fromJson : Json F → LionDanceStartParameter → Except Thrown LionDanceStartParameter :=
  readMember "dance_idx" fun danceIdx self => { self with danceIdx := danceIdx }

def toJson : LionDanceStartParameter → Except Thrown (Json F) := writeMember "dance_idx" danceIdx

def codec : Codec F LionDanceStartParameter := ⟨id, toJson, fromJson⟩

theorem roundTrips (value : LionDanceStartParameter) :
    (codec : Codec F LionDanceStartParameter).RoundTrips value :=
  member_roundTrips fun _ => rfl

end LionDanceStartParameter

end B1

end Booster.Robot
