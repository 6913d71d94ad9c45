/-
This file models what the locomotion client sends and says that no two calls are sent
alike.

A method builds the parameter of its operation from its arguments, writes it as text and
gives the text to the transport with the number of the operation. The operations that
take nothing send an empty text, and resetting the odometry sends one when no target is
named. The text of a parameter with finite floats determines it, and the number of the
operation determines the class of the parameter.
-/

import BoosterSdk.WireText

namespace Booster.Robot.B1.B1LocoClient

open DecimalText (FloatText)
open Json (Double Single encode)
open Nlohmann (parse)
open Nlohmann.Serializer (dump dump_encoded dump_ne_empty parse_of_dump)

variable {F : NumberFormat}

/-! ### Operations -/

inductive LocoApiId where
  | kChangeMode
  | kMove
  | kRotateHead
  | kWaveHand
  | kRotateHeadWithDirection
  | kLieDown
  | kGetUp
  | kMoveHandEndEffector
  | kControlGripper
  | kGetFrameTransform
  | kSwitchHandEndEffectorControlMode
  | kControlDexterousHand
  | kHandshake
  | kDance
  | kGetMode
  | kGetStatus
  | kPlaySound
  | kStopSound
  | kGetRobotInfo
  | kStopHandEndEffector
  | kShoot
  | kGetUpWithMode
  | kZeroTorqueDrag
  | kRecordTrajectory
  | kReplayTrajectory
  | kWholeBodyDance
  | kUpperBodyCustomControl
  | kResetOdometry
  | kLoadCustomTrainedTraj
  | kActivateCustomTrainedTraj
  | kUnloadCustomTrainedTraj
  | kEnterWBCGait
  | kExitWBCGait
  | kMoveDualHandEndEffector
  | kVisualKick
  | kLionDancePrepare
  | kLionDanceStart
  | kLionDanceMove
  | kSwitchGait
  | kRotateHeadWithTime
  | kGetSensors
  | kGetHands
  | kGetRobotModel
  | kGetTrainedTrajStatus
  | kHandOnChestGreeting
  deriving DecidableEq

def LocoApiId.value : LocoApiId → Int32
  | kChangeMode => 2000
  | kMove => 2001
  | kRotateHead => 2004
  | kWaveHand => 2005
  | kRotateHeadWithDirection => 2006
  | kLieDown => 2007
  | kGetUp => 2008
  | kMoveHandEndEffector => 2009
  | kControlGripper => 2010
  | kGetFrameTransform => 2011
  | kSwitchHandEndEffectorControlMode => 2012
  | kControlDexterousHand => 2013
  | kHandshake => 2015
  | kDance => 2016
  | kGetMode => 2017
  | kGetStatus => 2018
  | kPlaySound => 2020
  | kStopSound => 2021
  | kGetRobotInfo => 2022
  | kStopHandEndEffector => 2023
  | kShoot => 2024
  | kGetUpWithMode => 2025
  | kZeroTorqueDrag => 2026
  | kRecordTrajectory => 2027
  | kReplayTrajectory => 2028
  | kWholeBodyDance => 2029
  | kUpperBodyCustomControl => 2030
  | kResetOdometry => 2031
  | kLoadCustomTrainedTraj => 2032
  | kActivateCustomTrainedTraj => 2033
  | kUnloadCustomTrainedTraj => 2034
  | kEnterWBCGait => 2035
  | kExitWBCGait => 2036
  | kMoveDualHandEndEffector => 2037
  | kVisualKick => 2038
  | kLionDancePrepare => 2039
  | kLionDanceStart => 2040
  | kLionDanceMove => 2041
  | kSwitchGait => 2042
  | kRotateHeadWithTime => 2043
  | kGetSensors => 2044
  | kGetHands => 2045
  | kGetRobotModel => 2046
  | kGetTrainedTrajStatus => 2047
  | kHandOnChestGreeting => 2050

/-- The functions of the transport that take a request. -/
inductive Sending where
  | sendApiRequest
  | sendApiRequestFireAndForget
  | sendApiRequestWithResponse
  deriving DecidableEq

/-- What the transport is given: the function that is called, the number of the operation and the
text of its parameter. -/
structure Sent where
  sending : Sending
  apiId : Int32
  param : Text

section Methods

variable (floats : FloatText F.Double)

/-- `parameter.ToJson().dump()`, given to the transport. -/
def sendParameter (sending : Sending) (apiId : LocoApiId) (parameter : Except Thrown (Json F)) :
    Except Thrown Sent := do
  let param ← dump floats (← parameter)
  return ⟨sending, apiId.value, param⟩

/-- A request without a parameter. -/
def sendEmpty (sending : Sending) (apiId : LocoApiId) : Except Thrown Sent :=
  return ⟨sending, apiId.value, Text.empty⟩

def changeMode (mode : RobotMode) : Except Thrown Sent :=
  sendParameter floats .sendApiRequest .kChangeMode (ChangeModeParameter.toJson ⟨mode⟩)

def getMode : Except Thrown Sent := sendEmpty .sendApiRequestWithResponse .kGetMode

def getStatus : Except Thrown Sent := sendEmpty .sendApiRequestWithResponse .kGetStatus

def getRobotInfo : Except Thrown Sent := sendEmpty .sendApiRequestWithResponse .kGetRobotInfo

def getSensors : Except Thrown Sent := sendEmpty .sendApiRequestWithResponse .kGetSensors

def getHands : Except Thrown Sent := sendEmpty .sendApiRequestWithResponse .kGetHands

def getRobotModel : Except Thrown Sent := sendEmpty .sendApiRequestWithResponse .kGetRobotModel

def move (vx vy vyaw : Single F) : Except Thrown Sent :=
  sendParameter floats .sendApiRequest .kMove (MoveParameter.toJson ⟨vx, vy, vyaw⟩)

def moveCommand (vx vy vyaw : Single F) : Except Thrown Sent :=
  sendParameter floats .sendApiRequestFireAndForget .kMove (MoveParameter.toJson ⟨vx, vy, vyaw⟩)

def rotateHead (pitch yaw : Single F) : Except Thrown Sent :=
  sendParameter floats .sendApiRequest .kRotateHead (RotateHeadParameter.toJson ⟨pitch, yaw⟩)

def rotateHeadWithTime (pitch yaw : Single F) (timeMillis : Int32) : Except Thrown Sent :=
  sendParameter floats .sendApiRequest .kRotateHeadWithTime
    (RotateHeadWithTimeParameter.toJson ⟨pitch, yaw, timeMillis⟩)

def waveHand (action : HandAction) : Except Thrown Sent :=
  sendParameter floats .sendApiRequest .kWaveHand (WaveHandParameter.toJson ⟨.kRightHand, action⟩)

def rotateHeadWithDirection (pitchDirection yawDirection : Int32) : Except Thrown Sent :=
  sendParameter floats .sendApiRequest .kRotateHeadWithDirection
    (RotateHeadWithDirectionParameter.toJson ⟨pitchDirection, yawDirection⟩)

def lieDown : Except Thrown Sent := sendEmpty .sendApiRequest .kLieDown

def getUp (version : GetUpVersion) : Except Thrown Sent :=
  sendParameter floats .sendApiRequest .kGetUp (GetUpParameter.toJson ⟨version⟩)

def getUpWithMode (mode : RobotMode) (version : GetUpVersion) : Except Thrown Sent :=
  sendParameter floats .sendApiRequest .kGetUpWithMode
    (GetUpWithModeParameter.toJson ⟨mode, version⟩)

def shoot : Except Thrown Sent := sendEmpty .sendApiRequest .kShoot

def moveHandEndEffectorWithAux (targetPosture auxPosture : Posture F) (timeMillis : Int32)
    (handIndex : HandIndex) : Except Thrown Sent :=
  sendParameter floats .sendApiRequest .kMoveHandEndEffector
    (MoveHandEndEffectorParameter.toJson
      ⟨targetPosture, auxPosture, timeMillis, handIndex, true, false⟩)

def moveHandEndEffector (targetPosture : Posture F) (timeMillis : Int32) (handIndex : HandIndex) :
    Except Thrown Sent :=
  sendParameter floats .sendApiRequest .kMoveHandEndEffector
    (MoveHandEndEffectorParameter.toJson
      ⟨targetPosture, Posture.initial, timeMillis, handIndex, false, false⟩)

def moveHandEndEffectorV2 (targetPosture : Posture F) (timeMillis : Int32) (handIndex : HandIndex) :
    Except Thrown Sent :=
  sendParameter floats .sendApiRequest .kMoveHandEndEffector
    (MoveHandEndEffectorParameter.toJson
      ⟨targetPosture, Posture.initial, timeMillis, handIndex, false, true⟩)

def moveDualHandEndEffector (leftTargetPosture rightTargetPosture : Posture F)
    (timeMillis : Int32) : Except Thrown Sent :=
  sendParameter floats .sendApiRequest .kMoveDualHandEndEffector
    (MoveDualHandEndEffectorParameter.toJson ⟨leftTargetPosture, rightTargetPosture, timeMillis⟩)

def stopHandEndEffector : Except Thrown Sent := sendEmpty .sendApiRequest .kStopHandEndEffector

def controlGripper (motionParam : GripperMotionParameter) (mode : GripperControlMode)
    (handIndex : HandIndex) : Except Thrown Sent :=
  sendParameter floats .sendApiRequest .kControlGripper
    (ControlGripperParameter.toJson ⟨motionParam, mode, handIndex⟩)

def getFrameTransform (src dst : Frame) : Except Thrown Sent :=
  sendParameter floats .sendApiRequestWithResponse .kGetFrameTransform
    (GetFrameTransformParameter.toJson ⟨src, dst⟩)

def switchHandEndEffectorControlMode (switchOn : Bool) : Except Thrown Sent :=
  sendParameter floats .sendApiRequest .kSwitchHandEndEffectorControlMode
    (SwitchHandEndEffectorControlModeParameter.toJson ⟨switchOn⟩)

def handshake (action : HandAction) : Except Thrown Sent :=
  sendParameter floats .sendApiRequest .kHandshake (HandshakeParameter.toJson ⟨action⟩)

def handOnChestGreeting (up : Bool) : Except Thrown Sent :=
  sendParameter floats .sendApiRequest .kHandOnChestGreeting
    (HandOnChestGreetingParameter.toJson ⟨up⟩)

def controlDexterousHand (fingerParams : List DexterousFingerParameter) (handIndex : HandIndex)
    (handType : BoosterHandType) : Except Thrown Sent :=
  sendParameter floats .sendApiRequest .kControlDexterousHand
    (ControlDexterousHandParameter.toJson ⟨fingerParams, handIndex, handType⟩)

def dance (danceId : DanceId) : Except Thrown Sent :=
  sendParameter floats .sendApiRequest .kDance (DanceParameter.toJson ⟨danceId⟩)

def playSound (soundFilePath : Text) : Except Thrown Sent :=
  sendParameter floats .sendApiRequest .kPlaySound (PlaySoundParameter.toJson ⟨soundFilePath⟩)

def stopSound : Except Thrown Sent := sendEmpty .sendApiRequest .kStopSound

def zeroTorqueDrag (active : Bool) : Except Thrown Sent :=
  sendParameter floats .sendApiRequest .kZeroTorqueDrag (ZeroTorqueDragParameter.toJson ⟨active⟩)

def recordTrajectory (active : Bool) : Except Thrown Sent :=
  sendParameter floats .sendApiRequest .kRecordTrajectory
    (RecordTrajectoryParameter.toJson ⟨active⟩)

def replayTrajectory (path : Text) : Except Thrown Sent :=
  sendParameter floats .sendApiRequest .kReplayTrajectory (ReplayTrajectoryParameter.toJson ⟨path⟩)

def wholeBodyDance (danceId : WholeBodyDanceId) : Except Thrown Sent :=
  sendParameter floats .sendApiRequest .kWholeBodyDance (WholeBodyDanceParameter.toJson ⟨danceId⟩)

def upperBodyCustomControl (start : Bool) : Except Thrown Sent :=
  sendParameter floats .sendApiRequest .kUpperBodyCustomControl
    (UpperBodyCustomControlParameter.toJson ⟨start⟩)

def resetOdometry : Except Thrown Sent := sendEmpty .sendApiRequest .kResetOdometry

/-- The parameter of `ResetOdometryTo`. -/
def odometryJson (x y theta : Double F) : Json F :=
  .object [("x", encode x), ("y", encode y), ("theta", encode theta)]

def resetOdometryTo (x y theta : Double F) : Except Thrown Sent :=
  sendParameter floats .sendApiRequest .kResetOdometry (.ok (odometryJson x y theta))

def loadCustomTrainedTraj (traj : CustomTrainedTraj F) : Except Thrown Sent :=
  sendParameter floats .sendApiRequestWithResponse .kLoadCustomTrainedTraj traj.toJson

def activateCustomTrainedTraj (tid : Text) : Except Thrown Sent :=
  sendParameter floats .sendApiRequest .kActivateCustomTrainedTraj
    (CustomTrainedTrajParameter.toJson ⟨tid⟩)

def unloadCustomTrainedTraj (tid : Text) : Except Thrown Sent :=
  sendParameter floats .sendApiRequest .kUnloadCustomTrainedTraj
    (CustomTrainedTrajParameter.toJson ⟨tid⟩)

def getTrainedTrajStatus : Except Thrown Sent :=
  sendEmpty .sendApiRequestWithResponse .kGetTrainedTrajStatus

def enterWBCGait : Except Thrown Sent := sendEmpty .sendApiRequest .kEnterWBCGait

def exitWBCGait : Except Thrown Sent := sendEmpty .sendApiRequest .kExitWBCGait

def visualKick (start : Bool) (version : VisualKickVersion) : Except Thrown Sent :=
  sendParameter floats .sendApiRequest .kVisualKick (VisualKickParameter.toJson ⟨start, version⟩)

def lionDancePrepare (start : Bool) : Except Thrown Sent :=
  sendParameter floats .sendApiRequest .kLionDancePrepare (LionDancePrepareParameter.toJson ⟨start⟩)

def lionDanceStart (danceId : Int32) : Except Thrown Sent :=
  sendParameter floats .sendApiRequest .kLionDanceStart (LionDanceStartParameter.toJson ⟨danceId⟩)

def lionDanceMove (start : Bool) : Except Thrown Sent :=
  sendParameter floats .sendApiRequest .kLionDanceMove (LionDanceMoveParameter.toJson ⟨start⟩)

def switchGait (gaitType : GaitType) : Except Thrown Sent :=
  sendParameter floats .sendApiRequest .kSwitchGait (SwitchGaitParameter.toJson ⟨gaitType⟩)

end Methods

/-! ### Calls -/

/-- A call of a method. -/
inductive LocoCall (F : NumberFormat) where
  | changeMode (mode : RobotMode)
  | getMode
  | getStatus
  | getRobotInfo
  | getSensors
  | getHands
  | getRobotModel
  | move (vx vy vyaw : Single F)
  | moveCommand (vx vy vyaw : Single F)
  | rotateHead (pitch yaw : Single F)
  | rotateHeadWithTime (pitch yaw : Single F) (timeMillis : Int32)
  | waveHand (action : HandAction)
  | rotateHeadWithDirection (pitchDirection yawDirection : Int32)
  | lieDown
  | getUp (version : GetUpVersion)
  | getUpWithMode (mode : RobotMode) (version : GetUpVersion)
  | shoot
  | moveHandEndEffectorWithAux (targetPosture auxPosture : Posture F) (timeMillis : Int32)
      (handIndex : HandIndex)
  | moveHandEndEffector (targetPosture : Posture F) (timeMillis : Int32) (handIndex : HandIndex)
  | moveHandEndEffectorV2 (targetPosture : Posture F) (timeMillis : Int32) (handIndex : HandIndex)
  | moveDualHandEndEffector (leftTargetPosture rightTargetPosture : Posture F) (timeMillis : Int32)
  | stopHandEndEffector
  | controlGripper (motionParam : GripperMotionParameter) (mode : GripperControlMode)
      (handIndex : HandIndex)
  | getFrameTransform (src dst : Frame)
  | switchHandEndEffectorControlMode (switchOn : Bool)
  | handshake (action : HandAction)
  | handOnChestGreeting (up : Bool)
  | controlDexterousHand (fingerParams : List DexterousFingerParameter) (handIndex : HandIndex)
      (handType : BoosterHandType)
  | dance (danceId : DanceId)
  | playSound (soundFilePath : Text)
  | stopSound
  | zeroTorqueDrag (active : Bool)
  | recordTrajectory (active : Bool)
  | replayTrajectory (path : Text)
  | wholeBodyDance (danceId : WholeBodyDanceId)
  | upperBodyCustomControl (start : Bool)
  | resetOdometry
  | resetOdometryTo (x y theta : Double F)
  | loadCustomTrainedTraj (traj : CustomTrainedTraj F)
  | activateCustomTrainedTraj (tid : Text)
  | unloadCustomTrainedTraj (tid : Text)
  | getTrainedTrajStatus
  | enterWBCGait
  | exitWBCGait
  | visualKick (start : Bool) (version : VisualKickVersion)
  | lionDancePrepare (start : Bool)
  | lionDanceStart (danceId : Int32)
  | lionDanceMove (start : Bool)
  | switchGait (gaitType : GaitType)

def LocoCall.perform (floats : FloatText F.Double) : LocoCall F → Except Thrown Sent
  | .changeMode mode => B1LocoClient.changeMode floats mode
  | .getMode => B1LocoClient.getMode
  | .getStatus => B1LocoClient.getStatus
  | .getRobotInfo => B1LocoClient.getRobotInfo
  | .getSensors => B1LocoClient.getSensors
  | .getHands => B1LocoClient.getHands
  | .getRobotModel => B1LocoClient.getRobotModel
  | .move vx vy vyaw => B1LocoClient.move floats vx vy vyaw
  | .moveCommand vx vy vyaw => B1LocoClient.moveCommand floats vx vy vyaw
  | .rotateHead pitch yaw => B1LocoClient.rotateHead floats pitch yaw
  | .rotateHeadWithTime pitch yaw timeMillis =>
    B1LocoClient.rotateHeadWithTime floats pitch yaw timeMillis
  | .waveHand action => B1LocoClient.waveHand floats action
  | .rotateHeadWithDirection pitchDirection yawDirection =>
    B1LocoClient.rotateHeadWithDirection floats pitchDirection yawDirection
  | .lieDown => B1LocoClient.lieDown
  | .getUp version => B1LocoClient.getUp floats version
  | .getUpWithMode mode version => B1LocoClient.getUpWithMode floats mode version
  | .shoot => B1LocoClient.shoot
  | .moveHandEndEffectorWithAux targetPosture auxPosture timeMillis handIndex =>
    B1LocoClient.moveHandEndEffectorWithAux floats targetPosture auxPosture timeMillis handIndex
  | .moveHandEndEffector targetPosture timeMillis handIndex =>
    B1LocoClient.moveHandEndEffector floats targetPosture timeMillis handIndex
  | .moveHandEndEffectorV2 targetPosture timeMillis handIndex =>
    B1LocoClient.moveHandEndEffectorV2 floats targetPosture timeMillis handIndex
  | .moveDualHandEndEffector leftTargetPosture rightTargetPosture timeMillis =>
    B1LocoClient.moveDualHandEndEffector floats leftTargetPosture rightTargetPosture timeMillis
  | .stopHandEndEffector => B1LocoClient.stopHandEndEffector
  | .controlGripper motionParam mode handIndex =>
    B1LocoClient.controlGripper floats motionParam mode handIndex
  | .getFrameTransform src dst => B1LocoClient.getFrameTransform floats src dst
  | .switchHandEndEffectorControlMode switchOn =>
    B1LocoClient.switchHandEndEffectorControlMode floats switchOn
  | .handshake action => B1LocoClient.handshake floats action
  | .handOnChestGreeting up => B1LocoClient.handOnChestGreeting floats up
  | .controlDexterousHand fingerParams handIndex handType =>
    B1LocoClient.controlDexterousHand floats fingerParams handIndex handType
  | .dance danceId => B1LocoClient.dance floats danceId
  | .playSound soundFilePath => B1LocoClient.playSound floats soundFilePath
  | .stopSound => B1LocoClient.stopSound
  | .zeroTorqueDrag active => B1LocoClient.zeroTorqueDrag floats active
  | .recordTrajectory active => B1LocoClient.recordTrajectory floats active
  | .replayTrajectory path => B1LocoClient.replayTrajectory floats path
  | .wholeBodyDance danceId => B1LocoClient.wholeBodyDance floats danceId
  | .upperBodyCustomControl start => B1LocoClient.upperBodyCustomControl floats start
  | .resetOdometry => B1LocoClient.resetOdometry
  | .resetOdometryTo x y theta => B1LocoClient.resetOdometryTo floats x y theta
  | .loadCustomTrainedTraj traj => B1LocoClient.loadCustomTrainedTraj floats traj
  | .activateCustomTrainedTraj tid => B1LocoClient.activateCustomTrainedTraj floats tid
  | .unloadCustomTrainedTraj tid => B1LocoClient.unloadCustomTrainedTraj floats tid
  | .getTrainedTrajStatus => B1LocoClient.getTrainedTrajStatus
  | .enterWBCGait => B1LocoClient.enterWBCGait
  | .exitWBCGait => B1LocoClient.exitWBCGait
  | .visualKick start version => B1LocoClient.visualKick floats start version
  | .lionDancePrepare start => B1LocoClient.lionDancePrepare floats start
  | .lionDanceStart danceId => B1LocoClient.lionDanceStart floats danceId
  | .lionDanceMove start => B1LocoClient.lionDanceMove floats start
  | .switchGait gaitType => B1LocoClient.switchGait floats gaitType

/-- What the text of a parameter is made of. -/
inductive Payload (F : NumberFormat) where
  | nothing
  | object (wireClass : WireClass) (value : WireClass.Object F wireClass)
  | odometry (x y theta : Double F)

/-- What is sent by a call, before it is text. -/
structure Message (F : NumberFormat) where
  sending : Sending
  apiId : LocoApiId
  payload : Payload F

def LocoCall.message : LocoCall F → Message F
  | .changeMode mode => ⟨.sendApiRequest, .kChangeMode, .object .changeModeParameter ⟨mode⟩⟩
  | .getMode => ⟨.sendApiRequestWithResponse, .kGetMode, .nothing⟩
  | .getStatus => ⟨.sendApiRequestWithResponse, .kGetStatus, .nothing⟩
  | .getRobotInfo => ⟨.sendApiRequestWithResponse, .kGetRobotInfo, .nothing⟩
  | .getSensors => ⟨.sendApiRequestWithResponse, .kGetSensors, .nothing⟩
  | .getHands => ⟨.sendApiRequestWithResponse, .kGetHands, .nothing⟩
  | .getRobotModel => ⟨.sendApiRequestWithResponse, .kGetRobotModel, .nothing⟩
  | .move vx vy vyaw => ⟨.sendApiRequest, .kMove, .object .moveParameter ⟨vx, vy, vyaw⟩⟩
  | .moveCommand vx vy vyaw =>
    ⟨.sendApiRequestFireAndForget, .kMove, .object .moveParameter ⟨vx, vy, vyaw⟩⟩
  | .rotateHead pitch yaw =>
    ⟨.sendApiRequest, .kRotateHead, .object .rotateHeadParameter ⟨pitch, yaw⟩⟩
  | .rotateHeadWithTime pitch yaw timeMillis =>
    ⟨.sendApiRequest, .kRotateHeadWithTime,
      .object .rotateHeadWithTimeParameter ⟨pitch, yaw, timeMillis⟩⟩
  | .waveHand action =>
    ⟨.sendApiRequest, .kWaveHand, .object .waveHandParameter ⟨.kRightHand, action⟩⟩
  | .rotateHeadWithDirection pitchDirection yawDirection =>
    ⟨.sendApiRequest, .kRotateHeadWithDirection,
      .object .rotateHeadWithDirectionParameter ⟨pitchDirection, yawDirection⟩⟩
  | .lieDown => ⟨.sendApiRequest, .kLieDown, .nothing⟩
  | .getUp version => ⟨.sendApiRequest, .kGetUp, .object .getUpParameter ⟨version⟩⟩
  | .getUpWithMode mode version =>
    ⟨.sendApiRequest, .kGetUpWithMode, .object .getUpWithModeParameter ⟨mode, version⟩⟩
  | .shoot => ⟨.sendApiRequest, .kShoot, .nothing⟩
  | .moveHandEndEffectorWithAux targetPosture auxPosture timeMillis handIndex =>
    ⟨.sendApiRequest, .kMoveHandEndEffector,
      .object .moveHandEndEffectorParameter
        ⟨targetPosture, auxPosture, timeMillis, handIndex, true, false⟩⟩
  | .moveHandEndEffector targetPosture timeMillis handIndex =>
    ⟨.sendApiRequest, .kMoveHandEndEffector,
      .object .moveHandEndEffectorParameter
        ⟨targetPosture, Posture.initial, timeMillis, handIndex, false, false⟩⟩
  | .moveHandEndEffectorV2 targetPosture timeMillis handIndex =>
    ⟨.sendApiRequest, .kMoveHandEndEffector,
      .object .moveHandEndEffectorParameter
        ⟨targetPosture, Posture.initial, timeMillis, handIndex, false, true⟩⟩
  | .moveDualHandEndEffector leftTargetPosture rightTargetPosture timeMillis =>
    ⟨.sendApiRequest, .kMoveDualHandEndEffector,
      .object .moveDualHandEndEffectorParameter ⟨leftTargetPosture, rightTargetPosture, timeMillis⟩⟩
  | .stopHandEndEffector => ⟨.sendApiRequest, .kStopHandEndEffector, .nothing⟩
  | .controlGripper motionParam mode handIndex =>
    ⟨.sendApiRequest, .kControlGripper,
      .object .controlGripperParameter ⟨motionParam, mode, handIndex⟩⟩
  | .getFrameTransform src dst =>
    ⟨.sendApiRequestWithResponse, .kGetFrameTransform,
      .object .getFrameTransformParameter ⟨src, dst⟩⟩
  | .switchHandEndEffectorControlMode switchOn =>
    ⟨.sendApiRequest, .kSwitchHandEndEffectorControlMode,
      .object .switchHandEndEffectorControlModeParameter ⟨switchOn⟩⟩
  | .handshake action => ⟨.sendApiRequest, .kHandshake, .object .handshakeParameter ⟨action⟩⟩
  | .handOnChestGreeting up =>
    ⟨.sendApiRequest, .kHandOnChestGreeting, .object .handOnChestGreetingParameter ⟨up⟩⟩
  | .controlDexterousHand fingerParams handIndex handType =>
    ⟨.sendApiRequest, .kControlDexterousHand,
      .object .controlDexterousHandParameter ⟨fingerParams, handIndex, handType⟩⟩
  | .dance danceId => ⟨.sendApiRequest, .kDance, .object .danceParameter ⟨danceId⟩⟩
  | .playSound soundFilePath =>
    ⟨.sendApiRequest, .kPlaySound, .object .playSoundParameter ⟨soundFilePath⟩⟩
  | .stopSound => ⟨.sendApiRequest, .kStopSound, .nothing⟩
  | .zeroTorqueDrag active =>
    ⟨.sendApiRequest, .kZeroTorqueDrag, .object .zeroTorqueDragParameter ⟨active⟩⟩
  | .recordTrajectory active =>
    ⟨.sendApiRequest, .kRecordTrajectory, .object .recordTrajectoryParameter ⟨active⟩⟩
  | .replayTrajectory path =>
    ⟨.sendApiRequest, .kReplayTrajectory, .object .replayTrajectoryParameter ⟨path⟩⟩
  | .wholeBodyDance danceId =>
    ⟨.sendApiRequest, .kWholeBodyDance, .object .wholeBodyDanceParameter ⟨danceId⟩⟩
  | .upperBodyCustomControl start =>
    ⟨.sendApiRequest, .kUpperBodyCustomControl, .object .upperBodyCustomControlParameter ⟨start⟩⟩
  | .resetOdometry => ⟨.sendApiRequest, .kResetOdometry, .nothing⟩
  | .resetOdometryTo x y theta => ⟨.sendApiRequest, .kResetOdometry, .odometry x y theta⟩
  | .loadCustomTrainedTraj traj =>
    ⟨.sendApiRequestWithResponse, .kLoadCustomTrainedTraj, .object .customTrainedTraj traj⟩
  | .activateCustomTrainedTraj tid =>
    ⟨.sendApiRequest, .kActivateCustomTrainedTraj, .object .customTrainedTrajParameter ⟨tid⟩⟩
  | .unloadCustomTrainedTraj tid =>
    ⟨.sendApiRequest, .kUnloadCustomTrainedTraj, .object .customTrainedTrajParameter ⟨tid⟩⟩
  | .getTrainedTrajStatus => ⟨.sendApiRequestWithResponse, .kGetTrainedTrajStatus, .nothing⟩
  | .enterWBCGait => ⟨.sendApiRequest, .kEnterWBCGait, .nothing⟩
  | .exitWBCGait => ⟨.sendApiRequest, .kExitWBCGait, .nothing⟩
  | .visualKick start version =>
    ⟨.sendApiRequest, .kVisualKick, .object .visualKickParameter ⟨start, version⟩⟩
  | .lionDancePrepare start =>
    ⟨.sendApiRequest, .kLionDancePrepare, .object .lionDancePrepareParameter ⟨start⟩⟩
  | .lionDanceStart danceId =>
    ⟨.sendApiRequest, .kLionDanceStart, .object .lionDanceStartParameter ⟨danceId⟩⟩
  | .lionDanceMove start =>
    ⟨.sendApiRequest, .kLionDanceMove, .object .lionDanceMoveParameter ⟨start⟩⟩
  | .switchGait gaitType => ⟨.sendApiRequest, .kSwitchGait, .object .switchGaitParameter ⟨gaitType⟩⟩

/-- The class of the parameter of an operation. -/
def LocoApiId.parameterClass : LocoApiId → Option WireClass
  | .kChangeMode => some .changeModeParameter
  | .kMove => some .moveParameter
  | .kRotateHead => some .rotateHeadParameter
  | .kRotateHeadWithTime => some .rotateHeadWithTimeParameter
  | .kWaveHand => some .waveHandParameter
  | .kRotateHeadWithDirection => some .rotateHeadWithDirectionParameter
  | .kGetUp => some .getUpParameter
  | .kGetUpWithMode => some .getUpWithModeParameter
  | .kMoveHandEndEffector => some .moveHandEndEffectorParameter
  | .kMoveDualHandEndEffector => some .moveDualHandEndEffectorParameter
  | .kControlGripper => some .controlGripperParameter
  | .kGetFrameTransform => some .getFrameTransformParameter
  | .kSwitchHandEndEffectorControlMode => some .switchHandEndEffectorControlModeParameter
  | .kHandshake => some .handshakeParameter
  | .kHandOnChestGreeting => some .handOnChestGreetingParameter
  | .kControlDexterousHand => some .controlDexterousHandParameter
  | .kDance => some .danceParameter
  | .kPlaySound => some .playSoundParameter
  | .kZeroTorqueDrag => some .zeroTorqueDragParameter
  | .kRecordTrajectory => some .recordTrajectoryParameter
  | .kReplayTrajectory => some .replayTrajectoryParameter
  | .kWholeBodyDance => some .wholeBodyDanceParameter
  | .kUpperBodyCustomControl => some .upperBodyCustomControlParameter
  | .kLoadCustomTrainedTraj => some .customTrainedTraj
  | .kActivateCustomTrainedTraj => some .customTrainedTrajParameter
  | .kUnloadCustomTrainedTraj => some .customTrainedTrajParameter
  | .kVisualKick => some .visualKickParameter
  | .kLionDancePrepare => some .lionDancePrepareParameter
  | .kLionDanceStart => some .lionDanceStartParameter
  | .kLionDanceMove => some .lionDanceMoveParameter
  | .kSwitchGait => some .switchGaitParameter
  | _ => none

/-! ### Texts of calls -/

/-- The JSON of a parameter, if there is a parameter. -/
def Payload.toJson : Payload F → Except Thrown (Option (Json F))
  | nothing => .ok none
  | object wireClass value => some <$> (WireClass.codec wireClass).toJson value
  | odometry x y theta => .ok (some (odometryJson x y theta))

section Texts

variable (floats : FloatText F.Double)

def Payload.text (payload : Payload F) : Except Thrown Text := do
  match ← payload.toJson with
  | none => return Text.empty
  | some json => dump floats json

def Message.sent (message : Message F) : Except Thrown Sent :=
  (message.payload.text floats).map fun param => ⟨message.sending, message.apiId.value, param⟩

theorem sendParameter_eq (sending : Sending) (apiId : LocoApiId)
    (parameter : Except Thrown (Json F)) :
    sendParameter floats sending apiId parameter =
      (parameter >>= dump floats).map fun param => ⟨sending, apiId.value, param⟩ := by
  cases parameter with
  | error thrown => rfl
  | ok json =>
    unfold sendParameter
    rw [Json.ok_bind, Json.ok_bind]
    cases dump floats json with
    | error thrown => rfl
    | ok text => rfl

theorem text_object (wireClass : WireClass) (value : WireClass.Object F wireClass) :
    (Payload.object wireClass value).text floats =
      ((WireClass.codec wireClass).toJson value >>= dump floats) := by
  show (some <$> (WireClass.codec wireClass).toJson value >>= _) = _
  cases (WireClass.codec wireClass).toJson value with
  | error thrown => rfl
  | ok json => rfl

/-- What a method sends is the message of the call. -/
theorem perform_eq (call : LocoCall F) : call.perform floats = call.message.sent floats := by
  have message (sending : Sending) (apiId : LocoApiId) (payload : Payload F) :
      (match payload with
        | .nothing => sendEmpty sending apiId
        | .object wireClass value =>
          sendParameter floats sending apiId ((WireClass.codec wireClass).toJson value)
        | .odometry x y theta =>
          sendParameter floats sending apiId (.ok (odometryJson x y theta))) =
        Message.sent floats ⟨sending, apiId, payload⟩ := by
    cases payload with
    | nothing => rfl
    | object wireClass value =>
      exact (sendParameter_eq floats _ _ _).trans (congrArg _ (text_object floats _ _).symm)
    | odometry x y theta => exact sendParameter_eq floats _ _ _
  refine Eq.trans ?_ (message call.message.sending call.message.apiId call.message.payload)
  cases call <;> rfl

end Texts

/-! ### What a text says -/

/-- Operations have numbers of their own. -/
theorem value_injective (first second : LocoApiId) (same : first.value = second.value) :
    first = second := by
  have each : ∀ i : Fin 45, ∀ j : Fin 45,
      (LocoApiId.ofNat i).value = (LocoApiId.ofNat j).value → i = j := by
    decide +kernel
  have bound (apiId : LocoApiId) : apiId.ctorIdx < 45 := by cases apiId <;> decide
  have equal := each ⟨first.ctorIdx, bound first⟩ ⟨second.ctorIdx, bound second⟩
  rw [LocoApiId.ofNat_ctorIdx, LocoApiId.ofNat_ctorIdx] at equal
  have index : first.ctorIdx = second.ctorIdx := congrArg Fin.val (equal same)
  rw [← LocoApiId.ofNat_ctorIdx first, index, LocoApiId.ofNat_ctorIdx]

/-- The parameter of an operation is of its class. -/
def Payload.Fits (apiId : LocoApiId) : Payload F → Prop
  | nothing => apiId.parameterClass = none
  | object wireClass value =>
    apiId.parameterClass = some wireClass ∧ WireClass.Visible wireClass value
  | odometry _ _ _ => apiId.parameterClass = none

theorem message_fits (call : LocoCall F) : call.message.payload.Fits call.message.apiId := by
  cases call with
  | moveHandEndEffectorWithAux => exact ⟨rfl, fun hidden => nomatch hidden⟩
  | moveHandEndEffector | moveHandEndEffectorV2 => exact ⟨rfl, fun _ => rfl⟩
  | resetOdometryTo => rfl
  | getMode | getStatus | getRobotInfo | getSensors | getHands | getRobotModel | lieDown | shoot
  | stopHandEndEffector | stopSound | resetOdometry | getTrainedTrajStatus | enterWBCGait
  | exitWBCGait => rfl
  | _ => exact ⟨rfl, trivial⟩

section Injective

variable (floats : FloatText F.Double)

/-- All floats of a parameter are finite. -/
def Payload.Finite (payload : Payload F) : Prop :=
  ∀ json, payload.toJson = .ok (some json) → Robot.Finite floats json

/-- The text of a value with finite floats says what its form is. -/
theorem canonical_of_dump {first second : Json F} {text : Text}
    (firstFinite : Robot.Finite floats first) (secondFinite : Robot.Finite floats second)
    (firstText : dump floats first = .ok text) (secondText : dump floats second = .ok text) :
    first.canonical = second.canonical := by
  have reads {json : Json F} (finite : Robot.Finite floats json)
      (dumped : dump floats json = .ok text) : parse floats text = .ok json.canonical := by
    rw [← reread_stored floats json finite]
    exact parse_of_dump floats dumped
  exact Except.ok.inj ((reads firstFinite firstText).symm.trans (reads secondFinite secondText))

theorem load_odometry (x y theta : Double F) :
    (odometryJson x y theta).canonical.load "x" = .ok x ∧
      (odometryJson x y theta).canonical.load "y" = .ok y ∧
        (odometryJson x y theta).canonical.load "theta" = .ok theta := by
  simp only [Json.load_canonical]
  exact ⟨rfl, rfl, rfl⟩

/-- Two parameters of one operation that are sent as one text are one parameter. -/
theorem payload_injective {apiId : LocoApiId} {first second : Payload F} {text : Text}
    (firstFits : first.Fits apiId) (secondFits : second.Fits apiId)
    (firstFinite : first.Finite floats) (secondFinite : second.Finite floats)
    (firstText : first.text floats = .ok text) (secondText : second.text floats = .ok text) :
    first = second := by
  cases first with
  | nothing =>
    cases firstText
    cases second with
    | nothing => rfl
    | object wireClass value => cases firstFits.symm.trans secondFits.1
    | odometry x y theta => exact absurd secondText (dump_ne_empty floats _)
  | object wireClass value =>
    obtain ⟨firstClass, firstVisible⟩ := firstFits
    cases second with
    | nothing => cases firstClass.symm.trans secondFits
    | object other received =>
      obtain ⟨secondClass, secondVisible⟩ := secondFits
      cases firstClass.symm.trans secondClass
      obtain ⟨json, wrote, reads⟩ :=
        WireClass.survives_canonical (F := F) wireClass value firstVisible
      obtain ⟨again, wroteAgain, readsAgain⟩ :=
        WireClass.survives_canonical (F := F) wireClass received secondVisible
      rw [text_object, wrote] at firstText
      rw [text_object, wroteAgain] at secondText
      have same : json.canonical = again.canonical :=
        canonical_of_dump floats (firstFinite json (by rw [Payload.toJson, wrote]; rfl))
          (secondFinite again (by rw [Payload.toJson, wroteAgain]; rfl)) firstText secondText
      have read := reads value
      rw [same, readsAgain value] at read
      exact congrArg (Payload.object wireClass) (Except.ok.inj read).symm
    | odometry x y theta => cases firstClass.symm.trans secondFits
  | odometry x y theta =>
    cases second with
    | nothing =>
      cases secondText
      exact absurd firstText (dump_ne_empty floats _)
    | object wireClass value => cases firstFits.symm.trans secondFits.1
    | odometry otherX otherY otherTheta =>
      have same : (odometryJson x y theta).canonical =
          (odometryJson otherX otherY otherTheta).canonical :=
        canonical_of_dump floats (firstFinite _ rfl) (secondFinite _ rfl) firstText secondText
      obtain ⟨readX, readY, readTheta⟩ := load_odometry x y theta
      obtain ⟨otherReadX, otherReadY, otherReadTheta⟩ := load_odometry otherX otherY otherTheta
      rw [same] at readX readY readTheta
      cases readX.symm.trans otherReadX
      cases readY.symm.trans otherReadY
      cases readTheta.symm.trans otherReadTheta
      rfl

end Injective

/-! ### Calls are told apart -/

deriving instance DecidableEq for WireClass

/-- The parameter as an object of a class. -/
def Payload.as (wireClass : WireClass) : Payload F → Option (WireClass.Object F wireClass)
  | object other value => if same : other = wireClass then some (same ▸ value) else none
  | _ => none

open WireClass in
/-- The call that a message is of. -/
def LocoCall.ofMessage (message : Message F) : Option (LocoCall F) :=
  let ⟨sending, apiId, payload⟩ := message
  match apiId with
  | .kChangeMode => (payload.as changeModeParameter).map fun p => .changeMode p.mode
  | .kMove => (payload.as moveParameter).map fun p =>
    if sending = .sendApiRequestFireAndForget then .moveCommand p.vx p.vy p.vyaw
    else .move p.vx p.vy p.vyaw
  | .kRotateHead => (payload.as rotateHeadParameter).map fun p => .rotateHead p.pitch p.yaw
  | .kRotateHeadWithTime => (payload.as rotateHeadWithTimeParameter).map fun p =>
    .rotateHeadWithTime p.pitch p.yaw p.timeMillis
  | .kWaveHand => (payload.as waveHandParameter).map fun p => .waveHand p.handAction
  | .kRotateHeadWithDirection => (payload.as rotateHeadWithDirectionParameter).map fun p =>
    .rotateHeadWithDirection p.pitchDirection p.yawDirection
  | .kLieDown => some .lieDown
  | .kGetUp => (payload.as getUpParameter).map fun p => .getUp p.version
  | .kGetUpWithMode => (payload.as getUpWithModeParameter).map fun p =>
    .getUpWithMode p.mode p.version
  | .kShoot => some .shoot
  | .kMoveHandEndEffector => (payload.as moveHandEndEffectorParameter).map fun p =>
    if p.hasAux then
      .moveHandEndEffectorWithAux p.targetPosture p.auxPosture p.timeMillis p.handIndex
    else if p.newVersion then .moveHandEndEffectorV2 p.targetPosture p.timeMillis p.handIndex
    else .moveHandEndEffector p.targetPosture p.timeMillis p.handIndex
  | .kMoveDualHandEndEffector => (payload.as moveDualHandEndEffectorParameter).map fun p =>
    .moveDualHandEndEffector p.leftTargetPosture p.rightTargetPosture p.timeMillis
  | .kStopHandEndEffector => some .stopHandEndEffector
  | .kControlGripper => (payload.as controlGripperParameter).map fun p =>
    .controlGripper p.motionParam p.mode p.handIndex
  | .kGetFrameTransform => (payload.as getFrameTransformParameter).map fun p =>
    .getFrameTransform p.src p.dst
  | .kSwitchHandEndEffectorControlMode =>
    (payload.as switchHandEndEffectorControlModeParameter).map fun p =>
      .switchHandEndEffectorControlMode p.switchOn
  | .kHandshake => (payload.as handshakeParameter).map fun p => .handshake p.handAction
  | .kHandOnChestGreeting => (payload.as handOnChestGreetingParameter).map fun p =>
    .handOnChestGreeting p.up
  | .kControlDexterousHand => (payload.as controlDexterousHandParameter).map fun p =>
    .controlDexterousHand p.fingerParams p.handIndex p.handType
  | .kDance => (payload.as danceParameter).map fun p => .dance p.danceId
  | .kPlaySound => (payload.as playSoundParameter).map fun p => .playSound p.soundFilePath
  | .kStopSound => some .stopSound
  | .kZeroTorqueDrag => (payload.as zeroTorqueDragParameter).map fun p => .zeroTorqueDrag p.enable
  | .kRecordTrajectory => (payload.as recordTrajectoryParameter).map fun p =>
    .recordTrajectory p.enable
  | .kReplayTrajectory => (payload.as replayTrajectoryParameter).map fun p =>
    .replayTrajectory p.trajFilePath
  | .kWholeBodyDance => (payload.as wholeBodyDanceParameter).map fun p =>
    .wholeBodyDance p.danceId
  | .kUpperBodyCustomControl => (payload.as upperBodyCustomControlParameter).map fun p =>
    .upperBodyCustomControl p.start
  | .kResetOdometry =>
    match payload with
    | .odometry x y theta => some (.resetOdometryTo x y theta)
    | _ => some .resetOdometry
  | .kLoadCustomTrainedTraj => (payload.as customTrainedTraj).map .loadCustomTrainedTraj
  | .kActivateCustomTrainedTraj => (payload.as customTrainedTrajParameter).map fun p =>
    .activateCustomTrainedTraj p.tid
  | .kUnloadCustomTrainedTraj => (payload.as customTrainedTrajParameter).map fun p =>
    .unloadCustomTrainedTraj p.tid
  | .kEnterWBCGait => some .enterWBCGait
  | .kExitWBCGait => some .exitWBCGait
  | .kVisualKick => (payload.as visualKickParameter).map fun p => .visualKick p.start p.version
  | .kLionDancePrepare => (payload.as lionDancePrepareParameter).map fun p =>
    .lionDancePrepare p.start
  | .kLionDanceStart => (payload.as lionDanceStartParameter).map fun p =>
    .lionDanceStart p.danceIdx
  | .kLionDanceMove => (payload.as lionDanceMoveParameter).map fun p => .lionDanceMove p.start
  | .kSwitchGait => (payload.as switchGaitParameter).map fun p => .switchGait p.gaitType
  | .kGetMode => some .getMode
  | .kGetStatus => some .getStatus
  | .kGetRobotInfo => some .getRobotInfo
  | .kGetSensors => some .getSensors
  | .kGetHands => some .getHands
  | .kGetRobotModel => some .getRobotModel
  | .kGetTrainedTrajStatus => some .getTrainedTrajStatus

theorem ofMessage_message (call : LocoCall F) : LocoCall.ofMessage call.message = some call := by
  cases call <;> rfl

/-- Calls are told apart: two calls whose floats are finite are one call if the same function of the
transport is given the same number and the same text. -/
theorem perform_injective (floats : FloatText F.Double) {first second : LocoCall F} {sent : Sent}
    (firstFinite : first.message.payload.Finite floats)
    (secondFinite : second.message.payload.Finite floats)
    (firstSent : first.perform floats = .ok sent) (secondSent : second.perform floats = .ok sent) :
    first = second := by
  have split {call : LocoCall F} (sends : call.perform floats = .ok sent) :
      call.message.sending = sent.sending ∧ call.message.apiId.value = sent.apiId ∧
        call.message.payload.text floats = .ok sent.param := by
    rw [perform_eq, Message.sent] at sends
    cases written : call.message.payload.text floats with
    | error thrown =>
      rw [written] at sends
      cases sends
    | ok text =>
      rw [written] at sends
      cases sends
      exact ⟨rfl, rfl, rfl⟩
  obtain ⟨firstSending, firstNumber, firstText⟩ := split firstSent
  obtain ⟨secondSending, secondNumber, secondText⟩ := split secondSent
  have sending := firstSending.trans secondSending.symm
  have apiId := value_injective _ _ (firstNumber.trans secondNumber.symm)
  have payload : first.message.payload = second.message.payload :=
    payload_injective floats (message_fits first) (apiId ▸ message_fits second) firstFinite
      secondFinite firstText secondText
  have message : first.message = second.message := by
    cases firstMessage : first.message
    cases secondMessage : second.message
    rw [firstMessage, secondMessage] at sending apiId payload
    cases sending
    cases apiId
    cases payload
    rfl
  have found := ofMessage_message first
  rw [message, ofMessage_message second] at found
  exact (Option.some.inj found).symm

/-- A walk backwards to the left. -/
def walk : LocoCall SignedWhole.format :=
  .move ⟨SignedWhole.ofInt (-2)⟩ ⟨SignedWhole.ofInt 1⟩ ⟨SignedWhole.ofInt 0⟩

/-- What is written of the walk. -/
def walkJson : Json SignedWhole.format :=
  .object [("vx", .float (SignedWhole.ofInt (-2))), ("vy", .float (SignedWhole.ofInt 1)),
    ("vyaw", .float (SignedWhole.ofInt 0))]

/-- No other call is sent as the walk is. -/
theorem perform_injective_walk :
    ∃ sent, walk.perform SignedWhole.floats = .ok sent ∧
      ∀ other : LocoCall SignedWhole.format, other.message.payload.Finite SignedWhole.floats →
        other.perform SignedWhole.floats = .ok sent → walk = other := by
  have encoded : walkJson.stored.Encoded :=
    encoded_stored walkJson (by simp [walkJson, Json.Encoded, Json.Every, Json.EveryField])
  have finite : walk.message.payload.Finite SignedWhole.floats := by
    rintro json wrote
    cases wrote
    show Robot.Finite SignedWhole.floats walkJson
    simp [walkJson, SignedWhole.finite_ofInt]
  obtain ⟨text, dumped, _⟩ := dump_encoded SignedWhole.floats encoded
  have json : walk.message.payload.toJson = .ok (some walkJson) := rfl
  have written : walk.message.payload.text SignedWhole.floats = .ok text := by
    unfold Payload.text
    rw [json, Json.ok_bind]
    exact dumped
  have sent : walk.perform SignedWhole.floats =
      .ok ⟨.sendApiRequest, walk.message.apiId.value, text⟩ :=
    (perform_eq SignedWhole.floats walk).trans (congrArg (Except.map _) written)
  exact ⟨_, sent, fun other otherFinite otherSent =>
    perform_injective SignedWhole.floats finite otherFinite sent otherSent⟩

end Booster.Robot.B1.B1LocoClient
