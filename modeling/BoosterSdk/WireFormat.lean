/-
This file proves that the wire format round-trips.

The classes are the two RPC headers and every payload class of the locomotion, AI chat
and LUI services. Each has its codec; an object is written, and what was written is
read by an object of its class that has just been constructed.
-/

import BoosterSdk.AiApi
import BoosterSdk.LocoApi
import BoosterSdk.RpcHeaders

namespace Booster.Robot

open Json (Single Codec)

/-- The classes that write themselves to JSON and read themselves from it. -/
inductive WireClass where
  | requestHeader
  | responseHeader
  | rotateHeadParameter
  | rotateHeadWithTimeParameter
  | changeModeParameter
  | switchGaitParameter
  | getModeResponse
  | getStatusResponse
  | getRobotInfoResponse
  | moveParameter
  | rotateHeadWithDirectionParameter
  | getUpParameter
  | getUpWithModeParameter
  | waveHandParameter
  | handshakeParameter
  | handOnChestGreetingParameter
  | moveHandEndEffectorParameter
  | gripperMotionParameter
  | controlGripperParameter
  | moveDualHandEndEffectorParameter
  | getFrameTransformParameter
  | switchHandEndEffectorControlModeParameter
  | dexterousFingerParameter
  | controlDexterousHandParameter
  | danceParameter
  | playSoundParameter
  | replayTrajectoryParameter
  | zeroTorqueDragParameter
  | recordTrajectoryParameter
  | wholeBodyDanceParameter
  | upperBodyCustomControlParameter
  | customModelParams
  | customModel
  | customTrainedTraj
  | loadCustomTrainedTrajResponse
  | customTrainedTrajParameter
  | getTrainedTrajStatusResponse
  | visualKickParameter
  | lionDancePrepareParameter
  | lionDanceMoveParameter
  | lionDanceStartParameter
  | ttsConfig
  | llmConfig
  | asrConfig
  | startAiChatParameter
  | speakParameter
  | luiAsrStartRequest
  | luiAsrStopRequest
  | luiTtsConfig
  | luiTtsStopRequest
  | luiTtsParameter
  | luiSynthesizeSpeechRequest
  | luiSynthesizeSpeechResponse
  | luiRecognizeAudioRequest
  | luiRecognizeAudioResponse

namespace WireClass

/-- The objects of a class. -/
def Object (F : NumberFormat) : WireClass → Type
  | requestHeader => RequestHeader
  | responseHeader => ResponseHeader
  | rotateHeadParameter => B1.RotateHeadParameter F
  | rotateHeadWithTimeParameter => B1.RotateHeadWithTimeParameter F
  | changeModeParameter => B1.ChangeModeParameter
  | switchGaitParameter => B1.SwitchGaitParameter
  | getModeResponse => B1.GetModeResponse
  | getStatusResponse => B1.GetStatusResponse
  | getRobotInfoResponse => B1.GetRobotInfoResponse
  | moveParameter => B1.MoveParameter F
  | rotateHeadWithDirectionParameter => B1.RotateHeadWithDirectionParameter
  | getUpParameter => B1.GetUpParameter
  | getUpWithModeParameter => B1.GetUpWithModeParameter
  | waveHandParameter => B1.WaveHandParameter
  | handshakeParameter => B1.HandshakeParameter
  | handOnChestGreetingParameter => B1.HandOnChestGreetingParameter
  | moveHandEndEffectorParameter => B1.MoveHandEndEffectorParameter F
  | gripperMotionParameter => B1.GripperMotionParameter
  | controlGripperParameter => B1.ControlGripperParameter
  | moveDualHandEndEffectorParameter => B1.MoveDualHandEndEffectorParameter F
  | getFrameTransformParameter => B1.GetFrameTransformParameter
  | switchHandEndEffectorControlModeParameter => B1.SwitchHandEndEffectorControlModeParameter
  | dexterousFingerParameter => B1.DexterousFingerParameter
  | controlDexterousHandParameter => B1.ControlDexterousHandParameter
  | danceParameter => B1.DanceParameter
  | playSoundParameter => B1.PlaySoundParameter
  | replayTrajectoryParameter => B1.ReplayTrajectoryParameter
  | zeroTorqueDragParameter => B1.ZeroTorqueDragParameter
  | recordTrajectoryParameter => B1.RecordTrajectoryParameter
  | wholeBodyDanceParameter => B1.WholeBodyDanceParameter
  | upperBodyCustomControlParameter => B1.UpperBodyCustomControlParameter
  | customModelParams => B1.CustomModelParams F
  | customModel => B1.CustomModel F
  | customTrainedTraj => B1.CustomTrainedTraj F
  | loadCustomTrainedTrajResponse => B1.LoadCustomTrainedTrajResponse
  | customTrainedTrajParameter => B1.CustomTrainedTrajParameter
  | getTrainedTrajStatusResponse => B1.GetTrainedTrajStatusResponse
  | visualKickParameter => B1.VisualKickParameter
  | lionDancePrepareParameter => B1.LionDancePrepareParameter
  | lionDanceMoveParameter => B1.LionDanceMoveParameter
  | lionDanceStartParameter => B1.LionDanceStartParameter
  | ttsConfig => TtsConfig
  | llmConfig => LlmConfig
  | asrConfig => AsrConfig
  | startAiChatParameter => StartAiChatParameter
  | speakParameter => SpeakParameter
  | luiAsrStartRequest => LuiAsrStartRequest
  | luiAsrStopRequest => LuiAsrStopRequest
  | luiTtsConfig => LuiTtsConfig
  | luiTtsStopRequest => LuiTtsStopRequest
  | luiTtsParameter => LuiTtsParameter
  | luiSynthesizeSpeechRequest => LuiSynthesizeSpeechRequest F
  | luiSynthesizeSpeechResponse => LuiSynthesizeSpeechResponse
  | luiRecognizeAudioRequest => LuiRecognizeAudioRequest
  | luiRecognizeAudioResponse => LuiRecognizeAudioResponse

/-- The codec of a class. -/
def codec {F : NumberFormat} : (wireClass : WireClass) → Codec F (Object F wireClass)
  | requestHeader => RequestHeader.codec
  | responseHeader => ResponseHeader.codec
  | rotateHeadParameter => B1.RotateHeadParameter.codec
  | rotateHeadWithTimeParameter => B1.RotateHeadWithTimeParameter.codec
  | changeModeParameter => B1.ChangeModeParameter.codec
  | switchGaitParameter => B1.SwitchGaitParameter.codec
  | getModeResponse => B1.GetModeResponse.codec
  | getStatusResponse => B1.GetStatusResponse.codec
  | getRobotInfoResponse => B1.GetRobotInfoResponse.codec
  | moveParameter => B1.MoveParameter.codec
  | rotateHeadWithDirectionParameter => B1.RotateHeadWithDirectionParameter.codec
  | getUpParameter => B1.GetUpParameter.codec
  | getUpWithModeParameter => B1.GetUpWithModeParameter.codec
  | waveHandParameter => B1.WaveHandParameter.codec
  | handshakeParameter => B1.HandshakeParameter.codec
  | handOnChestGreetingParameter => B1.HandOnChestGreetingParameter.codec
  | moveHandEndEffectorParameter => B1.MoveHandEndEffectorParameter.codec
  | gripperMotionParameter => B1.GripperMotionParameter.codec
  | controlGripperParameter => B1.ControlGripperParameter.codec
  | moveDualHandEndEffectorParameter => B1.MoveDualHandEndEffectorParameter.codec
  | getFrameTransformParameter => B1.GetFrameTransformParameter.codec
  | switchHandEndEffectorControlModeParameter => B1.SwitchHandEndEffectorControlModeParameter.codec
  | dexterousFingerParameter => B1.DexterousFingerParameter.codec
  | controlDexterousHandParameter => B1.ControlDexterousHandParameter.codec
  | danceParameter => B1.DanceParameter.codec
  | playSoundParameter => B1.PlaySoundParameter.codec
  | replayTrajectoryParameter => B1.ReplayTrajectoryParameter.codec
  | zeroTorqueDragParameter => B1.ZeroTorqueDragParameter.codec
  | recordTrajectoryParameter => B1.RecordTrajectoryParameter.codec
  | wholeBodyDanceParameter => B1.WholeBodyDanceParameter.codec
  | upperBodyCustomControlParameter => B1.UpperBodyCustomControlParameter.codec
  | customModelParams => B1.CustomModelParams.codec
  | customModel => B1.CustomModel.codec
  | customTrainedTraj => B1.CustomTrainedTraj.codec
  | loadCustomTrainedTrajResponse => B1.LoadCustomTrainedTrajResponse.codec
  | customTrainedTrajParameter => B1.CustomTrainedTrajParameter.codec
  | getTrainedTrajStatusResponse => B1.GetTrainedTrajStatusResponse.codec
  | visualKickParameter => B1.VisualKickParameter.codec
  | lionDancePrepareParameter => B1.LionDancePrepareParameter.codec
  | lionDanceMoveParameter => B1.LionDanceMoveParameter.codec
  | lionDanceStartParameter => B1.LionDanceStartParameter.codec
  | ttsConfig => TtsConfig.codec
  | llmConfig => LlmConfig.codec
  | asrConfig => AsrConfig.codec
  | startAiChatParameter => StartAiChatParameter.codec
  | speakParameter => SpeakParameter.codec
  | luiAsrStartRequest => LuiAsrStartRequest.codec
  | luiAsrStopRequest => LuiAsrStopRequest.codec
  | luiTtsConfig => LuiTtsConfig.codec
  | luiTtsStopRequest => LuiTtsStopRequest.codec
  | luiTtsParameter => LuiTtsParameter.codec
  | luiSynthesizeSpeechRequest => LuiSynthesizeSpeechRequest.codec
  | luiSynthesizeSpeechResponse => LuiSynthesizeSpeechResponse.codec
  | luiRecognizeAudioRequest => LuiRecognizeAudioRequest.codec
  | luiRecognizeAudioResponse => LuiRecognizeAudioResponse.codec

/-- The objects whose members are all seen on the wire: an auxiliary posture that is not in use is
the one of a new object. -/
def Visible {F : NumberFormat} : (wireClass : WireClass) → Object F wireClass → Prop
  | moveHandEndEffectorParameter, value =>
    B1.MoveHandEndEffectorParameter.hasAux value = false →
      B1.MoveHandEndEffectorParameter.auxPosture value = Posture.initial
  | _, _ => True

/-- JSON wire format round trip: for every class and every object of it, `ToJson` does not throw,
and `FromJson` of what it wrote, into any object of the class that has just been constructed, gives
the object back. -/
theorem wire_roundTrip (F : NumberFormat) (wireClass : WireClass) (value : Object F wireClass)
    (visible : Visible wireClass value) : (codec wireClass).RoundTrips value := by
  cases wireClass with
  | requestHeader => exact RequestHeader.roundTrips value
  | responseHeader => exact ResponseHeader.roundTrips value
  | rotateHeadParameter => exact B1.RotateHeadParameter.roundTrips value
  | rotateHeadWithTimeParameter => exact B1.RotateHeadWithTimeParameter.roundTrips value
  | changeModeParameter => exact B1.ChangeModeParameter.roundTrips value
  | switchGaitParameter => exact B1.SwitchGaitParameter.roundTrips value
  | getModeResponse => exact B1.GetModeResponse.roundTrips value
  | getStatusResponse => exact B1.GetStatusResponse.roundTrips value
  | getRobotInfoResponse => exact B1.GetRobotInfoResponse.roundTrips value
  | moveParameter => exact B1.MoveParameter.roundTrips value
  | rotateHeadWithDirectionParameter => exact B1.RotateHeadWithDirectionParameter.roundTrips value
  | getUpParameter => exact B1.GetUpParameter.roundTrips value
  | getUpWithModeParameter => exact B1.GetUpWithModeParameter.roundTrips value
  | waveHandParameter => exact B1.WaveHandParameter.roundTrips value
  | handshakeParameter => exact B1.HandshakeParameter.roundTrips value
  | handOnChestGreetingParameter => exact B1.HandOnChestGreetingParameter.roundTrips value
  | moveHandEndEffectorParameter => exact B1.MoveHandEndEffectorParameter.roundTrips value visible
  | gripperMotionParameter => exact B1.GripperMotionParameter.roundTrips value
  | controlGripperParameter => exact B1.ControlGripperParameter.roundTrips value
  | moveDualHandEndEffectorParameter => exact B1.MoveDualHandEndEffectorParameter.roundTrips value
  | getFrameTransformParameter => exact B1.GetFrameTransformParameter.roundTrips value
  | switchHandEndEffectorControlModeParameter =>
    exact B1.SwitchHandEndEffectorControlModeParameter.roundTrips value
  | dexterousFingerParameter => exact B1.DexterousFingerParameter.roundTrips value
  | controlDexterousHandParameter => exact B1.ControlDexterousHandParameter.roundTrips value
  | danceParameter => exact B1.DanceParameter.roundTrips value
  | playSoundParameter => exact B1.PlaySoundParameter.roundTrips value
  | replayTrajectoryParameter => exact B1.ReplayTrajectoryParameter.roundTrips value
  | zeroTorqueDragParameter => exact B1.ZeroTorqueDragParameter.roundTrips value
  | recordTrajectoryParameter => exact B1.RecordTrajectoryParameter.roundTrips value
  | wholeBodyDanceParameter => exact B1.WholeBodyDanceParameter.roundTrips value
  | upperBodyCustomControlParameter => exact B1.UpperBodyCustomControlParameter.roundTrips value
  | customModelParams => exact B1.CustomModelParams.roundTrips value
  | customModel => exact B1.CustomModel.roundTrips value
  | customTrainedTraj => exact B1.CustomTrainedTraj.roundTrips value
  | loadCustomTrainedTrajResponse => exact B1.LoadCustomTrainedTrajResponse.roundTrips value
  | customTrainedTrajParameter => exact B1.CustomTrainedTrajParameter.roundTrips value
  | getTrainedTrajStatusResponse => exact B1.GetTrainedTrajStatusResponse.roundTrips value
  | visualKickParameter => exact B1.VisualKickParameter.roundTrips value
  | lionDancePrepareParameter => exact B1.LionDancePrepareParameter.roundTrips value
  | lionDanceMoveParameter => exact B1.LionDanceMoveParameter.roundTrips value
  | lionDanceStartParameter => exact B1.LionDanceStartParameter.roundTrips value
  | ttsConfig => exact TtsConfig.roundTrips value
  | llmConfig => exact LlmConfig.roundTrips value
  | asrConfig => exact AsrConfig.roundTrips value
  | startAiChatParameter => exact StartAiChatParameter.roundTrips value
  | speakParameter => exact SpeakParameter.roundTrips value
  | luiAsrStartRequest => exact SessionRequest.roundTrips _ value
  | luiAsrStopRequest => exact SessionRequest.roundTrips _ value
  | luiTtsConfig => exact SingleText.roundTrips _ _ value
  | luiTtsStopRequest => exact SessionRequest.roundTrips _ value
  | luiTtsParameter => exact SingleText.roundTrips _ _ value
  | luiSynthesizeSpeechRequest => exact LuiSynthesizeSpeechRequest.roundTrips value
  | luiSynthesizeSpeechResponse => exact LuiSynthesizeSpeechResponse.roundTrips value
  | luiRecognizeAudioRequest => exact LuiRecognizeAudioRequest.roundTrips value
  | luiRecognizeAudioResponse => exact SingleText.roundTrips _ _ value

/-- A number format that keeps whole numbers as they are. -/
def wholeNumbers : NumberFormat := ⟨Int, Int, id, id, fun _ => rfl, id, id, id⟩

/-- A whole number in single precision. -/
def whole (value : Int) : Single wholeNumbers := ⟨value⟩

/-- A motion of the right hand without an auxiliary posture. -/
def rightHandMotion : B1.MoveHandEndEffectorParameter wholeNumbers where
  targetPosture := ⟨⟨whole 1, whole 2, whole 3⟩, ⟨whole 0, whole (-1), whole 0⟩⟩
  auxPosture := Posture.initial
  timeMillis := 500
  handIndex := .kRightHand
  hasAux := false
  newVersion := true

theorem wire_roundTrip_rightHandMotion :
    Codec.RoundTrips (codec moveHandEndEffectorParameter) rightHandMotion :=
  wire_roundTrip wholeNumbers moveHandEndEffectorParameter rightHandMotion fun _ => rfl

end WireClass

end Booster.Robot
