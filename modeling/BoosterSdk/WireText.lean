/-
This file proves that the messages of the services survive as text.

A client writes an object of a class to JSON and the JSON to text, and a service parses
the text and reads an object of the class. Text keeps neither the order in which fields
were written nor whether an integer was signed, but no class reads a difference; it
keeps a float only if it is finite, and a string only if it is UTF-8.
-/

import BoosterSdk.JsonRoundTrip
import BoosterSdk.Library.JsonAlike
import BoosterSdk.WireFormat

namespace Booster.Robot

open DecimalText (FloatText digitsOf)
open Json (Codec ReadsAlike ReadsBack Stored enumeration_alike map_bind pushEach_null_readsBack
  readEach_canonical)
open Nlohmann (parse)
open Nlohmann.Serializer (dump dump_encoded reread rereadElements_eq rereadFields_eq)

variable {F : NumberFormat}

/-! ### Enumerations -/

instance : ReadsAlike F RobotMode := enumeration_alike RobotMode.value RobotMode.mk fun _ => rfl

instance : ReadsAlike F BodyControl :=
  enumeration_alike BodyControl.value BodyControl.mk fun _ => rfl

instance : ReadsAlike F Action := enumeration_alike Action.value Action.mk fun _ => rfl

instance : ReadsAlike F Frame := enumeration_alike Frame.value Frame.mk fun _ => rfl

instance : ReadsAlike F TrainedTrajStatus :=
  enumeration_alike TrainedTrajStatus.value TrainedTrajStatus.mk fun _ => rfl

namespace B1

instance : ReadsAlike F HandIndex :=
  enumeration_alike HandIndex.value HandIndex.ofValue fun value => by cases value <;> rfl

instance : ReadsAlike F HandAction :=
  enumeration_alike HandAction.value HandAction.ofValue fun value => by cases value <;> rfl

instance : ReadsAlike F BoosterHandType :=
  enumeration_alike BoosterHandType.value BoosterHandType.mk fun _ => rfl

instance : ReadsAlike F GaitType := enumeration_alike GaitType.value GaitType.mk fun _ => rfl

instance : ReadsAlike F GetUpVersion :=
  enumeration_alike GetUpVersion.value GetUpVersion.mk fun _ => rfl

instance : ReadsAlike F GripperControlMode :=
  enumeration_alike GripperControlMode.value GripperControlMode.mk fun _ => rfl

instance : ReadsAlike F DanceId := enumeration_alike DanceId.value DanceId.mk fun _ => rfl

instance : ReadsAlike F WholeBodyDanceId :=
  enumeration_alike WholeBodyDanceId.value WholeBodyDanceId.mk fun _ => rfl

instance : ReadsAlike F JointOrder := enumeration_alike JointOrder.value JointOrder.mk fun _ => rfl

instance : ReadsAlike F VisualKickVersion :=
  enumeration_alike VisualKickVersion.value VisualKickVersion.mk fun _ => rfl

end B1

/-! ### Classes -/

/-- A class reads the same from a value and from its form. -/
def Alike {α : Type} (codec : Codec F α) (json : Json F) : Prop :=
  ∀ self, codec.fromJson json.canonical self = codec.fromJson json self

theorem member_alike {α β : Type} [Stored F β] [ReadsAlike F β] {key : String} {set : β → α → α}
    {construct : α → α} {write : α → Except Thrown (Json F)} (json : Json F) :
    Alike (⟨construct, write, Json.readMember key set⟩ : Codec F α) json :=
  Json.readMember_canonical key set json

theorem Position.fromJson_canonical (json : Json F) (self : Position F) :
    fromJson json.canonical self = fromJson json self := by
  simp [fromJson]

theorem Orientation.fromJson_canonical (json : Json F) (self : Orientation F) :
    fromJson json.canonical self = fromJson json self := by
  simp [fromJson]

theorem Posture.fromJson_canonical (json : Json F) (self : Posture F) :
    fromJson json.canonical self = fromJson json self := by
  simp [fromJson, map_bind, Position.fromJson_canonical, Orientation.fromJson_canonical]

theorem RequestHeader.fromJson_canonical (json : Json F) (self : RequestHeader) :
    fromJson json.canonical self = fromJson json self := by
  simp [fromJson]

namespace B1

theorem RotateHeadParameter.fromJson_canonical (json : Json F) (self : RotateHeadParameter F) :
    fromJson json.canonical self = fromJson json self := by
  simp [fromJson]

theorem RotateHeadWithTimeParameter.fromJson_canonical (json : Json F)
    (self : RotateHeadWithTimeParameter F) :
    fromJson json.canonical self = fromJson json self := by
  simp [fromJson]

theorem GetRobotInfoResponse.fromJson_canonical (json : Json F) (self : GetRobotInfoResponse) :
    fromJson json.canonical self = fromJson json self := by
  simp [fromJson]

theorem MoveParameter.fromJson_canonical (json : Json F) (self : MoveParameter F) :
    fromJson json.canonical self = fromJson json self := by
  simp [fromJson]

theorem RotateHeadWithDirectionParameter.fromJson_canonical (json : Json F)
    (self : RotateHeadWithDirectionParameter) :
    fromJson json.canonical self = fromJson json self := by
  simp [fromJson]

theorem GetUpParameter.fromJson_canonical (json : Json F) (self : GetUpParameter) :
    fromJson json.canonical self = fromJson json self := by
  simp [fromJson]

theorem GetUpWithModeParameter.fromJson_canonical (json : Json F) (self : GetUpWithModeParameter) :
    fromJson json.canonical self = fromJson json self := by
  simp [fromJson]

theorem WaveHandParameter.fromJson_canonical (json : Json F) (self : WaveHandParameter) :
    fromJson json.canonical self = fromJson json self := by
  simp [fromJson]

theorem GripperMotionParameter.fromJson_canonical (json : Json F) (self : GripperMotionParameter) :
    fromJson json.canonical self = fromJson json self := by
  simp [fromJson]

theorem GetFrameTransformParameter.fromJson_canonical (json : Json F)
    (self : GetFrameTransformParameter) :
    fromJson json.canonical self = fromJson json self := by
  simp [fromJson]

theorem DexterousFingerParameter.fromJson_canonical (json : Json F)
    (self : DexterousFingerParameter) :
    fromJson json.canonical self = fromJson json self := by
  simp [fromJson]

theorem CustomModelParams.fromJson_canonical (json : Json F) (self : CustomModelParams F) :
    fromJson json.canonical self = fromJson json self := by
  simp [fromJson]

theorem GetTrainedTrajStatusResponse.fromJson_canonical (json : Json F)
    (self : GetTrainedTrajStatusResponse) :
    fromJson json.canonical self = fromJson json self := by
  simp [fromJson]

theorem VisualKickParameter.fromJson_canonical (json : Json F) (self : VisualKickParameter) :
    fromJson json.canonical self = fromJson json self := by
  simp [fromJson]

theorem MoveHandEndEffectorParameter.fromJson_canonical (json : Json F)
    (self : MoveHandEndEffectorParameter F) :
    fromJson json.canonical self = fromJson json self := by
  simp [fromJson, map_bind, Posture.fromJson_canonical]

theorem MoveDualHandEndEffectorParameter.fromJson_canonical (json : Json F)
    (self : MoveDualHandEndEffectorParameter F) :
    fromJson json.canonical self = fromJson json self := by
  simp [fromJson, map_bind, Posture.fromJson_canonical]

theorem ControlGripperParameter.fromJson_canonical (json : Json F)
    (self : ControlGripperParameter) :
    fromJson json.canonical self = fromJson json self := by
  simp [fromJson, map_bind, GripperMotionParameter.fromJson_canonical]

theorem CustomModel.fromJson_canonical (json : Json F) (self : CustomModel F) :
    fromJson json.canonical self = fromJson json self := by
  have alike (item : Json F) : CustomModelParams.fromJson item.canonical CustomModelParams.initial =
      CustomModelParams.fromJson item CustomModelParams.initial :=
    CustomModelParams.fromJson_canonical item _
  have loop (item : Json F) (list : item.isArray = true) :
      item.canonical.readEach (CustomModelParams.fromJson · CustomModelParams.initial) [] =
        item.readEach (CustomModelParams.fromJson · CustomModelParams.initial) [] :=
    readEach_canonical alike (by rintro fields rfl; cases list) []
  unfold fromJson
  simp only [Json.load_canonical, Json.contains_canonical, Json.index_canonical, map_bind,
    Json.isArray_canonical]
  cases found : json.index "params" with
  | error thrown => rfl
  | ok item =>
    cases list : item.isArray with
    | false => simp [list]
    | true => simp [list, loop item list]

theorem CustomTrainedTraj.fromJson_canonical (json : Json F) (self : CustomTrainedTraj F) :
    fromJson json.canonical self = fromJson json self := by
  simp [fromJson, map_bind, CustomModel.fromJson_canonical]

end B1

theorem TtsConfig.fromJson_canonical (json : Json F) (self : TtsConfig) :
    fromJson json.canonical self = fromJson json self := by
  simp [fromJson]

theorem LlmConfig.fromJson_canonical (json : Json F) (self : LlmConfig) :
    fromJson json.canonical self = fromJson json self := by
  simp [fromJson]

theorem AsrConfig.fromJson_canonical (json : Json F) (self : AsrConfig) :
    fromJson json.canonical self = fromJson json self := by
  simp [fromJson]

theorem LuiSynthesizeSpeechRequest.fromJson_canonical (json : Json F)
    (self : LuiSynthesizeSpeechRequest F) :
    fromJson json.canonical self = fromJson json self := by
  simp [fromJson]

theorem LuiSynthesizeSpeechResponse.fromJson_canonical (json : Json F)
    (self : LuiSynthesizeSpeechResponse) :
    fromJson json.canonical self = fromJson json self := by
  simp [fromJson]

theorem LuiRecognizeAudioRequest.fromJson_canonical (json : Json F)
    (self : LuiRecognizeAudioRequest) :
    fromJson json.canonical self = fromJson json self := by
  simp [fromJson]

theorem StartAiChatParameter.fromJson_canonical (json : Json F) (self : StartAiChatParameter) :
    fromJson json.canonical self = fromJson json self := by
  simp [fromJson, map_bind, TtsConfig.fromJson_canonical, LlmConfig.fromJson_canonical,
    AsrConfig.fromJson_canonical]

theorem SessionRequest.fromJson_canonical (whose : String) (json : Json F)
    (self : SessionRequest) :
    fromJson whose json.canonical self = fromJson whose json self := by
  simp [fromJson]

theorem SingleText.fromJson_canonical (whose key : String) (json : Json F) (self : SingleText) :
    fromJson whose key json.canonical self = fromJson whose key json self := by
  simp [fromJson]

/-! ### Lists that are read without asking whether they are lists -/

/-- A list is written, so that what is read is no object. -/
theorem B1.GetStatusResponse.alike {value : GetStatusResponse} {json : Json F}
    (wrote : (codec : Codec F GetStatusResponse).toJson value = .ok json) :
    Alike (codec : Codec F GetStatusResponse) json := by
  intro self
  have list : ∃ items, json.index "current_actions" = .ok (Json.array items) := by
    cases wrote
    exact ⟨_, by simp; rfl⟩
  obtain ⟨items, list⟩ := list
  have loop : (Json.array items).canonical.readEach Json.decode [] =
      ((Json.array items).readEach Json.decode [] : Except Thrown (List Action)) :=
    readEach_canonical Json.decode_canonical (by rintro fields ⟨⟩) []
  show fromJson json.canonical self = fromJson json self
  unfold fromJson
  simp only [Json.load_canonical, Json.index_canonical, map_bind, list, Json.ok_bind, loop]

/-- No list or a list is written. -/
theorem B1.ControlDexterousHandParameter.alike {value : ControlDexterousHandParameter}
    {json : Json F}
    (wrote : (codec : Codec F ControlDexterousHandParameter).toJson value = .ok json) :
    Alike (codec : Codec F ControlDexterousHandParameter) json := by
  intro self
  have list : ∃ item, json.index "finger_params" = .ok item ∧ ∀ fields, item ≠ .object fields := by
    obtain ⟨fingerParams, handIndex, handType⟩ := value
    cases fingerParams with
    | nil =>
      cases wrote
      exact ⟨.null, by simp, by rintro fields ⟨⟩⟩
    | cons finger rest =>
      have readsBack : ∀ member ∈ finger :: rest, ReadsBack
          (DexterousFingerParameter.toJson : _ → Except Thrown (Json F))
          (DexterousFingerParameter.fromJson · DexterousFingerParameter.initial) member :=
        fun member _ => member.roundTrips.imp fun _ both => ⟨both.1, both.2 member⟩
      obtain ⟨written, pushed, _⟩ :=
        pushEach_null_readsBack "finger_params" readsBack (List.cons_ne_nil finger rest)
      have whole : toJson ⟨finger :: rest, handIndex, handType⟩ = .ok json := wrote
      simp only [toJson, pushed, Json.ok_bind, Json.store_object] at whole
      cases whole
      exact ⟨.array written, by simp, by rintro fields ⟨⟩⟩
  obtain ⟨item, found, listed⟩ := list
  have each (item : Json F) :
      DexterousFingerParameter.fromJson item.canonical DexterousFingerParameter.initial =
        DexterousFingerParameter.fromJson item DexterousFingerParameter.initial :=
    DexterousFingerParameter.fromJson_canonical item _
  have loop : item.canonical.readEach
      (DexterousFingerParameter.fromJson · DexterousFingerParameter.initial) self.fingerParams =
        item.readEach (DexterousFingerParameter.fromJson · DexterousFingerParameter.initial)
          self.fingerParams := readEach_canonical each listed self.fingerParams
  show fromJson json.canonical self = fromJson json self
  unfold fromJson
  simp only [Json.load_canonical, Json.index_canonical, map_bind, found, Json.ok_bind, loop]

/-- A class that round-trips and reads alike gets an object back from the form of what it wrote. -/
theorem survives {α : Type} {codec : Codec F α} {value : α} (round : codec.RoundTrips value)
    (alike : ∀ json, codec.toJson value = .ok json → Alike codec json) :
    ∃ json, codec.toJson value = .ok json ∧
      ∀ memory, codec.fromJson json.canonical (codec.construct memory) = .ok value := by
  obtain ⟨json, wrote, reads⟩ := round
  refine ⟨json, wrote, fun memory => ?_⟩
  rw [alike json wrote, reads]

/-- Every class gets an object back from the form of what it wrote. -/
theorem WireClass.survives_canonical (wireClass : WireClass) (value : Object F wireClass)
    (visible : Visible wireClass value) :
    ∃ json, (codec wireClass).toJson value = .ok json ∧ ∀ memory,
      (codec wireClass).fromJson json.canonical ((codec wireClass).construct memory) =
        .ok value := by
  cases wireClass with
  | requestHeader =>
    exact survives (RequestHeader.roundTrips value) fun json _ =>
      RequestHeader.fromJson_canonical json
  | responseHeader =>
    exact survives (ResponseHeader.roundTrips value) fun json _ => member_alike json
  | rotateHeadParameter =>
    exact survives (B1.RotateHeadParameter.roundTrips value) fun json _ =>
      B1.RotateHeadParameter.fromJson_canonical json
  | rotateHeadWithTimeParameter =>
    exact survives (B1.RotateHeadWithTimeParameter.roundTrips value) fun json _ =>
      B1.RotateHeadWithTimeParameter.fromJson_canonical json
  | changeModeParameter =>
    exact survives (B1.ChangeModeParameter.roundTrips value) fun json _ => member_alike json
  | switchGaitParameter =>
    exact survives (B1.SwitchGaitParameter.roundTrips value) fun json _ => member_alike json
  | getModeResponse =>
    exact survives (B1.GetModeResponse.roundTrips value) fun json _ => member_alike json
  | getStatusResponse =>
    exact survives (B1.GetStatusResponse.roundTrips value) fun _ =>
      B1.GetStatusResponse.alike
  | getRobotInfoResponse =>
    exact survives (B1.GetRobotInfoResponse.roundTrips value) fun json _ =>
      B1.GetRobotInfoResponse.fromJson_canonical json
  | moveParameter =>
    exact survives (B1.MoveParameter.roundTrips value) fun json _ =>
      B1.MoveParameter.fromJson_canonical json
  | rotateHeadWithDirectionParameter =>
    exact survives (B1.RotateHeadWithDirectionParameter.roundTrips value) fun json _ =>
      B1.RotateHeadWithDirectionParameter.fromJson_canonical json
  | getUpParameter =>
    exact survives (B1.GetUpParameter.roundTrips value) fun json _ =>
      B1.GetUpParameter.fromJson_canonical json
  | getUpWithModeParameter =>
    exact survives (B1.GetUpWithModeParameter.roundTrips value) fun json _ =>
      B1.GetUpWithModeParameter.fromJson_canonical json
  | waveHandParameter =>
    exact survives (B1.WaveHandParameter.roundTrips value) fun json _ =>
      B1.WaveHandParameter.fromJson_canonical json
  | handshakeParameter =>
    exact survives (B1.HandshakeParameter.roundTrips value) fun json _ => member_alike json
  | handOnChestGreetingParameter =>
    exact survives (B1.HandOnChestGreetingParameter.roundTrips value) fun json _ =>
      member_alike json
  | moveHandEndEffectorParameter =>
    exact survives (B1.MoveHandEndEffectorParameter.roundTrips value visible) fun json _ =>
      B1.MoveHandEndEffectorParameter.fromJson_canonical json
  | gripperMotionParameter =>
    exact survives (B1.GripperMotionParameter.roundTrips value) fun json _ =>
      B1.GripperMotionParameter.fromJson_canonical json
  | controlGripperParameter =>
    exact survives (B1.ControlGripperParameter.roundTrips value) fun json _ =>
      B1.ControlGripperParameter.fromJson_canonical json
  | moveDualHandEndEffectorParameter =>
    exact survives (B1.MoveDualHandEndEffectorParameter.roundTrips value) fun json _ =>
      B1.MoveDualHandEndEffectorParameter.fromJson_canonical json
  | getFrameTransformParameter =>
    exact survives (B1.GetFrameTransformParameter.roundTrips value) fun json _ =>
      B1.GetFrameTransformParameter.fromJson_canonical json
  | switchHandEndEffectorControlModeParameter =>
    exact survives (B1.SwitchHandEndEffectorControlModeParameter.roundTrips value) fun json _ =>
      member_alike json
  | dexterousFingerParameter =>
    exact survives (B1.DexterousFingerParameter.roundTrips value) fun json _ =>
      B1.DexterousFingerParameter.fromJson_canonical json
  | controlDexterousHandParameter =>
    exact survives (B1.ControlDexterousHandParameter.roundTrips value) fun _ =>
      B1.ControlDexterousHandParameter.alike
  | danceParameter =>
    exact survives (B1.DanceParameter.roundTrips value) fun json _ => member_alike json
  | playSoundParameter =>
    exact survives (B1.PlaySoundParameter.roundTrips value) fun json _ => member_alike json
  | replayTrajectoryParameter =>
    exact survives (B1.ReplayTrajectoryParameter.roundTrips value) fun json _ => member_alike json
  | zeroTorqueDragParameter =>
    exact survives (B1.ZeroTorqueDragParameter.roundTrips value) fun json _ => member_alike json
  | recordTrajectoryParameter =>
    exact survives (B1.RecordTrajectoryParameter.roundTrips value) fun json _ => member_alike json
  | wholeBodyDanceParameter =>
    exact survives (B1.WholeBodyDanceParameter.roundTrips value) fun json _ => member_alike json
  | upperBodyCustomControlParameter =>
    exact survives (B1.UpperBodyCustomControlParameter.roundTrips value) fun json _ =>
      member_alike json
  | customModelParams =>
    exact survives (B1.CustomModelParams.roundTrips value) fun json _ =>
      B1.CustomModelParams.fromJson_canonical json
  | customModel =>
    exact survives (B1.CustomModel.roundTrips value) fun json _ =>
      B1.CustomModel.fromJson_canonical json
  | customTrainedTraj =>
    exact survives (B1.CustomTrainedTraj.roundTrips value) fun json _ =>
      B1.CustomTrainedTraj.fromJson_canonical json
  | loadCustomTrainedTrajResponse =>
    exact survives (B1.LoadCustomTrainedTrajResponse.roundTrips value) fun json _ =>
      member_alike json
  | customTrainedTrajParameter =>
    exact survives (B1.CustomTrainedTrajParameter.roundTrips value) fun json _ => member_alike json
  | getTrainedTrajStatusResponse =>
    exact survives (B1.GetTrainedTrajStatusResponse.roundTrips value) fun json _ =>
      B1.GetTrainedTrajStatusResponse.fromJson_canonical json
  | visualKickParameter =>
    exact survives (B1.VisualKickParameter.roundTrips value) fun json _ =>
      B1.VisualKickParameter.fromJson_canonical json
  | lionDancePrepareParameter =>
    exact survives (B1.LionDancePrepareParameter.roundTrips value) fun json _ => member_alike json
  | lionDanceMoveParameter =>
    exact survives (B1.LionDanceMoveParameter.roundTrips value) fun json _ => member_alike json
  | lionDanceStartParameter =>
    exact survives (B1.LionDanceStartParameter.roundTrips value) fun json _ => member_alike json
  | ttsConfig =>
    exact survives (TtsConfig.roundTrips value) fun json _ => TtsConfig.fromJson_canonical json
  | llmConfig =>
    exact survives (LlmConfig.roundTrips value) fun json _ => LlmConfig.fromJson_canonical json
  | asrConfig =>
    exact survives (AsrConfig.roundTrips value) fun json _ => AsrConfig.fromJson_canonical json
  | startAiChatParameter =>
    exact survives (StartAiChatParameter.roundTrips value) fun json _ =>
      StartAiChatParameter.fromJson_canonical json
  | speakParameter =>
    exact survives (SpeakParameter.roundTrips value) fun json _ => member_alike json
  | luiAsrStartRequest =>
    exact survives (SessionRequest.roundTrips _ value) fun json _ =>
      SessionRequest.fromJson_canonical _ json
  | luiAsrStopRequest =>
    exact survives (SessionRequest.roundTrips _ value) fun json _ =>
      SessionRequest.fromJson_canonical _ json
  | luiTtsConfig =>
    exact survives (SingleText.roundTrips _ _ value) fun json _ =>
      SingleText.fromJson_canonical _ _ json
  | luiTtsStopRequest =>
    exact survives (SessionRequest.roundTrips _ value) fun json _ =>
      SessionRequest.fromJson_canonical _ json
  | luiTtsParameter =>
    exact survives (SingleText.roundTrips _ _ value) fun json _ =>
      SingleText.fromJson_canonical _ _ json
  | luiSynthesizeSpeechRequest =>
    exact survives (LuiSynthesizeSpeechRequest.roundTrips value) fun json _ =>
      LuiSynthesizeSpeechRequest.fromJson_canonical json
  | luiSynthesizeSpeechResponse =>
    exact survives (LuiSynthesizeSpeechResponse.roundTrips value) fun json _ =>
      LuiSynthesizeSpeechResponse.fromJson_canonical json
  | luiRecognizeAudioRequest =>
    exact survives (LuiRecognizeAudioRequest.roundTrips value) fun json _ =>
      LuiRecognizeAudioRequest.fromJson_canonical json
  | luiRecognizeAudioResponse =>
    exact survives (SingleText.roundTrips _ _ value) fun json _ =>
      SingleText.fromJson_canonical _ _ json

/-! ### Text -/

section Text

variable (floats : FloatText F.Double)

/-- All floats of a value are finite. -/
def Finite (json : Json F) : Prop :=
  json.Every fun inner => ∀ number, inner = .float number → floats.isFinite number = true

@[simp] theorem finite_null : Finite floats .null := by
  rintro number ⟨⟩

@[simp] theorem finite_boolean (value : Bool) : Finite floats (.boolean value) := by
  rintro number ⟨⟩

@[simp] theorem finite_integer (value : Int64) : Finite floats (.integer value) := by
  rintro number ⟨⟩

@[simp] theorem finite_unsigned (value : UInt64) : Finite floats (.unsigned value) := by
  rintro number ⟨⟩

@[simp] theorem finite_string (text : Text) : Finite floats (.string text) := by
  rintro number ⟨⟩

@[simp] theorem finite_float (number : F.Double) :
    Finite floats (.float number) ↔ floats.isFinite number = true :=
  ⟨fun every => every number rfl, fun finite other same => by cases same; exact finite⟩

@[simp] theorem finite_array (elements : List (Json F)) :
    Finite floats (.array elements) ↔ ∀ value ∈ elements, Finite floats value := by
  unfold Finite
  rw [Json.every_array]
  exact and_iff_right (by rintro _ ⟨⟩)

@[simp] theorem finite_object (fields : List (String × Json F)) :
    Finite floats (.object fields) ↔ ∀ field ∈ fields, Finite floats field.2 := by
  unfold Finite
  rw [Json.every_object]
  exact and_iff_right (by rintro _ ⟨⟩)

mutual

/-- A value with null in the place of the floats that are not finite. -/
def blank : Json F → Json F
  | .float number => if floats.isFinite number then .float number else .null
  | .array elements => .array (blankElements elements)
  | .object fields => .object (blankFields fields)
  | other => other

def blankElements : List (Json F) → List (Json F)
  | [] => []
  | value :: rest => blank value :: blankElements rest

def blankFields : List (String × Json F) → List (String × Json F)
  | [] => []
  | (key, value) :: rest => (key, blank value) :: blankFields rest

end

theorem blankElements_eq (elements : List (Json F)) :
    blankElements floats elements = elements.map (blank floats) := by
  induction elements with
  | nil => rfl
  | cons value rest inductionHypothesis => rw [blankElements, inductionHypothesis, List.map_cons]

theorem blankFields_eq (fields : List (String × Json F)) :
    blankFields floats fields = fields.map fun field => (field.1, blank floats field.2) := by
  induction fields with
  | nil => rfl
  | cons field rest inductionHypothesis => rw [blankFields, inductionHypothesis, List.map_cons]

/-- What is read back of a value is the form of the value with null for these floats. -/
theorem reread_blank (json : Json F) :
    reread floats json.stored = (blank floats json).canonical := by
  induction json using Json.nested with
  | float number =>
    show (if floats.isFinite number then Json.float number else .null) = (blank floats _).canonical
    unfold blank
    split <;> rfl
  | array elements inductionHypothesis =>
    rw [Json.stored, Json.storedElements_eq, reread, rereadElements_eq, blank, Json.canonical,
      Json.canonicalElements_eq, blankElements_eq, List.map_map, List.map_map]
    exact congrArg Json.array (List.map_congr_left inductionHypothesis)
  | object fields inductionHypothesis =>
    rw [Json.stored, Json.storedFields_eq, reread, rereadFields_eq, blank, Json.canonical,
      Json.canonicalFields_eq, blankFields_eq, List.map_map]
    have each : (fields.map fun field => (field.1, reread floats field.2.stored)) =
        fields.map fun field => (field.1, (blank floats field.2).canonical) :=
      List.map_congr_left fun field member =>
        Prod.ext rfl (inductionHypothesis field member)
    show Json.object ((Json.inOrder _).map fun field => (field.1, reread floats field.2)) = _
    rw [Json.inOrder_map, List.map_map]
    exact congrArg (fun fields => Json.object (Json.inOrder fields)) each
  | null | boolean | integer | unsigned | string => rfl

theorem blank_of_finite (json : Json F) (finite : Finite floats json) :
    blank floats json = json := by
  induction json using Json.nested with
  | float number =>
    unfold blank
    exact if_pos ((finite_float floats number).mp finite)
  | array elements inductionHypothesis =>
    rw [finite_array] at finite
    rw [blank, blankElements_eq]
    have each : elements.map (blank floats) = elements.map id :=
      List.map_congr_left fun value member =>
        inductionHypothesis value member (finite value member)
    rw [each, List.map_id]
  | object fields inductionHypothesis =>
    rw [finite_object] at finite
    rw [blank, blankFields_eq]
    have each : (fields.map fun field => (field.1, blank floats field.2)) = fields.map id :=
      List.map_congr_left fun field member =>
        Prod.ext rfl (inductionHypothesis field member (finite field member))
    rw [each, List.map_id]
  | null | boolean | integer | unsigned | string => rfl

/-- What is read back of a value that is finite is its form. -/
theorem reread_stored (json : Json F) (finite : Finite floats json) :
    reread floats json.stored = json.canonical := by
  rw [reread_blank, blank_of_finite floats json finite]

theorem encoded_stored (json : Json F) (encoded : json.Encoded) : json.stored.Encoded := by
  induction json using Json.nested with
  | array elements inductionHypothesis =>
    rw [Json.encoded_array] at encoded
    rw [Json.stored, Json.storedElements_eq, Json.encoded_array, List.forall_mem_map]
    exact fun value member => inductionHypothesis value member (encoded value member)
  | object fields inductionHypothesis =>
    rw [Json.encoded_object] at encoded
    rw [Json.stored, Json.storedFields_eq, Json.encoded_object]
    intro field member
    obtain ⟨original, found, rfl⟩ := List.mem_map.mp (Json.mem_inOrder member)
    exact inductionHypothesis original found (encoded original found)
  | null | boolean | integer | unsigned | float | string => exact encoded

namespace WireClass

/-- Round trip as text: for every class and every object of it whose members are all seen on the
wire, `ToJson` does not throw, and if what it writes has finite floats and its strings are UTF-8,
then `dump` makes a text of it that is parsed, and `FromJson` of what was parsed gives the object
back. -/
theorem text_roundTrip (wireClass : WireClass) (value : Object F wireClass)
    (visible : Visible wireClass value) :
    ∃ json, (codec wireClass).toJson value = .ok json ∧ (json.Encoded → Finite floats json →
      ∃ text received, dump floats json = .ok text ∧ parse floats text = .ok received ∧
        ∀ memory, (codec wireClass).fromJson received ((codec wireClass).construct memory) =
          .ok value) := by
  obtain ⟨json, wrote, reads⟩ := survives_canonical wireClass value visible
  refine ⟨json, wrote, fun encoded finite => ?_⟩
  obtain ⟨text, dumped, parsed⟩ := dump_encoded floats (encoded_stored json encoded)
  rw [reread_stored floats json finite] at parsed
  exact ⟨text, json.canonical, dumped, parsed, reads⟩

end WireClass

end Text

/-- A whole number with a sign, so that there are two zeros. -/
structure SignedWhole where
  negative : Bool
  magnitude : Nat
  deriving DecidableEq

namespace SignedWhole

def ofInt (value : Int) : SignedWhole := ⟨decide (value < 0), value.natAbs⟩

def toInt (number : SignedWhole) : Int :=
  if number.negative then -number.magnitude else number.magnitude

def format : NumberFormat :=
  ⟨SignedWhole, SignedWhole, id, id, fun _ => rfl, ofInt, ofInt, toInt⟩

/-- Magnitudes from 2^64 on are infinite. -/
def isFinite (number : SignedWhole) : Bool := decide (number.magnitude < 2 ^ 64)

theorem length_digitsOf {number : SignedWhole} (finite : number.isFinite = true) :
    ((digitsOf number.magnitude).length : Int) - 1 < 1000 := by
  have bound : number.magnitude < 2 ^ 64 := of_decide_eq_true finite
  have short : (Nat.digits 10 number.magnitude).length ≤ 20 := by
    rw [Nat.digits_length_le_iff (by decide)]
    omega
  unfold digitsOf
  split
  · decide
  · rw [List.length_reverse]
    omega

/-- The shortest digits of a whole number are its digits. -/
def text : FloatText SignedWhole where
  isFinite := isFinite
  signbit := negative
  isZero number := decide (number.magnitude = 0)
  negate number := ⟨!number.negative, number.magnitude⟩
  nearest value := ⟨false, value.num.natAbs⟩
  shortest number := (digitsOf number.magnitude, 0)
  negate_negate number := by
    show SignedWhole.mk (!!number.negative) number.magnitude = number
    rw [Bool.not_not]
  signbit_negate _ := rfl
  isFinite_negate _ := rfl
  isZero_negate _ := rfl
  nearest_zero number zero positive := by
    have magnitude : number.magnitude = 0 := of_decide_eq_true zero
    show SignedWhole.mk false 0 = number
    rw [← positive, ← magnitude]
  shortest_digit number digit member := DecimalText.digitsOf_lt member
  shortest_nonempty number _ nonzero _ :=
    DecimalText.digitsOf_first (of_decide_eq_false nonzero)
  shortest_exponent number finite _ _ := by
    have length := length_digitsOf finite
    have nonempty := List.length_pos_of_ne_nil (DecimalText.digitsOf_ne_nil number.magnitude)
    show ((((digitsOf number.magnitude).length : Int) + 0 - 1)).natAbs < 1000
    omega
  nearest_shortest number _ _ positive := by
    show SignedWhole.mk false
      ((DecimalText.numberOf (digitsOf number.magnitude) : ℚ) * 10 ^ (0 : Int)).num.natAbs = number
    rw [DecimalText.numberOf_digitsOf, zpow_zero, mul_one, Rat.num_natCast, Int.natAbs_natCast,
      ← positive]

def floats : FloatText format.Double := text

theorem finite_ofInt {value : Int} (bound : value.natAbs < 2 ^ 64) :
    Finite floats (.float (ofInt value)) :=
  (finite_float floats _).mpr (decide_eq_true bound)

/-- A reach of the right hand without an auxiliary posture. -/
def reach : B1.MoveHandEndEffectorParameter format where
  targetPosture := ⟨⟨⟨ofInt 1⟩, ⟨ofInt 2⟩, ⟨ofInt 3⟩⟩, ⟨⟨ofInt 0⟩, ⟨ofInt (-1)⟩, ⟨ofInt 0⟩⟩⟩
  auxPosture := Posture.initial
  timeMillis := 500
  handIndex := .kRightHand
  hasAux := false
  newVersion := true

/-- What is written of the reach. -/
def reachJson : Json format :=
  .object
    [("target_posture", .object
      [("position",
        .object [("x", .float (ofInt 1)), ("y", .float (ofInt 2)), ("z", .float (ofInt 3))]),
       ("orientation",
        .object [("roll", .float (ofInt 0)), ("pitch", .float (ofInt (-1))),
          ("yaw", .float (ofInt 0))])]),
     ("time_millis", .integer 500), ("hand_index", .integer 1), ("has_aux", .boolean false),
     ("new_version", .boolean true)]

theorem text_roundTrip_reach :
    ∃ text received, dump floats reachJson = .ok text ∧ parse floats text = .ok received ∧
      ∀ memory, B1.MoveHandEndEffectorParameter.fromJson received
        (B1.MoveHandEndEffectorParameter.construct memory) = .ok reach := by
  obtain ⟨json, wrote, survives⟩ :=
    WireClass.text_roundTrip floats .moveHandEndEffectorParameter reach fun _ => rfl
  have literal : json = reachJson := by
    cases wrote
    rfl
  have encoded : reachJson.Encoded := by
    simp [reachJson, Json.Encoded, Json.Every, Json.EveryField]
  have finite : Finite floats reachJson := by
    simp [reachJson, finite_ofInt]
  rw [literal] at survives
  exact survives encoded finite

end SignedWhole

end Booster.Robot
