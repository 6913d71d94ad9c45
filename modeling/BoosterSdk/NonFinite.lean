/-
This file says what becomes of a message with a float that is not finite.

Such a float is written as null, and a class that reads a float does not read null. So
the service that gets the message throws, for every class and wherever the float is, and
no float is read in the place of one that is not finite.
-/

import BoosterSdk.WireText

namespace Booster.Robot

open DecimalText (FloatText)
open Json (Double Single decode encode field)
open Nlohmann (parse)
open Nlohmann.Serializer (dump dump_encoded)

variable {F : NumberFormat} (floats : FloatText F.Double)

/-! ### Reading a value with null for floats -/

@[simp] theorem field_blankFields (key : String) (fields : List (String × Json F)) :
    field key (blankFields floats fields) = (field key fields).map (blank floats) := by
  induction fields with
  | nil => rfl
  | cons head rest inductionHypothesis =>
    obtain ⟨other, value⟩ := head
    rw [blankFields, Json.field_cons, Json.field_cons, inductionHypothesis]
    split <;> rfl

@[simp] theorem blank_object (fields : List (String × Json F)) :
    blank floats (.object fields) = .object (blankFields floats fields) := by
  rw [blank]

/-- The types of which null is not read for a float that is not finite. -/
class Strict (F : NumberFormat) (α : Type) [Json.Stored F α] : Prop where
  finite_of_decode : ∀ (floats : FloatText F.Double) {value read : α},
    decode (blank floats (encode value)) = .ok read → Finite floats (encode value)

instance : Strict F (Single F) where
  finite_of_decode floats value read reads := by
    refine (finite_float floats _).mpr ?_
    by_contra infinite
    have null : blank floats (encode value) = .null := by
      show blank floats (.float (F.widen value.value)) = _
      rw [blank, if_neg infinite]
    rw [null] at reads
    cases reads

instance : Strict F (Double F) where
  finite_of_decode floats value read reads := by
    refine (finite_float floats _).mpr ?_
    by_contra infinite
    have null : blank floats (encode value) = .null := by
      show blank floats (.float value.value) = _
      rw [blank, if_neg infinite]
    rw [null] at reads
    cases reads

instance {α : Type} [Json.Stored F α] [Strict F α] : Strict F (List α) where
  finite_of_decode floats values read reads := by
    have all : ∀ read : List α,
        (values.map fun value => blank floats (encode value)).mapM decode = .ok read →
          ∀ value ∈ values, Finite floats (encode value) := by
      clear reads
      induction values with
      | nil => exact fun _ _ _ member => absurd member List.not_mem_nil
      | cons value rest inductionHypothesis =>
        intro read reads
        obtain ⟨_, others, first, later, _⟩ := Json.mapM_cons_eq_ok.mp reads
        exact List.forall_mem_cons.mpr
          ⟨Strict.finite_of_decode floats first, inductionHypothesis others later⟩
    show Finite floats (.array (values.map encode))
    rw [finite_array, List.forall_mem_map]
    refine all read ?_
    have elements : blank floats (encode values) =
        .array (values.map fun value => blank floats (encode value)) := by
      show blank floats (.array (values.map encode)) = _
      rw [blank, blankElements_eq, List.map_map]
      rfl
    rw [elements] at reads
    exact reads

/-- A member that was read had no floats that are not finite. -/
theorem finite_of_load {α : Type} [Json.Stored F α] [Strict F α] {fields : List (String × Json F)}
    {key : String} (value : α) {read : α} (found : field key fields = some (encode value))
    (reads : (blank floats (.object fields)).load key = .ok read) :
    Finite floats (encode value) := by
  rw [blank_object, Json.load_object, field_blankFields, found] at reads
  exact Strict.finite_of_decode floats reads

/-- The types without floats. -/
class Floatless (F : NumberFormat) (α : Type) [Json.Stored F α] : Prop where
  finite_encode : ∀ (floats : FloatText F.Double) (value : α), Finite floats (encode value)

attribute [simp] Floatless.finite_encode

instance : Floatless F Bool := ⟨finite_boolean⟩

instance : Floatless F Text := ⟨finite_string⟩

instance : Floatless F Int64 := ⟨finite_integer⟩

instance : Floatless F Int32 := ⟨fun floats value => finite_integer floats value.toInt64⟩

instance {α : Type} [Json.Stored F α] [Floatless F α] : Floatless F (List α) where
  finite_encode floats values := by
    show Finite floats (.array (values.map encode))
    rw [finite_array, List.forall_mem_map]
    exact fun value _ => Floatless.finite_encode floats value

theorem enumeration_floatless {α : Type} (toUnderlying : α → Int32) (ofUnderlying : Int32 → α)
    (inverse : ∀ value, ofUnderlying (toUnderlying value) = value) :
    @Floatless F α (Json.enumeration toUnderlying ofUnderlying inverse) :=
  @Floatless.mk F α (Json.enumeration toUnderlying ofUnderlying inverse)
    fun floats value => finite_integer floats (toUnderlying value).toInt64

instance : Floatless F RobotMode := enumeration_floatless RobotMode.value RobotMode.mk fun _ => rfl

instance : Floatless F BodyControl :=
  enumeration_floatless BodyControl.value BodyControl.mk fun _ => rfl

instance : Floatless F Frame := enumeration_floatless Frame.value Frame.mk fun _ => rfl

instance : Floatless F TrainedTrajStatus :=
  enumeration_floatless TrainedTrajStatus.value TrainedTrajStatus.mk fun _ => rfl

namespace B1

instance : Floatless F HandIndex :=
  enumeration_floatless HandIndex.value HandIndex.ofValue fun value => by cases value <;> rfl

instance : Floatless F HandAction :=
  enumeration_floatless HandAction.value HandAction.ofValue fun value => by cases value <;> rfl

instance : Floatless F BoosterHandType :=
  enumeration_floatless BoosterHandType.value BoosterHandType.mk fun _ => rfl

instance : Floatless F GaitType := enumeration_floatless GaitType.value GaitType.mk fun _ => rfl

instance : Floatless F GetUpVersion :=
  enumeration_floatless GetUpVersion.value GetUpVersion.mk fun _ => rfl

instance : Floatless F GripperControlMode :=
  enumeration_floatless GripperControlMode.value GripperControlMode.mk fun _ => rfl

instance : Floatless F DanceId := enumeration_floatless DanceId.value DanceId.mk fun _ => rfl

instance : Floatless F WholeBodyDanceId :=
  enumeration_floatless WholeBodyDanceId.value WholeBodyDanceId.mk fun _ => rfl

instance : Floatless F JointOrder :=
  enumeration_floatless JointOrder.value JointOrder.mk fun _ => rfl

instance : Floatless F VisualKickVersion :=
  enumeration_floatless VisualKickVersion.value VisualKickVersion.mk fun _ => rfl

end B1

/-! ### Classes with floats -/

theorem Position.strict {value after : Position F} (self : Position F) {json : Json F}
    (wrote : value.toJson = .ok json) (reads : fromJson (blank floats json) self = .ok after) :
    Finite floats json := by
  cases wrote
  obtain ⟨_, readX, reads⟩ := Json.bind_eq_ok reads
  obtain ⟨_, readY, reads⟩ := Json.bind_eq_ok reads
  obtain ⟨_, readZ, _⟩ := Json.bind_eq_ok reads
  have x := finite_of_load floats value.x (by simp) readX
  have y := finite_of_load floats value.y (by simp) readY
  have z := finite_of_load floats value.z (by simp) readZ
  simp [x, y, z]

theorem Orientation.strict {value after : Orientation F} (self : Orientation F) {json : Json F}
    (wrote : value.toJson = .ok json) (reads : fromJson (blank floats json) self = .ok after) :
    Finite floats json := by
  cases wrote
  obtain ⟨_, readRoll, reads⟩ := Json.bind_eq_ok reads
  obtain ⟨_, readPitch, reads⟩ := Json.bind_eq_ok reads
  obtain ⟨_, readYaw, _⟩ := Json.bind_eq_ok reads
  have roll := finite_of_load floats value.roll (by simp) readRoll
  have pitch := finite_of_load floats value.pitch (by simp) readPitch
  have yaw := finite_of_load floats value.yaw (by simp) readYaw
  simp [roll, pitch, yaw]

/-- A member of an object, with null for floats. -/
theorem index_blank {fields : List (String × Json F)} {key : String} (value : Json F)
    {item : Json F} (found : field key fields = some value)
    (read : (blank floats (.object fields)).index key = .ok item) : item = blank floats value := by
  rw [blank_object, Json.index_object, field_blankFields, found] at read
  exact (Except.ok.inj read).symm

theorem Posture.strict {value after : Posture F} (self : Posture F) {json : Json F}
    (wrote : value.toJson = .ok json) (reads : fromJson (blank floats json) self = .ok after) :
    Finite floats json := by
  obtain ⟨position, wrotePosition, _⟩ := value.position.roundTrips
  obtain ⟨orientation, wroteOrientation, _⟩ := value.orientation.roundTrips
  simp only [Position.codec, Orientation.codec] at wrotePosition wroteOrientation
  simp [toJson, wrotePosition, wroteOrientation] at wrote
  cases wrote
  obtain ⟨item, found, reads⟩ := Json.bind_eq_ok reads
  cases index_blank floats position (by simp) found
  obtain ⟨_, readPosition, reads⟩ := Json.bind_eq_ok reads
  obtain ⟨item, found, reads⟩ := Json.bind_eq_ok reads
  cases index_blank floats orientation (by simp) found
  obtain ⟨_, readOrientation, _⟩ := Json.bind_eq_ok reads
  simp [Position.strict floats _ wrotePosition readPosition,
    Orientation.strict floats _ wroteOrientation readOrientation]

/-- A member without floats is read as it was written. -/
theorem load_floatless {α : Type} [Json.Stored F α] [Floatless F α]
    {fields : List (String × Json F)} {key : String} (value : α)
    (found : field key fields = some (encode value)) :
    (blank floats (.object fields)).load key = .ok value := by
  rw [blank_object, Json.load_object, field_blankFields, found]
  show decode (blank floats (encode value)) = _
  rw [blank_of_finite floats _ (Floatless.finite_encode floats value), Json.decode_encode]

namespace B1

theorem RotateHeadParameter.strict {value after : RotateHeadParameter F}
    (self : RotateHeadParameter F) {json : Json F} (wrote : value.toJson = .ok json)
    (reads : fromJson (blank floats json) self = .ok after) : Finite floats json := by
  cases wrote
  obtain ⟨_, readPitch, reads⟩ := Json.bind_eq_ok reads
  obtain ⟨_, readYaw, _⟩ := Json.bind_eq_ok reads
  have pitch := finite_of_load floats value.pitch (by simp) readPitch
  have yaw := finite_of_load floats value.yaw (by simp) readYaw
  simp [pitch, yaw]

theorem RotateHeadWithTimeParameter.strict {value after : RotateHeadWithTimeParameter F}
    (self : RotateHeadWithTimeParameter F) {json : Json F} (wrote : value.toJson = .ok json)
    (reads : fromJson (blank floats json) self = .ok after) : Finite floats json := by
  cases wrote
  obtain ⟨_, readPitch, reads⟩ := Json.bind_eq_ok reads
  obtain ⟨_, readYaw, _⟩ := Json.bind_eq_ok reads
  have pitch := finite_of_load floats value.pitch (by simp) readPitch
  have yaw := finite_of_load floats value.yaw (by simp) readYaw
  simp [pitch, yaw]

theorem MoveParameter.strict {value after : MoveParameter F}
    (self : MoveParameter F) {json : Json F} (wrote : value.toJson = .ok json)
    (reads : fromJson (blank floats json) self = .ok after) : Finite floats json := by
  cases wrote
  obtain ⟨_, readVx, reads⟩ := Json.bind_eq_ok reads
  obtain ⟨_, readVy, reads⟩ := Json.bind_eq_ok reads
  obtain ⟨_, readVyaw, _⟩ := Json.bind_eq_ok reads
  have vx := finite_of_load floats value.vx (by simp) readVx
  have vy := finite_of_load floats value.vy (by simp) readVy
  have vyaw := finite_of_load floats value.vyaw (by simp) readVyaw
  simp [vx, vy, vyaw]

theorem MoveHandEndEffectorParameter.strict {value after : MoveHandEndEffectorParameter F}
    (self : MoveHandEndEffectorParameter F) {json : Json F} (wrote : value.toJson = .ok json)
    (reads : fromJson (blank floats json) self = .ok after) : Finite floats json := by
  obtain ⟨targetPosture, auxPosture, timeMillis, handIndex, hasAux, newVersion⟩ := value
  obtain ⟨target, wroteTarget, _⟩ := targetPosture.roundTrips
  obtain ⟨aux, wroteAux, _⟩ := auxPosture.roundTrips
  simp only [Posture.codec] at wroteTarget wroteAux
  cases hasAux with
  | false =>
    simp [toJson, wroteTarget] at wrote
    cases wrote
    obtain ⟨item, found, reads⟩ := Json.bind_eq_ok reads
    cases index_blank floats target (by simp) found
    obtain ⟨_, readTarget, _⟩ := Json.bind_eq_ok reads
    simp [Posture.strict floats _ wroteTarget readTarget]
  | true =>
    simp [toJson, wroteTarget, wroteAux] at wrote
    cases wrote
    obtain ⟨item, found, reads⟩ := Json.bind_eq_ok reads
    cases index_blank floats target (by simp) found
    obtain ⟨_, readTarget, reads⟩ := Json.bind_eq_ok reads
    rw [load_floatless floats true (by simp), Json.ok_bind, if_pos rfl] at reads
    obtain ⟨item, found, reads⟩ := Json.bind_eq_ok reads
    cases index_blank floats aux (by simp) found
    obtain ⟨_, readAux, _⟩ := Json.bind_eq_ok reads
    simp [Posture.strict floats _ wroteTarget readTarget, Posture.strict floats _ wroteAux readAux]

theorem MoveDualHandEndEffectorParameter.strict
    {value after : MoveDualHandEndEffectorParameter F}
    (self : MoveDualHandEndEffectorParameter F) {json : Json F}
    (wrote : value.toJson = .ok json) (reads : fromJson (blank floats json) self = .ok after) :
    Finite floats json := by
  obtain ⟨left, wroteLeft, _⟩ := value.leftTargetPosture.roundTrips
  obtain ⟨right, wroteRight, _⟩ := value.rightTargetPosture.roundTrips
  simp only [Posture.codec] at wroteLeft wroteRight
  simp [toJson, wroteLeft, wroteRight] at wrote
  cases wrote
  obtain ⟨item, found, reads⟩ := Json.bind_eq_ok reads
  cases index_blank floats left (by simp) found
  obtain ⟨_, readLeft, reads⟩ := Json.bind_eq_ok reads
  obtain ⟨item, found, reads⟩ := Json.bind_eq_ok reads
  cases index_blank floats right (by simp) found
  obtain ⟨_, readRight, _⟩ := Json.bind_eq_ok reads
  simp [Posture.strict floats _ wroteLeft readLeft, Posture.strict floats _ wroteRight readRight]

/-- What is written of some parameters. -/
def CustomModelParams.written (value : CustomModelParams F) : Json F :=
  .object [("action_scale", encode value.actionScale), ("kp", encode value.kp),
    ("kd", encode value.kd)]

theorem CustomModelParams.toJson_written (value : CustomModelParams F) :
    value.toJson = .ok value.written := by
  simp [toJson, written]

theorem CustomModelParams.strict {value after : CustomModelParams F} (self : CustomModelParams F)
    (reads : fromJson (blank floats value.written) self = .ok after) :
    Finite floats value.written := by
  have present (key : String) (found : (field key [("action_scale", encode value.actionScale),
      ("kp", encode value.kp), ("kd", (encode value.kd : Json F))]).isSome = true) :
      (blank floats value.written).contains key = true := by
    rw [written, blank_object, Json.contains_object, field_blankFields, Option.isSome_map, found]
  unfold fromJson at reads
  rw [if_pos (present "action_scale" (by simp))] at reads
  obtain ⟨_, readActionScale, reads⟩ := Json.bind_eq_ok reads
  dsimp only at reads
  rw [if_pos (present "kp" (by simp))] at reads
  obtain ⟨_, readKp, reads⟩ := Json.bind_eq_ok reads
  rw [if_pos (present "kd" (by simp))] at reads
  obtain ⟨_, readKd, _⟩ := Json.bind_eq_ok reads
  have actionScale := finite_of_load floats value.actionScale (by simp) readActionScale
  have kp := finite_of_load floats value.kp (by simp) readKp
  have kd := finite_of_load floats value.kd (by simp) readKd
  simp [written, actionScale, kp, kd]

theorem CustomModel.strict {value after : CustomModel F} (self : CustomModel F) {json : Json F}
    (wrote : value.toJson = .ok json) (reads : fromJson (blank floats json) self = .ok after) :
    Finite floats json := by
  have pushed := Json.pushEach_eq CustomModelParams.toJson_written "params" value.params
    (show field "params" [("file_path", encode value.filePath), ("params", Json.array [])] =
      some (Json.array ([] : List (Json F))) by simp)
  simp [toJson, pushed] at wrote
  cases wrote
  have items : ∀ params ∈ value.params, Finite floats params.written := by
    obtain ⟨_, _, reads⟩ := Json.bind_eq_ok reads
    obtain ⟨item, found, reads⟩ := Json.bind_eq_ok reads
    cases index_blank floats (.array (value.params.map CustomModelParams.written)) (by simp) found
    dsimp only at reads
    rw [if_pos (by simp [blank, Json.isArray]), found, Json.ok_bind, blank, blankElements_eq,
      List.map_map] at reads
    obtain ⟨_, readParams, _⟩ := Json.bind_eq_ok reads
    intro params member
    obtain ⟨_, readOne⟩ := Json.read_of_readEach readParams _ (List.mem_map_of_mem member)
    exact CustomModelParams.strict floats _ readOne
  simpa using items

theorem CustomTrainedTraj.strict {value after : CustomTrainedTraj F}
    (self : CustomTrainedTraj F) {json : Json F} (wrote : value.toJson = .ok json)
    (reads : fromJson (blank floats json) self = .ok after) : Finite floats json := by
  obtain ⟨model, wroteModel, _⟩ := value.model.roundTrips
  simp only [CustomModel.codec] at wroteModel
  simp [toJson, wroteModel] at wrote
  cases wrote
  obtain ⟨_, _, reads⟩ := Json.bind_eq_ok reads
  obtain ⟨item, found, reads⟩ := Json.bind_eq_ok reads
  cases index_blank floats model (by simp) found
  obtain ⟨_, readModel, _⟩ := Json.bind_eq_ok reads
  simp [CustomModel.strict floats _ wroteModel readModel]

end B1

theorem LuiSynthesizeSpeechRequest.strict {value after : LuiSynthesizeSpeechRequest F}
    (self : LuiSynthesizeSpeechRequest F) {json : Json F} (wrote : value.toJson = .ok json)
    (reads : fromJson (blank floats json) self = .ok after) : Finite floats json := by
  cases wrote
  obtain ⟨_, _, reads⟩ := Json.bind_eq_ok (Json.eq_ok_of_rethrow reads)
  obtain ⟨_, _, reads⟩ := Json.bind_eq_ok reads
  obtain ⟨speed, readSpeed, _⟩ := Json.bind_eq_ok reads
  have finite : Finite floats (encode value.speed) := by
    have contained : (blank floats (.object [("text", encode value.text),
        ("voice_type", encode value.voiceType), ("speed", encode value.speed),
        ("playback", encode value.playback)])).contains "speed" = true := by simp
    unfold Json.loadAtIfContained at readSpeed
    rw [contained, Json.readWhen_true, blank_object, Json.loadAt_object,
      field_blankFields] at readSpeed
    exact Strict.finite_of_decode floats readSpeed
  simp [finite]

/-! ### Classes without floats -/

theorem RequestHeader.finite {value : RequestHeader} {json : Json F}
    (wrote : value.toJson = .ok json) : Finite floats json := by
  obtain ⟨apiId, callMode, operationCommand, reqId, operationId⟩ := value
  by_cases noCommand : operationCommand = .kNone <;> by_cases noReq : reqId = Text.empty <;>
    by_cases noOperation : operationId = Text.empty <;>
    simp [toJson, noCommand, noReq, noOperation] at wrote <;> cases wrote <;> simp

theorem StartAiChatParameter.finite {value : StartAiChatParameter} {json : Json F}
    (wrote : value.toJson = .ok json) : Finite floats json := by
  obtain ⟨personaId, interruptMode, ttsConfig, llmConfig, asrConfig, enableFaceTracking⟩ := value
  by_cases noPersona : personaId = Text.empty <;>
    simp [toJson, noPersona, TtsConfig.toJson, LlmConfig.toJson, AsrConfig.toJson] at wrote <;>
    cases wrote <;> simp

theorem B1.DexterousFingerParameter.toJson_written (value : DexterousFingerParameter) :
    (value.toJson : Except Thrown (Json F)) =
      .ok (.object [("seq", encode value.seq), ("angle", encode value.angle),
        ("force", encode value.force), ("speed", encode value.speed)]) := by
  simp [toJson]

theorem B1.ControlDexterousHandParameter.finite {value : ControlDexterousHandParameter}
    {json : Json F} (wrote : value.toJson = .ok json) : Finite floats json := by
  obtain ⟨fingerParams, handIndex, handType⟩ := value
  cases fingerParams with
  | nil =>
    cases wrote
    simp
  | cons finger rest =>
    have pushed := Json.pushEach_null_eq (F := F) DexterousFingerParameter.toJson_written
      "finger_params" (List.cons_ne_nil finger rest)
    simp only [toJson, pushed, Json.ok_bind, Json.store_object] at wrote
    cases wrote
    simp

theorem LuiRecognizeAudioRequest.finite {value : LuiRecognizeAudioRequest} {json : Json F}
    (wrote : value.toJson = .ok json) : Finite floats json := by
  obtain ⟨inputType, filePath, audioBase64, sampleRateHz, channels, bitsPerSample, format⟩ := value
  by_cases noFile : filePath = Text.empty <;> by_cases noAudio : audioBase64 = Text.empty <;>
    simp [toJson, noFile, noAudio] at wrote <;> cases wrote <;> simp

/-! ### Every class -/

/-- A class that reads what is received of what it wrote, wrote no float that is not finite. -/
theorem WireClass.strict (wireClass : WireClass) {value self after : Object F wireClass}
    {json : Json F} (wrote : (codec wireClass).toJson value = .ok json)
    (reads : (codec wireClass).fromJson (blank floats json).canonical self = .ok after) :
    Finite floats json := by
  cases wireClass with
  | rotateHeadParameter =>
    exact B1.RotateHeadParameter.strict floats self wrote
      ((B1.RotateHeadParameter.fromJson_canonical _ self).symm.trans reads)
  | rotateHeadWithTimeParameter =>
    exact B1.RotateHeadWithTimeParameter.strict floats self wrote
      ((B1.RotateHeadWithTimeParameter.fromJson_canonical _ self).symm.trans reads)
  | moveParameter =>
    exact B1.MoveParameter.strict floats self wrote
      ((B1.MoveParameter.fromJson_canonical _ self).symm.trans reads)
  | moveHandEndEffectorParameter =>
    exact B1.MoveHandEndEffectorParameter.strict floats self wrote
      ((B1.MoveHandEndEffectorParameter.fromJson_canonical _ self).symm.trans reads)
  | moveDualHandEndEffectorParameter =>
    exact B1.MoveDualHandEndEffectorParameter.strict floats self wrote
      ((B1.MoveDualHandEndEffectorParameter.fromJson_canonical _ self).symm.trans reads)
  | customModelParams =>
    cases (B1.CustomModelParams.toJson_written value).symm.trans wrote
    exact B1.CustomModelParams.strict floats self
      ((B1.CustomModelParams.fromJson_canonical _ self).symm.trans reads)
  | customModel =>
    exact B1.CustomModel.strict floats self wrote
      ((B1.CustomModel.fromJson_canonical _ self).symm.trans reads)
  | customTrainedTraj =>
    exact B1.CustomTrainedTraj.strict floats self wrote
      ((B1.CustomTrainedTraj.fromJson_canonical _ self).symm.trans reads)
  | luiSynthesizeSpeechRequest =>
    exact LuiSynthesizeSpeechRequest.strict floats self wrote
      ((LuiSynthesizeSpeechRequest.fromJson_canonical _ self).symm.trans reads)
  | controlDexterousHandParameter =>
    exact B1.ControlDexterousHandParameter.finite floats wrote
  | requestHeader => exact RequestHeader.finite floats wrote
  | startAiChatParameter => exact StartAiChatParameter.finite floats wrote
  | luiRecognizeAudioRequest => exact LuiRecognizeAudioRequest.finite floats wrote
  | _ =>
    cases wrote
    simp

/-- A message with a float that is not finite is not received: for every class, if `ToJson` of an
object writes such a float, what `dump` makes of it is a text that is parsed, and `FromJson` of what
was parsed throws, whatever the object is that it reads into. -/
theorem WireClass.text_refused (wireClass : WireClass) (value : Object F wireClass) {json : Json F}
    (wrote : (codec wireClass).toJson value = .ok json) (encoded : json.Encoded)
    (infinite : ¬ Finite floats json) :
    ∃ text received, dump floats json = .ok text ∧ parse floats text = .ok received ∧
      ∀ self, ∃ thrown, (codec wireClass).fromJson received self = .error thrown := by
  obtain ⟨text, dumped, parsed⟩ := dump_encoded floats (encoded_stored json encoded)
  rw [reread_blank] at parsed
  refine ⟨text, _, dumped, parsed, fun self => ?_⟩
  cases reads : (codec wireClass).fromJson (blank floats json).canonical self with
  | error thrown => exact ⟨thrown, rfl⟩
  | ok after => exact absurd (wireClass.strict floats wrote reads) infinite

namespace SignedWhole

/-- A walk whose speed is infinite. -/
def runaway : B1.MoveParameter format := ⟨⟨⟨false, 2 ^ 64⟩⟩, ⟨ofInt 0⟩, ⟨ofInt 0⟩⟩

/-- What is written of it. -/
def runawayJson : Json format :=
  .object [("vx", .float ⟨false, 2 ^ 64⟩), ("vy", .float (ofInt 0)), ("vyaw", .float (ofInt 0))]

theorem text_refused_runaway :
    ∃ text received, dump SignedWhole.floats runawayJson = .ok text ∧
      parse SignedWhole.floats text = .ok received ∧
      ∀ self, ∃ thrown, B1.MoveParameter.fromJson received self = .error thrown := by
  refine WireClass.text_refused SignedWhole.floats .moveParameter runaway rfl ?_ ?_
  · simp [runawayJson, Json.Encoded, Json.Every, Json.EveryField]
  · intro finite
    have speed := (finite_object SignedWhole.floats _).mp finite _ List.mem_cons_self
    have small := (finite_float SignedWhole.floats _).mp speed
    have below : (2 ^ 64 : Nat) < 2 ^ 64 := of_decide_eq_true (p := (2 ^ 64 : Nat) < 2 ^ 64) small
    exact absurd below (Nat.lt_irrefl _)

end SignedWhole

end Booster.Robot
