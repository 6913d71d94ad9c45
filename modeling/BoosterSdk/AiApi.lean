/-
This file models the payload classes of the AI chat and LUI services.

Classes that take an initializer list of keys and values make an object of them, and
classes that read inside a `try` block rethrow an error of the JSON value as a
`runtime_error` under their own name. A member without an initializer is whatever memory
held before the object was constructed.
-/

import BoosterSdk.Library.JsonValue

namespace Booster.Robot

open Json (Double Codec encode readMember writeMember member_roundTrips rethrow)

variable {F : NumberFormat}

/-! ### AI chat -/

structure TtsConfig where
  voiceType : Text
  ignoreBracketText : List Int8

namespace TtsConfig

def construct (_ : TtsConfig) : TtsConfig := ⟨Text.empty, []⟩

def fromJson (json : Json F) (self : TtsConfig) : Except Thrown TtsConfig :=
  rethrow "TtsConfig JSON error: " do
    let voiceType ← json.loadAt "voice_type"
    let intArray : List Int32 ← json.loadAt "ignore_bracket_text"
    return {
      self with
      voiceType := voiceType
      ignoreBracketText := intArray.map Int32.toInt8
    }

def toJson (self : TtsConfig) : Except Thrown (Json F) :=
  .ok (Json.object [
    ("voice_type", encode self.voiceType),
    ("ignore_bracket_text", encode (self.ignoreBracketText.map Int8.toInt32))])

def codec : Codec F TtsConfig := ⟨construct, toJson, fromJson⟩

theorem roundTrips (value : TtsConfig) : (codec : Codec F TtsConfig).RoundTrips value := by
  refine ⟨_, rfl, fun memory => ?_⟩
  simp [codec, fromJson, Function.comp_def]

end TtsConfig

structure LlmConfig where
  systemPrompt : Text
  welcomeMsg : Text
  promptName : Text

namespace LlmConfig

def construct (_ : LlmConfig) : LlmConfig := ⟨Text.empty, Text.empty, Text.empty⟩

def fromJson (json : Json F) (self : LlmConfig) : Except Thrown LlmConfig := do
  let systemPrompt ← json.loadAt "system_prompt"
  let welcomeMsg ← json.loadAt "welcome_msg"
  let promptName ← json.loadAt "prompt_name"
  return {
    self with
    systemPrompt := systemPrompt
    welcomeMsg := welcomeMsg
    promptName := promptName
  }

def toJson (self : LlmConfig) : Except Thrown (Json F) :=
  .ok (Json.object [
    ("system_prompt", encode self.systemPrompt),
    ("welcome_msg", encode self.welcomeMsg),
    ("prompt_name", encode self.promptName)])

def codec : Codec F LlmConfig := ⟨construct, toJson, fromJson⟩

theorem roundTrips (value : LlmConfig) : (codec : Codec F LlmConfig).RoundTrips value := by
  refine ⟨_, rfl, fun memory => ?_⟩
  simp [codec, fromJson]

end LlmConfig

structure AsrConfig where
  interruptSpeechDuration : Int32
  interruptKeywords : List Text

namespace AsrConfig

def construct (memory : AsrConfig) : AsrConfig := { memory with interruptKeywords := [] }

def fromJson (json : Json F) (self : AsrConfig) : Except Thrown AsrConfig := do
  let interruptSpeechDuration ← json.load "interrupt_speech_duration"
  let interruptKeywords ← json.load "interrupt_keywords"
  return {
    self with
    interruptSpeechDuration := interruptSpeechDuration
    interruptKeywords := interruptKeywords
  }

def toJson (self : AsrConfig) : Except Thrown (Json F) :=
  .ok (Json.object [
    ("interrupt_speech_duration", encode self.interruptSpeechDuration),
    ("interrupt_keywords", encode self.interruptKeywords)])

def codec : Codec F AsrConfig := ⟨construct, toJson, fromJson⟩

theorem roundTrips (value : AsrConfig) : (codec : Codec F AsrConfig).RoundTrips value := by
  refine ⟨_, rfl, fun memory => ?_⟩
  simp [codec, fromJson]

end AsrConfig

structure StartAiChatParameter where
  personaId : Text
  interruptMode : Bool
  ttsConfig : TtsConfig
  llmConfig : LlmConfig
  asrConfig : AsrConfig
  enableFaceTracking : Bool

namespace StartAiChatParameter

def construct (memory : StartAiChatParameter) : StartAiChatParameter where
  personaId := Text.empty
  interruptMode := false
  ttsConfig := memory.ttsConfig.construct
  llmConfig := memory.llmConfig.construct
  asrConfig := memory.asrConfig.construct
  enableFaceTracking := memory.enableFaceTracking

def fromJson (json : Json F) (self : StartAiChatParameter) :
    Except Thrown StartAiChatParameter := do
  let personaId ← json.valueOr "persona_id" Text.empty
  let interruptMode ← json.load "interrupt_mode"
  let enableFaceTracking ← json.load "enable_face_tracking"
  let ttsConfig ← TtsConfig.fromJson (← json.index "tts_config") self.ttsConfig
  let llmConfig ← LlmConfig.fromJson (← json.index "llm_config") self.llmConfig
  let asrConfig ← AsrConfig.fromJson (← json.index "asr_config") self.asrConfig
  return ⟨personaId, interruptMode, ttsConfig, llmConfig, asrConfig, enableFaceTracking⟩

def toJson (self : StartAiChatParameter) : Except Thrown (Json F) := do
  let json := Json.null
  let json ← if self.personaId.isEmpty then pure json else json.store "persona_id" self.personaId
  let json ← json.store "interrupt_mode" self.interruptMode
  let json ← json.assign "asr_config" (← self.asrConfig.toJson)
  let json ← json.assign "llm_config" (← self.llmConfig.toJson)
  let json ← json.assign "tts_config" (← self.ttsConfig.toJson)
  let json ← json.store "enable_face_tracking" self.enableFaceTracking
  return json

def codec : Codec F StartAiChatParameter := ⟨construct, toJson, fromJson⟩

/-- An empty persona is left out and read back as the empty default. -/
theorem roundTrips (value : StartAiChatParameter) :
    (codec : Codec F StartAiChatParameter).RoundTrips value := by
  have ttsConfig : (TtsConfig.codec : Codec F _).RoundTrips value.ttsConfig :=
    value.ttsConfig.roundTrips
  have llmConfig : (LlmConfig.codec : Codec F _).RoundTrips value.llmConfig :=
    value.llmConfig.roundTrips
  have asrConfig : (AsrConfig.codec : Codec F _).RoundTrips value.asrConfig :=
    value.asrConfig.roundTrips
  obtain ⟨tts, wroteTts, readTts⟩ := ttsConfig
  obtain ⟨llm, wroteLlm, readLlm⟩ := llmConfig
  obtain ⟨asr, wroteAsr, readAsr⟩ := asrConfig
  simp only [TtsConfig.codec] at wroteTts readTts
  simp only [LlmConfig.codec] at wroteLlm readLlm
  simp only [AsrConfig.codec] at wroteAsr readAsr
  obtain ⟨personaId, interruptMode, ttsConfig, llmConfig, asrConfig, enableFaceTracking⟩ := value
  by_cases noPersona : personaId = Text.empty <;>
    simp [Codec.RoundTrips, codec, toJson, fromJson, construct, noPersona, wroteTts, readTts,
      wroteLlm, readLlm, wroteAsr, readAsr]

end StartAiChatParameter

structure SpeakParameter where
  msg : Text

namespace SpeakParameter

def construct (_ : SpeakParameter) : SpeakParameter := ⟨Text.empty⟩

def fromJson : Json F → SpeakParameter → Except Thrown SpeakParameter :=
  readMember "msg" fun msg self => { self with msg := msg }

def toJson : SpeakParameter → Except Thrown (Json F) := writeMember "msg" msg

def codec : Codec F SpeakParameter := ⟨construct, toJson, fromJson⟩

theorem roundTrips (value : SpeakParameter) : (codec : Codec F SpeakParameter).RoundTrips value :=
  member_roundTrips fun _ => rfl

end SpeakParameter

/-! ### LUI requests that name a session -/

/-- The members of a request that names a session and a client. -/
structure SessionRequest where
  sessionId : Text
  clientId : Text

namespace SessionRequest

def construct (_ : SessionRequest) : SessionRequest := ⟨Text.empty, Text.empty⟩

/-- Each class reads the two members under its own name. -/
def fromJson (whose : String) (json : Json F) (self : SessionRequest) :
    Except Thrown SessionRequest :=
  rethrow whose do
    let sessionId ← json.loadAt "session_id"
    let clientId ← json.loadAt "client_id"
    return { self with sessionId := sessionId, clientId := clientId }

def toJson (self : SessionRequest) : Except Thrown (Json F) :=
  .ok (Json.object [
    ("session_id", encode self.sessionId),
    ("client_id", encode self.clientId)])

theorem roundTrips (whose : String) (value : SessionRequest) :
    (⟨construct, toJson, fromJson whose⟩ : Codec F SessionRequest).RoundTrips value := by
  refine ⟨_, rfl, fun memory => ?_⟩
  simp [fromJson]

end SessionRequest

abbrev LuiAsrStartRequest := SessionRequest

def LuiAsrStartRequest.codec : Codec F LuiAsrStartRequest :=
  ⟨SessionRequest.construct, SessionRequest.toJson,
    SessionRequest.fromJson "LuiAsrStartRequest JSON error: "⟩

abbrev LuiAsrStopRequest := SessionRequest

def LuiAsrStopRequest.codec : Codec F LuiAsrStopRequest :=
  ⟨SessionRequest.construct, SessionRequest.toJson,
    SessionRequest.fromJson "LuiAsrStopRequest JSON error: "⟩

abbrev LuiTtsStopRequest := SessionRequest

def LuiTtsStopRequest.codec : Codec F LuiTtsStopRequest :=
  ⟨SessionRequest.construct, SessionRequest.toJson,
    SessionRequest.fromJson "LuiTtsStopRequest JSON error: "⟩

/-! ### LUI classes of one text -/

/-- The member of a class of one text. -/
structure SingleText where
  text : Text

namespace SingleText

def construct (_ : SingleText) : SingleText := ⟨Text.empty⟩

/-- Each class reads its member under its own name and key. -/
def fromJson (whose key : String) (json : Json F) (self : SingleText) : Except Thrown SingleText :=
  rethrow whose do
    let text ← json.loadAt key
    return { self with text := text }

def toJson (key : String) (self : SingleText) : Except Thrown (Json F) :=
  .ok (Json.object [(key, encode self.text)])

theorem roundTrips (whose key : String) (value : SingleText) :
    (⟨construct, toJson key, fromJson whose key⟩ : Codec F SingleText).RoundTrips value := by
  refine ⟨_, rfl, fun memory => ?_⟩
  simp [fromJson]

end SingleText

abbrev LuiTtsConfig := SingleText

def LuiTtsConfig.codec : Codec F LuiTtsConfig :=
  ⟨SingleText.construct, SingleText.toJson "voice_type",
    SingleText.fromJson "LuiTtsConfig JSON error: " "voice_type"⟩

abbrev LuiTtsParameter := SingleText

def LuiTtsParameter.codec : Codec F LuiTtsParameter :=
  ⟨SingleText.construct, SingleText.toJson "text",
    SingleText.fromJson "LuiTtsParameter JSON error: " "text"⟩

abbrev LuiRecognizeAudioResponse := SingleText

def LuiRecognizeAudioResponse.codec : Codec F LuiRecognizeAudioResponse :=
  ⟨SingleText.construct, SingleText.toJson "text",
    SingleText.fromJson "LuiRecognizeAudioResponse JSON error: " "text"⟩

/-! ### LUI speech and audio -/

structure LuiSynthesizeSpeechRequest (F : NumberFormat) where
  text : Text
  voiceType : Text
  speed : Double F
  playback : Bool

namespace LuiSynthesizeSpeechRequest

def construct (_ : LuiSynthesizeSpeechRequest F) : LuiSynthesizeSpeechRequest F :=
  ⟨Text.empty, Text.ofLiteral "default", ⟨F.doubleOfInt 1⟩, false⟩

def fromJson (json : Json F) (self : LuiSynthesizeSpeechRequest F) :
    Except Thrown (LuiSynthesizeSpeechRequest F) :=
  rethrow "LuiSynthesizeSpeechRequest JSON error: " do
    let text ← json.loadAt "text"
    let voiceType ← json.loadAtIfContained "voice_type" self.voiceType
    let speed ← json.loadAtIfContained "speed" self.speed
    let playback ← json.loadAtIfContained "playback" self.playback
    return ⟨text, voiceType, speed, playback⟩

def toJson (self : LuiSynthesizeSpeechRequest F) : Except Thrown (Json F) :=
  .ok (Json.object [
    ("text", encode self.text),
    ("voice_type", encode self.voiceType),
    ("speed", encode self.speed),
    ("playback", encode self.playback)])

def codec : Codec F (LuiSynthesizeSpeechRequest F) := ⟨construct, toJson, fromJson⟩

theorem roundTrips (value : LuiSynthesizeSpeechRequest F) :
    (codec : Codec F (LuiSynthesizeSpeechRequest F)).RoundTrips value := by
  refine ⟨_, rfl, fun memory => ?_⟩
  simp [codec, fromJson]

end LuiSynthesizeSpeechRequest

structure LuiSynthesizeSpeechResponse where
  audioBase64 : Text
  sampleRateHz : Int32
  channels : Int32
  bitsPerSample : Int32
  format : Text

namespace LuiSynthesizeSpeechResponse

def construct (_ : LuiSynthesizeSpeechResponse) : LuiSynthesizeSpeechResponse :=
  ⟨Text.empty, 16000, 1, 16, Text.ofLiteral "pcm_s16le"⟩

def fromJson (json : Json F) (self : LuiSynthesizeSpeechResponse) :
    Except Thrown LuiSynthesizeSpeechResponse :=
  rethrow "LuiSynthesizeSpeechResponse JSON error: " do
    let audioBase64 ← json.loadAt "audio_base64"
    let sampleRateHz ← json.loadAt "sample_rate_hz"
    let channels ← json.loadAt "channels"
    let bitsPerSample ← json.loadAt "bits_per_sample"
    let format ← json.loadAt "format"
    return {
      self with
      audioBase64 := audioBase64
      sampleRateHz := sampleRateHz
      channels := channels
      bitsPerSample := bitsPerSample
      format := format
    }

def toJson (self : LuiSynthesizeSpeechResponse) : Except Thrown (Json F) :=
  .ok (Json.object [
    ("audio_base64", encode self.audioBase64),
    ("sample_rate_hz", encode self.sampleRateHz),
    ("channels", encode self.channels),
    ("bits_per_sample", encode self.bitsPerSample),
    ("format", encode self.format)])

def codec : Codec F LuiSynthesizeSpeechResponse := ⟨construct, toJson, fromJson⟩

theorem roundTrips (value : LuiSynthesizeSpeechResponse) :
    (codec : Codec F LuiSynthesizeSpeechResponse).RoundTrips value := by
  refine ⟨_, rfl, fun memory => ?_⟩
  simp [codec, fromJson]

end LuiSynthesizeSpeechResponse

structure LuiRecognizeAudioRequest where
  inputType : Text
  filePath : Text
  audioBase64 : Text
  sampleRateHz : Int32
  channels : Int32
  bitsPerSample : Int32
  format : Text

namespace LuiRecognizeAudioRequest

def construct (_ : LuiRecognizeAudioRequest) : LuiRecognizeAudioRequest :=
  ⟨Text.empty, Text.empty, Text.empty, 16000, 1, 16, Text.ofLiteral "pcm_s16le"⟩

def fromJson (json : Json F) (self : LuiRecognizeAudioRequest) :
    Except Thrown LuiRecognizeAudioRequest :=
  rethrow "LuiRecognizeAudioRequest JSON error: " do
    let inputType ← json.loadAt "input_type"
    let filePath ← json.loadAtIfContained "file_path" self.filePath
    let audioBase64 ← json.loadAtIfContained "audio_base64" self.audioBase64
    let sampleRateHz ← json.loadAtIfContained "sample_rate_hz" self.sampleRateHz
    let channels ← json.loadAtIfContained "channels" self.channels
    let bitsPerSample ← json.loadAtIfContained "bits_per_sample" self.bitsPerSample
    let format ← json.loadAtIfContained "format" self.format
    return ⟨inputType, filePath, audioBase64, sampleRateHz, channels, bitsPerSample, format⟩

def toJson (self : LuiRecognizeAudioRequest) : Except Thrown (Json F) := do
  let json ← Json.null.store "input_type" self.inputType
  let json ← if self.filePath.isEmpty then pure json else json.store "file_path" self.filePath
  let json ←
    if self.audioBase64.isEmpty then pure json else json.store "audio_base64" self.audioBase64
  let json ← json.store "sample_rate_hz" self.sampleRateHz
  let json ← json.store "channels" self.channels
  let json ← json.store "bits_per_sample" self.bitsPerSample
  let json ← json.store "format" self.format
  return json

def codec : Codec F LuiRecognizeAudioRequest := ⟨construct, toJson, fromJson⟩

/-- An empty path or payload is left out and stays as empty as in a new object. -/
theorem roundTrips (value : LuiRecognizeAudioRequest) :
    (codec : Codec F LuiRecognizeAudioRequest).RoundTrips value := by
  obtain ⟨inputType, filePath, audioBase64, sampleRateHz, channels, bitsPerSample, format⟩ := value
  by_cases noPath : filePath = Text.empty <;> by_cases noAudio : audioBase64 = Text.empty <;>
    simp [Codec.RoundTrips, codec, toJson, fromJson, construct, noPath, noAudio]

end LuiRecognizeAudioRequest

end Booster.Robot
