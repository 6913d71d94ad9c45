/-
This file proves that calibration objects are written and read back as they are.

The values that are read are parsed from texts, or inside values that are: their
strings are UTF-8, their objects in order and their floats finite. Such a value is
dumped to a text that is not empty, which is parsed as its form and dumped from it
again. An object reached from a new one by reading such values keeps, for each body it
holds, either no text or the dump of one of them that is not null; the body of a result
has a metric that can be read wherever it has one, and its form has the same. Writing
parses these texts and reading dumps them again.
-/

import BoosterSdk.HandEyeCalibApi
import BoosterSdk.WireText

namespace Booster.Robot.Vision

open DecimalText (FloatText)
open Json (Double readWhen ReadsBack)
open JsonGrammar (Item Phrase)
open Nlohmann (ParseError parse)
open Nlohmann.Serializer (dump dump_ne_empty reread reread_stable wellRead_of_phrase)

variable {F : NumberFormat} (floats : FloatText F.Double)

/-! ### Values from text -/

/-- Finite floats, of a value that was read and of the values in what it was read from. -/
def FiniteItem : Item F → Prop
  | .value json => Finite floats json
  | .elements values => ∀ value ∈ values, Finite floats value
  | .members fields => ∀ field ∈ fields, Finite floats field.2

/-- A number that fits is finite. -/
theorem finite_of_fits {json : Json F} (fits : ¬ JsonGrammar.Overflows floats json)
    (flat : (∀ elements, json ≠ .array elements) ∧ ∀ fields, json ≠ .object fields) :
    Finite floats json := by
  cases json with
  | float number =>
    refine (finite_float floats number).mpr (Bool.not_eq_false _ ▸ fun infinite => ?_)
    exact fits ⟨number, rfl, infinite⟩
  | array elements => exact absurd rfl (flat.1 elements)
  | object fields => exact absurd rfl (flat.2 fields)
  | null | boolean | integer | unsigned | string => rintro _ ⟨⟩

/-- A number that does not fit is refused, so all floats that are read are finite. -/
theorem finite_of_phrase {item : Item F} {text : List UInt8} (phrase : Phrase floats item text) :
    FiniteItem floats item := by
  induction phrase with
  | null | literalTrue | literalFalse | string => rintro _ ⟨⟩
  | @number numeral _ fits =>
    refine finite_of_fits floats fits ?_
    unfold JsonGrammar.Numeral.value
    repeat' split
    all_goals exact ⟨by rintro _ ⟨⟩, by rintro _ ⟨⟩⟩
  | emptyArray => exact (finite_array floats _).mpr (List.forall_mem_nil _)
  | array _ _ elements => exact (finite_array floats _).mpr elements
  | emptyObject => exact (finite_object floats _).mpr (List.forall_mem_nil _)
  | object _ _ members => exact (finite_object floats _).mpr members
  | firstElement _ _ value => exact List.forall_mem_singleton.mpr value
  | nextElement _ _ _ _ elements value =>
    exact List.forall_mem_append.mpr ⟨elements, List.forall_mem_singleton.mpr value⟩
  | firstMember _ _ _ value => exact List.forall_mem_singleton.mpr value
  | nextMember _ _ _ _ _ members value =>
    intro field member
    obtain rfl | old := Json.mem_insertField member
    · exact value
    · exact members field old

/-- A value that a text is parsed as, or that is inside one. -/
inductive FromText : Json F → Prop where
  | parsed {text : Text} {json : Json F} (result : parse floats text = .ok json) : FromText json
  | element {items : List (Json F)} {item : Json F} (whole : FromText (.array items))
    (member : item ∈ items) : FromText item
  | member {fields : List (String × Json F)} {key : String} {value : Json F}
    (whole : FromText (.object fields)) (found : Json.field key fields = some value) :
    FromText value

variable {floats}

/-- What holds of every value from a text. -/
theorem FromText.read {json : Json F} (fromText : FromText floats json) :
    (json.Encoded ∧ json.Ordered) ∧ Finite floats json := by
  induction fromText with
  | @parsed text json result =>
    obtain ⟨other, document, parsed⟩ | ⟨error, failed, _⟩ := Nlohmann.parse_cases floats text
    · rw [result] at parsed
      cases parsed
      obtain ⟨_, _, _, _, _, _, _, _, phrase, _⟩ := document
      exact ⟨wellRead_of_phrase floats phrase, finite_of_phrase floats phrase⟩
    · rw [result] at failed
      cases failed
  | element _ member inductionHypothesis =>
    obtain ⟨⟨encoded, ordered⟩, finite⟩ := inductionHypothesis
    exact ⟨⟨(Json.encoded_array _).mp encoded _ member, (Json.ordered_array _).mp ordered _ member⟩,
      (finite_array floats _).mp finite _ member⟩
  | member _ found inductionHypothesis =>
    obtain ⟨⟨encoded, ordered⟩, finite⟩ := inductionHypothesis
    have member := Json.mem_of_field found
    exact ⟨⟨(Json.encoded_object _).mp encoded _ member,
        ((Json.ordered_object _).mp ordered).2 _ member⟩,
      (finite_object floats _).mp finite _ member⟩

/-- A value from a text is dumped to a text that is not empty, is parsed as the form of the value
and is what the form is dumped to. -/
theorem FromText.dumped {json : Json F} (fromText : FromText floats json) :
    ∃ text, dump floats json = .ok text ∧ text ≠ Text.empty ∧
      parse floats text = .ok json.canonical ∧ dump floats json.canonical = .ok text := by
  obtain ⟨read, finite⟩ := fromText.read
  obtain ⟨text, dumped, parsed, again⟩ := reread_stable floats read
  have form : reread floats json = json.canonical := by
    have stored := reread_stored floats json finite
    rwa [Json.stored_of_ordered json read.2] at stored
  rw [form] at parsed again
  refine ⟨text, dumped, ?_, parsed, again⟩
  rintro rfl
  exact dump_ne_empty floats json dumped

/-! ### The texts that are kept -/

/-- `nlohmann::json::parse`, which throws its errors. -/
def parseOrThrow (floats : FloatText F.Double) (thrown : ParseError → Thrown) (text : Text) :
    Except Thrown (Json F) :=
  (parse floats text).mapError thrown

/-- The text of a body: none, or the dump of a value from text that is not null. -/
def Holds (floats : FloatText F.Double) (Body : Json F → Prop) (text : Text) : Prop :=
  text = Text.empty ∨
    ∃ json, FromText floats json ∧ json.isNull = false ∧ Body json ∧ dump floats json = .ok text

section Bodies

variable {thrown : ParseError → Thrown} {Body : Json F → Prop} {text : Text}

/-- The text of a body is empty, or is written as the form of a value that is dumped to it. -/
theorem Holds.cases (holds : Holds floats Body text) (thrown : ParseError → Thrown)
    (alike : ∀ body, Body body → Body body.canonical) :
    text = Text.empty ∨ ∃ body : Json F,
      (∀ json key, parseUnlessEmpty (parseOrThrow floats thrown) json key text =
        json.assign key body) ∧
      body.isNull = false ∧ Body body ∧ dump floats body = .ok text := by
  rcases holds with empty | ⟨body, fromText, present, kind, dumped⟩
  · exact .inl empty
  · obtain ⟨other, dumpedTo, nonempty, parsed, again⟩ := fromText.dumped
    rw [dumped] at dumpedTo
    cases dumpedTo
    refine .inr ⟨body.canonical, fun json key => ?_, ?_, alike body kind, again⟩
    · have kept : ¬ text.isEmpty = true := fun empty => nonempty (Text.isEmpty_iff.mp empty)
      have result : parseOrThrow floats thrown text = .ok body.canonical := by
        rw [parseOrThrow, parsed]
        rfl
      rw [parseUnlessEmpty, if_neg kept, result, Json.ok_bind]
    · rw [Json.isNull_canonical, present]

/-- Reading a response from text keeps a body as it was or dumps the one it carries. -/
theorem Holds.read {json : Json F} {key : String} {after : Text} (fromText : FromText floats json)
    (holds : Holds floats Body text) (body : ∀ value, json.index key = .ok value → Body value)
    (read : dumpIfPresent (dump floats) json key text = .ok after) :
    Holds floats Body after := by
  unfold dumpIfPresent at read
  cases present : json.present key with
  | false =>
    rw [present] at read
    cases read
    exact holds
  | true =>
    obtain ⟨fields, value, rfl, found, nonnull⟩ := Json.present_cases present
    have index : (Json.object fields).index key = .ok value := by
      rw [Json.index_object, found]
      rfl
    rw [present, Json.readWhen_true, index, Json.ok_bind] at read
    exact .inr ⟨value, .member fromText found, nonnull, body value index, read⟩

/-! ### Written values -/

/-- A status whose error is held is read back by a new object. -/
theorem HandEyeCalibStatus.readsBack (value : HandEyeCalibStatus F)
    (holds : Holds floats (fun _ => True) value.errorJson) :
    ReadsBack (toJson (parseOrThrow floats thrown))
      (fun json => fromJson (dump floats) json .initial) value := by
  obtain ⟨status, jobId, stage, startedAt, finishedAt, progress, stage2Done, stage2Total,
    stage3Done, stage3Total, errorJson⟩ := value
  rcases holds.cases thrown fun _ kept => kept with rfl | ⟨error, written, nonnull, _, dumped⟩
  · simp [ReadsBack, toJson, fromJson]
  · dsimp only at written dumped
    simp [ReadsBack, toJson, fromJson, written, nonnull, dumped]

/-- A body whose metric can be read wherever it has one. -/
def MetricReads (body : Json F) : Prop :=
  body.present "rms_px" = true → ∃ metric : Double F, body.load "rms_px" = .ok metric

/-- The form of such a body is one. -/
theorem MetricReads.canonical {body : Json F} (reads : MetricReads body) :
    MetricReads body.canonical := by
  unfold MetricReads
  rw [Json.present_canonical, Json.load_canonical]
  exact reads

/-- A result whose bodies are held is read back by a new object: the metric is written beside the
result body, and read after the one inside it. -/
theorem HandEyeCalibResult.readsBack (value : HandEyeCalibResult F)
    (result : Holds floats MetricReads value.resultJson)
    (holds : Holds floats (fun _ => True) value.errorJson) :
    ReadsBack (toJson (parseOrThrow floats thrown))
      (fun json => fromJson (dump floats) json .initial) value := by
  obtain ⟨status, jobId, summary, resultJson, reprojectionErrorPx, progress, stage2Done,
    stage2Total, stage3Done, stage3Total, errorJson⟩ := value
  have metric {body : Json F} (reads : MetricReads body) (old : Double F) :
      ∃ rmsPx, readWhen (body.present "rms_px") (body.load "rms_px") old = .ok rmsPx := by
    cases present : body.present "rms_px" with
    | false => exact ⟨old, rfl⟩
    | true => exact reads present
  rcases result.cases thrown fun _ reads => reads.canonical with
    rfl | ⟨body, bodyWritten, bodyNonnull, reads, bodyDumped⟩
  · rcases holds.cases thrown fun _ kept => kept with rfl | ⟨error, written, nonnull, _, dumped⟩
    · simp [ReadsBack, toJson, fromJson, readRmsPx, hasRmsPx]
    · dsimp only at written dumped
      simp [ReadsBack, toJson, fromJson, readRmsPx, hasRmsPx, written, nonnull, dumped]
  · obtain ⟨rmsPx, rmsRead⟩ := metric reads initial.reprojectionErrorPx
    dsimp only at bodyWritten bodyDumped
    rcases holds.cases thrown fun _ kept => kept with rfl | ⟨error, written, nonnull, _, dumped⟩
    · simp [ReadsBack, toJson, fromJson, readRmsPx, hasRmsPx, bodyWritten, bodyNonnull, bodyDumped,
        rmsRead]
    · dsimp only at written dumped
      simp [ReadsBack, toJson, fromJson, readRmsPx, hasRmsPx, bodyWritten, bodyNonnull, bodyDumped,
        rmsRead, written, nonnull, dumped]

theorem HandEyeCalibApplyResult.readsBack (value : HandEyeCalibApplyResult)
    (holds : Holds floats (fun _ => True) value.errorJson) :
    ReadsBack (toJson (parseOrThrow floats thrown))
      (fun json => fromJson (dump floats) json .initial) value := by
  obtain ⟨status, appliedPath, errorJson⟩ := value
  rcases holds.cases thrown fun _ kept => kept with rfl | ⟨error, written, nonnull, _, dumped⟩
  · simp [ReadsBack, toJson, fromJson]
  · dsimp only at written dumped
    simp [ReadsBack, toJson, fromJson, written, nonnull, dumped]

/-! ### Reading a sequence of responses -/

/-- The metric of a body that has been read can be read. -/
theorem HandEyeCalibResult.Decodes.metricReads {write : Json F → Except Thrown Text}
    {json : Json F} {before after : HandEyeCalibResult F}
    (decodes : Decodes write json before after) {body : Json F}
    (index : json.index "result" = .ok body) : MetricReads body := by
  intro present
  obtain ⟨rmsPx, read, _⟩ := decodes.reprojectionErrorPx
  have has : hasRmsPx json = true := by
    cases json with
    | object fields =>
      rw [Json.index_object] at index
      show ((Json.field "result" fields).any fun result => result.present "rms_px") = true
      cases found : Json.field "result" fields with
      | none =>
        rw [found] at index
        cases index
        cases present
      | some value =>
        rw [found] at index
        cases index
        exact present
    | null =>
      cases index
      cases present
    | _ => cases index
  unfold readRmsPx at read
  rw [has, Json.readWhen_true, index, Json.ok_bind] at read
  exact ⟨rmsPx, read⟩

/-- Calibration objects are written and read back as they are. An object reached from a new one by
reading responses from text, however many, is written without a throw, and a new object that reads
what was written is equal to it. -/
theorem calibration_readsBack (floats : FloatText F.Double) (thrown : ParseError → Thrown)
    (jsons : List (Json F)) (fromText : ∀ json ∈ jsons, FromText floats json) :
    (∀ status : HandEyeCalibStatus F,
      jsons.foldlM (fun self json => HandEyeCalibStatus.fromJson (dump floats) json self) .initial =
        .ok status →
      ∃ json, status.toJson (parseOrThrow floats thrown) = .ok json ∧
        HandEyeCalibStatus.fromJson (dump floats) json .initial = .ok status) ∧
    (∀ result : HandEyeCalibResult F,
      jsons.foldlM (fun self json => HandEyeCalibResult.fromJson (dump floats) json self) .initial =
        .ok result →
      ∃ json, result.toJson (parseOrThrow floats thrown) = .ok json ∧
        HandEyeCalibResult.fromJson (dump floats) json .initial = .ok result) ∧
    ∀ result : HandEyeCalibApplyResult,
      jsons.foldlM (fun self json => HandEyeCalibApplyResult.fromJson (dump floats) json self)
        .initial = .ok result →
      ∃ json, result.toJson (parseOrThrow floats thrown) = .ok json ∧
        HandEyeCalibApplyResult.fromJson (dump floats) json .initial = .ok result := by
  refine ⟨fun status reads => ?_, fun result reads => ?_, fun result reads => ?_⟩
  · have step (json : Json F) (before after : HandEyeCalibStatus F) (kind : FromText floats json)
        (holds : Holds floats (fun _ => True) before.errorJson)
        (read : HandEyeCalibStatus.fromJson (dump floats) json before = .ok after) :
        Holds floats (fun _ => True) after.errorJson :=
      holds.read kind (fun _ _ => trivial) (HandEyeCalibStatus.decodes_of_fromJson read).errorJson
    exact status.readsBack (Json.foldlM_keeps step fromText (.inl rfl) reads)
  · have step (json : Json F) (before after : HandEyeCalibResult F) (kind : FromText floats json)
        (holds : Holds floats MetricReads before.resultJson ∧
          Holds floats (fun _ => True) before.errorJson)
        (read : HandEyeCalibResult.fromJson (dump floats) json before = .ok after) :
        Holds floats MetricReads after.resultJson ∧
          Holds floats (fun _ => True) after.errorJson := by
      have decodes := HandEyeCalibResult.decodes_of_fromJson read
      exact ⟨holds.1.read kind (fun _ index => decodes.metricReads index) decodes.resultJson,
        holds.2.read kind (fun _ _ => trivial) decodes.errorJson⟩
    obtain ⟨body, error⟩ := Json.foldlM_keeps step fromText ⟨.inl rfl, .inl rfl⟩ reads
    exact result.readsBack body error
  · have step (json : Json F) (before after : HandEyeCalibApplyResult)
        (kind : FromText floats json)
        (holds : Holds floats (fun _ => True) before.errorJson)
        (read : HandEyeCalibApplyResult.fromJson (dump floats) json before = .ok after) :
        Holds floats (fun _ => True) after.errorJson :=
      holds.read kind (fun _ _ => trivial)
        (HandEyeCalibApplyResult.decodes_of_fromJson read).errorJson
    exact result.readsBack (Json.foldlM_keeps step fromText (.inl rfl) reads)

end Bodies

/-! ### A job that is done -/

/-- The result of a job that is done, with the metric inside it. -/
def doneResult : Json SignedWhole.format := .object [("rms_px", .unsigned 2)]

def doneResponse : Json SignedWhole.format :=
  .object [("result", doneResult), ("status", .string (Text.ofLiteral "done"))]

theorem doneResponse_fromText : FromText SignedWhole.floats doneResponse := by
  have encoded : doneResponse.Encoded := by
    have status : (Json.string (Text.ofLiteral "done") : Json SignedWhole.format).Encoded :=
      (Json.encoded_string _).mpr ⟨"done".toList, by decide +kernel⟩
    have result : doneResult.Encoded := by
      simp [doneResult, Json.Encoded, Json.Every, Json.EveryField]
    refine (Json.encoded_object _).mpr (List.forall_mem_cons.mpr ⟨result, ?_⟩)
    exact List.forall_mem_singleton.mpr status
  have finite : Finite SignedWhole.floats doneResponse := by
    simp [doneResponse, doneResult]
  obtain ⟨text, _, parsed⟩ :=
    Nlohmann.Serializer.dump_encoded SignedWhole.floats (encoded_stored doneResponse encoded)
  rw [reread_stored SignedWhole.floats doneResponse finite] at parsed
  exact .parsed parsed

/-- An object that has read the response is written and read back, with the metric and the text of
the result. -/
theorem calibration_readsBack_done : ∃ text result json,
    dump SignedWhole.floats doneResult = .ok text ∧
      HandEyeCalibResult.fromJson (dump SignedWhole.floats) doneResponse .initial = .ok result ∧
      result.resultJson = text ∧ result.reprojectionErrorPx = ⟨SignedWhole.ofInt 2⟩ ∧
      result.toJson (parseOrThrow SignedWhole.floats fun error => .json error.id "") = .ok json ∧
      HandEyeCalibResult.fromJson (dump SignedWhole.floats) json .initial = .ok result := by
  have fromText : FromText SignedWhole.floats doneResult :=
    .member doneResponse_fromText (show Json.field "result" _ = _ from rfl)
  obtain ⟨text, dumped, _⟩ := fromText.dumped
  obtain ⟨result, read, kept, metric⟩ : ∃ result,
      HandEyeCalibResult.fromJson (dump SignedWhole.floats) doneResponse .initial = .ok result ∧
        result.resultJson = text ∧ result.reprojectionErrorPx = ⟨SignedWhole.ofInt 2⟩ := by
    refine ⟨{ HandEyeCalibResult.initial with
      status := Text.ofLiteral "done"
      resultJson := text
      reprojectionErrorPx := ⟨SignedWhole.ofInt 2⟩ }, ?_, rfl, rfl⟩
    unfold HandEyeCalibResult.fromJson dumpIfPresent
    rw [show doneResponse.index "result" = .ok doneResult from rfl, Json.ok_bind, dumped]
    rfl
  have reads : [doneResponse].foldlM
      (fun self json => HandEyeCalibResult.fromJson (dump SignedWhole.floats) json self)
      .initial = .ok result := by
    rw [List.foldlM_cons, read]
    rfl
  obtain ⟨json, written, back⟩ := (calibration_readsBack SignedWhole.floats
    (fun error => .json error.id "") [doneResponse]
    (List.forall_mem_singleton.mpr doneResponse_fromText)).2.1 result reads
  exact ⟨text, result, json, dumped, read, kept, metric, written, back⟩

end Booster.Robot.Vision
