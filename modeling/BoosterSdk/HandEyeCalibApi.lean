/-
This file models the responses of the hand-eye calibration service.

A member that a response does not carry is left as it was, and so is one that it carries
as null, except for the status. An error body and a result body are kept as the text they
are dumped to and parsed again when the object is written; the parser and the serializer
are parameters.
-/

import BoosterSdk.WireFormat
import Mathlib.Tactic.MkIffOfInductiveProp

namespace Booster.Robot.Vision

open Json (Double readWhen)

variable {F : NumberFormat}

/-- `if (json.contains(key) && !json[key].is_null()) member = json[key].dump();`. -/
def dumpIfPresent (dump : Json F → Except Thrown Text) (json : Json F) (key : String) :
    Text → Except Thrown Text :=
  readWhen (json.present key) (json.index key >>= dump)

/-- `if (!member.empty()) json[key] = nlohmann::json::parse(member);`. -/
def parseUnlessEmpty (parse : Text → Except Thrown (Json F)) (json : Json F) (key : String)
    (member : Text) : Except Thrown (Json F) :=
  if member.isEmpty then pure json else parse member >>= json.assign key

@[simp] theorem dumpIfPresent_object (dump : Json F → Except Thrown Text)
    (fields : List (String × Json F)) (key : String) (old : Text) :
    dumpIfPresent dump (.object fields) key old =
      readWhen ((Json.field key fields).any fun value => !value.isNull)
        (dump ((Json.field key fields).getD .null)) old := rfl

@[simp] theorem parseUnlessEmpty_empty (parse : Text → Except Thrown (Json F)) (json : Json F)
    (key : String) : parseUnlessEmpty parse json key Text.empty = .ok json := rfl

/-! ### HandEyeCalibStatus -/

@[ext]
structure HandEyeCalibStatus (F : NumberFormat) where
  status : Text
  jobId : Text
  stage : Text
  startedAt : Text
  finishedAt : Text
  progress : Double F
  stage2Done : Int32
  stage2Total : Int32
  stage3Done : Int32
  stage3Total : Int32
  errorJson : Text

namespace HandEyeCalibStatus

/-- `HandEyeCalibStatus()`. -/
def initial : HandEyeCalibStatus F where
  status := Text.empty
  jobId := Text.empty
  stage := Text.empty
  startedAt := Text.empty
  finishedAt := Text.empty
  progress := ⟨F.doubleOfInt 0⟩
  stage2Done := 0
  stage2Total := 0
  stage3Done := 0
  stage3Total := 0
  errorJson := Text.empty

@[simp] theorem initial_errorJson : (initial : HandEyeCalibStatus F).errorJson = Text.empty := rfl

def fromJson (dump : Json F → Except Thrown Text) (json : Json F) (self : HandEyeCalibStatus F) :
    Except Thrown (HandEyeCalibStatus F) := do
  let status ← json.loadIfContained "status" self.status
  let jobId ← json.loadIfPresent "job_id" self.jobId
  let stage ← json.loadIfPresent "stage" self.stage
  let startedAt ← json.loadIfPresent "started_at" self.startedAt
  let finishedAt ← json.loadIfPresent "finished_at" self.finishedAt
  let progress ← json.loadIfPresent "progress" self.progress
  let stage2Done ← json.loadIfPresent "stage2_done" self.stage2Done
  let stage2Total ← json.loadIfPresent "stage2_total" self.stage2Total
  let stage3Done ← json.loadIfPresent "stage3_done" self.stage3Done
  let stage3Total ← json.loadIfPresent "stage3_total" self.stage3Total
  let errorJson ← dumpIfPresent dump json "error" self.errorJson
  return {
    self with
    status := status
    jobId := jobId
    stage := stage
    startedAt := startedAt
    finishedAt := finishedAt
    progress := progress
    stage2Done := stage2Done
    stage2Total := stage2Total
    stage3Done := stage3Done
    stage3Total := stage3Total
    errorJson := errorJson
  }

def toJson (parse : Text → Except Thrown (Json F)) (self : HandEyeCalibStatus F) :
    Except Thrown (Json F) := do
  let json ← Json.null.store "status" self.status
  let json ← json.store "job_id" self.jobId
  let json ← json.store "stage" self.stage
  let json ← json.store "started_at" self.startedAt
  let json ← json.store "finished_at" self.finishedAt
  let json ← json.store "progress" self.progress
  let json ← json.store "stage2_done" self.stage2Done
  let json ← json.store "stage2_total" self.stage2Total
  let json ← json.store "stage3_done" self.stage3Done
  let json ← json.store "stage3_total" self.stage3Total
  parseUnlessEmpty parse json "error" self.errorJson

/-- What reading does to each member. -/
structure Decodes (dump : Json F → Except Thrown Text) (json : Json F)
    (before after : HandEyeCalibStatus F) : Prop where
  status : json.loadIfContained "status" before.status = .ok after.status
  jobId : json.loadIfPresent "job_id" before.jobId = .ok after.jobId
  stage : json.loadIfPresent "stage" before.stage = .ok after.stage
  startedAt : json.loadIfPresent "started_at" before.startedAt = .ok after.startedAt
  finishedAt : json.loadIfPresent "finished_at" before.finishedAt = .ok after.finishedAt
  progress : json.loadIfPresent "progress" before.progress = .ok after.progress
  stage2Done : json.loadIfPresent "stage2_done" before.stage2Done = .ok after.stage2Done
  stage2Total : json.loadIfPresent "stage2_total" before.stage2Total = .ok after.stage2Total
  stage3Done : json.loadIfPresent "stage3_done" before.stage3Done = .ok after.stage3Done
  stage3Total : json.loadIfPresent "stage3_total" before.stage3Total = .ok after.stage3Total
  errorJson : dumpIfPresent dump json "error" before.errorJson = .ok after.errorJson

theorem decodes_of_fromJson {dump : Json F → Except Thrown Text} {json : Json F}
    {before after : HandEyeCalibStatus F} (read : fromJson dump json before = .ok after) :
    Decodes dump json before after := by
  unfold fromJson at read
  obtain ⟨status, statusRead, read⟩ := Json.bind_eq_ok read
  obtain ⟨jobId, jobIdRead, read⟩ := Json.bind_eq_ok read
  obtain ⟨stage, stageRead, read⟩ := Json.bind_eq_ok read
  obtain ⟨startedAt, startedAtRead, read⟩ := Json.bind_eq_ok read
  obtain ⟨finishedAt, finishedAtRead, read⟩ := Json.bind_eq_ok read
  obtain ⟨progress, progressRead, read⟩ := Json.bind_eq_ok read
  obtain ⟨stage2Done, stage2DoneRead, read⟩ := Json.bind_eq_ok read
  obtain ⟨stage2Total, stage2TotalRead, read⟩ := Json.bind_eq_ok read
  obtain ⟨stage3Done, stage3DoneRead, read⟩ := Json.bind_eq_ok read
  obtain ⟨stage3Total, stage3TotalRead, read⟩ := Json.bind_eq_ok read
  obtain ⟨errorJson, errorJsonRead, read⟩ := Json.bind_eq_ok read
  cases read
  exact ⟨statusRead, jobIdRead, stageRead, startedAtRead, finishedAtRead, progressRead,
    stage2DoneRead, stage2TotalRead, stage3DoneRead, stage3TotalRead, errorJsonRead⟩

/-- Two objects agree on every member that a response leaves as it was. -/
@[mk_iff]
structure AgreeBeside (json : Json F) (first second : HandEyeCalibStatus F) : Prop where
  status : json.contains "status" = false → first.status = second.status
  jobId : json.present "job_id" = false → first.jobId = second.jobId
  stage : json.present "stage" = false → first.stage = second.stage
  startedAt : json.present "started_at" = false → first.startedAt = second.startedAt
  finishedAt : json.present "finished_at" = false → first.finishedAt = second.finishedAt
  progress : json.present "progress" = false → first.progress = second.progress
  stage2Done : json.present "stage2_done" = false → first.stage2Done = second.stage2Done
  stage2Total : json.present "stage2_total" = false → first.stage2Total = second.stage2Total
  stage3Done : json.present "stage3_done" = false → first.stage3Done = second.stage3Done
  stage3Total : json.present "stage3_total" = false → first.stage3Total = second.stage3Total
  errorJson : json.present "error" = false → first.errorJson = second.errorJson

/-- Two reads of one response agree exactly when the objects agreed on what it leaves. -/
theorem Decodes.agree {dump : Json F → Except Thrown Text} {json : Json F}
    {first second firstRead secondRead : HandEyeCalibStatus F}
    (one : Decodes dump json first firstRead) (other : Decodes dump json second secondRead) :
    firstRead = secondRead ↔ AgreeBeside json first second := by
  rw [HandEyeCalibStatus.ext_iff, Json.readWhen_agree one.status other.status,
    Json.readWhen_agree one.jobId other.jobId, Json.readWhen_agree one.stage other.stage,
    Json.readWhen_agree one.startedAt other.startedAt,
    Json.readWhen_agree one.finishedAt other.finishedAt,
    Json.readWhen_agree one.progress other.progress,
    Json.readWhen_agree one.stage2Done other.stage2Done,
    Json.readWhen_agree one.stage2Total other.stage2Total,
    Json.readWhen_agree one.stage3Done other.stage3Done,
    Json.readWhen_agree one.stage3Total other.stage3Total,
    Json.readWhen_agree one.errorJson other.errorJson, agreeBeside_iff]

end HandEyeCalibStatus

/-! ### HandEyeCalibResult -/

@[ext]
structure HandEyeCalibResult (F : NumberFormat) where
  status : Text
  jobId : Text
  summary : Text
  resultJson : Text
  reprojectionErrorPx : Double F
  progress : Double F
  stage2Done : Int32
  stage2Total : Int32
  stage3Done : Int32
  stage3Total : Int32
  errorJson : Text

/-- `json.contains("result") && json["result"].is_object() && json["result"].contains("rms_px") &&
!json["result"]["rms_px"].is_null()`. -/
def hasRmsPx : Json F → Bool
  | .object fields => (Json.field "result" fields).any fun result => result.present "rms_px"
  | _ => false

namespace HandEyeCalibResult

/-- `HandEyeCalibResult()`. -/
def initial : HandEyeCalibResult F where
  status := Text.empty
  jobId := Text.empty
  summary := Text.empty
  resultJson := Text.empty
  reprojectionErrorPx := ⟨F.doubleOfInt 0⟩
  progress := ⟨F.doubleOfInt 0⟩
  stage2Done := 0
  stage2Total := 0
  stage3Done := 0
  stage3Total := 0
  errorJson := Text.empty

@[simp] theorem initial_resultJson :
    (initial : HandEyeCalibResult F).resultJson = Text.empty := rfl

@[simp] theorem initial_errorJson : (initial : HandEyeCalibResult F).errorJson = Text.empty := rfl

/-- The metric inside a result body. -/
def readRmsPx (json : Json F) : Double F → Except Thrown (Double F) :=
  readWhen (hasRmsPx json) (json.index "result" >>= fun result => result.load "rms_px")

def fromJson (dump : Json F → Except Thrown Text) (json : Json F) (self : HandEyeCalibResult F) :
    Except Thrown (HandEyeCalibResult F) := do
  let status ← json.loadIfContained "status" self.status
  let jobId ← json.loadIfPresent "job_id" self.jobId
  let summary ← json.loadIfPresent "summary" self.summary
  let resultJson ← dumpIfPresent dump json "result" self.resultJson
  let reprojectionErrorPx ← readRmsPx json self.reprojectionErrorPx
  let reprojectionErrorPx ← json.loadIfPresent "reprojection_error_px" reprojectionErrorPx
  let progress ← json.loadIfPresent "progress" self.progress
  let stage2Done ← json.loadIfPresent "stage2_done" self.stage2Done
  let stage2Total ← json.loadIfPresent "stage2_total" self.stage2Total
  let stage3Done ← json.loadIfPresent "stage3_done" self.stage3Done
  let stage3Total ← json.loadIfPresent "stage3_total" self.stage3Total
  let errorJson ← dumpIfPresent dump json "error" self.errorJson
  return {
    self with
    status := status
    jobId := jobId
    summary := summary
    resultJson := resultJson
    reprojectionErrorPx := reprojectionErrorPx
    progress := progress
    stage2Done := stage2Done
    stage2Total := stage2Total
    stage3Done := stage3Done
    stage3Total := stage3Total
    errorJson := errorJson
  }

def toJson (parse : Text → Except Thrown (Json F)) (self : HandEyeCalibResult F) :
    Except Thrown (Json F) := do
  let json ← Json.null.store "status" self.status
  let json ← json.store "job_id" self.jobId
  let json ← json.store "summary" self.summary
  let json ← json.store "reprojection_error_px" self.reprojectionErrorPx
  let json ← json.store "progress" self.progress
  let json ← json.store "stage2_done" self.stage2Done
  let json ← json.store "stage2_total" self.stage2Total
  let json ← json.store "stage3_done" self.stage3Done
  let json ← json.store "stage3_total" self.stage3Total
  let json ← parseUnlessEmpty parse json "result" self.resultJson
  parseUnlessEmpty parse json "error" self.errorJson

/-- What reading does to each member. -/
structure Decodes (dump : Json F → Except Thrown Text) (json : Json F)
    (before after : HandEyeCalibResult F) : Prop where
  status : json.loadIfContained "status" before.status = .ok after.status
  jobId : json.loadIfPresent "job_id" before.jobId = .ok after.jobId
  summary : json.loadIfPresent "summary" before.summary = .ok after.summary
  resultJson : dumpIfPresent dump json "result" before.resultJson = .ok after.resultJson
  reprojectionErrorPx : ∃ rmsPx, readRmsPx json before.reprojectionErrorPx = .ok rmsPx ∧
    json.loadIfPresent "reprojection_error_px" rmsPx = .ok after.reprojectionErrorPx
  progress : json.loadIfPresent "progress" before.progress = .ok after.progress
  stage2Done : json.loadIfPresent "stage2_done" before.stage2Done = .ok after.stage2Done
  stage2Total : json.loadIfPresent "stage2_total" before.stage2Total = .ok after.stage2Total
  stage3Done : json.loadIfPresent "stage3_done" before.stage3Done = .ok after.stage3Done
  stage3Total : json.loadIfPresent "stage3_total" before.stage3Total = .ok after.stage3Total
  errorJson : dumpIfPresent dump json "error" before.errorJson = .ok after.errorJson

theorem decodes_of_fromJson {dump : Json F → Except Thrown Text} {json : Json F}
    {before after : HandEyeCalibResult F} (read : fromJson dump json before = .ok after) :
    Decodes dump json before after := by
  unfold fromJson at read
  obtain ⟨status, statusRead, read⟩ := Json.bind_eq_ok read
  obtain ⟨jobId, jobIdRead, read⟩ := Json.bind_eq_ok read
  obtain ⟨summary, summaryRead, read⟩ := Json.bind_eq_ok read
  obtain ⟨resultJson, resultJsonRead, read⟩ := Json.bind_eq_ok read
  obtain ⟨rmsPx, rmsPxRead, read⟩ := Json.bind_eq_ok read
  obtain ⟨reprojectionErrorPx, reprojectionErrorPxRead, read⟩ := Json.bind_eq_ok read
  obtain ⟨progress, progressRead, read⟩ := Json.bind_eq_ok read
  obtain ⟨stage2Done, stage2DoneRead, read⟩ := Json.bind_eq_ok read
  obtain ⟨stage2Total, stage2TotalRead, read⟩ := Json.bind_eq_ok read
  obtain ⟨stage3Done, stage3DoneRead, read⟩ := Json.bind_eq_ok read
  obtain ⟨stage3Total, stage3TotalRead, read⟩ := Json.bind_eq_ok read
  obtain ⟨errorJson, errorJsonRead, read⟩ := Json.bind_eq_ok read
  cases read
  exact ⟨statusRead, jobIdRead, summaryRead, resultJsonRead, ⟨rmsPx, rmsPxRead,
    reprojectionErrorPxRead⟩, progressRead, stage2DoneRead, stage2TotalRead, stage3DoneRead,
    stage3TotalRead, errorJsonRead⟩

/-- Two objects agree on every member that a response leaves as it was; the metric is left when
neither of its sources is there. -/
@[mk_iff]
structure AgreeBeside (json : Json F) (first second : HandEyeCalibResult F) : Prop where
  status : json.contains "status" = false → first.status = second.status
  jobId : json.present "job_id" = false → first.jobId = second.jobId
  summary : json.present "summary" = false → first.summary = second.summary
  resultJson : json.present "result" = false → first.resultJson = second.resultJson
  reprojectionErrorPx : json.present "reprojection_error_px" = false → hasRmsPx json = false →
    first.reprojectionErrorPx = second.reprojectionErrorPx
  progress : json.present "progress" = false → first.progress = second.progress
  stage2Done : json.present "stage2_done" = false → first.stage2Done = second.stage2Done
  stage2Total : json.present "stage2_total" = false → first.stage2Total = second.stage2Total
  stage3Done : json.present "stage3_done" = false → first.stage3Done = second.stage3Done
  stage3Total : json.present "stage3_total" = false → first.stage3Total = second.stage3Total
  errorJson : json.present "error" = false → first.errorJson = second.errorJson

/-- Two reads of one response agree exactly when the objects agreed on what it leaves. -/
theorem Decodes.agree {dump : Json F → Except Thrown Text} {json : Json F}
    {first second firstRead secondRead : HandEyeCalibResult F}
    (one : Decodes dump json first firstRead) (other : Decodes dump json second secondRead) :
    firstRead = secondRead ↔ AgreeBeside json first second := by
  obtain ⟨oneRms, oneInner, oneOuter⟩ := one.reprojectionErrorPx
  obtain ⟨otherRms, otherInner, otherOuter⟩ := other.reprojectionErrorPx
  rw [HandEyeCalibResult.ext_iff, Json.readWhen_agree one.status other.status,
    Json.readWhen_agree one.jobId other.jobId, Json.readWhen_agree one.summary other.summary,
    Json.readWhen_agree one.resultJson other.resultJson,
    Json.readWhen_agree oneOuter otherOuter, Json.readWhen_agree oneInner otherInner,
    Json.readWhen_agree one.progress other.progress,
    Json.readWhen_agree one.stage2Done other.stage2Done,
    Json.readWhen_agree one.stage2Total other.stage2Total,
    Json.readWhen_agree one.stage3Done other.stage3Done,
    Json.readWhen_agree one.stage3Total other.stage3Total,
    Json.readWhen_agree one.errorJson other.errorJson, agreeBeside_iff]

end HandEyeCalibResult

/-! ### HandEyeCalibApplyResult -/

@[ext]
structure HandEyeCalibApplyResult where
  status : Text
  appliedPath : Text
  errorJson : Text

namespace HandEyeCalibApplyResult

/-- `HandEyeCalibApplyResult()`. -/
def initial : HandEyeCalibApplyResult := ⟨Text.empty, Text.empty, Text.empty⟩

@[simp] theorem initial_errorJson : initial.errorJson = Text.empty := rfl

def fromJson (dump : Json F → Except Thrown Text) (json : Json F)
    (self : HandEyeCalibApplyResult) : Except Thrown HandEyeCalibApplyResult := do
  let status ← json.loadIfContained "status" self.status
  let appliedPath ← json.loadIfPresent "applied_path" self.appliedPath
  let errorJson ← dumpIfPresent dump json "error" self.errorJson
  return { self with status := status, appliedPath := appliedPath, errorJson := errorJson }

def toJson (parse : Text → Except Thrown (Json F)) (self : HandEyeCalibApplyResult) :
    Except Thrown (Json F) := do
  let json ← Json.null.store "status" self.status
  let json ← json.store "applied_path" self.appliedPath
  parseUnlessEmpty parse json "error" self.errorJson

/-- What reading does to each member. -/
structure Decodes (dump : Json F → Except Thrown Text) (json : Json F)
    (before after : HandEyeCalibApplyResult) : Prop where
  status : json.loadIfContained "status" before.status = .ok after.status
  appliedPath : json.loadIfPresent "applied_path" before.appliedPath = .ok after.appliedPath
  errorJson : dumpIfPresent dump json "error" before.errorJson = .ok after.errorJson

theorem decodes_of_fromJson {dump : Json F → Except Thrown Text} {json : Json F}
    {before after : HandEyeCalibApplyResult} (read : fromJson dump json before = .ok after) :
    Decodes dump json before after := by
  unfold fromJson at read
  obtain ⟨status, statusRead, read⟩ := Json.bind_eq_ok read
  obtain ⟨appliedPath, appliedPathRead, read⟩ := Json.bind_eq_ok read
  obtain ⟨errorJson, errorJsonRead, read⟩ := Json.bind_eq_ok read
  cases read
  exact ⟨statusRead, appliedPathRead, errorJsonRead⟩

/-- Two objects agree on every member that a response leaves as it was. -/
@[mk_iff]
structure AgreeBeside (json : Json F) (first second : HandEyeCalibApplyResult) : Prop where
  status : json.contains "status" = false → first.status = second.status
  appliedPath : json.present "applied_path" = false → first.appliedPath = second.appliedPath
  errorJson : json.present "error" = false → first.errorJson = second.errorJson

/-- Two reads of one response agree exactly when the objects agreed on what it leaves. -/
theorem Decodes.agree {dump : Json F → Except Thrown Text} {json : Json F}
    {first second firstRead secondRead : HandEyeCalibApplyResult}
    (one : Decodes dump json first firstRead) (other : Decodes dump json second secondRead) :
    firstRead = secondRead ↔ AgreeBeside json first second := by
  rw [HandEyeCalibApplyResult.ext_iff, Json.readWhen_agree one.status other.status,
    Json.readWhen_agree one.appliedPath other.appliedPath,
    Json.readWhen_agree one.errorJson other.errorJson, agreeBeside_iff]

end HandEyeCalibApplyResult

/-! ### What a response leaves behind -/

/-- What an object holds after a response depends on nothing but the response exactly when the
objects it was read into agreed on every member that the response leaves as it was: one it does not
carry or, but for the status, carries as null. -/
theorem fromJson_snapshot_iff (dump : Json F → Except Thrown Text) (json : Json F) :
    (∀ first second firstRead secondRead : HandEyeCalibStatus F,
      HandEyeCalibStatus.fromJson dump json first = .ok firstRead →
      HandEyeCalibStatus.fromJson dump json second = .ok secondRead →
      (firstRead = secondRead ↔ HandEyeCalibStatus.AgreeBeside json first second)) ∧
    (∀ first second firstRead secondRead : HandEyeCalibResult F,
      HandEyeCalibResult.fromJson dump json first = .ok firstRead →
      HandEyeCalibResult.fromJson dump json second = .ok secondRead →
      (firstRead = secondRead ↔ HandEyeCalibResult.AgreeBeside json first second)) ∧
    ∀ first second firstRead secondRead : HandEyeCalibApplyResult,
      HandEyeCalibApplyResult.fromJson dump json first = .ok firstRead →
      HandEyeCalibApplyResult.fromJson dump json second = .ok secondRead →
      (firstRead = secondRead ↔ HandEyeCalibApplyResult.AgreeBeside json first second) :=
  ⟨fun _ _ _ _ one other => (HandEyeCalibStatus.decodes_of_fromJson one).agree
      (HandEyeCalibStatus.decodes_of_fromJson other),
    fun _ _ _ _ one other => (HandEyeCalibResult.decodes_of_fromJson one).agree
      (HandEyeCalibResult.decodes_of_fromJson other),
    fun _ _ _ _ one other => (HandEyeCalibApplyResult.decodes_of_fromJson one).agree
      (HandEyeCalibApplyResult.decodes_of_fromJson other)⟩

/-! ### A failed job and the next -/

/-- The error of a job, as it is dumped. -/
def errorText : Text := Text.ofLiteral "\x7b\"code\":1\x7d"

/-- The responses to two polls: of a job that has failed, and of the job started after it. -/
def failedResponse : Json WireClass.wholeNumbers :=
  .object [("error", .object [("code", .unsigned 1)]),
    ("status", .string (Text.ofLiteral "failed"))]

def runningResponse : Json WireClass.wholeNumbers :=
  .object [("error", .null), ("status", .string (Text.ofLiteral "running"))]

/-- An object that has read the first response and then the second is not what a new object makes of
the second: the error of the failed job is still there. -/
theorem fromJson_leaks :
    ∃ failed reused fresh,
      HandEyeCalibStatus.fromJson (fun _ => .ok errorText) failedResponse .initial = .ok failed ∧
      HandEyeCalibStatus.fromJson (fun _ => .ok errorText) runningResponse failed = .ok reused ∧
      HandEyeCalibStatus.fromJson (fun _ => .ok errorText) runningResponse .initial = .ok fresh ∧
      reused.errorJson = errorText ∧ fresh.errorJson = Text.empty ∧ reused ≠ fresh := by
  have nonempty : errorText ≠ Text.empty := by decide +kernel
  refine ⟨_, _, _, rfl, rfl, rfl, rfl, rfl, fun same => ?_⟩
  exact nonempty (congrArg HandEyeCalibStatus.errorJson same)

end Booster.Robot.Vision
