/-
This file models the payload classes of the vision service and `GetDetectionObject`.

The service, the parser and the serializer are parameters: a call is answered with a
status and a body of bytes, and a body is parsed or the parser throws. What the caller's
list holds is part of the result whatever happens, since an error caught in the middle
of the list leaves it as far as it got.
-/

import BoosterSdk.WireFormat

namespace Booster.Robot.Vision

open Json (Single writeMember)

variable {F : NumberFormat}

inductive VisionApiId where
  | kStartVisionService
  | kStopVisionService
  | kGetDetectionObject

structure GetDetectionObjectParameter (F : NumberFormat) where
  focusRatio : Single F

def GetDetectionObjectParameter.toJson :
    GetDetectionObjectParameter F → Except Thrown (Json F) :=
  writeMember "focus_ratio" focusRatio

/-! ### DetectResults -/

structure DetectResults (F : NumberFormat) where
  xmin : Int64
  ymin : Int64
  xmax : Int64
  ymax : Int64
  position : List (Single F)
  tag : Text
  conf : Single F
  rgbMean : List Int32

namespace DetectResults

/-- `DetectResults()`. -/
def initial : DetectResults F := ⟨0, 0, 0, 0, [], Text.empty, ⟨F.singleOfInt 0⟩, []⟩

def fromJson (json : Json F) (self : DetectResults F) : Except Thrown (DetectResults F) := do
  let xmin ← json.loadIfContained "xmin" self.xmin
  let ymin ← json.loadIfContained "ymin" self.ymin
  let xmax ← json.loadIfContained "xmax" self.xmax
  let ymax ← json.loadIfContained "ymax" self.ymax
  let position ← json.loadIfContained "position" self.position
  let tag ← json.loadIfContained "tag" self.tag
  let conf ← json.loadIfContained "conf" self.conf
  let rgbMean ← json.loadIfContained "rgb_mean" self.rgbMean
  return {
    self with
    xmin := xmin
    ymin := ymin
    xmax := xmax
    ymax := ymax
    position := position
    tag := tag
    conf := conf
    rgbMean := rgbMean
  }

/-- An element of a detection list, decoded into a new object. -/
def decoded (json : Json F) : Except Thrown (DetectResults F) := fromJson json initial

end DetectResults

/-! ### GetDetectionObject -/

/-- The loop that decodes elements and appends them to the caller's list. What it has appended stays
when an element throws. -/
def pushItems : List (Json F) → List (DetectResults F) →
    Except Thrown Unit × List (DetectResults F)
  | [], objects => (.ok (), objects)
  | itemJson :: rest, objects =>
    match DetectResults.decoded itemJson with
    | .ok item => pushItems rest (objects ++ [item])
    | .error thrown => (.error thrown, objects)

/-- What the `try` block does with a body once it is parsed. -/
def readObjects (bodyJson : Json F) : Except Thrown Unit × List (DetectResults F) :=
  if bodyJson.isArray then pushItems bodyJson.elements []
  else if bodyJson.contains "objects" then
    match bodyJson.index "objects" with
    | .ok list => if list.isArray then pushItems list.elements [] else (.ok (), [])
    | .error thrown => (.error thrown, [])
  else (.ok (), [])

/-- `GetDetectionObject`. -/
def getDetectionObject (sendApiRequestWithResponse : VisionApiId → Text → Int32 × Text)
    (parse : Text → Except Thrown (Json F)) (dump : Json F → Text)
    (objects : List (DetectResults F)) (ratio : Single F) :
    Except Thrown (Int32 × List (DetectResults F)) := do
  let detectParam : GetDetectionObjectParameter F := ⟨ratio⟩
  let param := dump (← detectParam.toJson)
  let (ret, body) := sendApiRequestWithResponse .kGetDetectionObject param
  if ret ≠ 0 then return (ret, objects)
  match parse body with
  | .error _ => return (-1, objects)
  | .ok bodyJson =>
    match readObjects bodyJson with
    | (.error _, objects) => return (-1, objects)
    | (.ok _, objects) => return (0, objects)

/-! ### All or nothing -/

/-- The detection list of a body: the body itself, or the array under its key, or nothing. -/
def detectionList : Json F → List (Json F)
  | .array items => items
  | .object fields =>
    match Json.field "objects" fields with
    | some (.array items) => items
    | _ => []
  | _ => []

/-- A call returns success with the whole list decoded, or an error with the list as it was. -/
def AllOrNothing (parse : Text → Except Thrown (Json F)) (body : Text)
    (prior : List (DetectResults F)) (ret : Int32) (after : List (DetectResults F)) : Prop :=
  (ret = 0 ∧ ∃ bodyJson, parse body = .ok bodyJson ∧
    (detectionList bodyJson).mapM DetectResults.decoded = .ok after) ∨
  (ret ≠ 0 ∧ after = prior)

/-- A list whose elements are decoded up to one that throws. -/
def FailsAfter (items : List (Json F)) (values : List (DetectResults F)) : Prop :=
  ∃ before failing rest thrown, items = before ++ failing :: rest ∧
    before.mapM DetectResults.decoded = .ok values ∧
    DetectResults.decoded failing = .error thrown

/-- The loop is run on the detection list. -/
theorem readObjects_eq (bodyJson : Json F) :
    readObjects bodyJson = pushItems (detectionList bodyJson) [] := by
  cases bodyJson with
  | object fields =>
    unfold readObjects detectionList
    cases found : Json.field "objects" fields with
    | none => simp [Json.isArray, found, pushItems]
    | some list => cases list <;> simp [Json.isArray, Json.elements, found, pushItems]
  | _ => rfl

/-- The elements of a list are all decoded, or one throws. -/
theorem decoded_or_failsAfter (items : List (Json F)) :
    (∃ values, items.mapM DetectResults.decoded = .ok values) ∨
      ∃ values, FailsAfter items values := by
  induction items with
  | nil => exact .inl ⟨[], rfl⟩
  | cons item rest inductionHypothesis =>
    cases first : DetectResults.decoded item with
    | error thrown => exact .inr ⟨[], [], item, rest, thrown, rfl, rfl, first⟩
    | ok value =>
      rcases inductionHypothesis with
        ⟨values, all⟩ | ⟨values, before, failing, after, thrown, same, decodedBefore, throws⟩
      · exact .inl ⟨value :: values, Json.mapM_cons_eq_ok.mpr ⟨value, values, first, all, rfl⟩⟩
      · refine .inr ⟨value :: values, item :: before, failing, after, thrown, ?_, ?_, throws⟩
        · rw [same, List.cons_append]
        · exact Json.mapM_cons_eq_ok.mpr ⟨value, values, first, decodedBefore, rfl⟩

/-- Elements that are decoded are appended in order, before whatever comes after them. -/
theorem pushItems_append {before : List (Json F)} {values : List (DetectResults F)}
    (all : before.mapM DetectResults.decoded = .ok values) (rest : List (Json F))
    (objects : List (DetectResults F)) :
    pushItems (before ++ rest) objects = pushItems rest (objects ++ values) := by
  induction before generalizing objects values with
  | nil =>
    cases all
    show pushItems rest objects = pushItems rest (objects ++ [])
    rw [List.append_nil]
  | cons item before inductionHypothesis =>
    obtain ⟨value, later, first, others, rfl⟩ := Json.mapM_cons_eq_ok.mp all
    rw [List.cons_append, pushItems, first]
    show pushItems (before ++ rest) (objects ++ [value]) = _
    rw [inductionHypothesis others, List.append_assoc, List.singleton_append]

theorem pushItems_decoded {items : List (Json F)} {values : List (DetectResults F)}
    (all : items.mapM DetectResults.decoded = .ok values) :
    pushItems items [] = (.ok (), values) := by
  have pushed := pushItems_append all [] []
  rwa [List.append_nil, List.nil_append] at pushed

theorem pushItems_failsAfter {items : List (Json F)} {values : List (DetectResults F)}
    (fails : FailsAfter items values) : ∃ thrown, pushItems items [] = (.error thrown, values) := by
  obtain ⟨before, failing, rest, thrown, rfl, decodedBefore, throws⟩ := fails
  refine ⟨thrown, ?_⟩
  rw [pushItems_append decodedBefore, List.nil_append, pushItems, throws]

section Calls

variable (status : Int32) (body : Text) (parse : Text → Except Thrown (Json F))
  (dump : Json F → Text) (objects : List (DetectResults F)) (ratio : Single F)

/-- What a call returns for its answer. -/
theorem getDetectionObject_eq :
    getDetectionObject (fun _ _ => (status, body)) parse dump objects ratio =
      if status ≠ 0 then .ok (status, objects)
      else
        match parse body with
        | .error _ => .ok (-1, objects)
        | .ok bodyJson =>
          match pushItems (detectionList bodyJson) [] with
          | (.error _, after) => .ok (-1, after)
          | (.ok _, after) => .ok (0, after) := by
  unfold getDetectionObject
  simp only [readObjects_eq]
  rfl

/-- `GetDetectionObject` is all or nothing exactly when the call fails, or its body does not parse,
or every element of the detection list is decoded, or the caller's list happens to hold what the
elements before the first that throws are decoded to. -/
theorem getDetectionObject_allOrNothing_iff :
    (∃ ret after,
      getDetectionObject (fun _ _ => (status, body)) parse dump objects ratio = .ok (ret, after) ∧
        AllOrNothing parse body objects ret after) ↔
    (status = 0 → ∀ bodyJson, parse body = .ok bodyJson →
      ∀ values, FailsAfter (detectionList bodyJson) values → objects = values) := by
  rw [getDetectionObject_eq]
  by_cases failed : status = 0
  · rw [if_neg (not_not.mpr failed)]
    cases parsed : parse body with
    | error thrown =>
      refine iff_of_true ⟨-1, objects, rfl, .inr ⟨by decide, rfl⟩⟩ fun _ bodyJson other => ?_
      cases other
    | ok bodyJson =>
      dsimp only
      constructor
      · rintro ⟨ret, after, result, whole⟩ _ other same values fails
        cases same
        obtain ⟨thrown, pushed⟩ := pushItems_failsAfter fails
        rw [pushed] at result
        cases result
        rcases whole with ⟨zero, _⟩ | ⟨_, unchanged⟩
        · exact absurd zero (by decide)
        · exact unchanged.symm
      · intro same
        rcases decoded_or_failsAfter (detectionList bodyJson) with ⟨values, all⟩ | ⟨values, fails⟩
        · refine ⟨0, values, ?_, .inl ⟨rfl, bodyJson, parsed, all⟩⟩
          rw [pushItems_decoded all]
        · obtain ⟨thrown, pushed⟩ := pushItems_failsAfter fails
          refine ⟨-1, values, ?_, .inr ⟨by decide, (same failed bodyJson rfl values fails).symm⟩⟩
          rw [pushed]
  · rw [if_pos failed]
    exact iff_of_true ⟨status, objects, rfl, .inr ⟨failed, rfl⟩⟩ fun zero => absurd zero failed

end Calls

/-! ### A list with a bad element -/

/-- A parser that knows one text, and throws on any other. -/
def parseOnly (known : Text) (value : Json F) (text : Text) : Except Thrown (Json F) :=
  if text = known then .ok value
  else .error (.json 101 "[json.exception.parse_error.101] parse error")

/-- A default element, then one whose bound is not a number. -/
def badListText : Text := Text.ofLiteral "[\x7b\x7d,\x7b\"xmin\":\"a\"\x7d]"

def badList : Json WireClass.wholeNumbers :=
  .array [.object [], .object [("xmin", .string (Text.ofLiteral "a"))]]

/-- The call reports an error, and the caller's empty list now holds the first element. -/
theorem getDetectionObject_halfFilled :
    getDetectionObject (fun _ _ => (0, badListText)) (parseOnly badListText badList)
        (fun _ => Text.ofLiteral "\x7b\"focus_ratio\":0\x7d") [] (WireClass.whole 0) =
      .ok (-1, [DetectResults.initial]) ∧
    ¬ AllOrNothing (parseOnly badListText badList) badListText [] (-1)
      [DetectResults.initial] := by
  constructor
  · have parsed : parseOnly badListText badList badListText = .ok badList := if_pos rfl
    rw [getDetectionObject_eq, parsed]
    rfl
  · rintro (⟨zero, _⟩ | ⟨_, unchanged⟩)
    · exact absurd zero (by decide)
    · cases unchanged

end Booster.Robot.Vision
