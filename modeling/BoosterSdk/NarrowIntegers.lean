/-
This file says which integers of a document the narrow integer members keep.

A colour component is read into a byte and a bracket category into a signed byte; each
is converted modulo 256, so an integer out of range is read as another one. Written
again, an object gives back the integers it was read from exactly when all of them are
in the range of their member.
-/

import BoosterSdk.AiApi
import BoosterSdk.LightControlApi
import BoosterSdk.WireFormat

namespace Booster.Robot

open Json (decode encode)
open Light (SetLEDLightColorParameter SetLEDLightColorsParameter)

variable {F : NumberFormat}

/-! ### Integers in documents -/

/-- The integer a value of a document is. -/
def integerOf : Json F → Option Int
  | .integer value => some value.toInt
  | .unsigned value => some value.toNat
  | _ => none

/-- The integer under a key. -/
def integerAt (key : String) : Json F → Option Int
  | .object fields => (Json.field key fields).bind integerOf
  | _ => none

/-- The array under a key. -/
def arrayAt (key : String) : Json F → Option (List (Json F))
  | .object fields =>
    match Json.field key fields with
    | some (.array items) => some items
    | _ => none
  | _ => none

/-- The components of a colour, when they are integers. -/
def componentsOf (json : Json F) : Option (Int × Int × Int) := do
  return (← integerAt "r" json, ← integerAt "g" json, ← integerAt "b" json)

/-- The colours of a document, when all their components are integers. -/
def colorsOf (json : Json F) : Option (List (Int × Int × Int)) :=
  (arrayAt "colors" json).bind fun items => items.mapM componentsOf

/-- The bracket categories of a document, when all are integers. -/
def bracketsOf (json : Json F) : Option (List Int) :=
  (arrayAt "ignore_bracket_text" json).bind fun items => items.mapM integerOf

theorem arrayAt_eq {key : String} {json : Json F} {items : List (Json F)}
    (found : arrayAt key json = some items) :
    json.index key = .ok (.array items) ∧ json.at_ key = .ok (.array items) := by
  cases json with
  | object fields =>
    unfold arrayAt at found
    dsimp only at found
    split at found
    · rename_i same
      cases found
      rw [Json.index_object, Json.at_object, same]
      exact ⟨rfl, rfl⟩
    · cases found
  | _ => cases found

/-! ### Reading and writing lists -/

/-- A list whose values are read one by one. -/
theorem mapM_of_mapM {α β : Type} {parse : Json F → Option α} {read : Json F → Except Thrown β}
    {convert : α → β} (reads : ∀ item value, parse item = some value →
      read item = .ok (convert value))
    {items : List (Json F)} {values : List α} (parsed : items.mapM parse = some values) :
    items.mapM read = .ok (values.map convert) := by
  induction items generalizing values with
  | nil =>
    cases parsed
    rfl
  | cons item rest inductionHypothesis =>
    rw [List.mapM_cons] at parsed
    obtain ⟨value, first, parsed⟩ := Option.bind_eq_some_iff.mp parsed
    obtain ⟨later, others, parsed⟩ := Option.bind_eq_some_iff.mp parsed
    cases parsed
    exact Json.mapM_cons_eq_ok.mpr
      ⟨convert value, later.map convert, reads item value first, inductionHypothesis others, rfl⟩

/-- A list whose written values are parsed back. -/
theorem mapM_written {α β : Type} {parse : Json F → Option β} {written : α → Json F} {back : α → β}
    (parses : ∀ value, parse (written value) = some (back value)) (values : List α) :
    (values.map written).mapM parse = some (values.map back) := by
  have parsesAll : parse ∘ written = fun value => some (back value) :=
    funext parses
  rw [List.mapM_map, parsesAll]
  exact List.mapM_pure

/-- A list is kept exactly when each of its values is. -/
theorem map_eq_self_iff {α : Type} {change : α → α} (values : List α) :
    values.map change = values ↔ ∀ value ∈ values, change value = value := by
  constructor
  · intro same
    exact List.map_inj_left.mp (same.trans (List.map_id values).symm)
  · intro kept
    exact (List.map_inj_left.mpr kept).trans (List.map_id values)

/-! ### Narrow members -/

theorem decode_uint8 {json : Json F} {number : Int} (found : integerOf json = some number) :
    (decode json : Except Thrown UInt8) = .ok (UInt8.ofInt number) := by
  cases json with
  | integer value =>
    cases found
    rfl
  | unsigned value =>
    cases found
    rfl
  | _ => cases found

theorem decode_int32 {json : Json F} {number : Int} (found : integerOf json = some number) :
    (decode json : Except Thrown Int32) = .ok (Int32.ofInt number) := by
  cases json with
  | integer value =>
    cases found
    rfl
  | unsigned value =>
    cases found
    rfl
  | _ => cases found

/-- What a byte makes of an integer. -/
def asByte (number : Int) : Int := (UInt8.ofInt number).toNat

/-- What a signed byte makes of an integer read as an `int`. -/
def asSignedByte (number : Int) : Int := (Int32.ofInt number).toInt8.toInt

theorem asByte_eq_iff (number : Int) : asByte number = number ↔ 0 ≤ number ∧ number ≤ 255 := by
  unfold asByte
  rw [SetLEDLightColorParameter.toNat_ofInt]
  omega

theorem asSignedByte_eq_iff (number : Int) :
    asSignedByte number = number ↔ -128 ≤ number ∧ number ≤ 127 := by
  unfold asSignedByte
  rw [Int32.toInt_toInt8, Int32.toInt_ofInt]
  simp only [Int.bmod, Int32.size]
  omega

/-! ### Colours -/

theorem load_uint8 {key : String} {json : Json F} {number : Int}
    (found : integerAt key json = some number) :
    (json.load key : Except Thrown UInt8) = .ok (UInt8.ofInt number) := by
  cases json with
  | object fields =>
    obtain ⟨value, field, integer⟩ := Option.bind_eq_some_iff.mp found
    rw [Json.load_object, field]
    exact decode_uint8 integer
  | _ => cases found

/-- What a colour makes of its components. -/
def narrowed (components : Int × Int × Int) : SetLEDLightColorParameter :=
  ⟨UInt8.ofInt components.1, UInt8.ofInt components.2.1, UInt8.ofInt components.2.2⟩

/-- The components of a colour. -/
def components (color : SetLEDLightColorParameter) : Int × Int × Int :=
  (color.r.toNat, color.g.toNat, color.b.toNat)

theorem fromJson_components (json : Json F) (found : Int × Int × Int)
    (integers : componentsOf json = some found) :
    SetLEDLightColorParameter.fromJson json .initial = .ok (narrowed found) := by
  obtain ⟨r, red, integers⟩ := Option.bind_eq_some_iff.mp integers
  obtain ⟨g, green, integers⟩ := Option.bind_eq_some_iff.mp integers
  obtain ⟨b, blue, integers⟩ := Option.bind_eq_some_iff.mp integers
  cases integers
  unfold SetLEDLightColorParameter.fromJson
  rw [load_uint8 red, load_uint8 green, load_uint8 blue]
  rfl

/-- The JSON form of a colour. -/
def written (color : SetLEDLightColorParameter) : Json F :=
  .object [("r", encode color.r), ("g", encode color.g), ("b", encode color.b)]

theorem toJson_written (color : SetLEDLightColorParameter) :
    color.toJson = .ok (written color : Json F) := rfl

theorem integerOf_uint8 (value : UInt8) :
    integerOf (encode value : Json F) = some (value.toNat : Int) := by
  show some (value.toUInt64.toNat : Int) = _
  rw [UInt8.toNat_toUInt64]

theorem componentsOf_written (color : SetLEDLightColorParameter) :
    componentsOf (written color : Json F) = some (components color) := by
  have red : integerAt "r" (written color : Json F) = integerOf (encode color.r : Json F) := rfl
  have green : integerAt "g" (written color : Json F) = integerOf (encode color.g : Json F) := rfl
  have blue : integerAt "b" (written color : Json F) = integerOf (encode color.b : Json F) := rfl
  unfold componentsOf
  rw [red, green, blue, integerOf_uint8, integerOf_uint8, integerOf_uint8]
  rfl

/-- A component is in the range of its member. -/
def InByteRange (found : Int × Int × Int) : Prop :=
  (0 ≤ found.1 ∧ found.1 ≤ 255) ∧ (0 ≤ found.2.1 ∧ found.2.1 ≤ 255) ∧
    (0 ≤ found.2.2 ∧ found.2.2 ≤ 255)

theorem components_narrowed_iff (found : Int × Int × Int) :
    components (narrowed found) = found ↔ InByteRange found := by
  obtain ⟨r, g, b⟩ := found
  unfold InByteRange
  rw [← asByte_eq_iff, ← asByte_eq_iff, ← asByte_eq_iff]
  show (asByte r, asByte g, asByte b) = (r, g, b) ↔ _
  rw [Prod.mk.injEq, Prod.mk.injEq]

/-- The colours of a document are read, written and read off again modulo 256. -/
theorem colors_reencoded {json : Json F} {colors : List (Int × Int × Int)}
    (found : colorsOf json = some colors) (self : SetLEDLightColorsParameter) :
    ∃ decoded reencoded, SetLEDLightColorsParameter.fromJson json self = .ok decoded ∧
      decoded.toJson = .ok reencoded ∧
      colorsOf (reencoded : Json F) =
        some (colors.map fun found => components (narrowed found)) := by
  obtain ⟨items, array, integers⟩ := Option.bind_eq_some_iff.mp found
  have read := Json.readEach_of_mapM (mapM_of_mapM fromJson_components integers) []
  rw [List.nil_append] at read
  refine ⟨⟨colors.map narrowed⟩, .object [("colors", .array ((colors.map narrowed).map written))],
    ?_, ?_, ?_⟩
  · unfold SetLEDLightColorsParameter.fromJson
    rw [(arrayAt_eq array).1, Json.ok_bind, read]
    rfl
  · have empty : Json.field "colors" [("colors", (Json.array [] : Json F))] =
        some (.array []) := rfl
    unfold SetLEDLightColorsParameter.toJson
    rw [Json.assign_null, Json.ok_bind]
    exact Json.pushEach_eq toJson_written "colors" _ empty
  · show (((colors.map narrowed).map written).mapM componentsOf : Option _) = _
    rw [mapM_written componentsOf_written, List.map_map]
    rfl

/-! ### Bracket categories -/

theorem integerOf_int32 (value : Int32) : integerOf (encode value : Json F) = some value.toInt := by
  show some value.toInt64.toInt = _
  rw [Int32.toInt_toInt64]

/-- The bracket categories of a document are read, written and read off again modulo 256. -/
theorem brackets_reencoded {json : Json F} {brackets : List Int}
    (found : bracketsOf json = some brackets) {self decoded : TtsConfig}
    (read : TtsConfig.fromJson json self = .ok decoded) :
    ∃ reencoded, decoded.toJson = .ok reencoded ∧
      bracketsOf (reencoded : Json F) = some (brackets.map asSignedByte) := by
  obtain ⟨items, array, integers⟩ := Option.bind_eq_some_iff.mp found
  have narrow : (decode (.array items : Json F) : Except Thrown (List Int32)) =
      .ok (brackets.map Int32.ofInt) :=
    mapM_of_mapM (fun _ _ found => decode_int32 found) integers
  obtain ⟨voiceType, _, read⟩ := Json.bind_eq_ok (Json.eq_ok_of_rethrow read)
  obtain ⟨intArray, loaded, read⟩ := Json.bind_eq_ok read
  unfold Json.loadAt at loaded
  rw [(arrayAt_eq array).2, Json.ok_bind, narrow] at loaded
  cases loaded
  cases read
  refine ⟨_, rfl, ?_⟩
  show (List.map encode (List.map Int8.toInt32 ((brackets.map Int32.ofInt).map
    Int32.toInt8)) : List (Json F)).mapM integerOf = _
  rw [mapM_written integerOf_int32, List.map_map, List.map_map, List.map_map]
  refine congrArg some (List.map_congr_left fun number _ => ?_)
  exact Int8.toInt_toInt32 _

/-! ### Which integers are kept -/

/-- A document with integer components gives back the same integers exactly when all of them are in
the range of their member. -/
theorem integers_kept_iff :
    (∀ (json : Json F) colors, colorsOf json = some colors → ∀ self,
      ∃ decoded reencoded, SetLEDLightColorsParameter.fromJson json self = .ok decoded ∧
        decoded.toJson = .ok (reencoded : Json F) ∧
        (colorsOf reencoded = some colors ↔ ∀ found ∈ colors, InByteRange found)) ∧
    ∀ (json : Json F) brackets, bracketsOf json = some brackets → ∀ self decoded,
      TtsConfig.fromJson json self = .ok decoded →
      ∃ reencoded, decoded.toJson = .ok (reencoded : Json F) ∧
        (bracketsOf reencoded = some brackets ↔
          ∀ number ∈ brackets, -128 ≤ number ∧ number ≤ 127) := by
  refine ⟨fun json colors found self => ?_, fun json brackets found self decoded read => ?_⟩
  · obtain ⟨decoded, reencoded, read, wrote, again⟩ := colors_reencoded found self
    refine ⟨decoded, reencoded, read, wrote, ?_⟩
    rw [again, Option.some.injEq, map_eq_self_iff]
    exact forall₂_congr fun found _ => components_narrowed_iff found
  · obtain ⟨reencoded, wrote, again⟩ := brackets_reencoded found read
    refine ⟨reencoded, wrote, ?_⟩
    rw [again, Option.some.injEq, map_eq_self_iff]
    exact forall₂_congr fun number _ => asSignedByte_eq_iff number

/-- A document with the component 256, which is read as zero. -/
def tooRed : Json WireClass.wholeNumbers :=
  .object [("colors", .array [.object [("b", .unsigned 0), ("g", .unsigned 0),
    ("r", .unsigned 256)]])]

theorem tooRed_wraps : ∃ decoded reencoded,
    SetLEDLightColorsParameter.fromJson tooRed ⟨[]⟩ = .ok decoded ∧
      decoded.toJson = .ok (reencoded : Json WireClass.wholeNumbers) ∧
      colorsOf tooRed = some [(256, 0, 0)] ∧ colorsOf reencoded = some [(0, 0, 0)] :=
  ⟨_, _, rfl, rfl, rfl, rfl⟩

end Booster.Robot
