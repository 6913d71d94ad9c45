/-
This file models the colour of an LED, the text it is constructed from and its JSON form.

The text is checked for its length and its first byte; its three fields are left to
`std::stoi`, which reads a sign, white space before a digit, or one digit and whatever
follows. The value of a field is narrowed to a byte. A text that is refused, or that
makes `stoi` throw, leaves the colour black.
-/

import BoosterSdk.Library.IntegerText
import BoosterSdk.Library.JsonValue

namespace Booster.Robot.Light

open IntegerText

/-- An RGB colour. -/
@[ext]
structure SetLEDLightColorParameter where
  r : UInt8
  g : UInt8
  b : UInt8
  deriving DecidableEq

namespace SetLEDLightColorParameter

/-- `SetLEDLightColorParameter()`. -/
def initial : SetLEDLightColorParameter := ⟨0, 0, 0⟩

/-- `color.substr(position, 2)`. -/
def substr (color : Text) (position : Nat) : List UInt8 := (color.bytes.drop position).take 2

/-- `SetLEDLightColorParameter(const std::string &)`. -/
def ofText (color : Text) : SetLEDLightColorParameter :=
  if color.bytes.length = 7 ∧ color.bytes[0]? = some 35 then
    match stoi 16 (substr color 1), stoi 16 (substr color 3), stoi 16 (substr color 5) with
    | some rVal, some gVal, some bVal => ⟨UInt8.ofInt rVal, UInt8.ofInt gVal, UInt8.ofInt bVal⟩
    | _, _, _ => initial
  else initial

/-! ### The colours of hexadecimal texts -/

/-- The byte two hexadecimal digits stand for. -/
def hexByte (high low : UInt8) : Option UInt8 :=
  match digitIn 16 high, digitIn 16 low with
  | some highValue, some lowValue => some (UInt8.ofNat (highValue * 16 + lowValue))
  | _, _ => none

/-- The colour of a text of the form `#RRGGBB`, and black for any other text. -/
def hexColor (color : Text) : SetLEDLightColorParameter :=
  match color.bytes with
  | [mark, r1, r2, g1, g2, b1, b2] =>
    match mark == 35, hexByte r1 r2, hexByte g1 g2, hexByte b1 b2 with
    | true, some r, some g, some b => ⟨r, g, b⟩
    | _, _, _, _ => initial
  | _ => initial

/-- Two hexadecimal digits. -/
def IsHex (high low : UInt8) : Prop :=
  (digitIn 16 high).isSome = true ∧ (digitIn 16 low).isSome = true

/-- A byte that `stoi` passes over in front of a digit. -/
def Passed (byte : UInt8) : Prop := isSpace byte = true ∨ byte = plus ∨ byte = minus

/-- A field in which `stoi` finds a digit. -/
def Reads (high low : UInt8) : Prop :=
  (digitIn 16 high).isSome = true ∨ (Passed high ∧ (digitIn 16 low).isSome = true)

/-- A field that is read as zero. -/
def ReadsZero (high low : UInt8) : Prop :=
  (high = 48 ∧ (low = 48 ∨ (digitIn 16 low).isSome = false)) ∨ (Passed high ∧ low = 48)

/-! ### Fields -/

theorem isSome_pair (high low : UInt8) : (pair 16 high low).isSome = true ↔ Reads high low := by
  unfold pair Reads Passed
  cases digitIn 16 high with
  | some value => cases digitIn 16 low <;> simp
  | none =>
    cases digitIn 16 low with
    | none => simp
    | some value =>
      by_cases negative : high = minus
      · simp [negative]
      · by_cases positive : isSpace high = true ∨ high = plus
        · simp [negative, positive]
        · simp [negative, positive]

theorem isHex_of_hexByte {high low byte : UInt8} (found : hexByte high low = some byte) :
    IsHex high low := by
  unfold hexByte at found
  unfold IsHex
  split at found
  · rename_i first second
    rw [first, second]
    exact ⟨rfl, rfl⟩
  · cases found

/-- Narrowing to a byte keeps the number modulo 256. -/
theorem toNat_ofInt (number : Int) : (UInt8.ofInt number).toNat = (number % 256).toNat := by
  unfold UInt8.ofInt
  rw [UInt8.toNat_ofNat']
  omega

theorem ofInt_natCast (value : Nat) : UInt8.ofInt (value : Int) = UInt8.ofNat value := by
  rw [← UInt8.toNat_inj, toNat_ofInt, UInt8.toNat_ofNat']
  omega

/-- Two digits are read as the byte they stand for. -/
theorem pair_of_isHex {high low : UInt8} (hex : IsHex high low) :
    ∃ number, pair 16 high low = some number ∧ hexByte high low = some (UInt8.ofInt number) := by
  obtain ⟨highValue, first⟩ := Option.isSome_iff_exists.mp hex.1
  obtain ⟨lowValue, second⟩ := Option.isSome_iff_exists.mp hex.2
  unfold pair hexByte
  rw [first, second]
  exact ⟨_, rfl, congrArg some (ofInt_natCast (highValue * 16 + lowValue)).symm⟩

/-- The only digit of no value is zero. -/
theorem digitIn_zero {byte : UInt8} : digitIn 16 byte = some 0 ↔ byte = 48 := by
  constructor
  · intro zero
    have digit := (Option.filter_eq_some_iff.mp zero).1
    unfold IntegerText.digit at digit
    rw [← UInt8.toNat_inj]
    show byte.toNat = 48
    split at digit
    · have value := Option.some.inj digit
      omega
    · split at digit
      · have value := Option.some.inj digit
        omega
      · split at digit
        · have value := Option.some.inj digit
          omega
        · cases digit
  · rintro rfl
    rfl

theorem ofInt_eq_zero {number : Int} (lower : -16 < number) (upper : number < 16 * 16) :
    UInt8.ofInt number = 0 ↔ number = 0 := by
  rw [← UInt8.toNat_inj, toNat_ofInt]
  show (number % 256).toNat = 0 ↔ number = 0
  omega

/-- A field narrows to zero exactly when it is read as zero. -/
theorem ofInt_pair {high low : UInt8} {number : Int} (read : pair 16 high low = some number) :
    UInt8.ofInt number = 0 ↔ ReadsZero high low := by
  have bounds := pair_bounds read
  rw [ofInt_eq_zero bounds.1 bounds.2]
  unfold pair at read
  unfold ReadsZero Passed
  rw [← digitIn_zero, ← digitIn_zero]
  cases first : digitIn 16 high with
  | some value =>
    have visible := isSpace_of_digitIn first
    have unsigned := ne_sign_of_digitIn first
    cases second : digitIn 16 low with
    | some lowValue =>
      rw [first, second] at read
      cases read
      simp [visible, unsigned.1, unsigned.2]
      omega
    | none =>
      rw [first, second] at read
      cases read
      simp [visible, unsigned.1, unsigned.2]
  | none =>
    cases second : digitIn 16 low with
    | some lowValue =>
      rw [first, second] at read
      dsimp only at read
      split at read
      · rename_i negative
        cases read
        simp [negative]
      · split at read
        · rename_i positive
          cases read
          simp [← or_assoc, positive]
        · cases read
    | none =>
      rw [first, second] at read
      cases read

/-! ### Which texts are read as they should be -/

/-- A text of the right length that begins as it should, by its fields. -/
theorem ofText_eq (r1 r2 g1 g2 b1 b2 : UInt8) :
    ofText ⟨[35, r1, r2, g1, g2, b1, b2]⟩ =
      match pair 16 r1 r2, pair 16 g1 g2, pair 16 b1 b2 with
      | some rVal, some gVal, some bVal => ⟨UInt8.ofInt rVal, UInt8.ofInt gVal, UInt8.ofInt bVal⟩
      | _, _, _ => initial := by
  have field (first second : UInt8) := stoi_pair (show 16 ≤ 36 by decide) first second
  rw [← field, ← field, ← field]
  rfl

/-- Any other text is black, as it should be. -/
theorem ofText_other {color : Text}
    (other : ¬ ∃ r1 r2 g1 g2 b1 b2, color.bytes = [35, r1, r2, g1, g2, b1, b2]) :
    ofText color = initial ∧ hexColor color = initial := by
  obtain ⟨bytes⟩ := color
  constructor
  · refine if_neg fun accepted => ?_
    obtain ⟨length, mark⟩ := accepted
    match bytes, length with
    | [first, r1, r2, g1, g2, b1, b2], _ =>
      cases Option.some.inj mark
      exact other ⟨r1, r2, g1, g2, b1, b2, rfl⟩
  · unfold hexColor
    split
    · rename_i mark r1 r2 g1 g2 b1 b2 same
      cases found : mark == 35 with
      | true =>
        rw [same, eq_of_beq found] at other
        exact absurd ⟨r1, r2, g1, g2, b1, b2, rfl⟩ other
      | false => rfl
    · rfl

section Fields

variable {r1 r2 g1 g2 b1 b2 : UInt8}

theorem ofText_of_isHex (red : IsHex r1 r2) (green : IsHex g1 g2) (blue : IsHex b1 b2) :
    ofText ⟨[35, r1, r2, g1, g2, b1, b2]⟩ = hexColor ⟨[35, r1, r2, g1, g2, b1, b2]⟩ := by
  obtain ⟨_, rRead, rByte⟩ := pair_of_isHex red
  obtain ⟨_, gRead, gByte⟩ := pair_of_isHex green
  obtain ⟨_, bRead, bByte⟩ := pair_of_isHex blue
  rw [ofText_eq, rRead, gRead, bRead]
  unfold hexColor
  dsimp only
  rw [rByte, gByte, bByte]
  rfl

theorem hexColor_of_not_isHex (other : ¬ (IsHex r1 r2 ∧ IsHex g1 g2 ∧ IsHex b1 b2)) :
    hexColor ⟨[35, r1, r2, g1, g2, b1, b2]⟩ = initial := by
  unfold hexColor
  dsimp only
  split
  · rename_i red green blue
    exact absurd ⟨isHex_of_hexByte red, isHex_of_hexByte green, isHex_of_hexByte blue⟩ other
  · rfl

/-- A text is read as black when a field makes `stoi` throw, or all are read as zero. -/
theorem ofText_eq_initial_iff :
    ofText ⟨[35, r1, r2, g1, g2, b1, b2]⟩ = initial ↔
      ¬ (Reads r1 r2 ∧ Reads g1 g2 ∧ Reads b1 b2) ∨
        (ReadsZero r1 r2 ∧ ReadsZero g1 g2 ∧ ReadsZero b1 b2) := by
  rw [ofText_eq, ← isSome_pair, ← isSome_pair, ← isSome_pair]
  cases red : pair 16 r1 r2 with
  | none => simp
  | some rVal =>
    cases green : pair 16 g1 g2 with
    | none => simp
    | some gVal =>
      cases blue : pair 16 b1 b2 with
      | none => simp
      | some bVal =>
        rw [SetLEDLightColorParameter.ext_iff]
        simp [initial, ofInt_pair red, ofInt_pair green, ofInt_pair blue]

end Fields

/-- The constructor reads exactly the texts `#RRGGBB` but for the texts of their length and mark
that are not of the form, in whose every field `stoi` finds a digit, unless it reads all of them as
zero. -/
theorem ofText_eq_hexColor_iff (color : Text) :
    ofText color = hexColor color ↔
      ∀ r1 r2 g1 g2 b1 b2, color.bytes = [35, r1, r2, g1, g2, b1, b2] →
        (IsHex r1 r2 ∧ IsHex g1 g2 ∧ IsHex b1 b2) ∨
        ¬ (Reads r1 r2 ∧ Reads g1 g2 ∧ Reads b1 b2) ∨
        (ReadsZero r1 r2 ∧ ReadsZero g1 g2 ∧ ReadsZero b1 b2) := by
  by_cases form : ∃ r1 r2 g1 g2 b1 b2, color.bytes = [35, r1, r2, g1, g2, b1, b2]
  · obtain ⟨r1, r2, g1, g2, b1, b2, same⟩ := form
    obtain ⟨bytes⟩ := color
    cases same
    constructor
    · intro agrees _ _ _ _ _ _ bytes
      cases bytes
      by_cases hex : IsHex r1 r2 ∧ IsHex g1 g2 ∧ IsHex b1 b2
      · exact .inl hex
      · rw [hexColor_of_not_isHex hex] at agrees
        exact .inr (ofText_eq_initial_iff.mp agrees)
    · intro fields
      by_cases hex : IsHex r1 r2 ∧ IsHex g1 g2 ∧ IsHex b1 b2
      · exact ofText_of_isHex hex.1 hex.2.1 hex.2.2
      · rw [hexColor_of_not_isHex hex]
        exact ofText_eq_initial_iff.mpr
          ((fields r1 r2 g1 g2 b1 b2 rfl).resolve_left hex)
  · obtain ⟨code, spec⟩ := ofText_other form
    refine iff_of_true (code.trans spec.symm) fun r1 r2 g1 g2 b1 b2 same => ?_
    exact absurd ⟨r1, r2, g1, g2, b1, b2, same⟩ form

/-- Three signed digits are read as a colour. -/
theorem ofText_signs :
    ofText (Text.ofLiteral "#+1+2+3") = ⟨1, 2, 3⟩ ∧
      hexColor (Text.ofLiteral "#+1+2+3") = ⟨0, 0, 0⟩ := by decide +kernel

/-! ### Colours in JSON -/

variable {F : NumberFormat}

def fromJson (json : Json F) (self : SetLEDLightColorParameter) :
    Except Thrown SetLEDLightColorParameter := do
  let r ← json.load "r"
  let g ← json.load "g"
  let b ← json.load "b"
  return { self with r := r, g := g, b := b }

def toJson (self : SetLEDLightColorParameter) : Except Thrown (Json F) := do
  let json ← Json.null.store "r" self.r
  let json ← json.store "g" self.g
  json.store "b" self.b

end SetLEDLightColorParameter

structure SetLEDLightColorsParameter where
  colors : List SetLEDLightColorParameter

namespace SetLEDLightColorsParameter

variable {F : NumberFormat}

def fromJson (json : Json F) (self : SetLEDLightColorsParameter) :
    Except Thrown SetLEDLightColorsParameter := do
  let list ← json.index "colors"
  let colors ← Json.readEach list (fun item => SetLEDLightColorParameter.fromJson item .initial) []
  return { self with colors := colors }

def toJson (self : SetLEDLightColorsParameter) : Except Thrown (Json F) := do
  let json ← Json.null.assign "colors" (.array [])
  json.pushEach "colors" SetLEDLightColorParameter.toJson self.colors

end SetLEDLightColorsParameter

end Booster.Robot.Light
