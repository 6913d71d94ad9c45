/-
This file models the measures that the input limits of the LUI speech APIs are stated in.

A text is measured in code points: its bytes that are not continuation bytes, which are
as many as its scalar values when it is valid and are counted all the same when it is
not. Audio is measured in decoded bytes, which are estimated from the length of its
base64 text and the padding at its end. The estimate is exact for an encoding; for any
other text it never exceeds what the characters before the padding can carry, and falls
short of it when there is more padding than a last block takes or the text is not a
whole number of blocks.
-/

import BoosterSdk.Library.Base64
import BoosterSdk.Library.JsonValue
import BoosterSdk.Library.Utf8

namespace Booster.Robot

/-! ### Code points -/

/-- `CountUtf8CodePoints`. -/
def countUtf8CodePoints (text : Text) : Int :=
  text.chars.foldl
    (fun count rawByte => if rawByte.toUInt8 &&& 0xC0 ≠ 0x80 then count + 1 else count) 0

/-- The loop counts the bytes that are not continuation bytes. -/
theorem countUtf8CodePoints_eq (text : Text) :
    countUtf8CodePoints text = text.bytes.countP fun byte => !Utf8.isContinuation byte := by
  have loop (bytes : List UInt8) (count : Int) :
      (bytes.map UInt8.toInt8).foldl (fun count rawByte =>
          if rawByte.toUInt8 &&& 0xC0 ≠ 0x80 then count + 1 else count) count =
        count + (bytes.countP fun byte => !Utf8.isContinuation byte : Nat) := by
    induction bytes generalizing count with
    | nil => exact (Int.add_zero count).symm
    | cons byte rest inductionHypothesis =>
      rw [List.map_cons, List.foldl_cons, inductionHypothesis, List.countP_cons,
        UInt8.toUInt8_toInt8]
      unfold Utf8.isContinuation
      by_cases continuation : byte &&& 0xC0 = 0x80
      · simp [continuation]
      · simp [continuation]
        omega
  unfold countUtf8CodePoints Text.chars
  rw [loop, Int.zero_add]

/-- Counting code points is exact on valid text and additive on any, and lies between zero and the
number of bytes. -/
theorem countUtf8CodePoints_exact :
    (∀ scalars : List Char, countUtf8CodePoints ⟨Utf8.encode scalars⟩ = scalars.length) ∧
    (∀ s t : Text,
      countUtf8CodePoints (s ++ t) = countUtf8CodePoints s + countUtf8CodePoints t) ∧
    ∀ s : Text, 0 ≤ countUtf8CodePoints s ∧ countUtf8CodePoints s ≤ s.bytes.length := by
  refine ⟨fun scalars => ?_, fun s t => ?_, fun s => ?_⟩
  · rw [countUtf8CodePoints_eq, Utf8.countP_encode]
  · rw [countUtf8CodePoints_eq, countUtf8CodePoints_eq, countUtf8CodePoints_eq,
      Text.bytes_append, List.countP_append, Int.natCast_add]
  · rw [countUtf8CodePoints_eq]
    exact ⟨Int.natCast_nonneg _, Int.ofNat_le.mpr List.countP_le_length⟩

/-! ### Decoded bytes -/

/-- The loop of `EstimateBase64DecodedBytes`, from the last character on. -/
def countPadding : List Int8 → Int → Int
  | [], padding => padding
  | character :: rest, padding =>
    if character = 61 then countPadding rest (padding + 1) else padding

/-- `EstimateBase64DecodedBytes`. -/
def estimateBase64DecodedBytes (base64Data : Text) : Int :=
  let padding := countPadding base64Data.chars.reverse 0
  let length : Int := base64Data.chars.length
  length / 4 * 3 - padding

theorem countPadding_eq (characters : List Int8) (padding : Int) :
    countPadding characters padding =
      padding + ((characters.takeWhile (· == 61)).length : Nat) := by
  induction characters generalizing padding with
  | nil => exact (Int.add_zero padding).symm
  | cons character rest inductionHypothesis =>
    rw [countPadding, List.takeWhile_cons]
    by_cases padded : character = 61
    · rw [if_pos padded, inductionHypothesis, if_pos (beq_iff_eq.mpr padded), List.length_cons]
      omega
    · rw [if_neg padded, if_neg (fun same => padded (beq_iff_eq.mp same))]
      exact (Int.add_zero padding).symm

/-- A `char` is the padding character when its byte is. -/
theorem toInt8_beq (byte : UInt8) : (byte.toInt8 == 61) = (byte == Base64.pad) := by
  obtain ⟨⟨value⟩⟩ := byte
  revert value
  decide +kernel

/-- The loop counts the padding of a text. -/
theorem countPadding_chars (text : Text) :
    countPadding text.chars.reverse 0 = (Base64.padding text.bytes : Nat) := by
  have test : (fun character : Int8 => character == 61) ∘ UInt8.toInt8 =
      fun byte => byte == Base64.pad := funext toInt8_beq
  unfold Text.chars Base64.padding List.rtakeWhile
  rw [countPadding_eq, Int.zero_add, ← List.map_reverse, List.takeWhile_map, List.length_map,
    List.length_reverse, test]

/-- The estimate falls short of what the characters before the padding can carry by what padding
and an incomplete block come to. -/
theorem estimateBase64DecodedBytes_eq (base64Data : Text) :
    estimateBase64DecodedBytes base64Data =
      (3 * (Base64.content base64Data.bytes).length / 4 : Nat) -
        ((Base64.padding base64Data.bytes + 3 * (base64Data.bytes.length % 4)) / 4 : Nat) := by
  have total := Base64.length_content_add_padding base64Data.bytes
  have length : base64Data.chars.length = base64Data.bytes.length := List.length_map _
  unfold estimateBase64DecodedBytes
  dsimp only
  rw [countPadding_chars, length]
  omega

/-- The estimate is exact on an encoding. -/
theorem estimateBase64DecodedBytes_encode (bytes : List UInt8) :
    estimateBase64DecodedBytes ⟨Base64.encode bytes⟩ = bytes.length := by
  have whole := Base64.encode_whole bytes
  rw [estimateBase64DecodedBytes_eq, Base64.length_of_decode (Base64.decode_encode bytes)]
  dsimp only
  omega

/-- The estimate is not negative and not below what the characters before the padding can carry
exactly when the text is a whole number of blocks with at most three characters of padding, or has
one character more than that and no padding. Then no text that decodes to more bytes than a limit is
estimated to be within it. -/
theorem estimateBase64DecodedBytes_covers_iff (base64Data : Text) :
    (0 ≤ estimateBase64DecodedBytes base64Data ∧
        (3 * (Base64.content base64Data.bytes).length / 4 : Nat) ≤
          estimateBase64DecodedBytes base64Data ↔
      base64Data.bytes.length % 4 = 0 ∧ Base64.padding base64Data.bytes ≤ 3 ∨
        base64Data.bytes.length % 4 = 1 ∧ Base64.padding base64Data.bytes = 0) ∧
    (base64Data.bytes.length % 4 = 0 ∧ Base64.padding base64Data.bytes ≤ 3 ∨
        base64Data.bytes.length % 4 = 1 ∧ Base64.padding base64Data.bytes = 0 →
      ∀ carried, Base64.decode base64Data.bytes = some carried → ∀ limit : Int,
        limit < carried.length → limit < estimateBase64DecodedBytes base64Data) := by
  have total := Base64.length_content_add_padding base64Data.bytes
  rw [estimateBase64DecodedBytes_eq]
  constructor
  · omega
  · intro covered carried decoded limit more
    rw [Base64.length_of_decode decoded] at more
    omega

/-- Padding alone is estimated below zero, and a text that carries two bytes without its padding is
estimated to carry none. -/
theorem estimateBase64DecodedBytes_short :
    estimateBase64DecodedBytes (Text.ofLiteral "=") = -1 ∧
      estimateBase64DecodedBytes (Text.ofLiteral "QUI") = 0 ∧
      Base64.decode (Text.ofLiteral "QUI").bytes = some [65, 66] ∧
      ¬ ∀ base64Data : Text, 0 ≤ estimateBase64DecodedBytes base64Data ∧
        (3 * (Base64.content base64Data.bytes).length / 4 : Nat) ≤
          estimateBase64DecodedBytes base64Data := by
  have negative : estimateBase64DecodedBytes (Text.ofLiteral "=") = -1 := by decide +kernel
  refine ⟨negative, by decide +kernel, by decide +kernel, fun covers => ?_⟩
  have bound := (covers (Text.ofLiteral "=")).1
  rw [negative] at bound
  exact absurd bound (by decide)

end Booster.Robot
