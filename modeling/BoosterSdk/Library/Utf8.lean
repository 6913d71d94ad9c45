/-
This file is a library for the bytes of UTF-8 text.

A scalar value is encoded in one to four bytes, of which the first is not a
continuation byte and all others are. The bytes of a text that are not continuation
bytes are therefore as many as its scalar values. Which bytes may follow a leading
byte is a table of ranges, and the sequences it allows are exactly the encodings.
-/

import Mathlib.Data.List.Basic
import Mathlib.Data.List.Forall2

namespace Utf8

/-- The UTF-8 encoding of a text. -/
def encode (scalars : List Char) : List UInt8 := scalars.flatMap String.utf8EncodeChar

/-- A byte of the form `0b10xxxxxx`. -/
def isContinuation (byte : UInt8) : Bool := byte &&& 0xC0 == 0x80

/-- A byte is a continuation byte when it is in the third quarter of the bytes. -/
theorem isContinuation_iff (byte : UInt8) :
    isContinuation byte = true ↔ 128 ≤ byte.toNat ∧ byte.toNat < 192 := by
  obtain ⟨⟨value⟩⟩ := byte
  revert value
  decide +kernel

theorem isContinuation_ofNat {value : Nat} (byte : value < 256) :
    isContinuation (UInt8.ofNat value) = true ↔ 128 ≤ value ∧ value < 192 := by
  rw [isContinuation_iff, UInt8.toNat_ofNat_of_lt' byte]

theorem isContinuation_following (value : Nat) :
    isContinuation (UInt8.ofNat (value % 64 + 128)) = true :=
  (isContinuation_ofNat (by omega)).mpr (by omega)

theorem isContinuation_leading {value : Nat} (byte : value < 256)
    (outside : value < 128 ∨ 192 ≤ value) : isContinuation (UInt8.ofNat value) = false := by
  rw [← Bool.not_eq_true, isContinuation_ofNat byte]
  omega

/-- A byte that begins an encoding, followed by the low bits of values. -/
theorem countP_leading {leading : UInt8} (first : isContinuation leading = false)
    (values : List Nat) :
    (leading :: values.map fun value => UInt8.ofNat (value % 64 + 128)).countP
      (fun byte => !isContinuation byte) = 1 := by
  have noneLeading : (values.map fun value => UInt8.ofNat (value % 64 + 128)).countP
      (fun byte => !isContinuation byte) = 0 := by
    refine List.countP_eq_zero.mpr fun byte member => ?_
    obtain ⟨value, _, rfl⟩ := List.mem_map.mp member
    rw [isContinuation_following]
    exact Bool.false_ne_true
  rw [List.countP_cons, noneLeading, first]
  rfl

/-- An encoding has one byte that is not a continuation byte, whatever its length. -/
theorem countP_utf8EncodeChar (scalar : Char) :
    (String.utf8EncodeChar scalar).countP (fun byte => !isContinuation byte) = 1 := by
  obtain ⟨value, _⟩ := scalar
  unfold String.utf8EncodeChar
  dsimp only
  split
  · exact countP_leading (isContinuation_leading (by omega) (by omega)) []
  · split
    · exact countP_leading (isContinuation_leading (by omega) (by omega)) [value.toNat]
    · split
      · exact countP_leading (isContinuation_leading (by omega) (by omega))
          [value.toNat / 64, value.toNat]
      · exact countP_leading (isContinuation_leading (by omega) (by omega))
          [value.toNat / 4096, value.toNat / 64, value.toNat]

/-- A text has as many bytes that are not continuation bytes as it has scalar values. -/
theorem countP_encode (scalars : List Char) :
    (encode scalars).countP (fun byte => !isContinuation byte) = scalars.length := by
  unfold encode
  induction scalars with
  | nil => rfl
  | cons scalar rest inductionHypothesis =>
    rw [List.flatMap_cons, List.countP_append, countP_utf8EncodeChar, inductionHypothesis,
      List.length_cons, Nat.add_comm]

/-! ### Well-formed sequences -/

/-- A range of bytes, both ends included. -/
structure ByteRange where
  low : Nat
  high : Nat
  deriving DecidableEq

/-- The byte is in the range. -/
def ByteRange.Holds (range : ByteRange) (byte : UInt8) : Prop :=
  range.low ≤ byte.toNat ∧ byte.toNat ≤ range.high

instance (range : ByteRange) (byte : UInt8) : Decidable (range.Holds byte) :=
  inferInstanceAs (Decidable (_ ∧ _))

/-- The range of most bytes that are not the first of their sequence. -/
def tail : ByteRange := ⟨0x80, 0xBF⟩

theorem tail_holds (byte : UInt8) : tail.Holds byte ↔ 0x80 ≤ byte.toNat ∧ byte.toNat ≤ 0xBF :=
  Iff.rfl

/-- A narrower range of such bytes. -/
theorem ByteRange.Holds.tail {range : ByteRange} {byte : UInt8} (holds : range.Holds byte)
    (low : 0x80 ≤ range.low) (high : range.high ≤ 0xBF) : Utf8.tail.Holds byte :=
  ⟨Nat.le_trans low holds.1, Nat.le_trans holds.2 high⟩

/-- The ranges of the bytes that follow a leading byte in the encoding of a scalar value. -/
def following (leading : UInt8) : Option (List ByteRange) :=
  if leading.toNat ≤ 0x7F then some []
  else if leading.toNat < 0xC2 then none
  else if leading.toNat ≤ 0xDF then some [tail]
  else if leading.toNat = 0xE0 then some [⟨0xA0, 0xBF⟩, tail]
  else if leading.toNat = 0xED then some [⟨0x80, 0x9F⟩, tail]
  else if leading.toNat ≤ 0xEF then some [tail, tail]
  else if leading.toNat = 0xF0 then some [⟨0x90, 0xBF⟩, tail, tail]
  else if leading.toNat ≤ 0xF3 then some [tail, tail, tail]
  else if leading.toNat = 0xF4 then some [⟨0x80, 0x8F⟩, tail, tail]
  else none

/-- The bytes are well-formed as the encoding of one scalar value. -/
def WellFormed (leading : UInt8) (rest : List UInt8) : Prop :=
  ∃ ranges, following leading = some ranges ∧ List.Forall₂ ByteRange.Holds ranges rest

/-- The scalar value of a well-formed sequence. -/
def value (leading : UInt8) : List UInt8 → Nat
  | [] => leading.toNat
  | [second] => (leading.toNat - 0xC0) * 64 + (second.toNat - 0x80)
  | [second, third] =>
    (leading.toNat - 0xE0) * 4096 + (second.toNat - 0x80) * 64 + (third.toNat - 0x80)
  | second :: third :: fourth :: _ =>
    (leading.toNat - 0xF0) * 262144 + (second.toNat - 0x80) * 4096 + (third.toNat - 0x80) * 64 +
      (fourth.toNat - 0x80)

@[simp] theorem value_one (first : UInt8) : value first [] = first.toNat := rfl

@[simp] theorem value_two (first second : UInt8) :
    value first [second] = (first.toNat - 0xC0) * 64 + (second.toNat - 0x80) := rfl

@[simp] theorem value_three (first second third : UInt8) :
    value first [second, third] = (first.toNat - 0xE0) * 4096 + (second.toNat - 0x80) * 64 +
      (third.toNat - 0x80) := rfl

@[simp] theorem value_four (first second third fourth : UInt8) :
    value first [second, third, fourth] = (first.toNat - 0xF0) * 262144 +
      (second.toNat - 0x80) * 4096 + (third.toNat - 0x80) * 64 + (fourth.toNat - 0x80) := rfl

/-- The well-formed sequences by their length. -/
inductive Sequence (first : UInt8) : List UInt8 → Prop where
  | one (ascii : first.toNat ≤ 0x7F) : Sequence first []
  | two {second : UInt8} (leading : 0xC2 ≤ first.toNat ∧ first.toNat ≤ 0xDF)
      (rest : tail.Holds second) : Sequence first [second]
  | three {second third : UInt8} (leading : 0xE0 ≤ first.toNat ∧ first.toNat ≤ 0xEF)
      (short : first.toNat = 0xE0 → 0xA0 ≤ second.toNat)
      (surrogate : first.toNat = 0xED → second.toNat ≤ 0x9F)
      (rest : tail.Holds second ∧ tail.Holds third) : Sequence first [second, third]
  | four {second third fourth : UInt8} (leading : 0xF0 ≤ first.toNat ∧ first.toNat ≤ 0xF4)
      (short : first.toNat = 0xF0 → 0x90 ≤ second.toNat)
      (large : first.toNat = 0xF4 → second.toNat ≤ 0x8F)
      (rest : tail.Holds second ∧ tail.Holds third ∧ tail.Holds fourth) :
      Sequence first [second, third, fourth]

theorem WellFormed.sequence {leading : UInt8} {rest : List UInt8}
    (wellFormed : WellFormed leading rest) : Sequence leading rest := by
  obtain ⟨ranges, row, holds⟩ := wellFormed
  unfold following at row
  split at row
  · cases row
    cases holds
    exact .one ‹_›
  split at row
  · cases row
  split at row
  · cases row
    obtain _ | ⟨second, ⟨⟩⟩ := holds
    exact .two (by omega) second
  split at row
  · cases row
    obtain _ | ⟨second, _ | ⟨third, ⟨⟩⟩⟩ := holds
    exact .three (by omega) (fun _ => second.1) (by omega)
      ⟨second.tail (by decide) (by decide), third⟩
  split at row
  · cases row
    obtain _ | ⟨second, _ | ⟨third, ⟨⟩⟩⟩ := holds
    exact .three (by omega) (by omega) (fun _ => second.2)
      ⟨second.tail (by decide) (by decide), third⟩
  split at row
  · cases row
    obtain _ | ⟨second, _ | ⟨third, ⟨⟩⟩⟩ := holds
    exact .three (by omega) (by omega) (by omega) ⟨second, third⟩
  split at row
  · cases row
    obtain _ | ⟨second, _ | ⟨third, _ | ⟨fourth, ⟨⟩⟩⟩⟩ := holds
    exact .four (by omega) (fun _ => second.1) (by omega)
      ⟨second.tail (by decide) (by decide), third, fourth⟩
  split at row
  · cases row
    obtain _ | ⟨second, _ | ⟨third, _ | ⟨fourth, ⟨⟩⟩⟩⟩ := holds
    exact .four (by omega) (by omega) (by omega) ⟨second, third, fourth⟩
  split at row
  · cases row
    obtain _ | ⟨second, _ | ⟨third, _ | ⟨fourth, ⟨⟩⟩⟩⟩ := holds
    exact .four (by omega) (by omega) (fun _ => second.2)
      ⟨second.tail (by decide) (by decide), third, fourth⟩
  · cases row

theorem Sequence.wellFormed {leading : UInt8} {rest : List UInt8}
    (sequence : Sequence leading rest) : WellFormed leading rest := by
  cases sequence with
  | one ascii => exact ⟨[], by rw [following, if_pos ascii], .nil⟩
  | two lead second =>
    refine ⟨[tail], ?_, .cons second .nil⟩
    rw [following, if_neg (by omega), if_neg (by omega), if_pos (by omega)]
  | @three second third lead short surrogate rest =>
    by_cases e0 : leading.toNat = 0xE0
    · refine ⟨[⟨0xA0, 0xBF⟩, tail], ?_, .cons ⟨short e0, rest.1.2⟩ (.cons rest.2 .nil)⟩
      rw [following, if_neg (by omega), if_neg (by omega), if_neg (by omega), if_pos e0]
    · by_cases ed : leading.toNat = 0xED
      · refine ⟨[⟨0x80, 0x9F⟩, tail], ?_, .cons ⟨rest.1.1, surrogate ed⟩ (.cons rest.2 .nil)⟩
        rw [following, if_neg (by omega), if_neg (by omega), if_neg (by omega), if_neg e0,
          if_pos ed]
      · refine ⟨[tail, tail], ?_, .cons rest.1 (.cons rest.2 .nil)⟩
        rw [following, if_neg (by omega), if_neg (by omega), if_neg (by omega), if_neg e0,
          if_neg ed, if_pos lead.2]
  | @four second third fourth lead short large rest =>
    have beyond : ∀ {value : Option (List ByteRange)}, (if leading.toNat ≤ 0x7F then some []
        else if leading.toNat < 0xC2 then none
        else if leading.toNat ≤ 0xDF then some [tail]
        else if leading.toNat = 0xE0 then some [⟨0xA0, 0xBF⟩, tail]
        else if leading.toNat = 0xED then some [⟨0x80, 0x9F⟩, tail]
        else if leading.toNat ≤ 0xEF then some [tail, tail] else value) = value := by
      intro value
      rw [if_neg (by omega), if_neg (by omega), if_neg (by omega), if_neg (by omega),
        if_neg (by omega), if_neg (by omega)]
    unfold WellFormed following
    rw [beyond]
    by_cases f0 : leading.toNat = 0xF0
    · exact ⟨[⟨0x90, 0xBF⟩, tail, tail], if_pos f0,
        .cons ⟨short f0, rest.1.2⟩ (.cons rest.2.1 (.cons rest.2.2 .nil))⟩
    · by_cases f4 : leading.toNat = 0xF4
      · refine ⟨[⟨0x80, 0x8F⟩, tail, tail], ?_,
          .cons ⟨rest.1.1, large f4⟩ (.cons rest.2.1 (.cons rest.2.2 .nil))⟩
        rw [if_neg f0, if_neg (by omega), if_pos f4]
      · refine ⟨[tail, tail, tail], ?_, .cons rest.1 (.cons rest.2.1 (.cons rest.2.2 .nil))⟩
        rw [if_neg f0, if_pos (by omega)]

/-- A sequence of more than one byte is beyond ASCII. -/
theorem Sequence.beyond_ascii {leading : UInt8} {rest : List UInt8}
    (sequence : Sequence leading rest) (several : rest ≠ []) : 0x80 ≤ value leading rest := by
  cases sequence with
  | one ascii => exact absurd rfl several
  | two lead second =>
    rw [value_two]
    omega
  | three lead short surrogate rest =>
    rw [tail_holds] at rest
    rw [value_three]
    omega
  | four lead short large rest =>
    rw [tail_holds] at rest
    rw [value_four]
    omega

theorem Sequence.several {leading : UInt8} {rest : List UInt8} (sequence : Sequence leading rest)
    (beyond : 0x7F < leading.toNat) : rest ≠ [] := by
  cases sequence with
  | one ascii => exact absurd ascii (Nat.not_le.mpr beyond)
  | two => exact List.cons_ne_nil _ _
  | three => exact List.cons_ne_nil _ _
  | four => exact List.cons_ne_nil _ _

theorem following_length (leading : UInt8) :
    ∀ ranges ∈ following leading, ranges.length ≤ 3 := by
  obtain ⟨⟨value⟩⟩ := leading
  revert value
  decide +kernel

/-- A scalar value is neither a surrogate nor too large. -/
theorem toNat_valid (scalar : Char) :
    scalar.val.toNat < 0xD800 ∨ 0xDFFF < scalar.val.toNat ∧ scalar.val.toNat < 0x110000 :=
  scalar.valid

/-- A number that is a scalar value. -/
theorem exists_scalar {number : Nat}
    (valid : number < 0xD800 ∨ 0xDFFF < number ∧ number < 0x110000) :
    ∃ scalar : Char, scalar.val.toNat = number :=
  ⟨Char.ofNatAux number valid, rfl⟩

/-- The byte of a number. -/
theorem ofNat_eq (byte : UInt8) {number : Nat} (same : number = byte.toNat) :
    UInt8.ofNat number = byte := by
  rw [same]
  exact UInt8.ofNat_toNat

/-- A well-formed sequence encodes its scalar value. -/
theorem Sequence.encode {leading : UInt8} {rest : List UInt8} (sequence : Sequence leading rest) :
    ∃ scalar : Char, scalar.val.toNat = value leading rest ∧
      String.utf8EncodeChar scalar = leading :: rest := by
  have valid : value leading rest < 0xD800 ∨
      0xDFFF < value leading rest ∧ value leading rest < 0x110000 := by
    cases sequence with
    | one ascii =>
      rw [value_one]
      omega
    | two lead following =>
      rw [tail_holds] at following
      rw [value_two]
      omega
    | three lead short surrogate following =>
      rw [tail_holds, tail_holds] at following
      rw [value_three]
      omega
    | four lead short large following =>
      rw [tail_holds, tail_holds, tail_holds] at following
      rw [value_four]
      omega
  obtain ⟨scalar, same⟩ := exists_scalar valid
  refine ⟨scalar, same, ?_⟩
  unfold String.utf8EncodeChar
  rw [same]
  cases sequence with
  | one ascii =>
    rw [value_one, if_pos ascii, ofNat_eq leading rfl]
  | @two second lead following =>
    rw [tail_holds] at following
    rw [value_two, if_neg (by omega), if_pos (by omega), ofNat_eq leading (by omega),
      ofNat_eq second (by omega)]
  | @three second third lead short surrogate following =>
    rw [tail_holds, tail_holds] at following
    rw [value_three, if_neg (by omega), if_neg (by omega), if_pos (by omega),
      ofNat_eq leading (by omega),
      ofNat_eq second (by omega), ofNat_eq third (by omega)]
  | @four second third fourth lead short large following =>
    rw [tail_holds, tail_holds, tail_holds] at following
    rw [value_four, if_neg (by omega), if_neg (by omega), if_neg (by omega),
      ofNat_eq leading (by omega),
      ofNat_eq second (by omega), ofNat_eq third (by omega), ofNat_eq fourth (by omega)]

/-- The encoding of a scalar value is a well-formed sequence. -/
theorem encode_sequence (scalar : Char) :
    ∃ leading rest, String.utf8EncodeChar scalar = leading :: rest ∧ Sequence leading rest ∧
      value leading rest = scalar.val.toNat := by
  have valid := toNat_valid scalar
  have toNat {number : Nat} (byte : number < 256) : (UInt8.ofNat number).toNat = number :=
    UInt8.toNat_ofNat_of_lt' byte
  unfold String.utf8EncodeChar
  dsimp only
  split
  · refine ⟨_, _, rfl, .one ?_, ?_⟩
    · rw [toNat (by omega)]
      omega
    · exact toNat (by omega)
  split
  · refine ⟨_, _, rfl, .two ?_ ?_, ?_⟩
    · rw [toNat (by omega)]
      omega
    · rw [tail_holds, toNat (by omega)]
      omega
    · rw [value_two, toNat (by omega), toNat (by omega)]
      omega
  split
  · refine ⟨_, _, rfl, .three ?_ ?_ ?_ ⟨?_, ?_⟩, ?_⟩
    · rw [toNat (by omega)]
      omega
    · rw [toNat (by omega), toNat (by omega)]
      omega
    · rw [toNat (by omega), toNat (by omega)]
      omega
    · rw [tail_holds, toNat (by omega)]
      omega
    · rw [tail_holds, toNat (by omega)]
      omega
    · rw [value_three, toNat (by omega), toNat (by omega), toNat (by omega)]
      omega
  · refine ⟨_, _, rfl, .four ?_ ?_ ?_ ⟨?_, ?_, ?_⟩, ?_⟩
    · rw [toNat (by omega)]
      omega
    · rw [toNat (by omega), toNat (by omega)]
      omega
    · rw [toNat (by omega), toNat (by omega)]
      omega
    · rw [tail_holds, toNat (by omega)]
      omega
    · rw [tail_holds, toNat (by omega)]
      omega
    · rw [tail_holds, toNat (by omega)]
      omega
    · rw [value_four, toNat (by omega), toNat (by omega), toNat (by omega), toNat (by omega)]
      omega

/-- Bytes encode a scalar value exactly when they are well-formed. -/
theorem wellFormed_iff (leading : UInt8) (rest : List UInt8) :
    WellFormed leading rest ↔ ∃ scalar, String.utf8EncodeChar scalar = leading :: rest := by
  constructor
  · intro wellFormed
    obtain ⟨scalar, _, encoded⟩ := wellFormed.sequence.encode
    exact ⟨scalar, encoded⟩
  · rintro ⟨scalar, encoded⟩
    obtain ⟨first, others, same, sequence, _⟩ := encode_sequence scalar
    rw [same] at encoded
    cases encoded
    exact sequence.wellFormed

end Utf8
