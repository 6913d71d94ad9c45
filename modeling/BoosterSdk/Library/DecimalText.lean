/-
This file is a library for decimal numbers in text and the floating-point numbers they
stand for.

A text of digits, with a fraction and an exponent or without, has a rational value, and
reading it gives the floating-point number nearest to that value. Which number that is
is a parameter, and so are the shortest digits that are written for a number; what is
asked of the two is that they undo each other.
-/

import BoosterSdk.Library.IntegerText
import Mathlib.Algebra.Order.Field.Rat
import Mathlib.Data.Nat.Digits.Lemmas

namespace DecimalText

open IntegerText

/-- The byte of a digit. -/
def digitByte (digit : Nat) : UInt8 := UInt8.ofNat (48 + digit)

/-- The digits of a number, the most significant first. -/
def digitsOf (number : Nat) : List Nat := if number = 0 then [0] else (Nat.digits 10 number).reverse

/-- A number in decimal. -/
def ofNat (number : Nat) : List UInt8 := (digitsOf number).map digitByte

/-- The number that digits make. -/
def numberOf (digits : List Nat) : Nat := Nat.ofDigits 10 digits.reverse

def point : UInt8 := 46

/-- A byte that marks an exponent. -/
def isExponentMark (byte : UInt8) : Bool := byte == 101 || byte == 69

/-- An exponent, zero when there is none. -/
def exponentOf : List UInt8 → Int
  | mark :: rest => if isExponentMark mark then (strtol 10 rest).getD 0 else 0
  | [] => 0

/-- The value of the fraction and the exponent that follow some digits. -/
def valueAfter (whole : List Nat) : List UInt8 → ℚ
  | mark :: rest =>
    if mark = point then
      let fraction := leadingDigits 10 rest
      numberOf (whole ++ fraction) *
        10 ^ (exponentOf (rest.drop fraction.length) - fraction.length)
    else numberOf whole * 10 ^ exponentOf (mark :: rest)
  | [] => numberOf whole

/-- The value of a decimal text without a sign. -/
def magnitudeOf (bytes : List UInt8) : ℚ :=
  let whole := leadingDigits 10 bytes
  valueAfter whole (bytes.drop whole.length)

/-- The floating-point numbers of a type, as text is read and written for them. -/
structure FloatText (Double : Type) where
  isFinite : Double → Bool
  signbit : Double → Bool
  isZero : Double → Bool
  negate : Double → Double
  /-- The number nearest to a value that is not negative. -/
  nearest : ℚ → Double
  /-- The shortest digits of a positive number, and the power of ten they are multiplied by. -/
  shortest : Double → List Nat × Int
  negate_negate : ∀ number, negate (negate number) = number
  signbit_negate : ∀ number, signbit (negate number) = !signbit number
  isFinite_negate : ∀ number, isFinite (negate number) = isFinite number
  isZero_negate : ∀ number, isZero (negate number) = isZero number
  nearest_zero : ∀ number, isZero number = true → signbit number = false → nearest 0 = number
  shortest_digit : ∀ number, ∀ digit ∈ (shortest number).1, digit < 10
  shortest_nonempty : ∀ number, isFinite number = true → isZero number = false →
    signbit number = false → ∃ first rest, (shortest number).1 = first :: rest ∧ first ≠ 0
  shortest_exponent : ∀ number, isFinite number = true → isZero number = false →
    signbit number = false →
    (((shortest number).1.length : Int) + (shortest number).2 - 1).natAbs < 1000
  nearest_shortest : ∀ number, isFinite number = true → isZero number = false →
    signbit number = false →
    nearest (numberOf (shortest number).1 * 10 ^ (shortest number).2) = number

/-- `strtod`, of a text that is a decimal number. -/
def FloatText.strtod {Double : Type} (floats : FloatText Double) : List UInt8 → Double
  | [] => floats.nearest 0
  | byte :: rest =>
    if byte = minus then floats.negate (floats.nearest (magnitudeOf rest))
    else floats.nearest (magnitudeOf (byte :: rest))

/-! ### Digits -/

theorem toNat_digitByte {digit : Nat} (small : digit < 10) :
    (digitByte digit).toNat = 48 + digit :=
  UInt8.toNat_ofNat_of_lt' (by omega : 48 + digit < 256)

theorem digitIn_digitByte {digit : Nat} (small : digit < 10) :
    digitIn 10 (digitByte digit) = some digit := by
  unfold digitIn IntegerText.digit
  rw [toNat_digitByte small, if_pos (by omega), Nat.add_sub_cancel_left]
  exact Option.filter_some_pos (decide_eq_true small)

/-- A digit is not a sign. -/
theorem digitByte_ne_minus {digit : Nat} (small : digit < 10) : digitByte digit ≠ minus := by
  intro same
  have value := congrArg UInt8.toNat same
  rw [toNat_digitByte small] at value
  have sign : minus.toNat = 45 := rfl
  omega

/-- Text that does not go on with a digit. -/
def Ends (rest : List UInt8) : Prop := ∀ byte ∈ rest.head?, digitIn 10 byte = none

theorem ends_nil : Ends [] := by
  rintro _ ⟨⟩

/-- Digits are read up to where they end. -/
theorem leadingDigits_append {digits : List Nat} (small : ∀ digit ∈ digits, digit < 10)
    {rest : List UInt8} (ends : Ends rest) :
    leadingDigits 10 (digits.map digitByte ++ rest) = digits := by
  induction digits with
  | nil =>
    cases rest with
    | nil => rfl
    | cons byte rest => exact leadingDigits_none (ends byte rfl) rest
  | cons digit digits inductionHypothesis =>
    rw [List.map_cons, List.cons_append,
      leadingDigits_cons (digitIn_digitByte (small digit List.mem_cons_self)),
      inductionHypothesis fun other member => small other (List.mem_cons_of_mem _ member)]

theorem digitsOf_lt {number digit : Nat} (member : digit ∈ digitsOf number) : digit < 10 := by
  unfold digitsOf at member
  split at member
  · rw [List.mem_singleton.mp member]
    decide
  · exact Nat.digits_lt_base (by decide) (List.mem_reverse.mp member)

theorem digitsOf_ne_nil (number : Nat) : digitsOf number ≠ [] := by
  unfold digitsOf
  split
  · exact List.cons_ne_nil 0 []
  · rename_i nonzero
    rw [Ne, List.reverse_eq_nil_iff, Nat.digits_eq_nil_iff_eq_zero]
    exact nonzero

/-- The digits of a number make it. -/
theorem numberOf_digitsOf (number : Nat) : numberOf (digitsOf number) = number := by
  unfold numberOf digitsOf
  split
  · rename_i zero
    rw [zero]
    rfl
  · rw [List.reverse_reverse, Nat.ofDigits_digits]

/-- Each number beyond nine has the digits of its tenth and one more. -/
theorem digitsOf_step {number : Nat} (large : 10 ≤ number) :
    digitsOf number = digitsOf (number / 10) ++ [number % 10] := by
  unfold digitsOf
  rw [if_neg (by omega), if_neg (by omega), Nat.digits_def' (by decide) (by omega),
    List.reverse_cons]

theorem digitsOf_small {number : Nat} (small : number < 10) : digitsOf number = [number] := by
  unfold digitsOf
  split
  · rename_i zero
    rw [zero]
  · rename_i nonzero
    rw [Nat.digits_of_lt 10 number nonzero small]
    rfl

/-- A number that is not zero does not begin with zero. -/
theorem digitsOf_first {number : Nat} (nonzero : number ≠ 0) :
    ∃ first rest, digitsOf number = first :: rest ∧ first ≠ 0 := by
  induction number using Nat.strong_induction_on with
  | _ number inductionHypothesis =>
    by_cases large : 10 ≤ number
    · obtain ⟨first, rest, split, leading⟩ :=
        inductionHypothesis (number / 10) (by omega) (by omega)
      rw [digitsOf_step large, split]
      exact ⟨first, _, rfl, leading⟩
    · exact ⟨number, [], digitsOf_small (by omega), nonzero⟩

theorem numberOf_append (whole fraction : List Nat) :
    numberOf (whole ++ fraction) = numberOf whole * 10 ^ fraction.length + numberOf fraction := by
  unfold numberOf
  rw [List.reverse_append, Nat.ofDigits_append, List.length_reverse]
  ring

theorem numberOf_replicate_zero (count : Nat) : numberOf (List.replicate count 0) = 0 := by
  unfold numberOf
  rw [List.reverse_replicate]
  exact Nat.ofDigits_replicate_zero ..

/-! ### Values -/

/-- No prefix is skipped in base ten. -/
theorem skipPrefix_decimal (bytes : List UInt8) : skipPrefix 10 bytes = bytes := by
  unfold skipPrefix
  split
  · rw [if_neg]
    rintro ⟨sixteen, _⟩
    exact absurd sixteen (by decide)
  · rfl

theorem strtol_of_unsigned {first : UInt8} {rest : List UInt8} {digit : Nat}
    (found : digitIn 10 first = some digit) :
    strtol 10 (first :: rest) = (magnitude 10 (first :: rest)).map Int.ofNat := by
  unfold strtol
  rw [List.dropWhile_cons, if_neg (by rw [isSpace_of_digitIn found]; exact Bool.false_ne_true),
    signed_unsigned (ne_sign_of_digitIn found), skipPrefix_decimal]

/-- The number some digits make. -/
theorem magnitude_digits {digits : List Nat} (nonempty : digits ≠ [])
    (small : ∀ digit ∈ digits, digit < 10) {rest : List UInt8} (ends : Ends rest) :
    magnitude 10 (digits.map digitByte ++ rest) = some (numberOf digits) := by
  unfold magnitude
  rw [leadingDigits_append small ends]
  cases digits with
  | nil => exact absurd rfl nonempty
  | cons first others => rfl

theorem strtol_digits {digits : List Nat} (nonempty : digits ≠ [])
    (small : ∀ digit ∈ digits, digit < 10) :
    strtol 10 (digits.map digitByte) = some (numberOf digits : Int) := by
  have whole := magnitude_digits nonempty small ends_nil
  rw [List.append_nil] at whole
  cases digits with
  | nil => exact absurd rfl nonempty
  | cons first others =>
    rw [List.map_cons] at whole ⊢
    rw [strtol_of_unsigned (digitIn_digitByte (small first List.mem_cons_self)), whole]
    rfl

theorem strtol_minus {digits : List Nat} (nonempty : digits ≠ [])
    (small : ∀ digit ∈ digits, digit < 10) :
    strtol 10 (minus :: digits.map digitByte) = some (-(numberOf digits : Int)) := by
  have whole := magnitude_digits nonempty small ends_nil
  rw [List.append_nil] at whole
  unfold strtol
  rw [List.dropWhile_cons, if_neg (by decide), signed, if_pos rfl, skipPrefix_decimal, whole]
  rfl

theorem strtol_plus {digits : List Nat} (nonempty : digits ≠ [])
    (small : ∀ digit ∈ digits, digit < 10) :
    strtol 10 (plus :: digits.map digitByte) = some (numberOf digits : Int) := by
  have whole := magnitude_digits nonempty small ends_nil
  rw [List.append_nil] at whole
  unfold strtol
  rw [List.dropWhile_cons, if_neg (by decide), signed, if_neg (by decide), if_pos rfl,
    skipPrefix_decimal, whole]
  rfl

theorem drop_digits (digits : List Nat) (rest : List UInt8) :
    (digits.map digitByte ++ rest).drop digits.length = rest := by
  rw [← List.length_map digitByte]
  exact List.drop_left

/-- The value of digits with a fraction. -/
theorem magnitudeOf_fraction {whole fraction : List Nat} (small : ∀ digit ∈ whole, digit < 10)
    (smallFraction : ∀ digit ∈ fraction, digit < 10) {rest : List UInt8} (ends : Ends rest) :
    magnitudeOf (whole.map digitByte ++ point :: (fraction.map digitByte ++ rest)) =
      numberOf (whole ++ fraction) * 10 ^ (exponentOf rest - fraction.length) := by
  have stops : Ends (point :: (fraction.map digitByte ++ rest)) := by
    rintro _ ⟨⟩
    decide
  unfold magnitudeOf
  dsimp only
  rw [leadingDigits_append small stops, drop_digits, valueAfter, if_pos rfl]
  dsimp only
  rw [leadingDigits_append smallFraction ends, drop_digits]

/-- The value of digits with an exponent or nothing. -/
theorem magnitudeOf_whole {whole : List Nat} (small : ∀ digit ∈ whole, digit < 10)
    {rest : List UInt8} (ends : Ends rest) (unpointed : rest.head? ≠ some point) :
    magnitudeOf (whole.map digitByte ++ rest) = numberOf whole * 10 ^ exponentOf rest := by
  unfold magnitudeOf
  dsimp only
  rw [leadingDigits_append small ends, drop_digits]
  cases rest with
  | nil => exact (mul_one _).symm
  | cons mark rest =>
    rw [valueAfter, if_neg]
    rintro rfl
    exact unpointed rfl

end DecimalText
