/-
This file is a library for integers read from text the way the C library reads them.

White space is skipped, a sign is accepted, and so is the prefix of base sixteen when a
digit follows it; digits are read up to the first byte that is not one, and it is an error
if there is none. A text of two bytes is read by cases on whether each is a digit.
-/

import Mathlib.Data.Nat.Digits.Defs
import Mathlib.Tactic.Linarith
import Mathlib.Tactic.Ring

namespace IntegerText

/-- The digit a byte stands for: a decimal digit, or a letter of either case. -/
def digit (byte : UInt8) : Option Nat :=
  if 48 ≤ byte.toNat ∧ byte.toNat ≤ 57 then some (byte.toNat - 48)
  else if 97 ≤ byte.toNat ∧ byte.toNat ≤ 122 then some (byte.toNat - 87)
  else if 65 ≤ byte.toNat ∧ byte.toNat ≤ 90 then some (byte.toNat - 55)
  else none

/-- The digit of a base that a byte stands for. -/
def digitIn (base : Nat) (byte : UInt8) : Option Nat := (digit byte).filter (· < base)

/-- `isspace`, in the C locale. -/
def isSpace (byte : UInt8) : Bool := byte.toNat == 32 || 9 ≤ byte.toNat && byte.toNat ≤ 13

def plus : UInt8 := 43

def minus : UInt8 := 45

/-- The digits before the first byte that is not one. -/
def leadingDigits (base : Nat) : List UInt8 → List Nat
  | [] => []
  | byte :: rest =>
    match digitIn base byte with
    | some value => value :: leadingDigits base rest
    | none => []

/-- The number the leading digits make, if there is one. -/
def magnitude (base : Nat) (bytes : List UInt8) : Option Nat :=
  match leadingDigits base bytes with
  | [] => none
  | digits => some (Nat.ofDigits base digits.reverse)

/-- A prefix of base sixteen is skipped when a digit follows it. -/
def skipPrefix (base : Nat) : List UInt8 → List UInt8
  | zero :: mark :: byte :: rest =>
    if base = 16 ∧ zero = 48 ∧ (mark = 120 ∨ mark = 88) ∧ (digitIn base byte).isSome then
      byte :: rest
    else zero :: mark :: byte :: rest
  | bytes => bytes

/-- A number after its white space. -/
def signed (base : Nat) : List UInt8 → Option Int
  | [] => none
  | byte :: rest =>
    if byte = minus then
      (magnitude base (skipPrefix base rest)).map fun value : Nat => -(value : Int)
    else if byte = plus then (magnitude base (skipPrefix base rest)).map Int.ofNat
    else (magnitude base (skipPrefix base (byte :: rest))).map Int.ofNat

/-- `strtol`, none when there is no digit. -/
def strtol (base : Nat) (bytes : List UInt8) : Option Int := signed base (bytes.dropWhile isSpace)

/-- `std::stoi`, none when it throws. -/
def stoi (base : Nat) (bytes : List UInt8) : Option Int :=
  (strtol base bytes).filter fun value => -2 ^ 31 ≤ value ∧ value < 2 ^ 31

/-! ### Digits -/

variable {base : Nat} {byte : UInt8} {value : Nat}

theorem digitIn_lt (found : digitIn base byte = some value) : value < base :=
  of_decide_eq_true (Option.filter_eq_some_iff.mp found).2

theorem le_of_digitIn (found : digitIn base byte = some value) : 48 ≤ byte.toNat := by
  have within := (Option.filter_eq_some_iff.mp found).1
  unfold digit at within
  split at within
  · omega
  · split at within
    · omega
    · split at within
      · omega
      · cases within

/-- A digit is no white space and no sign. -/
theorem isSpace_of_digitIn (found : digitIn base byte = some value) : isSpace byte = false := by
  have bound := le_of_digitIn found
  simp only [isSpace, Bool.or_eq_false_iff, Bool.and_eq_false_iff, beq_eq_false_iff_ne,
    decide_eq_false_iff_not]
  omega

theorem ne_sign_of_digitIn (found : digitIn base byte = some value) :
    byte ≠ minus ∧ byte ≠ plus := by
  have bound := le_of_digitIn found
  constructor <;>
  · rintro rfl
    exact absurd bound (by decide)

theorem leadingDigits_cons (found : digitIn base byte = some value) (rest : List UInt8) :
    leadingDigits base (byte :: rest) = value :: leadingDigits base rest := by
  rw [leadingDigits, found]

theorem leadingDigits_none (noDigit : digitIn base byte = none) (rest : List UInt8) :
    leadingDigits base (byte :: rest) = [] := by
  rw [leadingDigits, noDigit]

/-! ### Texts of two bytes -/

/-- What a text of two bytes is read as. -/
def pair (base : Nat) (first second : UInt8) : Option Int :=
  match digitIn base first, digitIn base second with
  | some high, some low => some (high * base + low)
  | some high, none => some high
  | none, some low =>
    if first = minus then some (-low)
    else if isSpace first = true ∨ first = plus then some low
    else none
  | none, none => none

theorem magnitude_single (byte : UInt8) : magnitude base [byte] = digitIn base byte := by
  unfold magnitude
  cases found : digitIn base byte with
  | none => rw [leadingDigits_none found]
  | some value =>
    rw [leadingDigits_cons found]
    simp [leadingDigits]

/-- A number that does not begin with a sign. -/
theorem signed_unsigned {first : UInt8} (unsigned : first ≠ minus ∧ first ≠ plus)
    (rest : List UInt8) :
    signed base (first :: rest) =
      (magnitude base (skipPrefix base (first :: rest))).map Int.ofNat := by
  rw [signed, if_neg unsigned.1, if_neg unsigned.2]

theorem signed_single (base : Nat) (byte : UInt8) :
    signed base [byte] = (digitIn base byte).map Int.ofNat := by
  by_cases sign : byte ≠ minus ∧ byte ≠ plus
  · rw [signed_unsigned sign]
    show (magnitude base [byte]).map Int.ofNat = _
    rw [magnitude_single]
  · cases found : digitIn base byte with
    | some value => exact absurd (ne_sign_of_digitIn found) sign
    | none =>
      by_cases negative : byte = minus
      · rw [signed, if_pos negative]
        rfl
      · have positive : byte = plus := by
          by_contra other
          exact sign ⟨negative, other⟩
        rw [signed, if_neg negative, if_pos positive]
        rfl

theorem strtol_single (base : Nat) (byte : UInt8) :
    strtol base [byte] = (digitIn base byte).map Int.ofNat := by
  unfold strtol
  rw [List.dropWhile_cons]
  split
  · rename_i space
    cases found : digitIn base byte with
    | some value => rw [isSpace_of_digitIn found] at space; cases space
    | none => rfl
  · exact signed_single base byte

/-- After white space only the second byte counts. -/
theorem strtol_pair_space (base : Nat) {first : UInt8} (space : isSpace first = true)
    (second : UInt8) : strtol base [first, second] = pair base first second := by
  have skipped : strtol base [first, second] = strtol base [second] := by
    unfold strtol
    rw [List.dropWhile_cons, if_pos space]
  have visible : first ≠ minus := by
    rintro rfl
    cases space
  rw [skipped, strtol_single]
  unfold pair
  cases high : digitIn base first with
  | some value =>
    rw [isSpace_of_digitIn high] at space
    cases space
  | none =>
    cases low : digitIn base second with
    | none => rfl
    | some value =>
      dsimp only
      rw [if_neg visible, if_pos (.inl space)]
      rfl

/-- The digits of a text of two bytes whose first is one. -/
theorem magnitude_pair {first : UInt8} {high : Nat} (found : digitIn base first = some high)
    (second : UInt8) :
    magnitude base [first, second] =
      some ((digitIn base second).elim high fun low => high * base + low) := by
  unfold magnitude
  rw [leadingDigits_cons found]
  cases low : digitIn base second with
  | none =>
    rw [leadingDigits_none low]
    simp
  | some lowValue =>
    rw [leadingDigits_cons low]
    simp [leadingDigits, Nat.ofDigits_cons]
    ring

theorem magnitude_none {first : UInt8} (absent : digitIn base first = none) (rest : List UInt8) :
    magnitude base (first :: rest) = none := by
  unfold magnitude
  rw [leadingDigits_none absent]

/-- A text of two bytes is read by cases on which of them are digits. -/
theorem strtol_pair (base : Nat) (first second : UInt8) :
    strtol base [first, second] = pair base first second := by
  by_cases space : isSpace first = true
  · exact strtol_pair_space base space second
  · have kept : strtol base [first, second] = signed base [first, second] := by
      unfold strtol
      rw [List.dropWhile_cons, if_neg space]
    rw [kept]
    unfold pair
    cases high : digitIn base first with
    | some value =>
      rw [signed_unsigned (ne_sign_of_digitIn high)]
      show (magnitude base [first, second]).map Int.ofNat = _
      rw [magnitude_pair high]
      cases digitIn base second with
      | none => rfl
      | some lowValue => simp
    | none =>
      show (if first = minus then (magnitude base [second]).map fun value : Nat => -(value : Int)
        else if first = plus then (magnitude base [second]).map Int.ofNat
        else (magnitude base [first, second]).map Int.ofNat) = _
      rw [magnitude_single, magnitude_none high]
      cases low : digitIn base second with
      | none => simp
      | some lowValue => simp [space]

/-- How large a number of two bytes can be. -/
theorem pair_bounds {first second : UInt8} {number : Int}
    (read : pair base first second = some number) :
    -(base : Int) < number ∧ number < base * base := by
  unfold pair at read
  cases high : digitIn base first with
  | some value =>
    have highBound : (value : Int) + 1 ≤ base := by exact_mod_cast digitIn_lt high
    have rows : ((value : Int) + 1) * base ≤ base * base :=
      Int.mul_le_mul_of_nonneg_right highBound (Int.natCast_nonneg base)
    have nonneg : 0 ≤ (value : Int) * base :=
      Int.mul_nonneg (Int.natCast_nonneg value) (Int.natCast_nonneg base)
    cases low : digitIn base second with
    | some lowValue =>
      have lowBound : (lowValue : Int) + 1 ≤ base := by exact_mod_cast digitIn_lt low
      rw [high, low] at read
      cases read
      constructor <;> linarith
    | none =>
      rw [high, low] at read
      cases read
      constructor <;> nlinarith
  | none =>
    cases low : digitIn base second with
    | some lowValue =>
      have lowBound : (lowValue : Int) + 1 ≤ base := by exact_mod_cast digitIn_lt low
      rw [high, low] at read
      dsimp only at read
      split at read
      · cases read
        constructor <;> nlinarith
      · split at read
        · cases read
          constructor <;> nlinarith
        · cases read
    | none =>
      rw [high, low] at read
      cases read

/-- No number of two bytes is out of range. -/
theorem stoi_pair (small : base ≤ 36) (first second : UInt8) :
    stoi base [first, second] = pair base first second := by
  unfold stoi
  rw [strtol_pair]
  cases read : pair base first second with
  | none => rfl
  | some number =>
    have bounds := pair_bounds read
    have square : base * base ≤ 36 * 36 := Nat.mul_le_mul small small
    exact Option.filter_some_pos (decide_eq_true (by omega))

end IntegerText
