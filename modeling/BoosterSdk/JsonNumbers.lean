/-
This file says what the JSON library writes for numbers.

The digits of an integer are put into the buffer from its end, two at a time, which
leaves them in order in exactly the bytes that were counted before. The layouts of a
floating-point number differ in where the decimal point is and in whether there is an
exponent, but all of them have the value of the shortest digits.
-/

import BoosterSdk.JsonSerializer
import BoosterSdk.Library.JsonGrammar

namespace Nlohmann.Serializer

open DecimalText
open IntegerText (minus plus)

/-! ### Counting digits -/

theorem length_ofNat (number : Nat) : (ofNat number).length = (digitsOf number).length :=
  List.length_map _

theorem length_ofNat_step {number : Nat} (large : 10 ≤ number) :
    (ofNat number).length = (ofNat (number / 10)).length + 1 := by
  rw [length_ofNat, length_ofNat, digitsOf_step large, List.length_append, List.length_singleton]

theorem length_ofNat_small {number : Nat} (small : number < 10) : (ofNat number).length = 1 := by
  rw [length_ofNat, digitsOf_small small]
  rfl

/-- The digits are counted in advance. -/
theorem countDigits_eq (number : Nat) : countDigits number = (ofNat number).length := by
  fun_induction countDigits number with
  | case1 number small => rw [length_ofNat_small small]
  | case2 number _ small =>
    rw [length_ofNat_step (by omega), length_ofNat_small (by omega)]
  | case3 number _ _ small =>
    rw [length_ofNat_step (by omega), length_ofNat_step (by omega), length_ofNat_small (by omega)]
  | case4 number _ _ _ small =>
    rw [length_ofNat_step (by omega), length_ofNat_step (by omega), length_ofNat_step (by omega),
      length_ofNat_small (by omega)]
  | case5 number _ _ _ _ inductionHypothesis =>
    rw [inductionHypothesis, length_ofNat_step (by omega : 10 ≤ number),
      length_ofNat_step (by omega : 10 ≤ number / 10),
      length_ofNat_step (by omega : 10 ≤ number / 10 / 10),
      length_ofNat_step (by omega : 10 ≤ number / 10 / 10 / 10), Nat.div_div_eq_div_mul,
      Nat.div_div_eq_div_mul, Nat.div_div_eq_div_mul]

/-- A number of 64 bits has at most twenty digits. -/
theorem length_ofNat_le {number : Nat} (small : number < 2 ^ 64) : (ofNat number).length ≤ 20 := by
  rw [length_ofNat]
  unfold digitsOf
  split
  · exact (by decide : 1 ≤ 20)
  · rw [List.length_reverse]
    exact (Nat.digits_length_le_iff (by decide) number).mpr (Nat.lt_trans small (by decide))

/-! ### Putting digits -/

/-- A byte takes the place before the position. -/
theorem NumberBuffer.put_eq (before after : List UInt8) (old byte : UInt8) :
    NumberBuffer.put ⟨before ++ old :: after, before.length + 1⟩ byte =
      ⟨before ++ byte :: after, before.length⟩ := by
  unfold NumberBuffer.put
  dsimp only
  rw [Nat.add_sub_cancel, List.set_append_right _ _ (Nat.le_refl _), Nat.sub_self]
  rfl

theorem NumberBuffer.putPair_eq (before after : List UInt8) (first second : UInt8)
    (number : Nat) :
    NumberBuffer.putPair ⟨before ++ first :: second :: after, before.length + 2⟩ number =
      ⟨before ++ digitByte (number / 10) :: digitByte (number % 10) :: after, before.length⟩ := by
  have low := put_eq (before ++ [first]) after second (digitByte (number % 10))
  rw [List.length_append, List.length_singleton, List.append_assoc, List.append_assoc,
    List.singleton_append] at low
  unfold NumberBuffer.putPair
  rw [low]
  exact put_eq before _ first _

theorem ofNat_step {number : Nat} (large : 10 ≤ number) :
    ofNat number = ofNat (number / 10) ++ [digitByte (number % 10)] := by
  unfold ofNat
  rw [digitsOf_step large, List.map_append]
  rfl

theorem ofNat_small {number : Nat} (small : number < 10) : ofNat number = [digitByte number] := by
  unfold ofNat
  rw [digitsOf_small small]
  rfl

/-- The last two digits of a number and those before them. -/
theorem ofNat_pair {number : Nat} (large : 100 ≤ number) :
    ofNat number = ofNat (number / 100) ++
      [digitByte (number % 100 / 10), digitByte (number % 100 % 10)] := by
  rw [ofNat_step (by omega), ofNat_step (by omega : 10 ≤ number / 10), Nat.div_div_eq_div_mul,
    List.append_assoc, show number / 10 % 10 = number % 100 / 10 by omega,
    show number % 10 = number % 100 % 10 by omega]
  rfl

/-- The bytes before the position become the digits. -/
theorem NumberBuffer.putDigits_eq (number : Nat) (before blank after : List UInt8)
    (size : blank.length = (ofNat number).length) :
    NumberBuffer.putDigits ⟨before ++ (blank ++ after), before.length + blank.length⟩ number =
      ⟨before ++ (ofNat number ++ after), before.length⟩ := by
  induction number using Nat.strong_induction_on generalizing blank after with
  | _ number inductionHypothesis =>
    unfold NumberBuffer.putDigits
    by_cases huge : 100 ≤ number
    · have last : (blank.drop (ofNat (number / 100)).length).length = 2 := by
        rw [List.length_drop, size, ofNat_pair huge, List.length_append, Nat.add_sub_cancel_left]
        rfl
      obtain ⟨first, second, pair⟩ := List.length_eq_two.mp last
      obtain ⟨shorter, rfl⟩ : ∃ shorter, blank = shorter ++ [first, second] :=
        ⟨_, (pair ▸ List.take_append_drop _ blank).symm⟩
      have fits : shorter.length = (ofNat (number / 100)).length := by
        rw [ofNat_pair huge, List.length_append, List.length_append] at size
        exact Nat.add_right_cancel size
      have put := putPair_eq (before ++ shorter) after first second (number % 100)
      rw [List.append_assoc, List.length_append, List.append_assoc] at put
      rw [if_pos huge, List.append_assoc, List.length_append, ← Nat.add_assoc]
      refine (congrArg (NumberBuffer.putDigits · (number / 100)) put).trans ?_
      rw [inductionHypothesis (number / 100) (by omega) shorter _ fits, ofNat_pair huge,
        List.append_assoc]
      rfl
    · rw [if_neg huge]
      by_cases large : 10 ≤ number
      · have two : ofNat number = [digitByte (number / 10), digitByte (number % 10)] := by
          rw [ofNat_step large, ofNat_small (by omega)]
          rfl
        rw [two] at size ⊢
        obtain ⟨first, second, rfl⟩ := List.length_eq_two.mp size
        rw [if_pos large]
        exact putPair_eq before after first second number
      · rw [ofNat_small (by omega)] at size ⊢
        obtain ⟨old, rfl⟩ := List.length_eq_one_iff.mp size
        rw [if_neg large]
        exact put_eq before after old (digitByte number)

/-! ### Integers -/

/-- An integer in decimal, with its sign if it is negative. -/
def integerText (number : Int) : List UInt8 :=
  if number < 0 then minus :: ofNat number.natAbs else ofNat number.natAbs

/-- The digits are read off the bytes that were counted. -/
theorem dumpAbsolute_eq (negative : Bool) (absValue : UInt64) :
    dumpAbsolute negative absValue =
      if negative then minus :: ofNat absValue.toNat else ofNat absValue.toNat := by
  have few := length_ofNat_le absValue.toNat_lt
  have size : (List.replicate (ofNat absValue.toNat).length (0 : UInt8)).length =
    (ofNat absValue.toNat).length := List.length_replicate
  have blank (total : Nat) (long : 20 ≤ total) : List.replicate total (0 : UInt8) =
      List.replicate (ofNat absValue.toNat).length 0 ++
        List.replicate (total - (ofNat absValue.toNat).length) 0 := by
    rw [← List.replicate_add, Nat.add_sub_cancel' (Nat.le_trans few long)]
  unfold dumpAbsolute
  dsimp only
  rw [countDigits_eq]
  cases negative with
  | true =>
    have put := NumberBuffer.putDigits_eq absValue.toNat [minus] _
      (List.replicate (63 - (ofNat absValue.toNat).length) 0) size
    rw [size, ← blank 63 (by decide)] at put
    rw [if_pos rfl, if_pos rfl, List.replicate_succ, List.set_cons_zero]
    change NumberBuffer.putDigits ⟨minus :: List.replicate 63 0, 1 + _⟩ _ = _ at put
    rw [put, Nat.add_comm]
    show (minus :: (ofNat absValue.toNat ++ _)).take _ = _
    rw [List.take_succ_cons, List.take_left]
  | false =>
    have put := NumberBuffer.putDigits_eq absValue.toNat [] _
      (List.replicate (64 - (ofNat absValue.toNat).length) 0) size
    rw [size, ← blank 64 (by decide), List.length_nil, Nat.zero_add] at put
    rw [if_neg Bool.false_ne_true, if_neg Bool.false_ne_true]
    change NumberBuffer.putDigits ⟨List.replicate 64 0, _⟩ _ = _ at put
    rw [put]
    exact List.take_left

theorem dumpUnsigned_eq (x : UInt64) : dumpUnsigned x = ofNat x.toNat := by
  unfold dumpUnsigned
  split
  · rename_i zero
    rw [zero]
    decide +kernel
  · exact dumpAbsolute_eq false x

/-- The absolute value of a negative number, also of the one whose negation does not fit. -/
theorem removeSign_toNat {x : Int64} (negative : x < 0) :
    (removeSign x).toNat = x.toInt.natAbs := by
  have below : x.toInt < 0 := Int64.lt_iff_toInt_lt.mp negative
  have least := Int64.le_toInt x
  have next : (x + 1).toInt = x.toInt + 1 := by
    rw [Int64.toInt_add, Int64.toInt_one, Int.bmod_eq_of_le (by omega) (by omega)]
  have opposite : (-(x + 1)).toInt = -(x.toInt + 1) := by
    rw [Int64.toInt_neg, next, Int.bmod_eq_of_le (by omega) (by omega)]
  have positive : 0 ≤ -(x + 1) := by
    rw [Int64.le_iff_toInt_le, opposite, Int64.toInt_zero]
    omega
  unfold removeSign
  rw [UInt64.toNat_add, Int64.toNat_toUInt64_of_le positive, ← Int64.toNat_toInt, opposite]
  show ((-(x.toInt + 1)).toNat + 1) % 2 ^ 64 = _
  omega

/-- An integer is written in decimal. -/
theorem dumpInteger_eq (x : Int64) : dumpInteger x = integerText x.toInt := by
  unfold dumpInteger integerText
  split
  · rename_i zero
    rw [zero]
    decide +kernel
  · split
    · rename_i negative
      have below : x.toInt < 0 := Int64.lt_iff_toInt_lt.mp negative
      rw [if_pos below, dumpAbsolute_eq, removeSign_toNat negative, if_pos rfl]
    · rename_i positive
      have above : ¬ x.toInt < 0 := fun below => positive (Int64.lt_iff_toInt_lt.mpr below)
      have known : 0 ≤ x := by
        rw [Int64.le_iff_toInt_le, Int64.toInt_zero]
        omega
      rw [if_neg above, dumpAbsolute_eq, if_neg Bool.false_ne_true,
        Int64.toNat_toUInt64_of_le known, ← Int64.toNat_toInt]
      congr 1
      omega

/-! ### Floating-point numbers -/

open JsonGrammar (Exponent Numeral)

/-- The digits of an exponent, two or three of them. -/
def exponentDigits (k : Nat) : List Nat :=
  if k < 10 then [0, k] else if k < 100 then [k / 10, k % 10] else [k / 100, k % 100 / 10, k % 10]

theorem exponentDigits_small {k : Nat} (few : k < 1000) :
    ∀ digit ∈ exponentDigits k, digit < 10 := by
  intro digit member
  unfold exponentDigits at member
  split at member
  · simp only [List.mem_cons, List.not_mem_nil, or_false] at member
    omega
  · split at member <;> simp only [List.mem_cons, List.not_mem_nil, or_false] at member <;> omega

theorem exponentDigits_ne_nil (k : Nat) : exponentDigits k ≠ [] := by
  unfold exponentDigits
  split
  · exact List.cons_ne_nil _ _
  · split <;> exact List.cons_ne_nil _ _

theorem numberOf_exponentDigits (k : Nat) : numberOf (exponentDigits k) = k := by
  unfold exponentDigits numberOf
  split
  · simp [Nat.ofDigits]
  · split <;> simp [Nat.ofDigits] <;> omega

def signOf (e : Int) : UInt8 := if e < 0 then minus else plus

theorem appendExponent_eq (e : Int) :
    appendExponent e = signOf e :: (exponentDigits e.natAbs).map digitByte := by
  unfold appendExponent exponentDigits signOf
  dsimp only
  generalize (if e < 0 then minus else plus) = sign
  generalize e.natAbs = k
  by_cases one : k < 10
  · rw [if_pos one, if_pos one]
    rfl
  by_cases two : k < 100
  · rw [if_neg one, if_neg one, if_pos two, if_pos two]
    rfl
  · rw [if_neg one, if_neg one, if_neg two, if_neg two,
      Nat.mod_mod_of_dvd k (by decide : 10 ∣ 100)]
    rfl

/-- The exponent that is appended. -/
def appended (e : Int) : Exponent := ⟨'e'.toUInt8, [signOf e], exponentDigits e.natAbs⟩

theorem appended_text (e : Int) : (appended e).text = 'e'.toUInt8 :: appendExponent e := by
  rw [appendExponent_eq]
  rfl

theorem appended_valid {e : Int} (few : e.natAbs < 1000) : (appended e).Valid where
  mark := rfl
  sign := by
    by_cases negative : e < 0
    · exact .inr (.inr (congrArg (fun sign => [sign]) (if_pos negative)))
    · exact .inr (.inl (congrArg (fun sign => [sign]) (if_neg negative)))
  nonempty := exponentDigits_ne_nil _
  small := exponentDigits_small few

theorem appended_number (e : Int) : (appended e).number = e := by
  unfold Exponent.number appended signOf
  dsimp only
  rw [numberOf_exponentDigits]
  by_cases negative : e < 0
  · rw [if_pos negative, if_pos rfl]
    omega
  · rw [if_neg negative, if_neg (by decide)]
    omega

/-! ### Layouts -/

/-- A number without a sign that has some value: the text of a float is one. -/
structure Lays (bytes : List UInt8) (value : ℚ) (numeral : Numeral) : Prop where
  valid : numeral.Valid
  positive : numeral.negative = false
  float : numeral.isFloat = true
  text : numeral.text = bytes
  magnitude : magnitudeOf numeral.text = value

section Layouts

variable {digits : List Nat} {first : Nat} {others : List Nat} {e : Int}

theorem text_fraction {whole fraction : List Nat} (nonempty : fraction ≠ [])
    (exponent : Option Exponent) :
    Numeral.text ⟨false, whole, fraction, exponent⟩ = whole.map digitByte ++
      (point :: fraction.map digitByte ++ exponent.elim [] Exponent.text) := by
  unfold Numeral.text Numeral.signText Numeral.fractionText Numeral.exponentText
  dsimp only
  rw [if_neg Bool.false_ne_true, if_neg nonempty]
  rfl

theorem isFloat_fraction {negative : Bool} {whole fraction : List Nat} (nonempty : fraction ≠ [])
    (exponent : Option Exponent) :
    Numeral.isFloat ⟨negative, whole, fraction, exponent⟩ = true := by
  unfold Numeral.isFloat
  cases fraction with
  | nil => exact absurd rfl nonempty
  | cons first rest => rfl

/-- The layouts that have a fraction and no exponent. -/
theorem lays_fraction {whole fraction : List Nat}
    (begins : whole = [0] ∨ ∃ first rest, whole = first :: rest ∧ first ≠ 0)
    (small : ∀ digit ∈ whole, digit < 10) (smallFraction : ∀ digit ∈ fraction, digit < 10)
    (nonempty : fraction ≠ []) :
    Lays (whole.map digitByte ++ point :: fraction.map digitByte)
      (numberOf (whole ++ fraction) * 10 ^ (-(fraction.length : Int)))
      ⟨false, whole, fraction, none⟩ := by
  have valid : Numeral.Valid ⟨false, whole, fraction, none⟩ :=
    ⟨begins, small, smallFraction, by rintro _ ⟨⟩⟩
  refine ⟨valid, rfl, isFloat_fraction nonempty none, ?_, ?_⟩
  · rw [text_fraction nonempty, Option.elim_none, List.append_nil]
  · rw [Numeral.magnitudeOf_text valid rfl]
    show _ * 10 ^ (0 - (fraction.length : Int)) = _
    rw [Int.zero_sub]

/-- The layouts that have an exponent. -/
theorem lays_exponent {whole fraction : List Nat} {n : Int}
    (begins : whole = [0] ∨ ∃ first rest, whole = first :: rest ∧ first ≠ 0)
    (small : ∀ digit ∈ whole, digit < 10) (smallFraction : ∀ digit ∈ fraction, digit < 10)
    (few : n.natAbs < 1000) :
    Lays (whole.map digitByte ++ ((if fraction = [] then [] else point :: fraction.map digitByte) ++
        'e'.toUInt8 :: appendExponent n))
      (numberOf (whole ++ fraction) * 10 ^ (n - (fraction.length : Int)))
      ⟨false, whole, fraction, some (appended n)⟩ := by
  have valid : Numeral.Valid ⟨false, whole, fraction, some (appended n)⟩ :=
    ⟨begins, small, smallFraction, fun exponent same => by
      cases same
      exact appended_valid few⟩
  refine ⟨valid, rfl, Bool.or_true _, ?_, ?_⟩
  · rw [← appended_text]
    rfl
  · rw [Numeral.magnitudeOf_text valid rfl]
    show _ * 10 ^ ((appended n).number - (fraction.length : Int)) = _
    rw [appended_number]

theorem map_replicate_zero (count : Nat) :
    (List.replicate count 0).map digitByte = List.replicate count (digitByte 0) :=
  List.map_replicate

theorem numberOf_zeros (digits : List Nat) (count : Nat) :
    numberOf (digits ++ List.replicate count 0) = numberOf digits * 10 ^ count := by
  rw [numberOf_append, numberOf_replicate_zero, List.length_replicate, Nat.add_zero]

theorem small_zeros (count : Nat) : ∀ digit ∈ List.replicate count 0, digit < 10 := by
  intro digit member
  rw [List.eq_of_mem_replicate member]
  decide

/-- Ten to the power of an exponent that is not negative. -/
theorem ten_pow {e : Int} (positive : 0 ≤ e) : (10 : ℚ) ^ e = (10 ^ e.toNat : Nat) := by
  obtain ⟨power, rfl⟩ := Int.eq_ofNat_of_zero_le positive
  rw [Int.toNat_natCast, zpow_natCast, Nat.cast_pow]
  rfl

theorem Lays.congr {bytes other : List UInt8} {value same : ℚ} {numeral : Numeral}
    (lays : Lays bytes value numeral) (text : other = bytes) (worth : same = value) :
    Lays other same numeral := by
  rw [text, worth]
  exact lays

/-- Zeros up to the decimal point. -/
theorem lays_zeros (begins : digits = first :: others) (leading : first ≠ 0)
    (small : ∀ digit ∈ digits, digit < 10) (positive : 0 ≤ e) :
    Lays (digits.map digitByte ++ List.replicate e.toNat (digitByte 0) ++ [point, digitByte 0])
      (numberOf digits * 10 ^ e) ⟨false, digits ++ List.replicate e.toNat 0, [0], none⟩ := by
  refine (lays_fraction (.inr ⟨first, _, by rw [begins]; rfl, leading⟩)
    (fun digit member => (List.mem_append.mp member).elim (small digit) (small_zeros _ digit))
    (by decide) (List.cons_ne_nil _ _)).congr ?_ ?_
  · rw [List.map_append, map_replicate_zero]
    rfl
  · have zero : numberOf [0] = 0 := rfl
    have worth : numberOf (digits ++ List.replicate e.toNat 0 ++ [0]) =
        numberOf digits * 10 ^ e.toNat * 10 := by
      rw [numberOf_append, numberOf_zeros, zero]
      rfl
    rw [worth, ten_pow positive, Nat.cast_mul, Nat.cast_mul, List.length_singleton]
    norm_num
    ring

/-- The decimal point within the digits. -/
theorem lays_inside {count : Nat} (begins : digits = first :: others) (leading : first ≠ 0)
    (small : ∀ digit ∈ digits, digit < 10) (positive : 0 < count) (few : count < digits.length)
    (shift : (count : Int) = digits.length + e) :
    Lays ((digits.map digitByte).take count ++ point :: (digits.map digitByte).drop count)
      (numberOf digits * 10 ^ e) ⟨false, digits.take count, digits.drop count, none⟩ := by
  have front : digits.take count = first :: others.take (count - 1) := by
    rw [begins, ← Nat.succ_pred_eq_of_pos positive]
    rfl
  have back : digits.drop count ≠ [] := by
    rw [Ne, List.drop_eq_nil_iff]
    omega
  refine (lays_fraction (.inr ⟨first, _, front, leading⟩)
    (fun digit member => small digit (List.mem_of_mem_take member))
    (fun digit member => small digit (List.mem_of_mem_drop member)) back).congr ?_ ?_
  · rw [List.map_take, List.map_drop]
  · rw [List.take_append_drop, List.length_drop]
    congr 2
    omega

/-- Zeros behind the decimal point. -/
theorem lays_below (begins : digits = first :: others)
    (small : ∀ digit ∈ digits, digit < 10) {count : Nat}
    (shift : -(count : Int) = digits.length + e) :
    Lays (digitByte 0 :: point :: (List.replicate count (digitByte 0) ++ digits.map digitByte))
      (numberOf digits * 10 ^ e) ⟨false, [0], List.replicate count 0 ++ digits, none⟩ := by
  have nonempty : List.replicate count 0 ++ digits ≠ [] := by
    rw [begins]
    exact List.append_ne_nil_of_right_ne_nil _ (List.cons_ne_nil _ _)
  refine (lays_fraction (.inl rfl) (by decide)
    (fun digit member => (List.mem_append.mp member).elim (small_zeros _ digit) (small digit))
    nonempty).congr ?_ ?_
  · rw [List.map_append, map_replicate_zero]
    rfl
  · have worth : numberOf ([0] ++ (List.replicate count 0 ++ digits)) = numberOf digits := by
      have zeros : [0] ++ List.replicate count 0 = List.replicate (count + 1) 0 := rfl
      rw [← List.append_assoc, numberOf_append, zeros, numberOf_replicate_zero, Nat.zero_mul,
        Nat.zero_add]
    rw [worth, List.length_append, List.length_replicate, Nat.cast_add]
    congr 2
    omega

/-- One digit, the others behind the decimal point, and an exponent. -/
theorem lays_scientific (begins : digits = first :: others) (leading : first ≠ 0)
    (small : ∀ digit ∈ digits, digit < 10)
    (few : ((digits.length : Int) + e - 1).natAbs < 1000) :
    Lays ((if ((digits.length : Nat) : Int) = 1 then digits.map digitByte
        else (digits.map digitByte).take 1 ++ point :: (digits.map digitByte).drop 1) ++
        'e'.toUInt8 :: appendExponent (digits.length + e - 1))
      (numberOf digits * 10 ^ e)
      ⟨false, [first], others, some (appended (digits.length + e - 1))⟩ := by
  rw [begins] at small
  refine (lays_exponent (.inr ⟨first, [], rfl, leading⟩)
    (fun digit member => small digit (by
      rw [List.mem_singleton.mp member]; exact List.mem_cons_self))
    (fun digit member => small digit (List.mem_cons_of_mem _ member)) few).congr ?_ ?_
  · rw [begins]
    cases others with
    | nil => rfl
    | cons second others =>
      rw [if_neg (by simp only [List.length_cons]; omega)]
      rfl
  · rw [begins]
    show (_ : ℚ) = numberOf (first :: others) * _
    congr 2
    rw [List.length_cons]
    omega

/-- Each layout is a number that has the value of the digits. -/
theorem lays_formatBuffer (minExp maxExp : Int) (begins : digits = first :: others)
    (leading : first ≠ 0) (small : ∀ digit ∈ digits, digit < 10)
    (few : ((digits.length : Int) + e - 1).natAbs < 1000) :
    ∃ numeral, Lays (formatBuffer (digits.map digitByte) e minExp maxExp)
      (numberOf digits * 10 ^ e) numeral := by
  unfold formatBuffer
  dsimp only
  rw [List.length_map]
  split
  · rw [add_sub_cancel_left]
    exact ⟨_, lays_zeros begins leading small (by omega)⟩
  split
  · exact ⟨_, lays_inside begins leading small (by omega) (by omega) (by omega)⟩
  split
  · exact ⟨_, lays_below begins small (by omega)⟩
  · exact ⟨_, lays_scientific begins leading small few⟩

end Layouts

/-! ### What is written for a finite number -/

theorem lays_zero : Lays [digitByte 0, point, digitByte 0] 0 ⟨false, [0], [0], none⟩ := by
  refine (lays_fraction (.inl rfl) (by decide) (by decide) (List.cons_ne_nil _ _)).congr rfl ?_
  have zero : numberOf ([0] ++ [0]) = 0 := rfl
  rw [zero, Nat.cast_zero, zero_mul]

variable {F : NumberFormat} (floats : FloatText F.Double)

theorem Lays.begins {bytes : List UInt8} {value : ℚ} {numeral : Numeral}
    (lays : Lays bytes value numeral) : ∃ byte rest, bytes = byte :: rest ∧ byte ≠ minus := by
  have text := lays.text
  unfold Numeral.text Numeral.signText at text
  rw [lays.positive, if_neg Bool.false_ne_true, List.nil_append] at text
  obtain zero | ⟨first, rest, split, _⟩ := lays.valid.whole
  · rw [zero] at text
    exact ⟨_, _, text.symm, by decide⟩
  · have small := lays.valid.small first (split ▸ List.mem_cons_self)
    rw [split] at text
    exact ⟨_, _, text.symm, digitByte_ne_minus small⟩

theorem Lays.strtod {bytes : List UInt8} {value : ℚ} {numeral : Numeral}
    (lays : Lays bytes value numeral) : floats.strtod bytes = floats.nearest value := by
  obtain ⟨byte, rest, split, unsigned⟩ := lays.begins
  have magnitude := lays.magnitude
  rw [lays.text, split] at magnitude
  rw [split, FloatText.strtod, if_neg unsigned, magnitude]

theorem Lays.strtod_minus {bytes : List UInt8} {value : ℚ} {numeral : Numeral}
    (lays : Lays bytes value numeral) :
    floats.strtod (minus :: bytes) = floats.negate (floats.nearest value) := by
  have magnitude := lays.magnitude
  rw [lays.text] at magnitude
  rw [FloatText.strtod, if_pos rfl, magnitude]

/-- A number with a minus sign. -/
theorem Lays.minus {bytes : List UInt8} {value : ℚ} {numeral : Numeral}
    (lays : Lays bytes value numeral) :
    Numeral.Valid { numeral with negative := true } ∧
      Numeral.isFloat { numeral with negative := true } = true ∧
      Numeral.text { numeral with negative := true } = IntegerText.minus :: bytes := by
  obtain ⟨valid, positive, float, text, _⟩ := lays
  refine ⟨⟨valid.whole, valid.small, valid.smallFraction, valid.exponent⟩, float, ?_⟩
  rw [← text]
  unfold Numeral.text Numeral.signText
  rw [positive]
  rfl

/-- The layout of a number that is not negative. -/
theorem lays_magnitude {number : F.Double} (finite : floats.isFinite number = true)
    (positive : floats.signbit number = false) :
    ∃ value numeral, floats.nearest value = number ∧
      Lays (if floats.isZero number then [digitByte 0, point, digitByte 0]
        else formatBuffer ((floats.shortest number).1.map digitByte) (floats.shortest number).2
          kMinExp kMaxExp) value numeral := by
  cases zero : floats.isZero number with
  | true => exact ⟨0, _, floats.nearest_zero number zero positive, lays_zero⟩
  | false =>
    obtain ⟨first, others, begins, leading⟩ := floats.shortest_nonempty number finite zero positive
    obtain ⟨numeral, lays⟩ := lays_formatBuffer kMinExp kMaxExp begins leading
      (floats.shortest_digit number) (floats.shortest_exponent number finite zero positive)
    exact ⟨_, numeral, floats.nearest_shortest number finite zero positive, lays⟩

/-- A finite number is written as a number that is read back. -/
theorem toChars_numeral {number : F.Double} (finite : floats.isFinite number = true) :
    ∃ numeral : Numeral, numeral.Valid ∧ numeral.isFloat = true ∧
      numeral.text = toChars floats number ∧ floats.strtod numeral.text = number := by
  cases sign : floats.signbit number with
  | true =>
    have finite : floats.isFinite (floats.negate number) = true := by
      rw [floats.isFinite_negate, finite]
    have positive : floats.signbit (floats.negate number) = false := by
      rw [floats.signbit_negate, sign]
      rfl
    obtain ⟨value, numeral, nearest, lays⟩ := lays_magnitude floats finite positive
    obtain ⟨valid, float, text⟩ := lays.minus
    refine ⟨_, valid, float, text.trans ?_, ?_⟩
    · unfold toChars
      rw [sign]
      dsimp only
      rw [if_pos rfl, if_pos rfl]
      split <;> rfl
    · rw [text, lays.strtod_minus floats, nearest, floats.negate_negate]
  | false =>
    obtain ⟨value, numeral, nearest, lays⟩ := lays_magnitude floats finite sign
    refine ⟨numeral, lays.valid, lays.float, lays.text.trans ?_, ?_⟩
    · unfold toChars
      rw [sign]
      dsimp only
      rw [if_neg Bool.false_ne_true, if_neg Bool.false_ne_true]
      split <;> rfl
    · rw [lays.text, lays.strtod floats, nearest]

end Nlohmann.Serializer
