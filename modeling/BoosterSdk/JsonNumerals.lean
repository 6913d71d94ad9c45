/-
This file says which numbers the lexer of the JSON library reads and what they become.

Every byte that a state of `scan_number` gets is added to the buffer, but for the last,
which is taken back. What is in the buffer is therefore part of a number of the grammar
in every state and the whole of one at the end, and it is converted to the value of
that number. A number is read to its end when nothing follows that would prolong it.
-/

import BoosterSdk.JsonStrings

namespace Nlohmann.Lexer

open DecimalText
open IntegerText (minus plus)
open JsonGrammar (Exponent Numeral)

variable {F : NumberFormat} {total : Nat} {lexer : Lexer F} {rest : List UInt8}

/-! ### Digits -/

theorem isDigit_digitByte {digit : Nat} (small : digit < 10) :
    isDigit (digitByte digit) = true := by
  unfold isDigit
  rw [toNat_digitByte small]
  simp only [Bool.and_eq_true, decide_eq_true_eq]
  omega

theorem exists_digit {byte : UInt8} (digit : isDigit byte = true) :
    ∃ value < 10, byte = digitByte value := by
  unfold isDigit at digit
  simp only [Bool.and_eq_true, decide_eq_true_eq] at digit
  refine ⟨byte.toNat - 48, by omega, ?_⟩
  unfold digitByte
  rw [Nat.add_sub_cancel' digit.1]
  exact UInt8.ofNat_toNat.symm

/-- Nothing follows a number that would prolong it. -/
def Stops (rest : List UInt8) : Prop :=
  ∀ byte ∈ rest.head?, isDigit byte = false ∧ byte ≠ point ∧ isExponentMark byte = false

theorem isDigit_point : isDigit point = false := by decide

theorem isDigit_of_mark {byte : UInt8} (mark : isExponentMark byte = true) :
    isDigit byte = false ∧ byte ≠ point := by
  revert mark
  obtain ⟨⟨value⟩⟩ := byte
  revert value
  decide +kernel

theorem isDigit_of_sign {byte : UInt8} (sign : byte = plus ∨ byte = minus) :
    isDigit byte = false := by
  rcases sign with rfl | rfl <;> decide

/-! ### The end of a number -/

/-- The value that a token stands for, with the values in the lexer. -/
inductive Carries (lexer : Lexer F) : TokenType → Json F → Prop where
  | literalTrue : Carries lexer .literalTrue (.boolean true)
  | literalFalse : Carries lexer .literalFalse (.boolean false)
  | literalNull : Carries lexer .literalNull .null
  | valueString : Carries lexer .valueString (.string ⟨lexer.tokenBuffer⟩)
  | valueUnsigned : Carries lexer .valueUnsigned (.unsigned lexer.valueUnsigned)
  | valueInteger : Carries lexer .valueInteger (.integer lexer.valueInteger)
  | valueFloat : Carries lexer .valueFloat (.float lexer.valueFloat)

/-- The kind that a number is first taken for. -/
def kindOf (numeral : Numeral) : TokenType :=
  if numeral.isFloat then .valueFloat
  else if numeral.negative then .valueInteger else .valueUnsigned

theorem strtoull_digits {digits : List Nat} (nonempty : digits ≠ [])
    (small : ∀ digit ∈ digits, digit < 10) :
    strtoull (digits.map digitByte) =
      if numberOf digits < 2 ^ 64 then some (UInt64.ofNat (numberOf digits)) else none := by
  unfold strtoull
  rw [strtol_digits nonempty small]
  split
  · rename_i fits
    have within : 0 ≤ (numberOf digits : Int) ∧ (numberOf digits : Int) < 2 ^ 64 := by omega
    rw [Option.filter_some, if_pos (decide_eq_true within)]
    rfl
  · rename_i large
    have beyond : ¬ (0 ≤ (numberOf digits : Int) ∧ (numberOf digits : Int) < 2 ^ 64) := by omega
    rw [Option.filter_some, if_neg (mt of_decide_eq_true beyond)]
    rfl

theorem strtoll_minus {digits : List Nat} (nonempty : digits ≠ [])
    (small : ∀ digit ∈ digits, digit < 10) :
    strtoll (minus :: digits.map digitByte) =
      if numberOf digits ≤ 2 ^ 63 then some (Int64.ofInt (-(numberOf digits : Int))) else none := by
  unfold strtoll
  rw [strtol_minus nonempty small]
  split
  · rename_i fits
    have within : -2 ^ 63 ≤ -(numberOf digits : Int) ∧ -(numberOf digits : Int) < 2 ^ 63 := by omega
    rw [Option.filter_some, if_pos (decide_eq_true within)]
    rfl
  · rename_i large
    have beyond : ¬ (-2 ^ 63 ≤ -(numberOf digits : Int) ∧ -(numberOf digits : Int) < 2 ^ 63) := by
      omega
    rw [Option.filter_some, if_neg (mt of_decide_eq_true beyond)]
    rfl

/-- The text of a number that has the form of an integer. -/
theorem text_of_integer {numeral : Numeral} (integer : numeral.isFloat = false) :
    numeral.text = numeral.signText ++ numeral.whole.map digitByte := by
  obtain ⟨fraction, exponent⟩ := Bool.or_eq_false_iff.mp integer
  have unfractioned : numeral.fraction = [] := by simpa using fraction
  have unmarked : numeral.exponent = none := by simpa using exponent
  unfold Numeral.text Numeral.fractionText Numeral.exponentText
  rw [if_pos unfractioned, unmarked]
  exact congrArg (numeral.signText ++ ·) (List.append_nil _)

theorem whole_ne_nil {numeral : Numeral} (valid : numeral.Valid) : numeral.whole ≠ [] := by
  obtain zero | ⟨first, others, split, _⟩ := valid.whole
  · rw [zero]
    exact List.cons_ne_nil _ _
  · rw [split]
    exact List.cons_ne_nil _ _

variable {floats : FloatText F.Double}

/-- The number in the buffer is converted to its value. -/
theorem Got.scanNumberDone {byte : Option UInt8} {numeral : Numeral} (valid : numeral.Valid)
    (text : lexer.tokenBuffer = numeral.text) (got : Got total lexer byte rest) :
    ∃ type later, scanNumberDone floats (kindOf numeral) lexer = (type, later) ∧
      Carries later type (numeral.value floats) ∧ Reads total later (byte.toList ++ rest) := by
  have reads := got.unget
  have buffer : lexer.unget.tokenBuffer = numeral.text := text
  have float : Carries
      { lexer.unget with valueFloat := floats.strtod lexer.unget.tokenBuffer } .valueFloat
      (.float (floats.strtod numeral.text)) := by
    rw [← buffer]
    exact .valueFloat
  unfold Lexer.scanNumberDone kindOf Numeral.value
  dsimp only
  cases isFloat : numeral.isFloat with
  | true => exact ⟨_, _, rfl, float, reads.bytes, reads.ended, reads.position⟩
  | false =>
    have shape := buffer.trans (text_of_integer isFloat)
    have nonempty := whole_ne_nil valid
    unfold Numeral.signText at shape
    rw [if_neg Bool.false_ne_true, if_neg Bool.false_ne_true]
    cases negative : numeral.negative with
    | true =>
      rw [negative, if_pos rfl, List.singleton_append] at shape
      have converted := strtoll_minus nonempty valid.small
      rw [← shape] at converted
      rw [if_pos rfl, if_pos rfl, if_neg (by decide), if_pos rfl, converted]
      by_cases fits : numberOf numeral.whole ≤ 2 ^ 63
      · rw [if_pos fits, if_pos fits]
        exact ⟨_, _, rfl, .valueInteger, reads.bytes, reads.ended, reads.position⟩
      · rw [if_neg fits, if_neg fits]
        exact ⟨_, _, rfl, float, reads.bytes, reads.ended, reads.position⟩
    | false =>
      rw [negative, if_neg Bool.false_ne_true, List.nil_append] at shape
      have converted := strtoull_digits nonempty valid.small
      rw [← shape] at converted
      rw [if_neg Bool.false_ne_true, if_neg Bool.false_ne_true, if_pos rfl, converted]
      by_cases fits : numberOf numeral.whole < 2 ^ 64
      · rw [if_pos fits, if_pos fits]
        exact ⟨_, _, rfl, .valueUnsigned, reads.bytes, reads.ended, reads.position⟩
      · rw [if_neg fits, if_neg fits]
        exact ⟨_, _, rfl, float, reads.bytes, reads.ended, reads.position⟩

/-! ### Turns of the states -/

/-- The bytes that are left begin with the digits before the first byte that is not one. -/
theorem exists_digits (rest : List UInt8) : ∃ (digits : List Nat) (after : List UInt8),
    rest = digits.map digitByte ++ after ∧ (∀ digit ∈ digits, digit < 10) ∧
      ∀ byte ∈ after.head?, isDigit byte = false := by
  induction rest with
  | nil => exact ⟨[], [], rfl, by rintro _ ⟨⟩, by rintro _ ⟨⟩⟩
  | cons byte rest inductionHypothesis =>
    cases digit : isDigit byte with
    | false =>
      refine ⟨[], byte :: rest, rfl, by rintro _ ⟨⟩, ?_⟩
      rintro _ ⟨⟩
      exact digit
    | true =>
      obtain ⟨value, small, rfl⟩ := exists_digit digit
      obtain ⟨digits, after, rfl, others, ends⟩ := inductionHypothesis
      refine ⟨value :: digits, after, rfl, fun other member => ?_, ends⟩
      obtain rfl | member := List.mem_cons.mp member
      · exact small
      · exact others other member

/-- A state adds the digits that it gets and stays the same. -/
theorem Reads.digits {state : Lexer F → TokenType × Lexer F}
    (turn : ∀ {lexer : Lexer F} {byte : UInt8}, lexer.get.current = some byte →
      isDigit byte = true → state lexer = state (lexer.get.add byte))
    {digits : List Nat} (small : ∀ digit ∈ digits, digit < 10)
    (reads : Reads total lexer (digits.map digitByte ++ rest)) :
    ∃ later, state lexer = state later ∧ Reads total later rest ∧
      later.tokenBuffer = lexer.tokenBuffer ++ digits.map digitByte := by
  induction digits generalizing lexer with
  | nil => exact ⟨lexer, rfl, reads, (List.append_nil _).symm⟩
  | cons digit digits inductionHypothesis =>
    obtain ⟨got, reads⟩ := reads.byte
    obtain ⟨later, same, reads, buffer⟩ := inductionHypothesis
      (fun other member => small other (List.mem_cons_of_mem _ member)) (reads.add _)
    refine ⟨later, ?_, reads, ?_⟩
    · rw [turn got (isDigit_digitByte (small digit List.mem_cons_self)), same]
    · rw [buffer, add_tokenBuffer, get_tokenBuffer, List.append_assoc]
      rfl

section Turns

variable {kind : TokenType} {byte : UInt8}

theorem scanNumberAny2_digit (got : lexer.get.current = some byte) (digit : isDigit byte = true) :
    scanNumberAny2 floats kind lexer = scanNumberAny2 floats kind (lexer.get.add byte) := by
  rw [scanNumberAny2, got]
  dsimp only
  rw [if_pos digit]

theorem scanNumberAny2_end (ends : ∀ byte ∈ lexer.get.current, isDigit byte = false) :
    scanNumberAny2 floats kind lexer = scanNumberDone floats kind lexer.get := by
  rw [scanNumberAny2]
  split
  · rename_i byte got
    rw [if_neg (by rw [ends byte got]; exact Bool.false_ne_true)]
  · rfl

theorem scanNumberDecimal2_digit (got : lexer.get.current = some byte)
    (digit : isDigit byte = true) :
    scanNumberDecimal2 floats kind lexer = scanNumberDecimal2 floats kind (lexer.get.add byte) := by
  rw [scanNumberDecimal2, got]
  dsimp only
  rw [if_pos digit]

theorem scanNumberDecimal2_mark (got : lexer.get.current = some byte)
    (mark : isExponentMark byte = true) :
    scanNumberDecimal2 floats kind lexer = scanNumberExponent floats (lexer.get.add byte) := by
  rw [scanNumberDecimal2, got]
  dsimp only
  rw [if_neg (by rw [(isDigit_of_mark mark).1]; exact Bool.false_ne_true), if_pos mark]

theorem scanNumberDecimal2_end
    (ends : ∀ byte ∈ lexer.get.current, isDigit byte = false ∧ isExponentMark byte = false) :
    scanNumberDecimal2 floats kind lexer = scanNumberDone floats kind lexer.get := by
  rw [scanNumberDecimal2]
  split
  · rename_i byte got
    rw [if_neg (by rw [(ends byte got).1]; exact Bool.false_ne_true),
      if_neg (by rw [(ends byte got).2]; exact Bool.false_ne_true)]
  · rfl

theorem scanNumberAny1_digit (got : lexer.get.current = some byte) (digit : isDigit byte = true) :
    scanNumberAny1 floats kind lexer = scanNumberAny1 floats kind (lexer.get.add byte) := by
  rw [scanNumberAny1, got]
  dsimp only
  rw [if_pos digit]

/-- After the digits before it, a number goes on as it does after a zero. -/
theorem scanNumberAny1_rest (ends : ∀ byte ∈ lexer.get.current, isDigit byte = false) :
    scanNumberAny1 floats kind lexer = scanNumberZero floats kind lexer := by
  rw [scanNumberAny1, scanNumberZero]
  split
  · rename_i byte got
    rw [if_neg (by rw [ends byte got]; exact Bool.false_ne_true), got]
  · rename_i atEnd
    rw [atEnd]

theorem scanNumberZero_point (got : lexer.get.current = some point) :
    scanNumberZero floats kind lexer = scanNumberDecimal1 floats (lexer.get.add point) := by
  rw [scanNumberZero, got]
  rfl

theorem scanNumberZero_mark (got : lexer.get.current = some byte)
    (mark : isExponentMark byte = true) :
    scanNumberZero floats kind lexer = scanNumberExponent floats (lexer.get.add byte) := by
  rw [scanNumberZero, got]
  dsimp only
  rw [if_neg (isDigit_of_mark mark).2, if_pos mark]

theorem scanNumberZero_end
    (ends : ∀ byte ∈ lexer.get.current, byte ≠ point ∧ isExponentMark byte = false) :
    scanNumberZero floats kind lexer = scanNumberDone floats kind lexer.get := by
  rw [scanNumberZero]
  split
  · rename_i byte got
    rw [if_neg (ends byte got).1, if_neg (by rw [(ends byte got).2]; exact Bool.false_ne_true)]
  · rfl

theorem scanNumberDecimal1_digit (got : lexer.get.current = some byte)
    (digit : isDigit byte = true) :
    scanNumberDecimal1 floats lexer =
      scanNumberDecimal2 floats .valueFloat (lexer.get.add byte) := by
  rw [scanNumberDecimal1, got]
  dsimp only
  rw [if_pos digit]

theorem scanNumberSign_digit (got : lexer.get.current = some byte) (digit : isDigit byte = true) :
    scanNumberSign floats kind lexer = scanNumberAny2 floats kind (lexer.get.add byte) := by
  rw [scanNumberSign, got]
  dsimp only
  rw [if_pos digit]

theorem scanNumberExponent_sign (got : lexer.get.current = some byte)
    (sign : byte = plus ∨ byte = minus) :
    scanNumberExponent floats lexer =
      scanNumberSign floats .valueFloat (lexer.get.add byte) := by
  rw [scanNumberExponent, got]
  dsimp only
  rw [if_pos sign]

theorem scanNumberExponent_digit (got : lexer.get.current = some byte)
    (digit : isDigit byte = true) :
    scanNumberExponent floats lexer =
      scanNumberAny2 floats .valueFloat (lexer.get.add byte) := by
  have unsigned : ¬ (byte = plus ∨ byte = minus) := fun sign => by
    rw [isDigit_of_sign sign] at digit
    cases digit
  rw [scanNumberExponent, got]
  dsimp only
  rw [if_neg unsigned, if_pos digit]

end Turns

/-! ### Parts of numbers -/

theorem text_whole (negative : Bool) (whole : List Nat) :
    Numeral.text ⟨negative, whole, [], none⟩ =
      (if negative then [minus] else []) ++ whole.map digitByte := by
  show _ ++ (_ ++ ([] ++ [])) = _
  rw [List.append_nil, List.append_nil]
  rfl

theorem text_fraction {fraction : List Nat} (nonempty : fraction ≠ []) (negative : Bool)
    (whole : List Nat) :
    Numeral.text ⟨negative, whole, fraction, none⟩ =
      Numeral.text ⟨negative, whole, [], none⟩ ++ point :: fraction.map digitByte := by
  rw [text_whole, List.append_assoc]
  unfold Numeral.text Numeral.fractionText
  rw [if_neg nonempty]
  show _ ++ (_ ++ (_ ++ [])) = _
  rw [List.append_nil]
  rfl

theorem text_exponent (negative : Bool) (whole fraction : List Nat) (exponent : Exponent) :
    Numeral.text ⟨negative, whole, fraction, some exponent⟩ =
      Numeral.text ⟨negative, whole, fraction, none⟩ ++ exponent.text := by
  show _ ++ (_ ++ (_ ++ _)) = _ ++ (_ ++ (_ ++ [])) ++ _
  simp only [List.append_assoc, List.nil_append]
  rfl

/-! ### Numbers that are read -/

/-- A number has been got up to its end: what the buffer holds and the bytes that are left. -/
def Reaches (total : Nat) (floats : FloatText F.Double) (outcome : TokenType × Lexer F)
    (kind : TokenType) (text after : List UInt8) : Prop :=
  ∃ later, outcome = scanNumberDone floats kind later.get ∧ Reads total later after ∧
    later.tokenBuffer = text

theorem get_current_of_head {P : UInt8 → Prop} (reads : Reads total lexer rest)
    (holds : ∀ byte ∈ rest.head?, P byte) : ∀ byte ∈ lexer.get.current, P byte := by
  rw [reads.get.current]
  exact holds

theorem reaches_any2 {kind : TokenType} {digits : List Nat} (small : ∀ digit ∈ digits, digit < 10)
    (ends : ∀ byte ∈ rest.head?, isDigit byte = false)
    (reads : Reads total lexer (digits.map digitByte ++ rest)) :
    Reaches total floats (scanNumberAny2 floats kind lexer) kind
      (lexer.tokenBuffer ++ digits.map digitByte) rest := by
  obtain ⟨later, same, reads, buffer⟩ := reads.digits scanNumberAny2_digit small
  exact ⟨later, same.trans (scanNumberAny2_end (get_current_of_head reads ends)), reads, buffer⟩

/-- The digits of an exponent, of which there is one at least. -/
theorem reaches_exponentDigits {state : Lexer F → TokenType × Lexer F}
    (turn : ∀ {lexer : Lexer F} {byte : UInt8}, lexer.get.current = some byte →
      isDigit byte = true → state lexer = scanNumberAny2 floats .valueFloat (lexer.get.add byte))
    {digits : List Nat} (nonempty : digits ≠ []) (small : ∀ digit ∈ digits, digit < 10)
    (ends : ∀ byte ∈ rest.head?, isDigit byte = false)
    (reads : Reads total lexer (digits.map digitByte ++ rest)) :
    Reaches total floats (state lexer) .valueFloat
      (lexer.tokenBuffer ++ digits.map digitByte) rest := by
  cases digits with
  | nil => exact absurd rfl nonempty
  | cons digit digits =>
    obtain ⟨got, reads⟩ := reads.byte
    have reaches : Reaches total floats
        (scanNumberAny2 floats .valueFloat (lexer.get.add (digitByte digit))) .valueFloat _ rest :=
      reaches_any2 (fun other member => small other (List.mem_cons_of_mem _ member)) ends
        (reads.add _)
    rw [add_tokenBuffer, get_tokenBuffer, List.append_assoc] at reaches
    rw [turn got (isDigit_digitByte (small digit List.mem_cons_self))]
    exact reaches

theorem reaches_exponent {exponent : Exponent} (valid : exponent.Valid)
    (ends : ∀ byte ∈ rest.head?, isDigit byte = false)
    (reads : Reads total lexer (exponent.sign ++ (exponent.digits.map digitByte ++ rest))) :
    Reaches total floats (scanNumberExponent floats lexer) .valueFloat
      (lexer.tokenBuffer ++ (exponent.sign ++ exponent.digits.map digitByte)) rest := by
  have signed {sign : UInt8} (known : sign = plus ∨ sign = minus)
      (reads : Reads total lexer ([sign] ++ (exponent.digits.map digitByte ++ rest))) :
      Reaches total floats (scanNumberExponent floats lexer) .valueFloat
        (lexer.tokenBuffer ++ ([sign] ++ exponent.digits.map digitByte)) rest := by
    obtain ⟨got, reads⟩ := reads.byte
    have reaches : Reaches total floats
        (scanNumberSign floats .valueFloat (lexer.get.add sign)) .valueFloat _ rest :=
      reaches_exponentDigits scanNumberSign_digit valid.nonempty valid.small ends (reads.add sign)
    rw [add_tokenBuffer, get_tokenBuffer, List.append_assoc] at reaches
    rw [scanNumberExponent_sign got known]
    exact reaches
  obtain unsigned | positive | negative := valid.sign
  · rw [unsigned] at reads ⊢
    exact reaches_exponentDigits scanNumberExponent_digit valid.nonempty valid.small ends reads
  · rw [positive] at reads ⊢
    exact signed (.inl rfl) reads
  · rw [negative] at reads ⊢
    exact signed (.inr rfl) reads

/-- The bytes that may follow a number end its digits. -/
theorem Stops.digits (stops : Stops rest) : ∀ byte ∈ rest.head?, isDigit byte = false :=
  fun byte member => (stops byte member).1

/-- The digits of a fraction that has begun, and the exponent. -/
theorem reaches_decimal2 {fraction : List Nat} {exponent : Option Exponent}
    (small : ∀ digit ∈ fraction, digit < 10) (valid : ∀ known ∈ exponent, known.Valid)
    (stops : Stops rest)
    (reads : Reads total lexer
      (fraction.map digitByte ++ (exponent.elim [] Exponent.text ++ rest))) :
    Reaches total floats (scanNumberDecimal2 floats .valueFloat lexer) .valueFloat
      (lexer.tokenBuffer ++ (fraction.map digitByte ++ exponent.elim [] Exponent.text)) rest := by
  obtain ⟨later, same, reads, buffer⟩ := reads.digits scanNumberDecimal2_digit small
  rw [same, ← List.append_assoc, ← buffer]
  cases exponent with
  | none =>
    refine ⟨later, scanNumberDecimal2_end ?_, reads, (List.append_nil _).symm⟩
    exact get_current_of_head reads fun byte member =>
      ⟨(stops byte member).1, (stops byte member).2.2⟩
  | some exponent =>
    have known := valid exponent rfl
    obtain ⟨got, ahead⟩ : later.get.current = some exponent.mark ∧ Reads total later.get
      (exponent.sign ++ exponent.digits.map digitByte ++ rest) := reads.byte
    rw [List.append_assoc] at ahead
    have reaches : Reaches total floats
        (scanNumberExponent floats (later.get.add exponent.mark)) .valueFloat _ rest :=
      reaches_exponent known stops.digits (ahead.add exponent.mark)
    rw [add_tokenBuffer, get_tokenBuffer, List.append_assoc] at reaches
    rw [scanNumberDecimal2_mark got known.mark]
    exact reaches

/-- What follows the whole part of a number. -/
theorem reaches_zero {numeral : Numeral} (valid : numeral.Valid) (stops : Stops rest)
    {kind : TokenType}
    (reads : Reads total lexer (numeral.fractionText ++ (numeral.exponentText ++ rest))) :
    Reaches total floats (scanNumberZero floats kind lexer)
      (if numeral.isFloat then .valueFloat else kind)
      (lexer.tokenBuffer ++ (numeral.fractionText ++ numeral.exponentText)) rest := by
  obtain ⟨negative, whole, fraction, exponent⟩ := numeral
  cases fraction with
  | nil =>
    cases exponent with
    | none =>
      refine ⟨lexer, scanNumberZero_end ?_, reads, (List.append_nil _).symm⟩
      exact get_current_of_head reads fun byte member => (stops byte member).2
    | some exponent =>
      have known := valid.exponent exponent rfl
      obtain ⟨got, ahead⟩ : lexer.get.current = some exponent.mark ∧ Reads total lexer.get
        (exponent.sign ++ exponent.digits.map digitByte ++ rest) := reads.byte
      rw [List.append_assoc] at ahead
      have reaches : Reaches total floats
          (scanNumberExponent floats (lexer.get.add exponent.mark)) .valueFloat _ rest :=
        reaches_exponent known stops.digits (ahead.add exponent.mark)
      rw [add_tokenBuffer, get_tokenBuffer, List.append_assoc] at reaches
      rw [scanNumberZero_mark got known.mark]
      exact reaches
  | cons digit fraction =>
    have small := valid.smallFraction
    obtain ⟨gotPoint, ahead⟩ := reads.byte
    obtain ⟨gotDigit, beyond⟩ := (ahead.add point).byte
    have reaches : Reaches total floats (scanNumberDecimal2 floats .valueFloat
        ((lexer.get.add point).get.add (digitByte digit))) .valueFloat _ rest :=
      reaches_decimal2 (fun other member => small other (List.mem_cons_of_mem _ member))
        valid.exponent stops (beyond.add (digitByte digit))
    rw [add_tokenBuffer, get_tokenBuffer, add_tokenBuffer, get_tokenBuffer, List.append_assoc,
      List.append_assoc] at reaches
    rw [scanNumberZero_point gotPoint, scanNumberDecimal1_digit gotDigit
      (isDigit_digitByte (small digit List.mem_cons_self))]
    exact reaches

/-- No digit follows the whole part of a number. -/
theorem ends_whole {numeral : Numeral} (valid : numeral.Valid) (stops : Stops rest) :
    ∀ byte ∈ (numeral.fractionText ++ (numeral.exponentText ++ rest)).head?,
      isDigit byte = false := by
  obtain ⟨negative, whole, fraction, exponent⟩ := numeral
  cases fraction with
  | nil =>
    cases exponent with
    | none => exact stops.digits
    | some exponent =>
      rintro _ ⟨⟩
      exact (isDigit_of_mark (valid.exponent exponent rfl).mark).1
  | cons digit fraction =>
    rintro _ ⟨⟩
    exact isDigit_point

theorem digitByte_ne_zero {digit : Nat} (small : digit < 10) (nonzero : digit ≠ 0) :
    digitByte digit ≠ '0'.toUInt8 := by
  intro same
  have value := congrArg UInt8.toNat same
  rw [toNat_digitByte small] at value
  exact nonzero (Nat.add_left_cancel value)

/-- What the first digit of a number leads to, be it after a sign or not. -/
theorem reaches_whole {numeral : Numeral} (valid : numeral.Valid) (stops : Stops rest)
    {kind : TokenType} {state : Lexer F → TokenType × Lexer F} {buffer : List UInt8}
    (zero : numeral.whole = [0] → ∃ later, state lexer = scanNumberZero floats kind later ∧
      Reads total later (numeral.fractionText ++ (numeral.exponentText ++ rest)) ∧
      later.tokenBuffer = buffer ++ [digitByte 0])
    (any : ∀ first others, numeral.whole = first :: others → first ≠ 0 →
      ∃ later, state lexer = scanNumberAny1 floats kind later ∧
        Reads total later (others.map digitByte ++
          (numeral.fractionText ++ (numeral.exponentText ++ rest))) ∧
        later.tokenBuffer = buffer ++ [digitByte first]) :
    Reaches total floats (state lexer) (if numeral.isFloat then .valueFloat else kind)
      (buffer ++ (numeral.whole.map digitByte ++
        (numeral.fractionText ++ numeral.exponentText))) rest := by
  obtain whole | ⟨first, others, whole, nonzero⟩ := valid.whole
  · obtain ⟨later, same, reads, added⟩ := zero whole
    have reaches : Reaches total floats (scanNumberZero floats kind later) _ _ rest :=
      reaches_zero valid stops reads
    rw [added, List.append_assoc] at reaches
    rw [same, whole]
    exact reaches
  · obtain ⟨middle, same, reads, added⟩ := any first others whole nonzero
    have small : ∀ digit ∈ others, digit < 10 := fun digit member =>
      valid.small digit (whole ▸ List.mem_cons_of_mem _ member)
    obtain ⟨later, again, reads, more⟩ := reads.digits scanNumberAny1_digit small
    have reaches : Reaches total floats (scanNumberZero floats kind later) _ _ rest :=
      reaches_zero valid stops reads
    rw [more, added, List.append_assoc, List.append_assoc] at reaches
    rw [same, again, scanNumberAny1_rest (get_current_of_head reads (ends_whole valid stops)),
      whole]
    exact reaches

theorem Got.reset {byte : UInt8} (got : Got total lexer (some byte) rest) (first : UInt8) :
    Reads total (lexer.reset.add first) rest :=
  ⟨got.reads.bytes, got.reads.ended, got.reads.position⟩

theorem scanNumber_minus : scanNumber floats minus lexer =
    scanNumberMinus floats (lexer.reset.add minus) := if_pos rfl

theorem scanNumberMinus_zero (got : lexer.get.current = some (digitByte 0)) :
    scanNumberMinus floats lexer =
      scanNumberZero floats .valueInteger (lexer.get.add (digitByte 0)) := by
  rw [scanNumberMinus, got]
  rfl

theorem scanNumberMinus_digit {first : Nat} (small : first < 10) (nonzero : first ≠ 0)
    (got : lexer.get.current = some (digitByte first)) :
    scanNumberMinus floats lexer =
      scanNumberAny1 floats .valueInteger (lexer.get.add (digitByte first)) := by
  rw [scanNumberMinus, got]
  dsimp only
  rw [if_neg (digitByte_ne_zero small nonzero), if_pos (isDigit_digitByte small)]

theorem scanNumber_digit {first : Nat} (small : first < 10) (nonzero : first ≠ 0) :
    scanNumber floats (digitByte first) lexer =
      scanNumberAny1 floats .valueUnsigned (lexer.reset.add (digitByte first)) := by
  rw [scanNumber, if_neg (digitByte_ne_minus small), if_neg (digitByte_ne_zero small nonzero)]

/-- A number reaches its end. -/
theorem reaches_scanNumber {numeral : Numeral} (valid : numeral.Valid) (stops : Stops rest)
    {byte : UInt8} {bytes : List UInt8} (text : numeral.text = byte :: bytes)
    (got : Got total lexer (some byte) (bytes ++ rest)) :
    Reaches total floats (scanNumber floats byte lexer) (kindOf numeral) numeral.text rest := by
  have first : ∀ first others, numeral.whole = first :: others → first < 10 :=
    fun first others whole => valid.small first (whole ▸ List.mem_cons_self)
  cases negative : numeral.negative with
  | true =>
    have shape : numeral.text = minus :: (numeral.whole.map digitByte ++
        (numeral.fractionText ++ numeral.exponentText)) := by
      unfold Numeral.text Numeral.signText
      rw [if_pos negative]
      rfl
    rw [shape] at text
    cases text
    have reads := got.reset minus
    rw [List.append_assoc, List.append_assoc] at reads
    have reaches : Reaches total floats (scanNumberMinus floats (lexer.reset.add minus))
        (if numeral.isFloat then .valueFloat else .valueInteger)
        ([minus] ++ (numeral.whole.map digitByte ++
          (numeral.fractionText ++ numeral.exponentText))) rest := by
      refine reaches_whole valid stops ?_ ?_
      · intro whole
        rw [whole] at reads
        obtain ⟨gotDigit, ahead⟩ := reads.byte
        exact ⟨_, scanNumberMinus_zero gotDigit, ahead.add _, rfl⟩
      · intro digit others whole nonzero
        rw [whole] at reads
        obtain ⟨gotDigit, ahead⟩ := reads.byte
        exact ⟨_, scanNumberMinus_digit (first digit others whole) nonzero gotDigit, ahead.add _,
          rfl⟩
    rw [scanNumber_minus, shape, kindOf, negative, if_pos rfl]
    exact reaches
  | false =>
    have shape : numeral.text = numeral.whole.map digitByte ++
        (numeral.fractionText ++ numeral.exponentText) := by
      unfold Numeral.text Numeral.signText
      rw [if_neg (by rw [negative]; exact Bool.false_ne_true)]
      rfl
    have reaches : Reaches total floats (scanNumber floats byte lexer)
        (if numeral.isFloat then .valueFloat else .valueUnsigned)
        ([] ++ (numeral.whole.map digitByte ++
          (numeral.fractionText ++ numeral.exponentText))) rest := by
      refine reaches_whole valid stops ?_ ?_
      · intro whole
        rw [shape, whole] at text
        cases text
        exact ⟨_, rfl, List.append_assoc .. ▸ got.reset _, rfl⟩
      · intro digit others whole nonzero
        rw [shape, whole] at text
        cases text
        refine ⟨_, scanNumber_digit (first digit others whole) nonzero, ?_, rfl⟩
        rw [← List.append_assoc, ← List.append_assoc, List.append_assoc (others.map digitByte)]
        exact got.reset _
    rw [shape, kindOf, negative, if_neg Bool.false_ne_true]
    exact reaches

theorem head?_append_tail (bytes : List UInt8) : bytes.head?.toList ++ bytes.tail = bytes := by
  cases bytes <;> rfl

/-- At its end a number becomes its value. -/
theorem Reaches.carries {outcome : TokenType × Lexer F} {numeral : Numeral}
    (valid : numeral.Valid)
    (reaches : Reaches total floats outcome (kindOf numeral) numeral.text rest) :
    ∃ type later, outcome = (type, later) ∧ Carries later type (numeral.value floats) ∧
      Reads total later rest := by
  obtain ⟨last, same, reads, buffer⟩ := reaches
  have held : last.get.tokenBuffer = numeral.text := buffer
  obtain ⟨type, later, run, carries, ahead⟩ := reads.get.scanNumberDone valid held
  rw [head?_append_tail] at ahead
  exact ⟨type, later, same.trans run, carries, ahead⟩

/-! ### What is read as a number -/

/-- A number has been got up to its end, by the bytes from its first, or an error has been found. -/
inductive Numbered (total : Nat) (floats : FloatText F.Double) (bytes : List UInt8) :
    TokenType × Lexer F → Prop where
  | reaches (numeral : Numeral) (after : List UInt8) {outcome : TokenType × Lexer F}
      (valid : numeral.Valid) (split : bytes = numeral.text ++ after)
      (reaches : Reaches total floats outcome (kindOf numeral) numeral.text after) :
      Numbered total floats bytes outcome
  | failed {later : Lexer F} (within : Within total later) :
      Numbered total floats bytes (.parseError, later)

theorem Reads.number_fails (reads : Reads total lexer rest) (bytes : List UInt8)
    (message : String) : Numbered total floats bytes (lexer.get.fail message) :=
  .failed reads.get_within

theorem small_append {front back : List Nat} (small : ∀ digit ∈ front, digit < 10)
    (smallBack : ∀ digit ∈ back, digit < 10) : ∀ digit ∈ front ++ back, digit < 10 :=
  fun digit member => (List.mem_append.mp member).elim (small digit) (smallBack digit)

section Parts

variable {negative : Bool} {whole fraction : List Nat}

theorem kindOf_exponent (exponent : Exponent) :
    kindOf ⟨negative, whole, fraction, some exponent⟩ = .valueFloat := by
  unfold kindOf Numeral.isFloat
  exact if_pos (Bool.or_true _)

theorem kindOf_fraction (nonempty : fraction ≠ []) (exponent : Option Exponent) :
    kindOf ⟨negative, whole, fraction, exponent⟩ = .valueFloat := by
  unfold kindOf Numeral.isFloat
  refine if_pos ?_
  simp [nonempty]

/-- Digits of an exponent that has one already. -/
theorem numbered_any2 {exponent : Exponent}
    (valid : Numeral.Valid ⟨negative, whole, fraction, some exponent⟩)
    (buffer : lexer.tokenBuffer = Numeral.text ⟨negative, whole, fraction, some exponent⟩)
    (reads : Reads total lexer rest) :
    Numbered total floats (lexer.tokenBuffer ++ rest)
      (scanNumberAny2 floats .valueFloat lexer) := by
  obtain ⟨digits, after, rfl, small, ends⟩ := exists_digits rest
  have known := valid.exponent exponent rfl
  let longer : Exponent := { exponent with digits := exponent.digits ++ digits }
  have text : Numeral.text ⟨negative, whole, fraction, some longer⟩ =
      lexer.tokenBuffer ++ digits.map digitByte := by
    rw [buffer, text_exponent, text_exponent, List.append_assoc]
    show _ ++ (exponent.mark :: exponent.sign ++ (exponent.digits ++ digits).map digitByte) =
      _ ++ ((exponent.mark :: exponent.sign ++ exponent.digits.map digitByte) ++ _)
    rw [List.map_append, List.append_assoc]
  refine .reaches ⟨negative, whole, fraction, some longer⟩ after ?_ ?_ ?_
  · refine ⟨valid.whole, valid.small, valid.smallFraction, ?_⟩
    rintro _ ⟨⟩
    exact ⟨known.mark, known.sign, fun empty => known.nonempty (List.append_eq_nil_iff.mp empty).1,
      small_append known.small small⟩
  · rw [text, List.append_assoc]
  · rw [text, kindOf_exponent]
    exact reaches_any2 small ends reads

/-- The first digit of an exponent, after its sign or without one. -/
theorem numbered_exponentDigit {mark : UInt8} {sign : List UInt8}
    (valid : Numeral.Valid ⟨negative, whole, fraction, none⟩) (marks : isExponentMark mark = true)
    (signs : sign = [] ∨ sign = [plus] ∨ sign = [minus])
    (buffer : lexer.tokenBuffer =
      Numeral.text ⟨negative, whole, fraction, none⟩ ++ mark :: sign)
    {byte : UInt8} (digit : isDigit byte = true) (reads : Reads total lexer rest) :
    Numbered total floats (lexer.tokenBuffer ++ byte :: rest)
      (scanNumberAny2 floats .valueFloat (lexer.add byte)) := by
  obtain ⟨value, small, rfl⟩ := exists_digit digit
  have longer : Numeral.Valid ⟨negative, whole, fraction, some ⟨mark, sign, [value]⟩⟩ := by
    refine ⟨valid.whole, valid.small, valid.smallFraction, ?_⟩
    rintro _ ⟨⟩
    exact ⟨marks, signs, List.cons_ne_nil _ _, fun other member =>
      List.mem_singleton.mp member ▸ small⟩
  have held : (lexer.add (digitByte value)).tokenBuffer =
      Numeral.text ⟨negative, whole, fraction, some ⟨mark, sign, [value]⟩⟩ := by
    rw [add_tokenBuffer, buffer, text_exponent, List.append_assoc]
    rfl
  have numbered : Numbered total floats _
      (scanNumberAny2 floats .valueFloat (lexer.add (digitByte value))) :=
    numbered_any2 longer held (reads.add (digitByte value))
  rw [add_tokenBuffer, List.append_assoc] at numbered
  exact numbered

theorem numbered_exponent {mark : UInt8}
    (valid : Numeral.Valid ⟨negative, whole, fraction, none⟩) (marks : isExponentMark mark = true)
    (buffer : lexer.tokenBuffer = Numeral.text ⟨negative, whole, fraction, none⟩ ++ [mark])
    (reads : Reads total lexer rest) :
    Numbered total floats (lexer.tokenBuffer ++ rest) (scanNumberExponent floats lexer) := by
  rw [scanNumberExponent]
  refine reads.cases (fun atEnd _ => ?_) fun byte after got split later => ?_
  · rw [atEnd]
    exact reads.number_fails ..
  subst split
  rw [got]
  dsimp only
  split
  · rename_i signs
    rw [scanNumberSign]
    refine (later.add byte).cases (fun atEnd _ => ?_) fun digit beyond got split ahead => ?_
    · rw [atEnd]
      exact (later.add byte).number_fails ..
    subst split
    rw [got]
    dsimp only
    split
    · rename_i digital
      have held : ((lexer.get.add byte).get).tokenBuffer =
          Numeral.text ⟨negative, whole, fraction, none⟩ ++ mark :: [byte] := by
        rw [get_tokenBuffer, add_tokenBuffer, get_tokenBuffer, buffer, List.append_assoc]
        rfl
      have known : [byte] = [] ∨ [byte] = [plus] ∨ [byte] = [minus] := by
        obtain rfl | rfl := signs
        · exact .inr (.inl rfl)
        · exact .inr (.inr rfl)
      have numbered : Numbered total floats _ (scanNumberAny2 floats .valueFloat
          ((lexer.get.add byte).get.add digit)) :=
        numbered_exponentDigit valid marks known held digital ahead
      rw [get_tokenBuffer, add_tokenBuffer, get_tokenBuffer, List.append_assoc] at numbered
      exact numbered
    · exact (later.add byte).number_fails ..
  · split
    · rename_i digital
      have held : lexer.get.tokenBuffer =
        Numeral.text ⟨negative, whole, fraction, none⟩ ++ mark :: [] := buffer
      exact numbered_exponentDigit valid marks (.inl rfl) held digital later
    · exact reads.number_fails ..

/-- Digits of a fraction that has one already. -/
theorem numbered_decimal2 (nonempty : fraction ≠ [])
    (valid : Numeral.Valid ⟨negative, whole, fraction, none⟩)
    (buffer : lexer.tokenBuffer = Numeral.text ⟨negative, whole, fraction, none⟩)
    (reads : Reads total lexer rest) :
    Numbered total floats (lexer.tokenBuffer ++ rest)
      (scanNumberDecimal2 floats .valueFloat lexer) := by
  obtain ⟨digits, after, rfl, small, ends⟩ := exists_digits rest
  obtain ⟨later, same, ahead, added⟩ := reads.digits scanNumberDecimal2_digit small
  have more : fraction ++ digits ≠ [] := fun empty => nonempty (List.append_eq_nil_iff.mp empty).1
  have longer : Numeral.Valid ⟨negative, whole, fraction ++ digits, none⟩ :=
    ⟨valid.whole, valid.small, small_append valid.smallFraction small, by rintro _ ⟨⟩⟩
  have held : later.tokenBuffer = Numeral.text ⟨negative, whole, fraction ++ digits, none⟩ := by
    rw [added, buffer, text_fraction nonempty, text_fraction more, List.append_assoc,
      List.map_append, List.cons_append]
  rw [same, ← List.append_assoc, ← added]
  have finishes (known : ∀ byte ∈ after.head?, isExponentMark byte = false) :
      Numbered total floats (later.tokenBuffer ++ after)
        (scanNumberDecimal2 floats .valueFloat later) := by
    refine .reaches ⟨negative, whole, fraction ++ digits, none⟩ after longer (by rw [held]) ?_
    rw [kindOf_fraction more]
    exact ⟨later, scanNumberDecimal2_end (get_current_of_head ahead fun byte member =>
      ⟨ends byte member, known byte member⟩), ahead, held⟩
  refine ahead.cases (fun _ exhausted => ?_) fun byte beyond got split further => ?_
  · refine finishes ?_
    rw [exhausted]
    rintro _ ⟨⟩
  · subst split
    cases mark : isExponentMark byte with
    | false =>
      refine finishes ?_
      rintro _ ⟨⟩
      exact mark
    | true =>
      have marked : (later.get.add byte).tokenBuffer =
          Numeral.text ⟨negative, whole, fraction ++ digits, none⟩ ++ [byte] := by
        rw [add_tokenBuffer, get_tokenBuffer, held]
      have numbered : Numbered total floats _ (scanNumberExponent floats (later.get.add byte)) :=
        numbered_exponent longer mark marked (further.add byte)
      rw [add_tokenBuffer, get_tokenBuffer, List.append_assoc] at numbered
      rw [scanNumberDecimal2_mark got mark]
      exact numbered

theorem numbered_decimal1 (valid : Numeral.Valid ⟨negative, whole, [], none⟩)
    (buffer : lexer.tokenBuffer = Numeral.text ⟨negative, whole, [], none⟩ ++ [point])
    (reads : Reads total lexer rest) :
    Numbered total floats (lexer.tokenBuffer ++ rest) (scanNumberDecimal1 floats lexer) := by
  rw [scanNumberDecimal1]
  refine reads.cases (fun atEnd _ => ?_) fun byte after got split later => ?_
  · rw [atEnd]
    exact reads.number_fails ..
  subst split
  rw [got]
  dsimp only
  split
  · rename_i digital
    obtain ⟨value, small, rfl⟩ := exists_digit digital
    have longer : Numeral.Valid ⟨negative, whole, [value], none⟩ :=
      ⟨valid.whole, valid.small, fun digit member => List.mem_singleton.mp member ▸ small,
        by rintro _ ⟨⟩⟩
    have held : (lexer.get.add (digitByte value)).tokenBuffer =
        Numeral.text ⟨negative, whole, [value], none⟩ := by
      rw [add_tokenBuffer, get_tokenBuffer, buffer, text_fraction (List.cons_ne_nil _ _),
        List.append_assoc]
      rfl
    have numbered : Numbered total floats _
        (scanNumberDecimal2 floats .valueFloat (lexer.get.add (digitByte value))) :=
      numbered_decimal2 (List.cons_ne_nil _ _) longer held (later.add (digitByte value))
    rw [add_tokenBuffer, get_tokenBuffer, List.append_assoc] at numbered
    exact numbered
  · exact reads.number_fails ..

/-- The kind of a number without a fraction and an exponent. -/
theorem kindOf_whole : kindOf ⟨negative, whole, [], none⟩ =
    if negative then .valueInteger else .valueUnsigned := rfl

theorem numbered_zero (valid : Numeral.Valid ⟨negative, whole, [], none⟩)
    (buffer : lexer.tokenBuffer = Numeral.text ⟨negative, whole, [], none⟩)
    (reads : Reads total lexer rest) :
    Numbered total floats (lexer.tokenBuffer ++ rest) (scanNumberZero floats
      (if negative then .valueInteger else .valueUnsigned) lexer) := by
  have finishes (known : ∀ byte ∈ rest.head?, byte ≠ point ∧ isExponentMark byte = false) :
      Numbered total floats (lexer.tokenBuffer ++ rest) (scanNumberZero floats
        (if negative then .valueInteger else .valueUnsigned) lexer) := by
    refine .reaches ⟨negative, whole, [], none⟩ rest valid (by rw [buffer]) ?_
    rw [kindOf_whole]
    exact ⟨lexer, scanNumberZero_end (get_current_of_head reads known), reads, buffer⟩
  refine reads.cases (fun _ exhausted => ?_) fun byte after got split later => ?_
  · refine finishes ?_
    rw [exhausted]
    rintro _ ⟨⟩
  subst split
  by_cases pointed : byte = point
  · subst pointed
    have held : (lexer.get.add point).tokenBuffer =
        Numeral.text ⟨negative, whole, [], none⟩ ++ [point] := by
      rw [add_tokenBuffer, get_tokenBuffer, buffer]
    have numbered : Numbered total floats _ (scanNumberDecimal1 floats (lexer.get.add point)) :=
      numbered_decimal1 valid held (later.add point)
    rw [add_tokenBuffer, get_tokenBuffer, List.append_assoc] at numbered
    rw [scanNumberZero_point got]
    exact numbered
  cases mark : isExponentMark byte with
  | false =>
    refine finishes ?_
    rintro _ ⟨⟩
    exact ⟨pointed, mark⟩
  | true =>
    have marked : (lexer.get.add byte).tokenBuffer =
        Numeral.text ⟨negative, whole, [], none⟩ ++ [byte] := by
      rw [add_tokenBuffer, get_tokenBuffer, buffer]
    have numbered : Numbered total floats _ (scanNumberExponent floats (lexer.get.add byte)) :=
      numbered_exponent valid mark marked (later.add byte)
    rw [add_tokenBuffer, get_tokenBuffer, List.append_assoc] at numbered
    rw [scanNumberZero_mark got mark]
    exact numbered

/-- The digits of a whole part that does not begin with zero. -/
theorem numbered_any1 {first : Nat} {others : List Nat} (nonzero : first ≠ 0)
    (small : ∀ digit ∈ first :: others, digit < 10)
    (buffer : lexer.tokenBuffer = Numeral.text ⟨negative, first :: others, [], none⟩)
    (reads : Reads total lexer rest) :
    Numbered total floats (lexer.tokenBuffer ++ rest) (scanNumberAny1 floats
      (if negative then .valueInteger else .valueUnsigned) lexer) := by
  obtain ⟨digits, after, rfl, more, ends⟩ := exists_digits rest
  obtain ⟨later, same, ahead, added⟩ := reads.digits scanNumberAny1_digit more
  have longer : Numeral.Valid ⟨negative, first :: others ++ digits, [], none⟩ :=
    ⟨.inr ⟨first, others ++ digits, rfl, nonzero⟩, small_append small more, by rintro _ ⟨⟩,
      by rintro _ ⟨⟩⟩
  have held : later.tokenBuffer =
      Numeral.text ⟨negative, first :: others ++ digits, [], none⟩ := by
    rw [added, buffer, text_whole, text_whole, List.append_assoc, List.map_append]
  rw [same, scanNumberAny1_rest (get_current_of_head ahead ends), ← List.append_assoc, ← added]
  exact numbered_zero longer held ahead

end Parts

/-- The first digit of a number, be it after a sign or not. -/
theorem numbered_digit {negative : Bool} {byte : UInt8} (digit : isDigit byte = true)
    (buffer : lexer.tokenBuffer = if negative then [minus] else [])
    (reads : Reads total lexer rest) :
    Numbered total floats (lexer.tokenBuffer ++ byte :: rest)
      (if byte = '0'.toUInt8 then
        scanNumberZero floats (if negative then .valueInteger else .valueUnsigned) (lexer.add byte)
      else scanNumberAny1 floats (if negative then .valueInteger else .valueUnsigned)
        (lexer.add byte)) := by
  obtain ⟨value, small, rfl⟩ := exists_digit digit
  have held : (lexer.add (digitByte value)).tokenBuffer =
      Numeral.text ⟨negative, [value], [], none⟩ := by
    rw [add_tokenBuffer, buffer, text_whole]
    rfl
  have whole : ∀ digit ∈ [value], digit < 10 := fun digit member =>
    List.mem_singleton.mp member ▸ small
  split
  · rename_i zero
    have zero : value = 0 := by
      by_contra nonzero
      exact digitByte_ne_zero small nonzero zero
    have numbered : Numbered total floats _ (scanNumberZero floats
        (if negative then .valueInteger else .valueUnsigned) (lexer.add (digitByte value))) :=
      numbered_zero ⟨.inl (by rw [zero]), whole, by rintro _ ⟨⟩, by rintro _ ⟨⟩⟩ held
        (reads.add (digitByte value))
    rw [add_tokenBuffer, List.append_assoc] at numbered
    exact numbered
  · rename_i other
    have nonzero : value ≠ 0 := by
      rintro rfl
      exact other rfl
    have numbered : Numbered total floats _ (scanNumberAny1 floats
        (if negative then .valueInteger else .valueUnsigned) (lexer.add (digitByte value))) :=
      numbered_any1 nonzero whole held (reads.add (digitByte value))
    rw [add_tokenBuffer, List.append_assoc] at numbered
    exact numbered

/-- What begins with a minus sign or a digit is a number, or an error is found. -/
theorem Got.scanNumber_numbered {byte : UInt8} (begins : byte = minus ∨ isDigit byte = true)
    (got : Got total lexer (some byte) rest) :
    Numbered total floats (byte :: rest) (scanNumber floats byte lexer) := by
  unfold Lexer.scanNumber
  split
  · rename_i sign
    subst sign
    have reads := got.reset minus
    have buffer : (lexer.reset.add minus).get.tokenBuffer = if true then [minus] else [] := rfl
    rw [scanNumberMinus]
    refine reads.cases (fun atEnd _ => ?_) fun digit after gotDigit split later => ?_
    · rw [atEnd]
      exact reads.number_fails ..
    subst split
    rw [gotDigit]
    dsimp only
    cases known : isDigit digit with
    | true =>
      have numbered : Numbered total floats _ (if digit = '0'.toUInt8 then
          scanNumberZero floats .valueInteger ((lexer.reset.add minus).get.add digit)
        else scanNumberAny1 floats .valueInteger ((lexer.reset.add minus).get.add digit)) :=
        numbered_digit known buffer later
      rw [if_pos rfl]
      exact numbered
    | false =>
      have other : digit ≠ '0'.toUInt8 := by
        rintro rfl
        cases known
      rw [if_neg other, if_neg Bool.false_ne_true]
      exact reads.number_fails ..
  · rename_i unsigned
    have digit := begins.resolve_left unsigned
    have buffer : lexer.reset.tokenBuffer = if false then [minus] else [] := rfl
    exact numbered_digit digit buffer ⟨got.reads.bytes, got.reads.ended, got.reads.position⟩

end Nlohmann.Lexer
