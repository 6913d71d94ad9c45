/-
This file is a library for the grammar of JSON texts and the values they stand for.

A string is a sequence of characters, each written as itself or escaped, and a number
is a sign, digits, a fraction and an exponent. Values, the elements of arrays and the
members of objects are phrases of one grammar, in which members with one key replace
each other. A text is a phrase between white space, after a byte order mark or none,
and ends where it does or with a null byte.
-/

import BoosterSdk.Library.DecimalText
import BoosterSdk.Library.JsonObject

namespace JsonGrammar

open DecimalText
open IntegerText (digitIn minus plus)
open Utf8 (encode)

/-! ### White space -/

/-- Bytes that are white space. -/
def Space (bytes : List UInt8) : Prop :=
  ∀ byte ∈ bytes, byte = 0x20 ∨ byte = 0x09 ∨ byte = 0x0A ∨ byte = 0x0D

theorem space_nil : Space [] := by
  rintro _ ⟨⟩

/-! ### Strings -/

def quote : UInt8 := 0x22

def backslash : UInt8 := 0x5C

/-- The letter of the escape sequences with a code point. -/
def unicode : UInt8 := 0x75

/-- Four digits of base sixteen and the number they make. -/
def Hex4 (bytes : List UInt8) (number : Nat) : Prop :=
  ∃ digits, bytes.mapM (digitIn 16) = some digits ∧ digits.length = 4 ∧
    Nat.ofDigits 16 digits.reverse = number

theorem mapM_digitIn {base : Nat} {bytes : List UInt8} {digits : List Nat}
    (read : bytes.mapM (digitIn base) = some digits) :
    bytes.length = digits.length ∧ ∀ digit ∈ digits, digit < base := by
  induction bytes generalizing digits with
  | nil =>
    cases read
    exact ⟨rfl, by rintro _ ⟨⟩⟩
  | cons byte bytes inductionHypothesis =>
    rw [List.mapM_cons] at read
    obtain ⟨digit, first, read⟩ := Option.bind_eq_some_iff.mp read
    obtain ⟨others, later, read⟩ := Option.bind_eq_some_iff.mp read
    cases read
    obtain ⟨size, small⟩ := inductionHypothesis later
    refine ⟨congrArg Nat.succ size, fun other member => ?_⟩
    obtain rfl | member := List.mem_cons.mp member
    · exact IntegerText.digitIn_lt first
    · exact small other member

theorem Hex4.length {bytes : List UInt8} {number : Nat} (hex : Hex4 bytes number) :
    bytes.length = 4 := by
  obtain ⟨digits, read, size, _⟩ := hex
  exact (mapM_digitIn read).1.trans size

theorem Hex4.lt {bytes : List UInt8} {number : Nat} (hex : Hex4 bytes number) :
    number < 2 ^ 16 := by
  obtain ⟨digits, read, size, rfl⟩ := hex
  have bound := Nat.ofDigits_lt_base_pow_length (by decide : 1 < 16) (l := digits.reverse)
    fun digit member => (mapM_digitIn read).2 digit (List.mem_reverse.mp member)
  rw [List.length_reverse, size] at bound
  exact bound

/-- The escape sequences of one letter, and what they stand for. -/
def shortEscapes : List (UInt8 × Char) :=
  [(0x22, '"'), (0x5C, '\\'), (0x2F, '/'), (0x62, '\x08'), (0x66, '\x0C'), (0x6E, '\n'),
    (0x72, '\r'), (0x74, '\t')]

/-- The ways to write a scalar value in a string. -/
inductive Character : List UInt8 → Char → Prop where
  | plain {scalar : Char} (printable : 0x20 ≤ scalar.val.toNat)
      (unreserved : scalar ≠ '"' ∧ scalar ≠ '\\') :
      Character (String.utf8EncodeChar scalar) scalar
  | short {letter : UInt8} {scalar : Char} (row : (letter, scalar) ∈ shortEscapes) :
      Character [backslash, letter] scalar
  | unicode {digits : List UInt8} {scalar : Char} (hex : Hex4 digits scalar.val.toNat) :
      Character (backslash :: unicode :: digits) scalar
  | pair {first second : List UInt8} {high low : Nat} {scalar : Char} (hexHigh : Hex4 first high)
      (hexLow : Hex4 second low) (highSurrogate : 0xD800 ≤ high ∧ high ≤ 0xDBFF)
      (lowSurrogate : 0xDC00 ≤ low ∧ low ≤ 0xDFFF)
      (scalarValue : scalar.val.toNat = 0x10000 + (high - 0xD800) * 0x400 + (low - 0xDC00)) :
      Character (backslash :: JsonGrammar.unicode :: first ++
        backslash :: JsonGrammar.unicode :: second) scalar

/-- What is between the quotation marks of a string. -/
inductive Body : List UInt8 → List Char → Prop where
  | nil : Body [] []
  | cons {piece source : List UInt8} {scalar : Char} {scalars : List Char}
      (first : Character piece scalar) (rest : Body source scalars) :
      Body (piece ++ source) (scalar :: scalars)

/-- A string in its quotation marks. -/
def quoted (source : List UInt8) : List UInt8 := quote :: source ++ [quote]

/-! ### Numbers -/

/-- The exponent of a number. -/
structure Exponent where
  mark : UInt8
  sign : List UInt8
  digits : List Nat

/-- A number: there is no fraction when it has no digits. -/
structure Numeral where
  negative : Bool
  whole : List Nat
  fraction : List Nat
  exponent : Option Exponent

def Exponent.text (exponent : Exponent) : List UInt8 :=
  exponent.mark :: exponent.sign ++ exponent.digits.map digitByte

structure Exponent.Valid (exponent : Exponent) : Prop where
  mark : isExponentMark exponent.mark = true
  sign : exponent.sign = [] ∨ exponent.sign = [plus] ∨ exponent.sign = [minus]
  nonempty : exponent.digits ≠ []
  small : ∀ digit ∈ exponent.digits, digit < 10

namespace Numeral

def signText (numeral : Numeral) : List UInt8 := if numeral.negative then [minus] else []

def fractionText (numeral : Numeral) : List UInt8 :=
  if numeral.fraction = [] then [] else point :: numeral.fraction.map digitByte

def exponentText (numeral : Numeral) : List UInt8 := numeral.exponent.elim [] Exponent.text

def text (numeral : Numeral) : List UInt8 :=
  numeral.signText ++ (numeral.whole.map digitByte ++
    (numeral.fractionText ++ numeral.exponentText))

/-- No digit follows a zero before the fraction. -/
structure Valid (numeral : Numeral) : Prop where
  whole : numeral.whole = [0] ∨ ∃ first rest, numeral.whole = first :: rest ∧ first ≠ 0
  small : ∀ digit ∈ numeral.whole, digit < 10
  smallFraction : ∀ digit ∈ numeral.fraction, digit < 10
  exponent : ∀ exponent ∈ numeral.exponent, exponent.Valid

/-- The number has a fraction or an exponent. -/
def isFloat (numeral : Numeral) : Bool := !numeral.fraction.isEmpty || numeral.exponent.isSome

variable {F : NumberFormat}

/-- What a number is stored as: as an integer if it has the form of one and fits. -/
def value (floats : FloatText F.Double) (numeral : Numeral) : Json F :=
  if numeral.isFloat then .float (floats.strtod numeral.text)
  else if numeral.negative then
    if numberOf numeral.whole ≤ 2 ^ 63 then .integer (Int64.ofInt (-(numberOf numeral.whole : Int)))
    else .float (floats.strtod numeral.text)
  else if numberOf numeral.whole < 2 ^ 64 then .unsigned (UInt64.ofNat (numberOf numeral.whole))
  else .float (floats.strtod numeral.text)

end Numeral

/-! ### What numbers are worth -/

/-- The number an exponent stands for. -/
def Exponent.number (exponent : Exponent) : Int :=
  if exponent.sign = [minus] then -(numberOf exponent.digits : Int) else numberOf exponent.digits

theorem Exponent.exponentOf_text {exponent : Exponent} (valid : exponent.Valid) :
    exponentOf exponent.text = exponent.number := by
  unfold exponentOf Exponent.text Exponent.number
  rw [List.cons_append]
  dsimp only
  rw [if_pos valid.mark]
  obtain sign | sign | sign := valid.sign
  · rw [sign, if_neg (by decide), List.nil_append, strtol_digits valid.nonempty valid.small]
    rfl
  · rw [sign, if_neg (by decide), List.cons_append, List.nil_append,
      strtol_plus valid.nonempty valid.small]
    rfl
  · rw [sign, if_pos rfl, List.cons_append, List.nil_append,
      strtol_minus valid.nonempty valid.small]
    rfl

namespace Numeral

/-- The power of ten that a number is multiplied by, before its fraction. -/
def scale (numeral : Numeral) : Int := numeral.exponent.elim 0 Exponent.number

theorem exponentOf_exponentText {numeral : Numeral} (valid : numeral.Valid) :
    exponentOf numeral.exponentText = numeral.scale := by
  unfold exponentText scale
  cases known : numeral.exponent with
  | none => rfl
  | some exponent => exact Exponent.exponentOf_text (valid.exponent exponent known)

/-- An exponent does not go on with what is before it. -/
theorem ends_exponentText {numeral : Numeral} (valid : numeral.Valid) :
    Ends numeral.exponentText ∧ numeral.exponentText.head? ≠ some point := by
  unfold exponentText
  cases known : numeral.exponent with
  | none => exact ⟨ends_nil, by decide⟩
  | some exponent =>
    have mark := (valid.exponent exponent known).mark
    have facts : ∀ byte, isExponentMark byte = true → digitIn 10 byte = none ∧ byte ≠ point := by
      rintro ⟨⟨value⟩⟩
      revert value
      decide +kernel
    refine ⟨?_, fun same => (facts _ mark).2 (Option.some.inj same)⟩
    rintro _ ⟨⟩
    exact (facts _ mark).1

/-- The value of a number without its sign. -/
theorem magnitudeOf_text {numeral : Numeral} (valid : numeral.Valid)
    (positive : numeral.negative = false) :
    magnitudeOf numeral.text = numberOf (numeral.whole ++ numeral.fraction) *
      10 ^ (numeral.scale - numeral.fraction.length) := by
  obtain ⟨ends, unpointed⟩ := ends_exponentText valid
  unfold text signText fractionText
  rw [positive, if_neg Bool.false_ne_true, List.nil_append]
  split
  · rename_i noFraction
    rw [noFraction, List.nil_append, magnitudeOf_whole valid.small ends unpointed,
      exponentOf_exponentText valid, List.append_nil, List.length_nil, Nat.cast_zero, sub_zero]
  · rw [List.cons_append, magnitudeOf_fraction valid.small valid.smallFraction ends,
      exponentOf_exponentText valid]

end Numeral

/-! ### Phrases -/

variable {F : NumberFormat}

/-- What phrases stand for. -/
inductive Item (F : NumberFormat) where
  | value (json : Json F)
  | elements (values : List (Json F))
  | members (fields : List (String × Json F))

/-- A value is a float that is not finite. -/
def Overflows (floats : FloatText F.Double) (json : Json F) : Prop :=
  ∃ number, json = .float number ∧ floats.isFinite number = false

def openBracket : UInt8 := 0x5B

def closeBracket : UInt8 := 0x5D

def openBrace : UInt8 := 0x7B

def closeBrace : UInt8 := 0x7D

def comma : UInt8 := 0x2C

def colon : UInt8 := 0x3A

/-- A key with the colon after it. -/
structure KeyText (text : List UInt8) (key : String) where
  before : List UInt8
  source : List UInt8
  after : List UInt8
  spaceBefore : Space before
  spaceAfter : Space after
  body : Body source key.toList
  whole : text = before ++ quoted source ++ after ++ [colon]

/-- Values begin with their first byte, and elements and members with the white space before
them. -/
inductive Phrase (floats : FloatText F.Double) : Item F → List UInt8 → Prop where
  | null : Phrase floats (.value .null) (Text.ofLiteral "null").bytes
  | literalTrue : Phrase floats (.value (.boolean true)) (Text.ofLiteral "true").bytes
  | literalFalse : Phrase floats (.value (.boolean false)) (Text.ofLiteral "false").bytes
  | number {numeral : Numeral} (valid : numeral.Valid)
      (fits : ¬ Overflows floats (numeral.value floats)) :
      Phrase floats (.value (numeral.value floats)) numeral.text
  | string {source : List UInt8} {scalars : List Char} (body : Body source scalars) :
      Phrase floats (.value (.string ⟨encode scalars⟩)) (quoted source)
  | emptyArray {space : List UInt8} (blank : Space space) :
      Phrase floats (.value (.array [])) (openBracket :: space ++ [closeBracket])
  | array {values : List (Json F)} {text space : List UInt8}
      (elements : Phrase floats (.elements values) text) (blank : Space space) :
      Phrase floats (.value (.array values)) (openBracket :: text ++ space ++ [closeBracket])
  | emptyObject {space : List UInt8} (blank : Space space) :
      Phrase floats (.value (.object [])) (openBrace :: space ++ [closeBrace])
  | object {fields : List (String × Json F)} {text space : List UInt8}
      (members : Phrase floats (.members fields) text) (blank : Space space) :
      Phrase floats (.value (.object fields)) (openBrace :: text ++ space ++ [closeBrace])
  | firstElement {json : Json F} {space text : List UInt8} (blank : Space space)
      (value : Phrase floats (.value json) text) :
      Phrase floats (.elements [json]) (space ++ text)
  | nextElement {values : List (Json F)} {json : Json F} {before gap space text : List UInt8}
      (elements : Phrase floats (.elements values) before) (blankGap : Space gap)
      (blank : Space space) (value : Phrase floats (.value json) text) :
      Phrase floats (.elements (values ++ [json])) (before ++ gap ++ comma :: (space ++ text))
  | firstMember {key : String} {json : Json F} {keyText space text : List UInt8}
      (name : Nonempty (KeyText keyText key)) (blank : Space space)
      (value : Phrase floats (.value json) text) :
      Phrase floats (.members [(key, json)]) (keyText ++ space ++ text)
  | nextMember {fields : List (String × Json F)} {key : String} {json : Json F}
      {before gap keyText space text : List UInt8}
      (members : Phrase floats (.members fields) before) (blankGap : Space gap)
      (name : Nonempty (KeyText keyText key)) (blank : Space space)
      (value : Phrase floats (.value json) text) :
      Phrase floats (.members (Json.insertField key json fields))
        (before ++ gap ++ comma :: (keyText ++ space ++ text))

/-- The byte order mark. -/
def byteOrderMark : List UInt8 := [0xEF, 0xBB, 0xBF]

/-- A text that stands for a value. -/
def Document (floats : FloatText F.Double) (text : List UInt8) (json : Json F) : Prop :=
  ∃ mark before body after rest, text = mark ++ before ++ body ++ after ++ rest ∧
    (mark = [] ∨ mark = byteOrderMark) ∧ Space before ∧ Phrase floats (.value json) body ∧
    Space after ∧ (rest = [] ∨ ∃ beyond, rest = 0 :: beyond)

end JsonGrammar
