/-
This file models how the JSON library writes a value as text, as `dump()` with its
default arguments does.

Strings are read by a table-driven decoder of UTF-8 as they are escaped, through a
buffer that is written out before it can overflow; bytes that are not UTF-8 are an
error. Integers are put into a buffer from its end, two digits at a time. The shortest
digits of a floating-point number are laid out with a decimal point or an exponent.
The members of an object are written in the order of their keys.
-/

import BoosterSdk.Library.JsonGrammar

namespace Nlohmann

open DecimalText
open JsonGrammar (quote backslash)

/-- A `type_error` without a value. -/
def typeError (id : Nat) (what : String) : Thrown :=
  .json id ("[json.exception.type_error." ++ toString id ++ "] " ++ what)

namespace Serializer

/-! ### Strings -/

def utf8Accept : UInt8 := 0

def utf8Reject : UInt8 := 1

/-- The classes of the bytes, and the transitions between the states by class. -/
def utf8d : Array UInt8 :=
  #[
    0, 0, 0, 0, 0, 0, 0, 0, 0, 0, 0, 0, 0, 0, 0, 0, 0, 0, 0, 0, 0, 0, 0, 0, 0, 0, 0, 0, 0, 0, 0, 0,
    0, 0, 0, 0, 0, 0, 0, 0, 0, 0, 0, 0, 0, 0, 0, 0, 0, 0, 0, 0, 0, 0, 0, 0, 0, 0, 0, 0, 0, 0, 0, 0,
    0, 0, 0, 0, 0, 0, 0, 0, 0, 0, 0, 0, 0, 0, 0, 0, 0, 0, 0, 0, 0, 0, 0, 0, 0, 0, 0, 0, 0, 0, 0, 0,
    0, 0, 0, 0, 0, 0, 0, 0, 0, 0, 0, 0, 0, 0, 0, 0, 0, 0, 0, 0, 0, 0, 0, 0, 0, 0, 0, 0, 0, 0, 0, 0,
    1, 1, 1, 1, 1, 1, 1, 1, 1, 1, 1, 1, 1, 1, 1, 1, 9, 9, 9, 9, 9, 9, 9, 9, 9, 9, 9, 9, 9, 9, 9, 9,
    7, 7, 7, 7, 7, 7, 7, 7, 7, 7, 7, 7, 7, 7, 7, 7, 7, 7, 7, 7, 7, 7, 7, 7, 7, 7, 7, 7, 7, 7, 7, 7,
    8, 8, 2, 2, 2, 2, 2, 2, 2, 2, 2, 2, 2, 2, 2, 2, 2, 2, 2, 2, 2, 2, 2, 2, 2, 2, 2, 2, 2, 2, 2, 2,
    10, 3, 3, 3, 3, 3, 3, 3, 3, 3, 3, 3, 3, 4, 3, 3,
    11, 6, 6, 6, 5, 8, 8, 8, 8, 8, 8, 8, 8, 8, 8, 8,
    0, 1, 2, 3, 5, 8, 7, 1, 1, 1, 4, 6, 1, 1, 1, 1,
    1, 1, 1, 1, 1, 1, 1, 1, 1, 1, 1, 1, 1, 1, 1, 1, 1, 0, 1, 1, 1, 1, 1, 0, 1, 0, 1, 1, 1, 1, 1, 1,
    1, 2, 1, 1, 1, 1, 1, 2, 1, 2, 1, 1, 1, 1, 1, 1, 1, 1, 1, 1, 1, 1, 1, 2, 1, 1, 1, 1, 1, 1, 1, 1,
    1, 2, 1, 1, 1, 1, 1, 1, 1, 2, 1, 1, 1, 1, 1, 1, 1, 1, 1, 1, 1, 1, 1, 3, 1, 3, 1, 1, 1, 1, 1, 1,
    1, 3, 1, 1, 1, 1, 1, 3, 1, 3, 1, 1, 1, 1, 1, 1, 1, 3, 1, 1, 1, 1, 1, 1, 1, 1, 1, 1, 1, 1, 1, 1
  ]

/-- The state of the decoding and the code point so far. -/
structure Decoder where
  state : UInt8
  codepoint : UInt32

def decode (decoder : Decoder) (byte : UInt8) : Decoder :=
  let type := utf8d.getD byte.toNat 0
  { codepoint :=
      if decoder.state ≠ utf8Accept then (byte &&& 0x3F).toUInt32 ||| decoder.codepoint <<< 6
      else (0xFF : UInt32) >>> type.toUInt32 &&& byte.toUInt32
    state := utf8d.getD (256 + decoder.state.toNat * 16 + type.toNat) 0 }

/-- A digit of base sixteen, in upper case. -/
def nibbleToHex (nibble : Nat) : Char := "0123456789ABCDEF".toList.getD nibble '0'

def hexBytes (byte : UInt8) : String :=
  String.ofList [nibbleToHex (byte.toNat / 16), nibbleToHex (byte.toNat % 16)]

/-- A digit of base sixteen, in lower case, as `%x` writes it. -/
def hexDigit (digit : Nat) : UInt8 :=
  if digit < 10 then UInt8.ofNat (48 + digit) else UInt8.ofNat (87 + digit)

/-- `%04x` of a number below 2 ^ 16. -/
def hex4 (number : Nat) : List UInt8 :=
  [hexDigit (number / 4096 % 16), hexDigit (number / 256 % 16), hexDigit (number / 16 % 16),
    hexDigit (number % 16)]

/-- What is put into the buffer for a code point: an escape sequence, or the bytes that are given
for it. -/
def escape (codepoint : UInt32) (bytes : List UInt8) : List UInt8 :=
  if codepoint = 0x08 then [backslash, 'b'.toUInt8]
  else if codepoint = 0x09 then [backslash, 't'.toUInt8]
  else if codepoint = 0x0A then [backslash, 'n'.toUInt8]
  else if codepoint = 0x0C then [backslash, 'f'.toUInt8]
  else if codepoint = 0x0D then [backslash, 'r'.toUInt8]
  else if codepoint = 0x22 then [backslash, quote]
  else if codepoint = 0x5C then [backslash, backslash]
  else if codepoint ≤ 0x1F then [backslash, 'u'.toUInt8] ++ hex4 codepoint.toNat
  else bytes

/-- The bytes that `string_buffer` holds. -/
def bufferSize : Nat := 512

/-- A string being escaped: what `string_buffer` holds, and what has been written from it. -/
structure Escaping where
  decoder : Decoder := ⟨utf8Accept, 0⟩
  buffer : List UInt8 := []
  written : List UInt8 := []

/-- One iteration of `dump_escaped`. -/
def Escaping.next (self : Escaping) (index : Nat) (byte : UInt8) : Except Thrown Escaping :=
  let decoder := decode self.decoder byte
  if decoder.state = utf8Accept then
    let buffer := self.buffer ++ escape decoder.codepoint [byte]
    if bufferSize - buffer.length < 13 then .ok ⟨decoder, [], self.written ++ buffer⟩
    else .ok ⟨decoder, buffer, self.written⟩
  else if decoder.state = utf8Reject then
    .error (typeError 316
      ("invalid UTF-8 byte at index " ++ toString index ++ ": 0x" ++ hexBytes byte))
  else .ok ⟨decoder, self.buffer ++ [byte], self.written⟩

/-- The loop of `dump_escaped`. -/
def Escaping.run (self : Escaping) (index : Nat) : List UInt8 → Except Thrown Escaping
  | [] => .ok self
  | byte :: rest => do
    let later ← self.next index byte
    later.run (index + 1) rest

def dumpEscaped (text : Text) : Except Thrown (List UInt8) := do
  let self ← Escaping.run {} 0 text.bytes
  if self.decoder.state = utf8Accept then .ok (self.written ++ self.buffer)
  else .error (typeError 316
    ("incomplete UTF-8 string; last byte: 0x" ++ hexBytes (text.bytes.getLastD 0)))

/-! ### Integers -/

def countDigits (x : Nat) : Nat :=
  if x < 10 then 1
  else if x < 100 then 2
  else if x < 1000 then 3
  else if x < 10000 then 4
  else countDigits (x / 10000) + 4

/-- `number_buffer` and the position that bytes are put before. -/
structure NumberBuffer where
  bytes : List UInt8
  position : Nat

/-- `*(--buffer_ptr) = byte`. -/
def NumberBuffer.put (buffer : NumberBuffer) (byte : UInt8) : NumberBuffer :=
  ⟨buffer.bytes.set (buffer.position - 1) byte, buffer.position - 1⟩

/-- The two digits of a number below a hundred, as `digits_to_99` has them. -/
def NumberBuffer.putPair (buffer : NumberBuffer) (number : Nat) : NumberBuffer :=
  (buffer.put (digitByte (number % 10))).put (digitByte (number / 10))

/-- The loop that puts the digits of a number and what follows it. -/
def NumberBuffer.putDigits (buffer : NumberBuffer) (absValue : Nat) : NumberBuffer :=
  if 100 ≤ absValue then (buffer.putPair (absValue % 100)).putDigits (absValue / 100)
  else if 10 ≤ absValue then buffer.putPair absValue
  else buffer.put (digitByte absValue)

/-- `dump_integer`, of a number given by its sign and its absolute value. -/
def dumpAbsolute (negative : Bool) (absValue : UInt64) : List UInt8 :=
  let blank := List.replicate 64 0
  if negative then
    let nChars := 1 + countDigits absValue.toNat
    (NumberBuffer.putDigits ⟨blank.set 0 IntegerText.minus, nChars⟩ absValue.toNat).bytes.take
      nChars
  else
    let nChars := countDigits absValue.toNat
    (NumberBuffer.putDigits ⟨blank, nChars⟩ absValue.toNat).bytes.take nChars

def removeSign (x : Int64) : UInt64 := (-(x + 1)).toUInt64 + 1

/-- `dump_integer` of a `number_integer_t`. -/
def dumpInteger (x : Int64) : List UInt8 :=
  if x = 0 then ['0'.toUInt8]
  else if x < 0 then dumpAbsolute true (removeSign x)
  else dumpAbsolute false x.toUInt64

/-- `dump_integer` of a `number_unsigned_t`. -/
def dumpUnsigned (x : UInt64) : List UInt8 :=
  if x = 0 then ['0'.toUInt8] else dumpAbsolute false x

/-! ### Floating-point numbers -/

def appendExponent (e : Int) : List UInt8 :=
  let sign := if e < 0 then IntegerText.minus else IntegerText.plus
  let k := e.natAbs
  if k < 10 then [sign, digitByte 0, digitByte k]
  else if k < 100 then [sign, digitByte (k / 10), digitByte (k % 10)]
  else [sign, digitByte (k / 100), digitByte (k % 100 / 10), digitByte (k % 100 % 10)]

def formatBuffer (digits : List UInt8) (decimalExponent minExp maxExp : Int) : List UInt8 :=
  let k : Int := digits.length
  let n := k + decimalExponent
  if k ≤ n ∧ n ≤ maxExp then
    digits ++ List.replicate (n - k).toNat (digitByte 0) ++ [point, digitByte 0]
  else if 0 < n ∧ n ≤ maxExp then digits.take n.toNat ++ point :: digits.drop n.toNat
  else if minExp < n ∧ n ≤ 0 then
    digitByte 0 :: point :: (List.replicate (-n).toNat (digitByte 0) ++ digits)
  else
    let mantissa := if k = 1 then digits else digits.take 1 ++ point :: digits.drop 1
    mantissa ++ 'e'.toUInt8 :: appendExponent (n - 1)

def kMinExp : Int := -4

/-- `digits10` of a double. -/
def kMaxExp : Int := 15

section Floats

variable {F : NumberFormat} (floats : FloatText F.Double)

/-- `to_chars`, of a number that is finite. -/
def toChars (value : F.Double) : List UInt8 :=
  let sign := if floats.signbit value then [IntegerText.minus] else []
  let magnitude := if floats.signbit value then floats.negate value else value
  if floats.isZero magnitude then sign ++ [digitByte 0, point, digitByte 0]
  else
    let (digits, decimalExponent) := floats.shortest magnitude
    sign ++ formatBuffer (digits.map digitByte) decimalExponent kMinExp kMaxExp

def dumpFloat (x : F.Double) : List UInt8 :=
  if floats.isFinite x then toChars floats x else (Text.ofLiteral "null").bytes

end Floats

/-! ### Values -/

variable {F : NumberFormat} (floats : FloatText F.Double)

mutual

/-- `serializer::dump`, of a value with its members in order. -/
def write : Json F → Except Thrown (List UInt8)
  | .null => .ok (Text.ofLiteral "null").bytes
  | .boolean true => .ok (Text.ofLiteral "true").bytes
  | .boolean false => .ok (Text.ofLiteral "false").bytes
  | .integer value => .ok (dumpInteger value)
  | .unsigned value => .ok (dumpUnsigned value)
  | .float value => .ok (dumpFloat floats value)
  | .string text => do
    let escaped ← dumpEscaped text
    return quote :: escaped ++ [quote]
  | .array [] => .ok (Text.ofLiteral "[]").bytes
  | .array elements => do
    let text ← writeElements elements
    return '['.toUInt8 :: text ++ [']'.toUInt8]
  | .object [] => .ok (Text.ofLiteral "\x7b\x7d").bytes
  | .object fields => do
    let text ← writeMembers fields
    return 0x7B :: text ++ [0x7D]

/-- The elements of an array, with a comma after each but the last. -/
def writeElements : List (Json F) → Except Thrown (List UInt8)
  | [] => .ok []
  | value :: rest => do
    let text ← write value
    match rest with
    | [] => return text
    | _ => return text ++ ','.toUInt8 :: (← writeElements rest)

/-- The members of an object, with a comma after each but the last. -/
def writeMembers : List (String × Json F) → Except Thrown (List UInt8)
  | [] => .ok []
  | (key, value) :: rest => do
    let escaped ← dumpEscaped (Text.ofKey key)
    let text ← write value
    let member := quote :: escaped ++ quote :: ':'.toUInt8 :: text
    match rest with
    | [] => return member
    | _ => return member ++ ','.toUInt8 :: (← writeMembers rest)

end

/-- `dump()`. -/
def dump (json : Json F) : Except Thrown Text := Text.mk <$> write floats json.stored

end Serializer

end Nlohmann
