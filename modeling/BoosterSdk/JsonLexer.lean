/-
This file models how the JSON library divides a text into tokens.

The lexer gets one byte at a time and can take the last one back. It keeps the bytes of
the token for messages, and the contents of strings and numbers in a buffer. A string
is checked to be UTF-8 and its escape sequences are replaced; a number is read by a
state machine and then converted, as an integer if it has the form of one and fits.
-/

import BoosterSdk.JsonSerializer

namespace Nlohmann

open DecimalText (FloatText)
open IntegerText (strtol)
open JsonGrammar (quote backslash)
open Serializer (hexBytes)
open Utf8 (ByteRange tail)

/-- The kinds of tokens. -/
inductive TokenType where
  | uninitialized
  | literalTrue
  | literalFalse
  | literalNull
  | valueString
  | valueUnsigned
  | valueInteger
  | valueFloat
  | beginArray
  | beginObject
  | endArray
  | endObject
  | nameSeparator
  | valueSeparator
  | parseError
  | endOfInput
  | literalOrValue
  deriving DecidableEq

/-- `token_type_name`. -/
def TokenType.name : TokenType → String
  | uninitialized => "<uninitialized>"
  | literalTrue => "true literal"
  | literalFalse => "false literal"
  | literalNull => "null literal"
  | valueString => "string literal"
  | valueUnsigned => "number literal"
  | valueInteger => "number literal"
  | valueFloat => "number literal"
  | beginArray => "'['"
  | endArray => "']'"
  | beginObject => "'\x7b'"
  | endObject => "'\x7d'"
  | nameSeparator => "':'"
  | valueSeparator => "','"
  | parseError => "<parse error>"
  | endOfInput => "end of input"
  | literalOrValue => "'[', '\x7b', or a literal"

/-- A token of this kind is made of a byte at least. -/
def TokenType.consumes : TokenType → Bool
  | uninitialized => false
  | parseError => false
  | endOfInput => false
  | _ => true

/-- How much of the text has been read. -/
structure Position where
  charsReadTotal : Nat := 0
  charsReadCurrentLine : Nat := 0
  linesRead : Nat := 0

/-- The lexer: what its input adapter has left, and its members. -/
structure Lexer (F : NumberFormat) where
  input : List UInt8
  current : Option UInt8 := none
  nextUnget : Bool := false
  position : Position := {}
  tokenString : List UInt8 := []
  tokenBuffer : List UInt8 := []
  errorMessage : String := ""
  valueInteger : Int64 := 0
  valueUnsigned : UInt64 := 0
  valueFloat : F.Double

namespace Lexer

variable {F : NumberFormat}

/-! ### Input -/

/-- The bytes that are left to get. -/
def unread (self : Lexer F) : Nat :=
  self.input.length + if self.nextUnget ∧ self.current.isSome then 1 else 0

/-- The position after a byte, or after the attempt to get one. -/
def Position.next (position : Position) (byte : Option UInt8) : Position :=
  { charsReadTotal := position.charsReadTotal + 1
    charsReadCurrentLine :=
      if byte = some '\n'.toUInt8 then 0 else position.charsReadCurrentLine + 1
    linesRead := if byte = some '\n'.toUInt8 then position.linesRead + 1 else position.linesRead }

def get (self : Lexer F) : Lexer F :=
  let current := if self.nextUnget then self.current else self.input.head?
  { self with
    input := if self.nextUnget then self.input else self.input.tail
    current := current
    nextUnget := false
    position := Position.next self.position current
    tokenString := self.tokenString ++ current.toList }

def unget (self : Lexer F) : Lexer F :=
  { self with
    nextUnget := true
    position :=
      { charsReadTotal := self.position.charsReadTotal - 1
        charsReadCurrentLine := self.position.charsReadCurrentLine - 1
        linesRead :=
          if self.position.charsReadCurrentLine = 0 then self.position.linesRead - 1
          else self.position.linesRead }
    tokenString := if self.current.isSome then self.tokenString.dropLast else self.tokenString }

def add (self : Lexer F) (byte : UInt8) : Lexer F :=
  { self with tokenBuffer := self.tokenBuffer ++ [byte] }

/-- The current byte begins a token. -/
def reset (self : Lexer F) : Lexer F :=
  { self with tokenBuffer := [], tokenString := [self.current.getD 0xFF] }

/-- `error_message = message; return token_type::parse_error;`. -/
def fail (self : Lexer F) (message : String) : TokenType × Lexer F :=
  (.parseError, { self with errorMessage := message })

theorem unread_get_eq (self : Lexer F) :
    self.get.unread + self.get.current.toList.length = self.unread := by
  unfold get unread
  cases self.nextUnget with
  | true => cases self.current <;> simp
  | false => cases self.input <;> simp

theorem unread_get (self : Lexer F) : self.get.unread ≤ self.unread :=
  Nat.le_of_add_right_le (Nat.le_of_eq self.unread_get_eq)

/-- A byte that is got is one less to get. -/
theorem unread_get_lt {self : Lexer F} {byte : UInt8} (got : self.get.current = some byte) :
    self.get.unread < self.unread := by
  have one := self.unread_get_eq
  rw [got] at one
  exact Nat.lt_of_lt_of_eq (Nat.lt_succ_self _) one

@[simp] theorem unread_add (self : Lexer F) (byte : UInt8) :
    (self.add byte).unread = self.unread := rfl

@[simp] theorem unread_reset (self : Lexer F) : self.reset.unread = self.unread := rfl

@[simp] theorem unread_fail (self : Lexer F) (message : String) :
    (self.fail message).2.unread = self.unread := rfl

/-! ### White space and literals -/

def isWhitespace (byte : UInt8) : Bool :=
  byte == ' '.toUInt8 || byte == '\t'.toUInt8 || byte == '\n'.toUInt8 || byte == '\r'.toUInt8

def skipWhitespace (self : Lexer F) : Lexer F :=
  match _got : self.get.current with
  | some byte => if isWhitespace byte then self.get.skipWhitespace else self.get
  | none => self.get
termination_by self.unread
decreasing_by exact unread_get_lt _got

/-- `skip_bom`: whether there is no byte order mark or the whole of it. -/
def skipBom (self : Lexer F) : Bool × Lexer F :=
  let first := self.get
  if first.current = some 0xEF then
    let second := first.get
    if second.current = some 0xBB then
      let third := second.get
      (third.current == some 0xBF, third)
    else (false, second)
  else (true, first.unget)

/-- The loop of `scan_literal`, over the bytes after the first. -/
def scanLiteral (self : Lexer F) (returnType : TokenType) : List UInt8 → TokenType × Lexer F
  | [] => (returnType, self)
  | byte :: rest =>
    if self.get.current = some byte then self.get.scanLiteral returnType rest
    else self.get.fail "invalid literal"

/-! ### Strings -/

/-- The digit of base sixteen that a byte stands for. -/
def hexValue (byte : UInt8) : Option Nat :=
  if 48 ≤ byte.toNat ∧ byte.toNat ≤ 57 then some (byte.toNat - 0x30)
  else if 65 ≤ byte.toNat ∧ byte.toNat ≤ 70 then some (byte.toNat - 0x37)
  else if 97 ≤ byte.toNat ∧ byte.toNat ≤ 102 then some (byte.toNat - 0x57)
  else none

/-- The loop of `get_codepoint`, over the factors that are left. -/
def getCodepointFrom (self : Lexer F) (codepoint : Nat) : List Nat → Option Nat × Lexer F
  | [] => (some codepoint, self)
  | factor :: rest =>
    match self.get.current.bind hexValue with
    | some digit => self.get.getCodepointFrom (codepoint + digit <<< factor) rest
    | none => (none, self.get)

def getCodepoint (self : Lexer F) : Option Nat × Lexer F := self.getCodepointFrom 0 [12, 8, 4, 0]

/-- The loop of `next_byte_in_range`: whether the next bytes are in the ranges. -/
def nextBytesInRanges (self : Lexer F) : List ByteRange → Bool × Lexer F
  | [] => (true, self)
  | range :: rest =>
    match self.get.current with
    | some byte =>
      if range.Holds byte then (self.get.add byte).nextBytesInRanges rest
      else (false, { self.get with errorMessage := "invalid string: ill-formed UTF-8 byte" })
    | none => (false, { self.get with errorMessage := "invalid string: ill-formed UTF-8 byte" })

/-- `next_byte_in_range`, for the current byte. -/
def nextByteInRange (self : Lexer F) (byte : UInt8) (ranges : List ByteRange) : Bool × Lexer F :=
  (self.add byte).nextBytesInRanges ranges

/-- The names of the control characters. -/
def controlNames : List String :=
  ["NUL", "SOH", "STX", "ETX", "EOT", "ENQ", "ACK", "BEL", "BS", "HT", "LF", "VT", "FF", "CR",
    "SO", "SI", "DLE", "DC1", "DC2", "DC3", "DC4", "NAK", "SYN", "ETB", "CAN", "EM", "SUB", "ESC",
    "FS", "GS", "RS", "US"]

/-- The short escape sequences of control characters, as the messages name them. -/
def shortForm (byte : UInt8) : String :=
  if byte = 0x08 then " or \\b"
  else if byte = 0x09 then " or \\t"
  else if byte = 0x0A then " or \\n"
  else if byte = 0x0C then " or \\f"
  else if byte = 0x0D then " or \\r"
  else ""

def controlMessage (byte : UInt8) : String :=
  "invalid string: control character U+00" ++ hexBytes byte ++ " (" ++
    controlNames.getD byte.toNat "" ++ ") must be escaped to \\u00" ++ hexBytes byte ++
    shortForm byte

/-- What one iteration of `scan_string` comes to. -/
inductive StringTurn (F : NumberFormat) where
  | more (self : Lexer F)
  | done (type : TokenType) (self : Lexer F)

def StringTurn.lexer : StringTurn F → Lexer F
  | more self => self
  | done _ self => self

/-- `error_message = message; return token_type::parse_error;` within `scan_string`. -/
def failString (self : Lexer F) (message : String) : StringTurn F :=
  .done .parseError { self with errorMessage := message }

/-- The bytes of a code point are added one by one. -/
def addCodepoint (self : Lexer F) (codepoint : Nat) : Lexer F :=
  if codepoint < 0x80 then self.add (UInt8.ofNat codepoint)
  else if codepoint ≤ 0x7FF then
    (self.add (UInt8.ofNat (0xC0 ||| codepoint >>> 6))).add
      (UInt8.ofNat (0x80 ||| codepoint &&& 0x3F))
  else if codepoint ≤ 0xFFFF then
    ((self.add (UInt8.ofNat (0xE0 ||| codepoint >>> 12))).add
      (UInt8.ofNat (0x80 ||| codepoint >>> 6 &&& 0x3F))).add
      (UInt8.ofNat (0x80 ||| codepoint &&& 0x3F))
  else
    (((self.add (UInt8.ofNat (0xF0 ||| codepoint >>> 18))).add
      (UInt8.ofNat (0x80 ||| codepoint >>> 12 &&& 0x3F))).add
      (UInt8.ofNat (0x80 ||| codepoint >>> 6 &&& 0x3F))).add
      (UInt8.ofNat (0x80 ||| codepoint &&& 0x3F))

def hexMessage : String := "invalid string: '\\u' must be followed by 4 hex digits"

def highMessage : String :=
  "invalid string: surrogate U+D800..U+DBFF must be followed by U+DC00..U+DFFF"

def lowMessage : String :=
  "invalid string: surrogate U+DC00..U+DFFF must follow U+D800..U+DBFF"

/-- The second half of a surrogate pair, after the first. -/
def scanLowSurrogate (self : Lexer F) (codepoint1 : Nat) : StringTurn F :=
  if self.get.current = some backslash then
    if self.get.get.current = some JsonGrammar.unicode then
      match self.get.get.getCodepoint with
      | (none, later) => later.failString hexMessage
      | (some codepoint2, later) =>
        if 0xDC00 ≤ codepoint2 ∧ codepoint2 ≤ 0xDFFF then
          .more (later.addCodepoint (codepoint1 <<< 10 + codepoint2 - 0x35FDC00))
        else later.failString highMessage
    else self.get.get.failString highMessage
  else self.get.failString highMessage

/-- An escape sequence with a code point, after its `u`. -/
def scanUnicode (self : Lexer F) : StringTurn F :=
  match self.getCodepoint with
  | (none, later) => later.failString hexMessage
  | (some codepoint1, later) =>
    if 0xD800 ≤ codepoint1 ∧ codepoint1 ≤ 0xDBFF then later.scanLowSurrogate codepoint1
    else if 0xDC00 ≤ codepoint1 ∧ codepoint1 ≤ 0xDFFF then later.failString lowMessage
    else .more (later.addCodepoint codepoint1)

/-- The byte that a letter after a backslash stands for. -/
def unescape (letter : UInt8) : Option UInt8 :=
  if letter = quote then some quote
  else if letter = backslash then some backslash
  else if letter = '/'.toUInt8 then some '/'.toUInt8
  else if letter = 'b'.toUInt8 then some 0x08
  else if letter = 'f'.toUInt8 then some 0x0C
  else if letter = 'n'.toUInt8 then some 0x0A
  else if letter = 'r'.toUInt8 then some 0x0D
  else if letter = 't'.toUInt8 then some 0x09
  else none

/-- An escape sequence, after its backslash. -/
def scanEscape (self : Lexer F) : StringTurn F :=
  match self.get.current with
  | none => self.get.failString "invalid string: forbidden character after backslash"
  | some letter =>
    match unescape letter with
    | some byte => .more (self.get.add byte)
    | none =>
      if letter = JsonGrammar.unicode then self.get.scanUnicode
      else self.get.failString "invalid string: forbidden character after backslash"

/-- The ranges of the bytes after one that begins a sequence of several, as the cases of
`scan_string` list them. -/
def followingRanges (byte : UInt8) : Option (List ByteRange) :=
  if 0xC2 ≤ byte.toNat ∧ byte.toNat ≤ 0xDF then some [tail]
  else if byte.toNat = 0xE0 then some [⟨0xA0, 0xBF⟩, tail]
  else if 0xE1 ≤ byte.toNat ∧ byte.toNat ≤ 0xEC ∨ 0xEE ≤ byte.toNat ∧ byte.toNat ≤ 0xEF then
    some [tail, tail]
  else if byte.toNat = 0xED then some [⟨0x80, 0x9F⟩, tail]
  else if byte.toNat = 0xF0 then some [⟨0x90, 0xBF⟩, tail, tail]
  else if 0xF1 ≤ byte.toNat ∧ byte.toNat ≤ 0xF3 then some [tail, tail, tail]
  else if byte.toNat = 0xF4 then some [⟨0x80, 0x8F⟩, tail, tail]
  else none

/-- One iteration of `scan_string`. -/
def scanStringTurn (self : Lexer F) : StringTurn F :=
  match self.get.current with
  | none => self.get.failString "invalid string: missing closing quote"
  | some byte =>
    if byte = quote then .done .valueString self.get
    else if byte = backslash then self.get.scanEscape
    else if byte.toNat ≤ 0x1F then self.get.failString (controlMessage byte)
    else if byte.toNat ≤ 0x7F then .more (self.get.add byte)
    else
      match followingRanges byte with
      | none => self.get.failString "invalid string: ill-formed UTF-8 byte"
      | some ranges =>
        match self.get.nextByteInRange byte ranges with
        | (true, later) => .more later
        | (false, later) => .done .parseError later

/-! ### What an iteration leaves to get -/

theorem unread_getCodepointFrom (self : Lexer F) (codepoint : Nat) (factors : List Nat) :
    (self.getCodepointFrom codepoint factors).2.unread ≤ self.unread := by
  induction factors generalizing self codepoint with
  | nil => exact Nat.le_refl _
  | cons factor rest inductionHypothesis =>
    rw [getCodepointFrom]
    split
    · exact (inductionHypothesis _ _).trans self.unread_get
    · exact self.unread_get

theorem unread_nextBytesInRanges (self : Lexer F) (ranges : List ByteRange) :
    (self.nextBytesInRanges ranges).2.unread ≤ self.unread := by
  induction ranges generalizing self with
  | nil => exact Nat.le_refl _
  | cons range rest inductionHypothesis =>
    rw [nextBytesInRanges]
    split
    · split
      · exact (inductionHypothesis _).trans self.unread_get
      · exact self.unread_get
    · exact self.unread_get

@[simp] theorem unread_addCodepoint (self : Lexer F) (codepoint : Nat) :
    (self.addCodepoint codepoint).unread = self.unread := by
  unfold addCodepoint
  split
  · rfl
  · split
    · rfl
    · split <;> rfl

theorem unread_getCodepoint (self : Lexer F) : self.getCodepoint.2.unread ≤ self.unread :=
  self.unread_getCodepointFrom 0 [12, 8, 4, 0]

@[simp] theorem lexer_failString (self : Lexer F) (message : String) :
    (self.failString message).lexer.unread = self.unread := rfl

@[simp] theorem lexer_more (self : Lexer F) : (StringTurn.more self).lexer = self := rfl

theorem unread_scanLowSurrogate (self : Lexer F) (codepoint1 : Nat) :
    (self.scanLowSurrogate codepoint1).lexer.unread ≤ self.unread := by
  have twice := self.get.unread_get.trans self.unread_get
  have read := self.get.get.unread_getCodepoint.trans twice
  unfold scanLowSurrogate
  split
  · split
    · split
      · rename_i found
        rw [found] at read
        exact read
      · rename_i found
        rw [found] at read
        split
        · rw [lexer_more, unread_addCodepoint]
          exact read
        · exact read
    · exact twice
  · exact self.unread_get

theorem unread_scanUnicode (self : Lexer F) : self.scanUnicode.lexer.unread ≤ self.unread := by
  have read := self.unread_getCodepoint
  unfold scanUnicode
  split
  · rename_i found
    rw [found] at read
    exact read
  · rename_i found
    rw [found] at read
    split
    · exact (unread_scanLowSurrogate _ _).trans read
    · split
      · exact read
      · rw [lexer_more, unread_addCodepoint]
        exact read

theorem unread_scanEscape (self : Lexer F) : self.scanEscape.lexer.unread ≤ self.unread := by
  unfold scanEscape
  split
  · exact self.unread_get
  · split
    · exact self.unread_get
    · split
      · exact (unread_scanUnicode _).trans self.unread_get
      · exact self.unread_get

theorem unread_scanStringTurn (self : Lexer F) :
    self.scanStringTurn.lexer.unread ≤ self.get.unread := by
  unfold scanStringTurn
  split
  · exact Nat.le_refl _
  split
  · exact Nat.le_refl _
  split
  · exact unread_scanEscape _
  split
  · exact Nat.le_refl _
  split
  · exact Nat.le_refl _
  split
  · exact Nat.le_refl _
  · rename_i byte _ _ _ _ _ _ ranges _
    have read := (self.get.add byte).unread_nextBytesInRanges ranges
    split
    · rename_i found
      unfold nextByteInRange at found
      rw [found] at read
      exact read
    · rename_i found
      unfold nextByteInRange at found
      rw [found] at read
      exact read

/-- An iteration that is not the last gets a byte at least. -/
theorem scanStringTurn_shrinks {self later : Lexer F} (more : self.scanStringTurn = .more later) :
    later.unread < self.unread := by
  have read := self.unread_scanStringTurn
  rw [more] at read
  cases got : self.get.current with
  | some byte => exact Nat.lt_of_le_of_lt read (unread_get_lt got)
  | none =>
    unfold scanStringTurn at more
    rw [got] at more
    cases more

/-- The loop of `scan_string`. -/
def scanStringLoop (self : Lexer F) : TokenType × Lexer F :=
  match _turn : self.scanStringTurn with
  | .more later => later.scanStringLoop
  | .done type later => (type, later)
termination_by self.unread
decreasing_by exact scanStringTurn_shrinks _turn

def scanString (self : Lexer F) : TokenType × Lexer F := self.reset.scanStringLoop

/-! ### Numbers -/

def isDigit (byte : UInt8) : Bool := 48 ≤ byte.toNat && byte.toNat ≤ 57

/-- `strtoull`, of digits; none when it sets `errno`. -/
def strtoull (bytes : List UInt8) : Option UInt64 :=
  ((strtol 10 bytes).filter fun value => 0 ≤ value ∧ value < 2 ^ 64).map fun value =>
    UInt64.ofNat value.toNat

/-- `strtoll`, none when it sets `errno`. -/
def strtoll (bytes : List UInt8) : Option Int64 :=
  ((strtol 10 bytes).filter fun value => -2 ^ 63 ≤ value ∧ value < 2 ^ 63).map Int64.ofInt

section Numbers

variable (floats : FloatText F.Double)

/-- The label `scan_number_done`. -/
def scanNumberDone (numberType : TokenType) (self : Lexer F) : TokenType × Lexer F :=
  let later := self.unget
  let float := (TokenType.valueFloat,
    { later with valueFloat := floats.strtod later.tokenBuffer })
  if numberType = .valueUnsigned then
    match strtoull later.tokenBuffer with
    | some x => (.valueUnsigned, { later with valueUnsigned := x })
    | none => float
  else if numberType = .valueInteger then
    match strtoll later.tokenBuffer with
    | some x => (.valueInteger, { later with valueInteger := x })
    | none => float
  else float

/-- The label `scan_number_any2`. -/
def scanNumberAny2 (numberType : TokenType) (self : Lexer F) : TokenType × Lexer F :=
  match _got : self.get.current with
  | some byte =>
    if isDigit byte then scanNumberAny2 numberType (self.get.add byte)
    else scanNumberDone floats numberType self.get
  | none => scanNumberDone floats numberType self.get
termination_by self.unread
decreasing_by exact unread_get_lt _got

/-- The label `scan_number_sign`. -/
def scanNumberSign (numberType : TokenType) (self : Lexer F) : TokenType × Lexer F :=
  match self.get.current with
  | some byte =>
    if isDigit byte then scanNumberAny2 floats numberType (self.get.add byte)
    else self.get.fail "invalid number; expected digit after exponent sign"
  | none => self.get.fail "invalid number; expected digit after exponent sign"

/-- The label `scan_number_exponent`. -/
def scanNumberExponent (self : Lexer F) : TokenType × Lexer F :=
  match self.get.current with
  | some byte =>
    if byte = IntegerText.plus ∨ byte = IntegerText.minus then
      scanNumberSign floats .valueFloat (self.get.add byte)
    else if isDigit byte then scanNumberAny2 floats .valueFloat (self.get.add byte)
    else self.get.fail "invalid number; expected '+', '-', or digit after exponent"
  | none => self.get.fail "invalid number; expected '+', '-', or digit after exponent"

/-- The label `scan_number_decimal2`. -/
def scanNumberDecimal2 (numberType : TokenType) (self : Lexer F) : TokenType × Lexer F :=
  match _got : self.get.current with
  | some byte =>
    if isDigit byte then scanNumberDecimal2 numberType (self.get.add byte)
    else if DecimalText.isExponentMark byte then scanNumberExponent floats (self.get.add byte)
    else scanNumberDone floats numberType self.get
  | none => scanNumberDone floats numberType self.get
termination_by self.unread
decreasing_by exact unread_get_lt _got

/-- The label `scan_number_decimal1`. -/
def scanNumberDecimal1 (self : Lexer F) : TokenType × Lexer F :=
  match self.get.current with
  | some byte =>
    if isDigit byte then scanNumberDecimal2 floats .valueFloat (self.get.add byte)
    else self.get.fail "invalid number; expected digit after '.'"
  | none => self.get.fail "invalid number; expected digit after '.'"

/-- The label `scan_number_any1`. -/
def scanNumberAny1 (numberType : TokenType) (self : Lexer F) : TokenType × Lexer F :=
  match _got : self.get.current with
  | some byte =>
    if isDigit byte then scanNumberAny1 numberType (self.get.add byte)
    else if byte = DecimalText.point then scanNumberDecimal1 floats (self.get.add byte)
    else if DecimalText.isExponentMark byte then scanNumberExponent floats (self.get.add byte)
    else scanNumberDone floats numberType self.get
  | none => scanNumberDone floats numberType self.get
termination_by self.unread
decreasing_by exact unread_get_lt _got

/-- The label `scan_number_zero`. -/
def scanNumberZero (numberType : TokenType) (self : Lexer F) : TokenType × Lexer F :=
  match self.get.current with
  | some byte =>
    if byte = DecimalText.point then scanNumberDecimal1 floats (self.get.add byte)
    else if DecimalText.isExponentMark byte then scanNumberExponent floats (self.get.add byte)
    else scanNumberDone floats numberType self.get
  | none => scanNumberDone floats numberType self.get

/-- The label `scan_number_minus`. -/
def scanNumberMinus (self : Lexer F) : TokenType × Lexer F :=
  match self.get.current with
  | some byte =>
    if byte = '0'.toUInt8 then scanNumberZero floats .valueInteger (self.get.add byte)
    else if isDigit byte then scanNumberAny1 floats .valueInteger (self.get.add byte)
    else self.get.fail "invalid number; expected digit after '-'"
  | none => self.get.fail "invalid number; expected digit after '-'"

/-- `scan_number`, whose first byte is a minus sign or a digit. -/
def scanNumber (byte : UInt8) (self : Lexer F) : TokenType × Lexer F :=
  if byte = IntegerText.minus then scanNumberMinus floats (self.reset.add byte)
  else if byte = '0'.toUInt8 then scanNumberZero floats .valueUnsigned (self.reset.add byte)
  else scanNumberAny1 floats .valueUnsigned (self.reset.add byte)

/-! ### Tokens -/

/-- The structural characters. -/
def structural (byte : UInt8) : Option TokenType :=
  if byte = '['.toUInt8 then some .beginArray
  else if byte = ']'.toUInt8 then some .endArray
  else if byte = 0x7B then some .beginObject
  else if byte = 0x7D then some .endObject
  else if byte = ':'.toUInt8 then some .nameSeparator
  else if byte = ','.toUInt8 then some .valueSeparator
  else none

/-- The literals by their first byte, with the others. -/
def literal (byte : UInt8) : Option (TokenType × List UInt8) :=
  if byte = 't'.toUInt8 then some (.literalTrue, (Text.ofLiteral "rue").bytes)
  else if byte = 'f'.toUInt8 then some (.literalFalse, (Text.ofLiteral "alse").bytes)
  else if byte = 'n'.toUInt8 then some (.literalNull, (Text.ofLiteral "ull").bytes)
  else none

/-- The switch of `scan`, by the current byte. -/
def scanToken (self : Lexer F) : TokenType × Lexer F :=
  match self.current with
  | none => (.endOfInput, self)
  | some byte =>
    match structural byte, literal byte with
    | some type, _ => (type, self)
    | none, some (type, rest) => self.scanLiteral type rest
    | none, none =>
      if byte = quote then self.scanString
      else if byte = IntegerText.minus ∨ isDigit byte then scanNumber floats byte self
      else if byte = 0 then (.endOfInput, self)
      else self.fail "invalid literal"

/-- `scan`, which does not ignore comments. -/
def scan (self : Lexer F) : TokenType × Lexer F :=
  if self.position.charsReadTotal = 0 then
    match self.skipBom with
    | (true, later) => scanToken floats later.skipWhitespace
    | (false, later) => later.fail "invalid BOM; must be 0xEF 0xBB 0xBF if given"
  else scanToken floats self.skipWhitespace

end Numbers

/-! ### What a token leaves to get -/

/-- A byte that is taken back is left to get. -/
theorem unread_unget_get (self : Lexer F) : self.get.unget.unread = self.unread := by
  rw [← unread_get_eq]
  unfold get unget unread
  cases self.nextUnget with
  | true => cases self.current <;> simp
  | false => cases self.input <;> simp

theorem unread_skipWhitespace (self : Lexer F) :
    self.skipWhitespace.unread + self.skipWhitespace.current.toList.length ≤ self.unread := by
  fun_induction skipWhitespace self with
  | case1 self byte got space inductionHypothesis =>
    exact inductionHypothesis.trans self.unread_get
  | case2 self byte got other => exact Nat.le_of_eq self.unread_get_eq
  | case3 self atEnd => exact Nat.le_of_eq self.unread_get_eq

theorem unread_scanLiteral (self : Lexer F) (returnType : TokenType) (bytes : List UInt8) :
    (self.scanLiteral returnType bytes).2.unread ≤ self.unread := by
  induction bytes generalizing self with
  | nil => exact Nat.le_refl _
  | cons byte rest inductionHypothesis =>
    rw [scanLiteral]
    split
    · exact (inductionHypothesis _).trans self.unread_get
    · exact self.unread_get

theorem unread_scanStringLoop (self : Lexer F) : self.scanStringLoop.2.unread ≤ self.unread := by
  fun_induction scanStringLoop self with
  | case1 self later turn inductionHypothesis =>
    exact inductionHypothesis.trans (Nat.le_of_lt (scanStringTurn_shrinks turn))
  | case2 self type later turn =>
    have read := self.unread_scanStringTurn
    rw [turn] at read
    exact read.trans self.unread_get

section Numbers

variable (floats : FloatText F.Double)

theorem unread_scanNumberDone (numberType : TokenType) (self : Lexer F) :
    (scanNumberDone floats numberType self).2.unread = self.unget.unread := by
  unfold scanNumberDone
  dsimp only
  split
  · split <;> rfl
  · split
    · split <;> rfl
    · rfl

theorem unread_scanNumberDone_get (numberType : TokenType) (self : Lexer F) :
    (scanNumberDone floats numberType self.get).2.unread ≤ self.unread := by
  rw [unread_scanNumberDone, unread_unget_get]

theorem unread_scanNumberAny2 (numberType : TokenType) (self : Lexer F) :
    (scanNumberAny2 floats numberType self).2.unread ≤ self.unread := by
  fun_induction scanNumberAny2 floats numberType self with
  | case1 self byte got digit inductionHypothesis =>
    exact inductionHypothesis.trans self.unread_get
  | case2 self byte got other => exact unread_scanNumberDone_get ..
  | case3 self atEnd => exact unread_scanNumberDone_get ..

theorem unread_scanNumberSign (numberType : TokenType) (self : Lexer F) :
    (scanNumberSign floats numberType self).2.unread ≤ self.unread := by
  unfold scanNumberSign
  split
  · split
    · exact (unread_scanNumberAny2 ..).trans self.unread_get
    · exact self.unread_get
  · exact self.unread_get

theorem unread_scanNumberExponent (self : Lexer F) :
    (scanNumberExponent floats self).2.unread ≤ self.unread := by
  unfold scanNumberExponent
  split
  · split
    · exact (unread_scanNumberSign ..).trans self.unread_get
    · split
      · exact (unread_scanNumberAny2 ..).trans self.unread_get
      · exact self.unread_get
  · exact self.unread_get

theorem unread_scanNumberDecimal2 (numberType : TokenType) (self : Lexer F) :
    (scanNumberDecimal2 floats numberType self).2.unread ≤ self.unread := by
  fun_induction scanNumberDecimal2 floats numberType self with
  | case1 self byte got digit inductionHypothesis =>
    exact inductionHypothesis.trans self.unread_get
  | case2 self byte got other mark =>
    exact (unread_scanNumberExponent ..).trans self.unread_get
  | case3 self byte got other unmarked => exact unread_scanNumberDone_get ..
  | case4 self atEnd => exact unread_scanNumberDone_get ..

theorem unread_scanNumberDecimal1 (self : Lexer F) :
    (scanNumberDecimal1 floats self).2.unread ≤ self.unread := by
  unfold scanNumberDecimal1
  split
  · split
    · exact (unread_scanNumberDecimal2 ..).trans self.unread_get
    · exact self.unread_get
  · exact self.unread_get

theorem unread_scanNumberAny1 (numberType : TokenType) (self : Lexer F) :
    (scanNumberAny1 floats numberType self).2.unread ≤ self.unread := by
  fun_induction scanNumberAny1 floats numberType self with
  | case1 self byte got digit inductionHypothesis =>
    exact inductionHypothesis.trans self.unread_get
  | case2 self got other => exact (unread_scanNumberDecimal1 ..).trans self.unread_get
  | case3 self byte got other unpointed mark =>
    exact (unread_scanNumberExponent ..).trans self.unread_get
  | case4 self byte got other unpointed unmarked => exact unread_scanNumberDone_get ..
  | case5 self atEnd => exact unread_scanNumberDone_get ..

theorem unread_scanNumberZero (numberType : TokenType) (self : Lexer F) :
    (scanNumberZero floats numberType self).2.unread ≤ self.unread := by
  unfold scanNumberZero
  split
  · split
    · exact (unread_scanNumberDecimal1 ..).trans self.unread_get
    · split
      · exact (unread_scanNumberExponent ..).trans self.unread_get
      · exact unread_scanNumberDone_get ..
  · exact unread_scanNumberDone_get ..

theorem unread_scanNumberMinus (self : Lexer F) :
    (scanNumberMinus floats self).2.unread ≤ self.unread := by
  unfold scanNumberMinus
  split
  · split
    · exact (unread_scanNumberZero ..).trans self.unread_get
    · split
      · exact (unread_scanNumberAny1 ..).trans self.unread_get
      · exact self.unread_get
  · exact self.unread_get

theorem unread_scanNumber (byte : UInt8) (self : Lexer F) :
    (scanNumber floats byte self).2.unread ≤ self.unread := by
  unfold scanNumber
  split
  · exact unread_scanNumberMinus ..
  · split
    · exact unread_scanNumberZero ..
    · exact unread_scanNumberAny1 ..

theorem unread_scanToken (self : Lexer F) : (scanToken floats self).2.unread ≤ self.unread := by
  unfold scanToken
  split
  · exact Nat.le_refl _
  split
  · exact Nat.le_refl _
  · exact unread_scanLiteral ..
  split
  · exact unread_scanStringLoop _
  split
  · exact unread_scanNumber ..
  split
  · exact Nat.le_refl _
  · exact Nat.le_refl _

theorem scanToken_none {self : Lexer F} (atEnd : self.current = none) :
    (scanToken floats self).1 = .endOfInput := by
  unfold scanToken
  rw [atEnd]

theorem unread_skipBom (self : Lexer F) : self.skipBom.2.unread ≤ self.unread := by
  unfold skipBom
  dsimp only
  split
  · split
    · exact self.get.get.unread_get.trans (self.get.unread_get.trans self.unread_get)
    · exact self.get.unread_get.trans self.unread_get
  · exact Nat.le_of_eq self.unread_unget_get

/-- The bytes of a token are not left to get. -/
theorem unread_scan (self : Lexer F) :
    (self.scan floats).2.unread + (if (self.scan floats).1.consumes then 1 else 0) ≤
      self.unread := by
  have token (later : Lexer F) : (scanToken floats later.skipWhitespace).2.unread +
      (if (scanToken floats later.skipWhitespace).1.consumes then 1 else 0) ≤ later.unread := by
    refine Nat.le_trans (Nat.add_le_add (unread_scanToken ..) ?_) later.unread_skipWhitespace
    cases got : later.skipWhitespace.current with
    | none =>
      rw [scanToken_none floats got]
      exact Nat.le_refl _
    | some byte => split <;> simp
  unfold scan
  split
  · have read := self.unread_skipBom
    split
    · rename_i found
      rw [found] at read
      exact (token _).trans read
    · rename_i found
      rw [found] at read
      exact read
  · exact token self

end Numbers

/-! ### Diagnostics -/

/-- `get_token_string`. -/
def getTokenString (self : Lexer F) : List UInt8 :=
  self.tokenString.flatMap fun byte =>
    if byte ≤ 0x1F then (Text.ofLiteral ("<U+00" ++ hexBytes byte ++ ">")).bytes else [byte]

end Lexer

end Nlohmann
