/-
This file says which strings the lexer of the JSON library reads and what they hold.

A lexer stands for the bytes that are left of a text: a byte that was taken back is one
of them, and the position counts the others. Each iteration of `scan_string` reads one
character of the grammar and adds its encoding to the buffer, or finds the quotation
mark at the end, or fails; and it does not fail where there is a character.
-/

import BoosterSdk.JsonLexer

namespace Nlohmann.Lexer

open JsonGrammar (Character Body Hex4 backslash quote shortEscapes unicode)
open IntegerText (digitIn)
open Utf8 (ByteRange following)

variable {F : NumberFormat}

/-! ### What is left of a text -/

/-- The byte that was taken back. -/
def pending (self : Lexer F) : List UInt8 := if self.nextUnget then self.current.toList else []

/-- The bytes that the lexer has left, of a text with a total number of bytes. -/
structure Reads (total : Nat) (lexer : Lexer F) (rest : List UInt8) : Prop where
  bytes : lexer.pending ++ lexer.input = rest
  ended : lexer.nextUnget = true → lexer.current = none → lexer.input = []
  position : lexer.position.charsReadTotal + rest.length = total

/-- The byte that was got last, or the attempt to get one, and the bytes that are left. -/
structure Got (total : Nat) (lexer : Lexer F) (byte : Option UInt8) (rest : List UInt8) : Prop where
  taken : lexer.nextUnget = false
  current : lexer.current = byte
  bytes : lexer.input = rest
  ended : byte = none → rest = []
  position : lexer.position.charsReadTotal + rest.length = total + if byte = none then 1 else 0
  begun : 0 < lexer.position.charsReadTotal

/-- The position is in the text or just behind it. -/
def Within (total : Nat) (lexer : Lexer F) : Prop :=
  0 < lexer.position.charsReadTotal ∧ lexer.position.charsReadTotal ≤ total + 1

variable {total : Nat} {lexer : Lexer F} {rest : List UInt8}

theorem get_current (self : Lexer F) :
    self.get.current = if self.nextUnget then self.current else self.input.head? := rfl

theorem get_input (self : Lexer F) :
    self.get.input = if self.nextUnget then self.input else self.input.tail := rfl

theorem get_position (self : Lexer F) :
    self.get.position.charsReadTotal = self.position.charsReadTotal + 1 := rfl

theorem Reads.get (reads : Reads total lexer rest) : Got total lexer.get rest.head? rest.tail := by
  obtain ⟨rfl, ended, position⟩ := reads
  have next : lexer.get.current = (lexer.pending ++ lexer.input).head? ∧
      lexer.get.input = (lexer.pending ++ lexer.input).tail := by
    rw [get_current, get_input]
    unfold pending
    cases unget : lexer.nextUnget with
    | false => exact ⟨rfl, rfl⟩
    | true =>
      cases current : lexer.current with
      | none =>
        rw [ended unget current]
        exact ⟨rfl, rfl⟩
      | some byte => exact ⟨rfl, rfl⟩
  generalize lexer.pending ++ lexer.input = rest at next position
  refine ⟨rfl, next.1, next.2, fun exhausted => ?_, ?_, Nat.succ_pos _⟩
  · rw [List.head?_eq_none_iff.mp exhausted]
    rfl
  · rw [get_position]
    cases rest with
    | nil =>
      rw [if_pos List.head?_nil, List.tail_nil]
      exact congrArg Nat.succ position
    | cons byte rest =>
      rw [if_neg (by rw [List.head?_cons]; exact Option.some_ne_none byte), List.tail_cons,
        ← position, List.length_cons]
      omega

theorem Got.reads {byte : UInt8} (got : Got total lexer (some byte) rest) :
    Reads total lexer rest where
  bytes := by
    unfold pending
    rw [got.taken, if_neg Bool.false_ne_true, got.bytes]
    rfl
  ended unget := by
    rw [got.taken] at unget
    cases unget
  position := by
    rw [got.position, if_neg (Option.some_ne_none byte)]
    rfl

/-- What was got can be taken back, also that there was nothing. -/
theorem Got.unget {byte : Option UInt8} (got : Got total lexer byte rest) :
    Reads total lexer.unget (byte.toList ++ rest) where
  bytes := by
    show lexer.current.toList ++ lexer.input = _
    rw [got.current, got.bytes]
  ended _ ending := by
    have absent : lexer.current = none := ending
    rw [got.current] at absent
    show lexer.input = []
    rw [got.bytes, got.ended absent]
  position := by
    have position := got.position
    have begun := got.begun
    show lexer.position.charsReadTotal - 1 + _ = total
    rw [List.length_append]
    cases byte with
    | none =>
      rw [if_pos rfl] at position
      show _ + (0 + _) = _
      omega
    | some byte =>
      rw [if_neg (Option.some_ne_none byte)] at position
      show _ + (1 + _) = _
      omega

/-- The next byte of a text that is left. -/
theorem Reads.byte {byte : UInt8} (reads : Reads total lexer (byte :: rest)) :
    lexer.get.current = some byte ∧ Reads total lexer.get rest :=
  ⟨reads.get.current, reads.get.reads⟩

/-- Whatever is got, the position stays in the text or just behind it. -/
theorem Got.within {byte : Option UInt8} (got : Got total lexer byte rest) :
    Within total lexer := by
  have position := got.position
  refine ⟨got.begun, ?_⟩
  split at position <;> omega

/-- When a byte of the text has been read, the position is in it. -/
theorem Reads.within (reads : Reads total lexer rest) (begun : rest.length < total) :
    Within total lexer := by
  have position := reads.position
  constructor <;> omega

theorem Reads.length_le (reads : Reads total lexer rest) : rest.length ≤ total :=
  Nat.le_of_add_left_le (Nat.le_of_eq reads.position)

theorem Reads.add (reads : Reads total lexer rest) (byte : UInt8) :
    Reads total (lexer.add byte) rest := ⟨reads.bytes, reads.ended, reads.position⟩

theorem Reads.get_within (reads : Reads total lexer rest) : Within total lexer.get :=
  reads.get.within

/-- By what is left, a byte is got or there is none. -/
theorem Reads.cases {motive : Prop} (reads : Reads total lexer rest)
    (atEnd : lexer.get.current = none → rest = [] → motive)
    (onByte : ∀ byte after, lexer.get.current = some byte → rest = byte :: after →
      Reads total lexer.get after → motive) : motive := by
  cases rest with
  | nil => exact atEnd reads.get.current rfl
  | cons byte after => exact onByte byte after reads.byte.1 rfl reads.byte.2

/-! ### Bytes in ranges -/

theorem get_tokenBuffer (self : Lexer F) : self.get.tokenBuffer = self.tokenBuffer := rfl

theorem add_tokenBuffer (self : Lexer F) (byte : UInt8) :
    (self.add byte).tokenBuffer = self.tokenBuffer ++ [byte] := rfl

/-- Bytes in the ranges are read and added. -/
theorem Reads.nextBytesInRanges {ranges : List ByteRange} {bytes : List UInt8}
    (holds : List.Forall₂ ByteRange.Holds ranges bytes)
    (reads : Reads total lexer (bytes ++ rest)) :
    ∃ later, lexer.nextBytesInRanges ranges = (true, later) ∧ Reads total later rest ∧
      later.tokenBuffer = lexer.tokenBuffer ++ bytes := by
  induction holds generalizing lexer with
  | nil => exact ⟨lexer, rfl, reads, (List.append_nil _).symm⟩
  | @cons range byte ranges bytes inRange _ inductionHypothesis =>
    obtain ⟨got, reads⟩ := reads.byte
    obtain ⟨later, run, final, buffer⟩ := inductionHypothesis (reads.add byte)
    refine ⟨later, ?_, final, ?_⟩
    · rw [Lexer.nextBytesInRanges, got]
      dsimp only
      rw [if_pos inRange, run]
    · rw [buffer, add_tokenBuffer, get_tokenBuffer, List.append_assoc, List.singleton_append]

/-- Bytes that were read as in the ranges are, and any other byte is in the text or behind it. -/
theorem Reads.nextBytesInRanges_cases (ranges : List ByteRange) (reads : Reads total lexer rest) :
    (∃ bytes after later, lexer.nextBytesInRanges ranges = (true, later) ∧ rest = bytes ++ after ∧
      List.Forall₂ ByteRange.Holds ranges bytes ∧ Reads total later after ∧
      later.tokenBuffer = lexer.tokenBuffer ++ bytes) ∨
    ∃ later, lexer.nextBytesInRanges ranges = (false, later) ∧ Within total later := by
  induction ranges generalizing lexer rest with
  | nil => exact .inl ⟨[], rest, lexer, rfl, rfl, .nil, reads, (List.append_nil _).symm⟩
  | cons range ranges inductionHypothesis =>
    rw [Lexer.nextBytesInRanges]
    refine reads.cases (fun atEnd _ => ?_) fun byte after got split later => ?_
    · rw [atEnd]
      exact .inr ⟨_, rfl, reads.get_within⟩
    · rw [got]
      dsimp only
      split
      · rename_i inRange
        obtain ⟨bytes, beyond, final, run, rfl, holds, reads, buffer⟩ | ⟨final, run, within⟩ :=
          inductionHypothesis (later.add byte)
        · refine .inl ⟨byte :: bytes, beyond, final, run, split, .cons inRange holds, reads, ?_⟩
          rw [buffer, add_tokenBuffer, get_tokenBuffer, List.append_assoc, List.singleton_append]
        · exact .inr ⟨final, run, within⟩
      · exact .inr ⟨_, rfl, reads.get_within⟩

/-- The ranges that are listed are those of the encodings of several bytes. -/
theorem followingRanges_eq (byte : UInt8) :
    0x7F < byte.toNat → followingRanges byte = following byte := by
  obtain ⟨⟨value⟩⟩ := byte
  revert value
  decide +kernel

/-! ### Code points -/

theorem hexValue_eq (byte : UInt8) : hexValue byte = digitIn 16 byte := by
  obtain ⟨⟨value⟩⟩ := byte
  revert value
  decide +kernel

/-- The number that digits make with their factors. -/
def weighted (digits factors : List Nat) : Nat :=
  (List.zipWith (fun digit factor => digit <<< factor) digits factors).sum

/-- Digits are read as long as there are factors. -/
theorem Reads.getCodepointFrom {bytes : List UInt8} {digits factors : List Nat}
    (hex : bytes.mapM (digitIn 16) = some digits) (size : digits.length = factors.length)
    (codepoint : Nat) (reads : Reads total lexer (bytes ++ rest)) :
    ∃ later, lexer.getCodepointFrom codepoint factors =
        (some (codepoint + weighted digits factors), later) ∧ Reads total later rest ∧
      later.tokenBuffer = lexer.tokenBuffer := by
  induction bytes generalizing lexer digits factors codepoint with
  | nil =>
    cases hex
    rw [List.eq_nil_of_length_eq_zero size.symm]
    exact ⟨lexer, rfl, reads, rfl⟩
  | cons byte bytes inductionHypothesis =>
    rw [List.mapM_cons] at hex
    obtain ⟨digit, first, hex⟩ := Option.bind_eq_some_iff.mp hex
    obtain ⟨others, later, hex⟩ := Option.bind_eq_some_iff.mp hex
    cases hex
    cases factors with
    | nil => cases size
    | cons factor factors =>
      obtain ⟨got, reads⟩ := reads.byte
      obtain ⟨final, run, reads, buffer⟩ := inductionHypothesis later
        (Nat.succ_inj.mp size) (codepoint + digit <<< factor) reads
      refine ⟨final, ?_, reads, buffer⟩
      rw [Lexer.getCodepointFrom, got, Option.bind_some, hexValue_eq, first]
      dsimp only
      rw [run, Nat.add_assoc]
      rfl

theorem Reads.getCodepointFrom_cases (codepoint : Nat) (factors : List Nat)
    (reads : Reads total lexer rest) :
    (∃ bytes digits after later, lexer.getCodepointFrom codepoint factors =
        (some (codepoint + weighted digits factors), later) ∧ rest = bytes ++ after ∧
      bytes.mapM (digitIn 16) = some digits ∧ digits.length = factors.length ∧
      Reads total later after ∧ later.tokenBuffer = lexer.tokenBuffer) ∨
    ∃ later, lexer.getCodepointFrom codepoint factors = (none, later) ∧ Within total later := by
  induction factors generalizing lexer rest codepoint with
  | nil => exact .inl ⟨[], [], rest, lexer, rfl, rfl, rfl, rfl, reads, rfl⟩
  | cons factor factors inductionHypothesis =>
    rw [Lexer.getCodepointFrom]
    refine reads.cases (fun atEnd _ => ?_) fun byte after got split later => ?_
    · rw [atEnd]
      exact .inr ⟨_, rfl, reads.get_within⟩
    · rw [got, Option.bind_some, hexValue_eq]
      cases hex : digitIn 16 byte with
      | none => exact .inr ⟨_, rfl, reads.get_within⟩
      | some digit =>
        obtain ⟨bytes, digits, beyond, final, run, rfl, others, size, reads, buffer⟩ |
          ⟨final, run, within⟩ := inductionHypothesis (codepoint + digit <<< factor) later
        · refine .inl ⟨byte :: bytes, digit :: digits, beyond, final, ?_, split, ?_,
            congrArg Nat.succ size, reads, buffer⟩
          · dsimp only
            rw [run, Nat.add_assoc]
            rfl
          · rw [List.mapM_cons, hex, others]
            rfl
        · exact .inr ⟨final, run, within⟩

theorem weighted_four {digits : List Nat} (size : digits.length = 4) :
    weighted digits [12, 8, 4, 0] = Nat.ofDigits 16 digits.reverse := by
  obtain ⟨first, second, third, fourth, rfl⟩ := List.length_eq_four.mp size
  simp [weighted, Nat.shiftLeft_eq, Nat.ofDigits_cons]
  omega

/-- Four digits make the code point. -/
theorem Reads.getCodepoint {bytes : List UInt8} {number : Nat} (hex : Hex4 bytes number)
    (reads : Reads total lexer (bytes ++ rest)) :
    ∃ later, lexer.getCodepoint = (some number, later) ∧ Reads total later rest ∧
      later.tokenBuffer = lexer.tokenBuffer := by
  obtain ⟨digits, hex, size, rfl⟩ := hex
  obtain ⟨later, run, reads, buffer⟩ :=
    reads.getCodepointFrom hex (show digits.length = [12, 8, 4, 0].length from size) 0
  refine ⟨later, ?_, reads, buffer⟩
  unfold Lexer.getCodepoint
  rw [run, Nat.zero_add, weighted_four size]

theorem Reads.getCodepoint_cases (reads : Reads total lexer rest) :
    (∃ bytes number after later, lexer.getCodepoint = (some number, later) ∧
      rest = bytes ++ after ∧ Hex4 bytes number ∧ Reads total later after ∧
      later.tokenBuffer = lexer.tokenBuffer) ∨
    ∃ later, lexer.getCodepoint = (none, later) ∧ Within total later := by
  obtain ⟨bytes, digits, after, later, run, split, hex, size, reads, buffer⟩ | failed :=
    reads.getCodepointFrom_cases 0 [12, 8, 4, 0]
  · refine .inl ⟨bytes, _, after, later, ?_, split, ⟨digits, hex, size, rfl⟩, reads, buffer⟩
    unfold Lexer.getCodepoint
    rw [run, Nat.zero_add, weighted_four size]
  · exact .inr failed

/-- The high bits of a byte and the low bits do not overlap. -/
theorem or_low {number : Nat} (high width : Nat) (low : number < 2 ^ width) :
    high * 2 ^ width ||| number = number + high * 2 ^ width := by
  rw [← Nat.shiftLeft_eq, ← Nat.shiftLeft_add_eq_or_of_lt low, Nat.add_comm]

theorem or_leading_two {number : Nat} (low : number < 32) : 0xC0 ||| number = number + 192 :=
  or_low 6 5 low

theorem or_leading_three {number : Nat} (low : number < 16) : 0xE0 ||| number = number + 224 :=
  or_low 14 4 low

theorem or_leading_four {number : Nat} (low : number < 8) : 0xF0 ||| number = number + 240 :=
  or_low 30 3 low

theorem or_following (number : Nat) : 0x80 ||| number &&& 0x3F = number % 64 + 128 := by
  rw [show 0x3F = 2 ^ 6 - 1 from rfl, Nat.and_two_pow_sub_one_eq_mod]
  exact or_low 2 6 (Nat.mod_lt _ (by decide))

/-- The bytes that are added for a code point are its encoding. -/
theorem addCodepoint_tokenBuffer (self : Lexer F) (scalar : Char) :
    (self.addCodepoint scalar.val.toNat).tokenBuffer =
      self.tokenBuffer ++ String.utf8EncodeChar scalar := by
  have valid := Utf8.toNat_valid scalar
  unfold addCodepoint String.utf8EncodeChar
  generalize scalar.val.toNat = number at valid
  dsimp only
  by_cases one : number ≤ 0x7F
  · rw [if_pos (by omega), if_pos one]
    rfl
  rw [if_neg (by omega), if_neg one]
  by_cases two : number ≤ 0x7FF
  · rw [if_pos two, if_pos two]
    simp only [add_tokenBuffer, or_following, Nat.shiftRight_eq_div_pow, List.append_assoc]
    rw [or_leading_two (by omega), Nat.mod_eq_of_lt (by omega : number / 64 < 32)]
    rfl
  rw [if_neg two, if_neg two]
  by_cases three : number ≤ 0xFFFF
  · rw [if_pos three, if_pos three]
    simp only [add_tokenBuffer, or_following, Nat.shiftRight_eq_div_pow, List.append_assoc]
    rw [or_leading_three (by omega), Nat.mod_eq_of_lt (by omega : number / 4096 < 16)]
    rfl
  · rw [if_neg three, if_neg three]
    simp only [add_tokenBuffer, or_following, Nat.shiftRight_eq_div_pow, List.append_assoc]
    rw [or_leading_four (by omega), Nat.mod_eq_of_lt (by omega : number / 262144 < 8)]
    rfl

theorem Reads.addCodepoint (reads : Reads total lexer rest) (codepoint : Nat) :
    Reads total (lexer.addCodepoint codepoint) rest := by
  unfold Lexer.addCodepoint
  split
  · exact reads.add _
  · split
    · exact (reads.add _).add _
    · split
      · exact ((reads.add _).add _).add _
      · exact (((reads.add _).add _).add _).add _

/-! ### Characters -/

/-- What an iteration of `scan_string` comes to, by what the buffer held and the bytes that were
left. -/
inductive Turns (total : Nat) (buffer rest : List UInt8) : StringTurn F → Prop where
  | more {piece after : List UInt8} {scalar : Char} {later : Lexer F}
      (character : Character piece scalar) (split : rest = piece ++ after)
      (reads : Reads total later after)
      (added : later.tokenBuffer = buffer ++ String.utf8EncodeChar scalar) :
      Turns total buffer rest (.more later)
  | closed {after : List UInt8} {later : Lexer F} (split : rest = quote :: after)
      (reads : Reads total later after) (same : later.tokenBuffer = buffer) :
      Turns total buffer rest (.done .valueString later)
  | failed {later : Lexer F} (within : Within total later) :
      Turns total buffer rest (.done .parseError later)

theorem Reads.fails (reads : Reads total lexer rest) (buffer prior : List UInt8)
    (message : String) : Turns total buffer prior (lexer.get.failString message) :=
  .failed reads.get_within

/-- The scalar value of a surrogate pair, as it is computed. -/
theorem pair_codepoint {high low number : Nat} (highSurrogate : 0xD800 ≤ high ∧ high ≤ 0xDBFF)
    (lowSurrogate : 0xDC00 ≤ low ∧ low ≤ 0xDFFF)
    (scalarValue : number = 0x10000 + (high - 0xD800) * 0x400 + (low - 0xDC00)) :
    high <<< 10 + low - 0x35FDC00 = number := by
  rw [scalarValue, Nat.shiftLeft_eq]
  omega

/-- A low surrogate after a high one. -/
theorem Reads.scanLowSurrogate {bytes : List UInt8} {high low : Nat} {scalar : Char}
    (hexLow : Hex4 bytes low)
    (highSurrogate : 0xD800 ≤ high ∧ high ≤ 0xDBFF) (lowSurrogate : 0xDC00 ≤ low ∧ low ≤ 0xDFFF)
    (scalarValue : scalar.val.toNat = 0x10000 + (high - 0xD800) * 0x400 + (low - 0xDC00))
    (reads : Reads total lexer (backslash :: unicode :: bytes ++ rest)) :
    ∃ later, lexer.scanLowSurrogate high = .more later ∧ Reads total later rest ∧
      later.tokenBuffer = lexer.tokenBuffer ++ String.utf8EncodeChar scalar := by
  obtain ⟨gotFirst, reads⟩ := reads.byte
  obtain ⟨gotSecond, reads⟩ := reads.byte
  obtain ⟨later, run, reads, buffer⟩ := reads.getCodepoint hexLow
  have codepoint := pair_codepoint highSurrogate lowSurrogate scalarValue
  refine ⟨later.addCodepoint scalar.val.toNat, ?_, reads.addCodepoint _, ?_⟩
  · unfold Lexer.scanLowSurrogate
    rw [if_pos gotFirst, if_pos gotSecond, run]
    dsimp only
    rw [if_pos lowSurrogate, codepoint]
  · rw [addCodepoint_tokenBuffer, buffer]
    rfl

theorem Reads.scanLowSurrogate_turns {first : List UInt8} {high : Nat} (hexHigh : Hex4 first high)
    (highSurrogate : 0xD800 ≤ high ∧ high ≤ 0xDBFF) (reads : Reads total lexer rest) :
    Turns total lexer.tokenBuffer (backslash :: unicode :: first ++ rest)
      (lexer.scanLowSurrogate high) := by
  unfold Lexer.scanLowSurrogate
  split
  · rename_i gotFirst
    refine reads.cases (fun atEnd _ => ?_) fun byte after got split later => ?_
    · rw [atEnd] at gotFirst
      cases gotFirst
    · rw [got] at gotFirst
      cases gotFirst
      split
      · rename_i gotSecond
        refine later.cases (fun atEnd _ => ?_) fun byte beyond got splitAgain last => ?_
        · rw [atEnd] at gotSecond
          cases gotSecond
        · rw [got] at gotSecond
          cases gotSecond
          obtain ⟨bytes, low, final, result, run, splitLast, hexLow, ahead, buffer⟩ |
            ⟨result, run, within⟩ := last.getCodepoint_cases
          · rw [run]
            dsimp only
            split
            · rename_i lowSurrogate
              obtain ⟨scalar, scalarValue⟩ := @Utf8.exists_scalar
                (0x10000 + (high - 0xD800) * 0x400 + (low - 0xDC00)) (by omega)
              rw [pair_codepoint highSurrogate lowSurrogate scalarValue]
              refine .more (.pair hexHigh hexLow highSurrogate lowSurrogate scalarValue) ?_
                (ahead.addCodepoint _) ?_
              · rw [split, splitAgain, splitLast]
                simp only [List.append_assoc, List.cons_append]
              · rw [addCodepoint_tokenBuffer, buffer]
                rfl
            · have begun := reads.length_le
              rw [split, splitAgain, splitLast, List.length_cons, List.length_cons,
                List.length_append] at begun
              exact .failed (ahead.within (by omega))
          · rw [run]
            exact .failed within
      · exact later.fails ..
  · exact reads.fails ..

/-- An escape sequence with one code point. -/
theorem Reads.scanUnicode {bytes : List UInt8} {scalar : Char}
    (hex : Hex4 bytes scalar.val.toNat) (reads : Reads total lexer (bytes ++ rest)) :
    ∃ later, lexer.scanUnicode = .more later ∧ Reads total later rest ∧
      later.tokenBuffer = lexer.tokenBuffer ++ String.utf8EncodeChar scalar := by
  have valid := Utf8.toNat_valid scalar
  obtain ⟨later, run, reads, buffer⟩ := reads.getCodepoint hex
  refine ⟨later.addCodepoint scalar.val.toNat, ?_, reads.addCodepoint _, ?_⟩
  · unfold Lexer.scanUnicode
    rw [run]
    dsimp only
    rw [if_neg (by omega), if_neg (by omega)]
  · rw [addCodepoint_tokenBuffer, buffer]

/-- An escape sequence with a surrogate pair. -/
theorem Reads.scanUnicode_pair {first second : List UInt8} {high low : Nat} {scalar : Char}
    (hexHigh : Hex4 first high) (hexLow : Hex4 second low)
    (highSurrogate : 0xD800 ≤ high ∧ high ≤ 0xDBFF) (lowSurrogate : 0xDC00 ≤ low ∧ low ≤ 0xDFFF)
    (scalarValue : scalar.val.toNat = 0x10000 + (high - 0xD800) * 0x400 + (low - 0xDC00))
    (reads : Reads total lexer (first ++ (backslash :: unicode :: second ++ rest))) :
    ∃ later, lexer.scanUnicode = .more later ∧ Reads total later rest ∧
      later.tokenBuffer = lexer.tokenBuffer ++ String.utf8EncodeChar scalar := by
  obtain ⟨middle, run, reads, buffer⟩ := reads.getCodepoint hexHigh
  obtain ⟨later, turn, reads, added⟩ :=
    reads.scanLowSurrogate hexLow highSurrogate lowSurrogate scalarValue
  refine ⟨later, ?_, reads, added.trans (by rw [buffer])⟩
  unfold Lexer.scanUnicode
  rw [run]
  dsimp only
  rw [if_pos highSurrogate, turn]

theorem Reads.scanUnicode_turns (reads : Reads total lexer rest) :
    Turns total lexer.tokenBuffer (backslash :: unicode :: rest) lexer.scanUnicode := by
  unfold Lexer.scanUnicode
  obtain ⟨bytes, number, after, later, run, rfl, hex, ahead, buffer⟩ | ⟨later, run, within⟩ :=
    reads.getCodepoint_cases
  · rw [run]
    dsimp only
    rw [← buffer]
    split
    · rename_i highSurrogate
      exact ahead.scanLowSurrogate_turns hex highSurrogate
    · split
      · have begun := reads.length_le
        rw [List.length_append, hex.length] at begun
        exact .failed (ahead.within (by omega))
      · have small := hex.lt
        obtain ⟨scalar, rfl⟩ := @Utf8.exists_scalar number (by omega)
        refine .more (.unicode hex) rfl (ahead.addCodepoint _) ?_
        rw [addCodepoint_tokenBuffer]
  · rw [run]
    exact .failed within

/-- Each short escape sequence stands for one byte, and there are no others. -/
theorem unescape_row : ∀ row ∈ shortEscapes,
    (unescape row.1).map (fun byte => [byte]) = some (String.utf8EncodeChar row.2) := by
  decide +kernel

theorem row_unescape (letter : UInt8) : ∀ byte ∈ unescape letter,
    ∃ row ∈ shortEscapes, row.1 = letter ∧ String.utf8EncodeChar row.2 = [byte] := by
  obtain ⟨⟨value⟩⟩ := letter
  revert value
  decide +kernel

theorem unescape_unicode : unescape unicode = none := by decide

/-- An escape sequence of one letter. -/
theorem Reads.scanEscape_short {letter : UInt8} {scalar : Char}
    (row : (letter, scalar) ∈ shortEscapes) (reads : Reads total lexer (letter :: rest)) :
    ∃ later, lexer.scanEscape = .more later ∧ Reads total later rest ∧
      later.tokenBuffer = lexer.tokenBuffer ++ String.utf8EncodeChar scalar := by
  obtain ⟨got, reads⟩ := reads.byte
  obtain ⟨byte, found, encoded⟩ := Option.map_eq_some_iff.mp (unescape_row _ row)
  refine ⟨lexer.get.add byte, ?_, reads.add byte, ?_⟩
  · unfold Lexer.scanEscape
    rw [got]
    dsimp only
    rw [found]
  · rw [add_tokenBuffer, get_tokenBuffer, encoded]

/-- An escape sequence with a code point is scanned after its letter. -/
theorem Reads.scanEscape_unicode (reads : Reads total lexer (unicode :: rest)) :
    lexer.scanEscape = lexer.get.scanUnicode ∧ Reads total lexer.get rest := by
  obtain ⟨got, reads⟩ := reads.byte
  refine ⟨?_, reads⟩
  unfold Lexer.scanEscape
  rw [got]
  dsimp only
  rw [unescape_unicode]
  exact if_pos rfl

theorem Reads.scanEscape_turns (reads : Reads total lexer rest) :
    Turns total lexer.tokenBuffer (backslash :: rest) lexer.scanEscape := by
  unfold Lexer.scanEscape
  refine reads.cases (fun atEnd _ => ?_) fun letter after got split later => ?_
  · rw [atEnd]
    exact reads.fails ..
  · rw [got, split]
    dsimp only
    cases found : unescape letter with
    | some byte =>
      obtain ⟨⟨_, scalar⟩, row, rfl, encoded⟩ := row_unescape letter byte found
      refine .more (.short row) rfl (later.add byte) ?_
      rw [add_tokenBuffer, get_tokenBuffer, encoded]
    | none =>
      dsimp only
      split
      · rename_i same
        rw [same]
        exact later.scanUnicode_turns
      · exact reads.fails ..

/-! ### Iterations -/

/-- A byte of ASCII that is neither a control character nor reserved stands for itself. -/
theorem Reads.scanStringTurn_ascii {byte : UInt8} (printable : 0x20 ≤ byte.toNat)
    (ascii : byte.toNat ≤ 0x7F) (unreserved : byte ≠ quote ∧ byte ≠ backslash)
    (reads : Reads total lexer (byte :: rest)) :
    lexer.scanStringTurn = .more (lexer.get.add byte) := by
  unfold Lexer.scanStringTurn
  rw [reads.byte.1]
  dsimp only
  rw [if_neg unreserved.1, if_neg unreserved.2, if_neg (by omega), if_pos ascii]

/-- A byte beyond ASCII is read with those that follow it. -/
theorem Reads.scanStringTurn_several {leading : UInt8} {ranges : List ByteRange}
    (beyond : 0x7F < leading.toNat) (row : following leading = some ranges)
    (reads : Reads total lexer (leading :: rest)) :
    lexer.scanStringTurn = match lexer.get.nextByteInRange leading ranges with
      | (true, later) => .more later
      | (false, later) => .done .parseError later := by
  have notQuote : leading ≠ quote := by
    rintro rfl
    exact absurd beyond (by decide)
  have notBackslash : leading ≠ backslash := by
    rintro rfl
    exact absurd beyond (by decide)
  unfold Lexer.scanStringTurn
  rw [reads.byte.1]
  dsimp only
  rewrite [if_neg notQuote, if_neg notBackslash, if_neg (by omega), if_neg (by omega),
    followingRanges_eq leading beyond, row]
  rfl

/-- A character that is not escaped is added as it is. -/
theorem Reads.scanStringTurn_plain {scalar : Char} (printable : 0x20 ≤ scalar.val.toNat)
    (unreserved : scalar ≠ '"' ∧ scalar ≠ '\\')
    (reads : Reads total lexer (String.utf8EncodeChar scalar ++ rest)) :
    ∃ later, lexer.scanStringTurn = .more later ∧ Reads total later rest ∧
      later.tokenBuffer = lexer.tokenBuffer ++ String.utf8EncodeChar scalar := by
  obtain ⟨leading, bytes, encoded, sequence, same⟩ := Utf8.encode_sequence scalar
  rw [encoded] at reads ⊢
  by_cases ascii : leading.toNat ≤ 0x7F
  · cases sequence with
    | one =>
      have isScalar (other : Char) (byte : leading.toNat = other.val.toNat) : scalar = other :=
        Char.ext (UInt32.toNat_inj.mp (same.symm.trans byte))
      refine ⟨lexer.get.add leading, ?_, reads.byte.2.add leading, rfl⟩
      refine reads.scanStringTurn_ascii (printable.trans_eq same.symm) ascii ⟨?_, ?_⟩
      · rintro rfl
        exact unreserved.1 (isScalar '"' rfl)
      · rintro rfl
        exact unreserved.2 (isScalar '\\' rfl)
    | two lead => omega
    | three lead => omega
    | four lead => omega
  · obtain ⟨ranges, row, holds⟩ := sequence.wellFormed
    obtain ⟨later, run, final, buffer⟩ := (reads.byte.2.add leading).nextBytesInRanges holds
    refine ⟨later, ?_, final, ?_⟩
    · rw [reads.scanStringTurn_several (by omega) row]
      unfold nextByteInRange
      rw [run]
    · rw [buffer, add_tokenBuffer, get_tokenBuffer, List.append_assoc, List.singleton_append]

/-- A character is read in one iteration. -/
theorem Reads.scanStringTurn {piece : List UInt8} {scalar : Char}
    (character : Character piece scalar) (reads : Reads total lexer (piece ++ rest)) :
    ∃ later, lexer.scanStringTurn = .more later ∧ Reads total later rest ∧
      later.tokenBuffer = lexer.tokenBuffer ++ String.utf8EncodeChar scalar := by
  have escapes {after : List UInt8} (reads : Reads total lexer (backslash :: after)) :
      lexer.scanStringTurn = lexer.get.scanEscape := by
    unfold Lexer.scanStringTurn
    rw [reads.byte.1]
    rfl
  cases character with
  | plain printable unreserved => exact reads.scanStringTurn_plain printable unreserved
  | short row =>
    rw [escapes reads]
    exact reads.byte.2.scanEscape_short row
  | unicode hex =>
    obtain ⟨same, ahead⟩ := reads.byte.2.scanEscape_unicode
    rw [escapes reads, same]
    exact ahead.scanUnicode hex
  | @pair first second high low scalar hexHigh hexLow highSurrogate lowSurrogate scalarValue =>
    rw [List.append_assoc, List.cons_append, List.cons_append] at reads
    obtain ⟨same, ahead⟩ := reads.byte.2.scanEscape_unicode
    rw [escapes reads, same]
    exact ahead.scanUnicode_pair hexHigh hexLow highSurrogate lowSurrogate scalarValue

theorem ne_of_toNat {scalar other : Char} (different : scalar.val.toNat ≠ other.val.toNat) :
    scalar ≠ other := by
  rintro rfl
  exact different rfl

/-- Every iteration reads a character or the end of the string, or fails. -/
theorem Reads.scanStringTurn_turns (reads : Reads total lexer rest) :
    Turns total lexer.tokenBuffer rest lexer.scanStringTurn := by
  refine reads.cases (fun atEnd _ => ?_) fun byte after got split later => ?_
  · unfold Lexer.scanStringTurn
    rw [atEnd]
    exact reads.fails ..
  subst split
  by_cases beyond : 0x7F < byte.toNat
  · cases row : following byte with
    | none =>
      have failed : lexer.scanStringTurn =
          lexer.get.failString "invalid string: ill-formed UTF-8 byte" := by
        unfold Lexer.scanStringTurn
        rw [got]
        dsimp only
        rw [if_neg (by rintro rfl; exact absurd beyond (by decide)),
          if_neg (by rintro rfl; exact absurd beyond (by decide)), if_neg (by omega),
          if_neg (by omega), followingRanges_eq byte beyond, row]
      rw [failed]
      exact reads.fails ..
    | some ranges =>
      rw [reads.scanStringTurn_several beyond row]
      unfold nextByteInRange
      obtain ⟨bytes, ahead, final, run, rfl, holds, reads, buffer⟩ | ⟨final, run, within⟩ :=
        (later.add byte).nextBytesInRanges_cases ranges
      · have sequence := (Utf8.WellFormed.sequence ⟨ranges, row, holds⟩)
        have large := sequence.beyond_ascii (sequence.several beyond)
        obtain ⟨scalar, same, encoded⟩ := sequence.encode
        rw [← same] at large
        rw [run, ← List.cons_append, ← encoded]
        refine .more (.plain (by omega) ⟨ne_of_toNat ?_, ne_of_toNat ?_⟩) rfl reads ?_
        · exact Nat.ne_of_gt (Nat.lt_of_lt_of_le (by decide) large)
        · exact Nat.ne_of_gt (Nat.lt_of_lt_of_le (by decide) large)
        · rw [buffer, add_tokenBuffer, get_tokenBuffer, List.append_assoc, encoded]
          rfl
      · rw [run]
        exact .failed within
  · unfold Lexer.scanStringTurn
    rw [got]
    dsimp only
    split
    · rename_i same
      rw [same]
      exact .closed rfl later rfl
    split
    · rename_i same
      rw [same]
      exact later.scanEscape_turns
    split
    · exact reads.fails ..
    rw [if_pos (by omega)]
    rename_i notQuote notBackslash printable
    obtain ⟨scalar, same, encoded⟩ := (Utf8.Sequence.one (by omega : byte.toNat ≤ 0x7F)).encode
    have value : scalar.val.toNat = byte.toNat := same
    rw [← List.singleton_append, ← encoded]
    refine .more (.plain (by omega) ⟨ne_of_toNat ?_, ne_of_toNat ?_⟩) rfl (later.add byte) ?_
    · rw [value]
      exact fun reserved => notQuote (UInt8.toNat_inj.mp reserved)
    · rw [value]
      exact fun reserved => notBackslash (UInt8.toNat_inj.mp reserved)
    · rw [encoded]
      rfl

/-! ### Strings -/

/-- The characters of a string are read up to the quotation mark. -/
theorem Reads.scanStringLoop {source : List UInt8} {scalars : List Char}
    (body : Body source scalars) (reads : Reads total lexer (source ++ quote :: rest)) :
    ∃ later, lexer.scanStringLoop = (.valueString, later) ∧ Reads total later rest ∧
      later.tokenBuffer = lexer.tokenBuffer ++ Utf8.encode scalars := by
  induction body generalizing lexer with
  | nil =>
    refine ⟨lexer.get, ?_, reads.byte.2, (List.append_nil _).symm⟩
    have closed : lexer.scanStringTurn = .done .valueString lexer.get := by
      unfold Lexer.scanStringTurn
      rw [reads.byte.1]
      rfl
    rw [Lexer.scanStringLoop, closed]
  | cons character _ inductionHypothesis =>
    rw [List.append_assoc] at reads
    obtain ⟨middle, turn, reads, added⟩ := reads.scanStringTurn character
    obtain ⟨later, loop, reads, buffer⟩ := inductionHypothesis reads
    refine ⟨later, ?_, reads, ?_⟩
    · rw [Lexer.scanStringLoop, turn]
      exact loop
    · rw [buffer, added, List.append_assoc]
      rfl

/-- What is read up to the quotation mark are the characters of a string. -/
theorem Reads.scanStringLoop_cases (reads : Reads total lexer rest) :
    (∃ source scalars after later, lexer.scanStringLoop = (.valueString, later) ∧
      rest = source ++ quote :: after ∧ Body source scalars ∧ Reads total later after ∧
      later.tokenBuffer = lexer.tokenBuffer ++ Utf8.encode scalars) ∨
    ∃ later, lexer.scanStringLoop = (.parseError, later) ∧ Within total later := by
  induction size : lexer.unread using Nat.strong_induction_on generalizing lexer rest with
  | _ length inductionHypothesis =>
    have turns := reads.scanStringTurn_turns
    rw [Lexer.scanStringLoop]
    generalize turn : lexer.scanStringTurn = outcome at turns
    cases turns with
    | failed within => exact .inr ⟨_, rfl, within⟩
    | closed split reads same =>
      exact .inl ⟨[], [], _, _, rfl, split, .nil, reads, same.trans (List.append_nil _).symm⟩
    | more character split ahead added =>
      have shrinks := scanStringTurn_shrinks turn
      rw [size] at shrinks
      obtain ⟨source, scalars, after, later, loop, rfl, body, reads, buffer⟩ |
        ⟨later, loop, within⟩ := inductionHypothesis _ shrinks ahead rfl
      · refine .inl ⟨_, _, after, later, loop, ?_, .cons character body, reads, ?_⟩
        · rw [split, List.append_assoc]
        · rw [buffer, added, List.append_assoc]
          rfl
      · exact .inr ⟨later, loop, within⟩

end Nlohmann.Lexer
