/-
This file says which tokens the lexer of the JSON library finds in a text.

White space is skipped before each token. A token is a structural character or the text
of a value that is not a structure, and carries that value; the null byte is one with
the end of the text. What is found is always there, and what is there is found. An
error is reported within the text or at the byte behind it.
-/

import BoosterSdk.JsonNumerals

namespace Nlohmann.Lexer

open DecimalText
open IntegerText (minus)
open JsonGrammar (Body Numeral Space byteOrderMark quote quoted)

variable {F : NumberFormat} {total : Nat} {lexer : Lexer F} {rest : List UInt8}
  {floats : FloatText F.Double}

/-! ### White space -/

theorem isWhitespace_iff (byte : UInt8) : isWhitespace byte = true ↔
    byte = 0x20 ∨ byte = 0x09 ∨ byte = 0x0A ∨ byte = 0x0D := by
  obtain ⟨⟨value⟩⟩ := byte
  revert value
  decide +kernel

theorem skipWhitespace_space {byte : UInt8} (got : lexer.get.current = some byte)
    (space : isWhitespace byte = true) : lexer.skipWhitespace = lexer.get.skipWhitespace := by
  rw [skipWhitespace, got]
  exact if_pos space

theorem skipWhitespace_other (other : ∀ byte ∈ lexer.get.current, isWhitespace byte = false) :
    lexer.skipWhitespace = lexer.get := by
  rw [skipWhitespace]
  split
  · rename_i byte got
    rw [if_neg (by rw [other byte got]; exact Bool.false_ne_true)]
  · rfl

/-- White space is skipped up to the first byte that is not. -/
theorem Reads.skipWhitespace {space : List UInt8} (blank : Space space)
    (other : ∀ byte ∈ rest.head?, isWhitespace byte = false)
    (reads : Reads total lexer (space ++ rest)) :
    Got total lexer.skipWhitespace rest.head? rest.tail := by
  induction space generalizing lexer with
  | nil =>
    rw [skipWhitespace_other (get_current_of_head reads other)]
    exact reads.get
  | cons byte space inductionHypothesis =>
    obtain ⟨got, ahead⟩ := reads.byte
    rw [skipWhitespace_space got ((isWhitespace_iff byte).mpr (blank byte List.mem_cons_self))]
    exact inductionHypothesis (fun other member => blank other (List.mem_cons_of_mem _ member))
      ahead

theorem exists_space (rest : List UInt8) : ∃ space after, rest = space ++ after ∧ Space space ∧
    ∀ byte ∈ after.head?, isWhitespace byte = false := by
  induction rest with
  | nil => exact ⟨[], [], rfl, JsonGrammar.space_nil, by rintro _ ⟨⟩⟩
  | cons byte rest inductionHypothesis =>
    cases known : isWhitespace byte with
    | false =>
      refine ⟨[], byte :: rest, rfl, JsonGrammar.space_nil, ?_⟩
      rintro _ ⟨⟩
      exact known
    | true =>
      obtain ⟨space, after, rfl, blank, other⟩ := inductionHypothesis
      refine ⟨byte :: space, after, rfl, fun each member => ?_, other⟩
      obtain rfl | member := List.mem_cons.mp member
      · exact (isWhitespace_iff each).mp known
      · exact blank each member

/-! ### Literals -/

/-- The bytes of a literal are read to its end. -/
theorem Reads.scanLiteral {bytes : List UInt8} (type : TokenType)
    (reads : Reads total lexer (bytes ++ rest)) :
    ∃ later, lexer.scanLiteral type bytes = (type, later) ∧ Reads total later rest := by
  induction bytes generalizing lexer with
  | nil => exact ⟨lexer, rfl, reads⟩
  | cons byte bytes inductionHypothesis =>
    obtain ⟨got, ahead⟩ := reads.byte
    obtain ⟨later, run, reads⟩ := inductionHypothesis ahead
    refine ⟨later, ?_, reads⟩
    rw [Lexer.scanLiteral, if_pos got, run]

theorem Reads.scanLiteral_cases (type : TokenType) (bytes : List UInt8)
    (reads : Reads total lexer rest) :
    (∃ after later, lexer.scanLiteral type bytes = (type, later) ∧ rest = bytes ++ after ∧
      Reads total later after) ∨
    ∃ later, lexer.scanLiteral type bytes = (.parseError, later) ∧ Within total later := by
  induction bytes generalizing lexer rest with
  | nil => exact .inl ⟨rest, lexer, rfl, rfl, reads⟩
  | cons byte bytes inductionHypothesis =>
    rw [Lexer.scanLiteral]
    split
    · rename_i same
      refine reads.cases (fun atEnd _ => ?_) fun other after got split later => ?_
      · rw [atEnd] at same
        cases same
      · rw [got] at same
        cases same
        obtain ⟨beyond, final, run, rfl, ahead⟩ | failed := inductionHypothesis later
        · exact .inl ⟨beyond, final, run, split, ahead⟩
        · exact .inr failed
    · exact .inr ⟨_, rfl, reads.get_within⟩

/-! ### Tokens -/

/-- The texts of the values that are not structures. -/
inductive Scalar (floats : FloatText F.Double) : Json F → List UInt8 → Prop where
  | null : Scalar floats .null (Text.ofLiteral "null").bytes
  | literalTrue : Scalar floats (.boolean true) (Text.ofLiteral "true").bytes
  | literalFalse : Scalar floats (.boolean false) (Text.ofLiteral "false").bytes
  | number {numeral : Numeral} (valid : numeral.Valid) :
      Scalar floats (numeral.value floats) numeral.text
  | string {source : List UInt8} {scalars : List Char} (body : Body source scalars) :
      Scalar floats (.string ⟨Utf8.encode scalars⟩) (quoted source)

/-- Where a text ends. -/
def Over (rest : List UInt8) : Prop := rest = [] ∨ ∃ beyond, rest = 0 :: beyond

/-- What is found at the beginning of the bytes that are left. -/
inductive Scanned (total : Nat) (floats : FloatText F.Double) (rest : List UInt8) :
    TokenType → Lexer F → Prop where
  | structural {space after : List UInt8} {byte : UInt8} {type : TokenType} {later : Lexer F}
      (blank : Space space) (row : structural byte = some type)
      (split : rest = space ++ byte :: after) (reads : Reads total later after) :
      Scanned total floats rest type later
  | scalar {space text after : List UInt8} {json : Json F} {type : TokenType} {later : Lexer F}
      (blank : Space space) (scalar : Scalar floats json text)
      (split : rest = space ++ (text ++ after)) (carries : Carries later type json)
      (reads : Reads total later after) : Scanned total floats rest type later
  | finished {space after : List UInt8} {later : Lexer F} (blank : Space space)
      (split : rest = space ++ after) (ended : Over after) (within : Within total later) :
      Scanned total floats rest .endOfInput later
  | failed {later : Lexer F} (within : Within total later) :
      Scanned total floats rest .parseError later

theorem structural_none (byte : UInt8) :
    byte = quote ∨ byte = minus ∨ isDigit byte = true ∨ byte = 0 →
      structural byte = none ∧ literal byte = none := by
  obtain ⟨⟨value⟩⟩ := byte
  revert value
  decide +kernel

theorem literal_structural (byte : UInt8) :
    (literal byte).isSome = true → structural byte = none := by
  obtain ⟨⟨value⟩⟩ := byte
  revert value
  decide +kernel

theorem text_true : (Text.ofLiteral "true").bytes =
    't'.toUInt8 :: (Text.ofLiteral "rue").bytes := by decide +kernel

theorem text_false : (Text.ofLiteral "false").bytes =
    'f'.toUInt8 :: (Text.ofLiteral "alse").bytes := by decide +kernel

theorem text_null : (Text.ofLiteral "null").bytes =
    'n'.toUInt8 :: (Text.ofLiteral "ull").bytes := by decide +kernel

/-- The literals carry their values. -/
theorem literal_row {byte : UInt8} {type : TokenType} {bytes : List UInt8}
    (row : literal byte = some (type, bytes)) :
    ∃ json, Scalar floats json (byte :: bytes) ∧ ∀ later : Lexer F, Carries later type json := by
  unfold literal at row
  split at row
  · rename_i same
    cases row
    exact ⟨_, same ▸ text_true ▸ .literalTrue, fun _ => .literalTrue⟩
  split at row
  · rename_i same
    cases row
    exact ⟨_, same ▸ text_false ▸ .literalFalse, fun _ => .literalFalse⟩
  split at row
  · rename_i same
    cases row
    exact ⟨_, same ▸ text_null ▸ .null, fun _ => .literalNull⟩
  · cases row

section Tokens

variable {byte : UInt8}

theorem scanToken_structural {type : TokenType} (row : structural byte = some type)
    (got : lexer.current = some byte) : scanToken floats lexer = (type, lexer) := by
  unfold scanToken
  rw [got]
  dsimp only
  rw [row]

theorem scanToken_literal {type : TokenType} {bytes : List UInt8}
    (row : literal byte = some (type, bytes)) (got : lexer.current = some byte) :
    scanToken floats lexer = lexer.scanLiteral type bytes := by
  unfold scanToken
  rw [got]
  dsimp only
  rw [literal_structural byte (by rw [row]; rfl), row]

theorem scanToken_string (got : lexer.current = some quote) :
    scanToken floats lexer = lexer.scanString := by
  unfold scanToken
  rw [got]
  dsimp only
  rw [(structural_none quote (.inl rfl)).1, (structural_none quote (.inl rfl)).2]
  exact if_pos rfl

theorem scanToken_number (begins : byte = minus ∨ isDigit byte = true)
    (got : lexer.current = some byte) :
    scanToken floats lexer = scanNumber floats byte lexer := by
  have table : structural byte = none ∧ literal byte = none :=
    structural_none byte (begins.elim (.inr ∘ .inl) (.inr ∘ .inr ∘ .inl))
  have other : byte ≠ quote := by
    rintro rfl
    obtain sign | digit := begins
    · exact absurd sign (by decide)
    · exact absurd digit (by decide)
  unfold scanToken
  rw [got]
  dsimp only
  rw [table.1, table.2]
  dsimp only
  rw [if_neg other, if_pos begins]

theorem scanToken_over (ended : Over rest) (got : lexer.current = rest.head?) :
    scanToken floats lexer = (.endOfInput, lexer) := by
  obtain rfl | ⟨beyond, rfl⟩ := ended
  · unfold scanToken
    rw [got]
    rfl
  · unfold scanToken
    rw [got]
    dsimp only [List.head?_cons]
    rw [(structural_none 0 (.inr (.inr (.inr rfl)))).1,
      (structural_none 0 (.inr (.inr (.inr rfl)))).2]
    rfl

end Tokens

/-- A number begins with a sign or a digit. -/
theorem begins_of_text {numeral : Numeral} (valid : numeral.Valid) {byte : UInt8}
    {bytes : List UInt8} (text : numeral.text = byte :: bytes) :
    byte = minus ∨ isDigit byte = true := by
  unfold Numeral.text Numeral.signText at text
  split at text
  · cases text
    exact .inl rfl
  · cases whole : numeral.whole with
    | nil => exact absurd whole (whole_ne_nil valid)
    | cons first others =>
      rw [whole] at text
      cases text
      exact .inr (isDigit_digitByte (valid.small first (whole ▸ List.mem_cons_self)))

theorem text_ne_nil {numeral : Numeral} (valid : numeral.Valid) : numeral.text ≠ [] := by
  intro empty
  have whole := (List.append_eq_nil_iff.mp (List.append_eq_nil_iff.mp empty).2).1
  exact whole_ne_nil valid (List.map_eq_nil_iff.mp whole)

/-- What is left after a scalar value is read, and the value it carries. -/
theorem Got.scanToken_scalar {json : Json F} {byte : UInt8} {bytes : List UInt8}
    (scalar : Scalar floats json (byte :: bytes)) (stops : Stops rest)
    (got : Got total lexer (some byte) (bytes ++ rest)) :
    ∃ type later, scanToken floats lexer = (type, later) ∧ Carries later type json ∧
      Reads total later rest := by
  generalize same : byte :: bytes = text at scalar
  cases scalar with
  | null =>
    rw [text_null] at same
    cases same
    obtain ⟨later, run, reads⟩ := got.reads.scanLiteral .literalNull
    exact ⟨_, later, (scanToken_literal rfl got.current).trans run, .literalNull, reads⟩
  | literalTrue =>
    rw [text_true] at same
    cases same
    obtain ⟨later, run, reads⟩ := got.reads.scanLiteral .literalTrue
    exact ⟨_, later, (scanToken_literal rfl got.current).trans run, .literalTrue, reads⟩
  | literalFalse =>
    rw [text_false] at same
    cases same
    obtain ⟨later, run, reads⟩ := got.reads.scanLiteral .literalFalse
    exact ⟨_, later, (scanToken_literal rfl got.current).trans run, .literalFalse, reads⟩
  | number valid =>
    rw [scanToken_number (begins_of_text valid same.symm) got.current]
    exact (reaches_scanNumber valid stops same.symm got).carries valid
  | @string source scalars body =>
    cases same
    have reads : Reads total lexer.reset (source ++ quote :: rest) := by
      have ahead : Reads total lexer (source ++ [quote] ++ rest) := got.reads
      rw [List.append_assoc] at ahead
      exact ⟨ahead.bytes, ahead.ended, ahead.position⟩
    obtain ⟨later, run, ahead, buffer⟩ := reads.scanStringLoop body
    refine ⟨_, later, (scanToken_string got.current).trans run, ?_, ahead⟩
    have held : later.tokenBuffer = Utf8.encode scalars := buffer
    rw [← held]
    exact .valueString

/-- What a byte that is not white space is found to begin. -/
theorem Got.scanToken_scanned {space : List UInt8} (blank : Space space)
    (got : Got total lexer rest.head? rest.tail) :
    Scanned total floats (space ++ rest) (scanToken floats lexer).1
      (scanToken floats lexer).2 := by
  cases rest with
  | nil =>
    rw [scanToken_over (.inl rfl) got.current]
    exact .finished blank rfl (.inl rfl) got.within
  | cons byte rest =>
    have reads : Reads total lexer rest := got.reads
    have current : lexer.current = some byte := got.current
    cases row : structural byte with
    | some type =>
      rw [scanToken_structural row current]
      exact .structural blank row rfl reads
    | none =>
      cases word : literal byte with
      | some entry =>
        obtain ⟨type, bytes⟩ := entry
        have found : ∃ json, Scalar floats json (byte :: bytes) ∧
            ∀ later : Lexer F, Carries later type json := literal_row word
        obtain ⟨json, scalar, carries⟩ := found
        rw [scanToken_literal word current]
        obtain ⟨after, later, run, rfl, ahead⟩ | ⟨later, run, within⟩ :=
          reads.scanLiteral_cases type bytes
        · rw [run]
          exact .scalar blank scalar rfl (carries later) ahead
        · rw [run]
          exact .failed within
      | none =>
        by_cases quotes : byte = quote
        · subst quotes
          rw [scanToken_string current]
          unfold scanString
          have reset : Reads total lexer.reset rest := ⟨reads.bytes, reads.ended, reads.position⟩
          obtain ⟨source, scalars, after, later, run, rfl, body, ahead, buffer⟩ |
            ⟨later, run, within⟩ := reset.scanStringLoop_cases
          · rw [run]
            have held : later.tokenBuffer = Utf8.encode scalars := buffer
            refine .scalar blank (.string body) ?_ (held ▸ .valueString) ahead
            unfold quoted
            rw [List.append_assoc]
            rfl
          · rw [run]
            exact .failed within
        by_cases begins : byte = minus ∨ isDigit byte = true
        · rw [scanToken_number begins current]
          have numbered : Numbered total floats (byte :: rest) (scanNumber floats byte lexer) :=
            Got.scanNumber_numbered begins got
          generalize scanNumber floats byte lexer = outcome at numbered
          cases numbered with
          | failed within => exact .failed within
          | reaches numeral after valid split reaches =>
            obtain ⟨type, later, rfl, carries, ahead⟩ := reaches.carries valid
            exact .scalar blank (.number valid) (by rw [split]) carries ahead
        by_cases ends : byte = 0
        · rw [scanToken_over (.inr ⟨rest, by rw [ends]⟩) got.current]
          exact .finished blank rfl (.inr ⟨rest, by rw [ends]⟩) got.within
        · have failed : scanToken floats lexer = lexer.fail "invalid literal" := by
            unfold scanToken
            rw [current]
            dsimp only
            rw [row, word]
            dsimp only
            rw [if_neg quotes, if_neg begins, if_neg ends]
          rw [failed]
          exact .failed ⟨got.begun, got.within.2⟩

/-! ### Scanning -/

/-- `scan`, when the beginning of the text has been read. -/
def scanNext (floats : FloatText F.Double) (lexer : Lexer F) : TokenType × Lexer F :=
  scanToken floats lexer.skipWhitespace

theorem scan_eq_scanNext (begun : 0 < lexer.position.charsReadTotal) :
    lexer.scan floats = scanNext floats lexer := if_neg (Nat.ne_of_gt begun)

/-- What is found by a scan is there. -/
theorem Reads.scanNext_scanned (reads : Reads total lexer rest) :
    Scanned total floats rest (scanNext floats lexer).1 (scanNext floats lexer).2 := by
  obtain ⟨space, after, rfl, blank, other⟩ := exists_space rest
  exact Got.scanToken_scanned blank (reads.skipWhitespace blank other)

theorem structural_visible (byte : UInt8) :
    (structural byte).isSome = true → isWhitespace byte = false := by
  obtain ⟨⟨value⟩⟩ := byte
  revert value
  decide +kernel

theorem visible_of_digit (byte : UInt8) :
    byte = minus ∨ isDigit byte = true → isWhitespace byte = false := by
  obtain ⟨⟨value⟩⟩ := byte
  revert value
  decide +kernel

/-- The text of a scalar value begins with a byte that is not white space. -/
theorem Scalar.begins {json : Json F} {text : List UInt8} (scalar : Scalar floats json text) :
    ∃ byte bytes, text = byte :: bytes ∧ isWhitespace byte = false := by
  cases scalar with
  | null => exact ⟨_, _, text_null, rfl⟩
  | literalTrue => exact ⟨_, _, text_true, rfl⟩
  | literalFalse => exact ⟨_, _, text_false, rfl⟩
  | string => exact ⟨_, _, rfl, rfl⟩
  | @number numeral valid =>
    cases text : numeral.text with
    | nil => exact absurd text (text_ne_nil valid)
    | cons byte bytes => exact ⟨_, _, rfl, visible_of_digit byte (begins_of_text valid text)⟩

/-- A structural character that is there is found. -/
theorem Reads.scanNext_structural {space : List UInt8} {byte : UInt8} {type : TokenType}
    (blank : Space space) (row : structural byte = some type)
    (reads : Reads total lexer (space ++ byte :: rest)) :
    ∃ later, scanNext floats lexer = (type, later) ∧ Reads total later rest := by
  have got : Got total lexer.skipWhitespace (byte :: rest).head? (byte :: rest).tail :=
    reads.skipWhitespace blank fun _ same => by
      cases same
      exact structural_visible byte (by rw [row]; rfl)
  exact ⟨_, scanToken_structural row got.current, got.reads⟩

/-- A scalar value that is there is found. -/
theorem Reads.scanNext_scalar {space text : List UInt8} {json : Json F} (blank : Space space)
    (scalar : Scalar floats json text) (stops : Stops rest)
    (reads : Reads total lexer (space ++ (text ++ rest))) :
    ∃ type later, scanNext floats lexer = (type, later) ∧ Carries later type json ∧
      Reads total later rest := by
  obtain ⟨byte, bytes, rfl, visible⟩ := scalar.begins
  have got : Got total lexer.skipWhitespace (byte :: (bytes ++ rest)).head?
      (byte :: (bytes ++ rest)).tail :=
    reads.skipWhitespace blank fun _ same => by
      cases same
      exact visible
  exact Got.scanToken_scalar scalar stops got

theorem Over.visible (ended : Over rest) : ∀ byte ∈ rest.head?, isWhitespace byte = false := by
  obtain rfl | ⟨beyond, rfl⟩ := ended
  · rintro _ ⟨⟩
  · rintro _ ⟨⟩
    rfl

theorem Reads.scanNext_over {space : List UInt8} (blank : Space space) (ended : Over rest)
    (reads : Reads total lexer (space ++ rest)) :
    ∃ later, scanNext floats lexer = (.endOfInput, later) :=
  ⟨_, scanToken_over ended (reads.skipWhitespace blank ended.visible).current⟩

/-! ### The first scan -/

/-- A byte order mark is skipped. -/
theorem Reads.scan_mark (fresh : lexer.position.charsReadTotal = 0)
    (reads : Reads total lexer (byteOrderMark ++ rest)) :
    ∃ later, lexer.scan floats = scanNext floats later ∧ Reads total later rest := by
  obtain ⟨first, ahead⟩ := reads.byte
  obtain ⟨second, beyond⟩ := ahead.byte
  obtain ⟨third, last⟩ := beyond.byte
  refine ⟨_, ?_, last⟩
  have skipped : lexer.skipBom = (true, lexer.get.get.get) := by
    unfold skipBom
    dsimp only
    rw [if_pos first, if_pos second, third]
    rfl
  unfold scan
  rw [if_pos fresh, skipped]
  rfl

/-- A text that does not begin like the mark is scanned from its first byte. -/
theorem Reads.scan_unmarked (fresh : lexer.position.charsReadTotal = 0)
    (unmarked : rest.head? ≠ some 0xEF) (reads : Reads total lexer rest) :
    ∃ later, lexer.scan floats = scanNext floats later ∧ Reads total later rest := by
  have got := reads.get
  have taken := got.unget
  rw [head?_append_tail] at taken
  refine ⟨_, ?_, taken⟩
  have skipped : lexer.skipBom = (true, lexer.get.unget) := by
    unfold skipBom
    exact if_neg (by rw [got.current]; exact unmarked)
  unfold scan
  rw [if_pos fresh, skipped]
  rfl

/-- The first scan skips a mark or nothing, or fails at the beginning. -/
theorem Reads.scan_cases (floats : FloatText F.Double) (fresh : lexer.position.charsReadTotal = 0)
    (reads : Reads total lexer rest) :
    (∃ mark after later, rest = mark ++ after ∧ (mark = [] ∨ mark = byteOrderMark) ∧
      lexer.scan floats = scanNext floats later ∧ Reads total later after) ∨
    ∃ later, lexer.scan floats = (.parseError, later) ∧ Within total later := by
  by_cases marked : rest = byteOrderMark ++ rest.drop 3
  · rw [marked] at reads
    have scanned : ∃ later, lexer.scan floats = scanNext floats later ∧
        Reads total later (rest.drop 3) := reads.scan_mark fresh
    obtain ⟨later, run, ahead⟩ := scanned
    exact .inl ⟨_, _, later, marked, .inr rfl, run, ahead⟩
  by_cases unmarked : rest.head? = some 0xEF
  · have failed : ∃ later, lexer.skipBom = (false, later) ∧ Within total later := by
      have first := reads.get.current.trans unmarked
      unfold skipBom
      dsimp only
      rw [if_pos first]
      refine reads.cases (fun atEnd _ => ?_) fun byte after got split ahead => ?_
      · rw [atEnd] at first
        cases first
      split
      · rename_i second
        refine ahead.cases (fun atEnd _ => ?_) fun other beyond gotSecond splitAgain last => ?_
        · rw [atEnd] at second
          cases second
        refine ⟨_, Prod.ext ?_ rfl, last.get_within⟩
        dsimp only
        rw [beq_eq_false_iff_ne]
        intro third
        rw [got] at first
        rw [gotSecond] at second
        cases first
        cases second
        rw [last.get.current] at third
        obtain ⟨third, tail⟩ : ∃ third, beyond = 0xBF :: third := by
          cases beyond with
          | nil => cases third
          | cons byte rest =>
            cases third
            exact ⟨rest, rfl⟩
        exact marked (by rw [split, splitAgain, tail]; rfl)
      · exact ⟨_, rfl, ahead.get_within⟩
    obtain ⟨later, skipped, within⟩ := failed
    refine .inr ⟨(later.fail "invalid BOM; must be 0xEF 0xBB 0xBF if given").2, ?_, within⟩
    unfold scan
    rw [if_pos fresh, skipped]
    rfl
  · have scanned : ∃ later, lexer.scan floats = scanNext floats later ∧
        Reads total later rest := reads.scan_unmarked fresh unmarked
    obtain ⟨later, run, ahead⟩ := scanned
    exact .inl ⟨[], rest, later, rfl, .inl rfl, run, ahead⟩

end Nlohmann.Lexer
