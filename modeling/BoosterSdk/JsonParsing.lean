/-
This file proves that the parser of the JSON library accepts the documents of the
grammar and nothing else.

The loop keeps its own stack, but what is below the structure it is in does not change
until that structure is closed. So a value that is there is read and handed to the
builder, whatever the stack is, and where no value is there the parser fails: with a
position in the text or right behind it, or because of a number that is too large.
-/

import BoosterSdk.JsonParser
import BoosterSdk.JsonTokens

namespace Nlohmann

open DecimalText (FloatText)

variable {F : NumberFormat}

namespace DomParser

/-- The builder when a structure has been opened. -/
def pushed (container : Container F) (sax : DomParser F) : DomParser F :=
  { sax with refStack := container :: sax.refStack }

theorem key_pushed (sax : DomParser F) (fields : List (String × Json F)) (old : String)
    (val : List UInt8) : (sax.pushed (.object fields old)).key val =
      sax.pushed (.object fields (Text.toKey ⟨val⟩)) := rfl

end DomParser

/-- Whether a structure is an array, as `states` says. -/
def Container.isArray : Container F → Bool
  | .array _ => true
  | .object _ _ => false

namespace Parser

open JsonGrammar
open Lexer (Carries Over Reads Scalar Scanned Stops Within scanNext)

variable {total : Nat} {floats : FloatText F.Double} {rest : List UInt8}

/-! ### Tokens -/

/-- `getToken`, when the beginning of the text has been read. -/
def nextToken (floats : FloatText F.Double) (self : Parser F) : Parser F :=
  { self with
    lastToken := (scanNext floats self.lexer).1
    lexer := (scanNext floats self.lexer).2 }

theorem getToken_eq_nextToken {self : Parser F} (reads : Reads total self.lexer rest)
    (begun : rest.length < total) : self.getToken floats = self.nextToken floats := by
  have position := (reads.within begun).1
  unfold getToken nextToken
  rw [Lexer.scan_eq_scanNext position]

/-- The parser when a token has been got. -/
def seen (token : TokenType) (lexer : Lexer F) (self : Parser F) : Parser F :=
  { self with lastToken := token, lexer := lexer }

theorem seen_seen (self : Parser F) (token other : TokenType) (lexer later : Lexer F) :
    (self.seen token lexer).seen other later = self.seen other later := rfl

theorem nextToken_of {self : Parser F} {token : TokenType} {lexer : Lexer F}
    (scanned : scanNext floats self.lexer = (token, lexer)) :
    self.nextToken floats = self.seen token lexer := by
  unfold nextToken
  rw [scanned]
  rfl

theorem structural_closeBracket : Lexer.structural closeBracket = some .endArray := by decide

theorem structural_closeBrace : Lexer.structural closeBrace = some .endObject := by decide

theorem structural_comma : Lexer.structural comma = some .valueSeparator := by decide

theorem structural_colon : Lexer.structural colon = some .nameSeparator := by decide

/-- White space and structural characters end a number. -/
theorem stops_byte (byte : UInt8) :
    Lexer.isWhitespace byte = true ∨ (Lexer.structural byte).isSome = true ∨ byte = 0 →
      Lexer.isDigit byte = false ∧ byte ≠ DecimalText.point ∧
        DecimalText.isExponentMark byte = false := by
  obtain ⟨⟨value⟩⟩ := byte
  revert value
  decide +kernel

theorem stops_space {space : List UInt8} (blank : Space space)
    (closes : ∀ byte ∈ rest.head?, (Lexer.structural byte).isSome = true ∨ byte = 0) :
    Stops (space ++ rest) := by
  cases space with
  | nil => exact fun byte first => stops_byte byte (.inr (closes byte first))
  | cons byte space =>
    rintro _ ⟨⟩
    exact stops_byte byte (.inl ((Lexer.isWhitespace_iff byte).mpr (blank byte List.mem_cons_self)))

theorem stops_structural {space : List UInt8} {byte : UInt8} {type : TokenType}
    (blank : Space space) (row : Lexer.structural byte = some type) :
    Stops (space ++ byte :: rest) :=
  stops_space blank fun _ same => by
    cases same
    exact .inl (by rw [row]; rfl)

theorem stops_over {space : List UInt8} (blank : Space space) (ended : Over rest) :
    Stops (space ++ rest) :=
  stops_space blank fun byte first => by
    obtain rfl | ⟨beyond, rfl⟩ := ended
    · cases first
    · cases first
      exact .inr rfl

/-! ### Turns -/

/-- What the rest of the loop makes of a turn. -/
def conclude (floats : FloatText F.Double) : Turn F → Except ParseError (Parser F)
  | .proceed later => later.saxParseInternal floats
  | .finished later => .ok later
  | .failed error => .error error

theorem saxParseInternal_eq (self : Parser F) :
    self.saxParseInternal floats = conclude floats (self.turn floats) := by
  rw [saxParseInternal]
  split <;> (rename_i outcome; rw [outcome]; rfl)

/-- A value that is one token is handed to the builder. -/
theorem turn_scalar {self : Parser F} {json : Json F} (looks : self.skipToStateEvaluation = false)
    (carries : Carries self.lexer self.lastToken json) (fits : ¬ Overflows floats json) :
    self.turn floats = (self.report (self.sax.handleValue json)).evaluateState floats := by
  unfold turn
  rw [if_neg (by rw [looks]; exact Bool.false_ne_true)]
  generalize self.lastToken = token at carries
  cases carries with
  | valueFloat =>
    have finite : floats.isFinite self.lexer.valueFloat = true :=
      (Bool.eq_false_or_eq_true _).resolve_right fun infinite => fits ⟨_, rfl, infinite⟩
    exact if_pos finite
  | _ => rfl

theorem turn_overflow {self : Parser F} {json : Json F}
    (looks : self.skipToStateEvaluation = false)
    (carries : Carries self.lexer self.lastToken json) (overflows : Overflows floats json) :
    ∃ what, self.turn floats = .failed (outOfRange 406 what) := by
  obtain ⟨number, rfl, infinite⟩ := overflows
  unfold turn
  rw [if_neg (by rw [looks]; exact Bool.false_ne_true)]
  generalize self.lastToken = token at carries
  cases carries with
  | valueFloat => exact ⟨_, if_neg (by rw [infinite]; exact Bool.false_ne_true)⟩

theorem turn_beginArray {self later : Parser F} (looks : self.skipToStateEvaluation = false)
    (token : self.lastToken = .beginArray)
    (got : (self.report self.sax.startArray).getToken floats = later) :
    self.turn floats =
      if later.lastToken = .endArray then
        (later.report later.sax.endContainer).evaluateState floats
      else .proceed (later.enter true) := by
  unfold turn
  rw [if_neg (by rw [looks]; exact Bool.false_ne_true), token, ← got]

theorem turn_beginObject {self later : Parser F} (looks : self.skipToStateEvaluation = false)
    (token : self.lastToken = .beginObject)
    (got : (self.report self.sax.startObject).getToken floats = later) :
    self.turn floats =
      if later.lastToken = .endObject then
        (later.report later.sax.endContainer).evaluateState floats
      else later.parseMember floats (enter false) := by
  unfold turn
  rw [if_neg (by rw [looks]; exact Bool.false_ne_true), token, ← got]

/-- The parser in a structure that it has opened. -/
def inside (container : Container F) (self : Parser F) : Parser F :=
  { self with
    states := container.isArray :: self.states
    sax := self.sax.pushed container }

theorem sax_array {self : Parser F} {lexer : Lexer F} (reads : Reads total lexer rest)
    (begun : rest.length < total) (looks : self.skipToStateEvaluation = false) :
    (self.seen .beginArray lexer).saxParseInternal floats =
      if (scanNext floats lexer).1 = .endArray then
        conclude floats (((self.report (self.sax.handleValue (.array []))).seen .endArray
          (scanNext floats lexer).2).evaluateState floats)
      else (((self.seen .beginArray lexer).inside (.array [])).nextToken
        floats).saxParseInternal floats := by
  have opened : Reads total (((self.seen .beginArray lexer).report
    (self.sax.pushed (.array []))).lexer) rest := reads
  have run : (self.seen .beginArray lexer).turn floats = _ :=
    turn_beginArray looks rfl (getToken_eq_nextToken opened begun)
  rw [saxParseInternal_eq, run]
  show conclude floats (if (scanNext floats lexer).1 = .endArray then _ else _) = _
  by_cases closes : (scanNext floats lexer).1 = .endArray
  · rw [if_pos closes, if_pos closes, ← closes]
    rfl
  · rw [if_neg closes, if_neg closes]
    rfl

theorem sax_object {self : Parser F} {lexer : Lexer F} (reads : Reads total lexer rest)
    (begun : rest.length < total) (looks : self.skipToStateEvaluation = false) :
    (self.seen .beginObject lexer).saxParseInternal floats =
      if (scanNext floats lexer).1 = .endObject then
        conclude floats (((self.report (self.sax.handleValue (.object []))).seen .endObject
          (scanNext floats lexer).2).evaluateState floats)
      else conclude floats ((((self.seen .beginObject lexer).report
        (self.sax.pushed (.object [] ""))).nextToken floats).parseMember floats (enter false)) := by
  have opened : Reads total (((self.seen .beginObject lexer).report
    (self.sax.pushed (.object [] ""))).lexer) rest := reads
  have run : (self.seen .beginObject lexer).turn floats = _ :=
    turn_beginObject looks rfl (getToken_eq_nextToken opened begun)
  rw [saxParseInternal_eq, run]
  show conclude floats (if (scanNext floats lexer).1 = .endObject then _ else _) = _
  by_cases closes : (scanNext floats lexer).1 = .endObject
  · rw [if_pos closes, if_pos closes, ← closes]
    rfl
  · rw [if_neg closes, if_neg closes]
    rfl

/-- A run is at the end of the loop, with a text that is left. -/
def Arrives (floats : FloatText F.Double) (total : Nat) (self : Parser F) (rest : List UInt8)
    (outcome : Except ParseError (Parser F)) : Prop :=
  ∃ lexer token, Reads total lexer rest ∧ rest.length < total ∧
    outcome = conclude floats ((self.seen token lexer).evaluateState floats)

theorem evaluateState_array {self : Parser F} {states : List Bool} {token : TokenType}
    {later : Lexer F} (inArray : self.states = true :: states)
    (reads : Reads total self.lexer rest) (begun : rest.length < total)
    (scanned : scanNext floats self.lexer = (token, later)) :
    self.evaluateState floats =
      if token = .valueSeparator then .proceed ((self.seen token later).getToken floats)
      else if token = .endArray then (self.seen token later).closeContainer
      else .failed ((self.seen token later).unexpected .endArray "array") := by
  unfold evaluateState
  rw [inArray, getToken_eq_nextToken reads begun, nextToken_of scanned]
  rfl

theorem evaluateState_object {self : Parser F} {states : List Bool} {token : TokenType}
    {later : Lexer F} (inObject : self.states = false :: states)
    (reads : Reads total self.lexer rest) (begun : rest.length < total)
    (scanned : scanNext floats self.lexer = (token, later)) :
    self.evaluateState floats =
      if token = .valueSeparator then
        ((self.seen token later).getToken floats).parseMember floats id
      else if token = .endObject then (self.seen token later).closeContainer
      else .failed ((self.seen token later).unexpected .endObject "object") := by
  unfold evaluateState
  rw [inObject, getToken_eq_nextToken reads begun, nextToken_of scanned]
  rfl

/-- The token that closes a structure. -/
def closing (container : Container F) : TokenType :=
  if container.isArray then .endArray else .endObject

/-- A structure that is closed is handed to the builder as a value. -/
theorem conclude_closeContainer {self : Parser F} (container : Container F)
    (looks : self.skipToStateEvaluation = false) (lexer : Lexer F) (token : TokenType) :
    conclude floats ((self.inside container).seen token lexer).closeContainer =
      conclude floats (((self.report (self.sax.handleValue container.close)).seen token
        lexer).evaluateState floats) := by
  obtain ⟨old, last, states, skip, sax⟩ := self
  cases looks
  show saxParseInternal floats _ = _
  rw [saxParseInternal_eq]
  rfl

theorem Arrives.close {self : Parser F} {container : Container F} {space : List UInt8}
    {byte : UInt8} {outcome : Except ParseError (Parser F)} (blank : Space space)
    (row : Lexer.structural byte = some (closing container))
    (looks : self.skipToStateEvaluation = false)
    (arrives : Arrives floats total (self.inside container) (space ++ byte :: rest) outcome) :
    Arrives floats total (self.report (self.sax.handleValue container.close)) rest outcome := by
  obtain ⟨lexer, token, reads, begun, rfl⟩ := arrives
  obtain ⟨later, scanned, ahead⟩ :
    ∃ later, scanNext floats lexer = (closing container, later) ∧ Reads total later rest :=
    reads.scanNext_structural blank row
  have shorter : rest.length < total := by
    rw [List.length_append, List.length_cons] at begun
    omega
  refine ⟨later, closing container, ahead, shorter, ?_⟩
  rw [← conclude_closeContainer container looks]
  cases container with
  | array elements =>
    have reads : Reads total ((self.inside (.array elements)).seen token lexer).lexer
      (space ++ byte :: rest) := reads
    rw [evaluateState_array rfl reads begun scanned]
    rfl
  | object fields key =>
    have reads : Reads total ((self.inside (.object fields key)).seen token lexer).lexer
      (space ++ byte :: rest) := reads
    rw [evaluateState_object rfl reads begun scanned]
    rfl

/-! ### What is there is read -/

theorem Carries_string {lexer : Lexer F} {type : TokenType} {text : Text}
    (carries : Carries lexer type (.string text)) :
    type = .valueString ∧ (⟨lexer.tokenBuffer⟩ : Text) = text := by
  cases carries
  exact ⟨rfl, rfl⟩

/-- A string is read, with its bytes in the buffer. -/
theorem nextToken_string {self : Parser F} {space source : List UInt8} {scalars : List Char}
    (blank : Space space) (body : Body source scalars) (stops : Stops rest)
    (reads : Reads total self.lexer (space ++ (quoted source ++ rest))) :
    (self.nextToken floats).lastToken = .valueString ∧
      (self.nextToken floats).lexer.tokenBuffer = Utf8.encode scalars ∧
      Reads total (self.nextToken floats).lexer rest := by
  obtain ⟨type, later, scanned, carries, ahead⟩ :
    ∃ type later, scanNext floats self.lexer = (type, later) ∧
      Carries later type (.string ⟨Utf8.encode scalars⟩) ∧ Reads total later rest :=
    reads.scanNext_scalar blank (.string body) stops
  obtain ⟨rfl, buffer⟩ := Carries_string carries
  rw [nextToken_of scanned]
  exact ⟨rfl, congrArg Text.bytes buffer, ahead⟩

/-- A key has been read: a colon and a value are expected. -/
theorem parseMember_string {self : Parser F} (next : Parser F → Parser F) {sax : DomParser F}
    {fields : List (String × Json F)} {old : String} {scalars : List Char} {token : TokenType}
    {later : Lexer F} (named : (self.nextToken floats).lastToken = .valueString)
    (opened : self.sax = sax.pushed (.object fields old))
    (buffer : (self.nextToken floats).lexer.tokenBuffer = Utf8.encode scalars)
    (reads : Reads total (self.nextToken floats).lexer rest) (begun : rest.length < total)
    (scanned : scanNext floats (self.nextToken floats).lexer = (token, later)) :
    (self.nextToken floats).parseMember floats next =
      if token = .nameSeparator then
        .proceed ((next ((self.seen token later).report
          (sax.pushed (.object fields (String.ofList scalars))))).getToken floats)
      else .failed (((self.seen token later).report
        (sax.pushed (.object fields (String.ofList scalars)))).unexpected .nameSeparator
          "object separator") := by
  have handed : (self.nextToken floats).sax.key (self.nextToken floats).lexer.tokenBuffer =
      sax.pushed (.object fields (String.ofList scalars)) := by
    rw [buffer]
    show self.sax.key _ = _
    rw [opened, DomParser.key_pushed, Text.toKey_encode]
  have keyed : Reads total ((self.nextToken floats).report
    (sax.pushed (.object fields (String.ofList scalars)))).lexer rest := reads
  have got : ((self.nextToken floats).report
      (sax.pushed (.object fields (String.ofList scalars)))).getToken floats =
      (self.seen token later).report (sax.pushed (.object fields (String.ofList scalars))) := by
    rw [getToken_eq_nextToken keyed begun]
    exact nextToken_of scanned
  unfold parseMember
  rw [if_pos named, handed]
  dsimp only
  rw [got]
  rfl

/-- A key and its colon are read, and the first token of the value. -/
theorem parseMember_key (next : Parser F → Parser F) {self : Parser F} {sax : DomParser F}
    {fields : List (String × Json F)} {old key : String} {keyText : List UInt8}
    (frame : ∀ parser, (next parser).lexer = parser.lexer) (name : KeyText keyText key)
    (opened : self.sax = sax.pushed (.object fields old))
    (reads : Reads total self.lexer (keyText ++ rest)) :
    (self.nextToken floats).lastToken = .valueString ∧
      ∃ lexer, Reads total lexer rest ∧
        (self.nextToken floats).parseMember floats next =
          .proceed ((next ((self.seen .nameSeparator lexer).report
            (sax.pushed (.object fields key)))).nextToken floats) := by
  obtain ⟨before, source, after, spaceBefore, spaceAfter, body, rfl⟩ := name
  have split : before ++ quoted source ++ after ++ [colon] ++ rest =
      before ++ (quoted source ++ (after ++ colon :: rest)) := by
    simp only [List.append_assoc, List.cons_append, List.nil_append]
  rw [split] at reads
  have whole : before.length + (quoted source).length + (after ++ colon :: rest).length ≤
      total := by
    have bound := reads.length_le
    rw [List.length_append, List.length_append] at bound
    omega
  have quotes : 0 < (quoted source).length := Nat.succ_pos _
  obtain ⟨token, buffer, ahead⟩ :
    (self.nextToken floats).lastToken = .valueString ∧
      (self.nextToken floats).lexer.tokenBuffer = Utf8.encode key.toList ∧
      Reads total (self.nextToken floats).lexer (after ++ colon :: rest) :=
    nextToken_string spaceBefore body (stops_structural spaceAfter structural_colon) reads
  obtain ⟨later, scanned, reads⟩ :
    ∃ later, scanNext floats (self.nextToken floats).lexer = (.nameSeparator, later) ∧
      Reads total later rest := ahead.scanNext_structural spaceAfter structural_colon
  refine ⟨token, later, reads, ?_⟩
  have begun : rest.length < total := by
    rw [List.length_append, List.length_cons] at whole
    omega
  have value : Reads total
      (next ((self.seen .nameSeparator later).report (sax.pushed (.object fields key)))).lexer
      rest := by
    rw [frame]
    exact reads
  rw [parseMember_string next token opened buffer ahead (by omega) scanned, if_pos rfl,
    String.ofList_toList, getToken_eq_nextToken value begun]

/-- What the loop does where a phrase is, in a structure or outside of all. -/
def Completes (floats : FloatText F.Double) (total : Nat) (text : List UInt8) : Item F → Prop
  | .value json => ∀ (parser : Parser F) (space rest : List UInt8), Space space → Stops rest →
      parser.skipToStateEvaluation = false →
      Reads total parser.lexer (space ++ (text ++ rest)) →
      (parser.nextToken floats).lastToken ≠ .endArray ∧
        Arrives floats total (parser.report (parser.sax.handleValue json)) rest
          ((parser.nextToken floats).saxParseInternal floats)
  | .elements values => ∀ (parser : Parser F) (rest : List UInt8), Stops rest →
      parser.skipToStateEvaluation = false → Reads total parser.lexer (text ++ rest) →
      (parser.nextToken floats).lastToken ≠ .endArray ∧
        Arrives floats total (parser.inside (.array values)) rest
          (((parser.inside (.array [])).nextToken floats).saxParseInternal floats)
  | .members fields => ∀ (parser : Parser F) (rest : List UInt8), Stops rest →
      parser.skipToStateEvaluation = false → Reads total parser.lexer (text ++ rest) →
      (parser.nextToken floats).lastToken = .valueString ∧
        ∃ key, Arrives floats total (parser.inside (.object fields key)) rest
          (conclude floats (((parser.report (parser.sax.pushed (.object [] ""))).nextToken
            floats).parseMember floats (enter false)))

theorem Carries_ne {lexer : Lexer F} {type : TokenType} {json : Json F}
    (carries : Carries lexer type json) :
    type ≠ .endArray ∧ type ≠ .endObject ∧ type ≠ .valueSeparator ∧ type ≠ .nameSeparator ∧
      type ≠ .endOfInput ∧ type ≠ .beginArray ∧ type ≠ .beginObject := by
  cases carries <;> decide

theorem completes_scalar {json : Json F} {text : List UInt8} (scalar : Scalar floats json text)
    (fits : ¬ Overflows floats json) : Completes floats total text (.value json) := by
  intro parser space rest blank stops looks reads
  obtain ⟨byte, bytes, begins, visible⟩ := scalar.begins
  have whole := reads.length_le
  obtain ⟨type, later, scanned, carries, ahead⟩ := reads.scanNext_scalar blank scalar stops
  rw [nextToken_of scanned]
  refine ⟨(Carries_ne carries).1, later, type, ahead, ?_, ?_⟩
  · rw [begins, List.length_append, List.length_append, List.length_cons] at whole
    omega
  · rw [saxParseInternal_eq]
    exact congrArg (conclude floats) (turn_scalar looks carries fits)

theorem begun_of_structural {lexer : Lexer F} {space : List UInt8} {byte : UInt8}
    (reads : Reads total lexer (space ++ byte :: rest)) : rest.length < total := by
  have whole := reads.length_le
  rw [List.length_append, List.length_cons] at whole
  omega

theorem completes_emptyArray {inner : List UInt8} (blankInner : Space inner) :
    Completes floats total (openBracket :: inner ++ [closeBracket])
      (.value (.array [])) := by
  intro parser space rest blank _ looks reads
  have split : openBracket :: inner ++ [closeBracket] ++ rest =
      openBracket :: (inner ++ closeBracket :: rest) := by
    simp only [List.cons_append, List.append_assoc, List.nil_append]
  rw [split] at reads
  obtain ⟨first, scanned, ahead⟩ :
    ∃ first, scanNext floats parser.lexer = (.beginArray, first) ∧
      Reads total first (inner ++ closeBracket :: rest) :=
    reads.scanNext_structural blank (by decide)
  obtain ⟨second, closes, beyond⟩ :
    ∃ second, scanNext floats first = (.endArray, second) ∧ Reads total second rest :=
    ahead.scanNext_structural blankInner (by decide)
  rw [nextToken_of scanned]
  refine ⟨TokenType.noConfusion, second, .endArray, beyond, begun_of_structural ahead, ?_⟩
  rw [sax_array ahead (begun_of_structural reads) looks, closes, if_pos rfl]

theorem completes_array {values : List (Json F)} {text inner : List UInt8}
    (blankInner : Space inner) (elements : Completes floats total text (.elements values)) :
    Completes floats total (openBracket :: text ++ inner ++ [closeBracket])
      (.value (.array values)) := by
  intro parser space rest blank _ looks reads
  have split : openBracket :: text ++ inner ++ [closeBracket] ++ rest =
      openBracket :: (text ++ (inner ++ closeBracket :: rest)) := by
    simp only [List.cons_append, List.append_assoc, List.nil_append]
  rw [split] at reads
  obtain ⟨first, scanned, ahead⟩ :
    ∃ first, scanNext floats parser.lexer = (.beginArray, first) ∧
      Reads total first (text ++ (inner ++ closeBracket :: rest)) :=
    reads.scanNext_structural blank (by decide)
  obtain ⟨more, arrives⟩ := elements (parser.seen .beginArray first)
    (inner ++ closeBracket :: rest) (stops_structural blankInner structural_closeBracket)
    looks ahead
  have more : (scanNext floats first).1 ≠ .endArray := more
  rw [nextToken_of scanned]
  refine ⟨TokenType.noConfusion, ?_⟩
  rw [sax_array ahead (begun_of_structural reads) looks, if_neg more]
  exact arrives.close blankInner structural_closeBracket looks

theorem completes_emptyObject {inner : List UInt8} (blankInner : Space inner) :
    Completes floats total (openBrace :: inner ++ [closeBrace])
      (.value (.object [])) := by
  intro parser space rest blank _ looks reads
  have split : openBrace :: inner ++ [closeBrace] ++ rest =
      openBrace :: (inner ++ closeBrace :: rest) := by
    simp only [List.cons_append, List.append_assoc, List.nil_append]
  rw [split] at reads
  obtain ⟨first, scanned, ahead⟩ :
    ∃ first, scanNext floats parser.lexer = (.beginObject, first) ∧
      Reads total first (inner ++ closeBrace :: rest) :=
    reads.scanNext_structural blank (by decide)
  obtain ⟨second, closes, beyond⟩ :
    ∃ second, scanNext floats first = (.endObject, second) ∧ Reads total second rest :=
    ahead.scanNext_structural blankInner (by decide)
  rw [nextToken_of scanned]
  refine ⟨TokenType.noConfusion, second, .endObject, beyond, begun_of_structural ahead, ?_⟩
  rw [sax_object ahead (begun_of_structural reads) looks, closes, if_pos rfl]

theorem completes_object {fields : List (String × Json F)} {text inner : List UInt8}
    (blankInner : Space inner) (members : Completes floats total text (.members fields)) :
    Completes floats total (openBrace :: text ++ inner ++ [closeBrace])
      (.value (.object fields)) := by
  intro parser space rest blank _ looks reads
  have split : openBrace :: text ++ inner ++ [closeBrace] ++ rest =
      openBrace :: (text ++ (inner ++ closeBrace :: rest)) := by
    simp only [List.cons_append, List.append_assoc, List.nil_append]
  rw [split] at reads
  obtain ⟨first, scanned, ahead⟩ :
    ∃ first, scanNext floats parser.lexer = (.beginObject, first) ∧
      Reads total first (text ++ (inner ++ closeBrace :: rest)) :=
    reads.scanNext_structural blank (by decide)
  obtain ⟨token, key, arrives⟩ := members (parser.seen .beginObject first)
    (inner ++ closeBrace :: rest) (stops_structural blankInner structural_closeBrace)
    looks ahead
  have more : (scanNext floats first).1 ≠ .endObject := by
    have string : (scanNext floats first).1 = .valueString := token
    rw [string]
    exact TokenType.noConfusion
  rw [nextToken_of scanned]
  refine ⟨TokenType.noConfusion, ?_⟩
  rw [sax_object ahead (begun_of_structural reads) looks, if_neg more]
  exact arrives.close blankInner structural_closeBrace looks

theorem completes_firstElement {json : Json F} {text space : List UInt8} (blank : Space space)
    (value : Completes floats total text (.value json)) :
    Completes floats total (space ++ text) (.elements [json]) := by
  intro parser rest stops looks reads
  rw [List.append_assoc] at reads
  obtain ⟨more, arrives⟩ := value (parser.inside (.array [])) space rest blank stops looks reads
  exact ⟨more, arrives⟩

theorem completes_nextElement {values : List (Json F)} {json : Json F}
    {before gap space text : List UInt8}
    (elements : Completes floats total before (.elements values))
    (blankGap : Space gap) (blank : Space space)
    (value : Completes floats total text (.value json)) :
    Completes floats total (before ++ gap ++ comma :: (space ++ text))
      (.elements (values ++ [json])) := by
  intro parser rest stops looks reads
  have split : before ++ gap ++ comma :: (space ++ text) ++ rest =
      before ++ (gap ++ comma :: (space ++ (text ++ rest))) := by
    simp only [List.cons_append, List.append_assoc]
  rw [split] at reads
  obtain ⟨more, lexer, token, ahead, begun, run⟩ := elements parser _
    (stops_structural blankGap structural_comma) looks reads
  obtain ⟨later, scanned, beyond⟩ :
    ∃ later, scanNext floats lexer = (.valueSeparator, later) ∧
      Reads total later (space ++ (text ++ rest)) :=
    ahead.scanNext_structural blankGap structural_comma
  have arrived : Reads total ((parser.inside (.array values)).seen token lexer).lexer
    (gap ++ comma :: (space ++ (text ++ rest))) := ahead
  have arrives := (value ((parser.inside (.array values)).seen .valueSeparator later) space rest
    blank stops looks beyond).2
  have separator : Reads total ((parser.inside (.array values)).seen .valueSeparator later).lexer
    (space ++ (text ++ rest)) := beyond
  refine ⟨more, ?_⟩
  rw [run, evaluateState_array rfl arrived begun scanned, if_pos rfl, seen_seen,
    getToken_eq_nextToken separator (begun_of_structural ahead)]
  exact arrives

theorem completes_firstMember {key : String} {json : Json F} {keyText space text : List UInt8}
    (name : KeyText keyText key) (blank : Space space)
    (value : Completes floats total text (.value json)) :
    Completes floats total (keyText ++ space ++ text) (.members [(key, json)]) := by
  intro parser rest stops looks reads
  have split : keyText ++ space ++ text ++ rest = keyText ++ (space ++ (text ++ rest)) := by
    simp only [List.append_assoc]
  rw [split] at reads
  have opened : Reads total (parser.report (parser.sax.pushed (.object [] ""))).lexer
    (keyText ++ (space ++ (text ++ rest))) := reads
  obtain ⟨token, lexer, ahead, run⟩ :
    ((parser.report (parser.sax.pushed (.object [] ""))).nextToken floats).lastToken =
        .valueString ∧ ∃ lexer, Reads total lexer (space ++ (text ++ rest)) ∧ _ = _ :=
    parseMember_key (enter false) (fun _ => rfl) name rfl opened
  refine ⟨token, key, ?_⟩
  rw [run]
  exact (value (((parser.seen .nameSeparator lexer).inside (.object [] key))) space rest blank stops
    looks ahead).2

theorem completes_nextMember {fields : List (String × Json F)} {key : String} {json : Json F}
    {before gap keyText space text : List UInt8}
    (members : Completes floats total before (.members fields)) (blankGap : Space gap)
    (name : KeyText keyText key) (blank : Space space)
    (value : Completes floats total text (.value json)) :
    Completes floats total (before ++ gap ++ comma :: (keyText ++ space ++ text))
      (.members (Json.insertField key json fields)) := by
  intro parser rest stops looks reads
  have split : before ++ gap ++ comma :: (keyText ++ space ++ text) ++ rest =
      before ++ (gap ++ comma :: (keyText ++ (space ++ (text ++ rest)))) := by
    simp only [List.cons_append, List.append_assoc]
  rw [split] at reads
  obtain ⟨string, old, lexer, token, ahead, begun, run⟩ := members parser _
    (stops_structural blankGap structural_comma) looks reads
  obtain ⟨later, scanned, beyond⟩ :
    ∃ later, scanNext floats lexer = (.valueSeparator, later) ∧
      Reads total later (keyText ++ (space ++ (text ++ rest))) :=
    ahead.scanNext_structural blankGap structural_comma
  have arrived : Reads total ((parser.inside (.object fields old)).seen token lexer).lexer
    (gap ++ comma :: (keyText ++ (space ++ (text ++ rest)))) := ahead
  have separator : Reads total
    ((parser.inside (.object fields old)).seen .valueSeparator later).lexer
    (keyText ++ (space ++ (text ++ rest))) := beyond
  obtain ⟨_, last, reads, member⟩ :
    (((parser.inside (.object fields old)).seen .valueSeparator later).nextToken
      floats).lastToken = .valueString ∧
        ∃ lexer, Reads total lexer (space ++ (text ++ rest)) ∧ _ = _ :=
    parseMember_key id (fun _ => rfl) name rfl separator
  refine ⟨string, key, ?_⟩
  rw [run, evaluateState_object rfl arrived begun scanned, if_pos rfl, seen_seen,
    getToken_eq_nextToken separator (begun_of_structural ahead), member]
  exact (value ((parser.inside (.object fields key)).seen .nameSeparator last) space rest blank
    stops looks reads).2

/-- A phrase that is there is read. -/
theorem completes {item : Item F} {text : List UInt8} (phrase : Phrase floats item text) :
    Completes floats total text item := by
  induction phrase with
  | null => exact completes_scalar .null (by rintro ⟨_, ⟨⟩, _⟩)
  | literalTrue => exact completes_scalar .literalTrue (by rintro ⟨_, ⟨⟩, _⟩)
  | literalFalse => exact completes_scalar .literalFalse (by rintro ⟨_, ⟨⟩, _⟩)
  | number valid fits => exact completes_scalar (.number valid) fits
  | string body => exact completes_scalar (.string body) (by rintro ⟨_, ⟨⟩, _⟩)
  | emptyArray blank => exact completes_emptyArray blank
  | array _ blank elements => exact completes_array blank elements
  | emptyObject blank => exact completes_emptyObject blank
  | object _ blank members => exact completes_object blank members
  | firstElement blank _ value => exact completes_firstElement blank value
  | nextElement _ blankGap blank _ elements value =>
    exact completes_nextElement elements blankGap blank value
  | firstMember name blank _ value =>
    obtain ⟨name⟩ := name
    exact completes_firstMember name blank value
  | nextMember _ blankGap name blank _ members value =>
    obtain ⟨name⟩ := name
    exact completes_nextMember members blankGap name blank value

/-! ### What is read is there -/

/-- A number that is too large is written as one. -/
theorem Scalar.numeral {json : Json F} {text : List UInt8} (scalar : Scalar floats json text)
    (overflows : Overflows floats json) :
    ∃ numeral : Numeral, numeral.Valid ∧ numeral.value floats = json ∧ text = numeral.text := by
  cases scalar with
  | number valid => exact ⟨_, valid, rfl, rfl⟩
  | null | literalTrue | literalFalse | string =>
    obtain ⟨_, ⟨⟩, _⟩ := overflows

theorem Scalar.phrase {json : Json F} {text : List UInt8} (scalar : Scalar floats json text)
    (fits : ¬ Overflows floats json) : Phrase floats (.value json) text := by
  cases scalar with
  | null => exact .null
  | literalTrue => exact .literalTrue
  | literalFalse => exact .literalFalse
  | number valid => exact .number valid fits
  | string body => exact .string body

/-- How a text is rejected: within it or right behind it, or for a number in it that is too
large. -/
inductive Fails (floats : FloatText F.Double) (total : Nat) (rest : List UInt8)
    (error : ParseError) : Prop where
  | malformed (id : error.id = 101) (position : 0 < error.byte ∧ error.byte ≤ total + 1)
  | overflow {numeral : Numeral} (id : error.id = 406) (byte : error.byte = 0)
      (valid : numeral.Valid) (overflows : Overflows floats (numeral.value floats))
      (found : numeral.text <:+: rest)

theorem Fails.mono {before : List UInt8} {error : ParseError}
    (fails : Fails floats total rest error) (found : rest <:+: before) :
    Fails floats total before error := by
  cases fails with
  | malformed id position => exact .malformed id position
  | overflow id byte valid overflows inner =>
    exact .overflow id byte valid overflows (inner.trans found)

theorem fails_unexpected {self : Parser F} (within : Within total self.lexer)
    (expected : TokenType) (context : String) :
    Fails floats total rest (self.unexpected expected context) :=
  .malformed rfl within

theorem Scanned.within {type : TokenType} {later : Lexer F} (reads : rest.length ≤ total)
    (scanned : Scanned total floats rest type later) : Within total later := by
  cases scanned with
  | structural _ _ split ahead =>
    refine ahead.within ?_
    rw [split, List.length_append, List.length_cons] at reads
    omega
  | scalar _ scalar split _ ahead =>
    obtain ⟨byte, bytes, rfl, _⟩ := scalar.begins
    refine ahead.within ?_
    rw [split, List.length_append, List.length_append, List.length_cons] at reads
    omega
  | finished _ _ _ within => exact within
  | failed within => exact within

/-- The bytes of the tokens that are structural characters. -/
theorem structural_row (byte : UInt8) : ∀ type ∈ Lexer.structural byte,
    (type = .beginArray ∧ byte = openBracket) ∨ (type = .endArray ∧ byte = closeBracket) ∨
      (type = .beginObject ∧ byte = openBrace) ∨ (type = .endObject ∧ byte = closeBrace) ∨
      (type = .nameSeparator ∧ byte = colon) ∨ (type = .valueSeparator ∧ byte = comma) := by
  obtain ⟨⟨value⟩⟩ := byte
  revert value
  decide +kernel

/-- A token that no value has and no error is the structural character it stands for. -/
theorem Scanned.character {type : TokenType} {later : Lexer F} {byte : UInt8}
    (scanned : Scanned total floats rest type later)
    (row : Lexer.structural byte = some type) :
    ∃ space after, rest = space ++ byte :: after ∧ Space space ∧ Reads total later after := by
  have kind := structural_row byte type row
  cases scanned with
  | @structural space after other _ _ blank found split reads =>
    have otherKind := structural_row other type found
    have same : other = byte := by
      rcases kind with
          ⟨rfl, rfl⟩ | ⟨rfl, rfl⟩ | ⟨rfl, rfl⟩ | ⟨rfl, rfl⟩ | ⟨rfl, rfl⟩ | ⟨rfl, rfl⟩ <;>
        simpa using otherKind
    exact ⟨space, after, same ▸ split, blank, reads⟩
  | scalar _ _ _ carries =>
    have different := Carries_ne carries
    rcases kind with ⟨rfl, _⟩ | ⟨rfl, _⟩ | ⟨rfl, _⟩ | ⟨rfl, _⟩ | ⟨rfl, _⟩ | ⟨rfl, _⟩ <;>
      simp at different
  | finished => simp at kind
  | failed => simp at kind

theorem Scanned.string {later : Lexer F} (scanned : Scanned total floats rest .valueString later) :
    ∃ space source scalars after, rest = space ++ (quoted source ++ after) ∧ Space space ∧
      Body source scalars ∧ later.tokenBuffer = Utf8.encode scalars ∧ Reads total later after := by
  cases scanned with
  | structural _ row => simpa using structural_row _ _ row
  | @scalar space text after json _ _ blank scalar split carries reads =>
    generalize kind : TokenType.valueString = type at carries
    cases carries with
    | valueString =>
      generalize same : Json.string ⟨later.tokenBuffer⟩ = json at scalar
      cases scalar with
      | @string source scalars body =>
        have buffer : later.tokenBuffer = Utf8.encode scalars := by
          injection same with same
          exact congrArg Text.bytes same
        exact ⟨space, source, scalars, after, split, blank, body, buffer, reads⟩
      | @number numeral valid =>
        unfold Numeral.value at same
        split at same
        · cases same
        · split at same
          · split at same <;> cases same
          · split at same <;> cases same
      | _ => cases same
    | _ => cases kind

/-- A run ends with an error. -/
def Rejects (floats : FloatText F.Double) (total : Nat) (rest : List UInt8)
    (outcome : Except ParseError (Parser F)) : Prop :=
  ∃ error, outcome = .error error ∧ Fails floats total rest error

theorem Rejects.mono {before : List UInt8} {outcome : Except ParseError (Parser F)}
    (rejects : Rejects floats total rest outcome) (found : rest <:+: before) :
    Rejects floats total before outcome := by
  obtain ⟨error, run, fails⟩ := rejects
  exact ⟨error, run, fails.mono found⟩

/-- What the loop makes of the bytes that are left where a value is expected. -/
def Decides (floats : FloatText F.Double) (total : Nat) (rest : List UInt8) (parser : Parser F) :
    Prop :=
  (∃ space text after json, rest = space ++ (text ++ after) ∧ Space space ∧
    Phrase floats (.value json) text ∧ after.length < rest.length ∧
    Arrives floats total (parser.report (parser.sax.handleValue json)) after
      ((parser.nextToken floats).saxParseInternal floats)) ∨
  Rejects floats total rest ((parser.nextToken floats).saxParseInternal floats)

/-- Where fewer bytes are left than a bound, the loop decides. -/
def DecidesBelow (floats : FloatText F.Double) (total bound : Nat) : Prop :=
  ∀ (rest : List UInt8) (parser : Parser F), rest.length < bound →
    parser.skipToStateEvaluation = false → Reads total parser.lexer rest →
    Decides floats total rest parser

theorem infix_after {space : List UInt8} {byte : UInt8} : rest <:+: space ++ byte :: rest :=
  ⟨space ++ [byte], [], by simp only [List.append_assoc, List.cons_append, List.nil_append,
    List.append_nil]⟩

theorem infix_append {front : List UInt8} : rest <:+: front ++ rest :=
  (List.suffix_append front rest).isInfix

/-- A value begins with a byte that a byte order mark does not begin with. -/
theorem begins_phrase {json : Json F} {text : List UInt8}
    (phrase : Phrase floats (.value json) text) :
    ∃ byte bytes, text = byte :: bytes ∧ byte ≠ 0xEF := by
  cases phrase with
  | null => exact ⟨_, _, Lexer.text_null, by decide⟩
  | literalTrue => exact ⟨_, _, Lexer.text_true, by decide⟩
  | literalFalse => exact ⟨_, _, Lexer.text_false, by decide⟩
  | @number numeral valid =>
    cases text : numeral.text with
    | nil => exact absurd text (Lexer.text_ne_nil valid)
    | cons byte bytes =>
      refine ⟨byte, bytes, rfl, ?_⟩
      rintro rfl
      obtain sign | digit := Lexer.begins_of_text valid text
      · exact absurd sign (by decide)
      · exact absurd digit (by decide)
  | string | emptyArray | array | emptyObject | object => exact ⟨_, _, rfl, by decide⟩

theorem length_lt_of_phrase {json : Json F} {space text after : List UInt8}
    (phrase : Phrase floats (.value json) text) (split : rest = space ++ (text ++ after)) :
    after.length < rest.length := by
  obtain ⟨byte, bytes, rfl, _⟩ := begins_phrase phrase
  rw [split, List.length_append, List.length_append, List.length_cons]
  omega

/-- The elements of an array are read to its end. -/
theorem decides_elements {bound : Nat} (below : DecidesBelow (F := F) floats total bound)
    {parser : Parser F} (looks : parser.skipToStateEvaluation = false) {before : List UInt8}
    {values : List (Json F)} {lexer : Lexer F} (token : TokenType)
    (elements : Phrase floats (.elements values) before) (reads : Reads total lexer rest)
    (begun : rest.length < total) (bounded : rest.length ≤ bound) :
    (∃ more space after all, rest = more ++ (space ++ closeBracket :: after) ∧ Space space ∧
      Phrase floats (.elements all) (before ++ more) ∧
      Arrives floats total (parser.report (parser.sax.handleValue (.array all))) after
        (conclude floats (((parser.inside (.array values)).seen token lexer).evaluateState
          floats))) ∨
    Rejects floats total rest
      (conclude floats (((parser.inside (.array values)).seen token lexer).evaluateState
        floats)) := by
  induction size : rest.length using Nat.strong_induction_on
    generalizing rest before values lexer token with
  | _ length inductionHypothesis =>
  subst size
  have scanned : Scanned total floats rest (scanNext floats lexer).1 (scanNext floats lexer).2 :=
    reads.scanNext_scanned
  generalize outcome : scanNext floats lexer = pair at scanned
  obtain ⟨next, later⟩ := pair
  have here : Reads total ((parser.inside (.array values)).seen token lexer).lexer rest := reads
  by_cases separates : next = .valueSeparator
  · subst separates
    obtain ⟨gap, after, rfl, blankGap, ahead⟩ :=
      Scanned.character scanned structural_comma
    have shorter : after.length < total := begun_of_structural reads
    have separator : Reads total ((parser.inside (.array values)).seen .valueSeparator later).lexer
      after := ahead
    have smaller : after.length < (gap ++ comma :: after).length := by
      rw [List.length_append, List.length_cons]
      omega
    rw [evaluateState_array rfl here begun outcome, if_pos rfl, seen_seen,
      getToken_eq_nextToken separator shorter]
    obtain ⟨space, text, behind, json, split, blank, phrase, less, arrives⟩ | rejects :=
      below after ((parser.inside (.array values)).seen .valueSeparator later)
        (by omega) looks ahead
    · obtain ⟨second, kind, beyond, left, run⟩ := arrives
      have run : (((parser.inside (.array values)).seen .valueSeparator later).nextToken
          floats).saxParseInternal floats =
        conclude floats (((parser.inside (.array (values ++ [json]))).seen kind
          second).evaluateState floats) := run
      show (∃ more space beyond all, _ ∧ _ ∧ _ ∧ Arrives floats total _ beyond
        ((((parser.inside (.array values)).seen .valueSeparator later).nextToken
          floats).saxParseInternal floats)) ∨ Rejects floats total _
        ((((parser.inside (.array values)).seen .valueSeparator later).nextToken
          floats).saxParseInternal floats)
      rw [run]
      obtain ⟨more, last, final, all, remains, blankLast, whole, ends⟩ | rejects :=
        inductionHypothesis behind.length (by omega) kind
          (.nextElement elements blankGap blank phrase) beyond left (by omega) rfl
      · refine .inl ⟨gap ++ comma :: (space ++ text) ++ more, last, final, all, ?_, blankLast, ?_,
          ends⟩
        · rw [split, remains]
          simp only [List.append_assoc, List.cons_append]
        · rw [← List.append_assoc, ← List.append_assoc]
          exact whole
      · refine .inr (rejects.mono ?_)
        rw [split]
        exact (infix_append.trans infix_append).trans infix_after
    · exact .inr (Rejects.mono rejects infix_after)
  by_cases closes : next = .endArray
  · subst closes
    obtain ⟨space, after, rfl, blank, ahead⟩ :=
      Scanned.character scanned structural_closeBracket
    refine .inl ⟨[], space, after, values, rfl, blank, by rwa [List.append_nil], ?_⟩
    have arrives : Arrives floats total (parser.inside (.array values))
        (space ++ closeBracket :: after) (conclude floats
          (((parser.inside (.array values)).seen token lexer).evaluateState floats)) :=
      ⟨lexer, token, reads, begun, rfl⟩
    exact arrives.close blank structural_closeBracket looks
  · rw [evaluateState_array rfl here begun outcome, if_neg separates, if_neg closes]
    exact .inr ⟨_, rfl, fails_unexpected (Scanned.within reads.length_le scanned) _ _⟩

/-- A member is read: a key, a colon and a value. -/
theorem decides_member {bound : Nat} (below : DecidesBelow (F := F) floats total bound)
    (self parser : Parser F) (next : Parser F → Parser F) {sax : DomParser F}
    {fields : List (String × Json F)} {old : String}
    (opened : self.sax = sax.pushed (.object fields old))
    (enters : ∀ lexer token key, next ((self.seen token lexer).report
      (sax.pushed (.object fields key))) = (parser.inside (.object fields key)).seen token lexer)
    (looks : parser.skipToStateEvaluation = false) (reads : Reads total self.lexer rest)
    (bounded : rest.length ≤ bound) :
    (∃ keyText space text after key json, rest = keyText ++ (space ++ (text ++ after)) ∧
      Nonempty (KeyText keyText key) ∧ Space space ∧ Phrase floats (.value json) text ∧
      after.length < rest.length ∧
      Arrives floats total (parser.inside (.object (Json.insertField key json fields) key)) after
        (conclude floats ((self.nextToken floats).parseMember floats next))) ∨
    Rejects floats total rest (conclude floats ((self.nextToken floats).parseMember floats
      next)) := by
  have scanned : Scanned total floats rest (scanNext floats self.lexer).1
    (scanNext floats self.lexer).2 := reads.scanNext_scanned
  by_cases named : (self.nextToken floats).lastToken = .valueString
  · have token : (scanNext floats self.lexer).1 = .valueString := named
    rw [token] at scanned
    obtain ⟨before, source, scalars, behind, rfl, blankBefore, body, buffer, ahead⟩ :=
      Scanned.string scanned
    have quotes : 0 < (quoted source).length := Nat.succ_pos _
    have size : behind.length < total ∧
        behind.length < (before ++ (quoted source ++ behind)).length := by
      have whole := reads.length_le
      rw [List.length_append, List.length_append] at whole ⊢
      omega
    have scannedColon : Scanned total floats behind
      (scanNext floats (scanNext floats self.lexer).2).1
      (scanNext floats (scanNext floats self.lexer).2).2 := ahead.scanNext_scanned
    generalize outcome : scanNext floats (scanNext floats self.lexer).2 = pair at scannedColon
    obtain ⟨colonToken, later⟩ := pair
    rw [parseMember_string next named opened buffer ahead size.1 outcome]
    by_cases separates : colonToken = .nameSeparator
    · subst separates
      obtain ⟨gap, after, rfl, blankGap, beyond⟩ :=
        Scanned.character scannedColon structural_colon
      have shorter : after.length < (gap ++ colon :: after).length := by
        rw [List.length_append, List.length_cons]
        omega
      rw [if_pos rfl, enters]
      have value : Reads total ((parser.inside (.object fields (String.ofList scalars))).seen
        .nameSeparator later).lexer after := beyond
      rw [getToken_eq_nextToken value (by omega)]
      have name : Nonempty (KeyText (before ++ quoted source ++ gap ++ [colon])
          (String.ofList scalars)) :=
        ⟨before, source, gap, blankBefore, blankGap, by rwa [String.toList_ofList], rfl⟩
      have split : before ++ (quoted source ++ (gap ++ colon :: after)) =
          before ++ quoted source ++ gap ++ [colon] ++ after := by
        simp only [List.append_assoc, List.cons_append, List.nil_append]
      obtain ⟨space, text, behind, json, rfl, blank, phrase, less, arrives⟩ | rejects :=
        below after ((parser.inside (.object fields (String.ofList scalars))).seen .nameSeparator
          later) (by omega) looks beyond
      · refine .inl ⟨_, space, text, behind, String.ofList scalars, json, split, name, blank,
          phrase, by omega, ?_⟩
        exact arrives
      · refine .inr (Rejects.mono rejects ?_)
        rw [split]
        exact infix_append
    · rw [if_neg separates]
      exact .inr ⟨_, rfl, fails_unexpected (Scanned.within ahead.length_le scannedColon) _ _⟩
  · unfold parseMember
    rw [if_neg named]
    exact .inr ⟨_, rfl, fails_unexpected (Scanned.within reads.length_le scanned) _ _⟩

/-- The members of an object are read to its end. -/
theorem decides_members {bound : Nat} (below : DecidesBelow (F := F) floats total bound)
    {parser : Parser F} (looks : parser.skipToStateEvaluation = false) {before : List UInt8}
    {fields : List (String × Json F)} {lexer : Lexer F} (token : TokenType) (old : String)
    (members : Phrase floats (.members fields) before) (reads : Reads total lexer rest)
    (begun : rest.length < total) (bounded : rest.length ≤ bound) :
    (∃ more space after all, rest = more ++ (space ++ closeBrace :: after) ∧ Space space ∧
      Phrase floats (.members all) (before ++ more) ∧
      Arrives floats total (parser.report (parser.sax.handleValue (.object all))) after
        (conclude floats (((parser.inside (.object fields old)).seen token lexer).evaluateState
          floats))) ∨
    Rejects floats total rest
      (conclude floats (((parser.inside (.object fields old)).seen token lexer).evaluateState
        floats)) := by
  induction size : rest.length using Nat.strong_induction_on
    generalizing rest before fields lexer token old with
  | _ length inductionHypothesis =>
  subst size
  have scanned : Scanned total floats rest (scanNext floats lexer).1 (scanNext floats lexer).2 :=
    reads.scanNext_scanned
  generalize outcome : scanNext floats lexer = pair at scanned
  obtain ⟨next, later⟩ := pair
  have here : Reads total ((parser.inside (.object fields old)).seen token lexer).lexer rest :=
    reads
  by_cases separates : next = .valueSeparator
  · subst separates
    obtain ⟨gap, after, rfl, blankGap, ahead⟩ :=
      Scanned.character scanned structural_comma
    have shorter : after.length < total := begun_of_structural reads
    have separator : Reads total
      ((parser.inside (.object fields old)).seen .valueSeparator later).lexer after := ahead
    have smaller : after.length < (gap ++ comma :: after).length := by
      rw [List.length_append, List.length_cons]
      omega
    rw [evaluateState_object rfl here begun outcome, if_pos rfl, seen_seen,
      getToken_eq_nextToken separator shorter]
    obtain ⟨keyText, space, text, behind, key, json, split, name, blank, phrase, less, arrives⟩ |
      rejects := decides_member below ((parser.inside (.object fields old)).seen .valueSeparator
        later) parser id rfl (fun _ _ _ => rfl) looks separator (by omega)
    · obtain ⟨second, kind, beyond, left, run⟩ := arrives
      rw [run]
      obtain ⟨more, last, final, all, remains, blankLast, whole, ends⟩ | rejects :=
        inductionHypothesis behind.length (by omega) kind key
          (.nextMember members blankGap name blank phrase) beyond left (by omega) rfl
      · refine .inl ⟨gap ++ comma :: (keyText ++ space ++ text) ++ more, last, final, all, ?_,
          blankLast, ?_, ends⟩
        · rw [split, remains]
          simp only [List.append_assoc, List.cons_append]
        · rw [← List.append_assoc, ← List.append_assoc]
          exact whole
      · refine .inr (rejects.mono ?_)
        rw [split]
        exact ((infix_append.trans infix_append).trans infix_append).trans infix_after
    · exact .inr (Rejects.mono rejects infix_after)
  by_cases closes : next = .endObject
  · subst closes
    obtain ⟨space, after, rfl, blank, ahead⟩ :=
      Scanned.character scanned structural_closeBrace
    refine .inl ⟨[], space, after, fields, rfl, blank, by rwa [List.append_nil], ?_⟩
    have arrives : Arrives floats total (parser.inside (.object fields old))
        (space ++ closeBrace :: after) (conclude floats
          (((parser.inside (.object fields old)).seen token lexer).evaluateState floats)) :=
      ⟨lexer, token, reads, begun, rfl⟩
    exact arrives.close blank structural_closeBrace looks
  · rw [evaluateState_object rfl here begun outcome, if_neg separates, if_neg closes]
    exact .inr ⟨_, rfl, fails_unexpected (Scanned.within reads.length_le scanned) _ _⟩

/-- An array is read, after its bracket. -/
theorem decides_array {bound : Nat} (below : DecidesBelow (F := F) floats total bound)
    {parser : Parser F} (looks : parser.skipToStateEvaluation = false) {first : Lexer F}
    (reads : Reads total first rest) (begun : rest.length < total) (bounded : rest.length < bound) :
    (∃ text after json, openBracket :: rest = text ++ after ∧ Phrase floats (.value json) text ∧
      Arrives floats total (parser.report (parser.sax.handleValue json)) after
        ((parser.seen .beginArray first).saxParseInternal floats)) ∨
    Rejects floats total rest ((parser.seen .beginArray first).saxParseInternal floats) := by
  rw [sax_array reads begun looks]
  by_cases empty : (scanNext floats first).1 = .endArray
  · have scanned : Scanned total floats rest (scanNext floats first).1
      (scanNext floats first).2 := reads.scanNext_scanned
    rw [empty] at scanned
    obtain ⟨space, after, rfl, blank, ahead⟩ := Scanned.character scanned structural_closeBracket
    rw [if_pos empty]
    refine .inl ⟨_, after, .array [], ?_, .emptyArray blank, _, .endArray, ahead,
      begun_of_structural reads, rfl⟩
    simp only [List.append_assoc, List.cons_append, List.nil_append]
  · rw [if_neg empty]
    obtain ⟨space, text, behind, json, rfl, blank, phrase, less, arrives⟩ | rejects :=
      below rest ((parser.seen .beginArray first).inside (.array [])) bounded looks reads
    · obtain ⟨second, kind, beyond, left, run⟩ := arrives
      have run : (((parser.seen .beginArray first).inside (.array [])).nextToken
          floats).saxParseInternal floats = conclude floats
            (((parser.inside (.array [json])).seen kind second).evaluateState floats) := run
      rw [run]
      obtain ⟨more, last, final, all, remains, blankLast, whole, ends⟩ | rejects :=
        decides_elements below looks kind (.firstElement blank phrase) beyond left (by omega)
      · refine .inl ⟨_, final, .array all, ?_, .array whole blankLast, ends⟩
        rw [remains]
        simp only [List.append_assoc, List.cons_append, List.nil_append]
      · exact .inr (rejects.mono (infix_append.trans infix_append))
    · exact .inr rejects

/-- An object is read, after its brace. -/
theorem decides_object {bound : Nat} (below : DecidesBelow (F := F) floats total bound)
    {parser : Parser F} (looks : parser.skipToStateEvaluation = false) {first : Lexer F}
    (reads : Reads total first rest) (begun : rest.length < total) (bounded : rest.length < bound) :
    (∃ text after json, openBrace :: rest = text ++ after ∧ Phrase floats (.value json) text ∧
      Arrives floats total (parser.report (parser.sax.handleValue json)) after
        ((parser.seen .beginObject first).saxParseInternal floats)) ∨
    Rejects floats total rest ((parser.seen .beginObject first).saxParseInternal floats) := by
  rw [sax_object reads begun looks]
  by_cases empty : (scanNext floats first).1 = .endObject
  · have scanned : Scanned total floats rest (scanNext floats first).1
      (scanNext floats first).2 := reads.scanNext_scanned
    rw [empty] at scanned
    obtain ⟨space, after, rfl, blank, ahead⟩ := Scanned.character scanned structural_closeBrace
    rw [if_pos empty]
    refine .inl ⟨_, after, .object [], ?_, .emptyObject blank, _, .endObject, ahead,
      begun_of_structural reads, rfl⟩
    simp only [List.append_assoc, List.cons_append, List.nil_append]
  · rw [if_neg empty]
    have opened : Reads total ((parser.seen .beginObject first).report
      (parser.sax.pushed (.object [] ""))).lexer rest := reads
    obtain ⟨keyText, space, text, behind, key, json, rfl, name, blank, phrase, less, arrives⟩ |
      rejects := decides_member below ((parser.seen .beginObject first).report
        (parser.sax.pushed (.object [] ""))) parser (enter false) rfl (fun _ _ _ => rfl) looks
        opened (Nat.le_of_lt bounded)
    · obtain ⟨second, kind, beyond, left, run⟩ := arrives
      rw [run]
      obtain ⟨more, last, final, all, remains, blankLast, whole, ends⟩ | rejects :=
        decides_members below looks kind key (.firstMember name blank phrase) beyond left
          (by omega)
      · refine .inl ⟨_, final, .object all, ?_, .object whole blankLast, ends⟩
        rw [remains]
        simp only [List.append_assoc, List.cons_append, List.nil_append]
      · exact .inr (rejects.mono ((infix_append.trans infix_append).trans infix_append))
    · exact .inr rejects

/-- A token that no value begins with. -/
theorem turn_unexpected {self : Parser F} (looks : self.skipToStateEvaluation = false)
    (other : self.lastToken = .endArray ∨ self.lastToken = .endObject ∨
      self.lastToken = .nameSeparator ∨ self.lastToken = .valueSeparator ∨
      self.lastToken = .endOfInput ∨ self.lastToken = .parseError) :
    ∃ expected context, self.turn floats = .failed (self.unexpected expected context) := by
  unfold turn
  rw [if_neg (by rw [looks]; exact Bool.false_ne_true)]
  rcases other with token | token | token | token | token | token <;>
    (rw [token]; exact ⟨_, _, rfl⟩)

theorem rejects_unexpected {self : Parser F} (looks : self.skipToStateEvaluation = false)
    (within : Within total self.lexer)
    (other : self.lastToken = .endArray ∨ self.lastToken = .endObject ∨
      self.lastToken = .nameSeparator ∨ self.lastToken = .valueSeparator ∨
      self.lastToken = .endOfInput ∨ self.lastToken = .parseError) :
    Rejects floats total rest (self.saxParseInternal floats) := by
  obtain ⟨expected, context, run⟩ : ∃ expected context,
    self.turn floats = .failed (self.unexpected expected context) := turn_unexpected looks other
  rw [saxParseInternal_eq, run]
  exact ⟨_, rfl, fails_unexpected within _ _⟩

/-- Where a value is expected, one is read or the text is rejected. -/
theorem decides (bound : Nat) : DecidesBelow (F := F) floats total bound := by
  induction bound with
  | zero => exact fun rest _ small => absurd small (Nat.not_lt_zero _)
  | succ bound below =>
  intro rest parser small looks reads
  have scanned : Scanned total floats rest (scanNext floats parser.lexer).1
    (scanNext floats parser.lexer).2 := reads.scanNext_scanned
  generalize outcome : scanNext floats parser.lexer = pair at scanned
  obtain ⟨token, first⟩ := pair
  unfold Decides
  rw [nextToken_of outcome]
  have within : Within total first := Scanned.within reads.length_le scanned
  have fails (other : token = .endArray ∨ token = .endObject ∨ token = .nameSeparator ∨
      token = .valueSeparator ∨ token = .endOfInput ∨ token = .parseError) :
      Rejects floats total rest ((parser.seen token first).saxParseInternal floats) := by
    have looks : (parser.seen token first).skipToStateEvaluation = false := looks
    exact rejects_unexpected looks within other
  cases scanned with
  | @structural space after byte _ _ blank row split ahead =>
    subst split
    have size : after.length < (space ++ byte :: after).length := by
      rw [List.length_append, List.length_cons]
      omega
    rcases structural_row byte token row with ⟨rfl, rfl⟩ | ⟨rfl, _⟩ | ⟨rfl, rfl⟩ | ⟨rfl, _⟩ |
      ⟨rfl, _⟩ | ⟨rfl, _⟩
    · obtain ⟨text, behind, json, split, phrase, arrives⟩ | rejects :=
        decides_array below looks ahead (begun_of_structural reads) (by omega)
      · rw [split]
        exact .inl ⟨space, text, behind, json, rfl, blank, phrase, length_lt_of_phrase phrase rfl,
          arrives⟩
      · exact .inr (rejects.mono infix_after)
    · exact .inr (fails (.inl rfl))
    · obtain ⟨text, behind, json, split, phrase, arrives⟩ | rejects :=
        decides_object below looks ahead (begun_of_structural reads) (by omega)
      · rw [split]
        exact .inl ⟨space, text, behind, json, rfl, blank, phrase, length_lt_of_phrase phrase rfl,
          arrives⟩
      · exact .inr (rejects.mono infix_after)
    · exact .inr (fails (.inr (.inl rfl)))
    · exact .inr (fails (.inr (.inr (.inl rfl))))
    · exact .inr (fails (.inr (.inr (.inr (.inl rfl)))))
  | @scalar space text after json _ _ blank scalar split carries ahead =>
    have looks : (parser.seen token first).skipToStateEvaluation = false := looks
    have carried : Carries (parser.seen token first).lexer (parser.seen token first).lastToken
      json := carries
    rw [saxParseInternal_eq]
    by_cases overflows : Overflows floats json
    · obtain ⟨numeral, valid, value, same⟩ := Scalar.numeral scalar overflows
      obtain ⟨what, run⟩ : ∃ what, (parser.seen token first).turn floats =
        .failed (outOfRange 406 what) := turn_overflow looks carried overflows
      rw [run]
      refine .inr ⟨_, rfl, .overflow rfl rfl valid (by rwa [value]) ?_⟩
      rw [split, same]
      exact ⟨space, after, by rw [List.append_assoc]⟩
    · have phrase := Scalar.phrase scalar overflows
      have less : after.length < rest.length := length_lt_of_phrase phrase split
      refine .inl ⟨space, text, after, json, split, blank, phrase, less, first, token, ahead,
        ?_, ?_⟩
      · exact Nat.lt_of_lt_of_le less reads.length_le
      · rw [turn_scalar looks carried overflows]
        rfl
  | finished => exact .inr (fails (.inr (.inr (.inr (.inr (.inl rfl))))))
  | failed => exact .inr (fails (.inr (.inr (.inr (.inr (.inr rfl))))))

/-! ### Documents -/

/-- The lexer before the first token. -/
def unread (floats : FloatText F.Double) (text : Text) : Lexer F :=
  { input := text.bytes, valueFloat := floats.nearest 0 }

theorem reads_unread (text : Text) :
    Reads text.bytes.length (unread floats text) text.bytes where
  bytes := rfl
  ended unget := Bool.noConfusion unget
  position := Nat.zero_add _

/-- The parser that begins with a lexer. -/
def beginning (lexer : Lexer F) : Parser F := { lexer := lexer }

theorem construct_eq {text : Text} {later : Lexer F}
    (scanned : (unread floats text).scan floats = scanNext floats later) :
    construct floats text = (beginning later).nextToken floats := by
  show getToken floats { lexer := unread floats text } = _
  unfold getToken
  dsimp only
  rw [scanned]
  rfl

/-- The token behind the value decides. -/
theorem parse_arrived {self parser : Parser F} {lexer : Lexer F} {token : TokenType}
    (outside : parser.states = []) (reads : Reads total lexer rest) (begun : rest.length < total)
    (run : self.saxParseInternal floats =
      conclude floats ((parser.seen token lexer).evaluateState floats)) :
    self.parse floats =
      if (scanNext floats lexer).1 = .endOfInput then .ok parser.sax.root
      else
        .error (((parser.seen token lexer).nextToken floats).unexpected .endOfInput "value") := by
  have outside : (parser.seen token lexer).states = [] := outside
  have finished : (parser.seen token lexer).evaluateState floats =
      .finished (parser.seen token lexer) := by
    unfold evaluateState
    rw [outside]
  have ahead : Reads total (parser.seen token lexer).lexer rest := reads
  unfold parse
  rw [run, finished]
  show (if ((parser.seen token lexer).getToken floats).lastToken = .endOfInput then _ else _) = _
  rw [getToken_eq_nextToken ahead begun]
  rfl

theorem Scanned.ended {later : Lexer F} (scanned : Scanned total floats rest .endOfInput later) :
    ∃ space after, rest = space ++ after ∧ Space space ∧ Over after := by
  cases scanned with
  | structural _ row => simpa using structural_row _ _ row
  | scalar _ _ _ carries => exact absurd rfl (Carries_ne carries).2.2.2.2.1
  | @finished space after _ blank split ended => exact ⟨space, after, split, blank, ended⟩

/-- A value is parsed from the bytes that are left, and nothing is behind it, or it fails. -/
theorem parse_beginning (floats : FloatText F.Double) {lexer : Lexer F}
    (reads : Reads total lexer rest) :
    (∃ before body after beyond json, rest = before ++ (body ++ (after ++ beyond)) ∧
      Space before ∧ Phrase floats (.value json) body ∧ Space after ∧ Over beyond ∧
      ((beginning lexer).nextToken floats).parse floats = .ok json) ∨
    ∃ error, ((beginning lexer).nextToken floats).parse floats = .error error ∧
      Fails floats total rest error := by
  obtain ⟨space, text, behind, json, split, blank, phrase, _, second, token, ahead, begun, run⟩ |
    ⟨error, run, fails⟩ := decides (rest.length + 1) rest (beginning lexer)
      (Nat.lt_succ_self _) rfl reads
  · rw [parse_arrived rfl ahead begun run]
    have scanned : Scanned total floats behind (scanNext floats second).1
      (scanNext floats second).2 := ahead.scanNext_scanned
    by_cases ends : (scanNext floats second).1 = .endOfInput
    · rw [if_pos ends]
      rw [ends] at scanned
      obtain ⟨after, beyond, rfl, blankAfter, ended⟩ := Scanned.ended scanned
      exact .inl ⟨space, text, after, beyond, json, split, blank, phrase, blankAfter, ended, rfl⟩
    · rw [if_neg ends]
      exact .inr ⟨_, rfl, fails_unexpected (Scanned.within ahead.length_le scanned) _ _⟩
  · refine .inr ⟨error, ?_, fails⟩
    unfold parse
    rw [run]
    rfl

theorem parse_phrase {lexer : Lexer F} {json : Json F} {before body after beyond : List UInt8}
    (blank : Space before) (phrase : Phrase floats (.value json) body) (blankAfter : Space after)
    (ended : Over beyond) (reads : Reads total lexer (before ++ (body ++ (after ++ beyond)))) :
    ((beginning lexer).nextToken floats).parse floats = .ok json := by
  obtain ⟨_, second, token, ahead, begun, run⟩ := completes phrase (beginning lexer) before
    (after ++ beyond) blank (stops_over blankAfter ended) rfl reads
  obtain ⟨later, scanned⟩ : ∃ later, scanNext floats second = (.endOfInput, later) :=
    ahead.scanNext_over blankAfter ended
  rw [parse_arrived rfl ahead begun run, scanned, if_pos rfl]
  rfl

/-- A text that begins with white space or a value has no byte order mark. -/
theorem head_ne_mark {json : Json F} {before body : List UInt8} (blank : Space before)
    (phrase : Phrase floats (.value json) body) :
    (before ++ (body ++ rest)).head? ≠ some 0xEF := by
  cases before with
  | nil =>
    obtain ⟨byte, bytes, rfl, other⟩ := begins_phrase phrase
    exact fun same => other (Option.some.inj same)
  | cons byte before =>
    intro same
    cases Option.some.inj same
    have white := blank 0xEF List.mem_cons_self
    exact absurd white (by decide)

end Parser

open JsonGrammar

variable {floats : FloatText F.Double} {text : Text}

/-- A document is parsed to the value it stands for. -/
theorem parse_document {json : Json F} (document : Document floats text.bytes json) :
    parse floats text = .ok json := by
  obtain ⟨mark, before, body, after, beyond, split, marked, blank, phrase, blankAfter, ended⟩ :=
    document
  have reads : Lexer.Reads text.bytes.length (Parser.unread floats text) text.bytes :=
    Parser.reads_unread text
  have whole : text.bytes = mark ++ (before ++ (body ++ (after ++ beyond))) := by
    rw [split]
    simp only [List.append_assoc]
  generalize text.bytes.length = total at reads
  rw [whole] at reads
  have first : ∃ later, (Parser.unread floats text).scan floats = Lexer.scanNext floats later ∧
      Lexer.Reads total later (before ++ (body ++ (after ++ beyond))) := by
    obtain rfl | rfl := marked
    · exact reads.scan_unmarked rfl (Parser.head_ne_mark blank phrase)
    · exact reads.scan_mark rfl
  obtain ⟨later, scanned, ahead⟩ := first
  show (Parser.construct floats text).parse floats = _
  rw [Parser.construct_eq scanned]
  exact Parser.parse_phrase blank phrase blankAfter ended ahead

/-- What is parsed is a document, or it is rejected. -/
theorem parse_cases (floats : FloatText F.Double) (text : Text) :
    (∃ json, Document floats text.bytes json ∧ parse floats text = .ok json) ∨
    ∃ error, parse floats text = .error error ∧
      Parser.Fails floats text.bytes.length text.bytes error := by
  have reads : Lexer.Reads text.bytes.length (Parser.unread floats text) text.bytes :=
    Parser.reads_unread text
  obtain ⟨mark, left, later, split, marked, scanned, ahead⟩ | ⟨later, scanned, within⟩ :=
    reads.scan_cases floats rfl
  · have run : parse floats text = ((Parser.beginning later).nextToken floats).parse floats := by
      rw [← Parser.construct_eq scanned]
      rfl
    rw [run]
    obtain ⟨before, body, after, beyond, json, rest, blank, phrase, blankAfter, ended, parsed⟩ |
      ⟨error, failed, fails⟩ := Parser.parse_beginning floats ahead
    · refine .inl ⟨json, ⟨mark, before, body, after, beyond, ?_, marked, blank, phrase, blankAfter,
        ended⟩, parsed⟩
      rw [split, rest]
      simp only [List.append_assoc]
    · refine .inr ⟨error, failed, fails.mono ?_⟩
      rw [split]
      exact Parser.infix_append
  · have looks : (Parser.construct floats text).skipToStateEvaluation = false := rfl
    have token : (Parser.construct floats text).lastToken = .parseError := congrArg Prod.fst scanned
    have last : (Parser.construct floats text).lexer = later := congrArg Prod.snd scanned
    obtain ⟨error, failed, fails⟩ : Parser.Rejects floats text.bytes.length text.bytes
        ((Parser.construct floats text).saxParseInternal floats) :=
      Parser.rejects_unexpected looks (last ▸ within) (.inr (.inr (.inr (.inr (.inr token)))))
    refine .inr ⟨error, ?_, fails⟩
    show (Parser.construct floats text).parse floats = _
    unfold Parser.parse
    rw [failed]
    rfl

/-- The parser accepts the documents of the grammar, with the values that they stand for. What it
rejects, it rejects within the text or right behind it, or for a number in it that is too large. -/
theorem parse_decides (floats : FloatText F.Double) (text : Text) :
    match parse floats text with
    | .ok json => ∀ other, Document floats text.bytes other ↔ other = json
    | .error error => (∀ json, ¬ Document floats text.bytes json) ∧
      Parser.Fails floats text.bytes.length text.bytes error := by
  obtain ⟨json, document, parsed⟩ | ⟨error, failed, fails⟩ := parse_cases floats text
  · rw [parsed]
    refine fun other => ⟨fun stands => ?_, fun same => same ▸ document⟩
    have read := parse_document stands
    rw [parsed] at read
    exact (Except.ok.inj read).symm
  · rw [failed]
    refine ⟨fun json stands => ?_, fails⟩
    have read := parse_document stands
    rw [failed] at read
    cases read

end Nlohmann
