/-
This file models how the JSON library parses a text, as `parse` with its default
arguments does.

The parser has read one token ahead whenever it expects a value, and keeps on a stack
whether each structure it is in is an array or an object. What it reads is handed to a
builder that keeps the structures which are not closed yet, the innermost first. Every
turn of the loop that is not the last gets a token, so that the loop ends.
-/

import BoosterSdk.JsonLexer

namespace Nlohmann

open DecimalText (FloatText)

variable {F : NumberFormat}

/-! ### Errors -/

/-- A `parse_error`, or an `out_of_range` of a number. The byte is zero when there is none. -/
structure ParseError where
  id : Nat
  byte : Nat
  what : Text
  deriving DecidableEq

/-- `position_string`. -/
def Position.text (position : Position) : String :=
  " at line " ++ toString (position.linesRead + 1) ++ ", column " ++
    toString position.charsReadCurrentLine

/-- `parse_error::create`. -/
def parseError (id : Nat) (position : Position) (what : Text) : ParseError where
  id := id
  byte := position.charsReadTotal
  what := Text.ofLiteral ("[json.exception.parse_error." ++ toString id ++ "] parse error" ++
    position.text ++ ": ") ++ what

/-- `out_of_range::create`. -/
def outOfRange (id : Nat) (what : Text) : ParseError where
  id := id
  byte := 0
  what := Text.ofLiteral ("[json.exception.out_of_range." ++ toString id ++ "] ") ++ what

/-! ### The builder -/

/-- A structure that is not closed yet: the elements of an array, or the members of an object and
the key that the next value is for. -/
inductive Container (F : NumberFormat) where
  | array (elements : List (Json F))
  | object (fields : List (String × Json F)) (key : String)

/-- The value that a structure is when it is closed. -/
def Container.close : Container F → Json F
  | array elements => .array elements
  | object fields _ => .object fields

/-- `json_sax_dom_parser`: the value and the structures that are open. -/
structure DomParser (F : NumberFormat) where
  root : Json F := .null
  refStack : List (Container F) := []

namespace DomParser

def handleValue (self : DomParser F) (value : Json F) : DomParser F :=
  match self.refStack with
  | [] => { self with root := value }
  | .array elements :: rest => { self with refStack := .array (elements ++ [value]) :: rest }
  | .object fields key :: rest =>
    { self with refStack := .object (Json.insertField key value fields) key :: rest }

def startArray (self : DomParser F) : DomParser F :=
  { self with refStack := .array [] :: self.refStack }

def startObject (self : DomParser F) : DomParser F :=
  { self with refStack := .object [] "" :: self.refStack }

def key (self : DomParser F) (val : List UInt8) : DomParser F :=
  match self.refStack with
  | .object fields _ :: rest =>
    { self with refStack := .object fields (Text.toKey ⟨val⟩) :: rest }
  | _ => self

/-- `end_array` and `end_object`. -/
def endContainer (self : DomParser F) : DomParser F :=
  match self.refStack with
  | container :: rest => { self with refStack := rest }.handleValue container.close
  | [] => self

end DomParser

/-! ### The parser -/

/-- The parser and the local variables of `sax_parse_internal`: in `states`, true is for an array
and false for an object. -/
structure Parser (F : NumberFormat) where
  lexer : Lexer F
  lastToken : TokenType := .uninitialized
  states : List Bool := []
  skipToStateEvaluation : Bool := false
  sax : DomParser F := {}

namespace Parser

/-- What one turn of the loop comes to. -/
inductive Turn (F : NumberFormat) where
  | proceed (self : Parser F)
  | finished (self : Parser F)
  | failed (error : ParseError)

/-- What a call of the builder leaves it at. -/
def report (self : Parser F) (sax : DomParser F) : Parser F := { self with sax := sax }

/-- `states.push_back(array)`. -/
def enter (array : Bool) (self : Parser F) : Parser F :=
  { self with states := array :: self.states }

variable (floats : FloatText F.Double)

def getToken (self : Parser F) : Parser F :=
  let (token, later) := self.lexer.scan floats
  { self with lastToken := token, lexer := later }

def exceptionMessage (self : Parser F) (expected : TokenType) (context : String) : Text :=
  let problem :=
    if self.lastToken = .parseError then
      Text.ofLiteral (self.lexer.errorMessage ++ "; last read: '") ++
        ⟨self.lexer.getTokenString⟩ ++ Text.ofLiteral "'"
    else Text.ofLiteral ("unexpected " ++ self.lastToken.name)
  let rest :=
    if expected = .uninitialized then Text.empty
    else Text.ofLiteral ("; expected " ++ expected.name)
  Text.ofLiteral ("syntax error while parsing " ++ context ++ " - ") ++ problem ++ rest

/-- `parse_error::create(101, ...)`, which the builder throws. -/
def unexpected (self : Parser F) (expected : TokenType) (context : String) : ParseError :=
  parseError 101 self.lexer.position (self.exceptionMessage expected context)

/-- A key is the last token: the separator is got, and the first token of its value. -/
def parseMember (self : Parser F) (next : Parser F → Parser F) : Turn F :=
  if self.lastToken = .valueString then
    let keyed := (self.report (self.sax.key self.lexer.tokenBuffer)).getToken floats
    if keyed.lastToken = .nameSeparator then .proceed ((next keyed).getToken floats)
    else .failed (keyed.unexpected .nameSeparator "object separator")
  else .failed (self.unexpected .valueString "object key")

/-- A structure is closed, and the state outside of it is evaluated next. -/
def closeContainer (self : Parser F) : Turn F :=
  .proceed { self with
    sax := self.sax.endContainer
    states := self.states.tail
    skipToStateEvaluation := true }

/-- The end of the loop, after a value. -/
def evaluateState (self : Parser F) : Turn F :=
  match self.states with
  | [] => .finished self
  | true :: _ =>
    let later := self.getToken floats
    if later.lastToken = .valueSeparator then .proceed (later.getToken floats)
    else if later.lastToken = .endArray then later.closeContainer
    else .failed (later.unexpected .endArray "array")
  | false :: _ =>
    let later := self.getToken floats
    if later.lastToken = .valueSeparator then (later.getToken floats).parseMember floats id
    else if later.lastToken = .endObject then later.closeContainer
    else .failed (later.unexpected .endObject "object")

/-- A value that is one token. -/
def scalar (self : Parser F) (value : Json F) : Turn F :=
  (self.report (self.sax.handleValue value)).evaluateState floats

/-- One turn of the loop of `sax_parse_internal`. -/
def turn (self : Parser F) : Turn F :=
  if self.skipToStateEvaluation then
    { self with skipToStateEvaluation := false }.evaluateState floats
  else
    match self.lastToken with
    | .beginObject =>
      let later := (self.report self.sax.startObject).getToken floats
      if later.lastToken = .endObject then
        (later.report later.sax.endContainer).evaluateState floats
      else later.parseMember floats (enter false)
    | .beginArray =>
      let later := (self.report self.sax.startArray).getToken floats
      if later.lastToken = .endArray then
        (later.report later.sax.endContainer).evaluateState floats
      else .proceed (later.enter true)
    | .valueFloat =>
      if floats.isFinite self.lexer.valueFloat then
        self.scalar floats (.float self.lexer.valueFloat)
      else
        .failed (outOfRange 406 (Text.ofLiteral "number overflow parsing '" ++
          ⟨self.lexer.getTokenString⟩ ++ Text.ofLiteral "'"))
    | .literalFalse => self.scalar floats (.boolean false)
    | .literalNull => self.scalar floats .null
    | .literalTrue => self.scalar floats (.boolean true)
    | .valueInteger => self.scalar floats (.integer self.lexer.valueInteger)
    | .valueString => self.scalar floats (.string ⟨self.lexer.tokenBuffer⟩)
    | .valueUnsigned => self.scalar floats (.unsigned self.lexer.valueUnsigned)
    | .parseError => .failed (self.unexpected .uninitialized "value")
    | _ => .failed (self.unexpected .literalOrValue "value")

/-! ### The loop ends -/

/-- The bytes that are left for later turns: a token that is still to be looked at counts for the
byte it is at least made of. -/
def left (self : Parser F) : Nat :=
  self.lexer.unread +
    if self.skipToStateEvaluation then 0 else if self.lastToken.consumes then 1 else 0

theorem left_le (self : Parser F) :
    self.left ≤ self.lexer.unread + if self.lastToken.consumes then 1 else 0 := by
  unfold left
  split
  · exact Nat.le_add_right _ _
  · exact Nat.le_refl _

variable {floats}

theorem unread_getToken (self : Parser F) :
    (self.getToken floats).lexer.unread +
      (if (self.getToken floats).lastToken.consumes then 1 else 0) ≤ self.lexer.unread :=
  self.lexer.unread_scan floats

theorem left_getToken (self : Parser F) : (self.getToken floats).left ≤ self.lexer.unread :=
  (left_le _).trans self.unread_getToken

theorem unread_getToken_le (self : Parser F) :
    (self.getToken floats).lexer.unread ≤ self.lexer.unread :=
  (Nat.le_add_right _ _).trans self.unread_getToken

theorem unread_getToken_lt {self : Parser F} {token : TokenType}
    (got : (self.getToken floats).lastToken = token) (consumes : token.consumes = true) :
    (self.getToken floats).lexer.unread < self.lexer.unread := by
  have read : (self.getToken floats).lexer.unread +
    (if (self.getToken floats).lastToken.consumes then 1 else 0) ≤ self.lexer.unread :=
    self.unread_getToken
  rw [got, if_pos consumes] at read
  exact read

theorem left_parseMember {self later : Parser F} {next : Parser F → Parser F}
    (frame : ∀ parser, (next parser).lexer = parser.lexer)
    (proceeds : self.parseMember floats next = .proceed later) :
    later.left < self.lexer.unread := by
  unfold parseMember at proceeds
  dsimp only at proceeds
  split at proceeds
  · split at proceeds
    · rename_i separator
      cases proceeds
      refine Nat.lt_of_le_of_lt (left_getToken _) ?_
      rw [frame]
      exact unread_getToken_lt separator rfl
    · cases proceeds
  · cases proceeds

theorem left_evaluateState (self : Parser F) {later : Parser F}
    (proceeds : self.evaluateState floats = .proceed later) : later.left < self.lexer.unread := by
  unfold evaluateState at proceeds
  dsimp only at proceeds
  split at proceeds
  · cases proceeds
  · split at proceeds
    · rename_i comma
      cases proceeds
      exact Nat.lt_of_le_of_lt (left_getToken _) (unread_getToken_lt comma rfl)
    · split at proceeds
      · rename_i bracket
        cases proceeds
        exact unread_getToken_lt bracket rfl
      · cases proceeds
  · split at proceeds
    · exact Nat.lt_of_lt_of_le (left_parseMember (fun _ => rfl) proceeds)
        ((unread_getToken_le _).trans (unread_getToken_le _))
    · split at proceeds
      · rename_i brace
        cases proceeds
        exact unread_getToken_lt brace rfl
      · cases proceeds

/-- A turn that is not the last leaves less to the others. -/
theorem turn_shrinks {self later : Parser F} (proceeds : self.turn floats = .proceed later) :
    later.left < self.left := by
  unfold turn at proceeds
  split at proceeds
  · rename_i skips
    have shrinks := left_evaluateState _ proceeds
    unfold left
    rw [if_pos skips]
    exact shrinks
  · rename_i looks
    have scalar {value : Json F} (proceeds : self.scalar floats value = .proceed later) :
        later.left < self.lexer.unread :=
      left_evaluateState (self.report (self.sax.handleValue value)) proceeds
    have more (shrinks : later.left < self.lexer.unread) : later.left < self.left :=
      Nat.lt_of_lt_of_le shrinks (Nat.le_add_right _ _)
    split at proceeds
    case h_1 =>
      have read : ((self.report self.sax.startObject).getToken floats).lexer.unread ≤
        self.lexer.unread := unread_getToken_le _
      dsimp only at proceeds
      split at proceeds
      · exact more (Nat.lt_of_lt_of_le (left_evaluateState _ proceeds) read)
      · have frame (parser : Parser F) : (parser.enter false).lexer = parser.lexer := rfl
        exact more (Nat.lt_of_lt_of_le (left_parseMember frame proceeds) read)
    case h_2 begins =>
      have read : ((self.report self.sax.startArray).getToken floats).left ≤
        self.lexer.unread := left_getToken _
      dsimp only at proceeds
      split at proceeds
      · exact more (Nat.lt_of_lt_of_le (left_evaluateState _ proceeds) (unread_getToken_le _))
      · cases proceeds
        have token : self.left = self.lexer.unread + 1 := by
          unfold left
          rw [if_neg looks, begins]
          rfl
        rw [token]
        exact Nat.lt_succ_of_le read
    case h_3 =>
      split at proceeds
      · exact more (scalar proceeds)
      · cases proceeds
    case h_10 => cases proceeds
    case h_11 => cases proceeds
    all_goals exact more (scalar proceeds)

variable (floats)

/-- The loop of `sax_parse_internal`. -/
def saxParseInternal (self : Parser F) : Except ParseError (Parser F) :=
  match _turn : self.turn floats with
  | .proceed later => later.saxParseInternal
  | .finished later => .ok later
  | .failed error => .error error
termination_by self.left
decreasing_by exact turn_shrinks _turn

/-- The parser after its constructor, which gets the first token. -/
def construct (text : Text) : Parser F :=
  { lexer := { input := text.bytes, valueFloat := floats.nearest 0 } : Parser F }.getToken floats

/-- `parse`, in strict mode. -/
def parse (self : Parser F) : Except ParseError (Json F) := do
  let later ← self.saxParseInternal floats
  let last := later.getToken floats
  if last.lastToken = .endOfInput then .ok last.sax.root
  else .error (last.unexpected .endOfInput "value")

end Parser

/-- `json::parse(text)`. -/
def parse (floats : FloatText F.Double) (text : Text) : Except ParseError (Json F) :=
  (Parser.construct floats text).parse floats

end Nlohmann
