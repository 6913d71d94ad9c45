/-
This file proves that what the JSON library writes it reads back.

A value can be written exactly when its strings are UTF-8, and the text is one that
stands for the value: with the members in order, an integer that is not negative as an
unsigned one, and null for a float that is not finite. A text that was read is written
again in a form that stays the same from then on.
-/

import BoosterSdk.JsonEscapes
import BoosterSdk.JsonNumbers
import BoosterSdk.JsonParsing

namespace Nlohmann.Serializer

open DecimalText
open IntegerText (digitIn minus)
open Json (InOrder)
open JsonGrammar
open Utf8 (encode)

variable {F : NumberFormat} (floats : FloatText F.Double)

/-! ### What is read back -/

mutual

/-- The value that the text of a value stands for. -/
def reread : Json F → Json F
  | .integer value => if value < 0 then .integer value else .unsigned value.toUInt64
  | .float value => if floats.isFinite value then .float value else .null
  | .array elements => .array (rereadElements elements)
  | .object fields => .object (rereadFields fields)
  | other => other

def rereadElements : List (Json F) → List (Json F)
  | [] => []
  | value :: rest => reread value :: rereadElements rest

def rereadFields : List (String × Json F) → List (String × Json F)
  | [] => []
  | (key, value) :: rest => (key, reread value) :: rereadFields rest

end

theorem rereadElements_eq (elements : List (Json F)) :
    rereadElements floats elements = elements.map (reread floats) := by
  induction elements with
  | nil => rfl
  | cons value rest inductionHypothesis => rw [rereadElements, inductionHypothesis, List.map_cons]

/-- A member with its value as it is read back. -/
def rereadField (field : String × Json F) : String × Json F := (field.1, reread floats field.2)

theorem rereadFields_eq (fields : List (String × Json F)) :
    rereadFields floats fields = fields.map (rereadField floats) := by
  induction fields with
  | nil => rfl
  | cons field rest inductionHypothesis =>
    rw [rereadFields, inductionHypothesis, List.map_cons]
    rfl

/-! ### Numbers -/

theorem digitsOf_valid (negative : Bool) (number : Nat) :
    Numeral.Valid ⟨negative, digitsOf number, [], none⟩ where
  whole := by
    by_cases zero : number = 0
    · rw [zero]
      exact .inl rfl
    · exact .inr (digitsOf_first zero)
  small _ member := digitsOf_lt member
  smallFraction := by rintro _ ⟨⟩
  exponent := by rintro _ ⟨⟩

theorem not_overflows {json : Json F} (other : ∀ number, json ≠ .float number) :
    ¬ Overflows floats json :=
  fun ⟨number, same, _⟩ => other number same

/-- The text of an unsigned integer. -/
theorem phrase_unsigned (value : UInt64) :
    Phrase floats (.value (.unsigned value)) (dumpUnsigned value) := by
  have worth : Numeral.value floats ⟨false, digitsOf value.toNat, [], none⟩ = .unsigned value := by
    unfold Numeral.value
    rw [if_neg (by exact Bool.false_ne_true), if_neg Bool.false_ne_true, numberOf_digitsOf,
      if_pos value.toNat_lt, UInt64.ofNat_toNat]
  have text : Numeral.text ⟨false, digitsOf value.toNat, [], none⟩ = dumpUnsigned value := by
    rw [dumpUnsigned_eq]
    exact List.append_nil _
  rw [← worth, ← text]
  refine .number (digitsOf_valid false _) ?_
  rw [worth]
  exact not_overflows floats (by rintro _ ⟨⟩)

/-- An integer that is not negative is written like an unsigned one. -/
theorem dumpInteger_positive {value : Int64} (positive : ¬ value < 0) :
    dumpInteger value = dumpUnsigned value.toUInt64 := by
  have above : ¬ value.toInt < 0 := fun below => positive (Int64.lt_iff_toInt_lt.mpr below)
  have known : 0 ≤ value := by
    rw [Int64.le_iff_toInt_le, Int64.toInt_zero]
    omega
  have same : value.toInt.natAbs = value.toInt.toNat := by omega
  rw [dumpInteger_eq, integerText, if_neg above, dumpUnsigned_eq,
    Int64.toNat_toUInt64_of_le known, ← Int64.toNat_toInt, same]

/-- The text of a signed integer. -/
theorem phrase_integer (value : Int64) :
    Phrase floats (.value (reread floats (.integer value))) (dumpInteger value) := by
  unfold reread
  by_cases negative : value < 0
  · have below : value.toInt < 0 := Int64.lt_iff_toInt_lt.mp negative
    have least := Int64.le_toInt value
    have worth : Numeral.value floats ⟨true, digitsOf value.toInt.natAbs, [], none⟩ =
        .integer value := by
      unfold Numeral.value
      rw [if_neg (by exact Bool.false_ne_true), if_pos rfl, numberOf_digitsOf, if_pos (by omega)]
      have same : -(value.toInt.natAbs : Int) = value.toInt := by omega
      rw [same, Int64.ofInt_toInt]
    have text : Numeral.text ⟨true, digitsOf value.toInt.natAbs, [], none⟩ =
        minus :: ofNat value.toInt.natAbs := congrArg (minus :: ·) (List.append_nil _)
    rw [dumpInteger_eq, integerText, if_pos negative, if_pos below, ← worth, ← text]
    refine .number (digitsOf_valid true _) ?_
    rw [worth]
    exact not_overflows floats (by rintro _ ⟨⟩)
  · rw [if_neg negative, dumpInteger_positive negative]
    exact phrase_unsigned floats _

/-- The text of a float, which is null if it is not finite. -/
theorem phrase_float (value : F.Double) :
    Phrase floats (.value (reread floats (.float value))) (dumpFloat floats value) := by
  unfold reread dumpFloat
  cases finite : floats.isFinite value with
  | false => exact .null
  | true =>
    rw [if_pos rfl, if_pos rfl]
    obtain ⟨numeral, valid, float, text, back⟩ := toChars_numeral floats finite
    have worth : numeral.value floats = .float value := by
      unfold Numeral.value
      rw [if_pos float, back]
    rw [← worth, ← text]
    refine .number valid ?_
    rw [worth]
    rintro ⟨number, same, infinite⟩
    cases same
    rw [finite] at infinite
    cases infinite

/-! ### Strings -/

theorem digitIn_hexDigit {digit : Nat} (small : digit < 16) :
    digitIn 16 (hexDigit digit) = some digit := by
  revert digit
  decide

theorem hex4_spec {number : Nat} (small : number < 2 ^ 16) : Hex4 (hex4 number) number := by
  refine ⟨[number / 4096 % 16, number / 256 % 16, number / 16 % 16, number % 16], ?_, rfl, ?_⟩
  · have read (part : Nat) : digitIn 16 (hexDigit (part % 16)) = some (part % 16) :=
      digitIn_hexDigit (Nat.mod_lt _ (by decide))
    unfold hex4
    simp only [List.mapM_cons, List.mapM_nil, read]
    rfl
  · simp only [List.reverse_cons, List.reverse_nil, List.nil_append, List.cons_append,
      Nat.ofDigits_cons, Nat.ofDigits_nil]
    omega

/-- A scalar value is written as one of the ways to write it. -/
theorem character_escaped (scalar : Char) : Character (escaped scalar) scalar := by
  have short {letter : UInt8} {special : Char} (row : (letter, special) ∈ shortEscapes)
      (same : scalar.val = special.val) : Character [backslash, letter] scalar := by
    rw [Char.ext same]
    exact .short row
  unfold escaped escape
  split
  · rename_i same
    exact short (by decide : ('b'.toUInt8, '\x08') ∈ shortEscapes) same
  split
  · rename_i same
    exact short (by decide : ('t'.toUInt8, '\t') ∈ shortEscapes) same
  split
  · rename_i same
    exact short (by decide : ('n'.toUInt8, '\n') ∈ shortEscapes) same
  split
  · rename_i same
    exact short (by decide : ('f'.toUInt8, '\x0C') ∈ shortEscapes) same
  split
  · rename_i same
    exact short (by decide : ('r'.toUInt8, '\r') ∈ shortEscapes) same
  split
  · rename_i same
    exact short (by decide : (quote, '"') ∈ shortEscapes) same
  split
  · rename_i same
    exact short (by decide : (backslash, '\\') ∈ shortEscapes) same
  rename_i quotes slash
  split
  · rename_i control
    have small : scalar.val.toNat < 2 ^ 16 :=
      Nat.lt_of_le_of_lt (UInt32.le_iff_toNat_le.mp control) (by decide)
    exact .unicode (hex4_spec small)
  · rename_i printable
    rw [UInt32.le_iff_toNat_le] at printable
    refine .plain (Nat.lt_of_not_le printable) ⟨?_, ?_⟩
    · rintro rfl
      exact quotes rfl
    · rintro rfl
      exact slash rfl

theorem body_escaped (scalars : List Char) : Body (scalars.flatMap escaped) scalars := by
  induction scalars with
  | nil => exact .nil
  | cons scalar scalars inductionHypothesis =>
    rw [List.flatMap_cons]
    exact .cons (character_escaped scalar) inductionHypothesis

/-- A key with its colon. -/
theorem keyText_escaped (key : String) :
    Nonempty (KeyText (quote :: key.toList.flatMap escaped ++ [quote, colon]) key) := by
  refine ⟨[], _, [], space_nil, space_nil, body_escaped key.toList, ?_⟩
  simp only [quoted, List.nil_append, List.append_nil, List.cons_append, List.append_assoc]

/-! ### Writing -/

/-- Something is written exactly when strings are UTF-8, and the only error is number 316. -/
def Writes (encoded : Prop) (outcome : Except Thrown (List UInt8))
    (property : List UInt8 → Prop) : Prop :=
  (encoded ∧ ∃ text, outcome = .ok text ∧ property text) ∨
    ¬ encoded ∧ ∃ what, outcome = .error (typeError 316 what)

section Rules

variable {encoded others : Prop} {outcome : Except Thrown (List UInt8)}
  {property result : List UInt8 → Prop}

theorem writes_ok {text : List UInt8} (holds : property text) :
    Writes True (.ok text) property := .inl ⟨trivial, text, rfl, holds⟩

theorem Writes.congr (writes : Writes encoded outcome property) (same : others ↔ encoded) :
    Writes others outcome property := by
  rwa [propext same]

theorem Writes.bind (writes : Writes encoded outcome property)
    {next : List UInt8 → Except Thrown (List UInt8)}
    (later : ∀ text, property text → Writes others (next text) result) :
    Writes (encoded ∧ others) (outcome >>= next) result := by
  obtain ⟨valid, text, rfl, holds⟩ | ⟨invalid, what, rfl⟩ := writes
  · exact (later text holds).congr (and_iff_right valid)
  · exact .inr ⟨fun both => invalid both.1, what, rfl⟩

end Rules

theorem writes_string (text : Text) :
    Writes (∃ scalars, text.bytes = encode scalars) (dumpEscaped text)
      fun written => ∃ scalars, text.bytes = encode scalars ∧
        written = scalars.flatMap escaped := by
  obtain ⟨scalars, valid, written⟩ | ⟨invalid, what, failed⟩ := dumpEscaped_cases text
  · exact .inl ⟨⟨scalars, valid⟩, _, written, scalars, valid, rfl⟩
  · exact .inr ⟨fun ⟨scalars, valid⟩ => invalid scalars valid, what, failed⟩

/-- The elements are a phrase by themselves, and also behind others. -/
structure ElementsText (values : List (Json F)) (text : List UInt8) : Prop where
  first : Phrase floats (.elements values) text
  later : ∀ before done, Phrase floats (.elements done) before →
    Phrase floats (.elements (done ++ values)) (before ++ comma :: text)

theorem nextElement_tight {values : List (Json F)} {json : Json F} {before text : List UInt8}
    (elements : Phrase floats (.elements values) before)
    (value : Phrase floats (.value json) text) :
    Phrase floats (.elements (values ++ [json])) (before ++ comma :: text) := by
  have phrase := Phrase.nextElement elements space_nil space_nil value
  rwa [List.append_nil] at phrase

theorem ElementsText.single {json : Json F} {text : List UInt8}
    (value : Phrase floats (.value json) text) : ElementsText floats [json] text :=
  ⟨.firstElement space_nil value, fun _ _ elements => nextElement_tight floats elements value⟩

theorem ElementsText.cons {json : Json F} {values : List (Json F)} {text rest : List UInt8}
    (value : Phrase floats (.value json) text) (others : ElementsText floats values rest) :
    ElementsText floats (json :: values) (text ++ comma :: rest) := by
  refine ⟨others.later text [json] (.firstElement space_nil value), fun before done elements => ?_⟩
  have phrase := others.later _ _ (nextElement_tight floats elements value)
  rwa [List.append_assoc, List.append_assoc] at phrase

theorem writes_elements (value : Json F) (rest : List (Json F))
    (each : ∀ other ∈ value :: rest, Writes other.Encoded (write floats other)
      (Phrase floats (.value (reread floats other)))) :
    Writes (∀ other ∈ value :: rest, other.Encoded) (writeElements floats (value :: rest))
      (ElementsText floats ((value :: rest).map (reread floats))) := by
  induction rest generalizing value with
  | nil =>
    have first := each value List.mem_cons_self
    have single : Writes (value.Encoded ∧ True) (writeElements floats [value])
        (ElementsText floats [reread floats value]) := by
      rw [writeElements]
      exact first.bind fun text phrase => writes_ok (.single floats phrase)
    exact single.congr (by rw [and_true, List.forall_mem_singleton])
  | cons second rest inductionHypothesis =>
    have first := each value List.mem_cons_self
    have others := inductionHypothesis second fun other member =>
      each other (List.mem_cons_of_mem _ member)
    have whole : Writes (value.Encoded ∧ (∀ other ∈ second :: rest, other.Encoded) ∧ True)
        (writeElements floats (value :: second :: rest))
        (ElementsText floats ((value :: second :: rest).map (reread floats))) := by
      rw [writeElements]
      exact first.bind fun text phrase => others.bind fun written elements =>
        writes_ok (.cons floats phrase elements)
    exact whole.congr (by rw [and_true, List.forall_mem_cons])

/-- The text of a member. -/
def memberText (key : String) (text : List UInt8) : List UInt8 :=
  quote :: key.toList.flatMap escaped ++ quote :: colon :: text

/-- The members are a phrase by themselves, and also behind others with lower keys. -/
structure MembersText (fields : List (String × Json F)) (text : List UInt8) : Prop where
  first : Phrase floats (.members fields) text
  later : ∀ before done, InOrder (done ++ fields) → Phrase floats (.members done) before →
    Phrase floats (.members (done ++ fields)) (before ++ comma :: text)

theorem above_of_inOrder {done rest : List (String × Json F)} {key : String} {json : Json F}
    (sorted : InOrder (done ++ (key, json) :: rest)) : ∀ field ∈ done, field.1 < key :=
  fun field member => (List.pairwise_append.mp sorted).2.2 field member _ List.mem_cons_self

theorem firstMember_tight {key : String} {json : Json F} {text : List UInt8}
    (value : Phrase floats (.value json) text) :
    Phrase floats (.members [(key, json)]) (memberText key text) := by
  have phrase := Phrase.firstMember (keyText_escaped key) space_nil value
  have same : quote :: key.toList.flatMap escaped ++ [quote, colon] ++ [] ++ text =
      memberText key text := by
    simp only [memberText, List.append_nil, List.cons_append, List.append_assoc, List.nil_append]
  rwa [same] at phrase

theorem nextMember_tight {fields : List (String × Json F)} {key : String} {json : Json F}
    {before text : List UInt8} (above : ∀ field ∈ fields, field.1 < key)
    (members : Phrase floats (.members fields) before) (value : Phrase floats (.value json) text) :
    Phrase floats (.members (fields ++ [(key, json)]))
      (before ++ comma :: memberText key text) := by
  have phrase := Phrase.nextMember members space_nil (keyText_escaped key) space_nil value
  have same : before ++ [] ++ comma :: (quote :: key.toList.flatMap escaped ++ [quote, colon] ++
      [] ++ text) = before ++ comma :: memberText key text := by
    simp only [memberText, List.append_nil, List.cons_append, List.append_assoc, List.nil_append]
  rwa [same, Json.insertField_last above] at phrase

theorem MembersText.single {key : String} {json : Json F} {text : List UInt8}
    (value : Phrase floats (.value json) text) :
    MembersText floats [(key, json)] (memberText key text) :=
  ⟨firstMember_tight floats value, fun _ _ sorted members =>
    nextMember_tight floats (above_of_inOrder sorted) members value⟩

theorem MembersText.cons {key : String} {json : Json F} {fields : List (String × Json F)}
    {text rest : List UInt8} (sorted : InOrder ((key, json) :: fields))
    (value : Phrase floats (.value json) text) (others : MembersText floats fields rest) :
    MembersText floats ((key, json) :: fields) (memberText key text ++ comma :: rest) := by
  refine ⟨others.later _ [(key, json)] sorted (firstMember_tight floats value),
    fun before done sorted members => ?_⟩
  have split : done ++ (key, json) :: fields = done ++ [(key, json)] ++ fields := by
    rw [List.append_assoc]
    rfl
  have phrase := others.later _ _ (split ▸ sorted)
    (nextMember_tight floats (above_of_inOrder sorted) members value)
  rwa [← split, List.append_assoc] at phrase

theorem inOrder_reread {fields : List (String × Json F)} (sorted : InOrder fields) :
    InOrder (fields.map (rereadField floats)) :=
  List.pairwise_map.mpr sorted

theorem writes_members (field : String × Json F) (rest : List (String × Json F))
    (sorted : InOrder (field :: rest))
    (each : ∀ other ∈ field :: rest, Writes other.2.Encoded (write floats other.2)
      (Phrase floats (.value (reread floats other.2)))) :
    Writes (∀ other ∈ field :: rest, other.2.Encoded) (writeMembers floats (field :: rest))
      (MembersText floats ((field :: rest).map (rereadField floats))) := by
  induction rest generalizing field with
  | nil =>
    have first := each field List.mem_cons_self
    obtain ⟨key, value⟩ := field
    have single : Writes (value.Encoded ∧ True) (writeMembers floats [(key, value)])
        (MembersText floats [(key, reread floats value)]) := by
      rw [writeMembers, Text.ofKey, dumpEscaped_encode, Json.ok_bind]
      exact first.bind fun text phrase => writes_ok (.single floats phrase)
    exact single.congr (by rw [and_true, List.forall_mem_singleton])
  | cons second rest inductionHypothesis =>
    have first := each field List.mem_cons_self
    have others := inductionHypothesis second (List.pairwise_cons.mp sorted).2
      fun other member => each other (List.mem_cons_of_mem _ member)
    have ordered := inOrder_reread floats sorted
    obtain ⟨key, value⟩ := field
    have whole : Writes (value.Encoded ∧ (∀ other ∈ second :: rest, other.2.Encoded) ∧ True)
        (writeMembers floats ((key, value) :: second :: rest))
        (MembersText floats (((key, value) :: second :: rest).map (rereadField floats))) := by
      rw [writeMembers, Text.ofKey, dumpEscaped_encode, Json.ok_bind]
      exact first.bind fun text phrase => others.bind fun written members =>
        writes_ok (.cons floats ordered phrase members)
    exact whole.congr (by rw [and_true, List.forall_mem_cons])

theorem text_brackets : (Text.ofLiteral "[]").bytes = [openBracket, closeBracket] := by
  decide +kernel

theorem text_braces : (Text.ofLiteral "\x7b\x7d").bytes = [openBrace, closeBrace] := by
  decide +kernel

/-- A value is written as a phrase that stands for it. -/
theorem writes_value (json : Json F) (ordered : json.Ordered) :
    Writes json.Encoded (write floats json) (Phrase floats (.value (reread floats json))) := by
  have plain {json : Json F} {text : List UInt8} (encoded : json.Encoded)
      (phrase : Phrase floats (.value (reread floats json)) text) :
      Writes json.Encoded (.ok text) (Phrase floats (.value (reread floats json))) :=
    (writes_ok phrase).congr (iff_true_intro encoded)
  induction json using Json.nested with
  | null => exact plain (by rintro _ ⟨⟩) .null
  | boolean value =>
    cases value with
    | true => exact plain (by rintro _ ⟨⟩) .literalTrue
    | false => exact plain (by rintro _ ⟨⟩) .literalFalse
  | integer value => exact plain (by rintro _ ⟨⟩) (phrase_integer floats value)
  | unsigned value => exact plain (by rintro _ ⟨⟩) (phrase_unsigned floats value)
  | float value => exact plain (by rintro _ ⟨⟩) (phrase_float floats value)
  | string text =>
    have whole : Writes ((∃ scalars, text.bytes = encode scalars) ∧ True)
        (write floats (.string text)) (Phrase floats (.value (.string text))) := by
      rw [write]
      refine (writes_string text).bind fun written ⟨scalars, valid, same⟩ => writes_ok ?_
      obtain ⟨bytes⟩ := text
      have valid : bytes = encode scalars := valid
      rw [same, valid]
      exact .string (body_escaped scalars)
    exact whole.congr (by rw [and_true, Json.encoded_string])
  | array elements inductionHypothesis =>
    rw [Json.ordered_array] at ordered
    cases elements with
    | nil =>
      refine plain ((Json.encoded_array []).mpr (List.forall_mem_nil _)) ?_
      rw [text_brackets]
      exact .emptyArray space_nil
    | cons value rest =>
      have each := writes_elements floats value rest fun other member =>
        inductionHypothesis other member (ordered other member)
      have whole : Writes ((∀ other ∈ value :: rest, other.Encoded) ∧ True)
          (write floats (.array (value :: rest)))
          (Phrase floats (.value (reread floats (.array (value :: rest))))) := by
        rw [write, reread, rereadElements_eq]
        · refine each.bind fun text elements => writes_ok ?_
          have phrase := Phrase.array elements.first space_nil
          rwa [List.append_nil] at phrase
        · rintro ⟨⟩
      exact whole.congr (by rw [and_true, Json.encoded_array])
  | object fields inductionHypothesis =>
    rw [Json.ordered_object] at ordered
    cases fields with
    | nil =>
      refine plain ((Json.encoded_object []).mpr (List.forall_mem_nil _)) ?_
      rw [text_braces]
      exact .emptyObject space_nil
    | cons field rest =>
      have each := writes_members floats field rest ordered.1 fun other member =>
        inductionHypothesis other member (ordered.2 other member)
      have whole : Writes ((∀ other ∈ field :: rest, other.2.Encoded) ∧ True)
          (write floats (.object (field :: rest)))
          (Phrase floats (.value (reread floats (.object (field :: rest))))) := by
        rw [write, reread, rereadFields_eq]
        · refine each.bind fun text members => writes_ok ?_
          have phrase := Phrase.object members.first space_nil
          rwa [List.append_nil] at phrase
        · rintro ⟨⟩
      exact whole.congr (by rw [and_true, Json.encoded_object])

/-! ### What was read is written -/

theorem plain_of_numeral (numeral : Numeral) :
    (numeral.value floats).Encoded ∧ (numeral.value floats).Ordered := by
  unfold Numeral.value
  repeat' split
  all_goals exact ⟨by rintro _ ⟨⟩, by rintro _ ⟨⟩⟩

/-- What holds of a value that was read, and of the values in what it was read from. -/
def WellRead : Item F → Prop
  | .value json => json.Encoded ∧ json.Ordered
  | .elements values => ∀ value ∈ values, value.Encoded ∧ value.Ordered
  | .members fields => InOrder fields ∧ ∀ field ∈ fields, field.2.Encoded ∧ field.2.Ordered

/-- A value that was read has its strings in UTF-8 and its objects in order. -/
theorem wellRead_of_phrase {item : Item F} {text : List UInt8} (phrase : Phrase floats item text) :
    WellRead item := by
  induction phrase with
  | null | literalTrue | literalFalse => exact ⟨by rintro _ ⟨⟩, by rintro _ ⟨⟩⟩
  | number => exact plain_of_numeral floats _
  | @string source scalars =>
    exact ⟨(Json.encoded_string _).mpr ⟨scalars, rfl⟩, by rintro _ ⟨⟩⟩
  | emptyArray =>
    exact ⟨(Json.encoded_array _).mpr (List.forall_mem_nil _),
      (Json.ordered_array _).mpr (List.forall_mem_nil _)⟩
  | array _ _ elements =>
    exact ⟨(Json.encoded_array _).mpr fun value member => (elements value member).1,
      (Json.ordered_array _).mpr fun value member => (elements value member).2⟩
  | emptyObject =>
    exact ⟨(Json.encoded_object _).mpr (List.forall_mem_nil _),
      (Json.ordered_object _).mpr ⟨List.Pairwise.nil, List.forall_mem_nil _⟩⟩
  | object _ _ members =>
    exact ⟨(Json.encoded_object _).mpr fun field member => (members.2 field member).1,
      (Json.ordered_object _).mpr ⟨members.1, fun field member => (members.2 field member).2⟩⟩
  | firstElement _ _ value => exact List.forall_mem_singleton.mpr value
  | nextElement _ _ _ _ elements value =>
    exact List.forall_mem_append.mpr ⟨elements, List.forall_mem_singleton.mpr value⟩
  | firstMember _ _ _ value =>
    exact ⟨List.pairwise_singleton .., List.forall_mem_singleton.mpr value⟩
  | nextMember _ _ _ _ _ members value =>
    refine ⟨Json.insertField_inOrder members.1 _ _, fun field member => ?_⟩
    obtain rfl | old := Json.mem_insertField member
    · exact value
    · exact members.2 field old

theorem writeElements_reread (elements : List (Json F))
    (each : ∀ value ∈ elements, write floats (reread floats value) = write floats value) :
    writeElements floats (elements.map (reread floats)) = writeElements floats elements := by
  induction elements with
  | nil => rfl
  | cons value rest inductionHypothesis =>
    have first := each value List.mem_cons_self
    have others := inductionHypothesis fun other member =>
      each other (List.mem_cons_of_mem _ member)
    cases rest with
    | nil =>
      have single (value : Json F) : writeElements floats [value] =
          write floats value >>= fun text => pure text := by rw [writeElements]
      rw [List.map_cons, List.map_nil, single, single, first]
    | cons second rest =>
      rw [List.map_cons, writeElements, writeElements, first, others]
      rfl

theorem writeMembers_reread (fields : List (String × Json F))
    (each : ∀ field ∈ fields, write floats (reread floats field.2) = write floats field.2) :
    writeMembers floats (fields.map (rereadField floats)) = writeMembers floats fields := by
  induction fields with
  | nil => rfl
  | cons field rest inductionHypothesis =>
    have first := each field List.mem_cons_self
    have others := inductionHypothesis fun other member =>
      each other (List.mem_cons_of_mem _ member)
    obtain ⟨key, value⟩ := field
    cases rest with
    | nil =>
      have single (value : Json F) : writeMembers floats [(key, value)] = (do
          let escaped ← dumpEscaped (Text.ofKey key)
          let text ← write floats value
          pure (quote :: escaped ++ quote :: ':'.toUInt8 :: text)) := by rw [writeMembers]
      dsimp only at first
      rw [List.map_cons, List.map_nil, rereadField, single, single, first]
    | cons second rest =>
      rw [List.map_cons, rereadField, writeMembers, writeMembers]
      dsimp only at first ⊢
      rw [first, others]
      rfl

/-- A value as it is read back is written the same. -/
theorem write_reread (json : Json F) : write floats (reread floats json) = write floats json := by
  induction json using Json.nested with
  | integer value =>
    unfold reread
    split
    · rfl
    · rename_i positive
      rw [write, write, dumpInteger_positive positive]
  | float value =>
    unfold reread
    split
    · rfl
    · rename_i infinite
      rw [write, write, dumpFloat, if_neg infinite]
  | array elements inductionHypothesis =>
    have each := writeElements_reread floats elements inductionHypothesis
    rw [reread, rereadElements_eq]
    cases elements with
    | nil => rfl
    | cons value rest =>
      rw [write, write, each]
      · rintro ⟨⟩
      · rintro ⟨⟩
  | object fields inductionHypothesis =>
    have each := writeMembers_reread floats fields inductionHypothesis
    rw [reread, rereadFields_eq]
    cases fields with
    | nil => rfl
    | cons field rest =>
      rw [write, write, each]
      · rintro ⟨⟩
      · rintro ⟨⟩
  | null | boolean | unsigned | string => rfl

/-- A value as it is read back keeps its strings and its order. -/
theorem encoded_ordered_reread (json : Json F) (read : json.Encoded ∧ json.Ordered) :
    (reread floats json).Encoded ∧ (reread floats json).Ordered := by
  induction json using Json.nested with
  | integer value =>
    unfold reread
    split <;> exact ⟨by rintro _ ⟨⟩, by rintro _ ⟨⟩⟩
  | float value =>
    unfold reread
    split <;> exact ⟨by rintro _ ⟨⟩, by rintro _ ⟨⟩⟩
  | array elements inductionHypothesis =>
    rw [Json.encoded_array, Json.ordered_array] at read
    rw [reread, rereadElements_eq, Json.encoded_array, Json.ordered_array, List.forall_mem_map,
      List.forall_mem_map, ← forall₂_and]
    exact fun value member =>
      inductionHypothesis value member ⟨read.1 value member, read.2 value member⟩
  | object fields inductionHypothesis =>
    rw [Json.encoded_object, Json.ordered_object] at read
    rw [reread, rereadFields_eq, Json.encoded_object, Json.ordered_object, List.forall_mem_map,
      List.forall_mem_map]
    have each := fun field member =>
      inductionHypothesis field member ⟨read.1 field member, read.2.2 field member⟩
    exact ⟨fun field member => (each field member).1, inOrder_reread floats read.2.1,
      fun field member => (each field member).2⟩
  | null | boolean | unsigned | string => exact read

/-! ### Texts -/

theorem document_of_phrase {json : Json F} {text : List UInt8}
    (phrase : Phrase floats (.value json) text) : Document floats text json := by
  refine ⟨[], [], text, [], [], ?_, .inl rfl, space_nil, phrase, space_nil, .inl rfl⟩
  rw [List.append_nil, List.append_nil]
  rfl

/-- A value whose strings are UTF-8 is written, and read back. -/
theorem dump_encoded {json : Json F} (encoded : json.stored.Encoded) :
    ∃ text, dump floats json = .ok text ∧ parse floats text = .ok (reread floats json.stored) := by
  obtain ⟨_, text, written, phrase⟩ | ⟨invalid, _⟩ :=
    writes_value floats json.stored json.stored_ordered
  · refine ⟨⟨text⟩, ?_, parse_document (document_of_phrase floats phrase)⟩
    unfold dump
    rw [written]
    rfl
  · exact absurd encoded invalid

/-- What is written is a text of the value that is read back. -/
theorem phrase_of_dump {json : Json F} {text : Text} (dumped : dump floats json = .ok text) :
    Phrase floats (.value (reread floats json.stored)) text.bytes := by
  unfold dump at dumped
  obtain ⟨_, bytes, written, phrase⟩ | ⟨_, what, failed⟩ :=
    writes_value floats json.stored json.stored_ordered
  · rw [written] at dumped
    cases dumped
    exact phrase
  · rw [failed] at dumped
    cases dumped

theorem parse_of_dump {json : Json F} {text : Text} (dumped : dump floats json = .ok text) :
    parse floats text = .ok (reread floats json.stored) :=
  parse_document (document_of_phrase floats (phrase_of_dump floats dumped))

/-- No value is written as nothing. -/
theorem dump_ne_empty (json : Json F) : dump floats json ≠ .ok Text.empty := by
  intro dumped
  obtain ⟨byte, bytes, split, _⟩ := Parser.begins_phrase (phrase_of_dump floats dumped)
  cases split

/-- What a value is written as is read back as the value, but for the order of members, the sign of
integers and floats that are not finite; a value that cannot be written has a string that is not
UTF-8. -/
theorem dump_decides (json : Json F) :
    match dump floats json with
    | .ok text => json.stored.Encoded ∧ parse floats text = .ok (reread floats json.stored)
    | .error thrown => ¬ json.stored.Encoded ∧ ∃ what, thrown = typeError 316 what := by
  obtain ⟨encoded, text, written, phrase⟩ | ⟨invalid, what, failed⟩ :=
    writes_value floats json.stored json.stored_ordered
  · unfold dump
    rw [written]
    exact ⟨encoded, parse_document (document_of_phrase floats phrase)⟩
  · unfold dump
    rw [failed]
    exact ⟨invalid, what, rfl⟩

/-- A value that can be written and has its objects in order. -/
theorem dump_ordered {json : Json F} (read : json.Encoded ∧ json.Ordered) :
    ∃ text, dump floats json = .ok text ∧ write floats json = .ok text.bytes ∧
      parse floats text = .ok (reread floats json) := by
  obtain ⟨_, text, written, phrase⟩ | ⟨invalid, _⟩ := writes_value floats json read.2
  · refine ⟨⟨text⟩, ?_, written, parse_document (document_of_phrase floats phrase)⟩
    unfold dump
    rw [Json.stored_of_ordered json read.2, written]
    rfl
  · exact absurd read.1 invalid

/-- A value that was read is written, and what is written is what it is written as when it is read
back. -/
theorem reread_stable {json : Json F} (read : json.Encoded ∧ json.Ordered) :
    ∃ canonical, dump floats json = .ok canonical ∧
      parse floats canonical = .ok (reread floats json) ∧
      dump floats (reread floats json) = .ok canonical := by
  obtain ⟨canonical, dumped, written, back⟩ := dump_ordered floats read
  obtain ⟨again, dumpedAgain, writtenAgain, _⟩ :=
    dump_ordered floats (encoded_ordered_reread floats json read)
  rw [write_reread, written] at writtenAgain
  have same : canonical = again := congrArg Text.mk (Except.ok.inj writtenAgain)
  exact ⟨canonical, dumped, back, by rw [dumpedAgain, same]⟩

/-- A text that is parsed can be written again, and what is written then is written whenever it is
parsed. -/
theorem parse_dump_stable (text : Text) :
    match parse floats text with
    | .ok json => ∃ canonical, dump floats json = .ok canonical ∧
        parse floats canonical = .ok (reread floats json) ∧
        dump floats (reread floats json) = .ok canonical
    | .error _ => True := by
  obtain ⟨json, document, parsed⟩ | ⟨error, failed, _⟩ := parse_cases floats text
  · rw [parsed]
    obtain ⟨_, _, _, _, _, _, _, _, phrase, _⟩ := document
    exact reread_stable floats (wellRead_of_phrase floats phrase)
  · rw [failed]
    trivial

end Nlohmann.Serializer
