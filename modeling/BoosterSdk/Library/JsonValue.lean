/-
This file is a library for JSON values that are read and written field by field.

A value knows how its numbers were stored: as signed or unsigned 64-bit integers or
in double precision. Reading converts to the type that is asked for and throws when
the value is of another kind. A field access makes an object of null and gives null
for a key that is missing; the null it leaves behind is not told from absence by a
later access, so a read does not return the value it was made on. The fields of an
object are listed by key, in an order that no operation here depends on.

Floating point is a parameter: two precisions with the conversions between them and
the integers, of which only one law is asked, that a single widened to a double is
narrowed back to itself.
-/

import Mathlib.Data.List.Basic

/-- The floating-point types and their conversions. -/
structure NumberFormat where
  Single : Type
  Double : Type
  widen : Single → Double
  narrow : Double → Single
  narrow_widen : ∀ x, narrow (widen x) = x
  singleOfInt : Int → Single
  doubleOfInt : Int → Double
  truncate : Double → Int

/-- A string of bytes. -/
structure Text where
  bytes : List UInt8
  deriving DecidableEq

/-- The bytes of a literal. -/
def Text.ofLiteral (literal : String) : Text := ⟨literal.toUTF8.toList⟩

def Text.empty : Text := ⟨[]⟩

def Text.isEmpty (text : Text) : Bool := text.bytes.isEmpty

@[simp] theorem Text.isEmpty_iff {text : Text} : text.isEmpty = true ↔ text = Text.empty := by
  obtain ⟨bytes⟩ := text
  rw [Text.mk.injEq]
  exact List.isEmpty_iff

/-- The `char`s of a string, which are signed. -/
def Text.chars (text : Text) : List Int8 := text.bytes.map UInt8.toInt8

instance : Append Text where
  append first second := ⟨first.bytes ++ second.bytes⟩

@[simp] theorem Text.bytes_append (first second : Text) :
    (first ++ second).bytes = first.bytes ++ second.bytes := rfl

/-- A JSON value. -/
inductive Json (F : NumberFormat) where
  | null
  | boolean (value : Bool)
  | integer (value : Int64)
  | unsigned (value : UInt64)
  | float (value : F.Double)
  | string (value : Text)
  | array (elements : List (Json F))
  | object (fields : List (String × Json F))

/-- What reading or writing can throw. -/
inductive Thrown where
  | json (id : Nat) (what : String)
  | runtimeError (what : String)
  deriving DecidableEq

namespace Json

variable {F : NumberFormat}

/-! ### Errors -/

def typeName : Json F → String
  | null => "null"
  | boolean _ => "boolean"
  | integer _ => "number"
  | unsigned _ => "number"
  | float _ => "number"
  | string _ => "string"
  | array _ => "array"
  | object _ => "object"

/-- An error about the type of a value. -/
def typeError (id : Nat) (what : String) (value : Json F) : Thrown :=
  .json id ("[json.exception.type_error." ++ toString id ++ "] " ++ what ++ value.typeName)

/-- An error about a key that is missing. -/
def keyError (key : String) : Thrown :=
  .json 403 ("[json.exception.out_of_range.403] key '" ++ key ++ "' not found")

/-- An error of a value becomes an error of the class that reads it. -/
def rethrow {α : Type} (whose : String) : Except Thrown α → Except Thrown α
  | .error (.json _ what) => .error (.runtimeError (whose ++ what))
  | other => other

/-! ### Fields -/

/-- The value of a key. -/
def field (key : String) : List (String × Json F) → Option (Json F)
  | [] => none
  | (other, value) :: rest => if other = key then some value else field key rest

/-- The fields with a key set to a value. -/
def setField (key : String) (value : Json F) : List (String × Json F) → List (String × Json F)
  | [] => [(key, value)]
  | (other, old) :: rest =>
    if other = key then (key, value) :: rest else (other, old) :: setField key value rest

/-- `json[key]`, read. -/
def index : Json F → String → Except Thrown (Json F)
  | object fields, key => .ok ((field key fields).getD null)
  | null, _ => .ok null
  | other, _ => .error (typeError 305 "cannot use operator[] with a string argument with " other)

/-- `json[key] = value`. -/
def assign : Json F → String → Json F → Except Thrown (Json F)
  | object fields, key, value => .ok (object (setField key value fields))
  | null, key, value => .ok (object [(key, value)])
  | other, _, _ =>
    .error (typeError 305 "cannot use operator[] with a string argument with " other)

/-- `json.at(key)`. -/
def at_ : Json F → String → Except Thrown (Json F)
  | object fields, key => (field key fields).elim (.error (keyError key)) .ok
  | other, _ => .error (typeError 304 "cannot use at() with " other)

/-- `json.contains(key)`. -/
def contains : Json F → String → Bool
  | object fields, key => (field key fields).isSome
  | _, _ => false

def isNull : Json F → Bool
  | null => true
  | _ => false

/-- `json.contains(key) && !json[key].is_null()`. -/
def present : Json F → String → Bool
  | object fields, key => (field key fields).any fun value => !value.isNull
  | _, _ => false

/-! ### Arrays -/

def isArray : Json F → Bool
  | array _ => true
  | _ => false

/-- What a loop over a value goes through. -/
def elements : Json F → List (Json F)
  | null => []
  | array values => values
  | object fields => fields.map Prod.snd
  | other => [other]

/-- `json.push_back(value)`. -/
def pushBack : Json F → Json F → Except Thrown (Json F)
  | null, value => .ok (array [value])
  | array values, value => .ok (array (values ++ [value]))
  | other, _ => .error (typeError 308 "cannot use push_back() with " other)

/-- `json[key].push_back(value)`. -/
def pushBackAt (json : Json F) (key : String) (value : Json F) : Except Thrown (Json F) := do
  let extended ← (← json.index key).pushBack value
  json.assign key extended

/-! ### Conversions -/

/-- A number, converted from how it was stored. -/
def arithmetic {α : Type} (ofInt : Int → α) (ofDouble : F.Double → α) : Json F → Except Thrown α
  | unsigned value => .ok (ofInt value.toNat)
  | integer value => .ok (ofInt value.toInt)
  | float value => .ok (ofDouble value)
  | other => .error (typeError 302 "type must be number, but is " other)

/-- A number or a boolean, as the narrower number types are read. -/
def arithmeticOrBoolean {α : Type} (ofInt : Int → α) (ofDouble : F.Double → α) :
    Json F → Except Thrown α
  | boolean value => .ok (ofInt value.toNat)
  | other => arithmetic ofInt ofDouble other

/-- The types that are stored in JSON values. -/
class Stored (F : NumberFormat) (α : Type) where
  encode : α → Json F
  decode : Json F → Except Thrown α
  decode_encode : ∀ value, decode (encode value) = .ok value

export Stored (encode decode decode_encode)

instance : Stored F Bool where
  encode := boolean
  decode
    | boolean value => .ok value
    | other => .error (typeError 302 "type must be boolean, but is " other)
  decode_encode _ := rfl

instance : Stored F Text where
  encode := string
  decode
    | string value => .ok value
    | other => .error (typeError 302 "type must be string, but is " other)
  decode_encode _ := rfl

instance : Stored F Int64 where
  encode := integer
  decode := arithmetic Int64.ofInt fun value => Int64.ofInt (F.truncate value)
  decode_encode value := congrArg Except.ok (Int64.ofInt_toInt value)

instance : Stored F Int32 where
  encode value := integer value.toInt64
  decode := arithmeticOrBoolean Int32.ofInt fun value => Int32.ofInt (F.truncate value)
  decode_encode value := by
    refine congrArg Except.ok ?_
    rw [Int32.toInt_toInt64, Int32.ofInt_toInt]

instance : Stored F UInt8 where
  encode value := unsigned value.toUInt64
  decode := arithmeticOrBoolean UInt8.ofInt fun value => UInt8.ofInt (F.truncate value)
  decode_encode value := by
    refine congrArg Except.ok ?_
    rw [← UInt8.toNat_inj]
    unfold UInt8.ofInt
    rw [UInt8.toNat_toUInt64, UInt8.toNat_ofNat']
    have bound := value.toNat_lt
    omega

/-- A type of numbers in double precision. -/
structure Double (F : NumberFormat) where
  value : F.Double

/-- A type of numbers in single precision. -/
structure Single (F : NumberFormat) where
  value : F.Single

instance : Stored F (Double F) where
  encode number := float number.value
  decode := arithmetic (fun value => ⟨F.doubleOfInt value⟩) Double.mk
  decode_encode _ := rfl

instance : Stored F (Single F) where
  encode number := float (F.widen number.value)
  decode := arithmeticOrBoolean (fun value => ⟨F.singleOfInt value⟩)
    fun value => ⟨F.narrow value⟩
  decode_encode number := congrArg (fun value => Except.ok (Single.mk value))
    (F.narrow_widen number.value)

instance {α : Type} [Stored F α] : Stored F (List α) where
  encode values := array (values.map encode)
  decode
    | array values => values.mapM decode
    | other => .error (typeError 302 "type must be array, but is " other)
  decode_encode values := by
    show (values.map encode).mapM decode = _
    induction values with
    | nil => rfl
    | cons value rest inductionHypothesis =>
      rw [List.map_cons, List.mapM_cons, inductionHypothesis, decode_encode]
      rfl

/-- An enumeration is stored as the value of its underlying type. -/
@[reducible] def enumeration {α : Type} (toUnderlying : α → Int32) (ofUnderlying : Int32 → α)
    (inverse : ∀ value, ofUnderlying (toUnderlying value) = value) : Stored F α where
  encode value := integer (toUnderlying value).toInt64
  decode json :=
    (arithmetic Int32.ofInt (fun value => Int32.ofInt (F.truncate value)) json).map ofUnderlying
  decode_encode value := by
    refine congrArg Except.ok ?_
    rw [Int32.toInt_toInt64, Int32.ofInt_toInt, inverse]

/-! ### Reading and writing fields -/

section Typed

variable {α : Type} [Stored F α]

/-- `json[key] = value`, for a value that is stored. -/
def store (json : Json F) (key : String) (value : α) : Except Thrown (Json F) :=
  json.assign key (encode value)

/-- `json[key]`, converted. -/
def load (json : Json F) (key : String) : Except Thrown α := json.index key >>= decode

/-- `json.at(key)`, converted. -/
def loadAt (json : Json F) (key : String) : Except Thrown α := json.at_ key >>= decode

/-- A member that is read under a condition and left as it was otherwise. -/
def readWhen {α : Type} (condition : Bool) (read : Except Thrown α) (old : α) :
    Except Thrown α := if condition then read else .ok old

/-- `if (json.contains(key)) member = json[key];`. -/
def loadIfContained (json : Json F) (key : String) : α → Except Thrown α :=
  readWhen (json.contains key) (json.load key)

/-- `if (json.contains(key)) member = json.at(key);`. -/
def loadAtIfContained (json : Json F) (key : String) : α → Except Thrown α :=
  readWhen (json.contains key) (json.loadAt key)

/-- `if (json.contains(key) && !json[key].is_null()) member = json[key];`. -/
def loadIfPresent (json : Json F) (key : String) : α → Except Thrown α :=
  readWhen (json.present key) (json.load key)

/-- `json.value(key, otherwise)`. -/
def valueOr (json : Json F) (key : String) (otherwise : α) : Except Thrown α :=
  match json with
  | object fields => (field key fields).elim (.ok otherwise) decode
  | other => .error (typeError 306 "cannot use value() with " other)

end Typed

/-! ### Loops over nested values -/

/-- A loop that pushes what each value writes to the array of a key. -/
def pushEach {α : Type} (json : Json F) (key : String) (write : α → Except Thrown (Json F))
    (values : List α) : Except Thrown (Json F) :=
  values.foldlM (fun json value => write value >>= json.pushBackAt key) json

/-- A loop that reads each element and pushes what it read. -/
def readEach {α : Type} (json : Json F) (read : Json F → Except Thrown α) (values : List α) :
    Except Thrown (List α) :=
  json.elements.foldlM (fun values item => (fun value => values ++ [value]) <$> read item) values

/-! ### What a value written field by field reads back -/

attribute [simp] Stored.decode_encode

@[simp] theorem ok_bind {α β : Type} (value : α) (next : α → Except Thrown β) :
    (Except.ok value >>= next) = next value := rfl

/-- What came before a result that was not thrown. -/
theorem bind_eq_ok {α β : Type} {first : Except Thrown α} {next : α → Except Thrown β} {result : β}
    (returned : (first >>= next) = .ok result) :
    ∃ value, first = .ok value ∧ next value = .ok result := by
  cases first with
  | error thrown => cases returned
  | ok value => exact ⟨value, rfl, returned⟩

@[simp] theorem rethrow_ok {α : Type} (whose : String) (value : α) :
    rethrow whose (.ok value) = .ok value := rfl

theorem eq_ok_of_rethrow {α : Type} {whose : String} {read : Except Thrown α} {value : α}
    (returned : rethrow whose read = .ok value) : read = .ok value := by
  cases read with
  | error thrown => cases thrown <;> cases returned
  | ok other => exact returned

@[simp] theorem field_nil (key : String) : field key ([] : List (String × Json F)) = none := rfl

@[simp] theorem field_cons (key other : String) (value : Json F) (rest : List (String × Json F)) :
    field key ((other, value) :: rest) = if other = key then some value else field key rest := rfl

@[simp] theorem setField_nil (key : String) (value : Json F) :
    setField key value [] = [(key, value)] := rfl

@[simp] theorem setField_cons (key other : String) (value old : Json F)
    (rest : List (String × Json F)) :
    setField key value ((other, old) :: rest) =
      if other = key then (key, value) :: rest
      else (other, old) :: setField key value rest := rfl

@[simp] theorem index_object (fields : List (String × Json F)) (key : String) :
    (object fields).index key = .ok ((field key fields).getD null) := rfl

@[simp] theorem at_object (fields : List (String × Json F)) (key : String) :
    (object fields).at_ key = (field key fields).elim (.error (keyError key)) .ok := rfl

@[simp] theorem assign_null (key : String) (value : Json F) :
    (null : Json F).assign key value = .ok (object [(key, value)]) := rfl

@[simp] theorem assign_object (fields : List (String × Json F)) (key : String) (value : Json F) :
    (object fields).assign key value = .ok (object (setField key value fields)) := rfl

@[simp] theorem contains_object (fields : List (String × Json F)) (key : String) :
    (object fields).contains key = (field key fields).isSome := rfl

section Typed

variable {α : Type} [Stored F α]

@[simp] theorem store_null (key : String) (value : α) :
    (null : Json F).store key value = .ok (object [(key, encode value)]) := rfl

@[simp] theorem store_object (fields : List (String × Json F)) (key : String) (value : α) :
    (object fields).store key value = .ok (object (setField key (encode value) fields)) := rfl

@[simp] theorem load_object (fields : List (String × Json F)) (key : String) :
    (object fields).load key =
      (decode ((field key fields).getD null) : Except Thrown α) := rfl

@[simp] theorem loadAt_object (fields : List (String × Json F)) (key : String) :
    (object fields).loadAt key =
      ((field key fields).elim (.error (keyError key)) .ok >>= decode : Except Thrown α) := rfl

@[simp] theorem valueOr_object (fields : List (String × Json F)) (key : String) (otherwise : α) :
    (object fields).valueOr key otherwise = (field key fields).elim (.ok otherwise) decode := rfl

end Typed

@[simp] theorem present_object (fields : List (String × Json F)) (key : String) :
    (object fields).present key = (field key fields).any fun value => !value.isNull := rfl

@[simp] theorem loadIfContained_object {α : Type} [Stored F α] (fields : List (String × Json F))
    (key : String) (old : α) :
    (object fields).loadIfContained key old =
      readWhen (field key fields).isSome (decode ((field key fields).getD null)) old := rfl

@[simp] theorem loadAtIfContained_object {α : Type} [Stored F α] (fields : List (String × Json F))
    (key : String) (old : α) :
    (object fields).loadAtIfContained key old =
      readWhen (field key fields).isSome
        ((field key fields).elim (.error (keyError key)) .ok >>= decode) old := rfl

@[simp] theorem loadIfPresent_object {α : Type} [Stored F α] (fields : List (String × Json F))
    (key : String) (old : α) :
    (object fields).loadIfPresent key old =
      readWhen ((field key fields).any fun value => !value.isNull)
        (decode ((field key fields).getD null)) old := rfl

@[simp] theorem readWhen_true {α : Type} (read : Except Thrown α) (old : α) :
    readWhen true read old = read := rfl

@[simp] theorem readWhen_false {α : Type} (read : Except Thrown α) (old : α) :
    readWhen false read old = .ok old := rfl

/-- Two reads of one member agree when it is read, and as before when it is not. -/
theorem readWhen_agree {α : Type} {condition : Bool} {read : Except Thrown α}
    {first second firstRead secondRead : α}
    (one : readWhen condition read first = .ok firstRead)
    (other : readWhen condition read second = .ok secondRead) :
    firstRead = secondRead ↔ (condition = false → first = second) := by
  cases condition with
  | true =>
    rw [readWhen_true] at one other
    rw [one] at other
    cases other
    exact iff_of_true rfl fun impossible => by cases impossible
  | false =>
    cases one
    cases other
    exact ⟨fun same _ => same, fun same => same rfl⟩

theorem field_setField_self (key : String) (value : Json F) (fields : List (String × Json F)) :
    field key (setField key value fields) = some value := by
  induction fields with
  | nil => simp
  | cons head rest inductionHypothesis =>
    rw [setField_cons]
    split
    · simp
    · rename_i other
      rw [field_cons, if_neg other, inductionHypothesis]

theorem setField_setField (key : String) (first second : Json F)
    (fields : List (String × Json F)) :
    setField key second (setField key first fields) = setField key second fields := by
  induction fields with
  | nil => simp
  | cons head rest inductionHypothesis =>
    rw [setField_cons, setField_cons]
    split
    · rw [setField_cons, if_pos rfl]
    · rename_i other
      rw [setField_cons, if_neg other, inductionHypothesis]

theorem setField_of_field {key : String} {value : Json F} {fields : List (String × Json F)}
    (found : field key fields = some value) : setField key value fields = fields := by
  induction fields with
  | nil => cases found
  | cons head rest inductionHypothesis =>
    rw [field_cons] at found
    rw [setField_cons]
    split at found
    · rename_i same
      cases found
      rw [if_pos same, ← same]
    · rename_i other
      rw [if_neg other, inductionHypothesis found]

/-- A value that is found is that of a field. -/
theorem mem_of_field {fields : List (String × Json F)} {key : String} {value : Json F}
    (found : field key fields = some value) : (key, value) ∈ fields := by
  induction fields with
  | nil => cases found
  | cons head rest inductionHypothesis =>
    obtain ⟨other, first⟩ := head
    rw [field_cons] at found
    split at found
    · rename_i same
      cases found
      rw [same]
      exact List.mem_cons_self
    · exact List.mem_cons_of_mem _ (inductionHypothesis found)

/-- A field is not the object it is a field of. -/
theorem field_ne {fields : List (String × Json F)} {key : String} {value : Json F}
    (found : field key fields = some value) : value ≠ object fields := by
  have smaller : sizeOf value < sizeOf fields := by
    induction fields with
    | nil => cases found
    | cons head rest inductionHypothesis =>
      obtain ⟨other, first⟩ := head
      rw [field_cons] at found
      split at found
      · cases found
        simp only [List.cons.sizeOf_spec, Prod.mk.sizeOf_spec]
        omega
      · have later := inductionHypothesis found
        simp only [List.cons.sizeOf_spec]
        omega
  rintro rfl
  simp only [object.sizeOf_spec] at smaller
  omega

/-- A key that is present has a value that is not null. -/
theorem present_cases {json : Json F} {key : String} (present : json.present key = true) :
    ∃ fields value, json = object fields ∧ field key fields = some value ∧
      value.isNull = false := by
  cases json with
  | object fields =>
    cases found : field key fields with
    | none =>
      rw [present_object, found] at present
      cases present
    | some value =>
      rw [present_object, found] at present
      exact ⟨fields, value, rfl, found, Bool.not_eq_true' _ ▸ present⟩
  | _ => cases present

@[simp] theorem isNull_encode_text (value : Text) : (encode value : Json F).isNull = false := rfl

@[simp] theorem isNull_encode_double (value : Double F) :
    (encode value : Json F).isNull = false := rfl

@[simp] theorem isNull_encode_int32 (value : Int32) : (encode value : Json F).isNull = false := rfl

/-- What is written is read back. -/
def ReadsBack {α : Type} (write : α → Except Thrown (Json F)) (read : Json F → Except Thrown α)
    (value : α) : Prop := ∃ json, write value = .ok json ∧ read json = .ok value

/-- One turn of a loop that pushes to an array. -/
theorem pushEach_cons {α : Type} {write : α → Except Thrown (Json F)} {key : String} {value : α}
    {json : Json F} {fields : List (String × Json F)} {old : List (Json F)}
    (found : field key fields = some (array old)) (wrote : write value = .ok json)
    (rest : List α) :
    pushEach (object fields) key write (value :: rest) =
      pushEach (object (setField key (array (old ++ [json])) fields)) key write rest := by
  have pushed : (object fields).pushBackAt key json =
      .ok (object (setField key (array (old ++ [json])) fields)) := by
    unfold pushBackAt
    rw [index_object, found]
    rfl
  rw [pushEach, List.foldlM_cons, wrote, ok_bind, pushed, ok_bind, pushEach]

/-- One turn of a loop that reads the elements of an array. -/
theorem readEach_cons {α : Type} {read : Json F → Except Thrown α} {item : Json F} {value : α}
    (reads : read item = .ok value) (rest : List (Json F)) (prior : List α) :
    readEach (array (item :: rest)) read prior =
      readEach (array rest) read (prior ++ [value]) := by
  show ((fun value => prior ++ [value]) <$> read item) >>= _ = _
  rw [reads]
  rfl

/-- When each value reads back, a loop that pushes them to an array leaves an array that a loop
reads back. -/
theorem pushEach_readsBack {α : Type} {write : α → Except Thrown (Json F)}
    {read : Json F → Except Thrown α} (key : String) (values : List α)
    (readsBack : ∀ value ∈ values, ReadsBack write read value) {fields : List (String × Json F)}
    {old : List (Json F)} (found : field key fields = some (array old)) :
    ∃ written, pushEach (object fields) key write values =
        .ok (object (setField key (array (old ++ written)) fields)) ∧
      ∀ prior, readEach (array written) read prior = .ok (prior ++ values) := by
  induction values generalizing fields old with
  | nil =>
    refine ⟨[], ?_, fun prior => ?_⟩
    · rw [List.append_nil, setField_of_field found]
      rfl
    · rw [List.append_nil]
      rfl
  | cons value rest inductionHypothesis =>
    obtain ⟨json, wrote, reads⟩ := readsBack value List.mem_cons_self
    obtain ⟨written, loop, back⟩ := inductionHypothesis
      (fun value member => readsBack value (List.mem_cons_of_mem _ member))
      (field_setField_self key (array (old ++ [json])) fields)
    refine ⟨json :: written, ?_, fun prior => ?_⟩
    · rw [pushEach_cons found wrote, loop, setField_setField, List.append_assoc,
        List.singleton_append]
    · rw [readEach_cons reads, back, List.append_assoc, List.singleton_append]

/-- The same for a value to which nothing was written before. -/
theorem pushEach_null_readsBack {α : Type} {write : α → Except Thrown (Json F)}
    {read : Json F → Except Thrown α} (key : String) {values : List α}
    (readsBack : ∀ value ∈ values, ReadsBack write read value) (nonempty : values ≠ []) :
    ∃ written, pushEach null key write values = .ok (object [(key, array written)]) ∧
      ∀ prior, readEach (array written) read prior = .ok (prior ++ values) := by
  cases values with
  | nil => exact absurd rfl nonempty
  | cons value rest =>
    have found : field key [(key, array [])] = some (array ([] : List (Json F))) := by
      rw [field_cons, if_pos rfl]
    obtain ⟨written, loop, back⟩ := pushEach_readsBack key (value :: rest) readsBack found
    refine ⟨written, ?_, back⟩
    rw [setField_cons, if_pos rfl, List.nil_append] at loop
    rw [← loop]
    obtain ⟨json, wrote, _⟩ := readsBack value List.mem_cons_self
    rw [pushEach, pushEach, List.foldlM_cons, List.foldlM_cons, wrote]
    simp [pushBackAt, index, pushBack]

/-- A loop that pushes what is written to an array. -/
theorem pushEach_eq {α : Type} {write : α → Except Thrown (Json F)} {written : α → Json F}
    (writes : ∀ value, write value = .ok (written value)) (key : String) (values : List α)
    {fields : List (String × Json F)} {old : List (Json F)}
    (found : field key fields = some (array old)) :
    pushEach (object fields) key write values =
      .ok (object (setField key (array (old ++ values.map written)) fields)) := by
  induction values generalizing fields old with
  | nil =>
    rw [List.map_nil, List.append_nil, setField_of_field found]
    rfl
  | cons value rest inductionHypothesis =>
    have later := inductionHypothesis
      (field_setField_self key (array (old ++ [written value])) fields)
    rw [setField_setField, List.append_assoc, List.singleton_append] at later
    rw [List.map_cons, pushEach_cons found (writes value), later]

/-- The same for a value to which nothing was written before. -/
theorem pushEach_null_eq {α : Type} {write : α → Except Thrown (Json F)} {written : α → Json F}
    (writes : ∀ value, write value = .ok (written value)) (key : String) {values : List α}
    (nonempty : values ≠ []) :
    pushEach null key write values = .ok (object [(key, array (values.map written))]) := by
  cases values with
  | nil => exact absurd rfl nonempty
  | cons value rest =>
    have found : field key [(key, array [written value])] = some (array [written value]) := by
      rw [field_cons, if_pos rfl]
    have loop := pushEach_eq writes key rest found
    rw [setField_cons, if_pos rfl, List.singleton_append] at loop
    rw [List.map_cons, ← loop, pushEach, pushEach, List.foldlM_cons, writes]
    simp [pushBackAt, index, pushBack]

/-- A list is read when its first value is and the others are. -/
theorem mapM_cons_eq_ok {α : Type} {read : Json F → Except Thrown α} {item : Json F}
    {items : List (Json F)} {values : List α} :
    (item :: items).mapM read = .ok values ↔
      ∃ value rest, read item = .ok value ∧ items.mapM read = .ok rest ∧
        values = value :: rest := by
  rw [List.mapM_cons]
  constructor
  · intro reads
    obtain ⟨value, first, reads⟩ := bind_eq_ok reads
    obtain ⟨rest, others, reads⟩ := bind_eq_ok reads
    cases reads
    exact ⟨value, rest, first, others, rfl⟩
  · rintro ⟨value, rest, first, others, rfl⟩
    rw [first, ok_bind, others]
    rfl

/-- A loop that reads each element of an array. -/
theorem readEach_of_mapM {α : Type} {read : Json F → Except Thrown α} {items : List (Json F)}
    {values : List α} (reads : items.mapM read = .ok values) (prior : List α) :
    readEach (array items) read prior = .ok (prior ++ values) := by
  induction items generalizing values prior with
  | nil =>
    cases reads
    exact congrArg Except.ok (List.append_nil prior).symm
  | cons item rest inductionHypothesis =>
    obtain ⟨value, later, first, others, rfl⟩ := mapM_cons_eq_ok.mp reads
    rw [readEach_cons first, inductionHypothesis others, List.append_assoc, List.singleton_append]

/-- When an array is read, each of its elements is. -/
theorem read_of_readEach {α : Type} {read : Json F → Except Thrown α} {items : List (Json F)}
    {prior after : List α} (reads : readEach (array items) read prior = .ok after) :
    ∀ item ∈ items, ∃ value, read item = .ok value := by
  induction items generalizing prior with
  | nil => exact fun _ member => absurd member List.not_mem_nil
  | cons item rest inductionHypothesis =>
    obtain ⟨grown, first, later⟩ := bind_eq_ok (show _ >>= _ = _ from reads)
    refine List.forall_mem_cons.mpr ⟨?_, inductionHypothesis later⟩
    dsimp only at first
    cases found : read item with
    | error thrown =>
      rw [found] at first
      cases first
    | ok value => exact ⟨value, rfl⟩

/-- What each read of a value of one kind keeps, a sequence of such reads keeps. -/
theorem foldlM_keeps {α : Type} {read : Json F → α → Except Thrown α} {Kind : Json F → Prop}
    {Keeps : α → Prop}
    (step : ∀ json before after, Kind json → Keeps before → read json before = .ok after →
      Keeps after)
    {jsons : List (Json F)} (kind : ∀ json ∈ jsons, Kind json) {before after : α}
    (kept : Keeps before)
    (reads : jsons.foldlM (fun self json => read json self) before = .ok after) : Keeps after := by
  induction jsons generalizing before with
  | nil =>
    cases reads
    exact kept
  | cons json rest inductionHypothesis =>
    rw [List.foldlM_cons] at reads
    obtain ⟨next, first, later⟩ := bind_eq_ok reads
    exact inductionHypothesis (fun other member => kind other (List.mem_cons_of_mem _ member))
      (step json before next (kind json List.mem_cons_self) kept first) later

/-! ### Codecs -/

/-- How the objects of a class are written and read: `construct` is the default constructor, which
leaves a member without an initializer as it finds it in memory, and `fromJson` reads into an
object. -/
structure Codec (F : NumberFormat) (α : Type) where
  construct : α → α
  toJson : α → Except Thrown (Json F)
  fromJson : Json F → α → Except Thrown α

/-- What is written is read back by any object that has just been constructed. -/
def Codec.RoundTrips {α : Type} (codec : Codec F α) (value : α) : Prop :=
  ∃ json, codec.toJson value = .ok json ∧
    ∀ memory, codec.fromJson json (codec.construct memory) = .ok value

/-- The writing of a class with one member. -/
def writeMember {α β : Type} [Stored F β] (key : String) (get : α → β) (self : α) :
    Except Thrown (Json F) := null.store key (get self)

/-- The reading of a class with one member. -/
def readMember {α β : Type} [Stored F β] (key : String) (set : β → α → α) (json : Json F)
    (self : α) : Except Thrown α := do
  let value ← json.load key
  return set value self

/-- A class that writes and reads its only member under one key round-trips. -/
theorem member_roundTrips {α β : Type} [Stored F β] {construct : α → α} {key : String}
    {get : α → β} {set : β → α → α} {value : α}
    (whole : ∀ memory, set (get value) (construct memory) = value) :
    (⟨construct, writeMember key get, readMember key set⟩ : Codec F α).RoundTrips value := by
  refine ⟨_, rfl, fun memory => ?_⟩
  simp [readMember, whole]

end Json
