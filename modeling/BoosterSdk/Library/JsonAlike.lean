/-
This file is a library for JSON values that no read tells apart.

Text does not say whether an integer that is not negative was signed, and it lists the
members of an object in the order of their keys. A value can be brought into that form
throughout. Reading a field, converting it and asking whether it is there give the same
for a value and its form, and so does a loop over the elements of an array.
-/

import BoosterSdk.Library.JsonObject

namespace Json

variable {F : NumberFormat}

mutual

/-- A value with its integers unsigned where they can be, and its members in order. -/
def canonical : Json F → Json F
  | integer value => if value < 0 then integer value else unsigned value.toUInt64
  | array elements => array (canonicalElements elements)
  | object fields => object (inOrder (canonicalFields fields))
  | other => other

def canonicalElements : List (Json F) → List (Json F)
  | [] => []
  | value :: rest => value.canonical :: canonicalElements rest

def canonicalFields : List (String × Json F) → List (String × Json F)
  | [] => []
  | (key, value) :: rest => (key, value.canonical) :: canonicalFields rest

end

theorem canonicalElements_eq (elements : List (Json F)) :
    canonicalElements elements = elements.map canonical := by
  induction elements with
  | nil => rfl
  | cons value rest inductionHypothesis =>
    rw [canonicalElements, inductionHypothesis, List.map_cons]

theorem canonicalFields_eq (fields : List (String × Json F)) :
    canonicalFields fields = fields.map fun field => (field.1, field.2.canonical) := by
  induction fields with
  | nil => rfl
  | cons field rest inductionHypothesis =>
    rw [canonicalFields, inductionHypothesis, List.map_cons]

/-- The two ways that an integer can be kept. -/
theorem canonical_integer (value : Int64) : (integer value : Json F).canonical = integer value ∨
    0 ≤ value ∧ (integer value : Json F).canonical = unsigned value.toUInt64 := by
  rw [canonical]
  split
  · exact .inl rfl
  · rename_i positive
    refine .inr ⟨?_, rfl⟩
    rw [Int64.lt_iff_toInt_lt, Int64.toInt_zero] at positive
    rw [Int64.le_iff_toInt_le, Int64.toInt_zero]
    exact Int.not_lt.mp positive

/-- What is the same for a signed and an unsigned integer is the same for an integer and its
form. -/
theorem alike_integer {α : Type} (f : Json F → α)
    (same : ∀ value : Int64, 0 ≤ value → f (unsigned value.toUInt64) = f (integer value))
    (value : Int64) : f (integer value : Json F).canonical = f (integer value) := by
  obtain kept | ⟨positive, kept⟩ := canonical_integer (F := F) value
  · rw [kept]
  · rw [kept, same value positive]

@[simp] theorem isNull_canonical (json : Json F) : json.canonical.isNull = json.isNull := by
  cases json with
  | integer value => exact alike_integer isNull (fun _ _ => rfl) value
  | _ => rfl

@[simp] theorem isArray_canonical (json : Json F) : json.canonical.isArray = json.isArray := by
  cases json with
  | integer value => exact alike_integer isArray (fun _ _ => rfl) value
  | _ => rfl

/-! ### Fields -/

theorem field_canonicalFields (key : String) (fields : List (String × Json F)) :
    field key (canonicalFields fields) = (field key fields).map canonical := by
  induction fields with
  | nil => rfl
  | cons head rest inductionHypothesis =>
    obtain ⟨other, value⟩ := head
    rw [canonicalFields, field_cons, field_cons, inductionHypothesis]
    split <;> rfl

theorem field_canonical (key : String) (fields : List (String × Json F)) :
    field key (inOrder (canonicalFields fields)) = (field key fields).map canonical := by
  rw [field_inOrder, field_canonicalFields]

@[simp] theorem index_canonical (json : Json F) (key : String) :
    json.canonical.index key = canonical <$> json.index key := by
  cases json with
  | object fields =>
    rw [canonical, index_object, index_object, field_canonical]
    cases field key fields <;> rfl
  | integer value => exact alike_integer (index · key) (fun _ _ => rfl) value
  | _ => rfl

@[simp] theorem at_canonical (json : Json F) (key : String) :
    json.canonical.at_ key = canonical <$> json.at_ key := by
  cases json with
  | object fields =>
    rw [canonical, at_object, at_object, field_canonical]
    cases field key fields <;> rfl
  | integer value => exact alike_integer (at_ · key) (fun _ _ => rfl) value
  | _ => rfl

@[simp] theorem contains_canonical (json : Json F) (key : String) :
    json.canonical.contains key = json.contains key := by
  cases json with
  | object fields =>
    rw [canonical, contains_object, contains_object, field_canonical, Option.isSome_map]
  | integer value => exact alike_integer (contains · key) (fun _ _ => rfl) value
  | _ => rfl

@[simp] theorem present_canonical (json : Json F) (key : String) :
    json.canonical.present key = json.present key := by
  cases json with
  | object fields =>
    rw [canonical, present_object, present_object, field_canonical]
    cases field key fields with
    | none => rfl
    | some value => exact congrArg Bool.not (isNull_canonical value)
  | integer value => exact alike_integer (present · key) (fun _ _ => rfl) value
  | _ => rfl

/-! ### Conversions -/

section Conversions

variable {α : Type} (ofInt : Int → α) (ofDouble : F.Double → α)

@[simp] theorem arithmetic_canonical (json : Json F) :
    arithmetic ofInt ofDouble json.canonical = arithmetic ofInt ofDouble json := by
  cases json with
  | integer value =>
    refine alike_integer (arithmetic ofInt ofDouble) (fun value positive => ?_) value
    have known : (value.toUInt64.toNat : Int) = value.toInt := by
      rw [Int64.toNat_toUInt64_of_le positive, ← Int64.toNat_toInt]
      rw [Int64.le_iff_toInt_le, Int64.toInt_zero] at positive
      exact Int.toNat_of_nonneg positive
    show Except.ok (ofInt value.toUInt64.toNat) = _
    rw [known]
    rfl
  | _ => rfl

@[simp] theorem arithmeticOrBoolean_canonical (json : Json F) :
    arithmeticOrBoolean ofInt ofDouble json.canonical =
      arithmeticOrBoolean ofInt ofDouble json := by
  cases json with
  | integer value =>
    have same := arithmetic_canonical ofInt ofDouble (integer value : Json F)
    obtain kept | ⟨_, kept⟩ := canonical_integer (F := F) value
    · rw [kept]
    · rw [kept] at same ⊢
      exact same
  | _ => rfl

end Conversions

/-- The types whose conversion does not tell a value from its form. -/
class ReadsAlike (F : NumberFormat) (α : Type) [Stored F α] : Prop where
  decode_canonical : ∀ json : Json F, (decode json.canonical : Except Thrown α) = decode json

export ReadsAlike (decode_canonical)

attribute [simp] decode_canonical

instance : ReadsAlike F Bool where
  decode_canonical json := by
    cases json with
    | integer value => exact alike_integer decode (fun _ _ => rfl) value
    | _ => rfl

instance : ReadsAlike F Text where
  decode_canonical json := by
    cases json with
    | integer value => exact alike_integer decode (fun _ _ => rfl) value
    | _ => rfl

instance : ReadsAlike F Int64 := ⟨arithmetic_canonical _ _⟩

instance : ReadsAlike F Int32 := ⟨arithmeticOrBoolean_canonical _ _⟩

instance : ReadsAlike F (Double F) := ⟨arithmetic_canonical _ _⟩

instance : ReadsAlike F (Single F) := ⟨arithmeticOrBoolean_canonical _ _⟩

theorem mapM_canonical {α : Type} [Stored F α] [ReadsAlike F α] (values : List (Json F)) :
    ((values.map canonical).mapM decode : Except Thrown (List α)) = values.mapM decode := by
  induction values with
  | nil => rfl
  | cons value rest inductionHypothesis =>
    rw [List.map_cons, List.mapM_cons, List.mapM_cons, decode_canonical, inductionHypothesis]

instance {α : Type} [Stored F α] [ReadsAlike F α] : ReadsAlike F (List α) where
  decode_canonical json := by
    cases json with
    | integer value => exact alike_integer decode (fun _ _ => rfl) value
    | array values =>
      rw [canonical, canonicalElements_eq]
      exact mapM_canonical values
    | _ => rfl

/-- An enumeration is read through its underlying type. -/
theorem enumeration_alike {α : Type} (toUnderlying : α → Int32) (ofUnderlying : Int32 → α)
    (inverse : ∀ value, ofUnderlying (toUnderlying value) = value) :
    @ReadsAlike F α (enumeration toUnderlying ofUnderlying inverse) :=
  @ReadsAlike.mk F α (enumeration toUnderlying ofUnderlying inverse) fun json =>
    congrArg (Except.map ofUnderlying) (arithmetic_canonical _ _ json)

/-! ### Reading fields -/

theorem map_bind {α β γ : Type} (f : α → β) (read : Except Thrown α) (next : β → Except Thrown γ) :
    (f <$> read) >>= next = read >>= fun value => next (f value) := by
  cases read <;> rfl

section Typed

variable {α : Type} [Stored F α] [ReadsAlike F α]

@[simp] theorem load_canonical (json : Json F) (key : String) :
    (json.canonical.load key : Except Thrown α) = json.load key := by
  unfold load
  rw [index_canonical, map_bind]
  simp only [decode_canonical]

@[simp] theorem loadAt_canonical (json : Json F) (key : String) :
    (json.canonical.loadAt key : Except Thrown α) = json.loadAt key := by
  unfold loadAt
  rw [at_canonical, map_bind]
  simp only [decode_canonical]

@[simp] theorem loadAtIfContained_canonical (json : Json F) (key : String) (old : α) :
    json.canonical.loadAtIfContained key old = json.loadAtIfContained key old := by
  unfold loadAtIfContained
  rw [contains_canonical, loadAt_canonical]

@[simp] theorem valueOr_canonical (json : Json F) (key : String) (otherwise : α) :
    json.canonical.valueOr key otherwise = json.valueOr key otherwise := by
  cases json with
  | object fields =>
    rw [canonical, valueOr_object, valueOr_object, field_canonical]
    cases field key fields with
    | none => rfl
    | some value => exact decode_canonical value
  | integer value => exact alike_integer (valueOr · key otherwise) (fun _ _ => rfl) value
  | _ => rfl

@[simp] theorem readMember_canonical {β : Type} (key : String) (set : α → β → β) (json : Json F)
    (self : β) : readMember key set json.canonical self = readMember key set json self := by
  unfold readMember
  rw [load_canonical]

end Typed

/-- A loop over what is not an object. -/
theorem readEach_canonical {α : Type} {read : Json F → Except Thrown α}
    (alike : ∀ item : Json F, read item.canonical = read item) {json : Json F}
    (listed : ∀ fields, json ≠ object fields) (values : List α) :
    json.canonical.readEach read values = json.readEach read values := by
  have loop (items : List (Json F)) : (items.map canonical).foldlM
      (fun values item => (fun value => values ++ [value]) <$> read item) values =
        items.foldlM
          (fun values item => (fun value => values ++ [value]) <$> read item) values := by
    rw [List.foldlM_map]
    simp only [alike]
  have elements : json.canonical.elements = json.elements.map canonical := by
    cases json with
    | array items => exact canonicalElements_eq items
    | object fields => exact absurd rfl (listed fields)
    | integer value =>
      obtain same | ⟨_, same⟩ := canonical_integer (F := F) value
      · rw [same]
        exact congrArg (fun item => [item]) same.symm
      · rw [same]
        exact congrArg (fun item => [item]) same.symm
    | _ => rfl
  unfold readEach
  rw [elements, loop]

end Json
