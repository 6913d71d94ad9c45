/-
This file is a library for the objects of JSON values as ordered maps keep them.

A map lists its members in the order of their keys, each key once. Setting a member
keeps that order, does not change what is found under other keys, and puts a key that
is above all others at the end. A value can be brought into this form throughout.
-/

import BoosterSdk.Library.JsonValue
import BoosterSdk.Library.Utf8

/-- The bytes of a key. -/
def Text.ofKey (key : String) : Text := ⟨Utf8.encode key.toList⟩

/-- The key that bytes are, if they are UTF-8. -/
def Text.toKey (text : Text) : String := (String.fromUTF8? text.bytes.toByteArray).getD ""

theorem Text.toKey_encode (scalars : List Char) :
    Text.toKey ⟨Utf8.encode scalars⟩ = String.ofList scalars := by
  have valid : (Utf8.encode scalars).toByteArray.IsValidUTF8 := ⟨scalars, rfl⟩
  unfold Text.toKey String.fromUTF8?
  rw [dif_pos valid]
  rfl

namespace Json

variable {F : NumberFormat}

/-- The members with a key set to a value, which keeps them in the order of their keys. UTF-8 keeps
the order of scalar values, so that the bytes of the keys are in the same order. -/
def insertField {α : Type} (key : String) (value : α) : List (String × α) → List (String × α)
  | [] => [(key, value)]
  | (other, old) :: rest =>
    if key < other then (key, value) :: (other, old) :: rest
    else if other = key then (key, value) :: rest
    else (other, old) :: insertField key value rest

/-- The members of an object as a map holds them. -/
def inOrder {α : Type} (fields : List (String × α)) : List (String × α) :=
  fields.foldr (fun field rest => insertField field.1 field.2 rest) []

mutual

/-- A value with the members of its objects as maps hold them. -/
def stored : Json F → Json F
  | array elements => array (storedElements elements)
  | object fields => object (inOrder (storedFields fields))
  | other => other

def storedElements : List (Json F) → List (Json F)
  | [] => []
  | value :: rest => value.stored :: storedElements rest

def storedFields : List (String × Json F) → List (String × Json F)
  | [] => []
  | (key, value) :: rest => (key, value.stored) :: storedFields rest

end

/-! ### Members -/

variable {α : Type}

/-- The keys are in order, each of them once. -/
def InOrder (fields : List (String × α)) : Prop :=
  fields.Pairwise fun first second => first.1 < second.1

theorem insertField_cons (key other : String) (value old : α) (rest : List (String × α)) :
    insertField key value ((other, old) :: rest) =
      if key < other then (key, value) :: (other, old) :: rest
      else if other = key then (key, value) :: rest
      else (other, old) :: insertField key value rest := rfl

/-- A member that is set is found, and the others are found as before. -/
theorem field_insertField (key other : String) (value : Json F) (fields : List (String × Json F)) :
    field other (insertField key value fields) =
      if key = other then some value else field other fields := by
  induction fields with
  | nil => rfl
  | cons head rest inductionHypothesis =>
    obtain ⟨first, old⟩ := head
    rw [insertField_cons]
    split
    · rw [field_cons]
    · split
      · rename_i same
        subst same
        rw [field_cons, field_cons]
        split <;> rfl
      · rename_i different
        rw [field_cons, field_cons, inductionHypothesis]
        by_cases found : first = other
        · rw [if_pos found, if_pos found, if_neg fun same => different (found.trans same.symm)]
        · rw [if_neg found, if_neg found]

/-- The members after a member is set. -/
theorem mem_insertField {key : String} {value : α} {fields : List (String × α)}
    {field : String × α} (member : field ∈ insertField key value fields) :
    field = (key, value) ∨ field ∈ fields := by
  induction fields with
  | nil => exact .inl (List.mem_singleton.mp member)
  | cons head rest inductionHypothesis =>
    obtain ⟨first, old⟩ := head
    rw [insertField_cons] at member
    split at member
    · exact List.mem_cons.mp member
    · split at member
      · exact (List.mem_cons.mp member).imp_right (List.mem_cons_of_mem _)
      · obtain rfl | later := List.mem_cons.mp member
        · exact .inr List.mem_cons_self
        · exact (inductionHypothesis later).imp_right (List.mem_cons_of_mem _)

theorem insertField_inOrder {fields : List (String × α)} (sorted : InOrder fields) (key : String)
    (value : α) : InOrder (insertField key value fields) := by
  induction fields with
  | nil => exact List.pairwise_singleton ..
  | cons head rest inductionHypothesis =>
    obtain ⟨first, old⟩ := head
    obtain ⟨least, sorted⟩ := List.pairwise_cons.mp sorted
    rw [insertField_cons]
    split
    · rename_i below
      refine List.pairwise_cons.mpr ⟨fun other member => ?_, List.pairwise_cons.mpr ⟨least, sorted⟩⟩
      obtain rfl | later := List.mem_cons.mp member
      · exact below
      · exact String.lt_trans below (least other later)
    · rename_i notBelow
      split
      · rename_i same
        exact List.pairwise_cons.mpr ⟨fun other member => same ▸ least other member, sorted⟩
      · rename_i different
        refine List.pairwise_cons.mpr ⟨fun other member => ?_, inductionHypothesis sorted⟩
        obtain rfl | later := mem_insertField member
        · exact String.not_le.mp fun above =>
            different (String.le_antisymm (String.not_lt.mp notBelow) above)
        · exact least other later

/-- A key above all others comes last. -/
theorem insertField_last {fields : List (String × α)} {key : String}
    (above : ∀ field ∈ fields, field.1 < key) (value : α) :
    insertField key value fields = fields ++ [(key, value)] := by
  induction fields with
  | nil => rfl
  | cons head rest inductionHypothesis =>
    obtain ⟨first, old⟩ := head
    have below := above _ List.mem_cons_self
    have other : ¬ first = key := fun same => String.lt_irrefl _ (same ▸ below)
    have later := inductionHypothesis fun field member =>
      above field (List.mem_cons_of_mem _ member)
    rw [insertField_cons, if_neg (String.lt_asymm below), if_neg other, later]
    rfl

/-- A key that is below all others comes first. -/
theorem insertField_first {fields : List (String × α)} {key : String}
    (below : ∀ field ∈ fields, key < field.1) (value : α) :
    insertField key value fields = (key, value) :: fields := by
  cases fields with
  | nil => rfl
  | cons head rest =>
    obtain ⟨first, old⟩ := head
    rw [insertField_cons, if_pos (below _ List.mem_cons_self)]

theorem inOrder_inOrder (fields : List (String × α)) : InOrder (inOrder fields) := by
  induction fields with
  | nil => exact List.Pairwise.nil
  | cons head rest inductionHypothesis => exact insertField_inOrder inductionHypothesis _ _

/-- Members that are in order are kept as they are. -/
theorem inOrder_of_inOrder {fields : List (String × α)} (sorted : InOrder fields) :
    inOrder fields = fields := by
  induction fields with
  | nil => rfl
  | cons head rest inductionHypothesis =>
    obtain ⟨least, sorted⟩ := List.pairwise_cons.mp sorted
    show insertField head.1 head.2 (inOrder rest) = head :: rest
    rw [inductionHypothesis sorted, insertField_first least]

theorem field_inOrder (key : String) (fields : List (String × Json F)) :
    field key (inOrder fields) = field key fields := by
  induction fields with
  | nil => rfl
  | cons head rest inductionHypothesis =>
    show field key (insertField head.1 head.2 (inOrder rest)) = _
    rw [field_insertField, inductionHypothesis, field_cons]

theorem mem_inOrder {fields : List (String × α)} {field : String × α}
    (member : field ∈ inOrder fields) : field ∈ fields := by
  induction fields with
  | nil => exact member
  | cons head rest inductionHypothesis =>
    obtain rfl | later := mem_insertField member
    · exact List.mem_cons_self
    · exact List.mem_cons_of_mem _ (inductionHypothesis later)

theorem insertField_map {β : Type} (f : α → β) (key : String) (value : α)
    (fields : List (String × α)) :
    (insertField key value fields).map (fun field => (field.1, f field.2)) =
      insertField key (f value) (fields.map fun field => (field.1, f field.2)) := by
  induction fields with
  | nil => rfl
  | cons head rest inductionHypothesis =>
    obtain ⟨other, old⟩ := head
    rw [insertField_cons, List.map_cons, insertField_cons]
    split
    · rfl
    · split
      · rfl
      · rw [List.map_cons, inductionHypothesis]

theorem inOrder_map {β : Type} (f : α → β) (fields : List (String × α)) :
    (inOrder fields).map (fun field => (field.1, f field.2)) =
      inOrder (fields.map fun field => (field.1, f field.2)) := by
  induction fields with
  | nil => rfl
  | cons head rest inductionHypothesis =>
    show (insertField head.1 head.2 (inOrder rest)).map _ = _
    rw [insertField_map, inductionHypothesis]
    rfl

/-! ### Values within values -/

/-- What holds of a value when it holds of the values within it holds of all. -/
theorem nested {motive : Json F → Prop} (null : motive null)
    (boolean : ∀ value, motive (boolean value)) (integer : ∀ value, motive (integer value))
    (unsigned : ∀ value, motive (unsigned value)) (float : ∀ value, motive (float value))
    (string : ∀ text, motive (string text))
    (array : ∀ elements, (∀ value ∈ elements, motive value) → motive (array elements))
    (object : ∀ fields, (∀ field ∈ fields, motive field.2) → motive (object fields))
    (json : Json F) : motive json :=
  @Json.rec F motive (fun elements => ∀ value ∈ elements, motive value)
    (fun fields => ∀ field ∈ fields, motive field.2) (fun field => motive field.2) null boolean
    integer unsigned float string array object (fun _ member => absurd member List.not_mem_nil)
    (fun _ _ first rest => List.forall_mem_cons.mpr ⟨first, rest⟩)
    (fun _ member => absurd member List.not_mem_nil)
    (fun _ _ first rest => List.forall_mem_cons.mpr ⟨first, rest⟩) (fun _ _ value => value) json

mutual

/-- A property of a value and of the values within it. -/
def Every (property : Json F → Prop) : Json F → Prop
  | array elements => property (array elements) ∧ EveryElement property elements
  | object fields => property (object fields) ∧ EveryField property fields
  | other => property other

def EveryElement (property : Json F → Prop) : List (Json F) → Prop
  | [] => True
  | value :: rest => value.Every property ∧ EveryElement property rest

def EveryField (property : Json F → Prop) : List (String × Json F) → Prop
  | [] => True
  | (_, value) :: rest => value.Every property ∧ EveryField property rest

end

variable {property : Json F → Prop}

theorem everyElement_iff (elements : List (Json F)) :
    EveryElement property elements ↔ ∀ value ∈ elements, value.Every property := by
  induction elements with
  | nil => exact ⟨fun _ _ member => absurd member List.not_mem_nil, fun _ => trivial⟩
  | cons value rest inductionHypothesis =>
    unfold EveryElement
    rw [inductionHypothesis, List.forall_mem_cons]

theorem everyField_iff (fields : List (String × Json F)) :
    EveryField property fields ↔ ∀ field ∈ fields, field.2.Every property := by
  induction fields with
  | nil => exact ⟨fun _ _ member => absurd member List.not_mem_nil, fun _ => trivial⟩
  | cons field rest inductionHypothesis =>
    unfold EveryField
    rw [inductionHypothesis, List.forall_mem_cons]

theorem every_array (elements : List (Json F)) : (array elements).Every property ↔
    property (array elements) ∧ ∀ value ∈ elements, value.Every property := by
  rw [Every, everyElement_iff]

theorem every_object (fields : List (String × Json F)) : (object fields).Every property ↔
    property (object fields) ∧ ∀ field ∈ fields, field.2.Every property := by
  rw [Every, everyField_iff]

/-- All strings of a value are UTF-8. -/
def Encoded : Json F → Prop :=
  Every fun json => ∀ text, json = string text → ∃ scalars, text.bytes = Utf8.encode scalars

/-- All objects of a value list their members in the order of their keys, each key once. -/
def Ordered : Json F → Prop := Every fun json => ∀ fields, json = object fields → InOrder fields

theorem encoded_array (elements : List (Json F)) :
    (array elements).Encoded ↔ ∀ value ∈ elements, value.Encoded := by
  unfold Encoded
  rw [every_array]
  exact and_iff_right (by rintro _ ⟨⟩)

theorem encoded_object (fields : List (String × Json F)) :
    (object fields).Encoded ↔ ∀ field ∈ fields, field.2.Encoded := by
  unfold Encoded
  rw [every_object]
  exact and_iff_right (by rintro _ ⟨⟩)

theorem encoded_string (text : Text) :
    (string text : Json F).Encoded ↔ ∃ scalars, text.bytes = Utf8.encode scalars :=
  ⟨fun every => every text rfl, fun encoded other same => by cases same; exact encoded⟩

theorem ordered_array (elements : List (Json F)) :
    (array elements).Ordered ↔ ∀ value ∈ elements, value.Ordered := by
  unfold Ordered
  rw [every_array]
  exact and_iff_right (by rintro _ ⟨⟩)

theorem ordered_object (fields : List (String × Json F)) :
    (object fields).Ordered ↔ InOrder fields ∧ ∀ field ∈ fields, field.2.Ordered := by
  unfold Ordered
  rw [every_object]
  exact and_congr_left fun _ => ⟨fun every => every fields rfl, fun sorted other same => by
    cases same
    exact sorted⟩

/-! ### Stored values -/

theorem storedElements_eq (elements : List (Json F)) :
    storedElements elements = elements.map stored := by
  induction elements with
  | nil => rfl
  | cons value rest inductionHypothesis => rw [storedElements, inductionHypothesis, List.map_cons]

theorem storedFields_eq (fields : List (String × Json F)) :
    storedFields fields = fields.map fun field => (field.1, field.2.stored) := by
  induction fields with
  | nil => rfl
  | cons field rest inductionHypothesis => rw [storedFields, inductionHypothesis, List.map_cons]

/-- A stored value has its objects in order. -/
theorem stored_ordered (json : Json F) : json.stored.Ordered := by
  induction json using nested with
  | array elements inductionHypothesis =>
    rw [stored, storedElements_eq, ordered_array, List.forall_mem_map]
    exact inductionHypothesis
  | object fields inductionHypothesis =>
    rw [stored, storedFields_eq, ordered_object]
    refine ⟨inOrder_inOrder _, fun field member => ?_⟩
    obtain ⟨original, found, rfl⟩ := List.mem_map.mp (mem_inOrder member)
    exact inductionHypothesis original found
  | null | boolean | integer | unsigned | float | string => rintro _ ⟨⟩

/-- A value that has its objects in order is stored as it is. -/
theorem stored_of_ordered (json : Json F) (ordered : json.Ordered) : json.stored = json := by
  induction json using nested with
  | array elements inductionHypothesis =>
    rw [ordered_array] at ordered
    rw [stored, storedElements_eq]
    have same : elements.map stored = elements.map id := List.map_congr_left fun value member =>
      inductionHypothesis value member (ordered value member)
    rw [same, List.map_id]
  | object fields inductionHypothesis =>
    rw [ordered_object] at ordered
    have same : (fields.map fun field => (field.1, field.2.stored)) = fields.map id :=
      List.map_congr_left fun field member =>
        Prod.ext rfl (inductionHypothesis field member (ordered.2 field member))
    rw [stored, storedFields_eq, same, List.map_id, inOrder_of_inOrder ordered.1]
  | null | boolean | integer | unsigned | float | string => rfl

end Json
