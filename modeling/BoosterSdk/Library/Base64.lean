/-
This file is a library for base64.

Three bytes are four values of six bits, each written as a character of the alphabet; a
last block of one or two bytes is two or three values, followed by padding. A reader
drops the padding, however much there is, and takes the bytes of the values that are
left, so what a text carries depends on the number of its characters before the padding.
-/

import Mathlib.Data.List.DropRight

namespace Base64

/-! ### Characters -/

/-- The padding character. -/
def pad : UInt8 := 61

/-- The character of a value: `A` to `Z`, `a` to `z`, `0` to `9`, `+` and `/`. -/
def symbol (value : Nat) : UInt8 :=
  if value < 26 then UInt8.ofNat (65 + value)
  else if value < 52 then UInt8.ofNat (71 + value)
  else if value < 62 then UInt8.ofNat (value - 4)
  else if value = 62 then 43
  else 47

/-- The value of a character. -/
def valueOf (character : UInt8) : Option Nat :=
  if 65 ≤ character.toNat ∧ character.toNat ≤ 90 then some (character.toNat - 65)
  else if 97 ≤ character.toNat ∧ character.toNat ≤ 122 then some (character.toNat - 71)
  else if 48 ≤ character.toNat ∧ character.toNat ≤ 57 then some (character.toNat + 4)
  else if character = 43 then some 62
  else if character = 47 then some 63
  else none

theorem valueOf_symbol {value : Nat} (within : value < 64) :
    valueOf (symbol value) = some value := by
  revert value
  decide +kernel

theorem symbol_ne_pad {value : Nat} (within : value < 64) : symbol value ≠ pad := by
  intro same
  have found := valueOf_symbol within
  rw [same] at found
  cases found

/-! ### Blocks -/

/-- The encoding of bytes. -/
def encode : List UInt8 → List UInt8
  | [] => []
  | [a] => [symbol (a.toNat / 4), symbol (a.toNat % 4 * 16), pad, pad]
  | [a, b] =>
    [symbol (a.toNat / 4), symbol (a.toNat % 4 * 16 + b.toNat / 16),
      symbol (b.toNat % 16 * 4), pad]
  | a :: b :: c :: rest =>
    symbol (a.toNat / 4) :: symbol (a.toNat % 4 * 16 + b.toNat / 16) ::
      symbol (b.toNat % 16 * 4 + c.toNat / 64) :: symbol (c.toNat % 64) :: encode rest

/-- The bytes of values. -/
def bytesOf : List Nat → List UInt8
  | w :: x :: y :: z :: rest =>
    UInt8.ofNat (w * 4 + x / 16) :: UInt8.ofNat (x % 16 * 16 + y / 4) ::
      UInt8.ofNat (y % 4 * 64 + z) :: bytesOf rest
  | [w, x, y] => [UInt8.ofNat (w * 4 + x / 16), UInt8.ofNat (x % 16 * 16 + y / 4)]
  | [w, x] => [UInt8.ofNat (w * 4 + x / 16)]
  | _ => []

/-- What a text has before its padding, and how much padding it has. -/
def content (text : List UInt8) : List UInt8 := text.rdropWhile (· == pad)

def padding (text : List UInt8) : Nat := (text.rtakeWhile (· == pad)).length

/-- The bytes a text carries, when all its characters before the padding are in the alphabet. -/
def decode (text : List UInt8) : Option (List UInt8) :=
  ((content text).mapM valueOf).map bytesOf

theorem length_content_add_padding (text : List UInt8) :
    (content text).length + padding text = text.length := by
  unfold content padding
  rw [← List.length_append, List.rdropWhile_append_rtakeWhile]

/-- Four values carry three bytes, and fewer carry what is whole of them. -/
theorem length_bytesOf (values : List Nat) :
    (bytesOf values).length = 3 * values.length / 4 := by
  fun_induction bytesOf values with
  | case1 w x y z rest inductionHypothesis =>
    simp only [List.length_cons, inductionHypothesis]
    omega
  | case2 => simp only [List.length_cons, List.length_nil]
  | case3 => simp only [List.length_cons, List.length_nil]
  | case4 values four three two =>
    match values with
    | [] => rfl
    | [w] => simp only [List.length_cons, List.length_nil]
    | [w, x] => exact absurd rfl (two w x)
    | [w, x, y] => exact absurd rfl (three w x y)
    | w :: x :: y :: z :: rest => exact absurd rfl (four w x y z rest)

theorem length_of_mapM {text : List UInt8} {values : List Nat}
    (parsed : text.mapM valueOf = some values) : values.length = text.length := by
  induction text generalizing values with
  | nil =>
    cases parsed
    rfl
  | cons character rest inductionHypothesis =>
    rw [List.mapM_cons] at parsed
    obtain ⟨value, _, parsed⟩ := Option.bind_eq_some_iff.mp parsed
    obtain ⟨later, others, parsed⟩ := Option.bind_eq_some_iff.mp parsed
    cases parsed
    rw [List.length_cons, List.length_cons, inductionHypothesis others]

/-- A text that decodes carries three bytes for four characters before its padding. -/
theorem length_of_decode {text bytes : List UInt8} (decoded : decode text = some bytes) :
    bytes.length = 3 * (content text).length / 4 := by
  obtain ⟨values, parsed, rfl⟩ := Option.map_eq_some_iff.mp decoded
  rw [length_bytesOf, length_of_mapM parsed]

/-! ### Joining what was split -/

theorem ofNat_of_eq {value : Nat} {byte : UInt8} (same : value = byte.toNat) :
    UInt8.ofNat value = byte := by
  rw [same, UInt8.ofNat_toNat]

theorem join_first (byte : UInt8) {low : Nat} (small : low < 16) :
    UInt8.ofNat (byte.toNat / 4 * 4 + (byte.toNat % 4 * 16 + low) / 16) = byte :=
  ofNat_of_eq (by omega)

theorem join_second (byte : UInt8) (high : Nat) {low : Nat} (small : low < 4) :
    UInt8.ofNat ((high * 16 + byte.toNat / 16) % 16 * 16 + (byte.toNat % 16 * 4 + low) / 4) =
      byte := by
  have bound := byte.toNat_lt
  exact ofNat_of_eq (by omega)

theorem join_third (byte : UInt8) (high : Nat) :
    UInt8.ofNat ((high * 4 + byte.toNat / 64) % 4 * 64 + byte.toNat % 64) = byte := by
  have bound := byte.toNat_lt
  exact ofNat_of_eq (by omega)

/-! ### Round trip -/

/-- An encoding is a text of values, which carry what was encoded, and at most two characters of
padding that make it a whole number of blocks. -/
theorem encode_eq (bytes : List UInt8) :
    ∃ values count, encode bytes = values.map symbol ++ List.replicate count pad ∧
      (∀ value ∈ values, value < 64) ∧ bytesOf values = bytes ∧
      count ≤ 2 ∧ (values.length + count) % 4 = 0 := by
  fun_induction encode bytes with
  | case1 => exact ⟨[], 0, rfl, List.forall_mem_nil _, rfl, by decide, rfl⟩
  | case2 a =>
    have bound := a.toNat_lt
    refine ⟨[a.toNat / 4, a.toNat % 4 * 16], 2, rfl, ?_, ?_, le_rfl, by simp⟩
    · simp only [List.mem_cons, List.not_mem_nil, or_false]
      omega
    · exact congrArg₂ List.cons (join_first a (show 0 < 16 by decide)) rfl
  | case3 a b =>
    have bound := a.toNat_lt
    have bound' := b.toNat_lt
    refine ⟨[a.toNat / 4, a.toNat % 4 * 16 + b.toNat / 16, b.toNat % 16 * 4], 1, rfl, ?_, ?_,
      by decide, by simp⟩
    · simp only [List.mem_cons, List.not_mem_nil, or_false]
      omega
    · rw [bytesOf, join_first a (by omega)]
      exact congrArg₂ List.cons rfl
        (congrArg₂ List.cons (join_second b _ (show 0 < 4 by decide)) rfl)
  | case4 a b c rest inductionHypothesis =>
    obtain ⟨values, count, same, small, carried, few, whole⟩ := inductionHypothesis
    have bound := a.toNat_lt
    have bound' := b.toNat_lt
    have bound'' := c.toNat_lt
    refine ⟨a.toNat / 4 :: (a.toNat % 4 * 16 + b.toNat / 16) ::
      (b.toNat % 16 * 4 + c.toNat / 64) :: c.toNat % 64 :: values, count, ?_, ?_, ?_, few, ?_⟩
    · rw [same]
      rfl
    · simp only [List.forall_mem_cons]
      exact ⟨by omega, by omega, by omega, by omega, small⟩
    · rw [bytesOf, join_first a (by omega), join_second b _ (by omega), join_third, carried]
    · simp only [List.length_cons]
      omega

/-- What is before the padding of a text that is given with its padding. -/
theorem content_append {text : List UInt8} (others : ∀ character ∈ text, character ≠ pad)
    (count : Nat) : content (text ++ List.replicate count pad) = text := by
  unfold content
  induction count with
  | zero =>
    rw [List.replicate_zero, List.append_nil]
    refine List.rdropWhile_eq_self_iff.mpr fun nonempty => ?_
    rw [beq_iff_eq]
    exact others _ (List.getLast_mem nonempty)
  | succ count inductionHypothesis =>
    rw [List.replicate_succ', ← List.append_assoc,
      List.rdropWhile_concat, if_pos (beq_self_eq_true pad), inductionHypothesis]

theorem mapM_symbol {values : List Nat} (small : ∀ value ∈ values, value < 64) :
    (values.map symbol).mapM valueOf = some values := by
  induction values with
  | nil => rfl
  | cons value rest inductionHypothesis =>
    obtain ⟨first, others⟩ := List.forall_mem_cons.mp small
    rw [List.map_cons, List.mapM_cons, valueOf_symbol first, inductionHypothesis others]
    rfl

theorem ne_pad_of_mem_symbols {values : List Nat} (small : ∀ value ∈ values, value < 64) :
    ∀ character ∈ values.map symbol, character ≠ pad := by
  intro character member
  obtain ⟨value, found, rfl⟩ := List.mem_map.mp member
  exact symbol_ne_pad (small value found)

/-- An encoding decodes to what was encoded. -/
theorem decode_encode (bytes : List UInt8) : decode (encode bytes) = some bytes := by
  obtain ⟨values, count, same, small, carried, _⟩ := encode_eq bytes
  unfold decode
  rw [same, content_append (ne_pad_of_mem_symbols small), mapM_symbol small, Option.map_some,
    carried]

/-- An encoding is a whole number of blocks, the last of which has at most two characters of
padding. -/
theorem encode_whole (bytes : List UInt8) :
    (encode bytes).length % 4 = 0 ∧ padding (encode bytes) ≤ 2 := by
  obtain ⟨values, count, same, small, _, few, whole⟩ := encode_eq bytes
  have total := length_content_add_padding (encode bytes)
  have length : (encode bytes).length = values.length + count := by
    rw [same, List.length_append, List.length_map, List.length_replicate]
  have before : (content (encode bytes)).length = values.length := by
    rw [same, content_append (ne_pad_of_mem_symbols small), List.length_map]
  omega

end Base64
