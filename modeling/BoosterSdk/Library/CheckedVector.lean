/-
This file is a library for loops that read and write vectors entry by entry.

Every access is checked: an index out of range is a fault, as is a division by
zero. A loop that writes the entries below a bound in order, each from a value
of its own index, leaves these values followed by the rest of the vector when
the bound is within the vector and no value faults. A sequence of steps that keep an
invariant and do not fault keeps it to the end.
-/

import Mathlib.Data.List.Basic

namespace CheckedVector

/-- What a checked operation can fail with. -/
inductive Fault where
  | outOfRange
  | divisionByZero
  deriving DecidableEq

variable {Value : Type*}

/-- A read of an entry. -/
def entry (vector : List Value) (index : Nat) : Except Fault Value :=
  match vector[index]? with
  | some value => .ok value
  | none => .error .outOfRange

/-- A write of an entry. -/
def assign (vector : List Value) (index : Nat) (value : Value) : Except Fault (List Value) :=
  if index < vector.length then .ok (vector.set index value) else .error .outOfRange

/-- A loop that writes the entries below a bound in order. -/
def fill (count : Nat) (value : Nat → Except Fault Value) (vector : List Value) :
    Except Fault (List Value) :=
  (List.range count).foldlM (fun filled index => value index >>= assign filled index) vector

/-- A quotient. -/
def quotient [Div Value] [Zero Value] [DecidableEq Value] (dividend divisor : Value) :
    Except Fault Value :=
  if divisor = 0 then .error .divisionByZero else .ok (dividend / divisor)

@[simp] theorem ok_bind {Read Next : Type} (value : Read) (next : Read → Except Fault Next) :
    (Except.ok value >>= next) = next value := rfl

theorem entry_of_getElem? {vector : List Value} {index : Nat} {value : Value}
    (found : vector[index]? = some value) : entry vector index = .ok value := by
  unfold entry
  rw [found]

theorem quotient_of_ne [Div Value] [Zero Value] [DecidableEq Value] (dividend : Value)
    {divisor : Value} (nonzero : divisor ≠ 0) :
    quotient dividend divisor = .ok (dividend / divisor) := if_neg nonzero

/-- Writing the entry after those already filled fills one more. -/
theorem assign_filled (values rest : List Value) (old value : Value) :
    assign (values ++ old :: rest) values.length value = .ok (values ++ value :: rest) := by
  unfold assign
  rw [if_pos (by rw [List.length_append, List.length_cons]; omega),
    List.set_append_right values.length value (Nat.le_refl _), Nat.sub_self, List.set_cons_zero]

/-- A loop within the vector whose values do not fault leaves these values and the rest. -/
theorem fill_eq {count : Nat} {value : Nat → Except Fault Value} {result : Nat → Value}
    {vector : List Value} (within : count ≤ vector.length)
    (sound : ∀ index, index < count → value index = .ok (result index)) :
    fill count value vector = .ok ((List.range count).map result ++ vector.drop count) := by
  induction count with
  | zero => rfl
  | succ count inductionHypothesis =>
    have filled := inductionHypothesis (Nat.le_of_succ_le within) fun index below =>
      sound index (Nat.lt_succ_of_lt below)
    have written := assign_filled ((List.range count).map result) (vector.drop (count + 1))
      (vector.get ⟨count, within⟩) (result count)
    rw [List.length_map, List.length_range] at written
    unfold fill at filled ⊢
    rw [List.range_succ, List.foldlM_append, filled, List.drop_eq_getElem_cons within,
      List.map_append, List.append_assoc]
    show (value count >>= fun next => assign _ count next) >>= pure = _
    rw [sound count (Nat.lt_succ_self count)]
    show assign _ count (result count) >>= pure = _
    rw [show vector[count] = vector.get ⟨count, within⟩ from rfl, written]
    rfl

/-- A loop over a vector given by its indices that writes the entries it changes. -/
theorem fill_map_range {count size : Nat} {value : Nat → Except Fault Value}
    {old new : Nat → Value} (within : count ≤ size)
    (sound : ∀ index, index < count → value index = .ok (new index))
    (kept : ∀ index, count ≤ index → index < size → old index = new index) :
    fill count value ((List.range size).map old) = .ok ((List.range size).map new) := by
  rw [fill_eq (by rwa [List.length_map, List.length_range]) sound]
  refine congrArg Except.ok (List.ext_getElem ?_ fun index _ below => ?_)
  · simp only [List.length_append, List.length_map, List.length_drop, List.length_range]
    omega
  · rw [List.length_map, List.length_range] at below
    rw [List.getElem_append]
    split
    · simp only [List.getElem_map, List.getElem_range]
    · rename_i after
      rw [List.length_map, List.length_range, Nat.not_lt] at after
      simp only [List.getElem_drop, List.getElem_map, List.getElem_range, List.length_map,
        List.length_range]
      rw [kept _ (by omega) (by omega), Nat.add_sub_cancel' after]

/-- Steps that do not fault and keep an invariant do so in a sequence. -/
theorem foldlM_keeps {State Action : Type} {step : State → Action → Except Fault State}
    {Keeps : State → Prop}
    (sound : ∀ state action, Keeps state → ∃ next, step state action = .ok next ∧ Keeps next)
    (actions : List Action) {state : State} (kept : Keeps state) :
    ∃ final, actions.foldlM step state = .ok final ∧ Keeps final := by
  induction actions generalizing state with
  | nil => exact ⟨state, rfl, kept⟩
  | cons action rest inductionHypothesis =>
    obtain ⟨next, stepped, nextKept⟩ := sound state action kept
    rw [List.foldlM_cons, stepped, ok_bind]
    exact inductionHypothesis nextKept

end CheckedVector
