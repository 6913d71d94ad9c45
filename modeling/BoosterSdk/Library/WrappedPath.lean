/-
This file is a library for angles that are read modulo a full turn.

A heading is unwrapped, and a reading is any value congruent to it modulo the full
turn. A reduction brings an angle back to at most half a turn either way. While a
heading moves by less than half a turn between two readings, reducing the
difference of the readings gives the true difference, whichever representatives
were read, so the reduced differences add up to the length of the path. The length
counts motion either way: what the heading has moved in the end falls short of it by
twice the lesser of the two, and is all of it exactly when the heading moves one way.
-/

import Mathlib.Algebra.Group.ModEq
import Mathlib.Algebra.Order.Archimedean.Basic
import Mathlib.Algebra.Order.BigOperators.Group.Finset
import Mathlib.Algebra.Order.Group.MinMax
import Mathlib.Tactic.Abel

namespace WrappedPath

variable {Angle : Type*} [AddCommGroup Angle] [LinearOrder Angle]

/-- The length of the path of a heading up to a reading. -/
def pathLength (heading : ℕ → Angle) (index : ℕ) : Angle :=
  ∑ step ∈ Finset.range index, |heading (step + 1) - heading step|

@[simp] theorem pathLength_zero (heading : ℕ → Angle) : pathLength heading 0 = 0 := rfl

theorem pathLength_succ (heading : ℕ → Angle) (index : ℕ) :
    pathLength heading (index + 1) =
      pathLength heading index + |heading (index + 1) - heading index| :=
  Finset.sum_range_succ _ index

variable [IsOrderedAddMonoid Angle]

theorem pathLength_mono (heading : ℕ → Angle) : Monotone (pathLength heading) := by
  refine monotone_nat_of_le_succ fun index => ?_
  rw [pathLength_succ]
  exact le_add_of_nonneg_right (abs_nonneg _)

theorem pathLength_nonneg (heading : ℕ → Angle) (index : ℕ) : 0 ≤ pathLength heading index :=
  Finset.sum_nonneg fun _ _ => abs_nonneg _

/-! ### Motion either way -/

/-- How far a heading has moved up, and how far down, up to a reading. -/
def rise (heading : ℕ → Angle) (index : ℕ) : Angle :=
  ∑ step ∈ Finset.range index, max (heading (step + 1) - heading step) 0

def fall (heading : ℕ → Angle) (index : ℕ) : Angle :=
  ∑ step ∈ Finset.range index, max (heading step - heading (step + 1)) 0

/-- The length of a path is what it moves up and what it moves down. -/
theorem pathLength_eq (heading : ℕ → Angle) (index : ℕ) :
    pathLength heading index = rise heading index + fall heading index := by
  unfold pathLength rise fall
  rw [← Finset.sum_add_distrib]
  refine Finset.sum_congr rfl fun step _ => ?_
  rw [← neg_sub (heading (step + 1)) (heading step)]
  exact (max_zero_add_max_neg_zero_eq_abs_self _).symm

/-- What a heading has moved in the end is what it moves up without what it moves down. -/
theorem sub_eq_rise_sub_fall (heading : ℕ → Angle) (index : ℕ) :
    heading index - heading 0 = rise heading index - fall heading index := by
  unfold rise fall
  rw [← Finset.sum_sub_distrib, ← Finset.sum_range_sub]
  refine Finset.sum_congr rfl fun step _ => ?_
  rw [← neg_sub (heading (step + 1)) (heading step)]
  exact (max_zero_sub_max_neg_zero_eq_self _).symm

/-- The motion in the end falls short of the path by twice the lesser of the motions either way. -/
theorem abs_sub_add_min (heading : ℕ → Angle) (index : ℕ) :
    |heading index - heading 0| + 2 • min (rise heading index) (fall heading index) =
      pathLength heading index := by
  rw [pathLength_eq, sub_eq_rise_sub_fall, two_nsmul]
  rcases le_total (rise heading index) (fall heading index) with less | more
  · rw [min_eq_left less, abs_of_nonpos (sub_nonpos.mpr less)]
    abel
  · rw [min_eq_right more, abs_of_nonneg (sub_nonneg.mpr more)]
    abel

/-- A heading that does not move down up to a reading, or does not move up. -/
def OneWay (heading : ℕ → Angle) (index : ℕ) : Prop :=
  (∀ step < index, heading step ≤ heading (step + 1)) ∨
    ∀ step < index, heading (step + 1) ≤ heading step

omit [AddCommGroup Angle] [IsOrderedAddMonoid Angle] in
theorem oneWay_zero (heading : ℕ → Angle) : OneWay heading 0 :=
  .inl fun step before => absurd before (Nat.not_lt_zero step)

omit [AddCommGroup Angle] [IsOrderedAddMonoid Angle] in
/-- A heading that rests goes on moving one way. -/
theorem OneWay.rest {heading : ℕ → Angle} {index : ℕ} (oneWay : OneWay heading index)
    (still : heading (index + 1) = heading index) : OneWay heading (index + 1) := by
  rcases oneWay with up | down
  · refine .inl fun step before => ?_
    rcases Nat.lt_succ_iff_lt_or_eq.mp before with earlier | rfl
    · exact up step earlier
    · exact still.ge
  · refine .inr fun step before => ?_
    rcases Nat.lt_succ_iff_lt_or_eq.mp before with earlier | rfl
    · exact down step earlier
    · exact still.le

theorem fall_eq_zero_iff {heading : ℕ → Angle} {index : ℕ} :
    fall heading index = 0 ↔ ∀ step < index, heading step ≤ heading (step + 1) := by
  unfold fall
  rw [Finset.sum_eq_zero_iff_of_nonneg fun _ _ => le_max_right _ _]
  simp only [Finset.mem_range, max_eq_right_iff, sub_nonpos]

theorem rise_eq_zero_iff {heading : ℕ → Angle} {index : ℕ} :
    rise heading index = 0 ↔ ∀ step < index, heading (step + 1) ≤ heading step := by
  unfold rise
  rw [Finset.sum_eq_zero_iff_of_nonneg fun _ _ => le_max_right _ _]
  simp only [Finset.mem_range, max_eq_right_iff, sub_nonpos]

/-- A heading has moved as far as its path is long exactly when it moves one way. -/
theorem pathLength_le_abs_sub_iff {heading : ℕ → Angle} {index : ℕ} :
    pathLength heading index ≤ |heading index - heading 0| ↔ OneWay heading index := by
  have up : 0 ≤ rise heading index := Finset.sum_nonneg fun _ _ => le_max_right _ _
  have down : 0 ≤ fall heading index := Finset.sum_nonneg fun _ _ => le_max_right _ _
  have lesser : 0 ≤ min (rise heading index) (fall heading index) := le_min up down
  have zero : 2 • min (rise heading index) (fall heading index) ≤ 0 ↔
      min (rise heading index) (fall heading index) = 0 := by
    constructor
    · intro bound
      refine le_antisymm ?_ lesser
      rw [two_nsmul] at bound
      exact (le_add_of_nonneg_right lesser).trans bound
    · intro vanishes
      rw [vanishes, nsmul_zero]
  rw [← abs_sub_add_min heading index, add_le_iff_nonpos_right, zero, OneWay, ← fall_eq_zero_iff,
    ← rise_eq_zero_iff]
  constructor
  · intro vanishes
    rcases min_choice (rise heading index) (fall heading index) with rising | falling
    · exact .inr (rising.symm.trans vanishes)
    · exact .inl (falling.symm.trans vanishes)
  · rintro (still | still)
    · rw [still, min_eq_right up]
    · rw [still, min_eq_left down]

/-! ### Reduction -/

/-- Congruent values closer than the period are equal. -/
theorem eq_of_modEq_of_abs_sub_lt {period first second : Angle}
    (congruent : first ≡ second [PMOD period]) (near : |second - first| < period) :
    first = second := by
  obtain ⟨turns, difference⟩ := AddCommGroup.modEq_iff_zsmul.mp congruent
  by_cases same : turns = 0
  · rw [same, zero_zsmul] at difference
    exact (sub_eq_zero.mp difference.symm).symm
  · have positive : 0 < period := lt_of_le_of_lt (abs_nonneg _) near
    have far : period ≤ |second - first| := by
      rw [← difference, abs_zsmul, abs_of_pos positive]
      calc period
        _ = (1 : ℤ) • period := (one_zsmul period).symm
        _ ≤ |turns| • period :=
          zsmul_le_zsmul_left positive.le (Int.one_le_abs same)
    exact absurd near (not_lt_of_ge far)

/-- A reduction of angles to at most half a turn either way. -/
structure Reduces (half : Angle) (reduce : Angle → Angle) : Prop where
  bounded : ∀ angle, |reduce angle| ≤ half
  congruent : ∀ angle, reduce angle ≡ angle [PMOD half + half]

/-- An angle congruent to one of less than half a turn is reduced to it. -/
theorem Reduces.eq_of_modEq {half : Angle} {reduce : Angle → Angle} (reduces : Reduces half reduce)
    {angle small : Angle} (congruent : angle ≡ small [PMOD half + half])
    (bound : |small| < half) : reduce angle = small := by
  refine eq_of_modEq_of_abs_sub_lt ((reduces.congruent angle).trans congruent) ?_
  calc |small - reduce angle|
    _ ≤ |small| + |reduce angle| := abs_sub _ _
    _ < half + half := add_lt_add_of_lt_of_le bound (reduces.bounded angle)

/-- Congruent angles are reduced to the same one, when one is reduced to less than half a turn. -/
theorem Reduces.eq_of_lt {half : Angle} {reduce : Angle → Angle} (reduces : Reduces half reduce)
    {first second : Angle} (congruent : first ≡ second [PMOD half + half])
    (inside : |reduce first| < half) : reduce second = reduce first :=
  reduces.eq_of_modEq (congruent.symm.trans (reduces.congruent first).symm) inside

/-- Congruent angles are reduced to angles of the same size. -/
theorem Reduces.abs_eq_of_modEq {half : Angle} {reduce : Angle → Angle}
    (reduces : Reduces half reduce) {first second : Angle}
    (congruent : first ≡ second [PMOD half + half]) : |reduce first| = |reduce second| := by
  rcases lt_or_eq_of_le (reduces.bounded first) with inside | seam
  · rw [reduces.eq_of_lt congruent inside]
  · rcases lt_or_eq_of_le (reduces.bounded second) with inside | seam'
    · rw [reduces.eq_of_lt congruent.symm inside]
    · rw [seam, seam']

/-- The length of a path measured from its readings. -/
def measuredLength (reduce : Angle → Angle) (reading : ℕ → Angle) (index : ℕ) : Angle :=
  ∑ step ∈ Finset.range index, |reduce (reading (step + 1) - reading step)|

omit [IsOrderedAddMonoid Angle] in
theorem measuredLength_succ (reduce : Angle → Angle) (reading : ℕ → Angle) (index : ℕ) :
    measuredLength reduce reading (index + 1) =
      measuredLength reduce reading index + |reduce (reading (index + 1) - reading index)| :=
  Finset.sum_range_succ _ index

/-- While a heading moves by less than half a turn between two readings, its path is measured
exactly. -/
theorem Reduces.measuredLength_eq {half : Angle} {reduce : Angle → Angle}
    (reduces : Reduces half reduce) {heading reading : ℕ → Angle} {index : ℕ}
    (wrapped : ∀ earlier ≤ index, reading earlier ≡ heading earlier [PMOD half + half])
    (small : ∀ earlier, |heading (earlier + 1) - heading earlier| < half) :
    measuredLength reduce reading index = pathLength heading index := by
  refine Finset.sum_congr rfl fun step member => ?_
  have before := Finset.mem_range.mp member
  rw [reduces.eq_of_modEq ((wrapped (step + 1) before).sub (wrapped step before.le)) (small step)]

end WrappedPath
