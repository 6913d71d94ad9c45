/-
This file is a library for linear motions along a segment of a line.

A motion has a start, a target and a duration, and its progress is the share of
the duration that has elapsed, at most one. A motion stays on its segment, only
moves toward its target as time passes, and is at its target exactly when its
duration has elapsed or it started there.
-/

import Mathlib.Algebra.Order.Field.Basic
import Mathlib.Analysis.Convex.Segment

namespace TimedSegment

variable {Point : Type*} [Field Point]

/-- The position of a motion at some progress. -/
def along (start target progress : Point) : Point := start + (target - start) * progress

theorem along_eq_lineMap (start target progress : Point) :
    along start target progress = AffineMap.lineMap start target progress := by
  unfold along
  rw [AffineMap.lineMap_apply_ring', mul_comm, add_comm]

/-- A motion is at its target exactly with full progress or when it started there. -/
theorem along_eq_target_iff {start target progress : Point} :
    along start target progress = target ↔ start = target ∨ progress = 1 := by
  rw [along_eq_lineMap]
  exact AffineMap.lineMap_eq_right_iff

variable [LinearOrder Point]

/-- The share of a duration that has elapsed. -/
def progress (elapsed duration : Point) : Point := min 1 (elapsed / duration)

theorem progress_le_one (elapsed duration : Point) : progress elapsed duration ≤ 1 :=
  min_le_left _ _

variable [IsStrictOrderedRing Point]

theorem progress_nonneg {elapsed duration : Point} (started : 0 ≤ elapsed)
    (positive : 0 < duration) : 0 ≤ progress elapsed duration :=
  le_min zero_le_one (div_nonneg started positive.le)

theorem progress_mono {earlier later duration : Point} (positive : 0 < duration)
    (passed : earlier ≤ later) : progress earlier duration ≤ progress later duration :=
  min_le_min_left 1 (div_le_div_of_nonneg_right passed positive.le)

theorem progress_eq_one_iff {elapsed duration : Point} (positive : 0 < duration) :
    progress elapsed duration = 1 ↔ duration ≤ elapsed := by
  unfold progress
  rw [min_eq_left_iff, one_le_div positive]

/-- A motion stays on its segment. -/
theorem along_mem_uIcc (start target : Point) {elapsed duration : Point} (started : 0 ≤ elapsed)
    (positive : 0 < duration) :
    along start target (progress elapsed duration) ∈ Set.uIcc start target := by
  rw [along_eq_lineMap, ← segment_eq_uIcc]
  exact lineMap_mem_segment Point start target
    ⟨progress_nonneg started positive, progress_le_one elapsed duration⟩

/-- With more progress a motion lies between where it was and its target. -/
theorem along_mem_uIcc_of_le (start target : Point) {earlier later : Point}
    (passed : earlier ≤ later) (within : later ≤ 1) :
    along start target later ∈ Set.uIcc (along start target earlier) target := by
  have whole : along start target 1 = target := along_eq_target_iff.mpr (.inr rfl)
  rw [Set.mem_uIcc]
  rcases le_total 0 (target - start) with forward | backward
  · refine .inl ⟨add_le_add_right (mul_le_mul_of_nonneg_left passed forward) start, ?_⟩
    calc along start target later
      _ ≤ along start target 1 := add_le_add_right (mul_le_mul_of_nonneg_left within forward) start
      _ = target := whole
  · refine .inr ⟨?_, add_le_add_right (mul_le_mul_of_nonpos_left passed backward) start⟩
    calc target
      _ = along start target 1 := whole.symm
      _ ≤ along start target later :=
        add_le_add_right (mul_le_mul_of_nonpos_left within backward) start

/-- A motion is at its target exactly when its duration has elapsed or it started there. -/
theorem along_progress_eq_target_iff {start target elapsed duration : Point}
    (positive : 0 < duration) :
    along start target (progress elapsed duration) = target ↔
      start = target ∨ duration ≤ elapsed := by
  rw [along_eq_target_iff, progress_eq_one_iff positive]

end TimedSegment
