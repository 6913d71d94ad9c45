/-
This file proves that `NormalizeAngle` ends and reduces an angle to half a turn either way.

Each of its loops is run as the source has it, for a number of tests of its condition;
enough tests give the value the model computes. Whole turns added to an angle do not
change the size of what it is reduced to, and change its sign at most at the seam, where
half a turn one way and half a turn the other are the same angle.
-/

import BoosterSdk.Library.WhileLoop
import BoosterSdk.MoveController

namespace Booster.Robot.B1.MoveController

open WhileLoop WrappedPath

section Methods

variable {K : Type} [Field K] [LinearOrder K] [IsStrictOrderedRing K] [FloorRing K]

/-! ### The loops -/

/-- `while (angle > kPi) angle -= kTwoPi` ends. -/
theorem subtractTurns_ends (kPi : HalfTurn K) (angle : K) :
    Ends (fun angle => kPi.val < angle) (fun angle => angle - 2 * kPi.val) angle
      (subtractTurns kPi angle) := by
  fun_induction subtractTurns kPi angle with
  | case1 angle above inductionHypothesis => exact inductionHypothesis.turn above
  | case2 angle within => exact ends_of_not within

/-- `while (angle < -kPi) angle += kTwoPi` ends. -/
theorem addTurns_ends (kPi : HalfTurn K) (angle : K) :
    Ends (fun angle => angle < -kPi.val) (fun angle => angle + 2 * kPi.val) angle
      (addTurns kPi angle) := by
  fun_induction addTurns kPi angle with
  | case1 angle below inductionHypothesis => exact inductionHypothesis.turn below
  | case2 angle within => exact ends_of_not within

/-! ### The reduction -/

/-- An angle within half a turn is left as it is. -/
theorem normalizeAngle_of_within {kPi : HalfTurn K} {angle : K} (lower : -kPi.val ≤ angle)
    (upper : angle ≤ kPi.val) : normalizeAngle kPi angle = angle := by
  unfold normalizeAngle
  rw [subtractTurns, dif_neg (not_lt.mpr upper), addTurns, if_neg (not_lt.mpr lower)]

omit [IsStrictOrderedRing K] [FloorRing K] in
theorem add_turns_modEq (kPi : HalfTurn K) (angle : K) (turns : ℤ) :
    angle + 2 * turns * kPi.val ≡ angle [PMOD kPi.val + kPi.val] := by
  refine AddCommGroup.modEq_iff_zsmul.mpr ⟨-turns, ?_⟩
  rw [zsmul_eq_mul, Int.cast_neg]
  ring

/-- `NormalizeAngle` ends and is a reduction. From every angle both loops end, the second with an
angle that is within half a turn and differs from the first by whole turns. An angle within half a
turn is left as it is, so nothing changes the second time. Whole turns added before do not change
the size of the result, nor the result unless it is half a turn. -/
theorem normalizeAngle_correct (kPi : HalfTurn K) :
    (∀ angle, ∃ between,
      Ends (fun angle => kPi.val < angle) (fun angle => angle - 2 * kPi.val) angle between ∧
      Ends (fun angle => angle < -kPi.val) (fun angle => angle + 2 * kPi.val) between
        (normalizeAngle kPi angle)) ∧
    (∀ angle, -kPi.val ≤ normalizeAngle kPi angle ∧ normalizeAngle kPi angle ≤ kPi.val) ∧
    (∀ angle, ∃ turns : ℤ, angle - normalizeAngle kPi angle = turns * (2 * kPi.val)) ∧
    (∀ angle, -kPi.val ≤ angle → angle ≤ kPi.val → normalizeAngle kPi angle = angle) ∧
    (∀ angle, normalizeAngle kPi (normalizeAngle kPi angle) = normalizeAngle kPi angle) ∧
    ∀ angle (turns : ℤ),
      |normalizeAngle kPi (angle + 2 * turns * kPi.val)| = |normalizeAngle kPi angle| ∧
      (normalizeAngle kPi angle ≠ kPi.val → normalizeAngle kPi angle ≠ -kPi.val →
        normalizeAngle kPi (angle + 2 * turns * kPi.val) = normalizeAngle kPi angle) := by
  have reduces := normalizeAngle_reduces kPi
  have bounds (angle : K) := abs_le.mp (reduces.bounded angle)
  refine ⟨fun angle => ?_, bounds, fun angle => ?_, fun angle => normalizeAngle_of_within,
    fun angle => normalizeAngle_of_within (bounds angle).1 (bounds angle).2,
    fun angle turns => ⟨?_, fun above below => ?_⟩⟩
  · exact ⟨subtractTurns kPi angle, subtractTurns_ends kPi angle, addTurns_ends kPi _⟩
  · obtain ⟨turns, difference⟩ := AddCommGroup.modEq_iff_zsmul.mp (reduces.congruent angle)
    refine ⟨turns, ?_⟩
    rw [← difference, zsmul_eq_mul, two_mul]
  · exact reduces.abs_eq_of_modEq (add_turns_modEq kPi angle turns)
  · have inside : |normalizeAngle kPi angle| < kPi.val :=
      abs_lt.mpr ⟨lt_of_le_of_ne (bounds angle).1 below.symm, lt_of_le_of_ne (bounds angle).2 above⟩
    exact reduces.eq_of_lt (add_turns_modEq kPi angle turns).symm inside

end Methods

/-- One radian is one radian three turns later. -/
theorem normalizeAngle_correct_later :
    normalizeAngle approximatePi (1 + 2 * (3 : ℤ) * approximatePi.val) = 1 := by
  obtain ⟨_, _, _, within, _, periodic⟩ := normalizeAngle_correct approximatePi
  have same : normalizeAngle approximatePi 1 = 1 :=
    within 1 (by norm_num [approximatePi]) (by norm_num [approximatePi])
  have unchanged := (periodic 1 3).2 (by rw [same]; norm_num [approximatePi])
    (by rw [same]; norm_num [approximatePi])
  rwa [same] at unchanged

end Booster.Robot.B1.MoveController
