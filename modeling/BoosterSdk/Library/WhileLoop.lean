/-
This file is a library for loops that run while a condition holds.

A run is given a number of tests of the condition and has no result when they do not
suffice. A loop ends when enough tests give a result, the same however many are left
over. It ends at once where the condition fails, and otherwise as it does after a turn.
-/

import Mathlib.Data.Nat.Init

namespace WhileLoop

variable {State : Type*} (guard : State → Prop) [DecidablePred guard] (body : State → State)

/-- A run of `while (guard) body`, for a number of tests. -/
def run : Nat → State → Option State
  | 0, _ => none
  | tests + 1, state => if guard state then run tests (body state) else some state

/-- Enough tests give a result. -/
def Ends (state result : State) : Prop :=
  ∃ enough, ∀ tests, enough ≤ tests → run guard body tests state = some result

variable {guard body} {state result : State}

theorem ends_of_not (finished : ¬ guard state) : Ends guard body state state := by
  refine ⟨1, fun tests positive => ?_⟩
  obtain ⟨rest, rfl⟩ := Nat.exists_eq_add_of_le' positive
  rw [run, if_neg finished]

theorem Ends.turn (turns : guard state) (ends : Ends guard body (body state) result) :
    Ends guard body state result := by
  obtain ⟨enough, ends⟩ := ends
  refine ⟨enough + 1, fun tests more => ?_⟩
  obtain ⟨rest, rfl⟩ := Nat.exists_eq_add_of_le' more
  rw [← Nat.add_assoc, run, if_pos turns]
  exact ends _ (Nat.le_add_left enough rest)

end WhileLoop
