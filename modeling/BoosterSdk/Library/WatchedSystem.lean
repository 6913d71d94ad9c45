/-
This file is a library for comparing systems by what a watcher can see of them.

A watched system is a transition system whose steps may report something, such as an
input it takes, and whose states can be looked at when they are at rest. A watcher of
a run is told the reports of all its steps and looks at as many states as he likes,
each time at rest. Two systems that simulate each other in any number of steps that
report the same let the watcher see the same.
-/

import BoosterSdk.Library.Interleaving
import Mathlib.Data.Set.Basic

namespace Interleaving

/-- A transition system with what its steps report, and what is seen of a state at rest. -/
structure WatchedSystem (State Action Report View : Type*) extends System State Action where
  admits : State → Action → Prop
  reports : State → Action → List Report
  rests : State → Prop
  view : State → View

namespace WatchedSystem

variable {State Action Report View : Type*} (watched : WatchedSystem State Action Report View)

/-- The states a state leads to, with what is reported on the way. -/
inductive Leads (start : State) : List Report → State → Prop
  | refl : Leads start [] start
  | step {reports : List Report} {state next : State} {action : Action}
      (before : Leads start reports state) (admitted : watched.admits state action)
      (stepped : watched.step state action = some next) :
      Leads start (reports ++ watched.reports state action) next

/-- The states reached by a run, with what was reported and what was seen of it. -/
inductive Watches : List Report → List View → State → Prop
  | start : Watches [] [] watched.initial
  | step {reports : List Report} {views : List View} {state next : State} {action : Action}
      (before : Watches reports views state) (admitted : watched.admits state action)
      (stepped : watched.step state action = some next) :
      Watches (reports ++ watched.reports state action) views next
  | look {reports : List Report} {views : List View} {state : State}
      (before : Watches reports views state) (resting : watched.rests state) :
      Watches reports (views ++ [watched.view state]) state

/-- What can be seen of the runs that make some reports. -/
def outcomes (reports : List Report) : Set (List View) :=
  { views | ∃ state, watched.Watches reports views state }

variable {watched}

theorem Leads.trans {start middle final : State} {first second : List Report}
    (before : watched.Leads start first middle) (after : watched.Leads middle second final) :
    watched.Leads start (first ++ second) final := by
  induction after with
  | refl =>
    rw [List.append_nil]
    exact before
  | step _ admitted stepped inductionHypothesis =>
    rw [← List.append_assoc]
    exact inductionHypothesis.step admitted stepped

/-- A step that reports nothing. -/
theorem Leads.silent {start state next : State} {reports : List Report} {action : Action}
    (before : watched.Leads start reports state) (admitted : watched.admits state action)
    (stepped : watched.step state action = some next)
    (quiet : watched.reports state action = []) : watched.Leads start reports next := by
  have after := before.step admitted stepped
  rwa [quiet, List.append_nil] at after

theorem Watches.leads {state final : State} {reports more : List Report} {views : List View}
    (before : watched.Watches reports views state) (leads : watched.Leads state more final) :
    watched.Watches (reports ++ more) views final := by
  induction leads with
  | refl =>
    rw [List.append_nil]
    exact before
  | step _ admitted stepped inductionHypothesis =>
    rw [← List.append_assoc]
    exact inductionHypothesis.step admitted stepped

/-! ### Simulation -/

section Simulation

variable {State' Action' : Type*} {other : WatchedSystem State' Action' Report View}

/-- Each step of the first system is matched by some steps of the second that report the same,
and what is seen of a state at rest can be seen of a related one. -/
structure SimulatedBy (watched : WatchedSystem State Action Report View)
    (other : WatchedSystem State' Action' Report View) (related : State → State' → Prop) :
    Prop where
  initially : related watched.initial other.initial
  steps : ∀ state action next state', related state state' → watched.admits state action →
    watched.step state action = some next →
    ∃ next', other.Leads state' (watched.reports state action) next' ∧ related next next'
  looks : ∀ state state', related state state' → watched.rests state →
    other.rests state' ∧ other.view state' = watched.view state

theorem SimulatedBy.watches {related : State → State' → Prop}
    (simulated : SimulatedBy watched other related) {reports : List Report} {views : List View}
    {state : State} (watches : watched.Watches reports views state) :
    ∃ state', other.Watches reports views state' ∧ related state state' := by
  induction watches with
  | start => exact ⟨other.initial, .start, simulated.initially⟩
  | step _ admitted stepped inductionHypothesis =>
    obtain ⟨state', watches, held⟩ := inductionHypothesis
    obtain ⟨next', leads, kept⟩ := simulated.steps _ _ _ _ held admitted stepped
    exact ⟨next', watches.leads leads, kept⟩
  | look _ resting inductionHypothesis =>
    obtain ⟨state', watches, held⟩ := inductionHypothesis
    obtain ⟨resting', same⟩ := simulated.looks _ _ held resting
    refine ⟨state', ?_, held⟩
    rw [← same]
    exact watches.look resting'

/-- Systems that simulate each other show the same. -/
theorem outcomes_eq {forth : State → State' → Prop} {back : State' → State → Prop}
    (first : SimulatedBy watched other forth) (second : SimulatedBy other watched back)
    (reports : List Report) : watched.outcomes reports = other.outcomes reports := by
  refine Set.ext fun views => ⟨?_, ?_⟩
  · rintro ⟨state, watches⟩
    obtain ⟨state', seen, _⟩ := first.watches watches
    exact ⟨state', seen⟩
  · rintro ⟨state', watches⟩
    obtain ⟨state, seen, _⟩ := second.watches watches
    exact ⟨state, seen⟩

end Simulation

end WatchedSystem

end Interleaving
