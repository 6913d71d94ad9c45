/-
This file is a library for programs whose threads interleave over shared state.

A transition system is a guarded, executable step function: `step state action`
is `some` of the next state when the action is enabled and `none` otherwise, so
one definition replays a concrete trace and carries the invariant proofs. Runs
can be restricted to steps that meet a condition on the state before the step;
an assumption on the environment is stated that way.

A `Program` describes one thread: what its next atomic step does to its own
local state and to the shared state. Its interleavings form a transition system
over a list of threads in which one thread steps at a time. Invariants of such
systems are mostly of two shapes, and both are made local here: a count of
tokens over all threads (`tally`) changes by what the stepping thread gains or
loses, and the items all threads hold (`gather`) change only at the stepping
thread when no other thread holds any. A recorder adds to a program a log of what
its steps do, for properties of a whole run.
-/

import Mathlib.Data.List.Basic
import Mathlib.Algebra.GroupWithZero.Nat

namespace Interleaving

/-! ### Transition systems -/

/-- A transition system with a guarded, executable step. -/
structure System (State Action : Type*) where
  initial : State
  step : State → Action → Option State

namespace System

variable {State Action : Type*} (system : System State Action)

/-- The states reached by runs all of whose steps are admitted. -/
inductive ReachableBy (admits : State → Action → Prop) : State → Prop
  | initial : ReachableBy admits system.initial
  | step {state next : State} {action : Action} (before : ReachableBy admits state)
      (admitted : admits state action) (stepped : system.step state action = some next) :
      ReachableBy admits next

/-- The states reached by arbitrary runs. -/
abbrev Reachable : State → Prop := system.ReachableBy fun _ _ => True

/-- The state after a list of actions, `none` when one of them is disabled. -/
def runFrom (state : State) : List Action → Option State
  | [] => some state
  | action :: rest => (system.step state action).bind fun next => runFrom next rest

/-- The state after a list of actions from the initial state. -/
def run (actions : List Action) : Option State := system.runFrom system.initial actions

variable {system}

/-- What holds initially and is preserved by admitted steps holds in every state reached. -/
theorem ReachableBy.invariant {admits : State → Action → Prop} {holds : State → Prop}
    (initially : holds system.initial)
    (preserved : ∀ state action next, system.ReachableBy admits state → holds state →
      admits state action → system.step state action = some next → holds next)
    {state : State} (reachable : system.ReachableBy admits state) : holds state := by
  induction reachable with
  | initial => exact initially
  | step before admitted stepped inductionHypothesis =>
    exact preserved _ _ _ before inductionHypothesis admitted stepped

/-- A list of actions that runs through ends in a reachable state. -/
theorem Reachable.runFrom {state final : State} (reachable : system.Reachable state)
    (actions : List Action) (ran : system.runFrom state actions = some final) :
    system.Reachable final := by
  induction actions generalizing state with
  | nil =>
    cases ran
    exact reachable
  | cons action rest inductionHypothesis =>
    obtain ⟨next, stepped, rest⟩ := Option.bind_eq_some_iff.mp ran
    exact inductionHypothesis (reachable.step trivial stepped) rest

theorem reachable_of_run {final : State} {actions : List Action}
    (ran : system.run actions = some final) : system.Reachable final :=
  Reachable.runFrom .initial actions ran

/-- The system that takes only the steps admitted. -/
def restrict (system : System State Action) (admits : State → Action → Prop)
    [∀ state action, Decidable (admits state action)] : System State Action where
  initial := system.initial
  step state action := if admits state action then system.step state action else none

/-- What the restricted system reaches is reached by admitted steps. -/
theorem ReachableBy.of_restrict {admits : State → Action → Prop}
    [∀ state action, Decidable (admits state action)] {state : State}
    (reachable : (system.restrict admits).Reachable state) : system.ReachableBy admits state := by
  induction reachable with
  | initial => exact .initial
  | step _ _ stepped inductionHypothesis =>
    obtain ⟨admitted, stepped⟩ := Option.ite_none_right_eq_some.mp stepped
    exact inductionHypothesis.step admitted stepped

/-! ### Observers -/

/-- The system with an observer who records a view of the state at any point of the run. -/
def observed {View : Type*} (system : System State Action) (view : State → View) :
    System (State × List View) (Option Action) where
  initial := (system.initial, [])
  step
    | (state, views), some action => (system.step state action).map fun next => (next, views)
    | (state, views), none => some (state, views ++ [view state])

/-- The condition on the steps of the system, with the observer free to look at any time. -/
def whileObserved {View : Type*} (admits : State → Action → Prop) :
    State × List View → Option Action → Prop
  | (state, _), some action => admits state action
  | _, none => True

instance {View : Type*} {admits : State → Action → Prop}
    [∀ state action, Decidable (admits state action)] (seen : State × List View)
    (action : Option Action) : Decidable (whileObserved admits seen action) :=
  match action with
  | some action => inferInstanceAs (Decidable (admits seen.1 action))
  | none => inferInstanceAs (Decidable True)

section Observed

variable {View Source : Type*} {view : State → View} {admits : State → Action → Prop}

/-- An observer does not change what is reached. -/
theorem ReachableBy.unobserved {seen : State × List View}
    (reachable : (system.observed view).ReachableBy (whileObserved admits) seen) :
    system.ReachableBy admits seen.1 := by
  induction reachable with
  | initial => exact .initial
  | @step before after action _ admitted stepped inductionHypothesis =>
    cases action with
    | some action =>
      obtain ⟨next, taken, rfl⟩ := Option.map_eq_some_iff.mp stepped
      exact inductionHypothesis.step admitted taken
    | none =>
      cases stepped
      exact inductionHypothesis

/-- When the view is read off a source that only moves forward, the recorded views are read off
sources in order, none of them ahead of the present one. -/
theorem ReachableBy.sources {source : State → Source} {read : Source → View}
    {upTo : Source → Source → Prop} (refl : ∀ now, upTo now now)
    (trans : ∀ first second third, upTo first second → upTo second third → upTo first third)
    (traced : ∀ state, system.ReachableBy admits state → view state = read (source state))
    (forward : ∀ state action next, system.ReachableBy admits state →
      system.step state action = some next → upTo (source state) (source next))
    {seen : State × List View}
    (reachable : (system.observed view).ReachableBy (whileObserved admits) seen) :
    ∃ sources : List Source, seen.2 = sources.map read ∧ sources.Pairwise upTo ∧
      ∀ earlier ∈ sources, upTo earlier (source seen.1) := by
  induction reachable with
  | initial => exact ⟨[], rfl, List.Pairwise.nil, fun _ member => absurd member List.not_mem_nil⟩
  | @step before after action reached _ stepped inductionHypothesis =>
    obtain ⟨sources, views, ordered, bounded⟩ := inductionHypothesis
    cases action with
    | some action =>
      obtain ⟨next, taken, rfl⟩ := Option.map_eq_some_iff.mp stepped
      have moved := forward _ _ _ reached.unobserved taken
      exact ⟨sources, views, ordered, fun earlier member =>
        trans _ _ _ (bounded earlier member) moved⟩
    | none =>
      cases stepped
      refine ⟨sources ++ [source before.1], ?_, ?_, ?_⟩
      · show before.2 ++ [view before.1] = _
        rw [List.map_append, views, traced _ reached.unobserved]
        rfl
      · refine List.pairwise_append.mpr ⟨ordered, List.pairwise_singleton _ _, ?_⟩
        intro earlier member now present
        rw [List.mem_singleton.mp present]
        exact bounded earlier member
      · intro earlier member
        rcases List.mem_append.mp member with old | new
        · exact bounded earlier old
        · rw [List.mem_singleton.mp new]
          exact refl _

end Observed

end System

/-! ### Counting and gathering over a list of threads -/

section Counting

variable {Thread Item : Type*}

/-- The sum of a weight over all threads. -/
def tally (weight : Thread → Nat) (threads : List Thread) : Nat := (threads.map weight).sum

/-- The items all threads hold, in thread order. -/
def gather (held : Thread → List Item) (threads : List Thread) : List Item :=
  threads.flatMap held

@[simp] theorem tally_nil (weight : Thread → Nat) : tally weight [] = 0 := rfl

@[simp] theorem tally_cons (weight : Thread → Nat) (thread : Thread) (rest : List Thread) :
    tally weight (thread :: rest) = weight thread + tally weight rest := by
  simp [tally]

@[simp] theorem tally_append (weight : Thread → Nat) (first second : List Thread) :
    tally weight (first ++ second) = tally weight first + tally weight second := by
  simp [tally]

@[simp] theorem gather_append (held : Thread → List Item) (first second : List Thread) :
    gather held (first ++ second) = gather held first ++ gather held second := by
  simp [gather]

@[simp] theorem gather_cons (held : Thread → List Item) (thread : Thread) (rest : List Thread) :
    gather held (thread :: rest) = held thread ++ gather held rest := rfl

@[simp] theorem gather_nil (held : Thread → List Item) :
    gather held ([] : List Thread) = [] := rfl

/-- The thread at an index splits the list around it, and so does replacing it. -/
theorem split_at_index {threads : List Thread} {index : Nat} {thread : Thread}
    (found : threads[index]? = some thread) :
    ∃ before after, threads = before ++ thread :: after ∧
      ∀ replacement, threads.set index replacement = before ++ replacement :: after := by
  obtain ⟨bound, rfl⟩ := List.getElem?_eq_some_iff.mp found
  refine ⟨threads.take index, threads.drop (index + 1), ?_, fun replacement => ?_⟩
  · rw [List.getElem_cons_drop, List.take_append_drop]
  · rw [List.set_eq_take_append_cons_drop, if_pos bound]

/-- What the thread at an index holds can be brought to the front, before and after replacing
the thread. -/
theorem gather_perm_at_index (held : Thread → List Item) {threads : List Thread} {index : Nat}
    {thread : Thread} (found : threads[index]? = some thread) :
    ∃ others, (gather held threads).Perm (held thread ++ others) ∧
      ∀ replacement,
        (gather held (threads.set index replacement)).Perm (held replacement ++ others) := by
  obtain ⟨before, after, rfl, replaced⟩ := split_at_index found
  refine ⟨gather held before ++ gather held after, ?_, fun replacement => ?_⟩
  · rw [gather_append, gather_cons]
    exact List.perm_append_comm_assoc _ _ _
  · rw [replaced, gather_append, gather_cons]
    exact List.perm_append_comm_assoc _ _ _

theorem tally_add (first second : Thread → Nat) (threads : List Thread) :
    tally (fun thread => first thread + second thread) threads =
      tally first threads + tally second threads := by
  induction threads with
  | nil => rfl
  | cons thread rest inductionHypothesis =>
    simp only [tally_cons, inductionHypothesis]
    omega

/-- Replacing one thread changes a tally by that thread's weight. -/
theorem tally_set (weight : Thread → Nat) {threads : List Thread} {index : Nat} {thread : Thread}
    (found : threads[index]? = some thread) (replacement : Thread) :
    tally weight (threads.set index replacement) + weight thread =
      tally weight threads + weight replacement := by
  obtain ⟨before, after, rfl, replaced⟩ := split_at_index found
  rw [replaced]
  simp only [tally_append, tally_cons]
  omega

/-- One thread's weight is part of the tally. -/
theorem weight_le_tally (weight : Thread → Nat) {threads : List Thread} {index : Nat}
    {thread : Thread} (found : threads[index]? = some thread) :
    weight thread ≤ tally weight threads := by
  obtain ⟨before, after, rfl, _⟩ := split_at_index found
  simp only [tally_append, tally_cons]
  omega

theorem tally_eq_zero {weight : Thread → Nat} {threads : List Thread} :
    tally weight threads = 0 ↔ ∀ thread ∈ threads, weight thread = 0 := by
  induction threads with
  | nil => simp
  | cons thread rest inductionHypothesis =>
    rw [tally_cons, Nat.add_eq_zero_iff, inductionHypothesis, List.forall_mem_cons]

/-- A weight that dominates another has the larger tally. -/
theorem tally_le_tally {small large : Thread → Nat} (bound : ∀ thread, small thread ≤ large thread)
    (threads : List Thread) : tally small threads ≤ tally large threads := by
  induction threads with
  | nil => exact Nat.le_refl 0
  | cons thread rest inductionHypothesis =>
    simp only [tally_cons]
    exact Nat.add_le_add (bound thread) inductionHypothesis

theorem gather_eq_nil {held : Thread → List Item} {threads : List Thread} :
    gather held threads = [] ↔ ∀ thread ∈ threads, held thread = [] := by
  simp [gather]

theorem length_gather (held : Thread → List Item) (threads : List Thread) :
    (gather held threads).length = tally (fun thread => (held thread).length) threads := by
  simp [gather, tally, List.length_flatMap]

/-- When at most one thread may hold items and the stepping thread is that one, the gathered
items are exactly its own, before and after its step. -/
theorem gather_set_of_alone (held : Thread → List Item) (weight : Thread → Nat)
    (holders : ∀ thread, weight thread = 0 → held thread = []) {threads : List Thread}
    {index : Nat} {thread : Thread} (found : threads[index]? = some thread)
    (whole : tally weight threads ≤ weight thread) (replacement : Thread) :
    gather held threads = held thread ∧
      gather held (threads.set index replacement) = held replacement := by
  obtain ⟨before, after, rfl, replaced⟩ := split_at_index found
  rw [replaced]
  simp only [tally_append, tally_cons] at whole
  have beforeEmpty : gather held before = [] := gather_eq_nil.mpr fun other member =>
    holders other (tally_eq_zero.mp (by omega : tally weight before = 0) other member)
  have afterEmpty : gather held after = [] := gather_eq_nil.mpr fun other member =>
    holders other (tally_eq_zero.mp (by omega : tally weight after = 0) other member)
  simp only [gather_append, gather_cons, beforeEmpty, afterEmpty, List.nil_append,
    List.append_nil, and_self]

/-- A step that leaves the stepping thread's items alone leaves the gathered items alone. -/
theorem gather_set_of_eq (held : Thread → List Item) {threads : List Thread} {index : Nat}
    {thread : Thread} (found : threads[index]? = some thread) {replacement : Thread}
    (same : held replacement = held thread) :
    gather held (threads.set index replacement) = gather held threads := by
  obtain ⟨before, after, rfl, replaced⟩ := split_at_index found
  rw [replaced]
  simp only [gather_append, gather_cons, same]

/-- A property of every thread survives a step when the replacement has it. -/
theorem forall_mem_set {holds : Thread → Prop} {threads : List Thread} {index : Nat}
    {replacement : Thread} (every : ∀ thread ∈ threads, holds thread)
    (replaced : holds replacement) : ∀ thread ∈ threads.set index replacement, holds thread := by
  intro thread member
  rcases List.mem_or_eq_of_mem_set member with old | rfl
  · exact every thread old
  · exact replaced

/-- Where a thread of the extended list comes from. -/
theorem found_append {threads : List Thread} {index : Nat} {thread other : Thread}
    (found : (threads ++ [thread])[index]? = some other) :
    threads[index]? = some other ∨ index = threads.length ∧ other = thread := by
  rw [List.getElem?_append] at found
  split at found
  · exact Or.inl found
  · rename_i late
    obtain ⟨bound, rfl⟩ := List.getElem?_eq_some_iff.mp found
    rw [List.length_singleton] at bound
    exact Or.inr ⟨by omega, List.getElem_singleton _⟩

/-- Where a thread of the list after a step comes from. -/
theorem found_set {threads : List Thread} {index self : Nat} {replacement other : Thread}
    (found : (threads.set self replacement)[index]? = some other) :
    index = self ∧ other = replacement ∨ index ≠ self ∧ threads[index]? = some other := by
  by_cases same : index = self
  · subst same
    have bound := (List.getElem?_eq_some_iff.mp found).1
    rw [List.length_set] at bound
    rw [List.getElem?_set_self bound] at found
    exact Or.inl ⟨rfl, (Option.some.inj found).symm⟩
  · rw [List.getElem?_set_ne (Ne.symm same)] at found
    exact Or.inr ⟨same, found⟩

/-- The stepping thread is in the list after its step. -/
theorem mem_set_of_found {threads : List Thread} {self : Nat} {thread : Thread}
    (found : threads[self]? = some thread) (replacement : Thread) :
    replacement ∈ threads.set self replacement :=
  List.mem_iff_getElem?.mpr
    ⟨self, List.getElem?_set_self (List.getElem?_eq_some_iff.mp found).1⟩

end Counting

/-! ### Programs of interleaving threads -/

/-- A thread is named by its index in the list of threads, which only grows. -/
abbrev ThreadId := Nat

/-- What one thread of a concurrent program can do: `act self choice` is the next atomic step
of the thread named `self` on its local and on the shared state, `choice` resolving what the
environment decides. `spawns` tells which threads the environment may start, and `halted`
whether the process has ended. -/
structure Program (Shared Thread Choice : Type*) where
  halted : Shared → Bool
  spawns : Thread → Shared → Bool
  act : ThreadId → Choice → Thread → Shared → Option (Thread × Shared)

/-- The shared state and the local states of all threads. -/
structure Config (Shared Thread : Type*) where
  shared : Shared
  threads : List Thread

/-- A configuration with an empty log. -/
def Config.unlogged {Shared Thread Item : Type*} (config : Config Shared Thread) :
    Config (Shared × List Item) Thread where
  shared := (config.shared, [])
  threads := config.threads

/-- A configuration without its log. -/
def Config.plain {Shared Thread Item : Type*} (config : Config (Shared × List Item) Thread) :
    Config Shared Thread where
  shared := config.shared.1
  threads := config.threads

/-- One scheduling decision. -/
inductive Event (Thread Choice : Type*) where
  | spawn (thread : Thread)
  | act (self : ThreadId) (choice : Choice)

namespace Program

variable {Shared Thread Choice : Type*} (program : Program Shared Thread Choice)

/-- One step of the interleaving. -/
def step (config : Config Shared Thread) : Event Thread Choice → Option (Config Shared Thread)
  | .spawn thread =>
    if program.halted config.shared then none
    else if program.spawns thread config.shared then
      some { config with threads := config.threads ++ [thread] }
    else none
  | .act self choice =>
    if program.halted config.shared then none
    else (config.threads[self]?).bind fun thread =>
      (program.act self choice thread config.shared).map fun (thread, shared) =>
        { shared := shared, threads := config.threads.set self thread }

/-- The transition system of all interleavings from an initial configuration. -/
def system (initial : Config Shared Thread) :
    System (Config Shared Thread) (Event Thread Choice) where
  initial := initial
  step := program.step

variable {program}

/-- A step starts an allowed thread, or one thread acts and every other thread stays. -/
theorem step_cases {config next : Config Shared Thread} {event : Event Thread Choice}
    (stepped : program.step config event = some next) :
    (∃ thread, event = .spawn thread ∧ program.spawns thread config.shared = true ∧
      next.shared = config.shared ∧ next.threads = config.threads ++ [thread]) ∨
    (∃ self choice thread thread', event = .act self choice ∧
      config.threads[self]? = some thread ∧
      program.act self choice thread config.shared = some (thread', next.shared) ∧
      next.threads = config.threads.set self thread') := by
  cases event with
  | spawn thread =>
    simp only [step] at stepped
    split at stepped
    · cases stepped
    · split at stepped
      · rename_i _ allowed
        cases stepped
        exact Or.inl ⟨thread, rfl, allowed, rfl, rfl⟩
      · cases stepped
  | act self choice =>
    simp only [step] at stepped
    split at stepped
    · cases stepped
    · obtain ⟨thread, found, acted⟩ := Option.bind_eq_some_iff.mp stepped
      obtain ⟨⟨thread', shared⟩, result, rfl⟩ := Option.map_eq_some_iff.mp acted
      exact Or.inr ⟨self, choice, thread, thread', rfl, found, result, rfl⟩

/-- What holds initially, survives the start of an allowed thread and survives the step of any
thread holds in every configuration reached. -/
theorem invariant {initial : Config Shared Thread}
    {admits : Config Shared Thread → Event Thread Choice → Prop}
    {holds : Config Shared Thread → Prop} (initially : holds initial)
    (spawned : ∀ config thread, (program.system initial).ReachableBy admits config →
      holds config → admits config (.spawn thread) → program.spawns thread config.shared = true →
      holds { config with threads := config.threads ++ [thread] })
    (acted : ∀ config self choice thread thread' shared,
      (program.system initial).ReachableBy admits config → holds config →
      admits config (.act self choice) → config.threads[self]? = some thread →
      program.act self choice thread config.shared = some (thread', shared) →
      holds { shared := shared, threads := config.threads.set self thread' })
    {config : Config Shared Thread}
    (reachable : (program.system initial).ReachableBy admits config) : holds config := by
  refine reachable.invariant initially ?_
  intro before event next reached held admitted stepped
  obtain ⟨nextShared, nextThreads⟩ := next
  rcases step_cases stepped with
    ⟨thread, rfl, allowed, shared, threads⟩ |
    ⟨self, choice, thread, thread', rfl, found, result, threads⟩
  · subst shared threads
    exact spawned before thread reached held admitted allowed
  · subst threads
    exact acted before self choice thread thread' nextShared reached held admitted found result

/-! ### Recorders -/

section Recorder

variable {Item : Type*}

/-- The program with a log. `emit` says what a step of a thread adds to the log, given the shared
state before the step and the thread before and after it. -/
def recorded (program : Program Shared Thread Choice)
    (emit : Shared → Thread → Thread → List Item) :
    Program (Shared × List Item) Thread Choice where
  halted state := program.halted state.1
  spawns thread state := program.spawns thread state.1
  act self choice thread state :=
    (program.act self choice thread state.1).map fun (thread', shared) =>
      (thread', shared, state.2 ++ emit state.1 thread thread')

/-- A condition on the steps of the program, with the log left aside. -/
def whileRecorded (admits : Config Shared Thread → Event Thread Choice → Prop) :
    Config (Shared × List Item) Thread → Event Thread Choice → Prop :=
  fun config event => admits config.plain event

instance {admits : Config Shared Thread → Event Thread Choice → Prop}
    [∀ config event, Decidable (admits config event)]
    (config : Config (Shared × List Item) Thread) (event : Event Thread Choice) :
    Decidable (whileRecorded admits config event) :=
  inferInstanceAs (Decidable (admits config.plain event))

variable {emit : Shared → Thread → Thread → List Item} {initial : Config Shared Thread}
  {admits : Config Shared Thread → Event Thread Choice → Prop}

/-- A step of the recorded program is a step of the program. -/
theorem recorded_act {self : ThreadId} {choice : Choice} {thread thread' : Thread}
    {state state' : Shared × List Item}
    (acted : (program.recorded emit).act self choice thread state = some (thread', state')) :
    program.act self choice thread state.1 = some (thread', state'.1) ∧
      state'.2 = state.2 ++ emit state.1 thread thread' := by
  obtain ⟨⟨thread'', shared⟩, result, same⟩ := Option.map_eq_some_iff.mp acted
  cases same
  exact ⟨result, rfl⟩

/-- A step of the recorded program, with the log left aside. -/
theorem plain_step {config next : Config (Shared × List Item) Thread}
    {event : Event Thread Choice}
    (stepped : (program.recorded emit).step config event = some next) :
    program.step config.plain event = some next.plain := by
  cases event with
  | spawn thread =>
    simp only [step] at stepped ⊢
    split at stepped
    · cases stepped
    · rename_i running
      split at stepped
      · rename_i allowed
        cases stepped
        exact (if_neg running).trans (if_pos allowed)
      · cases stepped
  | act self choice =>
    simp only [step] at stepped ⊢
    split at stepped
    · cases stepped
    · rename_i running
      obtain ⟨thread, found, acted⟩ := Option.bind_eq_some_iff.mp stepped
      obtain ⟨⟨thread', state⟩, result, rfl⟩ := Option.map_eq_some_iff.mp acted
      refine (if_neg running).trans (Option.bind_eq_some_iff.mpr ⟨thread, found, ?_⟩)
      exact Option.map_eq_some_iff.mpr ⟨_, (recorded_act result).1, rfl⟩

/-- A recorder does not change what is reached. -/
theorem plain_reachable {config : Config (Shared × List Item) Thread}
    (reachable : ((program.recorded emit).system initial.unlogged).ReachableBy
      (whileRecorded admits) config) :
    (program.system initial).ReachableBy admits config.plain := by
  induction reachable with
  | initial => exact .initial
  | step _ admitted stepped inductionHypothesis =>
    exact inductionHypothesis.step admitted (plain_step stepped)

/-- What holds of the initial configuration and the empty log, survives the start of an allowed
thread and survives the step of any thread together with what it emits, holds of every
configuration reached and its log. -/
theorem recorded_invariant {holds : Config Shared Thread → List Item → Prop}
    (initially : holds initial [])
    (spawned : ∀ config log thread, (program.system initial).ReachableBy admits config →
      holds config log → admits config (.spawn thread) →
      program.spawns thread config.shared = true →
      holds { config with threads := config.threads ++ [thread] } log)
    (acted : ∀ config log self choice thread thread' shared,
      (program.system initial).ReachableBy admits config → holds config log →
      admits config (.act self choice) → config.threads[self]? = some thread →
      program.act self choice thread config.shared = some (thread', shared) →
      holds { shared := shared, threads := config.threads.set self thread' }
        (log ++ emit config.shared thread thread'))
    {config : Config (Shared × List Item) Thread}
    (reachable : ((program.recorded emit).system initial.unlogged).ReachableBy
      (whileRecorded admits) config) :
    holds config.plain config.shared.2 := by
  let kept (config : Config (Shared × List Item) Thread) : Prop :=
    holds config.plain config.shared.2
  have start : kept initial.unlogged := initially
  refine invariant start ?_ ?_ reachable
  · intro config thread reached held admitted allowed
    exact spawned config.plain config.shared.2 thread (plain_reachable reached) held admitted
      allowed
  · intro config self choice thread thread' state reached held admitted found stepped
    obtain ⟨result, logged⟩ := recorded_act stepped
    obtain ⟨shared, log⟩ := state
    subst logged
    exact acted config.plain config.shared.2 self choice thread thread' shared
      (plain_reachable reached) held admitted found result

end Recorder

end Program

end Interleaving
