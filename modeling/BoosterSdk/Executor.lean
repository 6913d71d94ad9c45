/-
This file models the two callback executors of `dds_entity.hpp`. Both
`DdsCallbackExecutor` and `DdsDedicatedCallbackExecutor` keep a task queue, a
stop flag and a condition variable under one mutex, and their worker threads
run the same loop; they differ in the number of threads and in the thread
configuration the dedicated one applies before its loop. The state is therefore
one structure, and each critical section is one function on it.

The condition variable is modelled by its wait set: the threads blocked in
`cv_.wait` that no notification has reached. A blocked thread outside the wait
set has been notified and competes for the mutex; a blocked thread may also wake
spuriously. A `std::thread` counts as exited when its `Run` has returned, which
is what `join` waits for.
-/

import BoosterSdk.Library.Interleaving
import Mathlib.Data.Finset.Basic

namespace Booster.Common

open Interleaving

/-- The members of a callback executor. `executors` are the threads it created, `waiting` is
the wait set of `cv_`, and `exited` are the threads that have returned from `Run`. -/
structure Executor (Task : Type) where
  tasks : List Task
  stopRequested : Bool
  waiting : Finset ThreadId
  executors : Finset ThreadId
  exited : Finset ThreadId

/-- What a worker finds in the critical section of `Run`. -/
inductive Wakeup (Task : Type) where
  | task (task : Task)
  | stop
  | again
  | wait

/-- Where a worker thread is in `Run`: before the loop (the thread is being created, or the
dedicated executor configures it), about to lock `mutex_` and test the predicate of
`cv_.wait`, inside `cv_.wait`, running a task, or past the loop. -/
inductive RunPhase (Running : Type) where
  | starting
  | ready
  | blocked
  | running (task : Running)
  | returned

namespace Executor

variable {Task Running : Type}

/-- An executor whose threads have just been created. -/
def create (executors : Finset ThreadId) : Executor Task where
  tasks := []
  stopRequested := false
  waiting := ∅
  executors := executors
  exited := ∅

/-- The critical section of `Submit`. -/
def submit (task : Task) (executor : Executor Task) : Executor Task :=
  { executor with tasks := executor.tasks ++ [task] }

/-- `cv_.notify_one()`: one thread of the wait set is notified, the environment choosing
which; with an empty wait set nothing happens. -/
def notifyOne (target : Option ThreadId) (executor : Executor Task) : Option (Executor Task) :=
  match target with
  | none => if executor.waiting = ∅ then some executor else none
  | some thread =>
    if thread ∈ executor.waiting then
      some { executor with waiting := executor.waiting.erase thread }
    else none

/-- `cv_.notify_all()`. -/
def notifyAll (executor : Executor Task) : Executor Task := { executor with waiting := ∅ }

/-- The critical section of the destructors. -/
def requestStop (executor : Executor Task) : Executor Task :=
  { executor with stopRequested := true }

/-- The critical section of `Run`, up to the point where it waits, returns, starts over or
holds a task. -/
def runLocked (self : ThreadId) (executor : Executor Task) : Wakeup Task × Executor Task :=
  if executor.stopRequested || !executor.tasks.isEmpty then
    match executor.tasks with
    | [] => if executor.stopRequested then (.stop, executor) else (.again, executor)
    | task :: rest => (.task task, { executor with tasks := rest })
  else (.wait, { executor with waiting := insert self executor.waiting })

/-- One step of `Run` outside the tasks. -/
def run (start : Task → Running) (self : ThreadId) (phase : RunPhase Running)
    (executor : Executor Task) : Option (RunPhase Running × Executor Task) :=
  match phase with
  | .starting => some (.ready, executor)
  | .ready =>
    match executor.runLocked self with
    | (.task task, executor) => some (.running (start task), executor)
    | (.stop, executor) =>
      some (.returned, { executor with exited := insert self executor.exited })
    | (.again, executor) => some (.ready, executor)
    | (.wait, executor) => some (.blocked, executor)
  -- Notified or woken spuriously; either way the predicate is tested again.
  | .blocked => some (.ready, { executor with waiting := executor.waiting.erase self })
  | .running _ => none
  | .returned => none

/-- Joining the threads of an executor. A thread that joins itself gets
`resource_deadlock_would_occur` and, inside a destructor, ends the process. -/
inductive Joined where
  | done
  | blocked
  | selfJoin
  deriving DecidableEq

/-- `executor_.join()`, for every thread of the executor. -/
def join (self : ThreadId) (executor : Executor Task) : Joined :=
  if self ∈ executor.executors then .selfJoin
  else if executor.executors ⊆ executor.exited then .done
  else .blocked

@[simp] theorem submit_tasks (task : Task) (executor : Executor Task) :
    (executor.submit task).tasks = executor.tasks ++ [task] := rfl

@[simp] theorem submit_executors (task : Task) (executor : Executor Task) :
    (executor.submit task).executors = executor.executors := rfl

@[simp] theorem requestStop_executors (executor : Executor Task) :
    executor.requestStop.executors = executor.executors := rfl

@[simp] theorem notifyAll_executors (executor : Executor Task) :
    executor.notifyAll.executors = executor.executors := rfl

/-- `notify_one` only shrinks the wait set, and by nothing when it was empty. -/
theorem notifyOne_cases {target : Option ThreadId} {executor next : Executor Task}
    (notified : executor.notifyOne target = some next) :
    (executor.waiting = ∅ ∧ next = executor) ∨
    ∃ thread ∈ executor.waiting,
      next = { executor with waiting := executor.waiting.erase thread } := by
  cases target with
  | none =>
    simp only [notifyOne, Option.ite_none_right_eq_some, Option.some.injEq] at notified
    exact Or.inl ⟨notified.1, notified.2.symm⟩
  | some thread =>
    simp only [notifyOne, Option.ite_none_right_eq_some, Option.some.injEq] at notified
    exact Or.inr ⟨thread, notified.1, notified.2.symm⟩

theorem notifyOne_tasks {target : Option ThreadId} {executor next : Executor Task}
    (notified : executor.notifyOne target = some next) : next.tasks = executor.tasks := by
  rcases notifyOne_cases notified with ⟨_, rfl⟩ | ⟨_, _, rfl⟩ <;> rfl

theorem notifyOne_executors {target : Option ThreadId} {executor next : Executor Task}
    (notified : executor.notifyOne target = some next) :
    next.executors = executor.executors := by
  rcases notifyOne_cases notified with ⟨_, rfl⟩ | ⟨_, _, rfl⟩ <;> rfl

theorem mem_of_selfJoin {self : ThreadId} {executor : Executor Task}
    (joined : executor.join self = .selfJoin) : self ∈ executor.executors := by
  unfold join at joined
  split at joined
  · assumption
  · split at joined <;> cases joined

/-- Everything a worker can do outside a task: reach or restart the loop, take the front
task, return on a stop request with an empty queue, or wait with an empty queue. -/
inductive Runs (start : Task → Running) (self : ThreadId) (executor : Executor Task) :
    RunPhase Running → RunPhase Running → Executor Task → Prop where
  | begin : Runs start self executor .starting .ready executor
  | take (task : Task) (rest : List Task) (front : executor.tasks = task :: rest) :
      Runs start self executor .ready (.running (start task)) { executor with tasks := rest }
  | leave (empty : executor.tasks = []) (stop : executor.stopRequested = true) :
      Runs start self executor .ready .returned
        { executor with exited := insert self executor.exited }
  | wait (empty : executor.tasks = []) (running : executor.stopRequested = false) :
      Runs start self executor .ready .blocked
        { executor with waiting := insert self executor.waiting }
  | wake : Runs start self executor .blocked .ready
      { executor with waiting := executor.waiting.erase self }

theorem run_cases {start : Task → Running} {self : ThreadId} {phase phase' : RunPhase Running}
    {executor executor' : Executor Task}
    (ran : executor.run start self phase = some (phase', executor')) :
    Runs start self executor phase phase' executor' := by
  cases phase with
  | starting =>
    cases ran
    exact .begin
  | ready =>
    obtain ⟨tasks, stopRequested, waiting, executors, exited⟩ := executor
    rcases tasks with _ | ⟨task, rest⟩
    · cases stopRequested with
      | false =>
        cases ran
        exact .wait rfl rfl
      | true =>
        cases ran
        exact .leave rfl rfl
    · simp only [run, runLocked, List.isEmpty_cons, Bool.not_false, Bool.or_true, if_true] at ran
      cases ran
      exact .take task rest rfl
  | blocked =>
    cases ran
    exact .wake
  | running task => cases ran
  | returned => cases ran

end Executor

end Booster.Common
