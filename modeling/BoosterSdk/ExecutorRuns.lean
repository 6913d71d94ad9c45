/-
This file proves that the callback executors run every task exactly once.

The world is one executor with its worker threads, any number of outside threads
that call `Submit`, and any number of threads that run the destructor. A task is
opaque except that it may itself call `Submit`, any number of times, while it
runs on a worker. `Submit` pushes under the lock and calls `notify_one` after it,
as two steps between which every other thread may run.

Three histories are kept next to the executor: the tasks in the order they were
pushed, in the order they were popped, and in the order they finished. Each
submission records whether it came from a running task and whether the stop flag
was still clear, which is all the exactly-once statement at shutdown asks about.
-/

import BoosterSdk.Executor
import Mathlib.Data.List.Perm.Basic
import Mathlib.Data.List.Nodup

namespace Booster.Common

open Interleaving

/-! ### The world of one executor -/

/-- One call of `Submit`. -/
structure Submission where
  id : Nat
  byTask : Bool
  beforeStop : Bool
  deriving DecidableEq

/-- A task running on a worker; `notifying` when it has pushed a submission of its own and
not yet called `notify_one`. -/
structure TaskRun where
  task : Submission
  notifying : Bool

/-- A task starts with no call of `Submit` in progress. -/
def TaskRun.start (task : Submission) : TaskRun := ⟨task, false⟩

/-- An outside call of `Submit`. -/
inductive SubmitPhase where
  | pushing
  | notifying
  | returned

/-- A call of the destructor. -/
inductive DestructorPhase where
  | stopping
  | notifying
  | joining
  | returned

inductive ExecutorThread where
  | worker (phase : RunPhase TaskRun)
  | submitter (phase : SubmitPhase)
  | destructor (phase : DestructorPhase)

/-- What the environment decides at a step: which thread `notify_one` reaches, and whether a
running task calls `Submit` or goes on to its end. -/
inductive ExecutorChoice where
  | proceed
  | submit
  | notify (target : Option ThreadId)

structure ExecutorWorld where
  executor : Executor Submission
  submitted : List Submission
  popped : List Submission
  executed : List Submission

/-- The critical section of a call of `Submit`. -/
def ExecutorWorld.push (byTask : Bool) (world : ExecutorWorld) : ExecutorWorld :=
  let task : Submission :=
    ⟨world.submitted.length, byTask, !world.executor.stopRequested⟩
  { world with
    executor := world.executor.submit task
    submitted := world.submitted ++ [task] }

/-- The task a worker is running. -/
def RunPhase.current : RunPhase TaskRun → List Submission
  | .running run => [run.task]
  | _ => []

def ExecutorThread.act (self : ThreadId) (choice : ExecutorChoice) (thread : ExecutorThread)
    (world : ExecutorWorld) : Option (ExecutorThread × ExecutorWorld) :=
  match thread, choice with
  | .worker (.running ⟨task, false⟩), .proceed =>
    some (.worker .ready, { world with executed := world.executed ++ [task] })
  | .worker (.running ⟨task, false⟩), .submit =>
    some (.worker (.running ⟨task, true⟩), world.push true)
  | .worker (.running ⟨task, true⟩), .notify target =>
    (world.executor.notifyOne target).map fun executor =>
      (.worker (.running ⟨task, false⟩), { world with executor := executor })
  | .worker phase, .proceed =>
    (world.executor.run TaskRun.start self phase).map fun (phase, executor) =>
      (.worker phase,
        { world with executor := executor, popped := world.popped ++ phase.current })
  | .submitter .pushing, .proceed => some (.submitter .notifying, world.push false)
  | .submitter .notifying, .notify target =>
    (world.executor.notifyOne target).map fun executor =>
      (.submitter .returned, { world with executor := executor })
  | .destructor .stopping, .proceed =>
    some (.destructor .notifying, { world with executor := world.executor.requestStop })
  | .destructor .notifying, .proceed =>
    some (.destructor .joining, { world with executor := world.executor.notifyAll })
  | .destructor .joining, .proceed =>
    match world.executor.join self with
    | .done => some (.destructor .returned, world)
    | _ => none
  | _, _ => none

/-- The environment may call `Submit` and the destructor; worker threads are only created by
the constructor. -/
def ExecutorThread.spawns : ExecutorThread → ExecutorWorld → Bool
  | .submitter .pushing, _ => true
  | .destructor .stopping, _ => true
  | _, _ => false

def executorProgram : Program ExecutorWorld ExecutorThread ExecutorChoice where
  halted _ := false
  spawns := ExecutorThread.spawns
  act := ExecutorThread.act

/-- An executor whose constructor has created its worker threads. -/
def executorInitial (workers : Nat) : Config ExecutorWorld ExecutorThread where
  shared := ⟨.create (Finset.range workers), [], [], []⟩
  threads := List.replicate workers (.worker .starting)

/-- `DdsCallbackExecutor` with any number of workers, and `DdsDedicatedCallbackExecutor` with
one. -/
abbrev executorSystem (workers : Nat) := executorProgram.system (executorInitial workers)

/-! ### What one thread can do -/

/-- The steps of the world, by what they do to it. -/
inductive ExecutorActs (self : ThreadId) (world : ExecutorWorld) :
    ExecutorThread → ExecutorThread → ExecutorWorld → Prop where
  | finish (task : Submission) :
      ExecutorActs self world (.worker (.running ⟨task, false⟩)) (.worker .ready)
        { world with executed := world.executed ++ [task] }
  | taskPush (task : Submission) :
      ExecutorActs self world (.worker (.running ⟨task, false⟩))
        (.worker (.running ⟨task, true⟩)) (world.push true)
  | taskNotify (task : Submission) (target : Option ThreadId) (executor : Executor Submission)
      (notified : world.executor.notifyOne target = some executor) :
      ExecutorActs self world (.worker (.running ⟨task, true⟩))
        (.worker (.running ⟨task, false⟩)) { world with executor := executor }
  | run (phase phase' : RunPhase TaskRun) (executor : Executor Submission)
      (ran : world.executor.Runs TaskRun.start self phase phase' executor) :
      ExecutorActs self world (.worker phase) (.worker phase')
        { world with executor := executor, popped := world.popped ++ phase'.current }
  | push :
      ExecutorActs self world (.submitter .pushing) (.submitter .notifying) (world.push false)
  | notify (target : Option ThreadId) (executor : Executor Submission)
      (notified : world.executor.notifyOne target = some executor) :
      ExecutorActs self world (.submitter .notifying) (.submitter .returned)
        { world with executor := executor }
  | stop :
      ExecutorActs self world (.destructor .stopping) (.destructor .notifying)
        { world with executor := world.executor.requestStop }
  | notifyAll :
      ExecutorActs self world (.destructor .notifying) (.destructor .joining)
        { world with executor := world.executor.notifyAll }
  | join :
      ExecutorActs self world (.destructor .joining) (.destructor .returned) world

theorem executorAct_cases {self : ThreadId} {choice : ExecutorChoice}
    {thread thread' : ExecutorThread} {world world' : ExecutorWorld}
    (acted : thread.act self choice world = some (thread', world')) :
    ExecutorActs self world thread thread' world' := by
  unfold ExecutorThread.act at acted
  split at acted
  · cases acted
    exact .finish _
  · cases acted
    exact .taskPush _
  · obtain ⟨executor, notified, result⟩ := Option.map_eq_some_iff.mp acted
    cases result
    exact .taskNotify _ _ executor notified
  · obtain ⟨⟨phase, executor⟩, ran, result⟩ := Option.map_eq_some_iff.mp acted
    cases result
    exact .run _ phase executor (Executor.run_cases ran)
  · cases acted
    exact .push
  · obtain ⟨executor, notified, result⟩ := Option.map_eq_some_iff.mp acted
    cases result
    exact .notify _ executor notified
  · cases acted
    exact .stop
  · cases acted
    exact .notifyAll
  · split at acted
    · cases acted
      exact .join
    · cases acted
  · cases acted

/-! ### The invariant -/

/-- The task a thread is running. -/
def ExecutorThread.current : ExecutorThread → List Submission
  | .worker phase => phase.current
  | _ => []

/-- A thread that has pushed a task and still has to call `notify_one`. -/
def ExecutorThread.notifies : ExecutorThread → Nat
  | .worker (.running ⟨_, true⟩) => 1
  | .submitter .notifying => 1
  | _ => 0

def ExecutorThread.isWorker : ExecutorThread → Bool
  | .worker _ => true
  | _ => false

/-- All workers have returned from `Run`. -/
def AllReturned (threads : List ExecutorThread) : Prop :=
  ∀ phase, .worker phase ∈ threads → phase = .returned

/-- The copies of a task a thread is running. -/
def ExecutorThread.runs (task : Submission) (thread : ExecutorThread) : Nat :=
  thread.current.count task

/-- The invariant of an executor with `workers` threads. `queue`, `ids` and `accounted` say
where every submission is; `wakeup` that the notification of a queued task is not lost;
`stranded` that what stays queued after the last worker returned came from outside, after the
stop request. -/
structure ExecutorInvariant (workers : Nat) (config : Config ExecutorWorld ExecutorThread) :
    Prop where
  executors : config.shared.executor.executors = Finset.range workers
  workerIndex : ∀ index thread, config.threads[index]? = some thread →
    (thread.isWorker = true ↔ index < workers)
  count : workers ≤ config.threads.length
  waitingWorkers : config.shared.executor.waiting ⊆ Finset.range workers
  queue : config.shared.popped ++ config.shared.executor.tasks = config.shared.submitted
  ids : config.shared.submitted.map Submission.id = List.range config.shared.submitted.length
  accounted : ∀ task, config.shared.executed.count task +
    tally (ExecutorThread.runs task) config.threads = config.shared.popped.count task
  wakeup : config.shared.executor.stopRequested = false → config.shared.executor.tasks ≠ [] →
    Finset.range workers ⊆ config.shared.executor.waiting →
      0 < tally ExecutorThread.notifies config.threads
  stopped : .worker .returned ∈ config.threads → config.shared.executor.stopRequested = true
  stranded : AllReturned config.threads →
    ∀ task ∈ config.shared.executor.tasks, task.byTask = false ∧ task.beforeStop = false

section Step

variable {self : ThreadId} {world world' : ExecutorWorld} {thread thread' : ExecutorThread}

theorem executorActs_executors (acts : ExecutorActs self world thread thread' world') :
    world'.executor.executors = world.executor.executors := by
  cases acts with
  | taskNotify _ _ _ notified => exact Executor.notifyOne_executors notified
  | notify _ _ notified => exact Executor.notifyOne_executors notified
  | run _ _ _ ran => cases ran <;> rfl
  | _ => rfl

theorem executorActs_isWorker (acts : ExecutorActs self world thread thread' world') :
    thread'.isWorker = thread.isWorker := by
  cases acts <;> rfl

/-- Only a worker joins the wait set, and it joins it itself. -/
theorem executorActs_waiting (acts : ExecutorActs self world thread thread' world') :
    world'.executor.waiting ⊆ world.executor.waiting ∨
      thread.isWorker = true ∧
        world'.executor.waiting = insert self world.executor.waiting := by
  cases acts with
  | taskNotify _ _ _ notified =>
    rcases Executor.notifyOne_cases notified with ⟨_, rfl⟩ | ⟨_, _, rfl⟩
    · exact Or.inl (Finset.Subset.refl _)
    · exact Or.inl (Finset.erase_subset _ _)
  | notify _ _ notified =>
    rcases Executor.notifyOne_cases notified with ⟨_, rfl⟩ | ⟨_, _, rfl⟩
    · exact Or.inl (Finset.Subset.refl _)
    · exact Or.inl (Finset.erase_subset _ _)
  | run _ _ _ ran =>
    cases ran with
    | wait => exact Or.inr ⟨rfl, rfl⟩
    | wake => exact Or.inl (Finset.erase_subset _ _)
    | _ => exact Or.inl (Finset.Subset.refl _)
  | notifyAll => exact Or.inl (Finset.empty_subset _)
  | _ => exact Or.inl (Finset.Subset.refl _)

/-- Pops come off the front of what was pushed. -/
theorem executorActs_queue (acts : ExecutorActs self world thread thread' world')
    (queue : world.popped ++ world.executor.tasks = world.submitted) :
    world'.popped ++ world'.executor.tasks = world'.submitted := by
  cases acts with
  | taskPush | push =>
    show world.popped ++ (world.executor.tasks ++ [_]) = world.submitted ++ [_]
    rw [← List.append_assoc, queue]
  | taskNotify _ _ _ notified =>
    show world.popped ++ _ = world.submitted
    rw [Executor.notifyOne_tasks notified, queue]
  | notify _ _ notified =>
    show world.popped ++ _ = world.submitted
    rw [Executor.notifyOne_tasks notified, queue]
  | run _ _ _ ran =>
    cases ran with
    | take task rest front =>
      show (world.popped ++ [task]) ++ rest = world.submitted
      rw [← queue, front, List.append_assoc, List.singleton_append]
    | _ =>
      show (world.popped ++ []) ++ world.executor.tasks = world.submitted
      rw [List.append_nil, queue]
  | _ => exact queue

/-- Submissions are numbered in the order they are pushed. -/
theorem executorActs_ids (acts : ExecutorActs self world thread thread' world')
    (ids : world.submitted.map Submission.id = List.range world.submitted.length) :
    world'.submitted.map Submission.id = List.range world'.submitted.length := by
  cases acts with
  | taskPush | push =>
    simp only [ExecutorWorld.push, List.map_append, List.map_cons, List.map_nil, ids,
      List.length_append, List.length_cons, List.length_nil, Nat.zero_add, List.range_succ]
  | _ => exact ids

/-- A popped task is running until it is executed. -/
theorem executorActs_accounted (acts : ExecutorActs self world thread thread' world')
    (task : Submission) :
    world'.executed.count task + thread'.runs task + world.popped.count task =
      world.executed.count task + thread.runs task + world'.popped.count task := by
  cases acts with
  | finish done =>
    simp only [ExecutorThread.runs, ExecutorThread.current, RunPhase.current, List.count_append,
      List.count_nil]
    omega
  | run _ _ _ ran =>
    cases ran <;>
      simp only [ExecutorThread.runs, ExecutorThread.current, RunPhase.current,
        TaskRun.start, List.count_append, List.count_nil] <;> omega
  | _ => rfl

/-- A worker that was woken is missing from the wait set. -/
theorem not_range_subset_erase {workers : Nat} {waiting : Finset ThreadId}
    (member : self ∈ Finset.range workers) :
    ¬ Finset.range workers ⊆ waiting.erase self := fun covered =>
  Finset.notMem_erase self waiting (covered member)

/-- After `notify_one` some worker is outside the wait set. -/
theorem not_range_subset_notifyOne {workers : Nat} (positive : 0 < workers)
    {target : Option ThreadId} {executor next : Executor Submission}
    (notified : executor.notifyOne target = some next)
    (waitingWorkers : executor.waiting ⊆ Finset.range workers) :
    ¬ Finset.range workers ⊆ next.waiting := by
  rcases Executor.notifyOne_cases notified with ⟨empty, rfl⟩ | ⟨woken, member, rfl⟩
  · intro covered
    have impossible := covered (Finset.mem_range.mpr positive)
    rw [empty] at impossible
    exact absurd impossible (Finset.notMem_empty 0)
  · exact not_range_subset_erase (waitingWorkers member)

/-- Every push leaves a notification to be issued, every notification leaves a worker that is
not waiting, and a worker waits only when the queue is empty. -/
theorem executorActs_wakeup {workers : Nat} (positive : 0 < workers)
    (acts : ExecutorActs self world thread thread' world') {threads : List ExecutorThread}
    (found : threads[self]? = some thread)
    (selfWorker : thread.isWorker = true → self ∈ Finset.range workers)
    (waitingWorkers : world.executor.waiting ⊆ Finset.range workers)
    (wakeup : world.executor.stopRequested = false → world.executor.tasks ≠ [] →
      Finset.range workers ⊆ world.executor.waiting →
        0 < tally ExecutorThread.notifies threads)
    (running : world'.executor.stopRequested = false) (queued : world'.executor.tasks ≠ [])
    (covered : Finset.range workers ⊆ world'.executor.waiting) :
    0 < tally ExecutorThread.notifies (threads.set self thread') := by
  have replaced := tally_set ExecutorThread.notifies found thread'
  cases acts with
  | finish => exact lt_of_lt_of_eq (wakeup running queued covered) replaced.symm
  | taskPush | push =>
    simp only [ExecutorThread.notifies] at replaced
    omega
  | taskNotify _ _ _ notified =>
    exact absurd covered (not_range_subset_notifyOne positive notified waitingWorkers)
  | notify _ _ notified =>
    exact absurd covered (not_range_subset_notifyOne positive notified waitingWorkers)
  | run _ _ _ ran =>
    cases ran with
    | begin => exact lt_of_lt_of_eq (wakeup running queued covered) replaced.symm
    | take task rest front =>
      have before := wakeup running (by rw [front]; exact List.cons_ne_nil _ _) covered
      exact lt_of_lt_of_eq before replaced.symm
    | leave empty => exact absurd empty queued
    | wait empty => exact absurd empty queued
    | wake => exact absurd covered (not_range_subset_erase (selfWorker rfl))
  | stop => cases running
  | notifyAll =>
    exact absurd (covered (Finset.mem_range.mpr positive)) (Finset.notMem_empty 0)
  | join => exact lt_of_lt_of_eq (wakeup running queued covered) replaced.symm

theorem executorActs_stopRequested (acts : ExecutorActs self world thread thread' world')
    (stopped : world.executor.stopRequested = true) :
    world'.executor.stopRequested = true := by
  cases acts with
  | taskNotify _ _ _ notified =>
    rcases Executor.notifyOne_cases notified with ⟨_, rfl⟩ | ⟨_, _, rfl⟩ <;> exact stopped
  | notify _ _ notified =>
    rcases Executor.notifyOne_cases notified with ⟨_, rfl⟩ | ⟨_, _, rfl⟩ <;> exact stopped
  | run _ _ _ ran => cases ran <;> exact stopped
  | stop => rfl
  | _ => exact stopped

/-- A worker returns from `Run` only on a stop request, with an empty queue. -/
theorem executorActs_returned
    (acts : ExecutorActs self world thread (.worker .returned) world') :
    world'.executor.stopRequested = true ∧ world'.executor.tasks = [] := by
  cases acts with
  | run _ _ _ ran =>
    cases ran with
    | leave empty stop => exact ⟨stop, empty⟩

/-- A step of a thread that is not a worker leaves the workers as they are. -/
theorem allReturned_of_set {threads : List ExecutorThread}
    (found : threads[self]? = some thread) (other : thread.isWorker = false)
    (returned : AllReturned (threads.set self thread')) : AllReturned threads := by
  intro phase member
  refine returned phase ?_
  obtain ⟨index, indexFound⟩ := List.mem_iff_getElem?.mp member
  by_cases same : index = self
  · subst same
    rw [indexFound] at found
    cases found
    cases other
  · refine List.mem_iff_getElem?.mpr ⟨index, ?_⟩
    rw [List.getElem?_set_ne (Ne.symm same)]
    exact indexFound

/-- What is queued once all workers have returned was pushed from outside after the stop. -/
theorem executorActs_stranded (acts : ExecutorActs self world thread thread' world')
    {threads : List ExecutorThread} (found : threads[self]? = some thread)
    (stopped : AllReturned threads → world.executor.stopRequested = true)
    (stranded : AllReturned threads →
      ∀ task ∈ world.executor.tasks, task.byTask = false ∧ task.beforeStop = false)
    (returned : AllReturned (threads.set self thread')) :
    ∀ task ∈ world'.executor.tasks, task.byTask = false ∧ task.beforeStop = false := by
  have member := mem_set_of_found found thread'
  cases acts with
  | finish => cases returned _ member
  | taskPush => cases returned _ member
  | taskNotify => cases returned _ member
  | run _ _ _ ran =>
    cases returned _ member
    intro task queued
    rw [(executorActs_returned (.run _ _ _ ran)).2] at queued
    exact absurd queued List.not_mem_nil
  | push =>
    have before := allReturned_of_set found rfl returned
    intro task queued
    rcases List.mem_append.mp queued with old | new
    · exact stranded before task old
    · rw [List.mem_singleton] at new
      subst new
      exact ⟨rfl, by rw [stopped before]; rfl⟩
  | notify _ _ notified =>
    have before := allReturned_of_set found rfl returned
    intro task queued
    exact stranded before task (Executor.notifyOne_tasks notified ▸ queued)
  | stop => exact stranded (allReturned_of_set found rfl returned)
  | notifyAll => exact stranded (allReturned_of_set found rfl returned)
  | join => exact stranded (allReturned_of_set found rfl returned)

end Step

/-! ### Every run -/

section Run

variable {workers : Nat}

/-- Some worker exists, so when all have returned one has. -/
theorem stopRequested_of_allReturned (positive : 0 < workers)
    {config : Config ExecutorWorld ExecutorThread} (invariant : ExecutorInvariant workers config)
    (returned : AllReturned config.threads) :
    config.shared.executor.stopRequested = true := by
  have bound : 0 < config.threads.length := lt_of_lt_of_le positive invariant.count
  have found : config.threads[0]? = some config.threads[0] := List.getElem?_eq_getElem bound
  have worker := (invariant.workerIndex 0 _ found).mpr positive
  have member := List.mem_of_getElem? found
  cases first : config.threads[0] with
  | worker phase =>
    rw [first] at member
    cases returned phase member
    exact invariant.stopped member
  | submitter phase =>
    rw [first] at worker
    cases worker
  | destructor phase =>
    rw [first] at worker
    cases worker

theorem executorInvariant_initial : ExecutorInvariant workers (executorInitial workers) where
  executors := rfl
  workerIndex index thread found := by
    simp only [executorInitial, List.getElem?_replicate, Option.ite_none_right_eq_some,
      Option.some.injEq] at found
    obtain ⟨bound, rfl⟩ := found
    exact ⟨fun _ => bound, fun _ => rfl⟩
  count := by simp [executorInitial]
  waitingWorkers := Finset.empty_subset _
  queue := rfl
  ids := rfl
  accounted task := by
    have idle : tally (ExecutorThread.runs task) (executorInitial workers).threads = 0 := by
      refine tally_eq_zero.mpr fun thread member => ?_
      rw [List.eq_of_mem_replicate member]
      rfl
    rw [idle]
    rfl
  wakeup _ queued := absurd rfl queued
  stopped member := by cases List.eq_of_mem_replicate member
  stranded _ task queued := absurd queued List.not_mem_nil

/-- A new thread is neither a worker nor in the middle of anything. -/
theorem executorInvariant_spawn {config next : Config ExecutorWorld ExecutorThread}
    {thread : ExecutorThread} (invariant : ExecutorInvariant workers config)
    (allowed : thread.spawns config.shared = true) (shared : next.shared = config.shared)
    (threads : next.threads = config.threads ++ [thread]) : ExecutorInvariant workers next := by
  have idle : thread.isWorker = false ∧ thread.notifies = 0 ∧
      ∀ task, thread.runs task = 0 := by
    unfold ExecutorThread.spawns at allowed
    split at allowed
    · exact ⟨rfl, rfl, fun _ => rfl⟩
    · exact ⟨rfl, rfl, fun _ => rfl⟩
    · cases allowed
  obtain ⟨notWorker, quiet, empty⟩ := idle
  obtain ⟨nextShared, nextThreads⟩ := next
  subst shared threads
  refine ⟨invariant.executors, ?_, ?_, invariant.waitingWorkers, invariant.queue, invariant.ids,
    ?_, ?_, ?_, ?_⟩
  · intro index other found
    rcases found_append found with old | ⟨rfl, rfl⟩
    · exact invariant.workerIndex index other old
    · rw [notWorker]
      exact iff_of_false (by decide) (Nat.not_lt.mpr invariant.count)
  · simp only [List.length_append]
    exact Nat.le_add_right_of_le invariant.count
  · intro task
    rw [tally_append, tally_cons, tally_nil, empty task]
    exact invariant.accounted task
  · rw [tally_append, tally_cons, tally_nil, quiet]
    exact invariant.wakeup
  · intro member
    rcases List.mem_append.mp member with old | new
    · exact invariant.stopped old
    · rw [List.mem_singleton] at new
      rw [← new] at notWorker
      cases notWorker
  · intro returned
    exact invariant.stranded fun phase member =>
      returned phase (List.mem_append_left _ member)

theorem executorInvariant_act (positive : 0 < workers)
    {config next : Config ExecutorWorld ExecutorThread} {self : ThreadId}
    {thread thread' : ExecutorThread} (invariant : ExecutorInvariant workers config)
    (found : config.threads[self]? = some thread)
    (acts : ExecutorActs self config.shared thread thread' next.shared)
    (threads : next.threads = config.threads.set self thread') :
    ExecutorInvariant workers next := by
  have selfWorker : thread.isWorker = true → self ∈ Finset.range workers := fun worker =>
    Finset.mem_range.mpr ((invariant.workerIndex self thread found).mp worker)
  obtain ⟨nextShared, nextThreads⟩ := next
  subst threads
  refine ⟨(executorActs_executors acts).trans invariant.executors, ?_, ?_, ?_,
    executorActs_queue acts invariant.queue, executorActs_ids acts invariant.ids, ?_,
    executorActs_wakeup positive acts found selfWorker invariant.waitingWorkers
      invariant.wakeup, ?_,
    executorActs_stranded acts found (stopRequested_of_allReturned positive invariant)
      invariant.stranded⟩
  · intro index other otherFound
    rcases found_set otherFound with ⟨rfl, rfl⟩ | ⟨_, old⟩
    · rw [executorActs_isWorker acts]
      exact invariant.workerIndex _ _ found
    · exact invariant.workerIndex index other old
  · rw [List.length_set]
    exact invariant.count
  · rcases executorActs_waiting acts with smaller | ⟨worker, grown⟩
    · exact smaller.trans invariant.waitingWorkers
    · rw [grown]
      exact Finset.insert_subset (selfWorker worker) invariant.waitingWorkers
  · intro task
    have step := executorActs_accounted acts task
    have replaced := tally_set (ExecutorThread.runs task) found thread'
    have before := invariant.accounted task
    simp only at step ⊢
    omega
  · intro member
    rcases List.mem_or_eq_of_mem_set member with old | rfl
    · exact executorActs_stopRequested acts (invariant.stopped old)
    · exact (executorActs_returned acts).1

theorem executorInvariant_reachable (positive : 0 < workers)
    {config : Config ExecutorWorld ExecutorThread}
    (reachable : (executorSystem workers).Reachable config) :
    ExecutorInvariant workers config := by
  refine reachable.invariant executorInvariant_initial ?_
  intro state event next _ invariant _ stepped
  rcases Program.step_cases stepped with
    ⟨thread, _, allowed, shared, threads⟩ |
      ⟨self, choice, thread, thread', _, found, acted, threads⟩
  · exact executorInvariant_spawn invariant allowed shared threads
  · exact executorInvariant_act positive invariant found (executorAct_cases acted) threads

/-- Tasks are popped in the order they were pushed, and no task is pushed or popped twice. -/
theorem ExecutorInvariant.inOrder {config : Config ExecutorWorld ExecutorThread}
    (invariant : ExecutorInvariant workers config) :
    config.shared.popped <+: config.shared.submitted ∧ config.shared.submitted.Nodup := by
  refine ⟨⟨_, invariant.queue⟩, List.Nodup.of_map Submission.id ?_⟩
  rw [invariant.ids]
  exact List.nodup_range

/-- While the executor runs and has queued tasks, some worker is not waiting un-notified, or a
pushed task's notification is still to be issued. -/
theorem ExecutorInvariant.awake {config : Config ExecutorWorld ExecutorThread}
    (invariant : ExecutorInvariant workers config)
    (running : config.shared.executor.stopRequested = false)
    (queued : config.shared.executor.tasks ≠ []) :
    (∃ worker ∈ config.shared.executor.executors, worker ∉ config.shared.executor.waiting) ∨
      ∃ thread ∈ config.threads, thread.notifies = 1 := by
  rw [invariant.executors]
  by_cases covered : Finset.range workers ⊆ config.shared.executor.waiting
  · have notifies := invariant.wakeup running queued covered
    refine Or.inr ?_
    by_contra none
    push Not at none
    refine absurd (tally_eq_zero.mpr fun thread member => ?_) (Nat.ne_of_gt notifies)
    have different := none thread member
    unfold ExecutorThread.notifies at different ⊢
    split at different
    · exact absurd rfl different
    · exact absurd rfl different
    · rfl
  · exact Or.inl (Finset.not_subset.mp covered)

/-- Once all workers have returned, what was submitted before the stop or by a task has been
executed exactly once. -/
theorem ExecutorInvariant.executedOnce {config : Config ExecutorWorld ExecutorThread}
    (invariant : ExecutorInvariant workers config) (returned : AllReturned config.threads)
    {task : Submission} (submitted : task ∈ config.shared.submitted)
    (promised : task.beforeStop = true ∨ task.byTask = true) :
    config.shared.executed.count task = 1 := by
  have popped : task ∈ config.shared.popped := by
    rw [← invariant.queue] at submitted
    rcases List.mem_append.mp submitted with front | queued
    · exact front
    · obtain ⟨outside, late⟩ := invariant.stranded returned task queued
      rw [outside, late] at promised
      rcases promised with impossible | impossible <;> cases impossible
  have idle : tally (ExecutorThread.runs task) config.threads = 0 := by
    refine tally_eq_zero.mpr fun thread member => ?_
    cases thread with
    | worker phase =>
      cases returned phase member
      rfl
    | submitter phase => rfl
    | destructor phase => rfl
  have once : config.shared.popped.count task = 1 :=
    List.count_eq_one_of_mem (invariant.inOrder.1.sublist.nodup invariant.inOrder.2) popped
  have accounted := invariant.accounted task
  omega

/-- The executors run every task exactly once: in every state an executor with at least one
worker can reach, tasks have been popped in submission order and each at most once; a queued
task never leaves all workers asleep without a notification to come; and once all workers have
returned, every task submitted before the stop request or by a running task has been executed
exactly once. -/
theorem executor_runs_every_task_once (positive : 0 < workers)
    {config : Config ExecutorWorld ExecutorThread}
    (reachable : (executorSystem workers).Reachable config) :
    (config.shared.popped <+: config.shared.submitted ∧ config.shared.popped.Nodup) ∧
    (config.shared.executor.stopRequested = false → config.shared.executor.tasks ≠ [] →
      (∃ worker ∈ config.shared.executor.executors,
        worker ∉ config.shared.executor.waiting) ∨
      ∃ thread ∈ config.threads, thread.notifies = 1) ∧
    (AllReturned config.threads → ∀ task ∈ config.shared.submitted,
      task.beforeStop = true ∨ task.byTask = true →
        config.shared.executed.count task = 1) := by
  have invariant := executorInvariant_reachable positive reachable
  refine ⟨⟨invariant.inOrder.1, invariant.inOrder.1.sublist.nodup invariant.inOrder.2⟩,
    fun running queued => invariant.awake running queued, ?_⟩
  intro returned task submitted promised
  exact invariant.executedOnce returned submitted promised

/-- Two workers: one waits and is notified of an outside task, which submits a second task and
ends; the destructor then stops the executor while the second task is still queued. -/
def executorShutdownRun : List (Event ExecutorThread ExecutorChoice) :=
  [.act 0 .proceed, .act 0 .proceed, .spawn (.submitter .pushing), .act 2 .proceed,
    .act 2 (.notify (some 0)), .act 0 .proceed, .act 0 .proceed, .act 0 .submit,
    .act 0 (.notify none), .act 0 .proceed, .spawn (.destructor .stopping), .act 3 .proceed,
    .act 3 .proceed, .act 0 .proceed, .act 0 .proceed, .act 0 .proceed, .act 1 .proceed,
    .act 1 .proceed, .act 3 .proceed]

theorem executorShutdownRun_isSome :
    ((executorSystem 2).run executorShutdownRun).isSome = true := rfl

/-- The state `executorShutdownRun` ends in. -/
def executorShutdown : Config ExecutorWorld ExecutorThread :=
  ((executorSystem 2).run executorShutdownRun).get executorShutdownRun_isSome

theorem executor_runs_every_task_once_shutdown :
    executorShutdown.shared.executed.map Submission.id = [0, 1] ∧
    (executorShutdown.shared.popped <+: executorShutdown.shared.submitted ∧
      executorShutdown.shared.popped.Nodup) ∧
    (executorShutdown.shared.executor.stopRequested = false →
      executorShutdown.shared.executor.tasks ≠ [] →
      (∃ worker ∈ executorShutdown.shared.executor.executors,
        worker ∉ executorShutdown.shared.executor.waiting) ∨
      ∃ thread ∈ executorShutdown.threads, thread.notifies = 1) ∧
    (AllReturned executorShutdown.threads → ∀ task ∈ executorShutdown.shared.submitted,
      task.beforeStop = true ∨ task.byTask = true →
        executorShutdown.shared.executed.count task = 1) :=
  ⟨rfl, executor_runs_every_task_once (by decide)
    (System.reachable_of_run (Option.some_get executorShutdownRun_isSome).symm)⟩

end Run

end Booster.Common
