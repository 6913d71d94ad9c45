/-
This file follows two things through every step of the listener world: the
references to the listener and the token of the scheduling protocol.

The references are held by the channel, until `CloseReader` resets it, and by the
drain tasks between the promotion of their weak pointer and their end. The flag
`callback_scheduled_` is set under the lock by the call that enqueues into an idle
listener, travels with the task through `Submit`, the queue of an executor and a
worker, and is cleared under the lock by the drain that finds the queue empty. It
is counted here as a token that a call, a queued task or a worker holds. Each step
lemma says how much of either the stepping thread gains and what the shared state
loses by it.
-/

import BoosterSdk.ListenerSteps

namespace Booster.Common

open Interleaving

variable {Msg User : Type}

/-! ### What threads hold -/

/-- A call that has decided to schedule and has not yet pushed the task. -/
def CallPhase.scheduled : CallPhase Msg → Nat
  | .scheduling => 1
  | .submitting _ => 1
  | _ => 0

/-- A drain task before the flag-clearing exit of its loop. -/
def DrainPhase.active : DrainPhase Msg User → Nat
  | .promoting => 1
  | .draining => 1
  | .popped _ => 1
  | .inCallback _ => 1
  | .recording _ _ _ => 1
  | .releasing => 0
  | .destroying _ => 0

/-- A drain task that holds a shared pointer to the listener. -/
def DrainPhase.holds : DrainPhase Msg User → Nat
  | .promoting => 0
  | .draining => 1
  | .popped _ => 1
  | .inCallback _ => 1
  | .recording _ _ _ => 1
  | .releasing => 1
  | .destroying _ => 0

/-- A call of `CloseReader` between its first line and the reset of the listener. -/
def ClosePhase.closes : ClosePhase → Nat
  | .deleting => 1
  | .resetting => 1
  | _ => 0

/-- The call of `CloseReader` a user callback has made. -/
def DrainPhase.closes : DrainPhase Msg User → Nat
  | .inCallback run => (run.closing.map ClosePhase.closes).getD 0
  | _ => 0

/-- A user callback in progress. -/
def DrainPhase.calls : DrainPhase Msg User → Nat
  | .inCallback run => run.context.isSome.toNat
  | _ => 0

namespace Thread

/-- The drain task a worker runs, weighed. -/
def drainWeight (weight : DrainPhase Msg User → Nat) : Thread Msg User → Nat
  | .worker _ (.running (.drain phase)) => weight phase
  | _ => 0

def scheduled : Thread Msg User → Nat
  | .call phase => phase.scheduled
  | _ => 0

/-- A worker running a drain task, before the flag-clearing exit. -/
def active : Thread Msg User → Nat := drainWeight DrainPhase.active

def holds : Thread Msg User → Nat := drainWeight DrainPhase.holds

/-- A worker with a user callback in progress. -/
def callsUser : Thread Msg User → Nat := drainWeight DrainPhase.calls

def closes : Thread Msg User → Nat
  | .closer phase => phase.closes
  | thread => thread.drainWeight DrainPhase.closes

/-- The share of the scheduling token a thread holds. -/
def token (thread : Thread Msg User) : Nat := thread.scheduled + thread.active

/-- A weight of drain tasks that dominates another does so for threads. -/
theorem drainWeight_le {small large : DrainPhase Msg User → Nat}
    (bound : ∀ phase, small phase ≤ large phase) (thread : Thread Msg User) :
    thread.drainWeight small ≤ thread.drainWeight large := by
  unfold drainWeight
  split
  · exact bound _
  · exact Nat.le_refl 0

theorem callsUser_le_active (thread : Thread Msg User) : thread.callsUser ≤ thread.active := by
  refine drainWeight_le (fun phase => ?_) thread
  cases phase with
  | inCallback run => exact Bool.toNat_le run.context.isSome
  | _ => exact Nat.zero_le _

theorem callsUser_le_holds (thread : Thread Msg User) : thread.callsUser ≤ thread.holds := by
  refine drainWeight_le (fun phase => ?_) thread
  cases phase with
  | inCallback run => exact Bool.toNat_le run.context.isSome
  | _ => exact Nat.zero_le _

end Thread

/-- A listener that is not stopped and whose queued messages have a drain scheduled. -/
structure DdsReaderListener.Attended (listener : DdsReaderListener Msg User) : Prop where
  running : listener.stopRequested = false
  scheduled : listener.pendingMessages ≠ [] → listener.callbackScheduled = true

/-- The drain tasks of this listener waiting in an executor. -/
def World.queuedDrains (world : World Msg User) : Nat :=
  (world.executors .shared).tasks.count .drain + (world.executors .dedicated).tasks.count .drain

theorem queuedDrains_setExecutor (world : World Msg User) (pool : Pool)
    (executor : Executor Task) :
    (world.setExecutor pool executor).queuedDrains +
        (world.executors pool).tasks.count .drain =
      world.queuedDrains + executor.tasks.count .drain := by
  unfold World.queuedDrains World.setExecutor
  cases pool with
  | shared =>
    simp only [Function.update_self, ne_eq, reduceCtorEq, not_false_eq_true,
      Function.update_of_ne]
    omega
  | dedicated =>
    simp only [Function.update_self, ne_eq, reduceCtorEq, not_false_eq_true,
      Function.update_of_ne]
    omega

/-- Replacing an executor by one with the same tasks leaves the queued drains. -/
theorem queuedDrains_setExecutor_of_eq {world : World Msg User} {pool : Pool}
    {executor : Executor Task} (same : executor.tasks = (world.executors pool).tasks) :
    (world.setExecutor pool executor).queuedDrains = world.queuedDrains := by
  have replaced := queuedDrains_setExecutor world pool executor
  rw [same] at replaced
  omega

/-! ### One step -/

section Step

variable {self : ThreadId} {world world' : World Msg User}

/-- Giving up a reference takes one from the count, and leaves the listener alone unless it was
the last. -/
theorem releases_frame {phase : Option DestroyPhase}
    (released : Releases self world phase world') :
    world'.useCount = world.useCount - 1 ∧ world'.executors = world.executors ∧
      world'.channelHolds = world.channelHolds ∧ world'.closeCalled = world.closeCalled ∧
      (0 < world'.useCount → world'.listener = world.listener) := by
  cases released with
  | shared => exact ⟨rfl, rfl, rfl, rfl, fun _ => rfl⟩
  | last one =>
    exact ⟨by rw [one], rfl, rfl, rfl, fun alive => absurd alive (Nat.lt_irrefl 0)⟩
  | lastDedicated one =>
    exact ⟨by rw [one], rfl, rfl, rfl, fun alive => absurd alive (Nat.lt_irrefl 0)⟩

theorem releases_useCount_le {phase : Option DestroyPhase}
    (released : Releases self world phase world') : world'.useCount ≤ world.useCount := by
  rw [(releases_frame released).1]
  exact Nat.sub_le world.useCount 1

/-- Destroying the dedicated executor touches neither the listener nor any queue. -/
theorem destroyActs_frame {phase : DestroyPhase} {phase' : Option DestroyPhase}
    (acts : DestroyActs self world phase phase' world') :
    world'.useCount = world.useCount ∧ world'.queuedDrains = world.queuedDrains ∧
      world'.channelHolds = world.channelHolds ∧ world'.closeCalled = world.closeCalled ∧
      world'.listener = world.listener := by
  cases acts with
  | stop => exact ⟨rfl, queuedDrains_setExecutor_of_eq rfl, rfl, rfl, rfl⟩
  | notifyAll => exact ⟨rfl, queuedDrains_setExecutor_of_eq rfl, rfl, rfl, rfl⟩
  | join => exact ⟨rfl, rfl, rfl, rfl, rfl⟩
  | selfJoin => exact ⟨rfl, rfl, rfl, rfl, rfl⟩

/-- `CloseReader` leaves the queues alone, and the listener while it lives. -/
theorem closeActs_frame {phase phase' : ClosePhase}
    (acts : CloseActs self world phase phase' world') :
    world'.queuedDrains = world.queuedDrains ∧
      (0 < world'.useCount → world'.listener = world.listener) := by
  cases acts with
  | reset _ _ released =>
    obtain ⟨_, executors, _, _, listener⟩ := releases_frame released
    exact ⟨by simp only [World.queuedDrains, executors], listener⟩
  | destroy _ _ _ destroyed =>
    obtain ⟨_, queued, _, _, listener⟩ := destroyActs_frame destroyed
    exact ⟨queued, fun _ => listener⟩
  | _ => exact ⟨rfl, fun _ => rfl⟩

theorem closeActs_alive {phase phase' : ClosePhase}
    (acts : CloseActs self world phase phase' world') (alive : 0 < world'.useCount) :
    0 < world.useCount := by
  cases acts with
  | reset _ _ released =>
    have bound := releases_useCount_le released
    exact Nat.lt_of_lt_of_le alive bound
  | destroy _ _ _ destroyed =>
    obtain ⟨useCount, _⟩ := destroyActs_frame destroyed
    rwa [useCount] at alive
  | _ => exact alive

/-- `CloseReader` gives up the reference of the channel, once. -/
theorem closeActs_references {phase phase' : ClosePhase}
    (acts : CloseActs self world phase phase' world')
    (held : phase.closes ≤ world.channelHolds.toNat)
    (counted : world.channelHolds.toNat ≤ world.useCount) :
    phase'.closes + (!world'.closeCalled).toNat + world.channelHolds.toNat =
        phase.closes + (!world.closeCalled).toNat + world'.channelHolds.toNat ∧
      world'.useCount + world.channelHolds.toNat =
        world.useCount + world'.channelHolds.toNat := by
  cases acts with
  | call first => simp [ClosePhase.closes, first]
  | again => exact ⟨rfl, rfl⟩
  | delete => exact ⟨rfl, rfl⟩
  | reset phase _ released =>
    obtain ⟨useCount, _, channelHolds, closeCalled, _⟩ := releases_frame released
    rw [useCount, channelHolds, closeCalled]
    have holds : world.channelHolds.toNat = 1 := Nat.le_antisymm (Bool.toNat_le _) held
    cases phase <;> simp only [ClosePhase.closes, Option.elim, Bool.toNat_false] <;> omega
  | destroy _ phase' _ destroyed =>
    obtain ⟨useCount, _, channelHolds, closeCalled, _⟩ := destroyActs_frame destroyed
    rw [useCount, channelHolds, closeCalled]
    cases phase' <;> exact ⟨rfl, rfl⟩
  | returns => exact ⟨rfl, rfl⟩

/-- A step of a drain task, on the references. -/
theorem drainActs_references {phase : DrainPhase Msg User}
    {phase' : Option (DrainPhase Msg User)} (acts : DrainActs self world phase phase' world')
    (held : phase.closes ≤ world.channelHolds.toNat)
    (counted : world.channelHolds.toNat + phase.holds ≤ world.useCount) :
    phase'.elim 0 DrainPhase.closes + (!world'.closeCalled).toNat + world.channelHolds.toNat =
        phase.closes + (!world.closeCalled).toNat + world'.channelHolds.toNat ∧
      world'.useCount + world.channelHolds.toNat + phase.holds =
        world.useCount + world'.channelHolds.toNat + phase'.elim 0 DrainPhase.holds := by
  cases acts with
  | promote =>
    refine ⟨rfl, ?_⟩
    simp only [Option.elim, DrainPhase.holds]
    omega
  | close _ _ _ _ _ _ _ closed =>
    have ⟨closes, count⟩ := closeActs_references closed held (by omega)
    simp only [Option.elim, DrainPhase.closes, DrainPhase.holds, Option.map_some,
      Option.getD_some]
    omega
  | finish popped start context closing finished =>
    have closed : DrainPhase.closes (.inCallback ⟨popped, start, context, true, closing⟩ :
        DrainPhase Msg User) = 0 := by
      rcases finished with rfl | rfl <;> rfl
    rw [closed]
    cases popped.metricsEnabled <;> exact ⟨rfl, rfl⟩
  | release phase _ released =>
    obtain ⟨useCount, _, channelHolds, closeCalled, _⟩ := releases_frame released
    rw [useCount, channelHolds, closeCalled]
    simp only [DrainPhase.holds] at counted
    cases phase <;>
      simp only [Option.map, Option.elim, DrainPhase.closes, DrainPhase.holds, true_and] <;> omega
  | destroy _ phase' _ destroyed =>
    obtain ⟨useCount, _, channelHolds, closeCalled, _⟩ := destroyActs_frame destroyed
    rw [useCount, channelHolds, closeCalled]
    cases phase' <;> exact ⟨rfl, rfl⟩
  | _ => exact ⟨rfl, rfl⟩

/-- A step of a drain task, on the scheduling token. The exit of the loop gives the token up
with the flag; everything before it keeps both. -/
theorem drainActs_tokens {phase : DrainPhase Msg User} {phase' : Option (DrainPhase Msg User)}
    (acts : DrainActs self world phase phase' world') (alive : 0 < world'.useCount)
    (flagged : 0 < phase.active → world.listener.callbackScheduled = true) :
    world'.queuedDrains = world.queuedDrains ∧
      world.listener.callbackScheduled.toNat + phase'.elim 0 DrainPhase.active =
        world'.listener.callbackScheduled.toNat + phase.active := by
  cases acts with
  | expired dead => exact absurd alive (by omega)
  | leave => exact ⟨rfl, by rw [flagged Nat.one_pos]; rfl⟩
  | close _ _ _ _ _ _ _ closed =>
    obtain ⟨queued, listener⟩ := closeActs_frame closed
    exact ⟨queued, by rw [listener alive]; rfl⟩
  | finish popped => exact ⟨rfl, by cases popped.metricsEnabled <;> rfl⟩
  | release phase _ released =>
    obtain ⟨_, executors, _, _, listener⟩ := releases_frame released
    refine ⟨by simp only [World.queuedDrains, executors], ?_⟩
    rw [listener alive]
    cases phase <;> rfl
  | destroy _ phase' _ destroyed =>
    obtain ⟨_, queued, _, _, listener⟩ := destroyActs_frame destroyed
    refine ⟨queued, ?_⟩
    rw [listener]
    cases phase' <;> rfl
  | _ => exact ⟨rfl, rfl⟩

/-- A step of a worker between tasks moves a drain from the queue to the worker. -/
theorem runs_tokens (pool : Pool) {phase phase' : RunPhase (Running Msg User)}
    {executor executor' : Executor Task}
    (ran : executor.Runs Running.start self phase phase' executor') :
    (Thread.worker pool phase').active + executor'.tasks.count .drain =
      (Thread.worker pool phase).active + executor.tasks.count .drain := by
  cases ran with
  | take task rest front =>
    rw [front]
    cases task with
    | drain =>
      simp only [Thread.active, Thread.drainWeight, Running.start, DrainPhase.active,
        List.count_cons_self]
      omega
    | other =>
      simp only [Thread.active, Thread.drainWeight, Running.start]
      rw [List.count_cons_of_ne (by decide)]
  | _ => rfl

theorem runs_holds {pool : Pool} {phase phase' : RunPhase (Running Msg User)}
    {executor executor' : Executor Task}
    (ran : executor.Runs Running.start self phase phase' executor') :
    (Thread.worker pool phase').holds = (Thread.worker pool phase).holds ∧
      (Thread.worker pool phase').closes = (Thread.worker pool phase).closes := by
  cases ran with
  | take task => cases task <;> exact ⟨rfl, rfl⟩
  | _ => exact ⟨rfl, rfl⟩

/-- A call neither closes nor counts references. -/
theorem callActs_references {phase phase' : CallPhase Msg}
    (acts : CallActs world phase phase' world') :
    world'.useCount = world.useCount ∧ world'.channelHolds = world.channelHolds ∧
      world'.closeCalled = world.closeCalled := by
  cases acts <;> exact ⟨rfl, rfl, rfl⟩

/-- A call takes the token when it sets the flag, and puts it in the queue. -/
theorem callActs_tokens {phase phase' : CallPhase Msg}
    (acts : CallActs world phase phase' world') :
    world.listener.callbackScheduled.toNat + phase'.scheduled + world'.queuedDrains =
      world'.listener.callbackScheduled.toNat + phase.scheduled + world.queuedDrains := by
  cases acts with
  | refuse phase entering =>
    subst entering
    rfl
  | configure =>
    obtain ⟨configured, same⟩ :=
      DdsReaderListener.applyRealtimeListenerThreadConfigOnce_eq world.listener
    simp only [same]
    rfl
  | offer ready _ shouldSchedule listener offered =>
    obtain ⟨metrics, batch⟩ := DdsReaderListener.enqueueBatch_eq ready world.listener
    obtain ⟨_, ⟨rfl, idle, rfl⟩ | ⟨rfl, rfl, _⟩⟩ :=
      DdsReaderListener.onDataAvailableLocked_some offered
    · rw [batch] at idle
      simp only at idle
      rw [idle]
      rfl
    · simp only [batch]
      rfl
  | submit pool =>
    have replaced := queuedDrains_setExecutor world pool ((world.executors pool).submit .drain)
    rw [Executor.submit_tasks, List.count_append, List.count_singleton_self] at replaced
    simp only [World.submit, CallPhase.scheduled]
    have same : (world.setExecutor pool ((world.executors pool).submit .drain)).listener =
      world.listener := rfl
    rw [same]
    omega
  | notify pool _ _ notified =>
    rw [queuedDrains_setExecutor_of_eq (Executor.notifyOne_tasks notified)]
    rfl
  | _ => rfl

/-- The listener outlives every step that leaves it alive, since only a drain that finds it
alive takes a new reference. -/
theorem drainActs_alive {phase : DrainPhase Msg User} {phase' : Option (DrainPhase Msg User)}
    (acts : DrainActs self world phase phase' world') (alive : 0 < world'.useCount) :
    0 < world.useCount := by
  cases acts with
  | promote before => exact before
  | close _ _ _ _ _ _ _ closed => exact closeActs_alive closed alive
  | release _ _ released => exact Nat.lt_of_lt_of_le alive (releases_useCount_le released)
  | destroy _ _ _ destroyed =>
    obtain ⟨useCount, _⟩ := destroyActs_frame destroyed
    rwa [useCount] at alive
  | _ => exact alive

/-- A drain leaves its loop only when the listener is stopped or its queue is empty, so it
leaves no message unattended. -/
theorem drainActs_attended {phase : DrainPhase Msg User} {phase' : Option (DrainPhase Msg User)}
    (acts : DrainActs self world phase phase' world') (alive : 0 < world'.useCount)
    (attended : world.listener.Attended) : world'.listener.Attended := by
  cases acts with
  | leave done =>
    refine ⟨attended.running, fun queued => ?_⟩
    rcases done with stopped | empty
    · exact absurd (attended.running.symm.trans stopped) Bool.false_ne_true
    · exact absurd empty queued
  | pop message rest _ front =>
    refine ⟨attended.running, fun _ => attended.scheduled ?_⟩
    rw [front]
    exact List.cons_ne_nil message rest
  | close _ _ _ _ _ _ _ closed =>
    rw [(closeActs_frame closed).2 alive]
    exact attended
  | record => exact ⟨attended.running, attended.scheduled⟩
  | release _ _ released =>
    obtain ⟨_, _, _, _, listener⟩ := releases_frame released
    rw [listener alive]
    exact attended
  | destroy _ _ _ destroyed =>
    obtain ⟨_, _, _, _, listener⟩ := destroyActs_frame destroyed
    rw [listener]
    exact attended
  | _ => exact attended

/-- A call that enqueues leaves the flag set whenever it leaves a message. -/
theorem callActs_attended {phase phase' : CallPhase Msg}
    (acts : CallActs world phase phase' world') (attended : world.listener.Attended) :
    world'.listener.Attended := by
  cases acts with
  | configure =>
    obtain ⟨configured, same⟩ :=
      DdsReaderListener.applyRealtimeListenerThreadConfigOnce_eq world.listener
    simp only [same]
    exact ⟨attended.running, attended.scheduled⟩
  | offer ready _ _ _ offered =>
    obtain ⟨metrics, batch⟩ := DdsReaderListener.enqueueBatch_eq ready world.listener
    have running : (world.listener.enqueueBatch ready).stopRequested = false := by
      rw [batch]
      exact attended.running
    obtain ⟨_, ⟨_, _, rfl⟩ | ⟨_, rfl, covered⟩⟩ :=
      DdsReaderListener.onDataAvailableLocked_some offered
    · exact ⟨running, fun _ => rfl⟩
    · exact ⟨running, fun queued => covered.resolve_right queued⟩
  | _ => exact attended

variable {thread thread' : Thread Msg User}

theorem worldActs_alive (acts : WorldActs self world thread thread' world')
    (alive : 0 < world'.useCount) : 0 < world.useCount := by
  cases acts with
  | call _ _ _ acts =>
    rwa [(callActs_references acts).1] at alive
  | drain _ _ _ _ acts => exact drainActs_alive acts alive
  | drainEnd _ _ _ acts => exact drainActs_alive acts alive
  | close _ _ _ acts => exact closeActs_alive acts alive
  | _ => exact alive

theorem worldActs_attended (acts : WorldActs self world thread thread' world')
    (alive : 0 < world'.useCount) (attended : world.listener.Attended) :
    world'.listener.Attended := by
  cases acts with
  | call _ _ _ acts => exact callActs_attended acts attended
  | drain _ _ _ _ acts => exact drainActs_attended acts alive attended
  | drainEnd _ _ _ acts => exact drainActs_attended acts alive attended
  | close _ _ _ acts =>
    rw [(closeActs_frame acts).2 alive]
    exact attended
  | _ => exact attended

/-- A step of any thread, on the references. -/
theorem worldActs_references (acts : WorldActs self world thread thread' world')
    (held : thread.closes ≤ world.channelHolds.toNat)
    (counted : world.channelHolds.toNat + thread.holds ≤ world.useCount) :
    thread'.closes + (!world'.closeCalled).toNat + world.channelHolds.toNat =
        thread.closes + (!world.closeCalled).toNat + world'.channelHolds.toNat ∧
      world'.useCount + world.channelHolds.toNat + thread.holds =
        world.useCount + world'.channelHolds.toNat + thread'.holds := by
  cases acts with
  | call _ _ _ acts =>
    obtain ⟨useCount, channelHolds, closeCalled⟩ := callActs_references acts
    rw [useCount, channelHolds, closeCalled]
    exact ⟨rfl, rfl⟩
  | drain _ _ _ _ acts => exact drainActs_references acts held counted
  | drainEnd _ _ _ acts => exact drainActs_references acts held counted
  | run _ _ _ _ ran =>
    obtain ⟨holds, closes⟩ := runs_holds ran
    rw [holds, closes]
    exact ⟨rfl, rfl⟩
  | close _ _ _ acts =>
    have ⟨closes, count⟩ := closeActs_references acts held (by omega)
    exact ⟨closes, count⟩
  | _ => exact ⟨rfl, rfl⟩

/-- A step of any thread, on the scheduling token. -/
theorem worldActs_tokens (acts : WorldActs self world thread thread' world')
    (alive : 0 < world'.useCount)
    (flagged : 0 < thread.token → world.listener.callbackScheduled = true) :
    world.listener.callbackScheduled.toNat + thread'.token + world'.queuedDrains =
      world'.listener.callbackScheduled.toNat + thread.token + world.queuedDrains := by
  cases acts with
  | call _ _ _ acts => exact callActs_tokens acts
  | drain _ phase phase' _ acts =>
    have known : 0 < phase.active → world.listener.callbackScheduled = true := fun active =>
      flagged (Nat.add_pos_right 0 active)
    obtain ⟨queued, tokens⟩ := drainActs_tokens acts alive known
    simp only [Option.elim] at tokens
    simp only [Thread.token, Thread.scheduled, Thread.active, Thread.drainWeight]
    omega
  | drainEnd _ phase _ acts =>
    have known : 0 < phase.active → world.listener.callbackScheduled = true := fun active =>
      flagged (Nat.add_pos_right 0 active)
    obtain ⟨queued, tokens⟩ := drainActs_tokens acts alive known
    simp only [Option.elim] at tokens
    simp only [Thread.token, Thread.scheduled, Thread.active, Thread.drainWeight]
    omega
  | run pool _ _ executor ran =>
    have tokens := runs_tokens pool ran
    have replaced := queuedDrains_setExecutor world pool executor
    have same : (world.setExecutor pool executor).listener = world.listener := rfl
    simp only [Thread.token, Thread.scheduled, same]
    omega
  | close _ _ _ acts =>
    obtain ⟨queued, listener⟩ := closeActs_frame acts
    rw [queued, listener alive]
    rfl
  | post =>
    have queued : (world.submit .shared .other).queuedDrains = world.queuedDrains := by
      have replaced := queuedDrains_setExecutor world .shared
        ((world.executors .shared).submit .other)
      rw [Executor.submit_tasks, List.count_append,
        List.count_eq_zero_of_not_mem (by decide : Task.drain ∉ [Task.other])] at replaced
      exact Nat.add_right_cancel replaced
    rw [queued]
    rfl
  | postNotify _ _ notified =>
    rw [queuedDrains_setExecutor_of_eq (Executor.notifyOne_tasks notified)]
    rfl
  | _ => rfl

end Step

end Booster.Common
