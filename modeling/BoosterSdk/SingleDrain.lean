/-
This file proves the scheduling protocol of the listener: one drain at a time,
and no message left without one.

The invariant ties the two things the steps move to the shared state. The
reference count is what the channel and the drain tasks hold, so a drain task in
its loop keeps the listener alive. While the listener is alive the calls that
decided to schedule and have not pushed the task, the drain tasks queued in the
executors, and the workers between the pop of such a task and the flag-clearing
exit are together exactly one when `callback_scheduled_` is set and none when it
is not. Two callbacks at once would be two drains at once.
-/

import BoosterSdk.Drain

namespace Booster.Common

open Interleaving

variable {Msg User : Type} {setup : Setup Msg User}

/-! ### The invariant -/

/-- What the scheduling protocol keeps. -/
structure DrainInvariant (config : Config (World Msg User) (Thread Msg User)) : Prop where
  closing : tally Thread.closes config.threads + (!config.shared.closeCalled).toNat =
    config.shared.channelHolds.toNat
  references : config.shared.useCount =
    config.shared.channelHolds.toNat + tally Thread.holds config.threads
  tokens : 0 < config.shared.useCount →
    tally Thread.token config.threads + config.shared.queuedDrains =
      config.shared.listener.callbackScheduled.toNat
  attended : 0 < config.shared.useCount → config.shared.listener.Attended

theorem drainInvariant_initial (setup : Setup Msg User) : DrainInvariant setup.initial := by
  have idle : ∀ weight : Thread Msg User → Nat, (∀ pool, weight (.worker pool .starting) = 0) →
      weight .clock = 0 → tally weight setup.initial.threads = 0 := fun _ => tally_initial
  obtain ⟨running, empty, unscheduled⟩ := setup.listener_fresh
  refine ⟨?_, ?_, fun _ => ?_, fun _ => ⟨running, fun queued => absurd empty queued⟩⟩
  · rw [idle Thread.closes (fun _ => rfl) rfl]
    rfl
  · rw [idle Thread.holds (fun _ => rfl) rfl]
    rfl
  · rw [idle Thread.token (fun _ => rfl) rfl]
    show 0 + setup.world.queuedDrains = setup.listener.callbackScheduled.toNat
    rw [unscheduled]
    rfl

theorem drainInvariant_spawn {config : Config (World Msg User) (Thread Msg User)}
    {thread : Thread Msg User} (invariant : DrainInvariant config)
    (allowed : thread.spawns config.shared = true) :
    DrainInvariant { config with threads := config.threads ++ [thread] } := by
  refine ⟨?_, ?_, fun alive => ?_, invariant.attended⟩
  · rw [tally_spawned allowed rfl rfl rfl]
    exact invariant.closing
  · rw [tally_spawned allowed rfl rfl rfl]
    exact invariant.references
  · rw [tally_spawned allowed rfl rfl rfl]
    exact invariant.tokens alive

theorem drainInvariant_act {config : Config (World Msg User) (Thread Msg User)}
    {self : ThreadId} {thread thread' : Thread Msg User} {shared : World Msg User}
    (invariant : DrainInvariant config) (found : config.threads[self]? = some thread)
    (acts : WorldActs self config.shared thread thread' shared) :
    DrainInvariant { shared := shared, threads := config.threads.set self thread' } := by
  have closing := invariant.closing
  have references := invariant.references
  have ownCloses := weight_le_tally Thread.closes found
  have ownHolds := weight_le_tally Thread.holds found
  have closes := tally_set Thread.closes found thread'
  have holds := tally_set Thread.holds found thread'
  obtain ⟨closesStep, holdsStep⟩ := worldActs_references acts (by omega) (by omega)
  refine ⟨?_, ?_, fun alive => ?_, fun alive => ?_⟩
  · simp only
    omega
  · simp only
    omega
  · have before := invariant.tokens (worldActs_alive acts alive)
    have ownToken := weight_le_tally Thread.token found
    have flagged : 0 < thread.token → config.shared.listener.callbackScheduled = true := by
      intro held
      refine Bool.toNat_eq_one.mp (Nat.le_antisymm (Bool.toNat_le _) ?_)
      omega
    have step := worldActs_tokens acts alive flagged
    have replaced := tally_set Thread.token found thread'
    simp only
    omega
  · exact worldActs_attended acts alive (invariant.attended (worldActs_alive acts alive))

theorem drainInvariant_reachable
    {admits : Config (World Msg User) (Thread Msg User) →
      Event (Thread Msg User) (Choice Msg) → Prop}
    {config : Config (World Msg User) (Thread Msg User)}
    (reachable : setup.system.ReachableBy admits config) : DrainInvariant config := by
  refine Program.invariant (drainInvariant_initial setup) ?_ ?_ reachable
  · intro config thread _ invariant _ allowed
    exact drainInvariant_spawn invariant allowed
  · intro config self choice thread thread' shared _ invariant _ found acted
    exact drainInvariant_act invariant found (worldAct_cases acted)

/-! ### One drain at a time -/

variable {config : Config (World Msg User) (Thread Msg User)}

/-- The token, spread over the calls, the queues and the workers. -/
theorem DrainInvariant.outstanding (invariant : DrainInvariant config)
    (alive : 0 < config.shared.useCount) :
    tally Thread.scheduled config.threads + config.shared.queuedDrains +
        tally Thread.active config.threads =
      config.shared.listener.callbackScheduled.toNat := by
  have tokens := invariant.tokens alive
  have parts : tally Thread.token config.threads =
      tally Thread.scheduled config.threads + tally Thread.active config.threads :=
    tally_add Thread.scheduled Thread.active config.threads
  omega

/-- Whatever only a drain task in its loop has, at most one thread has: such a drain is active,
of which there is at most one, and it keeps the listener alive. -/
theorem DrainInvariant.tally_le_one (invariant : DrainInvariant config)
    {weight : Thread Msg User → Nat} (active : ∀ thread, weight thread ≤ thread.active)
    (holds : ∀ thread, weight thread ≤ thread.holds) : tally weight config.threads ≤ 1 := by
  by_cases alive : 0 < config.shared.useCount
  · have outstanding := invariant.outstanding alive
    have bound := Bool.toNat_le config.shared.listener.callbackScheduled
    have part := tally_le_tally active config.threads
    omega
  · have references := invariant.references
    have part := tally_le_tally holds config.threads
    omega

/-- A single drain per listener: in every state a reader can reach while its listener is alive,
the calls that decided to schedule and have not submitted, the queued drain tasks and the
workers in such a task before its flag-clearing exit are together one when
`callback_scheduled_` is set and none when it is not. In every state at all, at most one user
callback is in progress. -/
theorem single_drain_per_listener (setup : Setup Msg User)
    (reachable : setup.system.Reachable config) :
    (0 < config.shared.useCount →
      tally Thread.scheduled config.threads + config.shared.queuedDrains +
          tally Thread.active config.threads =
        if config.shared.listener.callbackScheduled then 1 else 0) ∧
    tally Thread.callsUser config.threads ≤ 1 := by
  have invariant := drainInvariant_reachable reachable
  refine ⟨fun alive => (invariant.outstanding alive).trans ?_,
    invariant.tally_le_one Thread.callsUser_le_active Thread.callsUser_le_holds⟩
  cases config.shared.listener.callbackScheduled <;> rfl

/-- A reader of numbers whose callback appends what it gets to a log. -/
def loggingSetup (options : DdsReaderExecutorOptions) (workers : Nat) : Setup Nat (List Nat) where
  executorOptions := options
  callback := ⟨some fun message _ log => log ++ [message]⟩
  workers := workers
  user := []

/-- A call, on the thread numbered `self`, takes some samples and enqueues them. -/
def arrival (self : ThreadId) (messages : List Msg) :
    List (Event (Thread Msg User) (Choice Msg)) :=
  [.spawn (.call .entered), .act self .proceed, .act self .proceed, .act self .proceed] ++
    messages.map (fun message => .act self (.take message ⟨true, ⟨0, 0⟩, ⟨0, 0⟩⟩)) ++
    [.act self .proceed, .act self .proceed]

/-- The call goes on to submit the drain it has decided to schedule. -/
def scheduling (self : ThreadId) : List (Event (Thread Msg User) (Choice Msg)) :=
  [.act self .proceed, .act self .proceed, .act self (.notify none)]

/-- Worker `self` takes the drain, pops a message and begins its callback. -/
def beginning (self : ThreadId) : List (Event (Thread Msg User) (Choice Msg)) :=
  [.act self .proceed, .act self .proceed, .act self .proceed, .act self .proceed,
    .act self .proceed]

/-- Two samples arrive on a pool of two workers, and the callback for the first has begun. -/
def callbackBegunRun : List (Event (Thread Nat (List Nat)) (Choice Nat)) :=
  arrival 3 [7, 8] ++ scheduling 3 ++ beginning 0

theorem callbackBegunRun_isSome :
    ((loggingSetup {} 2).system.run callbackBegunRun).isSome = true := rfl

/-- The state `callbackBegunRun` ends in. -/
def callbackBegun : Config (World Nat (List Nat)) (Thread Nat (List Nat)) :=
  ((loggingSetup {} 2).system.run callbackBegunRun).get callbackBegunRun_isSome

theorem callbackBegun_reachable : (loggingSetup {} 2).system.Reachable callbackBegun :=
  System.reachable_of_run (Option.some_get callbackBegunRun_isSome).symm

theorem single_drain_per_listener_begun :
    callbackBegun.shared.listener.callbackScheduled = true ∧
    (0 < callbackBegun.shared.useCount →
      tally Thread.scheduled callbackBegun.threads + callbackBegun.shared.queuedDrains +
          tally Thread.active callbackBegun.threads =
        if callbackBegun.shared.listener.callbackScheduled then 1 else 0) ∧
    tally Thread.callsUser callbackBegun.threads ≤ 1 :=
  ⟨rfl, single_drain_per_listener (loggingSetup {} 2) callbackBegun_reachable⟩

/-! ### No message stranded -/

/-- When all calls have returned none is about to submit a drain. -/
theorem scheduled_of_returned (calls : ∀ phase, .call phase ∈ config.threads → phase = .returned) :
    tally Thread.scheduled config.threads = 0 := by
  refine tally_eq_zero.mpr fun thread member => ?_
  unfold Thread.scheduled
  split
  · rw [calls _ member]
    rfl
  · rfl

/-- When no worker runs a drain none is active. -/
theorem active_of_idle
    (workers : ∀ pool phase, .worker pool (.running (.drain phase)) ∉ config.threads) :
    tally Thread.active config.threads = 0 := by
  refine tally_eq_zero.mpr fun thread member => ?_
  unfold Thread.active Thread.drainWeight
  split
  · exact absurd member (workers _ _)
  · rfl

/-- No call is in progress, no task is queued and no worker runs one. -/
structure Quiescent (config : Config (World Msg User) (Thread Msg User)) : Prop where
  calls : ∀ phase, .call phase ∈ config.threads → phase = .returned
  queues : ∀ pool, (config.shared.executors pool).tasks = []
  workers : ∀ pool task, .worker pool (.running task) ∉ config.threads

/-- In a quiescent state nothing is outstanding. -/
theorem Quiescent.idle (quiescent : Quiescent config) :
    tally Thread.scheduled config.threads = 0 ∧ config.shared.queuedDrains = 0 ∧
      tally Thread.active config.threads = 0 := by
  refine ⟨scheduled_of_returned quiescent.calls, ?_,
    active_of_idle fun pool phase => quiescent.workers pool (.drain phase)⟩
  unfold World.queuedDrains
  rw [quiescent.queues .shared, quiescent.queues .dedicated]
  rfl

/-- No message is stranded: in every state a reader can reach while its listener is alive, a
pending message means that `callback_scheduled_` is set and a drain is about to be submitted,
queued or running; so nothing is pending in a quiescent state. -/
theorem no_message_stranded (setup : Setup Msg User)
    (reachable : setup.system.Reachable config) (alive : 0 < config.shared.useCount) :
    (config.shared.listener.pendingMessages ≠ [] →
      config.shared.listener.callbackScheduled = true ∧
      0 < tally Thread.scheduled config.threads + config.shared.queuedDrains +
        tally Thread.active config.threads) ∧
    (Quiescent config → config.shared.listener.pendingMessages = []) := by
  have invariant := drainInvariant_reachable reachable
  have covered : config.shared.listener.pendingMessages ≠ [] →
      config.shared.listener.callbackScheduled = true ∧
      0 < tally Thread.scheduled config.threads + config.shared.queuedDrains +
        tally Thread.active config.threads := by
    intro queued
    have flag := (invariant.attended alive).scheduled queued
    refine ⟨flag, ?_⟩
    rw [invariant.outstanding alive, flag]
    exact Nat.one_pos
  refine ⟨covered, fun quiescent => ?_⟩
  by_contra queued
  have outstanding := (covered queued).2
  rw [quiescent.idle.1, quiescent.idle.2.1, quiescent.idle.2.2] at outstanding
  exact absurd outstanding (Nat.lt_irrefl 0)

theorem no_message_stranded_begun :
    callbackBegun.shared.listener.pendingMessages ≠ [] ∧
    (callbackBegun.shared.listener.pendingMessages ≠ [] →
      callbackBegun.shared.listener.callbackScheduled = true ∧
      0 < tally Thread.scheduled callbackBegun.threads + callbackBegun.shared.queuedDrains +
        tally Thread.active callbackBegun.threads) ∧
    (Quiescent callbackBegun → callbackBegun.shared.listener.pendingMessages = []) :=
  ⟨List.cons_ne_nil _ _,
    no_message_stranded (loggingSetup {} 2) callbackBegun_reachable (by decide)⟩

end Booster.Common
