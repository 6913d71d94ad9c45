/-
This file proves that the metrics of a listener add up.

Four counters are updated in three critical sections: a batch counts what it
receives and what the overflow policy drops, a pop counts nothing, and a drain
counts a callback once it has ended. Between the pop and the bookkeeping the
message is with a worker, so the counters balance with one message popped and not
recorded, of which there is at most one because there is at most one drain. The
high watermark is followed by recording the length of the queue after each
enqueue of the run.
-/

import BoosterSdk.BatchOverflow

namespace Booster.Common

open Interleaving

variable {Msg User : Type}

/-! ### What threads have not recorded -/

/-- A drain task that has popped a message and not recorded its completion. -/
def DrainPhase.unrecorded : DrainPhase Msg User → Nat
  | .popped _ => 1
  | .inCallback _ => 1
  | .recording _ _ _ => 1
  | _ => 0

/-- A drain task that will record the message it has popped. -/
def DrainPhase.Counts : DrainPhase Msg User → Prop
  | .popped taken => taken.metricsEnabled = true
  | .inCallback run => run.popped.metricsEnabled = true
  | _ => True

namespace Thread

/-- A worker that has popped a message and not recorded its completion. -/
def unrecorded : Thread Msg User → Nat := drainWeight DrainPhase.unrecorded

def Counts : Thread Msg User → Prop
  | .worker _ (.running (.drain phase)) => phase.Counts
  | _ => True

theorem unrecorded_le_active (thread : Thread Msg User) :
    thread.unrecorded ≤ thread.active := by
  refine drainWeight_le (fun phase => ?_) thread
  cases phase <;> simp only [DrainPhase.unrecorded, DrainPhase.active, Nat.le_refl, Nat.zero_le]

theorem unrecorded_le_holds (thread : Thread Msg User) : thread.unrecorded ≤ thread.holds := by
  refine drainWeight_le (fun phase => ?_) thread
  cases phase <;> simp only [DrainPhase.unrecorded, DrainPhase.holds, Nat.le_refl, Nat.zero_le]

end Thread

/-- The lengths of the queue after each enqueue a thread is about to make. -/
def enqueuedLengths (world : World Msg User) : Thread Msg User → List Nat
  | .call (.filled ready) =>
    if world.listener.stopRequested then []
    else DdsReaderListener.batchLengths world.listener.executorOptions
      world.listener.pendingMessages ready
  | _ => []

/-! ### One step -/

/-- What a step does to the counters: it keeps the balance between the messages received and
those dropped, executed, pending and with the stepping thread, and raises the high watermark
over the lengths it goes through. -/
structure Accounts (world : World Msg User) (unrecorded : Nat) (lengths : List Nat)
    (world' : World Msg User) (unrecorded' : Nat) : Prop where
  balanced :
    world'.listener.metrics.samplesReceived + (world.listener.metrics.samplesDropped +
        world.listener.metrics.callbacksExecuted + world.listener.pendingMessages.length +
        unrecorded) =
      world.listener.metrics.samplesReceived + (world'.listener.metrics.samplesDropped +
        world'.listener.metrics.callbacksExecuted + world'.listener.pendingMessages.length +
        unrecorded')
  marked : world.listener.pendingMessages.length ≤ world.listener.metrics.queueHighWatermark →
    world'.listener.metrics.queueHighWatermark =
      lengths.foldl max world.listener.metrics.queueHighWatermark
  covered : world.listener.pendingMessages.length ≤ world.listener.metrics.queueHighWatermark →
    world'.listener.pendingMessages.length ≤ world'.listener.metrics.queueHighWatermark

section Step

variable {self : ThreadId} {world world' : World Msg User}

/-- A step that leaves the queue and the metrics alone. -/
theorem accounts_frame {unrecorded : Nat}
    (metrics : world'.listener.metrics = world.listener.metrics)
    (pending : world'.listener.pendingMessages = world.listener.pendingMessages) :
    Accounts world unrecorded [] world' unrecorded where
  balanced := by rw [metrics, pending]
  marked := fun _ => by rw [metrics]; rfl
  covered := fun covered => by rw [metrics, pending]; exact covered

/-- The queue a batch leaves is among the lengths it goes through. -/
theorem length_batchQueue_le {options : DdsReaderExecutorOptions} {queue : List (Received Msg)}
    {watermark : Nat} (covered : queue.length ≤ watermark) (batch : List (Received Msg)) :
    (DdsReaderListener.batchQueue options queue batch).length ≤
      (DdsReaderListener.batchLengths options queue batch).foldl max watermark := by
  induction batch generalizing queue watermark with
  | nil => exact covered
  | cons message rest inductionHypothesis =>
    exact inductionHypothesis (Nat.le_max_right watermark _)

/-- Enqueuing a batch counts what it receives and what it drops. -/
theorem enqueueBatch_accounts
    (enabled : world.listener.executorOptions.enableMetrics = true)
    {ready : List (Received Msg)}
    (metrics : world'.listener.metrics = (world.listener.enqueueBatch ready).metrics)
    (pending : world'.listener.pendingMessages =
      (world.listener.enqueueBatch ready).pendingMessages) :
    Accounts world 0
      (DdsReaderListener.batchLengths world.listener.executorOptions
        world.listener.pendingMessages ready) world' 0 := by
  obtain ⟨_, enqueued⟩ := DdsReaderListener.enqueueBatch_eq ready world.listener
  obtain ⟨watermark, counted, marked⟩ := DdsReaderListener.enqueueBatch_metrics enabled ready
  have length := DdsReaderListener.length_batchQueue world.listener.executorOptions
    world.listener.pendingMessages ready
  have queue : world'.listener.pendingMessages = DdsReaderListener.batchQueue
      world.listener.executorOptions world.listener.pendingMessages ready := by
    rw [pending, enqueued]
  constructor
  · simp only [metrics, counted, queue]
    omega
  · intro covered
    simp only [metrics, counted, marked covered]
  · intro covered
    simp only [metrics, counted, queue, marked covered]
    exact length_batchQueue_le covered ready

theorem callActs_accounts {phase phase' : CallPhase Msg}
    (acts : CallActs world phase phase' world')
    (enabled : world.listener.executorOptions.enableMetrics = true) :
    Accounts world 0 (enqueuedLengths world (.call phase)) world' 0 := by
  cases acts with
  | refuse phase entering =>
    subst entering
    exact accounts_frame rfl rfl
  | configure =>
    obtain ⟨configured, same⟩ :=
      DdsReaderListener.applyRealtimeListenerThreadConfigOnce_eq world.listener
    exact accounts_frame (by rw [same]) (by rw [same])
  | abandon ready _ stopped =>
    simp only [enqueuedLengths, stopped, if_true]
    exact accounts_frame rfl rfl
  | offer ready _ _ _ offered =>
    obtain ⟨running, ⟨_, _, rfl⟩ | ⟨_, rfl, _⟩⟩ :=
      DdsReaderListener.onDataAvailableLocked_some offered
    · simp only [enqueuedLengths, running, Bool.false_eq_true, if_false]
      exact enqueueBatch_accounts enabled rfl rfl
    · simp only [enqueuedLengths, running, Bool.false_eq_true, if_false]
      exact enqueueBatch_accounts enabled rfl rfl
  | _ => exact accounts_frame rfl rfl

theorem drainActs_accounts {phase : DrainPhase Msg User} {phase' : Option (DrainPhase Msg User)}
    (acts : DrainActs self world phase phase' world') (alive : 0 < world'.useCount)
    (counts : phase.Counts) :
    Accounts world phase.unrecorded [] world' (phase'.elim 0 DrainPhase.unrecorded) := by
  cases acts with
  | pop message rest _ front =>
    refine ⟨?_, fun _ => rfl, fun covered => ?_⟩
    · simp only [front, List.length_cons, DrainPhase.unrecorded, Option.elim]
      omega
    · rw [front] at covered
      exact Nat.le_of_succ_le covered
  | close _ _ _ _ _ _ _ closed =>
    have same := (closeActs_frame closed).2 alive
    exact accounts_frame (by rw [same]) (by rw [same])
  | finish popped =>
    have enabled : popped.metricsEnabled = true := counts
    simp only [enabled, if_true]
    exact accounts_frame rfl rfl
  | record popped =>
    refine ⟨?_, fun _ => rfl, fun covered => covered⟩
    simp only [DdsReaderListener.recordCallbackLocked, DrainPhase.unrecorded, Option.elim]
    omega
  | release phase _ released =>
    obtain ⟨_, _, _, _, listener⟩ := releases_frame released
    cases phase <;> exact accounts_frame (by rw [listener alive]) (by rw [listener alive])
  | destroy _ phase' _ destroyed =>
    obtain ⟨_, _, _, _, listener⟩ := destroyActs_frame destroyed
    cases phase' <;> exact accounts_frame (by rw [listener]) (by rw [listener])
  | _ => exact accounts_frame rfl rfl

/-- A drain that pops a message copies whether metrics are enabled. -/
theorem drainActs_counts {phase : DrainPhase Msg User} {phase' : Option (DrainPhase Msg User)}
    (acts : DrainActs self world phase phase' world')
    (enabled : world.listener.executorOptions.enableMetrics = true) (counts : phase.Counts) :
    phase'.elim True DrainPhase.Counts := by
  cases acts with
  | pop => exact enabled
  | uncalled | begin | handle | callClose | close => exact counts
  | finish popped => cases popped.metricsEnabled <;> trivial
  | release phase => cases phase <;> trivial
  | destroy _ phase' => cases phase' <;> trivial
  | _ => trivial

variable {thread thread' : Thread Msg User}

/-- A step of any thread, on the counters. -/
theorem worldActs_accounts (acts : WorldActs self world thread thread' world')
    (alive : 0 < world'.useCount) (counts : thread.Counts)
    (enabled : world.listener.executorOptions.enableMetrics = true) :
    Accounts world thread.unrecorded (enqueuedLengths world thread) world'
      thread'.unrecorded := by
  cases acts with
  | call _ _ _ acts => exact callActs_accounts acts enabled
  | drain _ _ _ _ acts => exact drainActs_accounts acts alive counts
  | drainEnd _ _ _ acts => exact drainActs_accounts acts alive counts
  | run _ _ _ _ ran =>
    cases ran with
    | take task => cases task <;> exact accounts_frame rfl rfl
    | _ => exact accounts_frame rfl rfl
  | close _ _ _ acts =>
    have same := (closeActs_frame acts).2 alive
    exact accounts_frame (by rw [same]) (by rw [same])
  | _ => exact accounts_frame rfl rfl

theorem worldActs_counts (acts : WorldActs self world thread thread' world')
    (enabled : world.listener.executorOptions.enableMetrics = true) (counts : thread.Counts) :
    thread'.Counts := by
  cases acts with
  | drain _ _ _ _ acts => exact drainActs_counts acts enabled counts
  | run _ _ _ _ ran =>
    cases ran with
    | take task => cases task <;> trivial
    | _ => trivial
  | _ => trivial

end Step

/-! ### The invariant -/

/-- The world with a record of the lengths of the queue after each enqueue. -/
abbrev Setup.countingSystem (setup : Setup Msg User) :=
  ((listenerProgram Msg User).recorded fun world thread _ => enqueuedLengths world thread).system
    setup.initial.unlogged

/-- What the counters keep while the listener is alive. -/
structure MetricsInvariant (setup : Setup Msg User)
    (config : Config (World Msg User) (Thread Msg User)) (lengths : List Nat) : Prop where
  counts : ∀ thread ∈ config.threads, thread.Counts
  bounds : ∀ length ∈ lengths, setup.executorOptions.Bounds length
  balanced : 0 < config.shared.useCount →
    config.shared.listener.metrics.samplesReceived =
      config.shared.listener.metrics.samplesDropped +
        config.shared.listener.metrics.callbacksExecuted +
        config.shared.listener.pendingMessages.length +
        tally Thread.unrecorded config.threads
  marked : 0 < config.shared.useCount →
    config.shared.listener.metrics.queueHighWatermark = lengths.foldl max 0
  covered : 0 < config.shared.useCount →
    config.shared.listener.pendingMessages.length ≤
      config.shared.listener.metrics.queueHighWatermark

section Metrics

variable {setup : Setup Msg User}

/-- The listener starts with all counters at zero. -/
theorem Setup.listener_metrics (setup : Setup Msg User) : setup.listener.metrics = {} := by
  unfold Setup.listener DdsReaderListener.setCallback
  split <;> rfl

theorem metricsInvariant_initial (setup : Setup Msg User) :
    MetricsInvariant setup setup.initial [] := by
  have fresh : setup.initial.shared.listener.metrics = {} := setup.listener_metrics
  have empty : setup.initial.shared.listener.pendingMessages = [] := setup.listener_fresh.2.1
  refine ⟨fun thread member => ?_, fun _ member => absurd member List.not_mem_nil,
    fun _ => ?_, fun _ => ?_, fun _ => ?_⟩
  · rcases mem_initial_threads member with ⟨pool, rfl⟩ | rfl <;> trivial
  · rw [fresh, empty, tally_initial (fun _ => rfl) rfl]
    rfl
  · rw [fresh]
    rfl
  · rw [empty]
    exact Nat.zero_le _

/-- The lengths a thread goes through are within the bound. -/
theorem enqueuedLengths_bounds {world : World Msg User} {options : DdsReaderExecutorOptions}
    (same : world.listener.executorOptions = options)
    (bounds : options.Bounds world.listener.pendingMessages.length) (thread : Thread Msg User) :
    ∀ length ∈ enqueuedLengths world thread, options.Bounds length := by
  unfold enqueuedLengths
  split
  · rename_i ready
    split
    · exact fun _ member => absurd member List.not_mem_nil
    · rw [same]
      exact DdsReaderListener.batchLengths_bounds bounds ready
  · exact fun _ member => absurd member List.not_mem_nil

variable {config : Config (World Msg User) (Thread Msg User)} {lengths : List Nat}

theorem metricsInvariant_spawn {thread : Thread Msg User}
    (invariant : MetricsInvariant setup config lengths)
    (allowed : thread.spawns config.shared = true) :
    MetricsInvariant setup { config with threads := config.threads ++ [thread] } lengths := by
  refine ⟨fun other member => ?_, invariant.bounds, fun alive => ?_, invariant.marked,
    invariant.covered⟩
  · rcases List.mem_append.mp member with old | new
    · exact invariant.counts other old
    · rw [List.mem_singleton.mp new]
      rcases spawns_cases allowed with ⟨rfl, _⟩ | rfl | rfl <;> trivial
  · rw [tally_spawned allowed rfl rfl rfl]
    exact invariant.balanced alive

theorem metricsInvariant_act {self : ThreadId} {thread thread' : Thread Msg User}
    {shared : World Msg User} (enabled : setup.executorOptions.enableMetrics = true)
    (same : config.shared.listener.executorOptions = setup.executorOptions)
    (bounds : setup.executorOptions.Bounds config.shared.listener.pendingMessages.length)
    (invariant : MetricsInvariant setup config lengths)
    (found : config.threads[self]? = some thread)
    (acts : WorldActs self config.shared thread thread' shared) :
    MetricsInvariant setup { shared := shared, threads := config.threads.set self thread' }
      (lengths ++ enqueuedLengths config.shared thread) := by
  have counts := invariant.counts thread (List.mem_of_getElem? found)
  have counting : config.shared.listener.executorOptions.enableMetrics = true := by
    rw [same]
    exact enabled
  refine ⟨forall_mem_set invariant.counts (worldActs_counts acts counting counts), ?_,
    fun alive => ?_, fun alive => ?_, fun alive => ?_⟩
  · intro length member
    rcases List.mem_append.mp member with old | new
    · exact invariant.bounds length old
    · exact enqueuedLengths_bounds same bounds thread length new
  · have accounts := (worldActs_accounts acts alive counts counting).balanced
    have balanced := invariant.balanced (worldActs_alive acts alive)
    have replaced := tally_set Thread.unrecorded found thread'
    have own := weight_le_tally Thread.unrecorded found
    simp only
    omega
  · have alive' := worldActs_alive acts alive
    have accounts := worldActs_accounts acts alive counts counting
    rw [accounts.marked (invariant.covered alive'), invariant.marked alive', List.foldl_append]
  · exact (worldActs_accounts acts alive counts counting).covered
      (invariant.covered (worldActs_alive acts alive))

theorem metricsInvariant_reachable (enabled : setup.executorOptions.enableMetrics = true)
    {config : Config (World Msg User × List Nat) (Thread Msg User)}
    (reachable : setup.countingSystem.Reachable config) :
    MetricsInvariant setup config.plain config.shared.2 := by
  have admitted : setup.countingSystem.ReachableBy (Program.whileRecorded fun _ _ => True) config :=
    reachable
  refine Program.recorded_invariant (metricsInvariant_initial setup) ?_ ?_ admitted
  · intro config lengths thread _ invariant _ allowed
    exact metricsInvariant_spawn invariant allowed
  · intro config lengths self choice thread thread' shared reached invariant _ found acted
    exact metricsInvariant_act enabled (options_reachable reached) (bounds_reachable reached)
      invariant found (worldAct_cases acted)

/-- The maximum of a list of lengths within a bound is within it. -/
theorem foldl_max_le {lengths : List Nat} {start capacity : Nat} (first : start ≤ capacity)
    (bound : ∀ length ∈ lengths, length ≤ capacity) : lengths.foldl max start ≤ capacity := by
  induction lengths generalizing start with
  | nil => exact first
  | cons length rest inductionHypothesis =>
    exact inductionHypothesis (Nat.max_le.mpr ⟨first, bound length List.mem_cons_self⟩)
      fun other member => bound other (List.mem_cons_of_mem length member)

/-- The metrics add up. For a reader with metrics enabled, under any policy and capacity and in
every state a run reaches while the listener is alive, with no thread inside a critical section:
the samples received are those dropped, those whose callback is recorded, those pending and one
more when a worker has popped a message and not recorded it, which at most one has; and the high
watermark is the maximum of the lengths the queue had after each enqueue of the run, so it is at
least the present length and at most the capacity. -/
theorem metrics_conserved (setup : Setup Msg User)
    (enabled : setup.executorOptions.enableMetrics = true)
    {config : Config (World Msg User × List Nat) (Thread Msg User)}
    (reachable : setup.countingSystem.Reachable config)
    (alive : 0 < config.shared.1.useCount) :
    config.shared.1.listener.getExecutorMetrics.samplesReceived =
      config.shared.1.listener.getExecutorMetrics.samplesDropped +
        config.shared.1.listener.getExecutorMetrics.callbacksExecuted +
        config.shared.1.listener.pendingMessages.length +
        tally Thread.unrecorded config.threads ∧
    tally Thread.unrecorded config.threads ≤ 1 ∧
    config.shared.1.listener.getExecutorMetrics.queueHighWatermark =
      config.shared.2.foldl max 0 ∧
    config.shared.1.listener.pendingMessages.length ≤
      config.shared.1.listener.getExecutorMetrics.queueHighWatermark ∧
    (0 < setup.executorOptions.queueCapacity →
      config.shared.1.listener.getExecutorMetrics.queueHighWatermark ≤
        setup.executorOptions.queueCapacity) := by
  have invariant := metricsInvariant_reachable enabled reachable
  have plain : setup.system.Reachable config.plain := Program.plain_reachable reachable
  refine ⟨invariant.balanced alive, ?_, invariant.marked alive, invariant.covered alive,
    fun limited => ?_⟩
  · exact (drainInvariant_reachable plain).tally_le_one Thread.unrecorded_le_active
      Thread.unrecorded_le_holds
  · calc config.shared.1.listener.getExecutorMetrics.queueHighWatermark
      _ = config.shared.2.foldl max 0 := invariant.marked alive
      _ ≤ setup.executorOptions.queueCapacity :=
        foldl_max_le (Nat.zero_le _) fun length member =>
          (invariant.bounds length member).capacity limited

/-- Three samples arrive at a queue of two that drops the oldest, and the callback for the second
has begun. -/
def countedRun : List (Event (Thread Nat (List Nat)) (Choice Nat)) :=
  arrival 3 [5, 6, 7] ++ scheduling 3 ++ beginning 0

theorem countedRun_isSome :
    ((loggingSetup boundedOptions 2).countingSystem.run countedRun).isSome = true := rfl

/-- The state `countedRun` ends in. -/
def counted : Config (World Nat (List Nat) × List Nat) (Thread Nat (List Nat)) :=
  ((loggingSetup boundedOptions 2).countingSystem.run countedRun).get countedRun_isSome

theorem metrics_conserved_counted :
    counted.shared.2 = [1, 2, 2] ∧
    counted.shared.1.listener.getExecutorMetrics.samplesReceived =
      counted.shared.1.listener.getExecutorMetrics.samplesDropped +
        counted.shared.1.listener.getExecutorMetrics.callbacksExecuted +
        counted.shared.1.listener.pendingMessages.length +
        tally Thread.unrecorded counted.threads ∧
    tally Thread.unrecorded counted.threads ≤ 1 ∧
    counted.shared.1.listener.getExecutorMetrics.queueHighWatermark =
      counted.shared.2.foldl max 0 ∧
    counted.shared.1.listener.pendingMessages.length ≤
      counted.shared.1.listener.getExecutorMetrics.queueHighWatermark ∧
    (0 < (loggingSetup boundedOptions 2).executorOptions.queueCapacity →
      counted.shared.1.listener.getExecutorMetrics.queueHighWatermark ≤
        (loggingSetup boundedOptions 2).executorOptions.queueCapacity) :=
  ⟨rfl, metrics_conserved (loggingSetup boundedOptions 2) rfl
    (System.reachable_of_run (Option.some_get countedRun_isSome).symm) (by decide)⟩

end Metrics

end Booster.Common
