/-
This file gives the overflow policies in closed form.

The source enqueues one message at a time. Over a whole batch a queue that drops
the oldest is the last messages of everything pushed, one that drops the newest is
the first, and one that keeps only the latest is the last message of the batch. The
counters follow the queue: each enqueue adds one received message and one drop for
each message the policy removes, and raises the high watermark to the length it
leaves. The bound on the queue that the closed form needs holds in every state a
reader reaches.
-/

import BoosterSdk.SingleDrain

namespace Booster.Common

open Interleaving LossyQueue

variable {Msg User : Type}

/-! ### The bound -/

namespace DdsReaderExecutorOptions

/-- A length the pending queue may have: within the capacity unless that is 0, and at most one
when only the latest message is kept. -/
structure Bounds (options : DdsReaderExecutorOptions) (length : Nat) : Prop where
  capacity : 0 < options.queueCapacity → length ≤ options.queueCapacity
  latest : options.overflowPolicy = .latestOnly → length ≤ 1

theorem Bounds.of_le {options : DdsReaderExecutorOptions} {length shorter : Nat}
    (bounds : options.Bounds length) (le : shorter ≤ length) : options.Bounds shorter where
  capacity := fun limited => Nat.le_trans le (bounds.capacity limited)
  latest := fun latest => Nat.le_trans le (bounds.latest latest)

theorem bounds_zero (options : DdsReaderExecutorOptions) : options.Bounds 0 where
  capacity := fun _ => Nat.zero_le _
  latest := fun _ => Nat.zero_le _

variable {Item : Type} {options : DdsReaderExecutorOptions} {queue : List Item}

/-- A message is kept or removed. -/
theorem length_overflowQueue (options : DdsReaderExecutorOptions) (queue : List Item)
    (item : Item) :
    (options.overflowQueue queue item).length + (options.overflowVictims queue item).length =
      queue.length + 1 := by
  have accounted := (rule_accounts options queue item _ _ ⟨rfl, rfl⟩).accounted.length_eq
  rwa [List.length_append, List.length_append, List.length_singleton] at accounted

/-- One enqueue keeps the queue within its bound. -/
theorem bounds_overflowQueue (bounds : options.Bounds queue.length) (item : Item) :
    options.Bounds (options.overflowQueue queue item).length := by
  unfold overflowQueue fullAt
  cases policy : options.overflowPolicy with
  | dropNewest =>
    refine ⟨fun limited => ?_, fun latest => ?_⟩
    · have bound := bounds.capacity limited
      simp only [decide_eq_true_eq]
      split
      · exact bound
      · rw [List.length_append, List.length_singleton]
        omega
    · rw [policy] at latest
      cases latest
  | dropOldest =>
    refine ⟨fun limited => ?_, fun latest => ?_⟩
    · have bound := bounds.capacity limited
      simp only [decide_eq_true_eq, List.length_append, List.length_drop, List.length_singleton]
      split <;> omega
    · rw [policy] at latest
      cases latest
  | latestOnly => exact ⟨fun limited => limited, fun _ => Nat.le_refl 1⟩

end DdsReaderExecutorOptions

/-! ### The queue after a batch -/

namespace DdsReaderListener

open DdsReaderExecutorOptions

variable {Item : Type} {options : DdsReaderExecutorOptions}

/-- A batch keeps the queue within its bound. -/
theorem bounds_batchQueue {queue : List Item} (bounds : options.Bounds queue.length)
    (batch : List Item) : options.Bounds (batchQueue options queue batch).length := by
  induction batch generalizing queue with
  | nil => exact bounds
  | cons item rest inductionHypothesis =>
    exact inductionHypothesis (bounds_overflowQueue bounds item)

/-- An unbounded queue that does not keep only the latest message keeps everything. -/
theorem batchQueue_unbounded (unbounded : options.queueCapacity = 0)
    (keeps : options.overflowPolicy ≠ .latestOnly) (queue batch : List Item) :
    batchQueue options queue batch = queue ++ batch := by
  have pushes : ∀ (queue : List Item) (item : Item),
      options.overflowQueue queue item = queue ++ [item] := by
    intro queue item
    have room : options.fullAt queue.length = false := by
      simp [fullAt, unbounded]
    unfold overflowQueue
    cases policy : options.overflowPolicy with
    | dropNewest =>
      simp only
      rw [room]
      rfl
    | dropOldest =>
      simp only
      rw [room]
      rfl
    | latestOnly => exact absurd policy keeps
  let everything (_ : List Item) : Prop := True
  have bound : everything queue := trivial
  exact foldl_eq_window id (fun _ _ => rfl) (fun queue item _ => pushes queue item)
    (fun _ _ _ => trivial) (fun _ _ => rfl) bound batch

/-- A queue that drops the oldest keeps the last messages of everything pushed. -/
theorem batchQueue_dropOldest (policy : options.overflowPolicy = .dropOldest)
    (limited : 0 < options.queueCapacity) {queue : List Item}
    (bounds : options.Bounds queue.length) (batch : List Item) :
    batchQueue options queue batch = (queue ++ batch).rtake options.queueCapacity := by
  have pushed : ∀ (queue : List Item) (item : Item), options.Bounds queue.length →
      options.overflowQueue queue item = (queue ++ [item]).rtake options.queueCapacity := by
    intro queue item bounds
    have bound := bounds.capacity limited
    unfold overflowQueue fullAt List.rtake
    simp only [policy, decide_eq_true_eq, List.length_append, List.length_singleton]
    rw [List.drop_append_of_le_length (by omega)]
    congr 2
    split <;> omega
  refine foldl_eq_window (fun queue => queue.rtake options.queueCapacity)
    (fun queue bounds => ?_) pushed
    (fun queue item bounds => bounds_overflowQueue bounds item)
    (fun queue batch => rtake_rtake_append queue batch options.queueCapacity) bounds batch
  exact rtake_of_length_le (bounds.capacity limited)

/-- A queue that drops the newest keeps the first messages of everything pushed. -/
theorem batchQueue_dropNewest (policy : options.overflowPolicy = .dropNewest)
    (limited : 0 < options.queueCapacity) {queue : List Item}
    (bounds : options.Bounds queue.length) (batch : List Item) :
    batchQueue options queue batch = (queue ++ batch).take options.queueCapacity := by
  have pushed : ∀ (queue : List Item) (item : Item), options.Bounds queue.length →
      options.overflowQueue queue item = (queue ++ [item]).take options.queueCapacity := by
    intro queue item bounds
    have bound := bounds.capacity limited
    unfold overflowQueue fullAt
    simp only [policy, decide_eq_true_eq]
    split
    · rename_i full
      rw [List.take_append_of_le_length full.2, List.take_of_length_le bound]
    · rename_i room
      rw [List.take_of_length_le]
      rw [List.length_append, List.length_singleton]
      omega
  refine foldl_eq_window (fun queue => queue.take options.queueCapacity)
    (fun queue bounds => ?_) pushed
    (fun queue item bounds => bounds_overflowQueue bounds item)
    (fun queue batch => take_take_append queue batch options.queueCapacity) bounds batch
  exact List.take_of_length_le (bounds.capacity limited)

/-- A queue that keeps only the latest message is the last message of the batch. -/
theorem batchQueue_latestOnly (policy : options.overflowPolicy = .latestOnly)
    (queue : List Item) {batch : List Item} (nonempty : batch ≠ []) :
    batchQueue options queue batch = [batch.getLast nonempty] := by
  have replaced : ∀ (queue : List Item) (item : Item),
      options.overflowQueue queue item = [item] := by
    intro queue item
    unfold overflowQueue
    rw [policy]
  induction batch generalizing queue with
  | nil => exact absurd rfl nonempty
  | cons item rest inductionHypothesis =>
    cases rest with
    | nil => exact replaced queue item
    | cons next rest =>
      rw [List.getLast_cons (List.cons_ne_nil next rest)]
      exact inductionHypothesis _ (List.cons_ne_nil next rest)

/-! ### The counters after a batch -/

theorem recordDropLocked_enabled {listener : DdsReaderListener Msg User}
    (enabled : listener.executorOptions.enableMetrics = true) (dropCount : Nat) :
    listener.recordDropLocked dropCount =
      { listener with metrics := { listener.metrics with
          samplesDropped := listener.metrics.samplesDropped + dropCount } } :=
  if_pos enabled

/-- Pushing a message raises the high watermark to the length it leaves. -/
theorem pushBack_metrics (message : Received Msg) (listener : DdsReaderListener Msg User)
    (enabled : listener.executorOptions.enableMetrics = true) :
    (listener.pushBack message).recordWatermarkLocked.metrics =
      { listener.metrics with
        queueHighWatermark :=
          max listener.metrics.queueHighWatermark
            (listener.pendingMessages ++ [message]).length } :=
  congrArg DdsReaderListener.metrics (if_pos enabled)

/-- What one enqueue adds to the metrics. -/
theorem enqueuePendingMessageLocked_metrics {listener : DdsReaderListener Msg User}
    (enabled : listener.executorOptions.enableMetrics = true) (message : Received Msg) :
    ∃ watermark, (listener.enqueuePendingMessageLocked message).metrics =
      { listener.metrics with
        samplesReceived := listener.metrics.samplesReceived + 1
        samplesDropped := listener.metrics.samplesDropped +
          (listener.executorOptions.overflowVictims listener.pendingMessages message).length
        queueHighWatermark := watermark } ∧
      (listener.pendingMessages.length ≤ listener.metrics.queueHighWatermark →
        watermark = max listener.metrics.queueHighWatermark
          (listener.executorOptions.overflowQueue listener.pendingMessages message).length) := by
  have received : listener.recordReceivedLocked =
      { listener with metrics := { listener.metrics with
          samplesReceived := listener.metrics.samplesReceived + 1 } } := if_pos enabled
  have fullEq : full { listener with metrics := { listener.metrics with
      samplesReceived := listener.metrics.samplesReceived + 1 } } =
        listener.executorOptions.fullAt listener.pendingMessages.length := rfl
  unfold enqueuePendingMessageLocked overflowQueue overflowVictims
  cases policy : listener.executorOptions.overflowPolicy with
  | dropNewest =>
    cases isFull : listener.executorOptions.fullAt listener.pendingMessages.length with
    | true =>
      simp only [received, policy, fullEq, isFull, if_true, recordDropLocked_enabled, enabled]
      exact ⟨_, rfl, fun covered => (Nat.max_eq_left covered).symm⟩
    | false =>
      simp only [received, policy, fullEq, isFull, Bool.false_eq_true, if_false]
      exact ⟨_, pushBack_metrics message _ enabled, fun _ => rfl⟩
  | dropOldest =>
    cases isFull : listener.executorOptions.fullAt listener.pendingMessages.length with
    | true =>
      have waiting : 1 ≤ listener.pendingMessages.length := by
        have limits := of_decide_eq_true isFull
        omega
      simp only [received, policy, fullEq, isFull, if_true, recordDropLocked_enabled, enabled,
        List.length_take, Nat.min_eq_left waiting, List.drop_one]
      exact ⟨_, pushBack_metrics message _ enabled, fun _ => rfl⟩
    | false =>
      simp only [received, policy, fullEq, isFull, Bool.false_eq_true, if_false]
      exact ⟨_, pushBack_metrics message _ enabled, fun _ => rfl⟩
  | latestOnly =>
    cases queue : listener.pendingMessages with
    | nil =>
      simp only [received, policy, queue, List.isEmpty_nil, Bool.not_true, Bool.false_eq_true,
        if_false]
      exact ⟨_, pushBack_metrics message _ enabled, fun _ => rfl⟩
    | cons front rest =>
      simp only [received, policy, queue, List.isEmpty_cons, Bool.not_false, if_true,
        recordDropLocked_enabled, enabled]
      exact ⟨_, pushBack_metrics message _ enabled, fun _ => rfl⟩

/-- The length of the queue after each enqueue of a batch. -/
def batchLengths (options : DdsReaderExecutorOptions) {Item : Type} (queue : List Item) :
    List Item → List Nat
  | [] => []
  | item :: rest =>
    (options.overflowQueue queue item).length ::
      batchLengths options (options.overflowQueue queue item) rest

/-- A batch goes through lengths within the bound. -/
theorem batchLengths_bounds {queue : List Item} (bounds : options.Bounds queue.length)
    (batch : List Item) : ∀ length ∈ batchLengths options queue batch, options.Bounds length := by
  induction batch generalizing queue with
  | nil => exact fun _ member => absurd member List.not_mem_nil
  | cons item rest inductionHypothesis =>
    have first := bounds_overflowQueue bounds item
    intro length member
    rcases List.mem_cons.mp member with rfl | later
    · exact first
    · exact inductionHypothesis first length later

/-- What a batch adds to the metrics. -/
theorem enqueueBatch_metrics {listener : DdsReaderListener Msg User}
    (enabled : listener.executorOptions.enableMetrics = true) (ready : List (Received Msg)) :
    ∃ watermark, (listener.enqueueBatch ready).metrics =
      { listener.metrics with
        samplesReceived := listener.metrics.samplesReceived + ready.length
        samplesDropped := listener.metrics.samplesDropped +
          (batchRemovals listener.executorOptions listener.pendingMessages ready).length
        queueHighWatermark := watermark } ∧
      (listener.pendingMessages.length ≤ listener.metrics.queueHighWatermark →
        watermark = (batchLengths listener.executorOptions listener.pendingMessages ready).foldl
          max listener.metrics.queueHighWatermark) := by
  induction ready generalizing listener with
  | nil => exact ⟨_, rfl, fun _ => rfl⟩
  | cons message rest inductionHypothesis =>
    obtain ⟨metrics, enqueued⟩ := enqueuePendingMessageLocked_eq message listener
    obtain ⟨first, counted, marked⟩ := enqueuePendingMessageLocked_metrics enabled message
    rw [enqueued] at counted
    simp only at counted
    subst counted
    have enabled' : (listener.enqueuePendingMessageLocked message).executorOptions.enableMetrics =
        true := by
      rw [enqueued]
      exact enabled
    obtain ⟨final, batch, covers⟩ := inductionHypothesis enabled'
    rw [enqueued] at batch covers
    refine ⟨final, ?_, fun covered => ?_⟩
    · show (enqueueBatch rest (listener.enqueuePendingMessageLocked message)).metrics = _
      rw [enqueued, batch]
      simp only [batchRemovals, List.length_append, List.length_map, List.length_cons,
        Nat.add_assoc, Nat.add_comm 1]
    · have raised := marked covered
      simp only at covers
      rw [covers (by rw [raised]; exact Nat.le_max_right _ _), raised]
      rfl

/-- Every message of a batch is kept, or it removes one. -/
theorem length_batchQueue (options : DdsReaderExecutorOptions)
    (queue batch : List (Received Msg)) :
    (batchQueue options queue batch).length + (batchRemovals options queue batch).length =
      queue.length + batch.length := by
  induction batch generalizing queue with
  | nil => rfl
  | cons message rest inductionHypothesis =>
    have one := length_overflowQueue options queue message
    have more := inductionHypothesis (options.overflowQueue queue message)
    have first : batchQueue options queue (message :: rest) =
      batchQueue options (options.overflowQueue queue message) rest := rfl
    simp only [first, batchRemovals, List.length_append, List.length_map, List.length_cons]
    omega

end DdsReaderListener

/-! ### The bound in every state -/

section Bounds

variable {self : ThreadId} {world world' : World Msg User}

theorem releases_pending {phase : Option DestroyPhase}
    (released : Releases self world phase world') :
    world'.listener.pendingMessages.Sublist world.listener.pendingMessages := by
  cases released with
  | shared => exact List.Sublist.refl _
  | last => exact List.nil_sublist _
  | lastDedicated => exact List.nil_sublist _

theorem closeActs_pending {phase phase' : ClosePhase}
    (acts : CloseActs self world phase phase' world') :
    world'.listener.pendingMessages.Sublist world.listener.pendingMessages := by
  cases acts with
  | reset _ _ released =>
    have shorter := releases_pending released
    exact shorter
  | destroy _ _ _ destroyed =>
    obtain ⟨_, _, _, _, listener⟩ := destroyActs_frame destroyed
    rw [listener]
  | _ => exact List.Sublist.refl _

/-- A drain task only takes messages out of the queue. -/
theorem drainActs_pending {phase : DrainPhase Msg User} {phase' : Option (DrainPhase Msg User)}
    (acts : DrainActs self world phase phase' world') :
    world'.listener.pendingMessages.Sublist world.listener.pendingMessages := by
  cases acts with
  | pop message rest _ front =>
    rw [front]
    exact List.sublist_cons_self message rest
  | close _ _ _ _ _ _ _ closed => exact closeActs_pending closed
  | release _ _ released => exact releases_pending released
  | destroy _ _ _ destroyed =>
    obtain ⟨_, _, _, _, listener⟩ := destroyActs_frame destroyed
    rw [listener]
  | _ => exact List.Sublist.refl _

/-- A call changes the queue only by enqueuing its batch. -/
theorem callActs_pending {phase phase' : CallPhase Msg}
    (acts : CallActs world phase phase' world') :
    world'.listener.pendingMessages = world.listener.pendingMessages ∨
      ∃ ready, phase = .filled ready ∧ world'.listener.pendingMessages =
        DdsReaderListener.batchQueue world.listener.executorOptions
          world.listener.pendingMessages ready := by
  cases acts with
  | configure =>
    obtain ⟨configured, same⟩ :=
      DdsReaderListener.applyRealtimeListenerThreadConfigOnce_eq world.listener
    rw [same]
    exact Or.inl rfl
  | offer ready _ _ _ offered =>
    exact Or.inr ⟨ready, rfl, DdsReaderListener.onDataAvailableLocked_queue offered⟩
  | _ => exact Or.inl rfl

/-- Every step keeps the queue within its bound. -/
theorem worldActs_bounds {thread thread' : Thread Msg User}
    (acts : WorldActs self world thread thread' world')
    (bounds : world.listener.executorOptions.Bounds world.listener.pendingMessages.length) :
    world.listener.executorOptions.Bounds world'.listener.pendingMessages.length := by
  cases acts with
  | call _ _ _ acts =>
    rcases callActs_pending acts with same | ⟨ready, _, batch⟩
    · rw [same]
      exact bounds
    · rw [batch]
      exact DdsReaderListener.bounds_batchQueue bounds ready
  | drain _ _ _ _ acts => exact bounds.of_le (drainActs_pending acts).length_le
  | drainEnd _ _ _ acts => exact bounds.of_le (drainActs_pending acts).length_le
  | close _ _ _ acts => exact bounds.of_le (closeActs_pending acts).length_le
  | _ => exact bounds

end Bounds

section Overflow

variable {setup : Setup Msg User} {config : Config (World Msg User) (Thread Msg User)}

/-- In every state a reader can reach the queue is within its bound. -/
theorem bounds_reachable {admits : Config (World Msg User) (Thread Msg User) →
      Event (Thread Msg User) (Choice Msg) → Prop}
    (reachable : setup.system.ReachableBy admits config) :
    setup.executorOptions.Bounds config.shared.listener.pendingMessages.length := by
  let holds (config : Config (World Msg User) (Thread Msg User)) : Prop :=
    setup.executorOptions.Bounds config.shared.listener.pendingMessages.length
  have initially : holds setup.initial := by
    show setup.executorOptions.Bounds setup.listener.pendingMessages.length
    rw [setup.listener_fresh.2.1]
    exact setup.executorOptions.bounds_zero
  refine Program.invariant initially ?_ ?_ reachable
  · intro config thread _ bounds _ _
    exact bounds
  · intro config self choice thread thread' shared reached bounds _ _ acted
    have step := worldActs_bounds (worldAct_cases acted)
    rw [options_reachable reached] at step
    exact step bounds

/-! ### The policy as a function of the batch -/

/-- What the critical section of `on_data_available` makes of the queue and the drop counter:
the closed form of each policy, and one drop for each message that is not kept. -/
structure Overflows (listener : DdsReaderListener Msg User) (batch : List (Received Msg))
    (next : DdsReaderListener Msg User) : Prop where
  unbounded : listener.executorOptions.queueCapacity = 0 →
    listener.executorOptions.overflowPolicy ≠ .latestOnly →
      next.pendingMessages = listener.pendingMessages ++ batch
  dropOldest : 0 < listener.executorOptions.queueCapacity →
    listener.executorOptions.overflowPolicy = .dropOldest →
      next.pendingMessages = (listener.pendingMessages ++ batch).rtake
        (min listener.executorOptions.queueCapacity
          (listener.pendingMessages.length + batch.length))
  dropNewest : 0 < listener.executorOptions.queueCapacity →
    listener.executorOptions.overflowPolicy = .dropNewest →
      next.pendingMessages = (listener.pendingMessages ++ batch).take
        (min listener.executorOptions.queueCapacity
          (listener.pendingMessages.length + batch.length))
  latestOnly : listener.executorOptions.overflowPolicy = .latestOnly →
    ∀ nonempty : batch ≠ [], next.pendingMessages = [batch.getLast nonempty]
  kept : next.pendingMessages.length ≤ listener.pendingMessages.length + batch.length
  removals : (batchRemovals listener.executorOptions listener.pendingMessages batch).length =
    listener.pendingMessages.length + batch.length - next.pendingMessages.length
  recorded : listener.executorOptions.enableMetrics = true →
    next.metrics.samplesDropped = listener.metrics.samplesDropped +
      (listener.pendingMessages.length + batch.length - next.pendingMessages.length)

/-- A batch overflows as the closed forms say. -/
theorem overflows_enqueueBatch {listener : DdsReaderListener Msg User}
    (bounds : listener.executorOptions.Bounds listener.pendingMessages.length)
    (batch : List (Received Msg)) :
    Overflows listener batch (listener.enqueueBatch batch) := by
  obtain ⟨metrics, enqueued⟩ := DdsReaderListener.enqueueBatch_eq batch listener
  have queue : (listener.enqueueBatch batch).pendingMessages =
      DdsReaderListener.batchQueue listener.executorOptions listener.pendingMessages batch := by
    rw [enqueued]
  have length := DdsReaderListener.length_batchQueue listener.executorOptions
    listener.pendingMessages batch
  have whole : (listener.pendingMessages ++ batch).length =
      listener.pendingMessages.length + batch.length := List.length_append
  constructor
  · intro unbounded keeps
    rw [queue, DdsReaderListener.batchQueue_unbounded unbounded keeps]
  · intro limited policy
    rw [queue, DdsReaderListener.batchQueue_dropOldest policy limited bounds, ← whole,
      rtake_min_length]
  · intro limited policy
    rw [queue, DdsReaderListener.batchQueue_dropNewest policy limited bounds, ← whole,
      ← List.take_eq_take_min]
  · intro policy nonempty
    rw [queue, DdsReaderListener.batchQueue_latestOnly policy _ nonempty]
  · rw [queue]
    omega
  · rw [queue]
    omega
  · intro enabled
    obtain ⟨watermark, counted, _⟩ := DdsReaderListener.enqueueBatch_metrics enabled batch
    rw [counted, queue]
    simp only
    omega

/-- The overflow policy is a function of the whole batch. For fixed options, a running listener
whose queue is within its bound gets from one non-empty batch the queue of the closed form:
everything when the queue is unbounded, the last messages when the oldest are dropped, the
first when the newest are, and the last message of the batch when only the latest is kept; the
drops recorded are the messages not kept. In every state a reader with these options can reach
the queue is within its bound. -/
theorem overflow_of_batch (options : DdsReaderExecutorOptions) :
    (∀ (listener : DdsReaderListener Msg User) (batch : List (Received Msg)),
      listener.executorOptions = options → listener.stopRequested = false →
      options.Bounds listener.pendingMessages.length → batch ≠ [] →
      ∃ shouldSchedule next,
        listener.onDataAvailableLocked batch = some (shouldSchedule, next) ∧
        next.executorOptions = options ∧ Overflows listener batch next) ∧
    (∀ (setup : Setup Msg User) (config : Config (World Msg User) (Thread Msg User)),
      setup.executorOptions = options → setup.system.Reachable config →
      (0 < options.queueCapacity →
        config.shared.listener.pendingMessages.length ≤ options.queueCapacity) ∧
      (options.overflowPolicy = .latestOnly →
        config.shared.listener.pendingMessages.length ≤ 1)) := by
  constructor
  · rintro listener batch rfl running bounds _
    have overflows := overflows_enqueueBatch bounds batch
    obtain ⟨metrics, enqueued⟩ := DdsReaderListener.enqueueBatch_eq batch listener
    have settings : (listener.enqueueBatch batch).executorOptions = listener.executorOptions := by
      rw [enqueued]
    cases offered : listener.onDataAvailableLocked batch with
    | none =>
      have stopped := DdsReaderListener.onDataAvailableLocked_none offered
      exact absurd (running.symm.trans stopped) Bool.false_ne_true
    | some result =>
      obtain ⟨shouldSchedule, next⟩ := result
      refine ⟨shouldSchedule, next, rfl, ?_⟩
      obtain ⟨_, ⟨_, _, rfl⟩ | ⟨_, rfl, _⟩⟩ :=
        DdsReaderListener.onDataAvailableLocked_some offered
      · exact ⟨settings, overflows.unbounded, overflows.dropOldest, overflows.dropNewest,
          overflows.latestOnly, overflows.kept, overflows.removals, overflows.recorded⟩
      · exact ⟨settings, overflows⟩
  · rintro setup config rfl reachable
    have bounds := bounds_reachable reachable
    exact ⟨bounds.capacity, bounds.latest⟩

/-- A queue of two that drops the oldest and counts what it drops. -/
def boundedOptions : DdsReaderExecutorOptions := { queueCapacity := 2, enableMetrics := true }

/-- Three samples arrive at the queue of two. -/
def threeArrivedRun : List (Event (Thread Nat (List Nat)) (Choice Nat)) := arrival 3 [5, 6, 7]

theorem threeArrivedRun_isSome :
    ((loggingSetup boundedOptions 2).system.run threeArrivedRun).isSome = true := rfl

/-- The state `threeArrivedRun` ends in. -/
def threeArrived : Config (World Nat (List Nat)) (Thread Nat (List Nat)) :=
  ((loggingSetup boundedOptions 2).system.run threeArrivedRun).get threeArrivedRun_isSome

theorem threeArrived_reachable :
    (loggingSetup boundedOptions 2).system.Reachable threeArrived :=
  System.reachable_of_run (Option.some_get threeArrivedRun_isSome).symm

theorem overflow_of_batch_threeArrived :
    threeArrived.shared.listener.pendingMessages.map (fun received => received.message) =
      [6, 7] ∧
    (∃ shouldSchedule next,
      threeArrived.shared.listener.onDataAvailableLocked threeArrived.shared.history.taken =
        some (shouldSchedule, next) ∧ next.executorOptions = boundedOptions ∧
      Overflows threeArrived.shared.listener threeArrived.shared.history.taken next) ∧
    (0 < boundedOptions.queueCapacity →
      threeArrived.shared.listener.pendingMessages.length ≤ boundedOptions.queueCapacity) ∧
    (boundedOptions.overflowPolicy = .latestOnly →
      threeArrived.shared.listener.pendingMessages.length ≤ 1) :=
  ⟨rfl,
    (overflow_of_batch boundedOptions).1 threeArrived.shared.listener
      threeArrived.shared.history.taken rfl rfl ⟨fun _ => by decide, fun latest => nomatch latest⟩
      (List.cons_ne_nil _ _),
    (overflow_of_batch boundedOptions).2 (loggingSetup boundedOptions 2) threeArrived rfl
      threeArrived_reachable⟩

end Overflow

end Booster.Common
