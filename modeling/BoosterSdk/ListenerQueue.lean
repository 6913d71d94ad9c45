/-
This file proves what `EnqueuePendingMessageLocked` does to the pending queue.

The source treats one message at a time, with one rule per overflow policy, early
returns and interleaved bookkeeping. As a function on the queue it is
`overflowQueue`, and everything else it touches is the metrics. Each policy is an
admission rule of the lossy queue library: what it keeps is in order, and what it
does not keep are exactly the messages it pops, clears or does not push, which are
recorded as removals.
-/

import BoosterSdk.Listener
import BoosterSdk.Library.LossyQueue

namespace Booster.Common

open LossyQueue

variable {Msg User : Type}

/-! ### The overflow policies -/

namespace DdsReaderExecutorOptions

/-- Whether the policy sees a queue of this length as full. -/
def fullAt (options : DdsReaderExecutorOptions) (length : Nat) : Bool :=
  decide (0 < options.queueCapacity ∧ options.queueCapacity ≤ length)

/-- The pending queue after a message has been enqueued. -/
def overflowQueue (options : DdsReaderExecutorOptions) {Item : Type} (queue : List Item)
    (item : Item) : List Item :=
  match options.overflowPolicy with
  | .dropNewest => if options.fullAt queue.length then queue else queue ++ [item]
  | .dropOldest => queue.drop (if options.fullAt queue.length then 1 else 0) ++ [item]
  | .latestOnly => [item]

/-- The messages the policy removes: the ones `EnqueuePendingMessageLocked` pops, clears or
does not push. -/
def overflowVictims (options : DdsReaderExecutorOptions) {Item : Type} (queue : List Item)
    (item : Item) : List Item :=
  match options.overflowPolicy with
  | .dropNewest => if options.fullAt queue.length then [item] else []
  | .dropOldest => queue.take (if options.fullAt queue.length then 1 else 0)
  | .latestOnly => queue

/-- The options as a rule of the lossy queue. -/
def rule (options : DdsReaderExecutorOptions) {Item : Type} : Rule Item :=
  fun queue item kept removed =>
    kept = options.overflowQueue queue item ∧ removed = options.overflowVictims queue item

/-- Every policy accounts for what it removes. -/
theorem rule_accounts (options : DdsReaderExecutorOptions) {Item : Type} :
    (options.rule : Rule Item).Accounts := by
  rintro queue item _ _ ⟨rfl, rfl⟩
  unfold overflowQueue overflowVictims
  split
  · split
    · exact .refuse queue item
    · exact .push queue item
  · exact .dropFront queue item _
  · exact .clear queue item

/-- Every policy but `kDropNewest` keeps the newest message. -/
theorem rule_keepsNewest {options : DdsReaderExecutorOptions}
    (keeps : options.overflowPolicy ≠ .dropNewest) {Item : Type} :
    (options.rule : Rule Item).KeepsNewest := by
  rintro queue item _ _ ⟨rfl, _⟩
  unfold overflowQueue
  split
  · rename_i refuses
    exact absurd refuses keeps
  · exact List.getLast?_concat
  · rfl

/-- An unbounded queue that does not keep only the latest message removes nothing. -/
theorem overflowVictims_unbounded {options : DdsReaderExecutorOptions}
    (unbounded : options.queueCapacity = 0) (keeps : options.overflowPolicy ≠ .latestOnly)
    {Item : Type} (queue : List Item) (item : Item) :
    options.overflowVictims queue item = [] := by
  have room : options.fullAt queue.length = false := by
    simp [fullAt, unbounded]
  unfold overflowVictims
  split
  · rw [room]
    rfl
  · rw [room]
    rfl
  · rename_i latest
    exact absurd latest keeps

end DdsReaderExecutorOptions

/-! ### The source function as a function on the queue -/

namespace DdsReaderListener

/-- The bookkeeping functions touch only the metrics. -/
theorem recordReceivedLocked_eq (listener : DdsReaderListener Msg User) :
    ∃ metrics, listener.recordReceivedLocked = { listener with metrics := metrics } := by
  unfold recordReceivedLocked
  split
  · exact ⟨_, rfl⟩
  · exact ⟨listener.metrics, rfl⟩

theorem recordDropLocked_eq (dropCount : Nat) (listener : DdsReaderListener Msg User) :
    ∃ metrics, listener.recordDropLocked dropCount = { listener with metrics := metrics } := by
  unfold recordDropLocked
  split
  · exact ⟨_, rfl⟩
  · exact ⟨listener.metrics, rfl⟩

theorem recordWatermarkLocked_eq (listener : DdsReaderListener Msg User) :
    ∃ metrics, listener.recordWatermarkLocked = { listener with metrics := metrics } := by
  unfold recordWatermarkLocked
  split
  · exact ⟨_, rfl⟩
  · exact ⟨listener.metrics, rfl⟩

/-- `EnqueuePendingMessageLocked` applies the overflow policy to the queue and otherwise only
touches the metrics. -/
theorem enqueuePendingMessageLocked_eq (message : Received Msg)
    (listener : DdsReaderListener Msg User) :
    ∃ metrics, listener.enqueuePendingMessageLocked message =
      { listener with
        metrics := metrics
        pendingMessages :=
          listener.executorOptions.overflowQueue listener.pendingMessages message } := by
  obtain ⟨received, receivedEq⟩ := recordReceivedLocked_eq listener
  have fullEq : full { listener with metrics := received } =
      listener.executorOptions.fullAt listener.pendingMessages.length := rfl
  unfold enqueuePendingMessageLocked DdsReaderExecutorOptions.overflowQueue
  cases policy : listener.executorOptions.overflowPolicy with
  | dropNewest =>
    cases isFull : listener.executorOptions.fullAt listener.pendingMessages.length with
    | true =>
      simp only [receivedEq, policy, fullEq, isFull, if_true]
      exact recordDropLocked_eq 1 { listener with metrics := received }
    | false =>
      simp only [receivedEq, policy, fullEq, isFull, Bool.false_eq_true, if_false]
      exact recordWatermarkLocked_eq (pushBack message { listener with metrics := received })
  | dropOldest =>
    cases isFull : listener.executorOptions.fullAt listener.pendingMessages.length with
    | true =>
      obtain ⟨dropped, droppedEq⟩ := recordDropLocked_eq 1
        { listener with metrics := received, pendingMessages := listener.pendingMessages.tail }
      simp only [receivedEq, policy, fullEq, isFull, if_true, droppedEq, List.drop_one]
      exact recordWatermarkLocked_eq (pushBack message
        { listener with metrics := dropped, pendingMessages := listener.pendingMessages.tail })
    | false =>
      simp only [receivedEq, policy, fullEq, isFull, Bool.false_eq_true, if_false,
        List.drop_zero]
      exact recordWatermarkLocked_eq (pushBack message { listener with metrics := received })
  | latestOnly =>
    cases queue : listener.pendingMessages with
    | nil =>
      simp only [receivedEq, policy, queue, List.isEmpty_nil, Bool.not_true, Bool.false_eq_true,
        if_false]
      exact recordWatermarkLocked_eq (pushBack message
        { listener with metrics := received, pendingMessages := [] })
    | cons front rest =>
      obtain ⟨dropped, droppedEq⟩ :=
        recordDropLocked_eq (front :: rest).length { listener with metrics := received }
      rw [queue] at droppedEq
      simp only [receivedEq, policy, queue, List.isEmpty_cons, Bool.not_false, if_true, droppedEq]
      exact recordWatermarkLocked_eq (pushBack message
        { listener with metrics := dropped, pendingMessages := [] })

/-- The pending queue after a batch. -/
def batchQueue (options : DdsReaderExecutorOptions) {Item : Type} (queue : List Item)
    (batch : List Item) : List Item :=
  batch.foldl (fun queue item => options.overflowQueue queue item) queue

/-- A batch is enqueued by applying the policy to each of its messages in turn. -/
theorem enqueueBatch_eq (ready : List (Received Msg)) (listener : DdsReaderListener Msg User) :
    ∃ metrics, listener.enqueueBatch ready =
      { listener with
        metrics := metrics
        pendingMessages :=
          batchQueue listener.executorOptions listener.pendingMessages ready } := by
  induction ready generalizing listener with
  | nil => exact ⟨listener.metrics, rfl⟩
  | cons message rest inductionHypothesis =>
    obtain ⟨metrics, enqueued⟩ := enqueuePendingMessageLocked_eq message listener
    obtain ⟨final, batch⟩ := inductionHypothesis (listener.enqueuePendingMessageLocked message)
    refine ⟨final, batch.trans ?_⟩
    rw [enqueued]
    rfl

variable {ready : List (Received Msg)} {listener next : DdsReaderListener Msg User}
  {shouldSchedule : Bool}

/-- A batch that is not refused changes the queue by the policy, and otherwise only the metrics
and whether a drain is scheduled. -/
theorem onDataAvailableLocked_eq
    (offered : listener.onDataAvailableLocked ready = some (shouldSchedule, next)) :
    ∃ metrics scheduled, next =
      { listener with
        metrics := metrics
        pendingMessages := batchQueue listener.executorOptions listener.pendingMessages ready
        callbackScheduled := scheduled } := by
  obtain ⟨metrics, batch⟩ := enqueueBatch_eq ready listener
  obtain ⟨_, ⟨_, _, rfl⟩ | ⟨_, rfl, _⟩⟩ := onDataAvailableLocked_some offered
  · exact ⟨metrics, true, by rw [batch]⟩
  · exact ⟨metrics, listener.callbackScheduled, batch⟩

theorem onDataAvailableLocked_queue
    (offered : listener.onDataAvailableLocked ready = some (shouldSchedule, next)) :
    next.pendingMessages =
      batchQueue listener.executorOptions listener.pendingMessages ready := by
  obtain ⟨metrics, scheduled, rfl⟩ := onDataAvailableLocked_eq offered
  rfl

end DdsReaderListener

/-! ### Removals -/

/-- One message the overflow policy removed: the message, the one being enqueued, and the queue
the policy saw. -/
structure Removal (Msg : Type) where
  victim : Received Msg
  incoming : Received Msg
  queue : List (Received Msg)

/-- The removals recorded while a batch is enqueued. -/
def batchRemovals (options : DdsReaderExecutorOptions) (queue : List (Received Msg)) :
    List (Received Msg) → List (Removal Msg)
  | [] => []
  | message :: rest =>
    (options.overflowVictims queue message).map (fun victim => ⟨victim, message, queue⟩) ++
      batchRemovals options (options.overflowQueue queue message) rest

/-- What the policy must have seen to remove a message: a full queue, and the message refused
or at its front; or, when only the latest is kept, the message in the queue. -/
def Removal.Justified (options : DdsReaderExecutorOptions) (removal : Removal Msg) : Prop :=
  match options.overflowPolicy with
  | .dropNewest => options.fullAt removal.queue.length = true ∧ removal.victim = removal.incoming
  | .dropOldest =>
    options.fullAt removal.queue.length = true ∧ removal.queue.head? = some removal.victim
  | .latestOnly => removal.victim ∈ removal.queue

theorem overflowVictims_justified {options : DdsReaderExecutorOptions}
    {queue : List (Received Msg)} {message victim : Received Msg}
    (member : victim ∈ options.overflowVictims queue message) :
    Removal.Justified options ⟨victim, message, queue⟩ := by
  unfold DdsReaderExecutorOptions.overflowVictims at member
  unfold Removal.Justified
  split at member
  · split at member
    · rename_i full
      exact ⟨full, List.mem_singleton.mp member⟩
    · exact absurd member List.not_mem_nil
  · split at member
    · rename_i full
      refine ⟨full, ?_⟩
      cases queue with
      | nil => exact absurd member List.not_mem_nil
      | cons front rest =>
        rw [List.take_succ_cons, List.take_zero, List.mem_singleton] at member
        rw [member, List.head?_cons]
    · exact absurd member List.not_mem_nil
  · exact member

/-- Every removal of a batch is justified by the queue the policy saw. -/
theorem batchRemovals_justified (options : DdsReaderExecutorOptions)
    {queue batch : List (Received Msg)} :
    ∀ removal ∈ batchRemovals options queue batch, removal.Justified options := by
  induction batch generalizing queue with
  | nil => exact fun _ member => absurd member List.not_mem_nil
  | cons message rest inductionHypothesis =>
    intro removal member
    rcases List.mem_append.mp member with now | later
    · obtain ⟨victim, victimMember, rfl⟩ := List.mem_map.mp now
      exact overflowVictims_justified victimMember
    · exact inductionHypothesis removal later

/-- An unbounded queue that does not keep only the latest message records no removal. -/
theorem batchRemovals_unbounded {options : DdsReaderExecutorOptions}
    (unbounded : options.queueCapacity = 0) (keeps : options.overflowPolicy ≠ .latestOnly)
    (queue batch : List (Received Msg)) : batchRemovals options queue batch = [] := by
  induction batch generalizing queue with
  | nil => rfl
  | cons message rest inductionHypothesis =>
    simp only [batchRemovals, DdsReaderExecutorOptions.overflowVictims_unbounded unbounded keeps,
      List.map_nil, List.nil_append, inductionHypothesis]

/-- Enqueuing a batch is a sequence of offers to the ledger. -/
theorem batch_steps (options : DdsReaderExecutorOptions) (batch : List (Received Msg))
    (ledger : Ledger (Received Msg)) :
    Ledger.Steps options.rule ledger
      { ledger with
        offered := ledger.offered ++ batch
        pending := DdsReaderListener.batchQueue options ledger.pending batch
        removed := ledger.removed ++
          (batchRemovals options ledger.pending batch).map Removal.victim } := by
  induction batch generalizing ledger with
  | nil =>
    simp only [batchRemovals, List.map_nil, List.append_nil]
    exact Relation.ReflTransGen.refl
  | cons message rest inductionHypothesis =>
    have first : Ledger.Step options.rule ledger _ := .offer message _ _ ⟨rfl, rfl⟩
    refine Relation.ReflTransGen.head first ?_
    have victims : ∀ queue, (((options.overflowVictims queue message).map fun victim =>
        (⟨victim, message, queue⟩ : Removal Msg)).map Removal.victim) =
          options.overflowVictims queue message := by
      intro queue
      rw [List.map_map]
      exact List.map_id _
    have tail := inductionHypothesis
      { ledger with
        offered := ledger.offered ++ [message]
        pending := options.overflowQueue ledger.pending message
        removed := ledger.removed ++ options.overflowVictims ledger.pending message }
    simp only [List.append_assoc, List.singleton_append] at tail
    simp only [batchRemovals, List.map_append, victims]
    exact tail

end Booster.Common
