/-
This file models the state of `DdsReaderListener` and its critical sections.

Each function below is one critical section under `mutex_`, or one of the
unlocked computations between two of them, written as a function on the members
of the listener. What the threads do between the critical sections is the
subject of `ListenerWorld`.

Times are integers of nanoseconds, as both clocks of the source count them;
counters are natural numbers. A message in the queue carries, besides what
`PendingMessage` holds, its position in the sequence of valid samples taken from
the reader. Nothing in the model reads the position; the delivery theorems are
stated with it.
-/

import Mathlib.Data.List.Basic
import Mathlib.Tactic.Common

namespace Booster.Common

/-! ### Options, metrics and messages -/

inductive DdsExecutorOverflowPolicy where
  | dropNewest
  | dropOldest
  | latestOnly
  deriving DecidableEq

inductive DdsExecutorDispatchMode where
  | shared
  | dedicated
  deriving DecidableEq

/-- A capacity of 0 means unbounded. -/
structure DdsReaderExecutorOptions where
  queueCapacity : Nat := 64
  overflowPolicy : DdsExecutorOverflowPolicy := .dropOldest
  enableMetrics : Bool := false
  dispatchMode : DdsExecutorDispatchMode := .shared
  enableRealtimeListener : Bool := false

structure DdsReaderExecutorMetrics where
  samplesReceived : Nat := 0
  samplesDropped : Nat := 0
  callbacksExecuted : Nat := 0
  currentQueueSize : Nat := 0
  queueHighWatermark : Nat := 0
  maxQueueLatencyUs : Nat := 0
  maxCallbackDurationUs : Nat := 0

/-- `rtps::Time_t`. -/
structure RtpsTime where
  seconds : Int
  nanosec : Nat

/-- `Time_t::to_ns`: the stored time as nanoseconds, including the seconds. -/
def RtpsTime.toNs (time : RtpsTime) : Int := time.seconds * 1000000000 + time.nanosec

/-- `DdsSampleInfo`, as far as the listener reads it. -/
structure DdsSampleInfo where
  validData : Bool
  sourceTimestamp : RtpsTime
  receptionTimestamp : RtpsTime

structure PendingMessage (Msg : Type) where
  message : Msg
  sampleInfo : DdsSampleInfo
  listenerEnterSteadyTime : Int
  listenerEnterSystemTime : Int
  enqueuedAt : Int
  enqueuedSystemTime : Int

/-- A pending message with its position among the valid samples taken from the reader. -/
structure Received (Msg : Type) extends PendingMessage Msg where
  position : Nat

structure DdsMessageContext where
  listenerEnterSteadyTime : Int
  listenerEnterSystemTime : Int
  ddsRxSteadyTime : Int
  ddsRxSystemTime : Int
  callbackStartSteadyTime : Int
  callbackStartSystemTime : Int
  listenerEnterToDdsRxDelay : Int
  ddsRxToCallbackDelay : Int
  queueSizeBeforeCallback : Nat
  queueSizeAfterPop : Nat
  hasSourceTimestamp : Bool
  sourceTimestampSystemTime : Int
  hasReceptionTimestamp : Bool
  receptionTimestampSystemTime : Int

/-- `DdsReaderCallback`. The handler may read the current message context, and acts on the
state of the application. -/
structure DdsReaderCallback (Msg User : Type) where
  handler : Option (Msg → DdsMessageContext → User → User)

def DdsReaderCallback.hasMessageHandler {Msg User : Type}
    (callback : DdsReaderCallback Msg User) : Bool := callback.handler.isSome

/-- What the handler does to the application. -/
def DdsReaderCallback.onDataAvailable {Msg User : Type} (callback : DdsReaderCallback Msg User)
    (message : Msg) (context : DdsMessageContext) (user : User) : User :=
  match callback.handler with
  | some handler => handler message context user
  | none => user

/-! ### The members of the listener -/

/-- The members of `DdsReaderListener`. `dedicatedExecutor` tells whether
`dedicated_executor_` is set; the executor itself belongs to the world. -/
structure DdsReaderListener (Msg User : Type) where
  pendingMessages : List (Received Msg) := []
  stopRequested : Bool := false
  callbackScheduled : Bool := false
  listenerThreadConfigured : Bool := false
  executorOptions : DdsReaderExecutorOptions := {}
  metrics : DdsReaderExecutorMetrics := {}
  cb : Option (DdsReaderCallback Msg User) := none
  dedicatedExecutor : Bool := false

namespace DdsReaderListener

variable {Msg User : Type}

/-- The body of `~DdsReaderListener`. -/
def destroy (listener : DdsReaderListener Msg User) : DdsReaderListener Msg User :=
  { listener with stopRequested := true, pendingMessages := [], callbackScheduled := false }

/-- `SetCallback`: a callback without a handler is refused. -/
def setCallback (callback : DdsReaderCallback Msg User) (listener : DdsReaderListener Msg User) :
    DdsReaderListener Msg User :=
  if callback.hasMessageHandler then { listener with cb := some callback } else listener

/-- `SetExecutorOptions`. -/
def setExecutorOptions (options : DdsReaderExecutorOptions)
    (listener : DdsReaderListener Msg User) : DdsReaderListener Msg User :=
  { listener with
    executorOptions := options
    dedicatedExecutor := decide (options.dispatchMode = .dedicated) }

/-- `GetExecutorMetrics`. -/
def getExecutorMetrics (listener : DdsReaderListener Msg User) : DdsReaderExecutorMetrics :=
  { listener.metrics with currentQueueSize := listener.pendingMessages.length }

/-- `ApplyRealtimeListenerThreadConfigOnce`; configuring the thread touches nothing else. -/
def applyRealtimeListenerThreadConfigOnce (listener : DdsReaderListener Msg User) :
    DdsReaderListener Msg User :=
  if listener.listenerThreadConfigured || !listener.executorOptions.enableRealtimeListener then
    listener
  else { listener with listenerThreadConfigured := true }

def recordDropLocked (dropCount : Nat) (listener : DdsReaderListener Msg User) :
    DdsReaderListener Msg User :=
  if listener.executorOptions.enableMetrics then
    { listener with metrics :=
        { listener.metrics with
          samplesDropped := listener.metrics.samplesDropped + dropCount } }
  else listener

/-- The first lines of `EnqueuePendingMessageLocked`. -/
def recordReceivedLocked (listener : DdsReaderListener Msg User) : DdsReaderListener Msg User :=
  if listener.executorOptions.enableMetrics then
    { listener with metrics :=
        { listener.metrics with samplesReceived := listener.metrics.samplesReceived + 1 } }
  else listener

/-- The last lines of `EnqueuePendingMessageLocked`. -/
def recordWatermarkLocked (listener : DdsReaderListener Msg User) : DdsReaderListener Msg User :=
  if listener.executorOptions.enableMetrics then
    { listener with metrics :=
        { listener.metrics with
          queueHighWatermark :=
            max listener.metrics.queueHighWatermark listener.pendingMessages.length } }
  else listener

def pushBack (message : Received Msg) (listener : DdsReaderListener Msg User) :
    DdsReaderListener Msg User :=
  { listener with pendingMessages := listener.pendingMessages ++ [message] }

/-- `capacity > 0 && pending_messages_.size() >= capacity`. -/
def full (listener : DdsReaderListener Msg User) : Bool :=
  decide (0 < listener.executorOptions.queueCapacity ∧
    listener.executorOptions.queueCapacity ≤ listener.pendingMessages.length)

def enqueuePendingMessageLocked (message : Received Msg)
    (listener : DdsReaderListener Msg User) : DdsReaderListener Msg User :=
  let listener := listener.recordReceivedLocked
  match listener.executorOptions.overflowPolicy with
  | .dropNewest =>
    if listener.full then listener.recordDropLocked 1
    else (listener.pushBack message).recordWatermarkLocked
  | .dropOldest =>
    let listener :=
      if listener.full then
        recordDropLocked 1 { listener with pendingMessages := listener.pendingMessages.tail }
      else listener
    (listener.pushBack message).recordWatermarkLocked
  | .latestOnly =>
    let listener :=
      if !listener.pendingMessages.isEmpty then
        { listener.recordDropLocked listener.pendingMessages.length with pendingMessages := [] }
      else listener
    (listener.pushBack message).recordWatermarkLocked

/-- The loop of `on_data_available` over the samples it has taken. -/
def enqueueBatch (ready : List (Received Msg)) (listener : DdsReaderListener Msg User) :
    DdsReaderListener Msg User :=
  ready.foldl (fun listener message => listener.enqueuePendingMessageLocked message) listener

/-- The critical section of `on_data_available`: `none` when the listener is stopped, else the
new state and `should_schedule`. -/
def onDataAvailableLocked (ready : List (Received Msg)) (listener : DdsReaderListener Msg User) :
    Option (Bool × DdsReaderListener Msg User) :=
  if listener.stopRequested then none
  else
    let listener := listener.enqueueBatch ready
    if !listener.callbackScheduled && !listener.pendingMessages.isEmpty then
      some (true, { listener with callbackScheduled := true })
    else some (false, listener)

/-- What the critical section of `ExecutePendingCallbacks` copies out for one callback. -/
structure Popped (Msg User : Type) where
  pendingMessage : Received Msg
  cb : Option (DdsReaderCallback Msg User)
  metricsEnabled : Bool
  pendingQueueSizeBeforeCallback : Nat
  pendingQueueSizeAfterPop : Nat

/-- The critical section of `ExecutePendingCallbacks`: `none` when the loop returns. -/
def executePendingCallbacksLocked (listener : DdsReaderListener Msg User) :
    Option (Popped Msg User) × DdsReaderListener Msg User :=
  if listener.stopRequested then (none, { listener with callbackScheduled := false })
  else
    match listener.pendingMessages with
    | [] => (none, { listener with callbackScheduled := false })
    | message :: rest =>
      (some {
        pendingMessage := message
        cb := listener.cb
        metricsEnabled := listener.executorOptions.enableMetrics
        pendingQueueSizeBeforeCallback := listener.pendingMessages.length
        pendingQueueSizeAfterPop := rest.length },
      { listener with pendingMessages := rest })

/-- `IsValidRtpsSystemTime`. -/
def isValidRtpsSystemTime (time : RtpsTime) : Bool := decide (0 ≤ time.seconds)

/-- A timestamp of the context: set when it is valid, else the default time point. -/
def contextTimestamp (time : RtpsTime) : Int := if isValidRtpsSystemTime time then time.toNs else 0

/-- The context `ExecutePendingCallbacks` builds for a callback started at the given times. -/
def Popped.context (popped : Popped Msg User) (callbackStartSteady callbackStartSystem : Int) :
    DdsMessageContext where
  listenerEnterSteadyTime := popped.pendingMessage.listenerEnterSteadyTime
  listenerEnterSystemTime := popped.pendingMessage.listenerEnterSystemTime
  ddsRxSteadyTime := popped.pendingMessage.enqueuedAt
  ddsRxSystemTime := popped.pendingMessage.enqueuedSystemTime
  callbackStartSteadyTime := callbackStartSteady
  callbackStartSystemTime := callbackStartSystem
  listenerEnterToDdsRxDelay :=
    popped.pendingMessage.enqueuedAt - popped.pendingMessage.listenerEnterSteadyTime
  ddsRxToCallbackDelay := callbackStartSteady - popped.pendingMessage.enqueuedAt
  queueSizeBeforeCallback := popped.pendingQueueSizeBeforeCallback
  queueSizeAfterPop := popped.pendingQueueSizeAfterPop
  hasSourceTimestamp := isValidRtpsSystemTime popped.pendingMessage.sampleInfo.sourceTimestamp
  sourceTimestampSystemTime := contextTimestamp popped.pendingMessage.sampleInfo.sourceTimestamp
  hasReceptionTimestamp :=
    isValidRtpsSystemTime popped.pendingMessage.sampleInfo.receptionTimestamp
  receptionTimestampSystemTime :=
    contextTimestamp popped.pendingMessage.sampleInfo.receptionTimestamp

/-- `duration_cast<microseconds>(..).count()` of a duration in nanoseconds, which truncates
towards zero. -/
def microseconds (duration : Int) : Int := duration.tdiv 1000

/-- `static_cast<uint64_t>`. -/
def castUint64 (value : Int) : Nat := (BitVec.ofInt 64 value).toNat

/-- The bookkeeping after a callback, when metrics are enabled. -/
def recordCallbackLocked (popped : Popped Msg User) (callbackStartSteady callbackEnd : Int)
    (listener : DdsReaderListener Msg User) : DdsReaderListener Msg User :=
  let queueLatencyUs := microseconds (callbackStartSteady - popped.pendingMessage.enqueuedAt)
  let callbackDurationUs := microseconds (callbackEnd - callbackStartSteady)
  { listener with metrics :=
      { listener.metrics with
        callbacksExecuted := listener.metrics.callbacksExecuted + 1
        currentQueueSize := popped.pendingQueueSizeAfterPop
        maxQueueLatencyUs := max listener.metrics.maxQueueLatencyUs (castUint64 queueLatencyUs)
        maxCallbackDurationUs :=
          max listener.metrics.maxCallbackDurationUs (castUint64 callbackDurationUs) } }

/-! ### What the critical sections do -/

/-- Configuring the thread touches only the flag that says it was done. -/
theorem applyRealtimeListenerThreadConfigOnce_eq (listener : DdsReaderListener Msg User) :
    ∃ configured, listener.applyRealtimeListenerThreadConfigOnce =
      { listener with listenerThreadConfigured := configured } := by
  unfold applyRealtimeListenerThreadConfigOnce
  split
  · exact ⟨listener.listenerThreadConfigured, rfl⟩
  · exact ⟨true, rfl⟩

/-- The drain loop returns exactly when the listener is stopped or its queue is empty, and
clears the flag. -/
theorem executePendingCallbacksLocked_none {listener next : DdsReaderListener Msg User}
    (left : listener.executePendingCallbacksLocked = (none, next)) :
    (listener.stopRequested = true ∨ listener.pendingMessages = []) ∧
      next = { listener with callbackScheduled := false } := by
  unfold executePendingCallbacksLocked at left
  split at left
  · rename_i stopped
    cases left
    exact ⟨Or.inl stopped, rfl⟩
  · split at left
    · rename_i empty
      cases left
      exact ⟨Or.inr empty, rfl⟩
    · cases left

/-- Otherwise it pops the front message. -/
theorem executePendingCallbacksLocked_some {listener next : DdsReaderListener Msg User}
    {popped : Popped Msg User}
    (taken : listener.executePendingCallbacksLocked = (some popped, next)) :
    listener.stopRequested = false ∧ ∃ message rest,
      listener.pendingMessages = message :: rest ∧
      popped = ⟨message, listener.cb, listener.executorOptions.enableMetrics, rest.length + 1,
        rest.length⟩ ∧
      next = { listener with pendingMessages := rest } := by
  unfold executePendingCallbacksLocked at taken
  split at taken
  · cases taken
  · rename_i running
    split at taken
    · cases taken
    · rename_i message rest front
      cases taken
      refine ⟨by simpa using running, message, rest, front, ?_, rfl⟩
      rw [front, List.length_cons]

/-- A batch is refused exactly by a stopped listener. -/
theorem onDataAvailableLocked_none {ready : List (Received Msg)}
    {listener : DdsReaderListener Msg User}
    (refused : listener.onDataAvailableLocked ready = none) : listener.stopRequested = true := by
  unfold onDataAvailableLocked at refused
  split at refused
  · assumption
  · simp only at refused
    split at refused <;> cases refused

/-- A batch that is not refused is enqueued; a drain is scheduled exactly when none is and the
queue has a message. -/
theorem onDataAvailableLocked_some {ready : List (Received Msg)}
    {listener next : DdsReaderListener Msg User} {shouldSchedule : Bool}
    (offered : listener.onDataAvailableLocked ready = some (shouldSchedule, next)) :
    listener.stopRequested = false ∧
    (shouldSchedule = true ∧ (listener.enqueueBatch ready).callbackScheduled = false ∧
        next = { listener.enqueueBatch ready with callbackScheduled := true } ∨
      shouldSchedule = false ∧ next = listener.enqueueBatch ready ∧
        ((listener.enqueueBatch ready).callbackScheduled = true ∨
          (listener.enqueueBatch ready).pendingMessages = [])) := by
  unfold onDataAvailableLocked at offered
  split at offered
  · cases offered
  · rename_i running
    refine ⟨by simpa using running, ?_⟩
    simp only at offered
    split at offered
    · rename_i idle
      cases offered
      rw [Bool.and_eq_true, Bool.not_eq_true'] at idle
      exact Or.inl ⟨rfl, idle.1, rfl⟩
    · rename_i busy
      cases offered
      refine Or.inr ⟨rfl, rfl, ?_⟩
      rw [Bool.and_eq_true, not_and_or] at busy
      simpa using busy

end DdsReaderListener

end Booster.Common
