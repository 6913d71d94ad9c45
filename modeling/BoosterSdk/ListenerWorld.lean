/-
This file models the world of one `DdsReaderListener`: every thread that touches
it, stepping one critical section at a time in any order.

The threads are the `on_data_available` calls Fast DDS makes, the workers of the
shared pool and of the listener's dedicated executor, the thread that closes the
reader, and the threads by which other listeners submit their own tasks to the
shared pool. `DdsTopicChannel::CloseReader` may also be called by a user callback,
on the worker that runs it. The clocks are advanced by a thread of their own.

The listener is owned through shared pointers: the channel holds one until
`CloseReader` resets it, and a drain task holds one from the promotion of its weak
pointer to its end. `useCount` counts them; the thread that gives up the last one
runs the destructor of the listener and, when there is one, of the dedicated
executor, which joins its worker.

What Fast DDS promises is a guard here: no call begins once `delete_datareader`
has returned, and `take_next_sample` is not called on a deleted reader. A call
still in progress when the listener is destroyed would use a destroyed object; it
takes no further step.
-/

import BoosterSdk.ExecutorRuns
import BoosterSdk.ListenerQueue
import Mathlib.Logic.Function.Basic

namespace Booster.Common

open Interleaving

/-! ### Threads -/

/-- The two executors a listener can submit to. -/
inductive Pool where
  | shared
  | dedicated
  deriving DecidableEq

/-- A task of an executor: a drain of this listener, or a task of another listener. -/
inductive Task where
  | drain
  | other
  deriving DecidableEq

/-- Where a thread is in `~DdsDedicatedCallbackExecutor`. -/
inductive DestroyPhase where
  | stopping
  | notifying
  | joining
  deriving DecidableEq

/-- Where a thread is in `DdsTopicChannel::CloseReader`. -/
inductive ClosePhase where
  | calling
  | deleting
  | resetting
  | destroying (phase : DestroyPhase)
  | returning
  | returned
  deriving DecidableEq

/-- Where a call of `on_data_available` is. -/
inductive CallPhase (Msg : Type) where
  | entered
  | configuring
  | starting
  | taking (listenerEnterSteady listenerEnterSystem : Int) (ready : List (Received Msg))
  | filled (ready : List (Received Msg))
  | scheduling
  | submitting (pool : Pool)
  | notifying (pool : Pool)
  | returned

/-- One round of the drain loop after the pop. `context` is what the user callback gets, none
when there is no callback to call; `handled` tells whether the handler has acted, and `closing`
whether the callback has called `CloseReader`. -/
structure CallbackRun (Msg User : Type) where
  popped : DdsReaderListener.Popped Msg User
  callbackStartSteady : Int
  context : Option DdsMessageContext
  handled : Bool
  closing : Option ClosePhase

/-- Where a drain task is: promoting its weak pointer, at the head of the loop of
`ExecutePendingCallbacks`, past the pop, in the callback, about to record metrics, past the
loop and giving up its reference, or destroying what it owned. -/
inductive DrainPhase (Msg User : Type) where
  | promoting
  | draining
  | popped (popped : DdsReaderListener.Popped Msg User)
  | inCallback (run : CallbackRun Msg User)
  | recording (popped : DdsReaderListener.Popped Msg User) (callbackStartSteady callbackEnd : Int)
  | releasing
  | destroying (phase : DestroyPhase)

inductive Running (Msg User : Type) where
  | drain (phase : DrainPhase Msg User)
  | other

def Running.start {Msg User : Type} : Task → Running Msg User
  | .drain => .drain .promoting
  | .other => .other

inductive Thread (Msg User : Type) where
  | clock
  | call (phase : CallPhase Msg)
  | worker (pool : Pool) (phase : RunPhase (Running Msg User))
  | closer (phase : ClosePhase)
  | poster (phase : SubmitPhase)

/-- What the environment decides at a step: what `take_next_sample` returns, which thread a
notification reaches, what the user callback does, and how the clocks advance. -/
inductive Choice (Msg : Type) where
  | proceed
  | nullReader
  | take (message : Msg) (info : DdsSampleInfo)
  | notify (target : Option ThreadId)
  | handle
  | close
  | tick (steady system : Int)

/-! ### The world -/

/-- What has happened so far: the valid samples taken from the reader, those offered to the
queue, those handed to the user callback, those its handler has acted on, and the removals of
the overflow policy. -/
structure History (Msg : Type) where
  taken : List (Received Msg) := []
  offered : List (Received Msg) := []
  delivered : List (Received Msg) := []
  handled : List (Received Msg) := []
  removed : List (Removal Msg) := []

/-- The shared state. `destroyer` is the thread that runs `~DdsDedicatedCallbackExecutor`, and
`terminated` is set when a thread joins itself there. -/
structure World (Msg User : Type) where
  listener : DdsReaderListener Msg User
  useCount : Nat
  channelHolds : Bool
  closeCalled : Bool
  readerDeleted : Bool
  closeReturned : Bool
  executors : Pool → Executor Task
  steadyNow : Int
  systemNow : Int
  user : User
  destroyer : Option ThreadId
  terminated : Bool
  history : History Msg

variable {Msg User : Type}

namespace World

def setExecutor (pool : Pool) (executor : Executor Task) (world : World Msg User) :
    World Msg User :=
  { world with executors := Function.update world.executors pool executor }

def submit (pool : Pool) (task : Task) (world : World Msg User) : World Msg User :=
  world.setExecutor pool ((world.executors pool).submit task)

def notifyOne (pool : Pool) (target : Option ThreadId) (world : World Msg User) :
    Option (World Msg User) :=
  ((world.executors pool).notifyOne target).map fun executor => world.setExecutor pool executor

/-- A shared pointer to the listener is given up. The last one destroys the listener on this
thread, which goes on to destroy the dedicated executor when there is one. -/
def release (self : ThreadId) (world : World Msg User) :
    Option DestroyPhase × World Msg User :=
  if world.useCount = 1 then
    let destroyed := { world with useCount := 0, listener := world.listener.destroy }
    if world.listener.dedicatedExecutor then
      (some .stopping, { destroyed with destroyer := some self })
    else (none, destroyed)
  else (none, { world with useCount := world.useCount - 1 })

/-- `~DdsDedicatedCallbackExecutor`; the result has no phase when it is done. -/
def destroyAct (self : ThreadId) (phase : DestroyPhase) (world : World Msg User) :
    Option (Option DestroyPhase × World Msg User) :=
  match phase with
  | .stopping =>
    some (some .notifying,
      world.setExecutor .dedicated (world.executors .dedicated).requestStop)
  | .notifying =>
    some (some .joining, world.setExecutor .dedicated (world.executors .dedicated).notifyAll)
  | .joining =>
    match (world.executors .dedicated).join self with
    | .done => some (none, world)
    | .blocked => none
    | .selfJoin => some (some .joining, { world with terminated := true })

/-- `CloseReader`. A call after one that has returned finds null members and does nothing; two
calls at once would race on the members of the channel and are left out. -/
def closeAct (self : ThreadId) (phase : ClosePhase) (world : World Msg User) :
    Option (ClosePhase × World Msg User) :=
  match phase with
  | .calling =>
    if !world.closeCalled then some (.deleting, { world with closeCalled := true })
    else if world.closeReturned then some (.returned, world)
    else none
  | .deleting => some (.resetting, { world with readerDeleted := true })
  | .resetting =>
    match release self { world with channelHolds := false } with
    | (some phase, world) => some (.destroying phase, world)
    | (none, world) => some (.returning, world)
  | .destroying phase =>
    (world.destroyAct self phase).map fun (phase, world) =>
      match phase with
      | some phase => (.destroying phase, world)
      | none => (.returning, world)
  | .returning => some (.returned, { world with closeReturned := true })
  | .returned => none

/-- Whether a call may still touch what its next step touches: the reader inside the take loop,
the shared pool once the task is made, the listener otherwise. -/
def callDefined (world : World Msg User) : CallPhase Msg → Bool
  | .taking _ _ _ => !world.readerDeleted
  | .submitting .shared => true
  | .notifying .shared => true
  | _ => decide (0 < world.useCount)

/-- The message built from a taken sample. -/
def receive (world : World Msg User) (listenerEnterSteady listenerEnterSystem : Int)
    (message : Msg) (info : DdsSampleInfo) : Received Msg where
  message := message
  sampleInfo := info
  listenerEnterSteadyTime := listenerEnterSteady
  listenerEnterSystemTime := listenerEnterSystem
  enqueuedAt := world.steadyNow
  enqueuedSystemTime := world.systemNow
  position := world.history.taken.length

/-- `on_data_available`. -/
def callAct (choice : Choice Msg) (phase : CallPhase Msg) (world : World Msg User) :
    Option (CallPhase Msg × World Msg User) :=
  if world.callDefined phase then
    match phase, choice with
    | .entered, .nullReader => some (.returned, world)
    | .entered, .proceed =>
      some (if world.listener.cb.isNone then .returned else .configuring, world)
    | .configuring, .proceed =>
      some (.starting,
        { world with listener := world.listener.applyRealtimeListenerThreadConfigOnce })
    | .starting, .proceed => some (.taking world.steadyNow world.systemNow [], world)
    | .taking enterSteady enterSystem ready, .take message info =>
      if info.validData then
        let received := world.receive enterSteady enterSystem message info
        some (.taking enterSteady enterSystem (ready ++ [received]),
          { world with history :=
              { world.history with taken := world.history.taken ++ [received] } })
      else some (.taking enterSteady enterSystem ready, world)
    | .taking _ _ ready, .proceed =>
      some (if ready.isEmpty then .returned else .filled ready, world)
    | .filled ready, .proceed =>
      match world.listener.onDataAvailableLocked ready with
      | none => some (.returned, world)
      | some (shouldSchedule, listener) =>
        some (if shouldSchedule then .scheduling else .returned,
          { world with
            listener := listener
            history :=
              { world.history with
                offered := world.history.offered ++ ready
                removed := world.history.removed ++ batchRemovals world.listener.executorOptions
                  world.listener.pendingMessages ready } })
    | .scheduling, .proceed =>
      let dedicated := world.listener.executorOptions.dispatchMode = .dedicated ∧
        world.listener.dedicatedExecutor = true
      some (.submitting (if dedicated then .dedicated else .shared), world)
    | .submitting pool, .proceed => some (.notifying pool, world.submit pool .drain)
    | .notifying pool, .notify target =>
      (world.notifyOne pool target).map fun world => (.returned, world)
    | _, _ => none
  else none

/-- A drain task: promote the weak pointer, run `ExecutePendingCallbacks`, give up the
reference. The result has no phase when the task has ended. -/
def drainAct (self : ThreadId) (choice : Choice Msg) (phase : DrainPhase Msg User)
    (world : World Msg User) : Option (Option (DrainPhase Msg User) × World Msg User) :=
  match phase, choice with
  | .promoting, .proceed =>
    if world.useCount = 0 then some (none, world)
    else some (some .draining, { world with useCount := world.useCount + 1 })
  | .draining, .proceed =>
    match world.listener.executePendingCallbacksLocked with
    | (none, listener) => some (some .releasing, { world with listener := listener })
    | (some popped, listener) => some (some (.popped popped), { world with listener := listener })
  | .popped popped, .proceed =>
    match popped.cb with
    | none => some (some (.inCallback ⟨popped, world.steadyNow, none, true, none⟩), world)
    | some _ =>
      let context := popped.context world.steadyNow world.systemNow
      some (some (.inCallback ⟨popped, world.steadyNow, some context, false, none⟩),
        { world with history :=
            { world.history with
              delivered := world.history.delivered ++ [popped.pendingMessage] } })
  | .inCallback ⟨popped, start, some context, false, closing⟩, .handle =>
    if closing = none ∨ closing = some .returned then
      let user := match popped.cb with
        | some callback => callback.onDataAvailable popped.pendingMessage.message context world.user
        | none => world.user
      some (some (.inCallback ⟨popped, start, some context, true, closing⟩),
        { world with
          user := user
          history :=
            { world.history with
              handled := world.history.handled ++ [popped.pendingMessage] } })
    else none
  | .inCallback ⟨popped, start, some context, handled, none⟩, .close =>
    some (some (.inCallback ⟨popped, start, some context, handled, some .calling⟩), world)
  | .inCallback ⟨popped, start, some context, handled, some closing⟩, .close =>
    (world.closeAct self closing).map fun (closing, world) =>
      (some (.inCallback ⟨popped, start, some context, handled, some closing⟩), world)
  | .inCallback ⟨popped, start, _, true, none⟩, .proceed
  | .inCallback ⟨popped, start, _, true, some .returned⟩, .proceed =>
    some (some (if popped.metricsEnabled then .recording popped start world.steadyNow
      else .draining), world)
  | .recording popped start callbackEnd, .proceed =>
    some (some .draining,
      { world with
        listener := world.listener.recordCallbackLocked popped start callbackEnd })
  | .releasing, .proceed =>
    match world.release self with
    | (some phase, world) => some (some (.destroying phase), world)
    | (none, world) => some (none, world)
  | .destroying phase, .proceed =>
    (world.destroyAct self phase).map fun (phase, world) => (phase.map .destroying, world)
  | _, _ => none

end World

def Thread.act (self : ThreadId) (choice : Choice Msg) (thread : Thread Msg User)
    (world : World Msg User) : Option (Thread Msg User × World Msg User) :=
  match thread, choice with
  | .clock, .tick steady system =>
    if world.steadyNow ≤ steady then
      some (.clock, { world with steadyNow := steady, systemNow := system })
    else none
  | .call phase, choice =>
    (world.callAct choice phase).map fun (phase, world) => (.call phase, world)
  | .worker pool (.running (.drain phase)), choice =>
    (world.drainAct self choice phase).map fun (phase, world) =>
      match phase with
      | some phase => (.worker pool (.running (.drain phase)), world)
      | none => (.worker pool .ready, world)
  | .worker pool (.running .other), .proceed => some (.worker pool .ready, world)
  | .worker pool phase, .proceed =>
    ((world.executors pool).run Running.start self phase).map fun (phase, executor) =>
      (.worker pool phase, world.setExecutor pool executor)
  | .closer phase, .close =>
    (world.closeAct self phase).map fun (phase, world) => (.closer phase, world)
  | .poster .pushing, .proceed => some (.poster .notifying, world.submit .shared .other)
  | .poster .notifying, .notify target =>
    (world.notifyOne .shared target).map fun world => (.poster .returned, world)
  | _, _ => none

/-- Fast DDS may call `on_data_available` until `delete_datareader` has returned; a thread may
call `CloseReader`; other listeners may submit tasks. -/
def Thread.spawns : Thread Msg User → World Msg User → Bool
  | .call .entered, world => !world.readerDeleted
  | .closer .calling, _ => true
  | .poster .pushing, _ => true
  | _, _ => false

def listenerProgram (Msg User : Type) : Program (World Msg User) (Thread Msg User) (Choice Msg)
    where
  halted world := world.terminated
  spawns := Thread.spawns
  act := Thread.act

/-- How a reader is set up: the arguments of `DdsTopicChannel::SetReader`, the size of the
shared pool, the state of the application and the time. -/
structure Setup (Msg User : Type) where
  executorOptions : DdsReaderExecutorOptions
  callback : DdsReaderCallback Msg User
  workers : Nat
  user : User
  steadyNow : Int := 0
  systemNow : Int := 0

namespace Setup

/-- The listener `SetReader` passes to `create_datareader`. -/
def listener (setup : Setup Msg User) : DdsReaderListener Msg User :=
  (({} : DdsReaderListener Msg User).setExecutorOptions setup.executorOptions).setCallback
    setup.callback

/-- The threads of the dedicated executor, created by `SetExecutorOptions`. -/
def dedicatedThreads (setup : Setup Msg User) : Finset ThreadId :=
  if setup.executorOptions.dispatchMode = .dedicated then {setup.workers} else ∅

def world (setup : Setup Msg User) : World Msg User where
  listener := setup.listener
  useCount := 1
  channelHolds := true
  closeCalled := false
  readerDeleted := false
  closeReturned := false
  executors
    | .shared => .create (Finset.range setup.workers)
    | .dedicated => .create setup.dedicatedThreads
  steadyNow := setup.steadyNow
  systemNow := setup.systemNow
  user := setup.user
  destroyer := none
  terminated := false
  history := {}

/-- The configuration in which the reader has just been set up. -/
def initial (setup : Setup Msg User) : Config (World Msg User) (Thread Msg User) where
  shared := setup.world
  threads := List.replicate setup.workers (.worker .shared .starting) ++
    (if setup.executorOptions.dispatchMode = .dedicated then [.worker .dedicated .starting]
      else []) ++ [.clock]

/-- All runs of a reader. -/
abbrev system (setup : Setup Msg User) := (listenerProgram Msg User).system setup.initial

end Setup

end Booster.Common
