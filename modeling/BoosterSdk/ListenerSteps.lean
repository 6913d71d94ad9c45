/-
This file says once what each step of the listener world does.

Every step function of `ListenerWorld` has an inversion here, an inductive
relation with one constructor for each thing the function can do, so that an
invariant is proved by cases on the constructors and never by unfolding a step.
The frame facts that many invariants share follow: which steps touch the
listener, the reference count, the queues of the executors, and the histories.
-/

import BoosterSdk.ListenerWorld

namespace Booster.Common

open Interleaving

variable {Msg User : Type}

/-! ### Inversions -/

/-- Giving up a reference. -/
inductive Releases (self : ThreadId) (world : World Msg User) :
    Option DestroyPhase → World Msg User → Prop where
  | shared (more : world.useCount ≠ 1) :
      Releases self world none { world with useCount := world.useCount - 1 }
  | last (one : world.useCount = 1) (alone : world.listener.dedicatedExecutor = false) :
      Releases self world none { world with useCount := 0, listener := world.listener.destroy }
  | lastDedicated (one : world.useCount = 1)
      (owns : world.listener.dedicatedExecutor = true) :
      Releases self world (some .stopping)
        { world with
          useCount := 0
          listener := world.listener.destroy
          destroyer := some self }

theorem releases_cases (self : ThreadId) (world : World Msg User) :
    Releases self world (world.release self).1 (world.release self).2 := by
  unfold World.release
  split
  · rename_i one
    simp only
    split
    · rename_i owns
      exact .lastDedicated one owns
    · rename_i alone
      exact .last one (by simpa using alone)
  · rename_i more
    exact .shared more

/-- A step of `~DdsDedicatedCallbackExecutor`. -/
inductive DestroyActs (self : ThreadId) (world : World Msg User) :
    DestroyPhase → Option DestroyPhase → World Msg User → Prop where
  | stop : DestroyActs self world .stopping (some .notifying)
      (world.setExecutor .dedicated (world.executors .dedicated).requestStop)
  | notifyAll : DestroyActs self world .notifying (some .joining)
      (world.setExecutor .dedicated (world.executors .dedicated).notifyAll)
  | join (joined : (world.executors .dedicated).join self = .done) :
      DestroyActs self world .joining none world
  | selfJoin (joined : (world.executors .dedicated).join self = .selfJoin) :
      DestroyActs self world .joining (some .joining) { world with terminated := true }

theorem destroyAct_cases {self : ThreadId} {world world' : World Msg User}
    {phase : DestroyPhase} {phase' : Option DestroyPhase}
    (acted : world.destroyAct self phase = some (phase', world')) :
    DestroyActs self world phase phase' world' := by
  cases phase with
  | stopping =>
    cases acted
    exact .stop
  | notifying =>
    cases acted
    exact .notifyAll
  | joining =>
    simp only [World.destroyAct] at acted
    split at acted
    · rename_i joined
      cases acted
      exact .join joined
    · cases acted
    · rename_i joined
      cases acted
      exact .selfJoin joined

/-- A step of `CloseReader`. -/
inductive CloseActs (self : ThreadId) (world : World Msg User) :
    ClosePhase → ClosePhase → World Msg User → Prop where
  | call (first : world.closeCalled = false) :
      CloseActs self world .calling .deleting { world with closeCalled := true }
  | again (returned : world.closeReturned = true) :
      CloseActs self world .calling .returned world
  | delete : CloseActs self world .deleting .resetting { world with readerDeleted := true }
  | reset (phase : Option DestroyPhase) (world' : World Msg User)
      (released : Releases self { world with channelHolds := false } phase world') :
      CloseActs self world .resetting (phase.elim .returning .destroying) world'
  | destroy (phase : DestroyPhase) (phase' : Option DestroyPhase) (world' : World Msg User)
      (destroyed : DestroyActs self world phase phase' world') :
      CloseActs self world (.destroying phase) (phase'.elim .returning .destroying) world'
  | returns : CloseActs self world .returning .returned { world with closeReturned := true }

theorem closeAct_cases {self : ThreadId} {world world' : World Msg User}
    {phase phase' : ClosePhase} (acted : world.closeAct self phase = some (phase', world')) :
    CloseActs self world phase phase' world' := by
  cases phase with
  | calling =>
    simp only [World.closeAct] at acted
    split at acted
    · rename_i first
      cases acted
      exact .call (by simpa using first)
    · split at acted
      · rename_i _ returned
        cases acted
        exact .again returned
      · cases acted
  | deleting =>
    cases acted
    exact .delete
  | resetting =>
    have released := releases_cases self { world with channelHolds := false }
    simp only [World.closeAct] at acted
    split at acted <;> rename_i result
    · cases acted
      rw [result] at released
      exact .reset (some _) _ released
    · cases acted
      rw [result] at released
      exact .reset none _ released
  | destroying phase =>
    simp only [World.closeAct] at acted
    obtain ⟨⟨phase'', world''⟩, destroyed, result⟩ := Option.map_eq_some_iff.mp acted
    have acts := CloseActs.destroy phase phase'' world'' (destroyAct_cases destroyed)
    cases phase'' with
    | none =>
      cases result
      exact acts
    | some phase'' =>
      cases result
      exact acts
  | returning =>
    cases acted
    exact .returns
  | returned => cases acted

/-- A step of `on_data_available`. -/
inductive CallActs (world : World Msg User) :
    CallPhase Msg → CallPhase Msg → World Msg User → Prop where
  | refuse (phase : CallPhase Msg) (entering : phase = .entered) :
      CallActs world phase .returned world
  | enter (alive : 0 < world.useCount) (callback : world.listener.cb.isSome = true) :
      CallActs world .entered .configuring world
  | configure (alive : 0 < world.useCount) :
      CallActs world .configuring .starting
        { world with listener := world.listener.applyRealtimeListenerThreadConfigOnce }
  | start (alive : 0 < world.useCount) :
      CallActs world .starting (.taking world.steadyNow world.systemNow []) world
  | take (enterSteady enterSystem : Int) (ready : List (Received Msg)) (message : Msg)
      (info : DdsSampleInfo) (opened : world.readerDeleted = false)
      (valid : info.validData = true) :
      CallActs world (.taking enterSteady enterSystem ready)
        (.taking enterSteady enterSystem
          (ready ++ [world.receive enterSteady enterSystem message info]))
        { world with history :=
            { world.history with
              taken := world.history.taken ++
                [world.receive enterSteady enterSystem message info] } }
  | skip (enterSteady enterSystem : Int) (ready : List (Received Msg)) :
      CallActs world (.taking enterSteady enterSystem ready)
        (.taking enterSteady enterSystem ready) world
  | idle (enterSteady enterSystem : Int) :
      CallActs world (.taking enterSteady enterSystem []) .returned world
  | fill (enterSteady enterSystem : Int) (ready : List (Received Msg)) (nonempty : ready ≠ [])
      (opened : world.readerDeleted = false) :
      CallActs world (.taking enterSteady enterSystem ready) (.filled ready) world
  | abandon (ready : List (Received Msg)) (alive : 0 < world.useCount)
      (stopped : world.listener.stopRequested = true) :
      CallActs world (.filled ready) .returned world
  | offer (ready : List (Received Msg)) (alive : 0 < world.useCount) (shouldSchedule : Bool)
      (listener : DdsReaderListener Msg User)
      (offered : world.listener.onDataAvailableLocked ready = some (shouldSchedule, listener)) :
      CallActs world (.filled ready) (if shouldSchedule then .scheduling else .returned)
        { world with
          listener := listener
          history :=
            { world.history with
              offered := world.history.offered ++ ready
              removed := world.history.removed ++ batchRemovals world.listener.executorOptions
                world.listener.pendingMessages ready } }
  | schedule (alive : 0 < world.useCount) :
      CallActs world .scheduling
        (.submitting (if world.listener.executorOptions.dispatchMode = .dedicated ∧
          world.listener.dedicatedExecutor = true then .dedicated else .shared)) world
  | submit (pool : Pool) (callable : pool = .shared ∨ 0 < world.useCount) :
      CallActs world (.submitting pool) (.notifying pool) (world.submit pool .drain)
  | notify (pool : Pool) (target : Option ThreadId) (executor : Executor Task)
      (notified : (world.executors pool).notifyOne target = some executor) :
      CallActs world (.notifying pool) .returned (world.setExecutor pool executor)

theorem callAct_cases {choice : Choice Msg} {world world' : World Msg User}
    {phase phase' : CallPhase Msg} (acted : world.callAct choice phase = some (phase', world')) :
    CallActs world phase phase' world' := by
  unfold World.callAct at acted
  split at acted
  · rename_i callable
    split at acted
    · cases acted
      exact .refuse _ rfl
    · cases acted
      split
      · exact .refuse _ rfl
      · rename_i callback
        have attached : world.listener.cb.isSome = true := by
          simpa [Option.isSome_iff_ne_none] using callback
        exact .enter (of_decide_eq_true callable) attached
    · cases acted
      exact .configure (of_decide_eq_true callable)
    · cases acted
      exact .start (of_decide_eq_true callable)
    · split at acted
      · rename_i valid
        cases acted
        exact .take _ _ _ _ _ (by simpa [World.callDefined] using callable) valid
      · cases acted
        exact .skip _ _ _
    · rename_i ready
      cases acted
      cases ready with
      | nil => exact .idle _ _
      | cons message rest =>
        exact .fill _ _ _ (List.cons_ne_nil _ _) (by simpa [World.callDefined] using callable)
    · split at acted
      · rename_i stopped
        cases acted
        exact .abandon _ (of_decide_eq_true callable)
          (DdsReaderListener.onDataAvailableLocked_none stopped)
      · rename_i offered
        cases acted
        exact .offer _ (of_decide_eq_true callable) _ _ offered
    · cases acted
      exact .schedule (of_decide_eq_true callable)
    · rename_i pool
      cases acted
      refine .submit pool ?_
      cases pool with
      | shared => exact Or.inl rfl
      | dedicated => exact Or.inr (of_decide_eq_true callable)
    · obtain ⟨next, notified, result⟩ := Option.map_eq_some_iff.mp acted
      obtain ⟨executor, reached, rfl⟩ := Option.map_eq_some_iff.mp notified
      cases result
      exact .notify _ _ executor reached
    · cases acted
  · cases acted

/-- A step of a drain task. -/
inductive DrainActs (self : ThreadId) (world : World Msg User) :
    DrainPhase Msg User → Option (DrainPhase Msg User) → World Msg User → Prop where
  | expired (dead : world.useCount = 0) : DrainActs self world .promoting none world
  | promote (alive : 0 < world.useCount) :
      DrainActs self world .promoting (some .draining)
        { world with useCount := world.useCount + 1 }
  | leave (done : world.listener.stopRequested = true ∨ world.listener.pendingMessages = []) :
      DrainActs self world .draining (some .releasing)
        { world with listener := { world.listener with callbackScheduled := false } }
  | pop (message : Received Msg) (rest : List (Received Msg))
      (running : world.listener.stopRequested = false)
      (front : world.listener.pendingMessages = message :: rest) :
      DrainActs self world .draining
        (some (.popped ⟨message, world.listener.cb, world.listener.executorOptions.enableMetrics,
          rest.length + 1, rest.length⟩))
        { world with listener := { world.listener with pendingMessages := rest } }
  | uncalled (popped : DdsReaderListener.Popped Msg User) (absent : popped.cb = none) :
      DrainActs self world (.popped popped)
        (some (.inCallback ⟨popped, world.steadyNow, none, true, none⟩)) world
  | begin (popped : DdsReaderListener.Popped Msg User) (callback : DdsReaderCallback Msg User)
      (present : popped.cb = some callback) :
      DrainActs self world (.popped popped)
        (some (.inCallback ⟨popped, world.steadyNow,
          some (popped.context world.steadyNow world.systemNow), false, none⟩))
        { world with history :=
            { world.history with
              delivered := world.history.delivered ++ [popped.pendingMessage] } }
  | handle (popped : DdsReaderListener.Popped Msg User) (start : Int)
      (context : DdsMessageContext) (closing : Option ClosePhase)
      (outside : closing = none ∨ closing = some .returned) :
      DrainActs self world (.inCallback ⟨popped, start, some context, false, closing⟩)
        (some (.inCallback ⟨popped, start, some context, true, closing⟩))
        { world with
          user := match popped.cb with
            | some callback =>
              callback.onDataAvailable popped.pendingMessage.message context world.user
            | none => world.user
          history :=
            { world.history with
              handled := world.history.handled ++ [popped.pendingMessage] } }
  | callClose (popped : DdsReaderListener.Popped Msg User) (start : Int)
      (context : DdsMessageContext) (handled : Bool) :
      DrainActs self world (.inCallback ⟨popped, start, some context, handled, none⟩)
        (some (.inCallback ⟨popped, start, some context, handled, some .calling⟩)) world
  | close (popped : DdsReaderListener.Popped Msg User) (start : Int)
      (context : DdsMessageContext) (handled : Bool) (closing closing' : ClosePhase)
      (world' : World Msg User) (closed : CloseActs self world closing closing' world') :
      DrainActs self world (.inCallback ⟨popped, start, some context, handled, some closing⟩)
        (some (.inCallback ⟨popped, start, some context, handled, some closing'⟩)) world'
  | finish (popped : DdsReaderListener.Popped Msg User) (start : Int)
      (context : Option DdsMessageContext) (closing : Option ClosePhase)
      (finished : closing = none ∨ closing = some .returned) :
      DrainActs self world (.inCallback ⟨popped, start, context, true, closing⟩)
        (some (if popped.metricsEnabled then .recording popped start world.steadyNow
          else .draining)) world
  | record (popped : DdsReaderListener.Popped Msg User) (start callbackEnd : Int) :
      DrainActs self world (.recording popped start callbackEnd) (some .draining)
        { world with
          listener := world.listener.recordCallbackLocked popped start callbackEnd }
  | release (phase : Option DestroyPhase) (world' : World Msg User)
      (released : Releases self world phase world') :
      DrainActs self world .releasing (phase.map .destroying) world'
  | destroy (phase : DestroyPhase) (phase' : Option DestroyPhase) (world' : World Msg User)
      (destroyed : DestroyActs self world phase phase' world') :
      DrainActs self world (.destroying phase) (phase'.map .destroying) world'

theorem drainAct_cases {self : ThreadId} {choice : Choice Msg} {world world' : World Msg User}
    {phase : DrainPhase Msg User} {phase' : Option (DrainPhase Msg User)}
    (acted : world.drainAct self choice phase = some (phase', world')) :
    DrainActs self world phase phase' world' := by
  unfold World.drainAct at acted
  split at acted
  · split at acted
    · rename_i dead
      cases acted
      exact .expired dead
    · rename_i alive
      cases acted
      exact .promote (Nat.pos_of_ne_zero alive)
  · split at acted <;> rename_i result
    · obtain ⟨done, rfl⟩ := DdsReaderListener.executePendingCallbacksLocked_none result
      cases acted
      exact .leave done
    · obtain ⟨running, message, rest, front, rfl, rfl⟩ :=
        DdsReaderListener.executePendingCallbacksLocked_some result
      cases acted
      exact .pop message rest running front
  · split at acted
    · rename_i absent
      cases acted
      exact .uncalled _ absent
    · rename_i callback present
      cases acted
      exact .begin _ callback present
  · obtain ⟨outside, result⟩ := Option.ite_none_right_eq_some.mp acted
    cases result
    exact .handle _ _ _ _ outside
  · cases acted
    exact .callClose _ _ _ _
  · obtain ⟨⟨closing', next⟩, closed, result⟩ := Option.map_eq_some_iff.mp acted
    cases result
    exact .close _ _ _ _ _ closing' _ (closeAct_cases closed)
  · cases acted
    exact .finish _ _ _ _ (Or.inl rfl)
  · cases acted
    exact .finish _ _ _ _ (Or.inr rfl)
  · cases acted
    exact .record _ _ _
  · have released := releases_cases self world
    split at acted <;> rename_i result
    · cases acted
      rw [result] at released
      exact .release (some _) _ released
    · cases acted
      rw [result] at released
      exact .release none _ released
  · obtain ⟨⟨phase'', next⟩, destroyed, result⟩ := Option.map_eq_some_iff.mp acted
    cases result
    exact .destroy _ phase'' _ (destroyAct_cases destroyed)
  · cases acted

/-- A step of one thread. -/
inductive WorldActs (self : ThreadId) (world : World Msg User) :
    Thread Msg User → Thread Msg User → World Msg User → Prop where
  | tick (steady system : Int) (forward : world.steadyNow ≤ steady) :
      WorldActs self world .clock .clock { world with steadyNow := steady, systemNow := system }
  | call (phase phase' : CallPhase Msg) (world' : World Msg User)
      (acts : CallActs world phase phase' world') :
      WorldActs self world (.call phase) (.call phase') world'
  | drain (pool : Pool) (phase phase' : DrainPhase Msg User) (world' : World Msg User)
      (acts : DrainActs self world phase (some phase') world') :
      WorldActs self world (.worker pool (.running (.drain phase)))
        (.worker pool (.running (.drain phase'))) world'
  | drainEnd (pool : Pool) (phase : DrainPhase Msg User) (world' : World Msg User)
      (acts : DrainActs self world phase none world') :
      WorldActs self world (.worker pool (.running (.drain phase))) (.worker pool .ready) world'
  | otherEnd (pool : Pool) :
      WorldActs self world (.worker pool (.running .other)) (.worker pool .ready) world
  | run (pool : Pool) (phase phase' : RunPhase (Running Msg User)) (executor : Executor Task)
      (ran : (world.executors pool).Runs Running.start self phase phase' executor) :
      WorldActs self world (.worker pool phase) (.worker pool phase')
        (world.setExecutor pool executor)
  | close (phase phase' : ClosePhase) (world' : World Msg User)
      (acts : CloseActs self world phase phase' world') :
      WorldActs self world (.closer phase) (.closer phase') world'
  | post : WorldActs self world (.poster .pushing) (.poster .notifying)
      (world.submit .shared .other)
  | postNotify (target : Option ThreadId) (executor : Executor Task)
      (notified : (world.executors .shared).notifyOne target = some executor) :
      WorldActs self world (.poster .notifying) (.poster .returned)
        (world.setExecutor .shared executor)

theorem worldAct_cases {self : ThreadId} {choice : Choice Msg} {world world' : World Msg User}
    {thread thread' : Thread Msg User}
    (acted : thread.act self choice world = some (thread', world')) :
    WorldActs self world thread thread' world' := by
  unfold Thread.act at acted
  split at acted
  · split at acted
    · rename_i forward
      cases acted
      exact .tick _ _ forward
    · cases acted
  · obtain ⟨⟨phase', next⟩, called, result⟩ := Option.map_eq_some_iff.mp acted
    cases result
    exact .call _ phase' _ (callAct_cases called)
  · obtain ⟨⟨phase', next⟩, drained, result⟩ := Option.map_eq_some_iff.mp acted
    cases phase' with
    | none =>
      cases result
      exact .drainEnd _ _ _ (drainAct_cases drained)
    | some phase' =>
      cases result
      exact .drain _ _ phase' _ (drainAct_cases drained)
  · cases acted
    exact .otherEnd _
  · obtain ⟨⟨phase', executor⟩, ran, result⟩ := Option.map_eq_some_iff.mp acted
    cases result
    exact .run _ _ phase' executor (Executor.run_cases ran)
  · obtain ⟨⟨phase', next⟩, closed, result⟩ := Option.map_eq_some_iff.mp acted
    cases result
    exact .close _ phase' _ (closeAct_cases closed)
  · cases acted
    exact .post
  · obtain ⟨next, notified, result⟩ := Option.map_eq_some_iff.mp acted
    obtain ⟨executor, reached, rfl⟩ := Option.map_eq_some_iff.mp notified
    cases result
    exact .postNotify _ executor reached
  · cases acted

/-! ### What never changes -/

/-- What `SetReader` sets and nothing changes afterwards: the callback, the options and
whether there is a dedicated executor. -/
def DdsReaderListener.settings (listener : DdsReaderListener Msg User) :
    Option (DdsReaderCallback Msg User) × DdsReaderExecutorOptions × Bool :=
  (listener.cb, listener.executorOptions, listener.dedicatedExecutor)

section Settings

variable {self : ThreadId} {world world' : World Msg User}

theorem releases_settings {phase : Option DestroyPhase}
    (released : Releases self world phase world') :
    world'.listener.settings = world.listener.settings := by
  cases released <;> rfl

theorem destroyActs_settings {phase : DestroyPhase} {phase' : Option DestroyPhase}
    (acts : DestroyActs self world phase phase' world') :
    world'.listener.settings = world.listener.settings := by
  cases acts <;> rfl

theorem closeActs_settings {phase phase' : ClosePhase}
    (acts : CloseActs self world phase phase' world') :
    world'.listener.settings = world.listener.settings := by
  cases acts with
  | reset _ _ released =>
    have same := releases_settings released
    exact same
  | destroy _ _ _ destroyed => exact destroyActs_settings destroyed
  | _ => rfl

theorem callActs_settings {phase phase' : CallPhase Msg}
    (acts : CallActs world phase phase' world') :
    world'.listener.settings = world.listener.settings := by
  cases acts with
  | configure =>
    obtain ⟨configured, same⟩ :=
      DdsReaderListener.applyRealtimeListenerThreadConfigOnce_eq world.listener
    rw [same]
    rfl
  | offer ready _ _ _ offered =>
    obtain ⟨metrics, scheduled, rfl⟩ := DdsReaderListener.onDataAvailableLocked_eq offered
    rfl
  | _ => rfl

theorem drainActs_settings {phase : DrainPhase Msg User} {phase' : Option (DrainPhase Msg User)}
    (acts : DrainActs self world phase phase' world') :
    world'.listener.settings = world.listener.settings := by
  cases acts with
  | close _ _ _ _ _ _ _ closed => exact closeActs_settings closed
  | release _ _ released => exact releases_settings released
  | destroy _ _ _ destroyed => exact destroyActs_settings destroyed
  | _ => rfl

theorem worldActs_settings {thread thread' : Thread Msg User}
    (acts : WorldActs self world thread thread' world') :
    world'.listener.settings = world.listener.settings := by
  cases acts with
  | call _ _ _ acts => exact callActs_settings acts
  | drain _ _ _ _ acts => exact drainActs_settings acts
  | drainEnd _ _ _ acts => exact drainActs_settings acts
  | close _ _ _ acts => exact closeActs_settings acts
  | _ => rfl

end Settings

/-- What a reader is set up with: a callback without a handler is refused. -/
theorem Setup.listener_settings (setup : Setup Msg User) :
    setup.listener.settings =
      (if setup.callback.hasMessageHandler then some setup.callback else none,
        setup.executorOptions, decide (setup.executorOptions.dispatchMode = .dedicated)) := by
  unfold Setup.listener DdsReaderListener.setCallback
  split <;> rfl

/-- In every state a reader can reach its listener has the settings it was set up with. -/
theorem settings_reachable {setup : Setup Msg User}
    {admits : Config (World Msg User) (Thread Msg User) →
      Event (Thread Msg User) (Choice Msg) → Prop}
    {config : Config (World Msg User) (Thread Msg User)}
    (reachable : setup.system.ReachableBy admits config) :
    config.shared.listener.settings = setup.listener.settings := by
  let holds (config : Config (World Msg User) (Thread Msg User)) : Prop :=
    config.shared.listener.settings = setup.listener.settings
  have initially : holds setup.initial := rfl
  refine Program.invariant initially ?_ ?_ reachable
  · intro config thread _ same _ _
    exact same
  · intro config self choice thread thread' shared _ same _ _ acted
    exact (worldActs_settings (worldAct_cases acted)).trans same

theorem options_reachable {setup : Setup Msg User}
    {admits : Config (World Msg User) (Thread Msg User) →
      Event (Thread Msg User) (Choice Msg) → Prop}
    {config : Config (World Msg User) (Thread Msg User)}
    (reachable : setup.system.ReachableBy admits config) :
    config.shared.listener.executorOptions = setup.executorOptions := by
  have same := settings_reachable reachable
  rw [setup.listener_settings] at same
  exact congrArg (fun settings => settings.2.1) same

/-! ### Closing leaves the past alone -/

section Past

variable {self : ThreadId} {world world' : World Msg User}

theorem releases_past {phase : Option DestroyPhase}
    (released : Releases self world phase world') :
    world'.history = world.history ∧ world'.user = world.user := by
  cases released <;> exact ⟨rfl, rfl⟩

theorem destroyActs_past {phase : DestroyPhase} {phase' : Option DestroyPhase}
    (acts : DestroyActs self world phase phase' world') :
    world'.history = world.history ∧ world'.user = world.user := by
  cases acts <;> exact ⟨rfl, rfl⟩

theorem closeActs_past {phase phase' : ClosePhase}
    (acts : CloseActs self world phase phase' world') :
    world'.history = world.history ∧ world'.user = world.user := by
  cases acts with
  | reset _ _ released =>
    have past := releases_past released
    exact past
  | destroy _ _ _ destroyed => exact destroyActs_past destroyed
  | _ => exact ⟨rfl, rfl⟩

end Past

/-! ### What stays of the executors -/

section Kept

variable {self : ThreadId} {world world' : World Msg User} {Part : Type}
  {part : Executor Task → Part}

theorem setExecutor_self (world : World Msg User) (pool : Pool) :
    world.setExecutor pool (world.executors pool) = world := by
  unfold World.setExecutor
  rw [Function.update_eq_self]

/-- Replacing an executor by one that agrees in a part leaves that part of both. -/
theorem setExecutor_part (part : Executor Task → Part) {pool : Pool} {executor : Executor Task}
    (same : part executor = part (world.executors pool)) (other : Pool) :
    part ((world.setExecutor pool executor).executors other) = part (world.executors other) := by
  unfold World.setExecutor
  by_cases here : other = pool
  · subst here
    simp only [Function.update_self, same]
  · simp only [Function.update_of_ne here]

/-- A part of an executor that its destructor leaves as it is. -/
structure Executor.Keeps (part : Executor Task → Part) : Prop where
  stopping : ∀ executor, part executor.requestStop = part executor
  notifying : ∀ executor, part executor.notifyAll = part executor

theorem Executor.keeps_tasks : Executor.Keeps fun executor : Executor Task => executor.tasks :=
  ⟨fun _ => rfl, fun _ => rfl⟩

theorem Executor.keeps_executors :
    Executor.Keeps fun executor : Executor Task => executor.executors :=
  ⟨Executor.requestStop_executors, Executor.notifyAll_executors⟩

theorem releases_executors {phase : Option DestroyPhase}
    (released : Releases self world phase world') : world'.executors = world.executors := by
  cases released <;> rfl

theorem destroyActs_part (keeps : Executor.Keeps part) {phase : DestroyPhase}
    {phase' : Option DestroyPhase} (acts : DestroyActs self world phase phase' world')
    (pool : Pool) : part (world'.executors pool) = part (world.executors pool) := by
  cases acts with
  | stop => exact setExecutor_part part (keeps.stopping _) pool
  | notifyAll => exact setExecutor_part part (keeps.notifying _) pool
  | _ => rfl

theorem closeActs_part (keeps : Executor.Keeps part) {phase phase' : ClosePhase}
    (acts : CloseActs self world phase phase' world') (pool : Pool) :
    part (world'.executors pool) = part (world.executors pool) := by
  cases acts with
  | reset _ _ released => rw [releases_executors released]
  | destroy _ _ _ destroyed => exact destroyActs_part keeps destroyed pool
  | _ => rfl

/-- A drain task submits nothing. -/
theorem drainActs_part (keeps : Executor.Keeps part) {phase : DrainPhase Msg User}
    {phase' : Option (DrainPhase Msg User)} (acts : DrainActs self world phase phase' world')
    (pool : Pool) : part (world'.executors pool) = part (world.executors pool) := by
  cases acts with
  | close _ _ _ _ _ _ _ closed => exact closeActs_part keeps closed pool
  | release _ _ released => rw [releases_executors released]
  | destroy _ _ _ destroyed => exact destroyActs_part keeps destroyed pool
  | _ => rfl

end Kept

/-! ### Threads that start -/

/-- The listener begins running, with nothing pending and nothing scheduled. -/
theorem Setup.listener_fresh (setup : Setup Msg User) :
    setup.listener.stopRequested = false ∧ setup.listener.pendingMessages = [] ∧
      setup.listener.callbackScheduled = false := by
  unfold Setup.listener DdsReaderListener.setCallback
  split <;> exact ⟨rfl, rfl, rfl⟩

/-- The threads a run begins with are workers about to start and the clock. -/
theorem mem_initial_threads {setup : Setup Msg User} {thread : Thread Msg User}
    (member : thread ∈ setup.initial.threads) :
    (∃ pool, thread = .worker pool .starting) ∨ thread = .clock := by
  simp only [Setup.initial, List.mem_append, List.mem_singleton] at member
  rcases member with (shared | dedicated) | clock
  · exact Or.inl ⟨.shared, List.eq_of_mem_replicate shared⟩
  · split at dedicated
    · exact Or.inl ⟨.dedicated, List.mem_singleton.mp dedicated⟩
    · exact absurd dedicated List.not_mem_nil
  · exact Or.inr clock

/-- The threads the environment may start. -/
theorem spawns_cases {thread : Thread Msg User} {world : World Msg User}
    (allowed : thread.spawns world = true) :
    thread = .call .entered ∧ world.readerDeleted = false ∨ thread = .closer .calling ∨
      thread = .poster .pushing := by
  unfold Thread.spawns at allowed
  split at allowed
  · exact Or.inl ⟨rfl, by simpa using allowed⟩
  · exact Or.inr (Or.inl rfl)
  · exact Or.inr (Or.inr rfl)
  · cases allowed

/-- A weight that workers about to start and the clock do not have starts at nothing. -/
theorem tally_initial {setup : Setup Msg User} {weight : Thread Msg User → Nat}
    (worker : ∀ pool, weight (.worker pool .starting) = 0) (clock : weight .clock = 0) :
    tally weight setup.initial.threads = 0 := by
  refine tally_eq_zero.mpr fun thread member => ?_
  rcases mem_initial_threads member with ⟨pool, rfl⟩ | rfl
  · exact worker pool
  · exact clock

/-- A weight that threads about to start do not have is the same after one has started. -/
theorem tally_spawned {weight : Thread Msg User → Nat} {thread : Thread Msg User}
    {world : World Msg User} (allowed : thread.spawns world = true)
    (call : weight (.call .entered) = 0) (closer : weight (.closer .calling) = 0)
    (poster : weight (.poster .pushing) = 0) (threads : List (Thread Msg User)) :
    tally weight (threads ++ [thread]) = tally weight threads := by
  have idle : weight thread = 0 := by
    rcases spawns_cases allowed with ⟨rfl, _⟩ | rfl | rfl
    · exact call
    · exact closer
    · exact poster
  rw [tally_append, tally_cons, tally_nil, idle]
  rfl

end Booster.Common
