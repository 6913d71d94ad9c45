/-
This file proves that the two dispatch modes of a listener cannot be told apart.

What a buffer can show, a reader with either executor can show: one worker serves the
listener, waiting for a task while nothing is pending and at the head of the drain
loop while something is. From there a batch arrives by one call of
`on_data_available`, which schedules a drain and hands it to the worker when it finds
the listener idle, and a message is handed over by one round of the loop, which ends
the drain when nothing remains. With the converse of `DispatchOutcomes` both readers
show exactly what the buffer shows.
-/

import BoosterSdk.DispatchOutcomes

namespace Booster.Common

open Interleaving LossyQueue

variable {Msg User : Type} {setup : Setup Msg User}

/-! ### Runs, step by step -/

/-- Worlds that differ neither in the executors nor in what can be seen or is scheduled. -/
structure World.Alike (world world' : World Msg User) : Prop where
  executors : world'.executors = world.executors
  scheduled : world'.listener.callbackScheduled = world.listener.callbackScheduled
  buffer : world'.buffer [] = world.buffer []

/-- The world after the critical section that enqueues a batch. -/
def World.enqueued (metrics : DdsReaderExecutorMetrics) (ready : List (Received Msg))
    (world : World Msg User) : World Msg User :=
  { world with
    listener :=
      { world.listener with
        metrics := metrics
        pendingMessages := DdsReaderListener.batchQueue world.listener.executorOptions
          world.listener.pendingMessages ready
        callbackScheduled := true }
    history :=
      { world.history with
        offered := world.history.offered ++ ready
        removed := world.history.removed ++ batchRemovals world.listener.executorOptions
          world.listener.pendingMessages ready } }

/-- A stretch of a run of an open reader, with the batches that arrive on it. -/
structure Stretch (setup : Setup Msg User) (start : Config (World Msg User) (Thread Msg User))
    (batches : List (List Msg)) (config : Config (World Msg User) (Thread Msg User)) : Prop where
  leads : setup.watched.Leads start batches config
  reachable : setup.system.ReachableBy StaysOpen config

namespace Stretch

variable {start config : Config (World Msg User) (Thread Msg User)} {batches : List (List Msg)}
  {world world' : World Msg User} {threads : List (Thread Msg User)}

/-- A thread takes a step that is none of `CloseReader`. -/
theorem act (stretch : Stretch setup start batches config) {self : ThreadId} {choice : Choice Msg}
    {thread thread' : Thread Msg User} {shared : World Msg User}
    (found : config.threads[self]? = some thread)
    (acted : thread.act self choice config.shared = some (thread', shared))
    (stays : choice ≠ .close) :
    Stretch setup start (batches ++ thread.arrivals config.shared)
      { shared := shared, threads := config.threads.set self thread' } := by
  have running : config.shared.terminated ≠ true := by
    rw [(open_reachable stretch.reachable).running]
    exact Bool.false_ne_true
  have stepped : setup.watched.step config (.act self choice) =
      some { shared := shared, threads := config.threads.set self thread' } := by
    refine (if_neg running).trans (Option.bind_eq_some_iff.mpr ⟨thread, found, ?_⟩)
    exact Option.map_eq_some_iff.mpr ⟨_, acted, rfl⟩
  have admitted : StaysOpen config (.act self choice) := by
    cases choice with
    | close => exact absurd rfl stays
    | _ => trivial
  have arrived : arrivals config (.act self choice) = thread.arrivals config.shared := by
    simp only [arrivals, found, Option.elim]
  rw [← arrived]
  exact ⟨stretch.leads.step admitted stepped, stretch.reachable.step admitted stepped⟩

/-- Fast DDS calls `on_data_available`. -/
theorem enter (stretch : Stretch setup start batches ⟨world, threads⟩) :
    Stretch setup start batches ⟨world, threads ++ [.call .entered]⟩ := by
  have opened := open_reachable stretch.reachable
  have running : world.terminated ≠ true := by
    rw [show world.terminated = false from opened.running]
    exact Bool.false_ne_true
  have allowed : Thread.spawns (.call .entered : Thread Msg User) world = true := by
    show (!world.readerDeleted) = true
    rw [show world.readerDeleted = false from opened.present]
    rfl
  have stepped : setup.watched.step ⟨world, threads⟩ (.spawn (.call .entered)) =
      some ⟨world, threads ++ [.call .entered]⟩ := (if_neg running).trans (if_pos allowed)
  have admitted : StaysOpen (⟨world, threads⟩ : Config (World Msg User) (Thread Msg User))
      (.spawn (.call .entered) : Event (Thread Msg User) (Choice Msg)) := trivial
  refine ⟨stretch.leads.silent ?_ stepped rfl, stretch.reachable.step admitted stepped⟩
  exact admitted

/-- The call of `on_data_available` that began last takes a step. -/
theorem call {phase phase' : CallPhase Msg} {choice : Choice Msg}
    (stretch : Stretch setup start batches ⟨world, threads ++ [.call phase]⟩)
    (acted : world.callAct choice phase = some (phase', world')) (stays : choice ≠ .close) :
    Stretch setup start (batches ++ (Thread.call phase : Thread Msg User).arrivals world)
      ⟨world', threads ++ [.call phase']⟩ := by
  have stepped : Thread.act threads.length choice (.call phase) world =
      some (.call phase', world') := Option.map_eq_some_iff.mpr ⟨_, acted, rfl⟩
  have replaced : (threads ++ [Thread.call phase]).set threads.length (.call phase') =
      threads ++ [.call phase'] := by
    rw [List.set_append_right _ _ (Nat.le_refl _), Nat.sub_self]
    rfl
  have after := stretch.act List.getElem?_concat_length stepped stays
  rwa [replaced] at after

/-- A call takes a step that enqueues nothing. -/
theorem callSilent {phase phase' : CallPhase Msg} {choice : Choice Msg}
    (stretch : Stretch setup start batches ⟨world, threads ++ [.call phase]⟩)
    (quiet : (Thread.call phase : Thread Msg User).arrivals world = [])
    (acted : world.callAct choice phase = some (phase', world')) (stays : choice ≠ .close) :
    Stretch setup start batches ⟨world', threads ++ [.call phase']⟩ := by
  have after := stretch.call acted stays
  rwa [quiet, List.append_nil] at after

/-- A worker takes a step. -/
theorem worker {pool : Pool} {self : ThreadId} {phase phase' : RunPhase (Running Msg User)}
    {choice : Choice Msg} (stretch : Stretch setup start batches ⟨world, threads⟩)
    (found : threads[self]? = some (.worker pool phase))
    (acted : Thread.act self choice (.worker pool phase) world =
      some (.worker pool phase', world')) (stays : choice ≠ .close) :
    Stretch setup start batches ⟨world', threads.set self (.worker pool phase')⟩ := by
  have after := stretch.act found acted stays
  rwa [show Thread.arrivals world (.worker pool phase) = [] from rfl, List.append_nil] at after

theorem callAct_starting (alive : 0 < world.useCount) :
    world.callAct .proceed .starting = some (.taking world.steadyNow world.systemNow [], world) :=
  if_pos (decide_eq_true alive)

/-- A call passes its first steps up to the loop over the samples. -/
theorem begin (stretch : Stretch setup start batches ⟨world, threads⟩)
    (accepts : setup.callback.hasMessageHandler = true) :
    ∃ world' enterSteady enterSystem, world.Alike world' ∧
      Stretch setup start batches
        ⟨world', threads ++ [.call (.taking enterSteady enterSystem [])]⟩ := by
  have entered := stretch.enter
  have alive : decide (0 < world.useCount) = true :=
    decide_eq_true (alive_of_open entered.reachable)
  have present : world.listener.cb.isNone = false := by
    have same : world.listener.cb = setup.listener.cb := (serves_reachable entered.reachable).1.1
    rw [same, ← Option.not_isSome, setup.listener_cb, accepts]
    rfl
  have first : world.callAct .proceed .entered = some (.configuring, world) := by
    refine (if_pos alive).trans ?_
    simp only [present, Bool.false_eq_true, if_false]
  have configuring := entered.callSilent rfl first nofun
  have second : world.callAct .proceed .configuring = some (.starting,
      { world with listener := world.listener.applyRealtimeListenerThreadConfigOnce }) :=
    if_pos alive
  have starting := configuring.callSilent rfl second nofun
  obtain ⟨configured, same⟩ :=
    DdsReaderListener.applyRealtimeListenerThreadConfigOnce_eq world.listener
  rw [same] at starting
  have alike : world.Alike
      { world with listener := { world.listener with listenerThreadConfigured := configured } } :=
    ⟨rfl, rfl, rfl⟩
  have third := callAct_starting (alive_of_open starting.reachable)
  exact ⟨_, _, _, alike, starting.callSilent rfl third nofun⟩

/-- The call takes the samples of a batch. -/
theorem take {enterSteady enterSystem : Int} {ready : List (Received Msg)}
    (stretch : Stretch setup start batches
      ⟨world, threads ++ [.call (.taking enterSteady enterSystem ready)]⟩) (batch : List Msg) :
    ∃ world' ready', world.Alike world' ∧ messages ready' = messages ready ++ batch ∧
      Stretch setup start batches
        ⟨world', threads ++ [.call (.taking enterSteady enterSystem ready')]⟩ := by
  induction batch generalizing world ready with
  | nil => exact ⟨world, ready, ⟨rfl, rfl, rfl⟩, (List.append_nil _).symm, stretch⟩
  | cons message rest inductionHypothesis =>
    have present : (!world.readerDeleted) = true := by
      rw [show world.readerDeleted = false from (open_reachable stretch.reachable).present]
      rfl
    let info : DdsSampleInfo := ⟨true, ⟨0, 0⟩, ⟨0, 0⟩⟩
    let received := world.receive enterSteady enterSystem message info
    have taken : world.callAct (.take message info) (.taking enterSteady enterSystem ready) =
        some (.taking enterSteady enterSystem (ready ++ [received]),
          { world with history :=
              { world.history with taken := world.history.taken ++ [received] } }) :=
      if_pos present
    obtain ⟨world', ready', alike, same, reached⟩ :=
      inductionHypothesis (stretch.callSilent rfl taken nofun)
    refine ⟨world', ready', ⟨alike.executors, alike.scheduled, alike.buffer⟩, ?_, reached⟩
    rw [same]
    exact (congrArg (· ++ rest) List.map_append).trans (List.append_assoc _ _ _)

/-- A running listener enqueues a batch, and schedules a drain unless one is scheduled. -/
theorem onDataAvailableLocked_running {listener : DdsReaderListener Msg User}
    {ready : List (Received Msg)} (running : listener.stopRequested = false)
    (kept : DdsReaderListener.batchQueue listener.executorOptions listener.pendingMessages
      ready ≠ []) :
    ∃ metrics, listener.onDataAvailableLocked ready = some (!listener.callbackScheduled,
      { listener with
        metrics := metrics
        pendingMessages := DdsReaderListener.batchQueue listener.executorOptions
          listener.pendingMessages ready
        callbackScheduled := true }) := by
  obtain ⟨metrics, batch⟩ := DdsReaderListener.enqueueBatch_eq ready listener
  have nonempty := List.isEmpty_eq_false_iff.mpr kept
  obtain ⟨_, _, callbackScheduled⟩ := listener
  cases running
  refine ⟨metrics, ?_⟩
  simp only [DdsReaderListener.onDataAvailableLocked, batch, nonempty, Bool.not_false,
    Bool.and_true, Bool.false_eq_true, if_false]
  cases callbackScheduled with
  | false => rfl
  | true => rfl

theorem callAct_filled {ready : List (Received Msg)} (alive : 0 < world.useCount)
    (running : world.listener.stopRequested = false)
    (kept : DdsReaderListener.batchQueue world.listener.executorOptions
      world.listener.pendingMessages ready ≠ []) :
    ∃ metrics, world.callAct .proceed (.filled ready) =
      some (if world.listener.callbackScheduled then .returned else .scheduling,
        world.enqueued metrics ready) := by
  obtain ⟨metrics, offered⟩ := onDataAvailableLocked_running running kept
  refine ⟨metrics, (if_pos (decide_eq_true alive)).trans ?_⟩
  simp only [offered]
  cases world.listener.callbackScheduled <;> rfl

/-- A call brings a batch to the queue. It goes on to schedule a drain unless one is
scheduled. -/
theorem offer (stretch : Stretch setup start batches ⟨world, threads⟩)
    (accepts : setup.callback.hasMessageHandler = true) {batch : List Msg} (nonempty : batch ≠ []) :
    ∃ world', world'.executors = world.executors ∧
      world'.buffer [] = (world.buffer []).arrive (setup.executorOptions.admission Msg) batch ∧
      Stretch setup start (batches ++ [batch]) ⟨world', threads ++
        [.call (if world.listener.callbackScheduled then .returned else .scheduling)]⟩ := by
  obtain ⟨first, enterSteady, enterSystem, begun, taking⟩ := stretch.begin accepts
  obtain ⟨second, ready, took, rfl, taken⟩ := taking.take batch
  have nonempty : ready ≠ [] := by
    rintro rfl
    exact nonempty rfl
  have present : (!second.readerDeleted) = true := by
    rw [show second.readerDeleted = false from (open_reachable taken.reachable).present]
    rfl
  have full : second.callAct .proceed (.taking enterSteady enterSystem ready) =
      some (.filled ready, second) := by
    refine (if_pos present).trans ?_
    simp only [List.isEmpty_eq_false_iff.mpr nonempty, Bool.false_eq_true, if_false]
  have filled := taken.callSilent rfl full nofun
  have alive := alive_of_open filled.reachable
  have running : second.listener.stopRequested = false :=
    (attended_of_open filled.reachable).running
  have kept := Admission.keptBatch_ne_nil second.listener.executorOptions.admission_keeps
    second.listener.pendingMessages nonempty
  obtain ⟨metrics, stepped⟩ := callAct_filled alive running kept
  have returned := filled.call stepped nofun
  have arrived : (Thread.call (.filled ready) : Thread Msg User).arrivals second =
      [messages ready] := by
    show (if second.listener.stopRequested then _ else _) = _
    rw [running, if_neg Bool.false_ne_true]
  have scheduled : second.listener.callbackScheduled = world.listener.callbackScheduled :=
    took.scheduled.trans begun.scheduled
  rw [arrived, scheduled] at returned
  refine ⟨second.enqueued metrics ready, took.executors.trans begun.executors, ?_, returned⟩
  have options := options_reachable filled.reachable
  rw [← took.buffer.trans begun.buffer, ← options]
  refine buffer_offer ?_ ?_ ?_ [] <;> rfl

end Stretch

/-! ### The worker that serves the listener -/

/-- The executor the listener submits to. -/
def Setup.pool (setup : Setup Msg User) : Pool :=
  if setup.executorOptions.dispatchMode = .dedicated then .dedicated else .shared

/-- The first worker of that executor. -/
def Setup.server (setup : Setup Msg User) : ThreadId :=
  if setup.executorOptions.dispatchMode = .dedicated then setup.workers else 0

/-- A thread that has nothing to do with the listener at the moment. -/
def Thread.Aside : Thread Msg User → Prop
  | .call phase => phase = .returned
  | .worker _ (.running _) => False
  | _ => True

/-- The serving worker is in a phase and everyone else is aside; no task is queued and no worker
waits. -/
structure Tended (setup : Setup Msg User) (phase : RunPhase (Running Msg User))
    (config : Config (World Msg User) (Thread Msg User)) : Prop where
  server : config.threads[setup.server]? = some (.worker setup.pool phase)
  aside : ∀ index thread, config.threads[index]? = some thread → index ≠ setup.server →
    thread.Aside
  queues : ∀ pool, (config.shared.executors pool).tasks = []
  awake : ∀ pool, (config.shared.executors pool).waiting = ∅

section Tended

variable {phase phase' : RunPhase (Running Msg User)} {world world' : World Msg User}
  {threads : List (Thread Msg User)} {config : Config (World Msg User) (Thread Msg User)}

/-- A call that has returned is aside. -/
theorem Tended.append (tended : Tended setup phase ⟨world, threads⟩)
    (same : world'.executors = world.executors) :
    Tended setup phase ⟨world', threads ++ [.call .returned]⟩ := by
  refine ⟨?_, ?_, ?_, ?_⟩
  · rw [List.getElem?_append_left (List.getElem?_eq_some_iff.mp tended.server).1]
    exact tended.server
  · intro index thread found other
    rcases found_append found with old | ⟨_, rfl⟩
    · exact tended.aside index thread old other
    · rfl
  · simp only [same]
    exact tended.queues
  · simp only [same]
    exact tended.awake

/-- The serving worker moves on. -/
theorem Tended.move (tended : Tended setup phase ⟨world, threads⟩)
    (queues : ∀ pool, (world'.executors pool).tasks = [])
    (awake : ∀ pool, (world'.executors pool).waiting = ∅) :
    Tended setup phase' ⟨world', threads.set setup.server (.worker setup.pool phase')⟩ := by
  refine ⟨?_, ?_, queues, awake⟩
  · exact List.getElem?_set_self (List.getElem?_eq_some_iff.mp tended.server).1
  · intro index thread found other
    rcases found_set found with ⟨same, _⟩ | ⟨_, old⟩
    · exact absurd same other
    · exact tended.aside index thread old other

/-- What the serving worker and everyone aside have, all threads have. -/
theorem Tended.forall {holds : Thread Msg User → Prop} (tended : Tended setup phase config)
    (server : holds (.worker setup.pool phase))
    (aside : ∀ thread : Thread Msg User, thread.Aside → holds thread) :
    ∀ thread ∈ config.threads, holds thread := by
  intro thread member
  obtain ⟨index, found⟩ := List.mem_iff_getElem?.mp member
  by_cases same : index = setup.server
  · subst same
    rw [Option.some.inj (found.symm.trans tended.server)]
    exact server
  · exact aside thread (tended.aside index thread found same)

/-- A worker that is between tasks. -/
def Between (phase : RunPhase (Running Msg User)) : Prop := phase = .starting ∨ phase = .ready

/-- While the serving worker is between tasks the listener is at rest. -/
theorem Tended.atRest (tended : Tended setup phase config) (between : Between phase) :
    AtRest config := by
  refine ⟨?_, ?_, ?_⟩
  · have returned : ∀ thread ∈ config.threads, ∀ call, thread = .call call → call = .returned := by
      refine tended.forall ?_ ?_
      · rintro call ⟨⟩
      · rintro _ aside call rfl
        exact aside
    exact fun call member => returned _ member call rfl
  · unfold World.queuedDrains
    rw [tended.queues .shared, tended.queues .dedicated]
    rfl
  · have idle : ∀ thread ∈ config.threads, ∀ pool drain,
        thread ≠ .worker pool (.running (.drain drain)) := by
      refine tended.forall ?_ ?_
      · rintro pool drain same
        rcases between with rfl | rfl <;> cases same
      · rintro _ aside pool drain rfl
        exact aside
    exact fun pool drain member => idle _ member pool drain rfl

end Tended

/-! ### From the call to the worker -/

section Handover

variable {start : Config (World Msg User) (Thread Msg User)} {batches : List (List Msg)}
  {world world' : World Msg User} {threads : List (Thread Msg User)}

theorem submit_executors_self (world : World Msg User) (pool : Pool) (task : Task) :
    (world.submit pool task).executors pool = (world.executors pool).submit task :=
  Function.update_self _ _ _

/-- An open reader submits to the executor of its dispatch mode. -/
theorem submits_to (reachable : setup.system.ReachableBy StaysOpen ⟨world, threads⟩) :
    (if world.listener.executorOptions.dispatchMode = .dedicated ∧
      world.listener.dedicatedExecutor = true then Pool.dedicated else .shared) = setup.pool := by
  have options : world.listener.executorOptions = setup.executorOptions :=
    options_reachable reachable
  have settings : world.listener.settings = setup.listener.settings :=
    settings_reachable reachable
  rw [setup.listener_settings] at settings
  have dedicated : world.listener.dedicatedExecutor =
      decide (setup.executorOptions.dispatchMode = .dedicated) :=
    congrArg (fun settings => settings.2.2) settings
  unfold Setup.pool
  rw [options, dedicated]
  by_cases mode : setup.executorOptions.dispatchMode = .dedicated
  · rw [if_pos mode, if_pos ⟨mode, decide_eq_true mode⟩]
  · rw [if_neg mode, if_neg fun both => mode both.1]

/-- The call that has scheduled a drain submits it and returns. -/
theorem Stretch.submit (stretch : Stretch setup start batches
      ⟨world, threads ++ [.call .scheduling]⟩)
    (awake : (world.executors setup.pool).waiting = ∅) :
    Stretch setup start batches
      ⟨world.submit setup.pool .drain, threads ++ [.call .returned]⟩ := by
  have alive := alive_of_open stretch.reachable
  have first : world.callAct .proceed .scheduling = some (.submitting setup.pool, world) := by
    refine (if_pos (decide_eq_true alive)).trans ?_
    simp only [submits_to stretch.reachable]
  have submitting := stretch.callSilent rfl first nofun
  have callable : ∀ phase : CallPhase Msg,
      phase = .submitting setup.pool ∨ phase = .notifying setup.pool →
      world.callDefined phase = true := by
    rintro _ (rfl | rfl) <;>
      · unfold World.callDefined
        cases setup.pool with
        | shared => rfl
        | dedicated => exact decide_eq_true alive
  have second : world.callAct .proceed (.submitting setup.pool) =
      some (.notifying setup.pool, world.submit setup.pool .drain) :=
    if_pos (callable _ (Or.inl rfl))
  have notifying := submitting.callSilent rfl second nofun
  have quiet : ((world.submit setup.pool .drain).executors setup.pool).waiting = ∅ := by
    rw [submit_executors_self]
    exact awake
  have third : (world.submit setup.pool .drain).callAct (.notify none) (.notifying setup.pool) =
      some (.returned, world.submit setup.pool .drain) := by
    refine (if_pos (callable _ (Or.inr rfl))).trans ?_
    simp only [World.notifyOne, Executor.notifyOne, quiet, if_true, Option.map_some,
      setExecutor_self]
  exact notifying.callSilent rfl third (by rintro ⟨⟩)

/-- What holds of an executor put in place of another and of all others holds of all. -/
theorem forall_setExecutor (holds : Executor Task → Prop) {pool : Pool} {executor : Executor Task}
    (replaced : holds executor) (others : ∀ other, other ≠ pool → holds (world.executors other)) :
    ∀ other, holds ((world.setExecutor pool executor).executors other) :=
  (Function.forall_update_iff world.executors fun _ executor => holds executor).mpr
    ⟨replaced, others⟩

/-- A worker between tasks takes the front drain and begins it. -/
theorem Stretch.takeDrain {self : ThreadId} {pool : Pool} {rest : List Task}
    (stretch : Stretch setup start batches ⟨world, threads⟩)
    (found : threads[self]? = some (.worker pool .ready))
    (front : (world.executors pool).tasks = .drain :: rest) :
    Stretch setup start batches
      ⟨{ world.setExecutor pool { world.executors pool with tasks := rest } with
          useCount := world.useCount + 1 },
        threads.set self (.worker pool (.running (.drain .draining)))⟩ := by
  have ran : (world.executors pool).run (Running.start : Task → Running Msg User) self .ready =
      some (.running (.drain .promoting), { world.executors pool with tasks := rest }) := by
    unfold Executor.run Executor.runLocked
    simp only [front, List.isEmpty_cons, Bool.not_false, Bool.or_true, if_true]
    rfl
  have first : Thread.act self .proceed (.worker pool .ready) world =
      some (.worker pool (.running (.drain .promoting)),
        world.setExecutor pool { world.executors pool with tasks := rest }) :=
    Option.map_eq_some_iff.mpr ⟨_, ran, rfl⟩
  have taken := stretch.worker found first nofun
  have alive : world.useCount ≠ 0 := Nat.ne_of_gt (alive_of_open stretch.reachable)
  have there : (threads.set self (.worker pool (.running (.drain .promoting))))[self]? = some _ :=
    List.getElem?_set_self (List.getElem?_eq_some_iff.mp found).1
  have promoted : World.drainAct self .proceed (.promoting : DrainPhase Msg User)
      (world.setExecutor pool { world.executors pool with tasks := rest }) =
        some (some .draining,
          { world.setExecutor pool { world.executors pool with tasks := rest } with
            useCount := world.useCount + 1 }) := if_neg alive
  have second : Thread.act self .proceed (.worker pool (.running (.drain .promoting)))
      (world.setExecutor pool { world.executors pool with tasks := rest }) = some _ :=
    Option.map_eq_some_iff.mpr ⟨_, promoted, rfl⟩
  have begun := taken.worker there second nofun
  rwa [List.set_set] at begun

/-- A drain that is scheduled reaches the serving worker. -/
theorem Stretch.handOver
    (stretch : Stretch setup start batches ⟨world, threads ++ [.call .scheduling]⟩)
    (tended : Tended setup .ready ⟨world, threads ++ [.call .returned]⟩) :
    ∃ next, Stretch setup start batches next ∧
      Tended setup (.running (.drain .draining)) next ∧
      next.shared.buffer [] = world.buffer [] := by
  have submitted := stretch.submit (tended.awake setup.pool)
  have queue : ((world.submit setup.pool .drain).executors setup.pool).tasks = [.drain] := by
    rw [submit_executors_self, Executor.submit_tasks]
    exact congrArg (· ++ [Task.drain]) (tended.queues setup.pool)
  have begun := submitted.takeDrain tended.server queue
  have untouched : ∀ pool, pool ≠ setup.pool →
      (world.submit setup.pool .drain).executors pool = world.executors pool :=
    fun pool other => Function.update_of_ne other _ _
  refine ⟨_, begun, tended.move ?_ ?_, rfl⟩
  · refine forall_setExecutor (fun executor => executor.tasks = []) rfl fun pool other => ?_
    rw [untouched pool other]
    exact tended.queues pool
  · refine forall_setExecutor (fun executor => executor.waiting = ∅) ?_ fun pool other => ?_
    · exact (congrArg Executor.waiting (submit_executors_self world setup.pool .drain)).trans
        (tended.awake setup.pool)
    · rw [untouched pool other]
      exact tended.awake pool

end Handover

/-! ### A round of the drain loop -/

section Round

variable {start : Config (World Msg User) (Thread Msg User)} {batches : List (List Msg)}
  {world world' : World Msg User} {threads : List (Thread Msg User)} {pool : Pool}
  {self : ThreadId} {phase phase' : DrainPhase Msg User} {choice : Choice Msg}

/-- A worker takes a step of its drain task. -/
theorem Stretch.drain (stretch : Stretch setup start batches ⟨world, threads⟩)
    (found : threads[self]? = some (.worker pool (.running (.drain phase))))
    (acted : world.drainAct self choice phase = some (some phase', world'))
    (stays : choice ≠ .close) :
    Stretch setup start batches
      ⟨world', threads.set self (.worker pool (.running (.drain phase')))⟩ :=
  stretch.worker found (Option.map_eq_some_iff.mpr ⟨_, acted, rfl⟩) stays

/-- And another. -/
theorem Stretch.drainNext
    (stretch : Stretch setup start batches
      ⟨world, threads.set self (.worker pool (.running (.drain phase)))⟩)
    (bound : self < threads.length)
    (acted : world.drainAct self choice phase = some (some phase', world'))
    (stays : choice ≠ .close) :
    Stretch setup start batches
      ⟨world', threads.set self (.worker pool (.running (.drain phase')))⟩ := by
  have after := stretch.drain (List.getElem?_set_self bound) acted stays
  rwa [List.set_set] at after

/-- The loop pops the front message of a running listener. -/
theorem drainAct_pop {message : Received Msg} {rest : List (Received Msg)}
    (running : world.listener.stopRequested = false)
    (front : world.listener.pendingMessages = message :: rest) :
    ∃ popped : DdsReaderListener.Popped Msg User, popped.pendingMessage = message ∧
      popped.cb = world.listener.cb ∧
      world.drainAct self .proceed .draining = some (some (.popped popped),
        { world with listener := { world.listener with pendingMessages := rest } }) := by
  refine ⟨⟨message, world.listener.cb, world.listener.executorOptions.enableMetrics,
    rest.length + 1, rest.length⟩, rfl, rfl, ?_⟩
  have taken : world.listener.executePendingCallbacksLocked =
      (some ⟨message, world.listener.cb, world.listener.executorOptions.enableMetrics,
        rest.length + 1, rest.length⟩, { world.listener with pendingMessages := rest }) := by
    obtain ⟨⟨_, _⟩⟩ := world
    cases running
    cases front
    rfl
  unfold World.drainAct
  simp only [taken]

theorem drainAct_handle (popped : DdsReaderListener.Popped Msg User) (start : Int)
    (context : DdsMessageContext) :
    ∃ user, world.drainAct self .handle (.inCallback ⟨popped, start, some context, false, none⟩) =
      some (some (.inCallback ⟨popped, start, some context, true, none⟩),
        { world with
          user := user
          history :=
            { world.history with
              handled := world.history.handled ++ [popped.pendingMessage] } }) := by
  simp only [World.drainAct, true_or, if_true]
  exact ⟨_, rfl⟩

/-- Past the callback the worker returns to the head of the loop, recording the callback when
metrics are enabled. -/
theorem Stretch.finish {popped : DdsReaderListener.Popped Msg User} {begun : Int}
    {context : DdsMessageContext}
    (stretch : Stretch setup start batches ⟨world, threads.set self
      (.worker pool (.running (.drain (.inCallback ⟨popped, begun, some context, true, none⟩))))⟩)
    (bound : self < threads.length) :
    ∃ world', world.Alike world' ∧
      world'.listener.pendingMessages = world.listener.pendingMessages ∧
      Stretch setup start batches
        ⟨world', threads.set self (.worker pool (.running (.drain .draining)))⟩ := by
  have finishing : world.drainAct self .proceed
      (.inCallback ⟨popped, begun, some context, true, none⟩) =
        some (some (if popped.metricsEnabled then .recording popped begun world.steadyNow
          else .draining), world) := rfl
  have finished := stretch.drainNext bound finishing nofun
  cases enabled : popped.metricsEnabled with
  | false =>
    rw [enabled, if_neg Bool.false_ne_true] at finished
    exact ⟨world, ⟨rfl, rfl, rfl⟩, rfl, finished⟩
  | true =>
    rw [enabled, if_pos rfl] at finished
    have recording : world.drainAct self .proceed (.recording popped begun world.steadyNow) =
        some (some .draining, { world with
          listener := world.listener.recordCallbackLocked popped begun world.steadyNow }) := rfl
    refine ⟨_, ?_, ?_, finished.drainNext bound recording nofun⟩
    · exact ⟨rfl, rfl, rfl⟩
    · rfl

/-- The worker that serves the listener hands the front message over and returns to the head of
the loop. -/
theorem Stretch.deliver {message : Received Msg} {rest : List (Received Msg)}
    (stretch : Stretch setup start batches ⟨world, threads⟩)
    (tended : Tended setup (.running (.drain .draining)) ⟨world, threads⟩)
    (accepts : setup.callback.hasMessageHandler = true)
    (front : world.listener.pendingMessages = message :: rest) :
    ∃ next, Stretch setup start batches next ∧
      Tended setup (.running (.drain .draining)) next ∧
      next.shared.listener.pendingMessages = rest ∧
      next.shared.buffer [] =
        ⟨(world.buffer []).delivered ++ [message.message], (world.buffer []).dropped,
          messages rest⟩ := by
  have running : world.listener.stopRequested = false :=
    (attended_of_open stretch.reachable).running
  have bound := (List.getElem?_eq_some_iff.mp tended.server).1
  obtain ⟨popped, rfl, copied, popping⟩ := drainAct_pop running front
  have first := stretch.drain tended.server popping nofun
  obtain ⟨callback, present⟩ : ∃ callback, popped.cb = some callback := by
    refine Option.isSome_iff_exists.mp ?_
    rw [copied, show world.listener.cb = setup.listener.cb from
      (serves_reachable stretch.reachable).1.1, setup.listener_cb]
    exact accepts
  let second := { world with listener := { world.listener with pendingMessages := rest } }
  let context := popped.context world.steadyNow world.systemNow
  have beginning : second.drainAct setup.server .proceed (.popped popped) =
      some (some (.inCallback ⟨popped, world.steadyNow, some context, false, none⟩),
        { second with history :=
            { world.history with
              delivered := world.history.delivered ++ [popped.pendingMessage] } }) := by
    unfold World.drainAct
    simp only [present]
    rfl
  have third := first.drainNext bound beginning nofun
  obtain ⟨user, handling⟩ := drainAct_handle popped world.steadyNow context
  obtain ⟨last, alike, kept, returned⟩ := (third.drainNext bound handling nofun).finish bound
  refine ⟨_, returned, tended.move ?_ ?_, kept, alike.buffer.trans ?_⟩
  · rw [alike.executors]
    exact tended.queues
  · rw [alike.executors]
    exact tended.awake
  · unfold World.buffer
    refine congrArg (Buffer.mk · _ _) ?_
    rw [List.append_nil, List.append_nil]
    exact List.map_append

/-- A drain task that does not hold the last reference gives its own up and ends. -/
theorem Stretch.releaseShared (stretch : Stretch setup start batches ⟨world, threads⟩)
    (found : threads[self]? = some (.worker pool (.running (.drain .releasing))))
    (more : world.useCount ≠ 1) :
    Stretch setup start batches
      ⟨{ world with useCount := world.useCount - 1 }, threads.set self (.worker pool .ready)⟩ := by
  have released : world.release self = (none, { world with useCount := world.useCount - 1 }) :=
    if_neg more
  have ended : world.drainAct self .proceed (.releasing : DrainPhase Msg User) =
      some (none, { world with useCount := world.useCount - 1 }) := by
    unfold World.drainAct
    simp only [released]
  have acted : Thread.act self .proceed (.worker pool (.running (.drain .releasing))) world =
      some (.worker pool .ready, { world with useCount := world.useCount - 1 }) :=
    Option.map_eq_some_iff.mpr ⟨_, ended, rfl⟩
  exact stretch.worker found acted nofun

/-- With nothing left the worker ends the drain. -/
theorem Stretch.endDrain (stretch : Stretch setup start batches ⟨world, threads⟩)
    (tended : Tended setup (.running (.drain .draining)) ⟨world, threads⟩)
    (empty : world.listener.pendingMessages = []) :
    ∃ next, Stretch setup start batches next ∧ Tended setup .ready next ∧
      next.shared.listener.pendingMessages = [] ∧ next.shared.buffer [] = world.buffer [] := by
  have running : world.listener.stopRequested = false :=
    (attended_of_open stretch.reachable).running
  have bound := (List.getElem?_eq_some_iff.mp tended.server).1
  have left : world.listener.executePendingCallbacksLocked =
      (none, { world.listener with callbackScheduled := false }) := by
    obtain ⟨⟨_, _⟩⟩ := world
    cases running
    cases empty
    rfl
  have leaving : world.drainAct setup.server .proceed .draining = some (some .releasing,
      { world with listener := { world.listener with callbackScheduled := false } }) := by
    unfold World.drainAct
    simp only [left]
  have releasing := stretch.drain tended.server leaving nofun
  have there : (threads.set setup.server (.worker setup.pool (.running (.drain .releasing))))[
      setup.server]? = some _ := List.getElem?_set_self bound
  have own : 1 ≤ tally Thread.holds
      (threads.set setup.server (.worker setup.pool (.running (.drain .releasing)))) :=
    weight_le_tally Thread.holds there
  have references : world.useCount = 1 + tally Thread.holds
      (threads.set setup.server (.worker setup.pool (.running (.drain .releasing)))) :=
    (open_reachable releasing.reachable).references (drainInvariant_reachable releasing.reachable)
  have more : world.useCount ≠ 1 := by omega
  have ended := releasing.releaseShared there more
  rw [List.set_set] at ended
  exact ⟨_, ended, tended.move tended.queues tended.awake, empty, rfl⟩

end Round

/-! ### A buffer is the reader -/

section Back

variable {start config : Config (World Msg User) (Thread Msg User)} {batches : List (List Msg)}
  {world : World Msg User} {threads : List (Thread Msg User)}
  {phase : RunPhase (Running Msg User)}

/-- How the reader stands between the steps of its buffer: its worker is between tasks when
nothing is pending, and at the head of the drain loop otherwise. Only a reader with a handler
has anything pending. -/
inductive Standing (setup : Setup Msg User) (config : Config (World Msg User) (Thread Msg User)) :
    Prop
  | idle (phase : RunPhase (Running Msg User)) (between : Between phase)
      (tended : Tended setup phase config) (empty : config.shared.listener.pendingMessages = [])
  | draining (tended : Tended setup (.running (.drain .draining)) config)
      (queued : config.shared.listener.pendingMessages ≠ [])
      (accepts : setup.callback.hasMessageHandler = true)

/-- A worker between tasks gets to the point where it looks for one. -/
theorem Stretch.ready (stretch : Stretch setup start batches ⟨world, threads⟩)
    (tended : Tended setup phase ⟨world, threads⟩) (between : Between phase) :
    ∃ threads', Stretch setup start batches ⟨world, threads'⟩ ∧
      Tended setup .ready ⟨world, threads'⟩ := by
  rcases between with rfl | rfl
  · have begun : Thread.act setup.server .proceed (.worker setup.pool .starting) world =
        some (.worker setup.pool .ready,
          world.setExecutor setup.pool (world.executors setup.pool)) := rfl
    rw [setExecutor_self] at begun
    exact ⟨_, stretch.worker tended.server begun nofun, tended.move tended.queues tended.awake⟩
  · exact ⟨threads, stretch, tended⟩

/-- A batch brings an idle reader to the head of the drain loop. -/
theorem Stretch.awaken (stretch : Stretch setup start batches ⟨world, threads⟩)
    (tended : Tended setup phase ⟨world, threads⟩) (between : Between phase)
    (accepts : setup.callback.hasMessageHandler = true) {batch : List Msg} (nonempty : batch ≠ []) :
    ∃ next, Stretch setup start (batches ++ [batch]) next ∧
      Tended setup (.running (.drain .draining)) next ∧
      next.shared.buffer [] =
        (world.buffer []).arrive (setup.executorOptions.admission Msg) batch := by
  obtain ⟨threads', waiting, ready⟩ := stretch.ready tended between
  have unscheduled : world.listener.callbackScheduled = false :=
    (ready.atRest (Or.inr rfl)).unscheduled waiting.reachable
  obtain ⟨world', executors, arrived, offered⟩ := waiting.offer accepts nonempty
  rw [unscheduled, if_neg Bool.false_ne_true] at offered
  obtain ⟨next, handed, draining, seen⟩ := offered.handOver (ready.append executors)
  exact ⟨next, handed, draining, seen.trans arrived⟩

/-- A batch finds a reader that drains still draining. -/
theorem Stretch.enlarge (stretch : Stretch setup start batches ⟨world, threads⟩)
    (tended : Tended setup (.running (.drain .draining)) ⟨world, threads⟩)
    (queued : world.listener.pendingMessages ≠ [])
    (accepts : setup.callback.hasMessageHandler = true) {batch : List Msg} (nonempty : batch ≠ []) :
    ∃ next, Stretch setup start (batches ++ [batch]) next ∧
      Tended setup (.running (.drain .draining)) next ∧
      next.shared.buffer [] =
        (world.buffer []).arrive (setup.executorOptions.admission Msg) batch := by
  have attended : world.listener.Attended := attended_of_open stretch.reachable
  obtain ⟨world', executors, arrived, offered⟩ := stretch.offer accepts nonempty
  rw [attended.scheduled queued, if_pos rfl] at offered
  exact ⟨_, offered, tended.append executors, arrived⟩

/-- After a batch something is pending. -/
theorem arrive_pending {next : World Msg User} {buffer : Buffer Msg} {batch : List Msg}
    (seen : next.buffer [] = buffer.arrive (setup.executorOptions.admission Msg) batch)
    (nonempty : batch ≠ []) : next.listener.pendingMessages ≠ [] := by
  intro empty
  have remaining : messages next.listener.pendingMessages =
      (setup.executorOptions.admission Msg).keptBatch buffer.remaining batch :=
    congrArg Buffer.remaining seen
  rw [empty] at remaining
  exact Admission.keptBatch_ne_nil setup.executorOptions.admission_keeps buffer.remaining nonempty
    remaining.symm

/-- A reader between two steps of its buffer takes a batch. -/
theorem Standing.arrive (standing : Standing setup config)
    (stretch : Stretch setup start batches config)
    (accepts : setup.callback.hasMessageHandler = true) {batch : List Msg} (nonempty : batch ≠ []) :
    ∃ next, Stretch setup start (batches ++ [batch]) next ∧ Standing setup next ∧
      next.shared.buffer [] =
        (config.shared.buffer []).arrive (setup.executorOptions.admission Msg) batch := by
  obtain ⟨next, reached, draining, seen⟩ : ∃ next,
      Stretch setup start (batches ++ [batch]) next ∧
      Tended setup (.running (.drain .draining)) next ∧
      next.shared.buffer [] =
        (config.shared.buffer []).arrive (setup.executorOptions.admission Msg) batch := by
    cases standing with
    | idle phase between tended => exact stretch.awaken tended between accepts nonempty
    | draining tended queued _ => exact stretch.enlarge tended queued accepts nonempty
  exact ⟨next, reached, .draining draining (arrive_pending seen nonempty) accepts, seen⟩

/-- A reader between two steps of its buffer hands the front message over. -/
theorem Standing.deliver (standing : Standing setup config)
    (stretch : Stretch setup start batches config) {item : Msg} {rest : List Msg}
    (front : (config.shared.buffer []).remaining = item :: rest) :
    ∃ next, Stretch setup start batches next ∧ Standing setup next ∧
      next.shared.buffer [] =
        { config.shared.buffer [] with
          delivered := (config.shared.buffer []).delivered ++ [item]
          remaining := rest } := by
  have pending : messages config.shared.listener.pendingMessages = item :: rest := front
  obtain ⟨message, queue, popped, rfl, rfl⟩ := List.map_eq_cons_iff.mp pending
  cases standing with
  | idle _ _ _ empty => cases popped.symm.trans empty
  | draining tended _ accepts =>
    obtain ⟨next, reached, draining, left, seen⟩ := stretch.deliver tended accepts popped
    by_cases empty : queue = []
    · subst empty
      obtain ⟨last, ended, idle, nothing, same⟩ := reached.endDrain draining left
      exact ⟨last, ended, .idle .ready (Or.inr rfl) idle nothing, same.trans seen⟩
    · refine ⟨next, reached, .draining draining ?_ accepts, seen⟩
      rw [left]
      exact empty

/-- At the beginning the serving worker has just been created. -/
theorem tended_initial
    (manned : setup.executorOptions.dispatchMode = .dedicated ∨ 0 < setup.workers) :
    Tended setup .starting setup.initial := by
  have threads : setup.initial.threads[setup.server]? = some (.worker setup.pool .starting) := by
    unfold Setup.initial Setup.server Setup.pool
    by_cases mode : setup.executorOptions.dispatchMode = .dedicated
    · simp only [if_pos mode, List.append_assoc]
      rw [List.getElem?_append_right (Nat.le_of_eq List.length_replicate), List.length_replicate,
        Nat.sub_self]
      rfl
    · have staffed : 0 < setup.workers := manned.resolve_left mode
      simp only [if_neg mode, List.append_assoc]
      rw [List.getElem?_append_left (Nat.lt_of_lt_of_eq staffed List.length_replicate.symm),
        List.getElem?_replicate_of_lt staffed]
  refine ⟨threads, fun index thread found _ => ?_, fun pool => ?_, fun pool => ?_⟩
  · rcases mem_initial_threads (List.mem_of_getElem? found) with ⟨pool, rfl⟩ | rfl <;> trivial
  · cases pool <;> rfl
  · cases pool <;> rfl

/-- An open reader with a worker shows everything its buffer shows. -/
theorem buffer_simulatedBy_reader (setup : Setup Msg User)
    (manned : setup.executorOptions.dispatchMode = .dedicated ∨ 0 < setup.workers) :
    setup.buffering.SimulatedBy setup.watched fun state config =>
      setup.system.ReachableBy StaysOpen config ∧ Standing setup config ∧
        state = config.shared.buffer [] := by
  refine ⟨⟨.initial, ?_, ?_⟩, ?_, ?_⟩
  · exact .idle .starting (Or.inl rfl) (tended_initial manned) setup.listener_fresh.2.1
  · exact congrArg (Buffer.mk [] []) (congrArg messages setup.listener_fresh.2.1.symm)
  · rintro _ action next config ⟨reachable, standing, rfl⟩ _ stepped
    have stretch : Stretch setup config [] config := ⟨.refl, reachable⟩
    rcases Buffer.step_cases stepped with
      ⟨batch, rfl, accepts, nonempty, rfl⟩ | ⟨item, rest, rfl, front, rfl⟩
    · obtain ⟨next, reached, stands, seen⟩ := standing.arrive stretch accepts nonempty
      exact ⟨next, reached.leads, reached.reachable, stands, seen.symm⟩
    · obtain ⟨next, reached, stands, seen⟩ := standing.deliver stretch front
      exact ⟨next, reached.leads, reached.reachable, stands, seen.symm⟩
  · rintro _ config ⟨reachable, standing, rfl⟩ resting
    have empty : config.shared.listener.pendingMessages = [] := List.map_eq_nil_iff.mp resting
    cases standing with
    | idle _ between tended => exact ⟨tended.atRest between, rfl⟩
    | draining _ queued _ => exact absurd empty queued

end Back

/-! ### The two dispatch modes -/

/-- The reader with a dispatch mode and a size of the shared pool of its own. -/
def Setup.dispatched (mode : DdsExecutorDispatchMode) (workers : Nat) (setup : Setup Msg User) :
    Setup Msg User :=
  { setup with
    executorOptions := { setup.executorOptions with dispatchMode := mode }
    workers := workers }

/-- A reader with a worker shows what its buffer shows. -/
theorem outcomes_eq_buffer (setup : Setup Msg User)
    (manned : setup.executorOptions.dispatchMode = .dedicated ∨ 0 < setup.workers)
    (batches : List (List Msg)) :
    setup.watched.outcomes batches = setup.buffering.outcomes batches :=
  WatchedSystem.outcomes_eq (reader_simulatedBy_buffer setup)
    (buffer_simulatedBy_reader setup manned) batches

/-- The dispatch mode has no part in the buffer. -/
theorem buffering_dispatched (mode : DdsExecutorDispatchMode) (workers : Nat)
    (setup : Setup Msg User) : (setup.dispatched mode workers).buffering = setup.buffering := rfl

/-- Whatever history of batches arrives, a reader that submits to a shared pool with at least
one worker shows the same at rest as one with its own worker. -/
theorem shared_dispatch_equivalent_dedicated (setup : Setup Msg User) (workers others : Nat)
    (manned : 0 < workers) (batches : List (List Msg)) :
    (setup.dispatched .shared workers).watched.outcomes batches =
      (setup.dispatched .dedicated others).watched.outcomes batches := by
  calc (setup.dispatched .shared workers).watched.outcomes batches
    _ = (setup.dispatched .shared workers).buffering.outcomes batches :=
      outcomes_eq_buffer (setup.dispatched .shared workers) (Or.inr manned) batches
    _ = (setup.dispatched .dedicated others).buffering.outcomes batches := by
      rw [buffering_dispatched, buffering_dispatched]
    _ = (setup.dispatched .dedicated others).watched.outcomes batches :=
      (outcomes_eq_buffer (setup.dispatched .dedicated others) (Or.inl rfl) batches).symm

/-- A queue of one keeps the second of two messages that arrive at once, with a pool of four
workers as with a worker of its own. -/
theorem shared_dispatch_equivalent_dedicated_four :
    [(⟨[8], [7], []⟩ : Buffer Nat)] ∈
      ((loggingSetup { queueCapacity := 1 } 0).dispatched .shared 4).watched.outcomes [[7, 8]] ∧
    ((loggingSetup { queueCapacity := 1 } 0).dispatched .shared 4).watched.outcomes [[7, 8]] =
      ((loggingSetup { queueCapacity := 1 } 0).dispatched .dedicated 0).watched.outcomes
        [[7, 8]] := by
  refine ⟨?_, shared_dispatch_equivalent_dedicated (loggingSetup { queueCapacity := 1 } 0) 4 0
    (by decide) [[7, 8]]⟩
  rw [outcomes_eq_buffer _ (Or.inr (by decide))]
  have arrived : (loggingSetup { queueCapacity := 1 } 0).buffering.Leads Buffer.empty [[7, 8]]
      ⟨[], [7], [8]⟩ := Buffer.leads_arrive rfl (List.cons_ne_nil 7 [8])
  have delivered : (loggingSetup { queueCapacity := 1 } 0).buffering.Leads Buffer.empty
      ([[7, 8]] ++ []) ⟨[8], [7], []⟩ := arrived.trans (Buffer.leads_deliver rfl)
  exact ⟨_, (WatchedSystem.Watches.start.leads delivered).look rfl⟩

end Booster.Common
