/-
This file says what can be seen of a reader from outside, and that the reader shows
no more than a buffer with its overflow policy.

A watcher of a reader knows the batches that arrive, each with the critical section
that enqueues it, and looks at the messages delivered, dropped and remaining whenever
no call is in progress and no drain is queued or running. The reader is watched while
it is open. Every step is then a step of the buffer or none: a batch arrives at once,
and the pop of a message hands it over, since the one drain that pops it is the only
one to deliver.
-/

import BoosterSdk.Delivery

namespace Booster.Common

open Interleaving LossyQueue

variable {Msg User : Type}

/-! ### What is watched -/

/-- The messages of what was received. -/
def messages (received : List (Received Msg)) : List Msg :=
  received.map fun received => received.message

/-- The overflow policy, as what becomes of a message. -/
def DdsReaderExecutorOptions.admission (options : DdsReaderExecutorOptions) (Item : Type) :
    Admission Item where
  kept := options.overflowQueue
  removed := options.overflowVictims

/-- The batch that the next step of a thread enqueues. -/
def Thread.arrivals (world : World Msg User) : Thread Msg User → List (List Msg)
  | .call (.filled ready) => if world.listener.stopRequested then [] else [messages ready]
  | _ => []

/-- The batch that arrives with an event. -/
def arrivals (config : Config (World Msg User) (Thread Msg User)) :
    Event (Thread Msg User) (Choice Msg) → List (List Msg)
  | .spawn _ => []
  | .act self _ => (config.threads[self]?).elim [] (Thread.arrivals config.shared)

/-- The messages delivered, dropped and remaining, with those in hand counted as delivered. -/
def World.buffer (world : World Msg User) (inHand : List (Received Msg)) : Buffer Msg where
  delivered := messages (world.history.delivered ++ inHand)
  dropped := messages (world.history.removed.map Removal.victim)
  remaining := messages world.listener.pendingMessages

/-- No call is in progress, and no drain of the listener is queued or running. -/
structure AtRest (config : Config (World Msg User) (Thread Msg User)) : Prop where
  calls : ∀ phase, .call phase ∈ config.threads → phase = .returned
  queue : config.shared.queuedDrains = 0
  workers : ∀ pool phase, .worker pool (.running (.drain phase)) ∉ config.threads

/-- A run in which nobody calls `CloseReader`. -/
def StaysOpen (_ : Config (World Msg User) (Thread Msg User)) :
    Event (Thread Msg User) (Choice Msg) → Prop
  | .spawn (.closer _) => False
  | .act _ .close => False
  | _ => True

/-- A reader, watched while it is open. -/
def Setup.watched (setup : Setup Msg User) :
    WatchedSystem (Config (World Msg User) (Thread Msg User))
      (Event (Thread Msg User) (Choice Msg)) (List Msg) (Buffer Msg) where
  toSystem := setup.system
  admits := StaysOpen
  reports := arrivals
  rests := AtRest
  view config := config.shared.buffer []

/-! ### The reader stays open -/

/-- A thread that has no part in closing the reader. A call that offers a batch has one to
offer. -/
def Thread.Orderly : Thread Msg User → Prop
  | .call (.filled ready) => ready ≠ []
  | .closer _ => False
  | .worker _ (.running (.drain (.inCallback run))) => run.closing = none
  | .worker _ (.running (.drain (.destroying _))) => False
  | _ => True

/-- The reader has not been closed. -/
structure Open (config : Config (World Msg User) (Thread Msg User)) : Prop where
  uncalled : config.shared.closeCalled = false
  present : config.shared.readerDeleted = false
  running : config.shared.terminated = false
  threads : ∀ thread ∈ config.threads, thread.Orderly

/-- The members that closing the reader changes. -/
def World.closing (world : World Msg User) : Bool × Bool × Bool :=
  (world.closeCalled, world.readerDeleted, world.terminated)

section Open

variable {self : ThreadId} {world world' : World Msg User}
  {config : Config (World Msg User) (Thread Msg User)}

/-- The channel of an open reader holds a reference. -/
theorem Open.references (opened : Open config) (drain : DrainInvariant config) :
    config.shared.useCount = 1 + tally Thread.holds config.threads := by
  have closing := drain.closing
  have references := drain.references
  have bound := Bool.toNat_le config.shared.channelHolds
  rw [opened.uncalled] at closing
  simp only [Bool.not_false, Bool.toNat_true] at closing
  omega

theorem callActs_open {phase phase' : CallPhase Msg} (acts : CallActs world phase phase' world') :
    world'.closing = world.closing ∧ (Thread.call phase' : Thread Msg User).Orderly := by
  cases acts with
  | fill ready nonempty => exact ⟨rfl, ‹_›⟩
  | offer _ _ shouldSchedule => cases shouldSchedule <;> exact ⟨rfl, trivial⟩
  | _ => exact ⟨rfl, trivial⟩

/-- Only a callback that is told to calls `CloseReader`. -/
theorem drainAct_calling {choice : Choice Msg} {popped : DdsReaderListener.Popped Msg User}
    {start : Int} {context : DdsMessageContext} {handled : Bool}
    {run : CallbackRun Msg User} (calls : run.closing = some .calling)
    (acted : world.drainAct self choice
      (.inCallback ⟨popped, start, some context, handled, none⟩) =
        some (some (.inCallback run), world')) : choice = .close := by
  cases handled with
  | false =>
    cases choice with
    | close => rfl
    | handle =>
      cases acted
      cases calls
    | _ => cases acted
  | true =>
    cases choice with
    | close => rfl
    | proceed =>
      have next := congrArg Prod.fst (Option.some.inj acted)
      simp only [Option.some.injEq] at next
      split at next <;> cases next
    | _ => cases acted

theorem drainActs_calling (pool : Pool) {phase : DrainPhase Msg User}
    {phase' : Option (DrainPhase Msg User)} (acts : DrainActs self world phase phase' world')
    (orderly : (Thread.worker pool (.running (.drain phase))).Orderly) {run : CallbackRun Msg User}
    (is : phase' = some (.inCallback run)) (calls : run.closing = some .calling) :
    ∃ popped start context handled,
      phase = .inCallback ⟨popped, start, some context, handled, none⟩ := by
  cases acts with
  | callClose popped start context handled => exact ⟨popped, start, context, handled, rfl⟩
  | uncalled | begin =>
    cases is
    cases calls
  | handle =>
    cases is
    cases orderly.symm.trans calls
  | close => cases orderly
  | finish popped =>
    have next := Option.some.inj is
    split at next <;> cases next
  | release phase => cases phase <;> cases is
  | destroy => exact orderly.elim
  | _ => cases is

/-- A drain task of an open reader takes no part in closing it. -/
theorem drainActs_open (pool : Pool) {phase : DrainPhase Msg User}
    {phase' : Option (DrainPhase Msg User)} (acts : DrainActs self world phase phase' world')
    (orderly : (Thread.worker pool (.running (.drain phase))).Orderly)
    (more : phase = .releasing → world.useCount ≠ 1)
    (quiet : ∀ run, phase' = some (.inCallback run) → run.closing ≠ some .calling) :
    world'.closing = world.closing ∧
      ∀ next, phase' = some next → (Thread.worker pool (.running (.drain next))).Orderly := by
  cases acts with
  | callClose popped start context handled => exact absurd rfl (quiet _ rfl)
  | close => cases orderly
  | destroy => exact orderly.elim
  | release phase _ released =>
    cases released with
    | shared => exact ⟨rfl, fun next is => by cases is⟩
    | last one => exact absurd one (more rfl)
    | lastDedicated one => exact absurd one (more rfl)
  | handle =>
    refine ⟨rfl, fun next is => ?_⟩
    cases is
    exact orderly
  | finish popped =>
    refine ⟨rfl, fun next is => ?_⟩
    cases is
    cases popped.metricsEnabled <;> trivial
  | expired => exact ⟨rfl, fun next is => by cases is⟩
  | uncalled | begin =>
    refine ⟨rfl, fun next is => ?_⟩
    cases is
    rfl
  | _ =>
    refine ⟨rfl, fun next is => ?_⟩
    cases is
    trivial

/-- No step but one of `CloseReader` has a part in closing the reader. -/
theorem worldActs_open {thread thread' : Thread Msg User} {choice : Choice Msg}
    (acted : thread.act self choice world = some (thread', world')) (orderly : thread.Orderly)
    (stays : choice ≠ .close)
    (more : ∀ pool, thread = .worker pool (.running (.drain .releasing)) → world.useCount ≠ 1) :
    world'.closing = world.closing ∧ thread'.Orderly := by
  have acts := worldAct_cases acted
  cases acts with
  | call _ _ _ acts => exact callActs_open acts
  | drain pool phase phase' _ acts =>
    have quiet : ∀ run, some phase' = some (.inCallback run) →
        run.closing ≠ some .calling := by
      intro run is calls
      obtain ⟨popped, start, context, handled, rfl⟩ := drainActs_calling pool acts orderly is calls
      obtain ⟨⟨next, _⟩, drained, result⟩ := Option.map_eq_some_iff.mp acted
      cases next with
      | none => cases result
      | some next =>
        cases result
        cases is
        exact stays (drainAct_calling calls drained)
    obtain ⟨closing, kept⟩ := drainActs_open pool acts orderly
      (fun releasing => more pool (by rw [releasing])) quiet
    exact ⟨closing, kept phase' rfl⟩
  | drainEnd pool phase _ acts =>
    exact ⟨(drainActs_open pool acts orderly (fun releasing => more pool (by rw [releasing]))
      (fun run is => by cases is)).1, trivial⟩
  | run pool _ _ _ ran =>
    refine ⟨rfl, ?_⟩
    cases ran with
    | take task => cases task <;> trivial
    | _ => trivial
  | close => exact orderly.elim
  | _ => exact ⟨rfl, trivial⟩

/-- A run in which nobody closes the reader leaves it open. -/
theorem open_reachable {setup : Setup Msg User}
    (reachable : setup.system.ReachableBy StaysOpen config) : Open config := by
  have initially : Open setup.initial := by
    refine ⟨rfl, rfl, rfl, fun thread member => ?_⟩
    rcases mem_initial_threads member with ⟨pool, rfl⟩ | rfl <;> trivial
  refine Program.invariant initially ?_ ?_ reachable
  · intro config thread _ opened admitted allowed
    refine ⟨opened.uncalled, opened.present, opened.running, fun other member => ?_⟩
    rcases List.mem_append.mp member with old | new
    · exact opened.threads other old
    · rw [List.mem_singleton.mp new]
      rcases spawns_cases allowed with ⟨rfl, _⟩ | rfl | rfl
      · trivial
      · exact admitted.elim
      · trivial
  · intro config self choice thread thread' shared reached opened admitted found acted
    have stays : choice ≠ .close := by
      rintro rfl
      exact admitted
    have more : ∀ pool, thread = .worker pool (.running (.drain .releasing)) →
        config.shared.useCount ≠ 1 := by
      rintro pool rfl
      have own : 1 ≤ tally Thread.holds config.threads := weight_le_tally Thread.holds found
      have references := opened.references (drainInvariant_reachable reached)
      omega
    obtain ⟨closing, orderly⟩ := worldActs_open acted
      (opened.threads thread (List.mem_of_getElem? found)) stays more
    obtain ⟨called, deleted, ended⟩ := Prod.mk.inj closing |>.imp_right Prod.mk.inj
    exact ⟨called.trans opened.uncalled, deleted.trans opened.present,
      ended.trans opened.running, forall_mem_set opened.threads orderly⟩

/-- The listener of an open reader is alive. -/
theorem alive_of_open {setup : Setup Msg User}
    (reachable : setup.system.ReachableBy StaysOpen config) : 0 < config.shared.useCount := by
  rw [(open_reachable reachable).references (drainInvariant_reachable reachable)]
  omega

/-- The listener of an open reader runs, and a drain is scheduled while a message is pending. -/
theorem attended_of_open {setup : Setup Msg User}
    (reachable : setup.system.ReachableBy StaysOpen config) : config.shared.listener.Attended :=
  (drainInvariant_reachable reachable).attended (alive_of_open reachable)

end Open

/-! ### The policies, renamed -/

namespace DdsReaderExecutorOptions

variable {Item Other : Type} (rename : Item → Other) (options : DdsReaderExecutorOptions)

/-- The policies do not look at the messages. -/
theorem admission_renames :
    (options.admission Item).Renames rename (options.admission Other) := by
  refine ⟨fun queue item => ?_, fun queue item => ?_⟩
  · show (options.overflowQueue queue item).map rename =
      options.overflowQueue (queue.map rename) (rename item)
    unfold overflowQueue
    rw [List.length_map]
    split
    · split
      · rfl
      · exact List.map_append
    · rw [List.map_append, List.map_drop]
      rfl
    · rfl
  · show (options.overflowVictims queue item).map rename =
      options.overflowVictims (queue.map rename) (rename item)
    unfold overflowVictims
    rw [List.length_map]
    split
    · split <;> rfl
    · exact List.map_take
    · rfl

/-- An enqueued message leaves a message in the queue. -/
theorem admission_keeps (queue : List Item) (item : Item) :
    (options.admission Item).kept queue item ≠ [] := by
  show options.overflowQueue queue item ≠ []
  unfold overflowQueue
  split
  · split
    · rename_i full
      rintro rfl
      have bounds := of_decide_eq_true full
      simp only [List.length_nil] at bounds
      omega
    · exact List.append_ne_nil_of_right_ne_nil queue (List.cons_ne_nil item [])
  · exact List.append_ne_nil_of_right_ne_nil _ (List.cons_ne_nil item [])
  · exact List.cons_ne_nil item []

end DdsReaderExecutorOptions

/-- The removals recorded for a batch are those of the policy. -/
theorem batchRemovals_victims (options : DdsReaderExecutorOptions)
    (queue batch : List (Received Msg)) :
    (batchRemovals options queue batch).map Removal.victim =
      (options.admission (Received Msg)).removedBatch queue batch := by
  induction batch generalizing queue with
  | nil => rfl
  | cons message rest inductionHypothesis =>
    simp only [batchRemovals, Admission.removedBatch, List.map_append, List.map_map,
      inductionHypothesis]
    refine congrArg (· ++ _) ?_
    exact List.map_id _

/-! ### One step of the reader -/

section Step

variable {self : ThreadId} {world world' : World Msg User} {inHand : List (Received Msg)}

/-- What can be seen of a world is its past and its queue. -/
theorem buffer_eq (past : world'.history = world.history)
    (queue : world'.listener.pendingMessages = world.listener.pendingMessages)
    (inHand : List (Received Msg)) : world'.buffer inHand = world.buffer inHand := by
  unfold World.buffer
  rw [past, queue]

/-- A batch enqueued is a batch that arrives. -/
theorem buffer_offer {ready : List (Received Msg)}
    (past : world'.history.delivered = world.history.delivered)
    (removed : world'.history.removed = world.history.removed ++
      batchRemovals world.listener.executorOptions world.listener.pendingMessages ready)
    (queue : world'.listener.pendingMessages = DdsReaderListener.batchQueue
      world.listener.executorOptions world.listener.pendingMessages ready)
    (inHand : List (Received Msg)) :
    world'.buffer inHand = (world.buffer inHand).arrive
      (world.listener.executorOptions.admission Msg) (messages ready) := by
  have renames := world.listener.executorOptions.admission_renames
    fun received : Received Msg => received.message
  unfold World.buffer Buffer.arrive
  rw [past, removed, queue, List.map_append, batchRemovals_victims]
  refine congrArg₂ (Buffer.mk _) ?_ ?_
  · exact List.map_append.trans (congrArg (_ ++ ·) (renames.removedBatch _ ready))
  · exact renames.keptBatch _ ready

theorem leads_offer {accepts : Bool} {ready : List (Received Msg)} (accepted : accepts = true)
    (nonempty : messages ready ≠ []) (past : world'.history.delivered = world.history.delivered)
    (removed : world'.history.removed = world.history.removed ++
      batchRemovals world.listener.executorOptions world.listener.pendingMessages ready)
    (queue : world'.listener.pendingMessages = DdsReaderListener.batchQueue
      world.listener.executorOptions world.listener.pendingMessages ready)
    (inHand : List (Received Msg)) :
    (Buffer.watched (world.listener.executorOptions.admission Msg) accepts).Leads
      (world.buffer inHand) [messages ready] (world'.buffer inHand) := by
  rw [buffer_offer past removed queue]
  exact Buffer.leads_arrive accepted nonempty

variable {accepts : Bool} {callback : Option (DdsReaderCallback Msg User)}

/-- A call enqueues a batch in one step, and does nothing else to be seen. -/
theorem callActs_buffer {phase phase' : CallPhase Msg}
    (acts : CallActs world phase phase' world') (running : world.listener.stopRequested = false)
    (orderly : (Thread.call phase : Thread Msg User).Orderly) (served : phase.Serves callback)
    (accepting : callback.isSome = accepts) (inHand : List (Received Msg)) :
    (Buffer.watched (world.listener.executorOptions.admission Msg) accepts).Leads
      (world.buffer inHand) ((Thread.call phase : Thread Msg User).arrivals world)
      (world'.buffer inHand) := by
  cases acts with
  | refuse phase entering =>
    subst entering
    exact .refl
  | configure =>
    obtain ⟨configured, same⟩ :=
      DdsReaderListener.applyRealtimeListenerThreadConfigOnce_eq world.listener
    rw [same]
    exact .refl
  | abandon _ _ stopped => exact absurd (running.symm.trans stopped) Bool.false_ne_true
  | offer ready _ shouldSchedule listener offered =>
    have accepted : accepts = true := accepting.symm.trans served
    have nonempty : messages ready ≠ [] := fun empty => orderly (List.map_eq_nil_iff.mp empty)
    show WatchedSystem.Leads _ _ (if world.listener.stopRequested then _ else _) _
    rw [running, if_neg Bool.false_ne_true]
    refine leads_offer accepted nonempty ?_ ?_ ?_ inHand
    · rfl
    · rfl
    · exact DdsReaderListener.onDataAvailableLocked_queue offered
  | _ => exact .refl

/-- A message popped is a message handed over. -/
theorem leads_pop {message : Received Msg} {rest : List (Received Msg)}
    (past : world'.history = world.history)
    (front : world.listener.pendingMessages = message :: rest)
    (queue : world'.listener.pendingMessages = rest) :
    (Buffer.watched (world.listener.executorOptions.admission Msg) accepts).Leads
      (world.buffer []) [] (world'.buffer [message]) := by
  have remaining : (world.buffer []).remaining = message.message :: messages rest := by
    show messages world.listener.pendingMessages = _
    rw [front]
    rfl
  have handed : world'.buffer [message] =
      { world.buffer [] with
        delivered := (world.buffer []).delivered ++ [message.message]
        remaining := messages rest } := by
    unfold World.buffer
    rw [past, queue, List.append_nil]
    refine congrArg (Buffer.mk · _ _) ?_
    exact List.map_append
  rw [handed]
  exact Buffer.leads_deliver remaining

/-- A drain task hands the front message over when it pops it, and does nothing else to be
seen; `others` are the messages other threads have in hand, none while this drain is in its
loop. -/
theorem drainActs_buffer (pool : Pool) {phase : DrainPhase Msg User}
    {phase' : Option (DrainPhase Msg User)} (acts : DrainActs self world phase phase' world')
    (alive : 0 < world'.useCount)
    (orderly : (Thread.worker pool (.running (.drain phase))).Orderly)
    (served : phase.Serves callback) (others : List (Received Msg))
    (alone : 0 < phase.active → others = []) :
    (Buffer.watched (world.listener.executorOptions.admission Msg) accepts).Leads
      (world.buffer (phase.inHand ++ others)) []
      (world'.buffer (phase'.elim [] DrainPhase.inHand ++ others)) := by
  cases acts with
  | pop message rest _ front =>
    rw [alone Nat.one_pos]
    refine leads_pop ?_ front ?_
    · rfl
    · rfl
  | uncalled _ absent =>
    rw [← served.1, absent] at served
    exact absurd served.2 Bool.false_ne_true
  | begin popped =>
    rw [alone Nat.one_pos]
    simp only [World.buffer, DrainPhase.inHand, Option.elim, List.append_nil]
    exact .refl
  | close => cases orderly
  | finish popped =>
    cases popped.metricsEnabled <;> exact .refl
  | release phase _ released =>
    obtain ⟨_, _, _, _, listener⟩ := releases_frame released
    rw [buffer_eq (releases_past released).1 (by rw [listener alive])]
    cases phase <;> exact .refl
  | destroy => exact orderly.elim
  | _ => exact .refl

variable {thread thread' : Thread Msg User}

/-- A step of any thread is a step of the buffer or none. -/
theorem worldActs_buffer (acts : WorldActs self world thread thread' world')
    (alive : 0 < world'.useCount) (running : world.listener.stopRequested = false)
    (orderly : thread.Orderly) (served : thread.Serves callback)
    (accepting : callback.isSome = accepts) (others : List (Received Msg))
    (alone : 0 < thread.active → others = []) :
    (Buffer.watched (world.listener.executorOptions.admission Msg) accepts).Leads
      (world.buffer (thread.inHand ++ others)) (thread.arrivals world)
      (world'.buffer (thread'.inHand ++ others)) := by
  cases acts with
  | call _ _ _ acts => exact callActs_buffer acts running orderly served accepting others
  | drain pool _ _ _ acts => exact drainActs_buffer pool acts alive orderly served others alone
  | drainEnd pool _ _ acts => exact drainActs_buffer pool acts alive orderly served others alone
  | run _ _ _ _ ran =>
    cases ran with
    | take task => cases task <;> exact .refl
    | _ => exact .refl
  | close => exact orderly.elim
  | _ => exact .refl

end Step

/-! ### The reader is a buffer -/

/-- The buffer a reader is set up as: its overflow policy, closed when there is no callback. -/
def Setup.buffering (setup : Setup Msg User) :
    WatchedSystem (Buffer Msg) (Option (List Msg)) (List Msg) (Buffer Msg) :=
  Buffer.watched (setup.executorOptions.admission Msg) setup.callback.hasMessageHandler

section Forth

variable {setup : Setup Msg User} {config : Config (World Msg User) (Thread Msg User)}

/-- The buffer of a configuration. -/
def buffer (config : Config (World Msg User) (Thread Msg User)) : Buffer Msg :=
  config.shared.buffer (gather Thread.inHand config.threads)

theorem Setup.listener_cb (setup : Setup Msg User) :
    setup.listener.cb.isSome = setup.callback.hasMessageHandler := by
  have same := congrArg Prod.fst setup.listener_settings
  have cb : setup.listener.cb =
      if setup.callback.hasMessageHandler then some setup.callback else none := same
  rw [cb]
  cases setup.callback.hasMessageHandler <;> rfl

/-- One step of an open reader is a step of its buffer or none. -/
theorem buffer_act {self : ThreadId} {choice : Choice Msg} {thread thread' : Thread Msg User}
    {shared : World Msg User} (reachable : setup.system.ReachableBy StaysOpen config)
    (found : config.threads[self]? = some thread)
    (acted : thread.act self choice config.shared = some (thread', shared))
    (alive : 0 < shared.useCount) :
    setup.buffering.Leads (buffer config) (arrivals config (.act self choice))
      (buffer { shared := shared, threads := config.threads.set self thread' }) := by
  have drain := drainInvariant_reachable reachable
  have acts := worldAct_cases acted
  have member := List.mem_of_getElem? found
  have options := options_reachable reachable
  have before := worldActs_alive acts alive
  obtain ⟨others, alone, inHand, inHand'⟩ := inHand_split drain found acts alive
  have arrived : arrivals config (.act self choice) = thread.arrivals config.shared := by
    simp only [arrivals, found, Option.elim]
  have leads := worldActs_buffer acts alive (drain.attended before).running
    ((open_reachable reachable).threads thread member)
    ((serves_reachable reachable).2 thread member) setup.listener_cb others alone
  unfold buffer
  rw [arrived, inHand, inHand']
  rwa [options] at leads

/-- At rest no drain is outstanding. -/
theorem AtRest.idle (resting : AtRest config) :
    tally Thread.scheduled config.threads = 0 ∧ tally Thread.active config.threads = 0 :=
  ⟨scheduled_of_returned resting.calls, active_of_idle resting.workers⟩

/-- At rest no drain is scheduled. -/
theorem AtRest.unscheduled (resting : AtRest config)
    (reachable : setup.system.ReachableBy StaysOpen config) :
    config.shared.listener.callbackScheduled = false := by
  have outstanding := (drainInvariant_reachable reachable).outstanding (alive_of_open reachable)
  rw [resting.idle.1, resting.queue, resting.idle.2] at outstanding
  exact Bool.toNat_eq_zero.mp outstanding.symm

/-- At rest nothing is in hand and nothing is pending. -/
theorem AtRest.empty (resting : AtRest config)
    (reachable : setup.system.ReachableBy StaysOpen config) :
    gather Thread.inHand config.threads = [] ∧
      config.shared.listener.pendingMessages = [] := by
  refine ⟨gather_eq_nil.mpr fun thread member =>
    Thread.inHand_eq_nil (tally_eq_zero.mp resting.idle.2 thread member), ?_⟩
  by_contra queued
  have flag := (attended_of_open reachable).scheduled queued
  exact absurd ((resting.unscheduled reachable).symm.trans flag) Bool.false_ne_true

theorem buffer_initial (setup : Setup Msg User) : buffer setup.initial = Buffer.empty := by
  have pending : setup.initial.shared.listener.pendingMessages = [] := setup.listener_fresh.2.1
  unfold buffer World.buffer
  rw [inHand_initial, pending]
  rfl

/-- An open reader shows nothing that its buffer does not show. -/
theorem reader_simulatedBy_buffer (setup : Setup Msg User) :
    setup.watched.SimulatedBy setup.buffering fun config state =>
      setup.system.ReachableBy StaysOpen config ∧ state = buffer config := by
  refine ⟨⟨.initial, (buffer_initial setup).symm⟩, ?_, ?_⟩
  · rintro config event next _ ⟨reachable, rfl⟩ admitted stepped
    have reached : setup.system.ReachableBy StaysOpen next := reachable.step admitted stepped
    refine ⟨buffer next, ?_, reached, rfl⟩
    have alive := alive_of_open reached
    obtain ⟨shared, threads⟩ := next
    rcases Program.step_cases stepped with
      ⟨thread, rfl, allowed, same, grown⟩ |
      ⟨self, choice, thread, thread', rfl, found, acted, set⟩
    · subst same grown
      have kept : buffer { config with threads := config.threads ++ [thread] } =
          buffer config := by
        unfold buffer
        rw [inHand_spawned allowed]
      rw [kept]
      exact .refl
    · subst set
      exact buffer_act reachable found acted alive
  · rintro config _ ⟨reachable, rfl⟩ resting
    obtain ⟨inHand, pending⟩ := AtRest.empty resting reachable
    refine ⟨?_, ?_⟩
    · show messages config.shared.listener.pendingMessages = []
      rw [pending]
      rfl
    · show buffer config = config.shared.buffer []
      unfold buffer
      rw [inHand]

end Forth

end Booster.Common
