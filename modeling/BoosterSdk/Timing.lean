/-
This file proves that the times of a message are in order.

A call of `on_data_available` reads the steady clock when it enters and once for
each sample, a worker reads it before and after the user callback. The clock does
not go back, so every message and every callback in progress carries times in
order and none ahead of the present. That successive callbacks see receive times
in order rests on the queue: what has been delivered and what is in hand is a
subsequence of what was taken. That a callback starts only after the one before
has ended rests on the single drain.
-/

import BoosterSdk.Delivery
import BoosterSdk.Metrics
import Mathlib.Algebra.Ring.Int.Defs

namespace Booster.Common

open Interleaving

variable {Msg User : Type}

/-! ### Times in order -/

/-- A message whose times are in order and not ahead of the present. -/
structure Received.Timed (now : Int) (received : Received Msg) : Prop where
  entered : received.listenerEnterSteadyTime ≤ received.enqueuedAt
  past : received.enqueuedAt ≤ now

theorem Received.Timed.later {now later : Int} {received : Received Msg}
    (timed : received.Timed now) (forward : now ≤ later) : received.Timed later where
  entered := timed.entered
  past := Int.le_trans timed.past forward

/-- The times of a call are in order. -/
def CallPhase.Timed (now : Int) : CallPhase Msg → Prop
  | .taking enterSteady _ ready => enterSteady ≤ now ∧ ∀ received ∈ ready, received.Timed now
  | .filled ready => ∀ received ∈ ready, received.Timed now
  | _ => True

/-- The times of a drain task are in order, and the context of its callback is the one built from
the message and the start of the callback. -/
def DrainPhase.Timed (now : Int) : DrainPhase Msg User → Prop
  | .popped taken => taken.pendingMessage.Timed now
  | .inCallback run =>
    run.popped.pendingMessage.Timed run.callbackStartSteady ∧ run.callbackStartSteady ≤ now ∧
      ∀ context, run.context = some context →
        ∃ system, context = run.popped.context run.callbackStartSteady system
  | .recording taken start callbackEnd =>
    taken.pendingMessage.Timed start ∧ start ≤ callbackEnd ∧ callbackEnd ≤ now
  | _ => True

def Thread.Timed (now : Int) : Thread Msg User → Prop
  | .call phase => phase.Timed now
  | .worker _ (.running (.drain phase)) => phase.Timed now
  | _ => True

theorem Thread.Timed.later {now later : Int} {thread : Thread Msg User}
    (timed : thread.Timed now) (forward : now ≤ later) : thread.Timed later := by
  unfold Thread.Timed at timed ⊢
  split at timed
  · rename_i phase
    cases phase with
    | taking =>
      exact ⟨Int.le_trans timed.1 forward, fun received member =>
        (timed.2 received member).later forward⟩
    | filled => exact fun received member => (timed received member).later forward
    | _ => trivial
  · rename_i phase
    cases phase with
    | popped => exact Received.Timed.later timed forward
    | inCallback => exact ⟨timed.1, Int.le_trans timed.2.1 forward, timed.2.2⟩
    | recording => exact ⟨timed.1, timed.2.1, Int.le_trans timed.2.2 forward⟩
    | _ => trivial
  · trivial

/-- The messages of the world carry times in order, and the samples were taken in the order of
their receive times. -/
structure World.Timed (world : World Msg User) : Prop where
  pending : ∀ received ∈ world.listener.pendingMessages, received.Timed world.steadyNow
  taken : ∀ received ∈ world.history.taken, received.Timed world.steadyNow
  sorted : (world.history.taken.map fun received => received.enqueuedAt).Pairwise (· ≤ ·)

section Step

variable {self : ThreadId} {world world' : World Msg User}

/-- Only the clock moves time. -/
theorem releases_steadyNow {phase : Option DestroyPhase}
    (released : Releases self world phase world') : world'.steadyNow = world.steadyNow := by
  cases released <;> rfl

theorem destroyActs_steadyNow {phase : DestroyPhase} {phase' : Option DestroyPhase}
    (acts : DestroyActs self world phase phase' world') :
    world'.steadyNow = world.steadyNow := by
  cases acts <;> rfl

theorem closeActs_steadyNow {phase phase' : ClosePhase}
    (acts : CloseActs self world phase phase' world') : world'.steadyNow = world.steadyNow := by
  cases acts with
  | reset _ _ released =>
    have same := releases_steadyNow released
    exact same
  | destroy _ _ _ destroyed => exact destroyActs_steadyNow destroyed
  | _ => rfl

theorem drainActs_steadyNow {phase : DrainPhase Msg User} {phase' : Option (DrainPhase Msg User)}
    (acts : DrainActs self world phase phase' world') :
    world'.steadyNow = world.steadyNow := by
  cases acts with
  | close _ _ _ _ _ _ _ closed => exact closeActs_steadyNow closed
  | release _ _ released => exact releases_steadyNow released
  | destroy _ _ _ destroyed => exact destroyActs_steadyNow destroyed
  | _ => rfl

/-- A world with the same samples and no more messages pending, at the same time or later. -/
theorem World.Timed.frame (timed : world.Timed) (forward : world.steadyNow ≤ world'.steadyNow)
    (pending : world'.listener.pendingMessages.Sublist world.listener.pendingMessages)
    (taken : world'.history.taken = world.history.taken) : world'.Timed where
  pending := fun received member =>
    (timed.pending received (pending.subset member)).later forward
  taken := fun received member =>
    (timed.taken received (taken ▸ member)).later forward
  sorted := by
    rw [taken]
    exact timed.sorted

/-- Whatever a batch leaves in the queue was there or came with it. -/
theorem mem_batchQueue {options : DdsReaderExecutorOptions} {queue batch : List (Received Msg)}
    {received : Received Msg}
    (member : received ∈ DdsReaderListener.batchQueue options queue batch) :
    received ∈ queue ∨ received ∈ batch := by
  induction batch generalizing queue with
  | nil => exact Or.inl member
  | cons message rest inductionHypothesis =>
    rcases inductionHypothesis member with kept | later
    · have inOrder := (options.rule_accounts queue message _ _ ⟨rfl, rfl⟩).inOrder
      rcases List.mem_append.mp (inOrder.subset kept) with old | new
      · exact Or.inl old
      · exact Or.inr (List.mem_singleton.mp new ▸ List.mem_cons_self)
    · exact Or.inr (List.mem_cons_of_mem message later)

/-- A call keeps times in order: it stamps a sample with the present, after the time it entered. -/
theorem callActs_timed {phase phase' : CallPhase Msg}
    (acts : CallActs world phase phase' world') (timed : world.Timed)
    (phaseTimed : phase.Timed world.steadyNow) :
    world'.steadyNow = world.steadyNow ∧ world'.Timed ∧ phase'.Timed world.steadyNow := by
  have same : world'.steadyNow = world.steadyNow := by
    cases acts <;> rfl
  refine ⟨same, ?_⟩
  cases acts with
  | configure =>
    refine ⟨timed.frame (Int.le_refl _) ?_ rfl, trivial⟩
    obtain ⟨configured, same⟩ :=
      DdsReaderListener.applyRealtimeListenerThreadConfigOnce_eq world.listener
    rw [same]
  | start => exact ⟨timed, Int.le_refl _, fun _ member => absurd member List.not_mem_nil⟩
  | take enterSteady enterSystem ready message info =>
    have fresh : (world.receive enterSteady enterSystem message info).Timed world.steadyNow :=
      ⟨phaseTimed.1, Int.le_refl _⟩
    refine ⟨⟨timed.pending, ?_, ?_⟩, phaseTimed.1, ?_⟩
    · intro received member
      rcases List.mem_append.mp member with old | new
      · exact timed.taken received old
      · rw [List.mem_singleton.mp new]
        exact fresh
    · rw [List.map_append]
      refine List.pairwise_append.mpr ⟨timed.sorted, List.pairwise_singleton _ _, ?_⟩
      intro earlier member now present
      obtain ⟨received, old, rfl⟩ := List.mem_map.mp member
      rw [List.mem_singleton.mp present]
      exact (timed.taken received old).past
    · intro received member
      rcases List.mem_append.mp member with old | new
      · exact phaseTimed.2 received old
      · rw [List.mem_singleton.mp new]
        exact fresh
  | fill => exact ⟨timed, phaseTimed.2⟩
  | offer ready _ shouldSchedule listener offered =>
    have queue : ∀ received ∈ listener.pendingMessages, received.Timed world.steadyNow := by
      intro received member
      rw [DdsReaderListener.onDataAvailableLocked_queue offered] at member
      exact (mem_batchQueue member).elim (timed.pending received) (phaseTimed received)
    refine ⟨⟨queue, timed.taken, timed.sorted⟩, ?_⟩
    cases shouldSchedule <;> trivial
  | skip => exact ⟨timed, phaseTimed⟩
  | submit | notify => exact ⟨⟨timed.pending, timed.taken, timed.sorted⟩, trivial⟩
  | _ => exact ⟨timed, trivial⟩

/-- A drain task keeps times in order: it reads the clock when a callback starts and when it
ends. -/
theorem drainActs_timed {phase : DrainPhase Msg User} {phase' : Option (DrainPhase Msg User)}
    (acts : DrainActs self world phase phase' world') (timed : world.Timed)
    (phaseTimed : phase.Timed world.steadyNow) :
    world'.Timed ∧ phase'.elim True (DrainPhase.Timed world.steadyNow) := by
  have kept : world'.Timed := timed.frame (Int.le_of_eq (drainActs_steadyNow acts).symm)
    (drainActs_pending acts) (drainActs_taken acts).1
  refine ⟨kept, ?_⟩
  cases acts with
  | pop message rest _ front =>
    exact timed.pending message (front ▸ List.mem_cons_self)
  | uncalled => exact ⟨phaseTimed, Int.le_refl _, fun _ absent => nomatch absent⟩
  | begin =>
    refine ⟨phaseTimed, Int.le_refl _, ?_⟩
    rintro context ⟨⟩
    exact ⟨world.systemNow, rfl⟩
  | handle | callClose | close => exact phaseTimed
  | finish popped start =>
    cases popped.metricsEnabled with
    | true => exact ⟨phaseTimed.1, phaseTimed.2.1, Int.le_refl _⟩
    | false => trivial
  | release phase => cases phase <;> trivial
  | destroy _ phase' => cases phase' <;> trivial
  | _ => trivial

variable {thread thread' : Thread Msg User}

/-- A step of any thread keeps times in order and does not go back. -/
theorem worldActs_timed (acts : WorldActs self world thread thread' world')
    (timed : world.Timed) (threadTimed : thread.Timed world.steadyNow) :
    world.steadyNow ≤ world'.steadyNow ∧ world'.Timed ∧ thread'.Timed world'.steadyNow := by
  cases acts with
  | tick steady system forward =>
    exact ⟨forward, timed.frame forward (List.Sublist.refl _) rfl, trivial⟩
  | call _ _ _ acts =>
    obtain ⟨same, kept, phaseTimed⟩ := callActs_timed acts timed threadTimed
    exact ⟨Int.le_of_eq same.symm, kept, same ▸ phaseTimed⟩
  | drain _ _ _ _ acts =>
    have same := drainActs_steadyNow acts
    obtain ⟨kept, phaseTimed⟩ := drainActs_timed acts timed threadTimed
    exact ⟨Int.le_of_eq same.symm, kept, same ▸ phaseTimed⟩
  | drainEnd _ _ _ acts =>
    have same := drainActs_steadyNow acts
    exact ⟨Int.le_of_eq same.symm, (drainActs_timed acts timed threadTimed).1, trivial⟩
  | run _ _ _ _ ran =>
    refine ⟨Int.le_refl _, ⟨timed.pending, timed.taken, timed.sorted⟩, ?_⟩
    cases ran with
    | take task => cases task <;> trivial
    | _ => trivial
  | close _ _ _ acts =>
    have same := closeActs_steadyNow acts
    exact ⟨Int.le_of_eq same.symm, timed.frame (Int.le_of_eq same.symm) (closeActs_pending acts)
      (by rw [(closeActs_past acts).1]), trivial⟩
  | otherEnd => exact ⟨Int.le_refl _, timed, trivial⟩
  | post | postNotify =>
    exact ⟨Int.le_refl _, ⟨timed.pending, timed.taken, timed.sorted⟩, trivial⟩

end Step

/-- In every state a reader can reach times are in order. -/
theorem timed_reachable {setup : Setup Msg User}
    {admits : Config (World Msg User) (Thread Msg User) →
      Event (Thread Msg User) (Choice Msg) → Prop}
    {config : Config (World Msg User) (Thread Msg User)}
    (reachable : setup.system.ReachableBy admits config) :
    config.shared.Timed ∧ ∀ thread ∈ config.threads, thread.Timed config.shared.steadyNow := by
  let holds (config : Config (World Msg User) (Thread Msg User)) : Prop :=
    config.shared.Timed ∧ ∀ thread ∈ config.threads, thread.Timed config.shared.steadyNow
  have initially : holds setup.initial := by
    refine ⟨⟨fun received member => ?_, fun _ member => absurd member List.not_mem_nil,
      List.Pairwise.nil⟩, fun thread member => ?_⟩
    · rw [show setup.initial.shared.listener.pendingMessages = [] from setup.listener_fresh.2.1]
        at member
      exact absurd member List.not_mem_nil
    · rcases mem_initial_threads member with ⟨pool, rfl⟩ | rfl <;> trivial
  refine Program.invariant initially ?_ ?_ reachable
  · intro config thread _ held _ allowed
    refine ⟨held.1, fun other member => ?_⟩
    rcases List.mem_append.mp member with old | new
    · exact held.2 other old
    · rw [List.mem_singleton.mp new]
      rcases spawns_cases allowed with ⟨rfl, _⟩ | rfl | rfl <;> trivial
  · intro config self choice thread thread' shared _ held _ found acted
    obtain ⟨forward, timed, threadTimed⟩ := worldActs_timed (worldAct_cases acted) held.1
      (held.2 thread (List.mem_of_getElem? found))
    exact ⟨timed, forall_mem_set (fun other member => (held.2 other member).later forward)
      threadTimed⟩

/-! ### Callbacks -/

/-- A callback of the user: the context it got, and when it ended, if it has. -/
structure CallbackSpan where
  context : DdsMessageContext
  ended : Option Int

/-- The context of the user callback a drain task is in. -/
def DrainPhase.contexts : DrainPhase Msg User → List DdsMessageContext
  | .inCallback run => run.context.toList
  | _ => []

/-- The context of the user callback a thread is in. -/
def Thread.contexts : Thread Msg User → List DdsMessageContext
  | .worker _ (.running (.drain phase)) => phase.contexts
  | _ => []

/-- The callback a step ends. -/
def endedSpans (world : World Msg User) (thread thread' : Thread Msg User) :
    List CallbackSpan :=
  if thread'.contexts.isEmpty then
    thread.contexts.map fun context => ⟨context, some world.steadyNow⟩
  else []

/-- The world with a record of the callbacks that have ended. -/
abbrev Setup.timingSystem (setup : Setup Msg User) :=
  ((listenerProgram Msg User).recorded endedSpans).system setup.initial.unlogged

/-- The callbacks begun so far, in the order they began: those that have ended, and the one in
progress. -/
def callbackSpans (threads : List (Thread Msg User)) (ended : List CallbackSpan) :
    List CallbackSpan :=
  ended ++ (gather Thread.contexts threads).map fun context => ⟨context, none⟩

/-- What a step does to the callbacks: nothing, begin one for the message in hand, or end one. -/
inductive SpanActs (world : World Msg User) (thread thread' : Thread Msg User)
    (world' : World Msg User) : Prop where
  | keep (contexts : thread'.contexts = thread.contexts)
      (delivered : world'.history.delivered = world.history.delivered)
  | begin (popped : DdsReaderListener.Popped Msg User) (idle : thread.contexts = [])
      (engaged : thread.unrecorded = 1) (holds : thread.holds = 1)
      (inHand : thread.inHand = [popped.pendingMessage])
      (contexts : thread'.contexts = [popped.context world.steadyNow world.systemNow])
      (delivered : world'.history.delivered = world.history.delivered ++ [popped.pendingMessage])
  | finish (context : DdsMessageContext) (contexts : thread.contexts = [context])
      (engaged : thread.unrecorded = 1) (idle : thread'.contexts = [])
      (delivered : world'.history.delivered = world.history.delivered)

section Spans

variable {self : ThreadId} {world world' : World Msg User} {thread thread' : Thread Msg User}

theorem Thread.contexts_eq_nil {thread : Thread Msg User} (idle : thread.unrecorded = 0) :
    thread.contexts = [] := by
  unfold contexts
  split
  · rename_i phase
    cases phase with
    | inCallback => exact absurd idle Nat.one_ne_zero
    | _ => rfl
  · rfl

theorem Thread.inHand_eq_nil_of_recorded {thread : Thread Msg User}
    (idle : thread.unrecorded = 0) : thread.inHand = [] := by
  unfold inHand
  split
  · rename_i phase
    cases phase with
    | popped => exact absurd idle Nat.one_ne_zero
    | _ => rfl
  · rfl

theorem callActs_delivered {phase phase' : CallPhase Msg}
    (acts : CallActs world phase phase' world') :
    world'.history.delivered = world.history.delivered := by
  cases acts <;> rfl

theorem drainActs_spans (pool : Pool) {phase : DrainPhase Msg User}
    {phase' : Option (DrainPhase Msg User)} (acts : DrainActs self world phase phase' world') :
    SpanActs world (.worker pool (.running (.drain phase)))
      (.worker pool (phase'.elim .ready fun next => .running (.drain next))) world' := by
  cases acts with
  | begin popped => exact .begin popped rfl rfl rfl rfl rfl rfl
  | close _ _ _ _ _ _ _ closed => exact .keep rfl (by rw [(closeActs_past closed).1])
  | finish popped start context =>
    cases context with
    | none => cases popped.metricsEnabled <;> exact .keep rfl rfl
    | some context => cases popped.metricsEnabled <;> exact .finish context rfl rfl rfl rfl
  | release phase _ released =>
    have past := (releases_past released).1
    cases phase <;> exact .keep rfl (by rw [past])
  | destroy _ phase' _ destroyed =>
    have past := (destroyActs_past destroyed).1
    cases phase' <;> exact .keep rfl (by rw [past])
  | _ => exact .keep rfl rfl

theorem worldActs_spans (acts : WorldActs self world thread thread' world') :
    SpanActs world thread thread' world' := by
  cases acts with
  | call _ _ _ acts => exact .keep rfl (callActs_delivered acts)
  | drain pool _ _ _ acts => exact drainActs_spans pool acts
  | drainEnd pool _ _ acts => exact drainActs_spans pool acts
  | run _ _ _ _ ran =>
    cases ran with
    | take task => cases task <;> exact .keep rfl rfl
    | _ => exact .keep rfl rfl
  | close _ _ _ acts => exact .keep rfl (by rw [(closeActs_past acts).1])
  | _ => exact .keep rfl rfl

/-- While a thread has a message in hand, what has been delivered and that message are in the
order the samples were taken. -/
theorem delivered_inHand_sublist {setup : Setup Msg User}
    {config : Config (World Msg User) (Thread Msg User)}
    (reachable : setup.system.ReachableBy NonOverlapping config)
    (found : config.threads[self]? = some thread) (engaged : thread.unrecorded = 1)
    (holds : thread.holds = 1) :
    (config.shared.history.delivered ++ thread.inHand).Sublist config.shared.history.taken := by
  have invariant := drainInvariant_reachable reachable
  have alive : 0 < config.shared.useCount := by
    have references := invariant.references
    have own := weight_le_tally Thread.holds found
    omega
  have whole : tally Thread.unrecorded config.threads ≤ thread.unrecorded := by
    rw [engaged]
    exact invariant.tally_le_one Thread.unrecorded_le_active Thread.unrecorded_le_holds
  have alone := (gather_set_of_alone Thread.inHand Thread.unrecorded
    (fun _ => Thread.inHand_eq_nil_of_recorded) found whole thread).1
  have survives := (ledger_sound reachable alive).inOrder
  have offered := ((offerInvariant_reachable reachable).offered_numbered alive).1
  calc config.shared.history.delivered ++ thread.inHand
    _ = config.shared.history.delivered ++ gather Thread.inHand config.threads := by rw [alone]
    _ |>.Sublist ((ledger config).surviving) := List.sublist_append_left _ _
    _ |>.Sublist config.shared.history.offered := survives
    _ |>.Sublist config.shared.history.taken := offered.sublist

end Spans

/-! ### The invariant -/

/-- A context whose times are in order. -/
structure DdsMessageContext.Ordered (context : DdsMessageContext) : Prop where
  entered : context.listenerEnterSteadyTime ≤ context.ddsRxSteadyTime
  received : context.ddsRxSteadyTime ≤ context.callbackStartSteadyTime
  enterDelay : context.listenerEnterToDdsRxDelay =
    context.ddsRxSteadyTime - context.listenerEnterSteadyTime
  callbackDelay : context.ddsRxToCallbackDelay =
    context.callbackStartSteadyTime - context.ddsRxSteadyTime

/-- A callback that ended before another began. -/
def CallbackSpan.Before (earlier later : CallbackSpan) : Prop :=
  ∃ time, earlier.ended = some time ∧ earlier.context.callbackStartSteadyTime ≤ time ∧
    time ≤ later.context.callbackStartSteadyTime

/-- What the record of callbacks keeps. -/
structure SpanInvariant (config : Config (World Msg User) (Thread Msg User))
    (ended : List CallbackSpan) : Prop where
  past : ∀ span ∈ ended, ∃ time, span.ended = some time ∧
    span.context.callbackStartSteadyTime ≤ time ∧ time ≤ config.shared.steadyNow
  ordered : ∀ span ∈ ended, span.context.Ordered
  sequential : (callbackSpans config.threads ended).Pairwise CallbackSpan.Before
  received : (callbackSpans config.threads ended).map (fun span => span.context.ddsRxSteadyTime) =
    config.shared.history.delivered.map fun received => received.enqueuedAt
  sorted : (config.shared.history.delivered.map fun received =>
    received.enqueuedAt).Pairwise (· ≤ ·)

section Invariant

variable {setup : Setup Msg User} {config : Config (World Msg User) (Thread Msg User)}
  {ended : List CallbackSpan}

/-- The context of a callback in progress is in order, and the callback has started. -/
theorem Thread.Timed.contexts {now : Int} {thread : Thread Msg User} (timed : thread.Timed now)
    {context : DdsMessageContext} (member : context ∈ thread.contexts) :
    context.Ordered ∧ context.callbackStartSteadyTime ≤ now := by
  unfold Thread.contexts at member
  split at member
  · rename_i phase
    cases phase with
    | inCallback run =>
      obtain ⟨system, rfl⟩ := timed.2.2 context (Option.mem_toList.mp member)
      exact ⟨⟨timed.1.entered, timed.1.past, rfl, rfl⟩, timed.2.1⟩
    | _ => exact absurd member List.not_mem_nil
  · exact absurd member List.not_mem_nil

theorem spanInvariant_initial (setup : Setup Msg User) : SpanInvariant setup.initial [] := by
  have idle : gather Thread.contexts setup.initial.threads = [] := by
    refine gather_eq_nil.mpr fun thread member => ?_
    rcases mem_initial_threads member with ⟨pool, rfl⟩ | rfl <;> rfl
  have noSpans : callbackSpans setup.initial.threads [] = [] := by
    unfold callbackSpans
    rw [idle]
    rfl
  refine ⟨fun _ member => absurd member List.not_mem_nil,
    fun _ member => absurd member List.not_mem_nil, ?_, ?_, List.Pairwise.nil⟩
  · rw [noSpans]
    exact List.Pairwise.nil
  · rw [noSpans]
    rfl

section Steps

variable {shared : World Msg User} {threads : List (Thread Msg User)}

/-- What has ended stays in the past while time goes on. -/
theorem SpanInvariant.later (invariant : SpanInvariant config ended)
    (forward : config.shared.steadyNow ≤ shared.steadyNow) : ∀ span ∈ ended,
    ∃ time, span.ended = some time ∧ span.context.callbackStartSteadyTime ≤ time ∧
      time ≤ shared.steadyNow := by
  intro span member
  obtain ⟨time, is, start, past⟩ := invariant.past span member
  exact ⟨time, is, start, Int.le_trans past forward⟩

/-- A step that leaves the callbacks as they are. -/
theorem SpanInvariant.keep (invariant : SpanInvariant config ended)
    (forward : config.shared.steadyNow ≤ shared.steadyNow)
    (same : callbackSpans threads ended = callbackSpans config.threads ended)
    (delivered : shared.history.delivered = config.shared.history.delivered) :
    SpanInvariant { shared := shared, threads := threads } ended := by
  refine ⟨invariant.later forward, invariant.ordered, ?_, ?_, ?_⟩
  · rw [same]
    exact invariant.sequential
  · rw [same, delivered]
    exact invariant.received
  · rw [delivered]
    exact invariant.sorted

/-- A callback begins while none is in progress. -/
theorem SpanInvariant.begin (invariant : SpanInvariant config ended)
    (forward : config.shared.steadyNow ≤ shared.steadyNow)
    {popped : DdsReaderListener.Popped Msg User}
    (idle : callbackSpans config.threads ended = ended)
    (begun : callbackSpans threads ended = ended ++
      [⟨popped.context config.shared.steadyNow config.shared.systemNow, none⟩])
    (delivered : shared.history.delivered =
      config.shared.history.delivered ++ [popped.pendingMessage])
    (sorted : (shared.history.delivered.map fun received =>
      received.enqueuedAt).Pairwise (· ≤ ·)) :
    SpanInvariant { shared := shared, threads := threads } ended := by
  have sequential := invariant.sequential
  have received := invariant.received
  rw [idle] at sequential received
  refine ⟨invariant.later forward, invariant.ordered, ?_, ?_, sorted⟩
  · rw [begun]
    refine List.pairwise_append.mpr ⟨sequential, List.pairwise_singleton _ _, ?_⟩
    intro earlier member now present
    rw [List.mem_singleton.mp present]
    exact invariant.past earlier member
  · rw [begun, delivered, List.map_append, List.map_append, received]
    rfl

/-- The callback in progress ends. -/
theorem SpanInvariant.finish (invariant : SpanInvariant config ended)
    (forward : config.shared.steadyNow ≤ shared.steadyNow) {context : DdsMessageContext}
    (ordered : context.Ordered)
    (started : context.callbackStartSteadyTime ≤ config.shared.steadyNow)
    (begun : callbackSpans config.threads ended = ended ++ [⟨context, none⟩])
    (closed : callbackSpans threads (ended ++ [⟨context, some config.shared.steadyNow⟩]) =
      ended ++ [⟨context, some config.shared.steadyNow⟩])
    (delivered : shared.history.delivered = config.shared.history.delivered) :
    SpanInvariant { shared := shared, threads := threads }
      (ended ++ [⟨context, some config.shared.steadyNow⟩]) := by
  have sequential := invariant.sequential
  have received := invariant.received
  rw [begun] at sequential received
  refine ⟨fun span member => ?_, fun span member => ?_, ?_, ?_, ?_⟩
  · rcases List.mem_append.mp member with old | new
    · exact invariant.later forward span old
    · rw [List.mem_singleton.mp new]
      exact ⟨config.shared.steadyNow, rfl, started, forward⟩
  · rcases List.mem_append.mp member with old | new
    · exact invariant.ordered span old
    · rw [List.mem_singleton.mp new]
      exact ordered
  · obtain ⟨earlier, _, across⟩ := List.pairwise_append.mp sequential
    rw [closed]
    refine List.pairwise_append.mpr ⟨earlier, List.pairwise_singleton _ _, ?_⟩
    intro span member now present
    rw [List.mem_singleton.mp present]
    exact across span member ⟨context, none⟩ (List.mem_singleton_self _)
  · rw [closed, delivered, ← received, List.map_append, List.map_append]
    rfl
  · rw [delivered]
    exact invariant.sorted

end Steps

theorem spanInvariant_spawn {thread : Thread Msg User} (invariant : SpanInvariant config ended)
    (allowed : thread.spawns config.shared = true) :
    SpanInvariant { config with threads := config.threads ++ [thread] } ended := by
  have idle : thread.contexts = [] := by
    rcases spawns_cases allowed with ⟨rfl, _⟩ | rfl | rfl <;> rfl
  have same : callbackSpans (config.threads ++ [thread]) ended =
      callbackSpans config.threads ended := by
    unfold callbackSpans
    rw [gather_append, gather_cons, idle]
    simp only [gather_nil, List.append_nil]
  exact invariant.keep (Int.le_refl _) same rfl

/-- A step ends no callback unless it leaves one. -/
theorem endedSpans_eq_nil {thread thread' : Thread Msg User} {world : World Msg User}
    (stays : thread'.contexts = [] → thread.contexts = []) :
    endedSpans world thread thread' = [] := by
  unfold endedSpans
  split
  · rename_i empty
    rw [stays (List.isEmpty_iff.mp empty)]
    rfl
  · rfl

theorem spanInvariant_act {self : ThreadId} {thread thread' : Thread Msg User}
    {shared : World Msg User} (reachable : setup.system.ReachableBy NonOverlapping config)
    (invariant : SpanInvariant config ended) (found : config.threads[self]? = some thread)
    (acts : WorldActs self config.shared thread thread' shared) :
    SpanInvariant { shared := shared, threads := config.threads.set self thread' }
      (ended ++ endedSpans config.shared thread thread') := by
  obtain ⟨timed, threadsTimed⟩ := timed_reachable reachable
  have threadTimed := threadsTimed thread (List.mem_of_getElem? found)
  have forward := (worldActs_timed acts timed threadTimed).1
  have alone : thread.unrecorded = 1 → gather Thread.contexts config.threads = thread.contexts ∧
      gather Thread.contexts (config.threads.set self thread') = thread'.contexts := by
    intro engaged
    have single := (drainInvariant_reachable reachable).tally_le_one
      Thread.unrecorded_le_active Thread.unrecorded_le_holds
    exact gather_set_of_alone Thread.contexts Thread.unrecorded
      (fun _ => Thread.contexts_eq_nil) found (by omega) thread'
  cases worldActs_spans acts with
  | keep contexts delivered =>
    rw [endedSpans_eq_nil contexts.symm.trans, List.append_nil]
    refine invariant.keep forward ?_ delivered
    unfold callbackSpans
    rw [gather_set_of_eq Thread.contexts found contexts]
  | begin popped idle engaged holds inHand contexts delivered =>
    obtain ⟨before, after⟩ := alone engaged
    have inOrder := delivered_inHand_sublist reachable found engaged holds
    rw [inHand, ← delivered] at inOrder
    rw [endedSpans_eq_nil fun _ => idle, List.append_nil]
    refine invariant.begin forward ?_ ?_ delivered (timed.sorted.sublist (inOrder.map _))
    · unfold callbackSpans
      rw [before, idle, List.map_nil, List.append_nil]
    · unfold callbackSpans
      rw [after, contexts, List.map_singleton]
  | finish context contexts engaged idle delivered =>
    obtain ⟨before, after⟩ := alone engaged
    obtain ⟨ordered, started⟩ :=
      threadTimed.contexts (contexts ▸ List.mem_singleton_self context)
    have emitted : endedSpans config.shared thread thread' =
        [⟨context, some config.shared.steadyNow⟩] := by
      unfold endedSpans
      rw [idle, contexts]
      rfl
    rw [emitted]
    refine invariant.finish forward ordered started ?_ ?_ delivered
    · unfold callbackSpans
      rw [before, contexts, List.map_singleton]
    · unfold callbackSpans
      rw [after, idle, List.map_nil, List.append_nil]

theorem spanInvariant_reachable
    {config : Config (World Msg User × List CallbackSpan) (Thread Msg User)}
    (reachable : setup.timingSystem.ReachableBy (Program.whileRecorded NonOverlapping) config) :
    SpanInvariant config.plain config.shared.2 := by
  refine Program.recorded_invariant (spanInvariant_initial setup) ?_ ?_ reachable
  · intro config ended thread _ invariant _ allowed
    exact spanInvariant_spawn invariant allowed
  · intro config ended self choice thread thread' shared reached invariant _ found acted
    exact spanInvariant_act reached invariant found (worldAct_cases acted)

/-! ### Timing -/

/-- A duration that is not negative has a count of microseconds that is not negative, and a count
that fits keeps its value in the cast. -/
theorem castUint64_microseconds {duration : Int} (forward : 0 ≤ duration) :
    0 ≤ DdsReaderListener.microseconds duration ∧
      (DdsReaderListener.microseconds duration < 2 ^ 64 →
        (DdsReaderListener.castUint64 (DdsReaderListener.microseconds duration) : Int) =
          DdsReaderListener.microseconds duration) := by
  have count : 0 ≤ DdsReaderListener.microseconds duration := by
    unfold DdsReaderListener.microseconds
    exact Int.tdiv_nonneg forward (by decide)
  refine ⟨count, fun fits => ?_⟩
  unfold DdsReaderListener.castUint64
  rw [BitVec.toNat_ofInt]
  omega

/-- The larger of an earlier maximum and a count that is cast. -/
theorem max_castUint64 {duration : Int} (forward : 0 ≤ duration)
    (fits : DdsReaderListener.microseconds duration < 2 ^ 64) (earlier : Nat) :
    (max earlier (DdsReaderListener.castUint64 (DdsReaderListener.microseconds duration)) : Nat) =
      max (earlier : Int) (DdsReaderListener.microseconds duration) := by
  have kept := (castUint64_microseconds forward).2 fits
  omega

/-- The times of a message are in order and their differences never wrap. Under any policy and
number of workers, with a steady clock that does not go back and calls of `on_data_available`
that do not overlap, in every state a reader reaches: every context a callback got has its enter,
receive and start times in order, so neither recorded delay is negative; the two counts of
microseconds about to be cast and recorded are not negative, so the casts keep every value that
fits in 64 bits, and the two maxima recorded are those of the earlier maxima and these counts; the
callbacks begun are those of the messages delivered, with receive times that do not decrease; and
each callback has ended before a later one started. -/
theorem message_timing_ordered (setup : Setup Msg User)
    {config : Config (World Msg User × List CallbackSpan) (Thread Msg User)}
    (reachable : setup.timingSystem.ReachableBy (Program.whileRecorded NonOverlapping) config) :
    (∀ span ∈ callbackSpans config.threads config.shared.2,
      span.context.listenerEnterSteadyTime ≤ span.context.ddsRxSteadyTime ∧
      span.context.ddsRxSteadyTime ≤ span.context.callbackStartSteadyTime ∧
      0 ≤ span.context.listenerEnterToDdsRxDelay ∧ 0 ≤ span.context.ddsRxToCallbackDelay) ∧
    (∀ pool popped start callbackEnd,
      .worker pool (.running (.drain (.recording popped start callbackEnd))) ∈ config.threads →
      ∀ duration ∈ [start - popped.pendingMessage.enqueuedAt, callbackEnd - start],
        0 ≤ DdsReaderListener.microseconds duration ∧
        (DdsReaderListener.microseconds duration < 2 ^ 64 →
          (DdsReaderListener.castUint64 (DdsReaderListener.microseconds duration) : Int) =
            DdsReaderListener.microseconds duration)) ∧
    (∀ pool popped start callbackEnd,
      .worker pool (.running (.drain (.recording popped start callbackEnd))) ∈ config.threads →
      let listener := config.shared.1.listener
      let recorded := listener.recordCallbackLocked popped start callbackEnd
      let queueLatencyUs :=
        DdsReaderListener.microseconds (start - popped.pendingMessage.enqueuedAt)
      let callbackDurationUs := DdsReaderListener.microseconds (callbackEnd - start)
      (queueLatencyUs < 2 ^ 64 → (recorded.metrics.maxQueueLatencyUs : Int) =
        max (listener.metrics.maxQueueLatencyUs : Int) queueLatencyUs) ∧
      (callbackDurationUs < 2 ^ 64 → (recorded.metrics.maxCallbackDurationUs : Int) =
        max (listener.metrics.maxCallbackDurationUs : Int) callbackDurationUs)) ∧
    (callbackSpans config.threads config.shared.2).map
        (fun span => span.context.ddsRxSteadyTime) =
      config.shared.1.history.delivered.map (fun received => received.enqueuedAt) ∧
    ((callbackSpans config.threads config.shared.2).map
      fun span => span.context.ddsRxSteadyTime).Pairwise (· ≤ ·) ∧
    (callbackSpans config.threads config.shared.2).Pairwise CallbackSpan.Before := by
  have invariant := spanInvariant_reachable reachable
  have plain := Program.plain_reachable reachable
  have threadsTimed := (timed_reachable plain).2
  have counted {pool : Pool} {popped : DdsReaderListener.Popped Msg User} {start callbackEnd : Int}
      (member : .worker pool (.running (.drain (.recording popped start callbackEnd))) ∈
        config.threads) :
      0 ≤ start - popped.pendingMessage.enqueuedAt ∧ 0 ≤ callbackEnd - start := by
    obtain ⟨timed, forward, _⟩ := threadsTimed _ member
    exact ⟨Int.sub_nonneg_of_le timed.past, Int.sub_nonneg_of_le forward⟩
  refine ⟨fun span member => ?_, fun pool popped start callbackEnd member duration among => ?_,
    fun pool popped start callbackEnd member => ?_, invariant.received, ?_, invariant.sequential⟩
  · have ordered : span.context.Ordered := by
      rcases List.mem_append.mp member with old | unended
      · exact invariant.ordered span old
      · obtain ⟨context, held, rfl⟩ := List.mem_map.mp unended
        obtain ⟨thread, present, inThread⟩ := List.mem_flatMap.mp held
        exact ((threadsTimed thread present).contexts inThread).1
    refine ⟨ordered.entered, ordered.received, ?_, ?_⟩
    · rw [ordered.enterDelay]
      exact Int.sub_nonneg_of_le ordered.entered
    · rw [ordered.callbackDelay]
      exact Int.sub_nonneg_of_le ordered.received
  · obtain ⟨queued, ran⟩ := counted member
    rcases List.mem_pair.mp among with rfl | rfl
    · exact castUint64_microseconds queued
    · exact castUint64_microseconds ran
  · obtain ⟨queued, ran⟩ := counted member
    exact ⟨fun fits => max_castUint64 queued fits _, fun fits => max_castUint64 ran fits _⟩
  · have sorted := invariant.sorted
    rwa [← invariant.received] at sorted

/-- Two samples arrive at different times, and the callback for the first has ended. -/
def firstEndedRun : List (Event (Thread Nat (List Nat)) (Choice Nat)) :=
  arrival 3 [5, 6] ++ scheduling 3 ++ [.act 2 (.tick 1500 0)] ++ beginning 0 ++
    [.act 0 .handle, .act 2 (.tick 4000 0), .act 0 .proceed]

theorem firstEndedRun_isSome :
    (((loggingSetup boundedOptions 2).timingSystem.restrict
      (Program.whileRecorded NonOverlapping)).run firstEndedRun).isSome = true := rfl

/-- The state `firstEndedRun` ends in. -/
def firstEnded : Config (World Nat (List Nat) × List CallbackSpan) (Thread Nat (List Nat)) :=
  (((loggingSetup boundedOptions 2).timingSystem.restrict
    (Program.whileRecorded NonOverlapping)).run firstEndedRun).get firstEndedRun_isSome

theorem message_timing_ordered_firstEnded :
    (callbackSpans firstEnded.threads firstEnded.shared.2).map
        (fun span => (span.context.callbackStartSteadyTime, span.ended)) =
      [(1500, some 4000)] ∧
    (∃ popped, .worker .shared (.running (.drain (.recording popped 1500 4000))) ∈
        firstEnded.threads ∧
      ((firstEnded.shared.1.listener.recordCallbackLocked popped 1500
        4000).metrics.maxCallbackDurationUs : Int) =
          max (firstEnded.shared.1.listener.metrics.maxCallbackDurationUs : Int) 2) ∧
    (callbackSpans firstEnded.threads firstEnded.shared.2).map
        (fun span => span.context.ddsRxSteadyTime) =
      firstEnded.shared.1.history.delivered.map (fun received => received.enqueuedAt) ∧
    ((callbackSpans firstEnded.threads firstEnded.shared.2).map
      fun span => span.context.ddsRxSteadyTime).Pairwise (· ≤ ·) ∧
    (callbackSpans firstEnded.threads firstEnded.shared.2).Pairwise CallbackSpan.Before := by
  obtain ⟨_, _, recorded, inOrder⟩ := message_timing_ordered (loggingSetup boundedOptions 2)
    (.of_restrict (System.reachable_of_run (Option.some_get firstEndedRun_isSome).symm))
  have recording : ∃ popped, .worker .shared (.running (.drain (.recording popped 1500 4000))) ∈
      firstEnded.threads := ⟨_, List.mem_cons_self⟩
  obtain ⟨popped, member⟩ := recording
  exact ⟨rfl, ⟨popped, member, (recorded _ popped 1500 4000 member).2 (by decide)⟩, inOrder⟩

end Invariant

end Booster.Common
