/-
This file proves the delivery of a reader: in order, at most once, and with every
sample accounted for.

Each state of the reader has a ledger, the abstract lossy queue of
`Library.LossyQueue`: what was offered, what was handed to the user callback, what
is popped and not yet handed over, what is pending and what the overflow policy
removed. Every step of every thread is some number of ledger steps; a batch is one
offer for each of its messages. That at most one message is in hand is where the
single drain is used. The order of the offers is the order of the samples only when
the calls of `on_data_available` do not overlap, which is the assumption the runs
here are restricted to.
-/

import BoosterSdk.SingleDrain

namespace Booster.Common

open Interleaving LossyQueue

variable {Msg User : Type}

/-! ### Samples held by threads -/

/-- The message a drain task has popped and not yet handed to the callback. -/
def DrainPhase.inHand : DrainPhase Msg User → List (Received Msg)
  | .popped taken => [taken.pendingMessage]
  | _ => []

namespace Thread

/-- The message a thread has popped and not yet handed to the callback. -/
def inHand : Thread Msg User → List (Received Msg)
  | .worker _ (.running (.drain phase)) => phase.inHand
  | _ => []

/-- The samples a call has taken and not yet offered to the queue. -/
def ready : Thread Msg User → List (Received Msg)
  | .call (.taking _ _ ready) => ready
  | .call (.filled ready) => ready
  | _ => []

/-- A call of `on_data_available` in progress. -/
def calling : Thread Msg User → Nat
  | .call .returned => 0
  | .call _ => 1
  | _ => 0

theorem inHand_eq_nil {thread : Thread Msg User} (idle : thread.active = 0) :
    thread.inHand = [] := by
  unfold inHand
  split
  · rename_i phase
    cases phase with
    | popped popped => exact absurd idle Nat.one_ne_zero
    | _ => rfl
  · rfl

theorem calling_le_one (thread : Thread Msg User) : thread.calling ≤ 1 := by
  unfold calling
  split <;> decide

theorem ready_eq_nil {thread : Thread Msg User} (idle : thread.calling = 0) :
    thread.ready = [] := by
  unfold ready
  split
  · exact absurd idle Nat.one_ne_zero
  · exact absurd idle Nat.one_ne_zero
  · rfl

end Thread

/-! ### Callbacks are there -/

/-- A call that is past its first test has seen a callback. -/
def CallPhase.Serves (callback : Option (DdsReaderCallback Msg User)) : CallPhase Msg → Prop
  | .entered => True
  | .returned => True
  | _ => callback.isSome = true

/-- A drain task that has popped a message has copied the callback. -/
def DrainPhase.Serves (callback : Option (DdsReaderCallback Msg User)) :
    DrainPhase Msg User → Prop
  | .popped taken => taken.cb = callback ∧ callback.isSome = true
  | .inCallback run => run.popped.cb = callback
  | _ => True

def Thread.Serves (callback : Option (DdsReaderCallback Msg User)) : Thread Msg User → Prop
  | .call phase => phase.Serves callback
  | .worker _ (.running (.drain phase)) => phase.Serves callback
  | _ => True

/-- A pending message means there is a callback to get it. -/
def World.Serves (callback : Option (DdsReaderCallback Msg User)) (world : World Msg User) :
    Prop :=
  world.listener.cb = callback ∧
    (world.listener.pendingMessages ≠ [] → callback.isSome = true)

section Serves

variable {self : ThreadId} {world world' : World Msg User}
  {callback : Option (DdsReaderCallback Msg User)}

theorem releases_serves {phase : Option DestroyPhase}
    (released : Releases self world phase world') (serves : world.Serves callback) :
    world'.Serves callback := by
  cases released with
  | shared => exact serves
  | last => exact ⟨serves.1, fun queued => absurd rfl queued⟩
  | lastDedicated => exact ⟨serves.1, fun queued => absurd rfl queued⟩

theorem destroyActs_serves {phase : DestroyPhase} {phase' : Option DestroyPhase}
    (acts : DestroyActs self world phase phase' world') (serves : world.Serves callback) :
    world'.Serves callback := by
  cases acts <;> exact serves

theorem closeActs_serves {phase phase' : ClosePhase}
    (acts : CloseActs self world phase phase' world') (serves : world.Serves callback) :
    world'.Serves callback := by
  cases acts with
  | reset _ _ released =>
    have before : World.Serves callback { world with channelHolds := false } := serves
    exact releases_serves released before
  | destroy _ _ _ destroyed => exact destroyActs_serves destroyed serves
  | _ => exact serves

theorem callActs_serves {phase phase' : CallPhase Msg}
    (acts : CallActs world phase phase' world') (serves : world.Serves callback)
    (served : phase.Serves callback) : world'.Serves callback ∧ phase'.Serves callback := by
  have same := congrArg Prod.fst (callActs_settings acts)
  cases acts with
  | enter _ present =>
    refine ⟨serves, ?_⟩
    show callback.isSome = true
    rw [← serves.1]
    exact present
  | configure =>
    exact ⟨⟨same.trans serves.1, fun _ => served⟩, served⟩
  | offer _ _ shouldSchedule =>
    refine ⟨⟨same.trans serves.1, fun _ => served⟩, ?_⟩
    cases shouldSchedule with
    | true => exact served
    | false => trivial
  | refuse | idle | abandon | notify => exact ⟨serves, trivial⟩
  | start | take | skip | fill | schedule | submit => exact ⟨serves, served⟩

theorem drainActs_serves {phase : DrainPhase Msg User} {phase' : Option (DrainPhase Msg User)}
    (acts : DrainActs self world phase phase' world') (serves : world.Serves callback)
    (served : phase.Serves callback) :
    world'.Serves callback ∧ ∀ next, phase' = some next → next.Serves callback := by
  cases acts with
  | pop message rest _ front =>
    have queued : world.listener.pendingMessages ≠ [] := by
      rw [front]
      exact List.cons_ne_nil message rest
    refine ⟨⟨serves.1, fun _ => serves.2 queued⟩, ?_⟩
    rintro next ⟨⟩
    exact ⟨serves.1, serves.2 queued⟩
  | uncalled | begin =>
    refine ⟨serves, ?_⟩
    rintro next ⟨⟩
    exact served.1
  | handle | callClose =>
    refine ⟨serves, ?_⟩
    rintro next ⟨⟩
    exact served
  | close _ _ _ _ _ _ _ closed =>
    refine ⟨closeActs_serves closed serves, ?_⟩
    rintro next ⟨⟩
    exact served
  | finish popped =>
    refine ⟨serves, ?_⟩
    rintro next ⟨⟩
    cases popped.metricsEnabled <;> trivial
  | release phase _ released =>
    refine ⟨releases_serves released serves, ?_⟩
    intro next is
    obtain ⟨_, _, rfl⟩ := Option.map_eq_some_iff.mp is
    trivial
  | destroy _ phase' _ destroyed =>
    refine ⟨destroyActs_serves destroyed serves, ?_⟩
    intro next is
    obtain ⟨_, _, rfl⟩ := Option.map_eq_some_iff.mp is
    trivial
  | expired =>
    refine ⟨serves, ?_⟩
    rintro next ⟨⟩
  | promote | leave | record =>
    refine ⟨serves, ?_⟩
    rintro next ⟨⟩
    trivial

theorem worldActs_serves {thread thread' : Thread Msg User}
    (acts : WorldActs self world thread thread' world') (serves : world.Serves callback)
    (served : thread.Serves callback) :
    world'.Serves callback ∧ thread'.Serves callback := by
  cases acts with
  | call _ _ _ acts => exact callActs_serves acts serves served
  | drain _ _ phase' _ acts =>
    obtain ⟨kept, next⟩ := drainActs_serves acts serves served
    exact ⟨kept, next phase' rfl⟩
  | drainEnd _ _ _ acts => exact ⟨(drainActs_serves acts serves served).1, trivial⟩
  | run _ _ _ _ ran =>
    refine ⟨serves, ?_⟩
    cases ran with
    | take task => cases task <;> trivial
    | _ => trivial
  | close _ _ _ acts => exact ⟨closeActs_serves acts serves, trivial⟩
  | _ => exact ⟨serves, trivial⟩

end Serves

/-- In every state a reader can reach, whoever holds a message has a callback to give it to. -/
theorem serves_reachable {setup : Setup Msg User}
    {admits : Config (World Msg User) (Thread Msg User) →
      Event (Thread Msg User) (Choice Msg) → Prop}
    {config : Config (World Msg User) (Thread Msg User)}
    (reachable : setup.system.ReachableBy admits config) :
    config.shared.Serves setup.listener.cb ∧
      ∀ thread ∈ config.threads, thread.Serves setup.listener.cb := by
  let holds (config : Config (World Msg User) (Thread Msg User)) : Prop :=
    config.shared.Serves setup.listener.cb ∧
      ∀ thread ∈ config.threads, thread.Serves setup.listener.cb
  have initially : holds setup.initial := by
    refine ⟨⟨rfl, fun queued => absurd ?_ queued⟩, fun thread member => ?_⟩
    · exact setup.listener_fresh.2.1
    · rcases mem_initial_threads member with ⟨pool, rfl⟩ | rfl <;> trivial
  refine Program.invariant initially ?_ ?_ reachable
  · intro config thread _ held _ allowed
    refine ⟨held.1, fun other member => ?_⟩
    rcases List.mem_append.mp member with old | new
    · exact held.2 other old
    · rw [List.mem_singleton.mp new]
      rcases spawns_cases allowed with ⟨rfl, _⟩ | rfl | rfl <;> trivial
  · intro config self choice thread thread' shared _ held _ found acted
    obtain ⟨serves, served⟩ := worldActs_serves (worldAct_cases acted) held.1
      (held.2 thread (List.mem_of_getElem? found))
    exact ⟨serves, forall_mem_set held.2 served⟩

/-! ### The ledger of a state -/

/-- What became of the samples offered so far, with the messages in hand given. -/
def World.ledger (world : World Msg User) (inHand : List (Received Msg)) :
    Ledger (Received Msg) where
  offered := world.history.offered
  delivered := world.history.delivered
  inHand := inHand
  pending := world.listener.pendingMessages
  removed := world.history.removed.map Removal.victim

/-- The ledger of a configuration. -/
def ledger (config : Config (World Msg User) (Thread Msg User)) : Ledger (Received Msg) :=
  config.shared.ledger (gather Thread.inHand config.threads)

section Ledger

variable {self : ThreadId} {world world' : World Msg User}

/-- Worlds with the same past and the same queue have the same ledger. -/
theorem ledger_eq (past : world'.history = world.history)
    (queue : world'.listener.pendingMessages = world.listener.pendingMessages)
    (inHand : List (Received Msg)) : world'.ledger inHand = world.ledger inHand := by
  unfold World.ledger
  rw [past, queue]

theorem closeActs_ledger {phase phase' : ClosePhase}
    (acts : CloseActs self world phase phase' world') (alive : 0 < world'.useCount)
    (inHand : List (Received Msg)) : world'.ledger inHand = world.ledger inHand := by
  refine ledger_eq (closeActs_past acts).1 ?_ inHand
  rw [(closeActs_frame acts).2 alive]

/-- A call either changes nothing or offers its batch. -/
theorem callActs_ledger {phase phase' : CallPhase Msg}
    (acts : CallActs world phase phase' world') (inHand : List (Received Msg)) :
    Ledger.Steps world.listener.executorOptions.rule (world.ledger inHand)
      (world'.ledger inHand) := by
  cases acts with
  | configure =>
    obtain ⟨configured, same⟩ :=
      DdsReaderListener.applyRealtimeListenerThreadConfigOnce_eq world.listener
    rw [same]
    exact Relation.ReflTransGen.refl
  | offer ready _ _ _ offered =>
    have batch := batch_steps world.listener.executorOptions ready (world.ledger inHand)
    have queue := DdsReaderListener.onDataAvailableLocked_queue offered
    simp only [World.ledger, queue, List.map_append]
    exact batch
  | _ => exact Relation.ReflTransGen.refl

/-- A drain task takes the front message or hands over the one it has; `others` are the messages
other threads have in hand, none while this drain is in its loop. -/
theorem drainActs_ledger {callback : Option (DdsReaderCallback Msg User)}
    {phase : DrainPhase Msg User} {phase' : Option (DrainPhase Msg User)}
    (acts : DrainActs self world phase phase' world') (alive : 0 < world'.useCount)
    (served : phase.Serves callback) (others : List (Received Msg))
    (alone : 0 < phase.active → others = []) :
    Ledger.Steps world.listener.executorOptions.rule (world.ledger (phase.inHand ++ others))
      (world'.ledger (phase'.elim [] DrainPhase.inHand ++ others)) := by
  cases acts with
  | pop message rest _ front =>
    rw [alone Nat.one_pos]
    exact Relation.ReflTransGen.single (.take message rest rfl front)
  | uncalled _ absent =>
    rw [← served.1, absent] at served
    exact absurd served.2 Bool.false_ne_true
  | begin popped =>
    rw [alone Nat.one_pos]
    exact Relation.ReflTransGen.single (.deliver popped.pendingMessage rfl)
  | close _ _ _ _ _ _ _ closed =>
    rw [closeActs_ledger closed alive]
    exact Relation.ReflTransGen.refl
  | finish popped =>
    cases popped.metricsEnabled <;> exact Relation.ReflTransGen.refl
  | release phase _ released =>
    obtain ⟨_, _, _, _, listener⟩ := releases_frame released
    rw [ledger_eq (releases_past released).1 (by rw [listener alive])]
    cases phase <;> exact Relation.ReflTransGen.refl
  | destroy _ phase' _ destroyed =>
    obtain ⟨_, _, _, _, listener⟩ := destroyActs_frame destroyed
    rw [ledger_eq (destroyActs_past destroyed).1 (by rw [listener])]
    cases phase' <;> exact Relation.ReflTransGen.refl
  | _ => exact Relation.ReflTransGen.refl

theorem drainActs_inHand {phase : DrainPhase Msg User} {phase' : Option (DrainPhase Msg User)}
    (acts : DrainActs self world phase phase' world') (idle : phase.active = 0) :
    phase'.elim [] DrainPhase.inHand = [] := by
  cases acts with
  | pop => exact absurd idle Nat.one_ne_zero
  | finish popped => cases popped.metricsEnabled <;> rfl
  | release phase => cases phase <;> rfl
  | destroy _ phase' => cases phase' <;> rfl
  | _ => rfl

variable {thread thread' : Thread Msg User}

/-- A step of any thread is some number of ledger steps. -/
theorem worldActs_ledger {callback : Option (DdsReaderCallback Msg User)}
    (acts : WorldActs self world thread thread' world') (alive : 0 < world'.useCount)
    (served : thread.Serves callback) (others : List (Received Msg))
    (alone : 0 < thread.active → others = []) :
    Ledger.Steps world.listener.executorOptions.rule (world.ledger (thread.inHand ++ others))
      (world'.ledger (thread'.inHand ++ others)) := by
  cases acts with
  | call _ _ _ acts => exact callActs_ledger acts others
  | drain _ _ _ _ acts => exact drainActs_ledger acts alive served others alone
  | drainEnd _ _ _ acts => exact drainActs_ledger acts alive served others alone
  | run _ _ _ _ ran =>
    cases ran with
    | take task => cases task <;> exact Relation.ReflTransGen.refl
    | _ => exact Relation.ReflTransGen.refl
  | close _ _ _ acts =>
    rw [closeActs_ledger acts alive]
    exact Relation.ReflTransGen.refl
  | _ => exact Relation.ReflTransGen.refl

/-- Only a drain in its loop takes a message in hand. -/
theorem worldActs_inHand (acts : WorldActs self world thread thread' world')
    (idle : thread.active = 0) : thread'.inHand = [] := by
  cases acts with
  | drain _ _ _ _ acts => exact drainActs_inHand acts idle
  | run _ _ _ _ ran =>
    cases ran with
    | take task => cases task <;> rfl
    | _ => rfl
  | _ => rfl

/-- A thread in its loop has at most the one message it has popped. -/
theorem inHand_length_le_active (thread : Thread Msg User) :
    thread.inHand.length ≤ thread.active := by
  unfold Thread.inHand
  split
  · rename_i phase
    cases phase with
    | popped => exact Nat.le_refl 1
    | _ => exact Nat.zero_le _
  · exact Nat.zero_le _

end Ledger

section Delivery

variable {setup : Setup Msg User} {config : Config (World Msg User) (Thread Msg User)}

/-- While a thread acts the others have the same messages in hand, and none while it is a drain
in its loop. -/
theorem inHand_split {self : ThreadId} {thread thread' : Thread Msg User} {shared : World Msg User}
    (invariant : DrainInvariant config) (found : config.threads[self]? = some thread)
    (acts : WorldActs self config.shared thread thread' shared) (alive : 0 < shared.useCount) :
    ∃ others, (0 < thread.active → others = []) ∧
      gather Thread.inHand config.threads = thread.inHand ++ others ∧
      gather Thread.inHand (config.threads.set self thread') = thread'.inHand ++ others := by
  by_cases idle : thread.active = 0
  · have before := Thread.inHand_eq_nil idle
    have after := worldActs_inHand acts idle
    refine ⟨gather Thread.inHand config.threads, fun active => absurd idle (Nat.ne_of_gt active),
      ?_, ?_⟩
    · rw [before, List.nil_append]
    · rw [after, List.nil_append]
      exact gather_set_of_eq Thread.inHand found (after.trans before.symm)
  · have outstanding := invariant.outstanding (worldActs_alive acts alive)
    have flag := Bool.toNat_le config.shared.listener.callbackScheduled
    have whole : tally Thread.active config.threads ≤ thread.active := by omega
    obtain ⟨before, after⟩ := gather_set_of_alone Thread.inHand Thread.active
      (fun _ => Thread.inHand_eq_nil) found whole thread'
    refine ⟨[], fun _ => rfl, ?_, ?_⟩
    · rw [before, List.append_nil]
    · rw [after, List.append_nil]

/-- At the beginning nothing is in hand. -/
theorem inHand_initial : gather Thread.inHand setup.initial.threads = [] := by
  refine gather_eq_nil.mpr fun thread member => ?_
  rcases mem_initial_threads member with ⟨pool, rfl⟩ | rfl <;> rfl

/-- A thread that starts has nothing in hand. -/
theorem inHand_spawned {thread : Thread Msg User} {world : World Msg User}
    (allowed : thread.spawns world = true) (threads : List (Thread Msg User)) :
    gather Thread.inHand (threads ++ [thread]) = gather Thread.inHand threads := by
  have inHand : thread.inHand = [] := by
    rcases spawns_cases allowed with ⟨rfl, _⟩ | rfl | rfl <;> rfl
  rw [gather_append, gather_cons, inHand, gather_nil, List.append_nil]
  exact List.append_nil _

/-- One step of a reader is some number of steps of its ledger. -/
theorem ledger_act {self : ThreadId} {thread thread' : Thread Msg User} {shared : World Msg User}
    {callback : Option (DdsReaderCallback Msg User)} (invariant : DrainInvariant config)
    (served : thread.Serves callback) (found : config.threads[self]? = some thread)
    (acts : WorldActs self config.shared thread thread' shared) (alive : 0 < shared.useCount) :
    Ledger.Steps config.shared.listener.executorOptions.rule (ledger config)
      (ledger { shared := shared, threads := config.threads.set self thread' }) := by
  obtain ⟨others, alone, before, after⟩ := inHand_split invariant found acts alive
  unfold ledger
  rw [before, after]
  exact worldActs_ledger acts alive served others alone

/-- At most one message is popped and not handed over. -/
theorem inHand_length_le_one (invariant : DrainInvariant config)
    (alive : 0 < config.shared.useCount) :
    (gather Thread.inHand config.threads).length ≤ 1 := by
  have outstanding := invariant.outstanding alive
  have flag := Bool.toNat_le config.shared.listener.callbackScheduled
  have active := tally_le_tally inHand_length_le_active config.threads
  rw [length_gather]
  omega

/-- A live reader refines the lossy queue with its overflow policy for a rule: its ledger is
reached from the empty one. -/
theorem ledger_reachable {admits : Config (World Msg User) (Thread Msg User) →
      Event (Thread Msg User) (Choice Msg) → Prop}
    (reachable : setup.system.ReachableBy admits config) (alive : 0 < config.shared.useCount) :
    Ledger.Steps setup.executorOptions.rule Ledger.empty (ledger config) := by
  let holds (config : Config (World Msg User) (Thread Msg User)) : Prop :=
    0 < config.shared.useCount →
      Ledger.Steps setup.executorOptions.rule Ledger.empty (ledger config)
  have initially : holds setup.initial := by
    intro _
    have pending : setup.initial.shared.listener.pendingMessages = [] :=
      setup.listener_fresh.2.1
    unfold ledger World.ledger
    rw [inHand_initial, pending]
    exact Relation.ReflTransGen.refl
  refine Program.invariant initially ?_ ?_ reachable alive
  · intro config thread _ earlier _ allowed alive
    unfold ledger
    rw [inHand_spawned allowed]
    exact earlier alive
  · intro config self choice thread thread' shared reached earlier _ found acted alive
    have acts := worldAct_cases acted
    have served := (serves_reachable reached).2 thread (List.mem_of_getElem? found)
    have steps := ledger_act (drainInvariant_reachable reached) served found acts alive
    rw [options_reachable reached] at steps
    exact (earlier (worldActs_alive acts alive)).trans steps

/-- The ledger of a live reader is sound. -/
theorem ledger_sound {admits : Config (World Msg User) (Thread Msg User) →
      Event (Thread Msg User) (Choice Msg) → Prop}
    (reachable : setup.system.ReachableBy admits config) (alive : 0 < config.shared.useCount) :
    (ledger config).Sound :=
  (ledger_reachable reachable alive).sound setup.executorOptions.rule_accounts

end Delivery

/-! ### The order of the offers -/

/-- Fast DDS makes one call of `on_data_available` at a time for one reader: a call begins only
when none is in progress. -/
def NonOverlapping (config : Config (World Msg User) (Thread Msg User)) :
    Event (Thread Msg User) (Choice Msg) → Prop
  | .spawn (.call _) => tally Thread.calling config.threads = 0
  | _ => True

instance (config : Config (World Msg User) (Thread Msg User))
    (event : Event (Thread Msg User) (Choice Msg)) : Decidable (NonOverlapping config event) :=
  match event with
  | .spawn (.call _) => inferInstanceAs (Decidable (tally Thread.calling config.threads = 0))
  | .spawn .clock | .spawn (.worker _ _) | .spawn (.closer _) | .spawn (.poster _) =>
    inferInstanceAs (Decidable True)
  | .act _ _ => inferInstanceAs (Decidable True)

/-- What the order of the offers rests on: one call at a time, samples numbered as they are
taken, and, while the listener is alive, every sample taken offered or still with the call. -/
structure OfferInvariant (config : Config (World Msg User) (Thread Msg User)) : Prop where
  alone : tally Thread.calling config.threads ≤ 1
  numbered : config.shared.history.taken.map Received.position =
    List.range config.shared.history.taken.length
  ordered : 0 < config.shared.useCount →
    config.shared.history.offered ++ gather Thread.ready config.threads =
      config.shared.history.taken

section Order

variable {self : ThreadId} {world world' : World Msg User} {thread thread' : Thread Msg User}

/-- A sample that is taken is numbered next. -/
theorem callActs_numbered {phase phase' : CallPhase Msg}
    (acts : CallActs world phase phase' world')
    (numbered : world.history.taken.map Received.position =
      List.range world.history.taken.length) :
    world'.history.taken.map Received.position = List.range world'.history.taken.length := by
  cases acts with
  | take =>
    rw [List.map_append, numbered, List.length_append, List.length_singleton, List.range_succ]
    rfl
  | _ => exact numbered

/-- A call keeps what it takes until it offers it. -/
theorem callActs_ordered {phase phase' : CallPhase Msg}
    (acts : CallActs world phase phase' world') (running : world.listener.stopRequested = false)
    (ordered : world.history.offered ++ (Thread.call phase : Thread Msg User).ready =
      world.history.taken) :
    world'.history.offered ++ (Thread.call phase' : Thread Msg User).ready =
      world'.history.taken := by
  cases acts with
  | refuse _ entering =>
    subst entering
    exact ordered
  | take enterSteady enterSystem ready message info =>
    simp only [Thread.ready] at ordered ⊢
    rw [← List.append_assoc, ordered]
  | abandon _ _ stopped => exact absurd (running.symm.trans stopped) Bool.false_ne_true
  | offer ready _ shouldSchedule =>
    cases shouldSchedule <;> exact (List.append_nil _).trans ordered
  | _ => exact ordered

/-- A call that steps is in progress. -/
theorem callActs_calling {phase phase' : CallPhase Msg}
    (acts : CallActs world phase phase' world') :
    (Thread.call phase : Thread Msg User).calling = 1 := by
  cases acts with
  | refuse _ entering =>
    subst entering
    rfl
  | _ => rfl

theorem drainActs_taken {phase : DrainPhase Msg User} {phase' : Option (DrainPhase Msg User)}
    (acts : DrainActs self world phase phase' world') :
    world'.history.taken = world.history.taken ∧
      world'.history.offered = world.history.offered := by
  cases acts with
  | close _ _ _ _ _ _ _ closed =>
    rw [(closeActs_past closed).1]
    exact ⟨rfl, rfl⟩
  | release _ _ released =>
    rw [(releases_past released).1]
    exact ⟨rfl, rfl⟩
  | destroy _ _ _ destroyed =>
    rw [(destroyActs_past destroyed).1]
    exact ⟨rfl, rfl⟩
  | _ => exact ⟨rfl, rfl⟩

/-- A step that is not a call's leaves calls, samples and offers alone. -/
theorem worldActs_uncalled (acts : WorldActs self world thread thread' world')
    (idle : thread.calling = 0) :
    thread'.calling = 0 ∧ world'.history.taken = world.history.taken ∧
      world'.history.offered = world.history.offered := by
  cases acts with
  | call _ _ _ acts => exact absurd idle (by rw [callActs_calling acts]; exact Nat.one_ne_zero)
  | drain _ _ _ _ acts => exact ⟨rfl, drainActs_taken acts⟩
  | drainEnd _ _ _ acts => exact ⟨rfl, drainActs_taken acts⟩
  | close _ _ _ acts =>
    rw [(closeActs_past acts).1]
    exact ⟨rfl, rfl, rfl⟩
  | _ => exact ⟨rfl, rfl, rfl⟩

variable {config : Config (World Msg User) (Thread Msg User)}

theorem offerInvariant_initial (setup : Setup Msg User) : OfferInvariant setup.initial := by
  have calling : tally Thread.calling setup.initial.threads = 0 :=
    tally_initial (fun _ => rfl) rfl
  have ready : gather Thread.ready setup.initial.threads = [] := gather_eq_nil.mpr
    fun thread member => Thread.ready_eq_nil (tally_eq_zero.mp calling thread member)
  refine ⟨by rw [calling]; exact Nat.zero_le 1, rfl, fun _ => ?_⟩
  rw [ready]
  rfl

theorem offerInvariant_spawn (invariant : OfferInvariant config)
    (admitted : NonOverlapping config (.spawn thread))
    (allowed : thread.spawns config.shared = true) :
    OfferInvariant { config with threads := config.threads ++ [thread] } := by
  have ready : thread.ready = [] := by
    rcases spawns_cases allowed with ⟨rfl, _⟩ | rfl | rfl <;> rfl
  refine ⟨?_, invariant.numbered, fun alive => ?_⟩
  · rw [tally_append, tally_cons, tally_nil]
    rcases spawns_cases allowed with ⟨rfl, _⟩ | rfl | rfl
    · have noneCalling : tally Thread.calling config.threads = 0 := admitted
      rw [noneCalling]
      exact Nat.le_refl 1
    · exact invariant.alone
    · exact invariant.alone
  · rw [gather_append, gather_cons, ready]
    simp only [gather_nil, List.append_nil]
    exact invariant.ordered alive

theorem offerInvariant_act (invariant : OfferInvariant config) (drain : DrainInvariant config)
    (found : config.threads[self]? = some thread)
    (acts : WorldActs self config.shared thread thread' world') :
    OfferInvariant { shared := world', threads := config.threads.set self thread' } := by
  have replaced := tally_set Thread.calling found thread'
  have alone := invariant.alone
  by_cases idle : thread.calling = 0
  · obtain ⟨idle', taken, offered⟩ := worldActs_uncalled acts idle
    have same := gather_set_of_eq Thread.ready found
      ((Thread.ready_eq_nil idle').trans (Thread.ready_eq_nil idle).symm)
    refine ⟨?_, ?_, fun alive => ?_⟩
    · simp only
      omega
    · simp only [taken]
      exact invariant.numbered
    · simp only [taken, offered, same]
      exact invariant.ordered (worldActs_alive acts alive)
  · have whole : tally Thread.calling config.threads ≤ thread.calling := by omega
    obtain ⟨before, after⟩ := gather_set_of_alone Thread.ready Thread.calling
      (fun _ => Thread.ready_eq_nil) found whole thread'
    have le := Thread.calling_le_one thread'
    cases acts with
    | call phase phase' _ acts =>
      refine ⟨?_, callActs_numbered acts invariant.numbered, fun alive => ?_⟩
      · simp only
        omega
      · have stepped : WorldActs self config.shared (.call phase) (.call phase') world' :=
          .call phase phase' world' acts
        have alive' := worldActs_alive stepped alive
        have ordered := invariant.ordered alive'
        rw [before] at ordered
        simp only [after]
        exact callActs_ordered acts (drain.attended alive').running ordered
    | _ => exact absurd rfl idle

theorem offerInvariant_reachable {setup : Setup Msg User}
    (reachable : setup.system.ReachableBy NonOverlapping config) : OfferInvariant config := by
  refine Program.invariant (offerInvariant_initial setup) ?_ ?_ reachable
  · intro config thread _ invariant admitted allowed
    exact offerInvariant_spawn invariant admitted allowed
  · intro config self choice thread thread' shared reached invariant _ found acted
    exact offerInvariant_act invariant (drainInvariant_reachable reached) found
      (worldAct_cases acted)

/-- What has been offered is a prefix of what has been taken, numbered from zero. -/
theorem OfferInvariant.offered_numbered (invariant : OfferInvariant config)
    (alive : 0 < config.shared.useCount) :
    config.shared.history.offered <+: config.shared.history.taken ∧
      config.shared.history.offered.map Received.position =
        List.range config.shared.history.offered.length := by
  have ordered := invariant.ordered alive
  refine ⟨⟨_, ordered⟩, ?_⟩
  have numbered := invariant.numbered
  rw [← ordered, List.map_append, List.length_append, List.range_add] at numbered
  exact (List.append_inj numbered (by rw [List.length_map, List.length_range])).1

end Order

/-! ### Removals -/

/-- Every removal recorded is one the overflow policy makes, and an unbounded queue that does
not keep only the latest message has none. -/
structure RemovalsBy (options : DdsReaderExecutorOptions) (removed : List (Removal Msg)) :
    Prop where
  justified : ∀ removal ∈ removed, removal.Justified options
  unbounded : options.queueCapacity = 0 → options.overflowPolicy ≠ .latestOnly → removed = []

theorem RemovalsBy.batch {options : DdsReaderExecutorOptions} {removed : List (Removal Msg)}
    (earlier : RemovalsBy options removed) (queue batch : List (Received Msg)) :
    RemovalsBy options (removed ++ batchRemovals options queue batch) := by
  refine ⟨fun removal member => ?_, fun unbounded keeps => ?_⟩
  · rcases List.mem_append.mp member with old | new
    · exact earlier.justified removal old
    · exact batchRemovals_justified options removal new
  · rw [earlier.unbounded unbounded keeps, batchRemovals_unbounded unbounded keeps]
    rfl

section Removals

variable {self : ThreadId} {world world' : World Msg User}

theorem callActs_removed {phase phase' : CallPhase Msg}
    (acts : CallActs world phase phase' world')
    (earlier : RemovalsBy world.listener.executorOptions world.history.removed) :
    RemovalsBy world.listener.executorOptions world'.history.removed := by
  cases acts with
  | offer ready => exact earlier.batch world.listener.pendingMessages ready
  | _ => exact earlier

theorem drainActs_removed {phase : DrainPhase Msg User} {phase' : Option (DrainPhase Msg User)}
    (acts : DrainActs self world phase phase' world') :
    world'.history.removed = world.history.removed := by
  cases acts with
  | close _ _ _ _ _ _ _ closed => rw [(closeActs_past closed).1]
  | release _ _ released => rw [(releases_past released).1]
  | destroy _ _ _ destroyed => rw [(destroyActs_past destroyed).1]
  | _ => rfl

/-- Only a call that enqueues removes messages. -/
theorem worldActs_removed {thread thread' : Thread Msg User}
    (acts : WorldActs self world thread thread' world')
    (earlier : RemovalsBy world.listener.executorOptions world.history.removed) :
    RemovalsBy world.listener.executorOptions world'.history.removed := by
  cases acts with
  | call _ _ _ acts => exact callActs_removed acts earlier
  | drain _ _ _ _ acts => rwa [drainActs_removed acts]
  | drainEnd _ _ _ acts => rwa [drainActs_removed acts]
  | close _ _ _ acts => rwa [(closeActs_past acts).1]
  | _ => exact earlier

end Removals

section Delivery

variable {setup : Setup Msg User} {config : Config (World Msg User) (Thread Msg User)}

theorem removals_reachable {admits : Config (World Msg User) (Thread Msg User) →
      Event (Thread Msg User) (Choice Msg) → Prop}
    (reachable : setup.system.ReachableBy admits config) :
    RemovalsBy setup.executorOptions config.shared.history.removed := by
  let holds (config : Config (World Msg User) (Thread Msg User)) : Prop :=
    RemovalsBy setup.executorOptions config.shared.history.removed
  have initially : holds setup.initial :=
    ⟨fun _ member => absurd member List.not_mem_nil, fun _ _ => rfl⟩
  refine Program.invariant initially ?_ ?_ reachable
  · intro config thread _ earlier _ _
    exact earlier
  · intro config self choice thread thread' shared reached earlier _ _ acted
    have step := worldActs_removed (worldAct_cases acted)
    rw [options_reachable reached] at step
    exact step earlier

/-! ### Delivery -/

/-- The samples that were not removed, in order: those handed to the user callback, the one
popped and not yet handed over, and those pending. -/
def survivors (config : Config (World Msg User) (Thread Msg User)) : List (Received Msg) :=
  config.shared.history.delivered ++ gather Thread.inHand config.threads ++
    config.shared.listener.pendingMessages

/-- Delivery is in order, at most once and fully accounted for. Under any overflow policy,
capacity and number of workers, in every state a reader reaches while its listener is alive by
calls that do not overlap: the samples offered are the first samples taken; at most one is
popped and not handed over; what survives is a subsequence of what was offered, with strictly
increasing positions; a position is missing from it exactly when the overflow policy removed
it, for the reason the policy gives; and an unbounded queue that drops the oldest or the newest
keeps everything. -/
theorem delivery_in_order_and_accounted (setup : Setup Msg User)
    (reachable : setup.system.ReachableBy NonOverlapping config)
    (alive : 0 < config.shared.useCount) :
    config.shared.history.offered <+: config.shared.history.taken ∧
    config.shared.history.offered.map Received.position =
      List.range config.shared.history.offered.length ∧
    (gather Thread.inHand config.threads).length ≤ 1 ∧
    (survivors config).Sublist config.shared.history.offered ∧
    ((survivors config).map Received.position).Pairwise (· < ·) ∧
    (∀ position < config.shared.history.offered.length,
      position ∉ (survivors config).map Received.position ↔
        position ∈ config.shared.history.removed.map fun removal => removal.victim.position) ∧
    (∀ removal ∈ config.shared.history.removed, removal.Justified setup.executorOptions) ∧
    (setup.executorOptions.queueCapacity = 0 →
      setup.executorOptions.overflowPolicy ≠ .latestOnly →
        survivors config = config.shared.history.offered) := by
  have sound := ledger_sound reachable alive
  have removals := removals_reachable reachable
  obtain ⟨isPrefix, numbered⟩ := (offerInvariant_reachable reachable).offered_numbered alive
  refine ⟨isPrefix, numbered, ?_, sound.inOrder, sound.increasing numbered, ?_,
    removals.justified, ?_⟩
  · exact inHand_length_le_one (drainInvariant_reachable reachable) alive
  · intro position bound
    have missing := sound.missing_iff numbered bound
    rwa [show (ledger config).removed = config.shared.history.removed.map Removal.victim from rfl,
      List.map_map] at missing
  · intro unbounded keeps
    refine sound.surviving_eq ?_
    show config.shared.history.removed.map Removal.victim = []
    rw [removals.unbounded unbounded keeps]
    rfl

/-- Four samples arrive at a queue of two that drops the oldest, and the callback for the third
has begun. -/
def oldestDroppedRun : List (Event (Thread Nat (List Nat)) (Choice Nat)) :=
  arrival 3 [5, 6, 7, 8] ++ scheduling 3 ++ beginning 0

theorem oldestDroppedRun_isSome :
    (((loggingSetup { queueCapacity := 2 } 2).system.restrict NonOverlapping).run
      oldestDroppedRun).isSome = true := rfl

/-- The state `oldestDroppedRun` ends in. -/
def oldestDropped : Config (World Nat (List Nat)) (Thread Nat (List Nat)) :=
  (((loggingSetup { queueCapacity := 2 } 2).system.restrict NonOverlapping).run
    oldestDroppedRun).get oldestDroppedRun_isSome

theorem delivery_in_order_and_accounted_dropped :
    (survivors oldestDropped).map Received.position = [2, 3] ∧
    oldestDropped.shared.history.offered <+: oldestDropped.shared.history.taken ∧
    oldestDropped.shared.history.offered.map Received.position =
      List.range oldestDropped.shared.history.offered.length ∧
    (gather Thread.inHand oldestDropped.threads).length ≤ 1 ∧
    (survivors oldestDropped).Sublist oldestDropped.shared.history.offered ∧
    ((survivors oldestDropped).map Received.position).Pairwise (· < ·) ∧
    (∀ position < oldestDropped.shared.history.offered.length,
      position ∉ (survivors oldestDropped).map Received.position ↔
        position ∈
          oldestDropped.shared.history.removed.map fun removal => removal.victim.position) ∧
    (∀ removal ∈ oldestDropped.shared.history.removed,
      removal.Justified (loggingSetup { queueCapacity := 2 } 2).executorOptions) ∧
    ((loggingSetup { queueCapacity := 2 } 2).executorOptions.queueCapacity = 0 →
      (loggingSetup { queueCapacity := 2 } 2).executorOptions.overflowPolicy ≠ .latestOnly →
        survivors oldestDropped = oldestDropped.shared.history.offered) :=
  ⟨rfl, delivery_in_order_and_accounted (loggingSetup { queueCapacity := 2 } 2)
    (.of_restrict (System.reachable_of_run (Option.some_get oldestDroppedRun_isSome).symm))
    (by decide)⟩

end Delivery

end Booster.Common
