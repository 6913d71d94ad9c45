/-
This file proves what the handler of a reader gets to see.

A message handed to the callback is handled once, in the order of the deliveries,
and at most one callback has begun and not yet handled its message. So the
application of a handler that does not look at the message context is the fold of
the handler over the messages handled. This holds in every state, also after the
listener has been destroyed. While the listener is alive, nothing pending and
nothing in flight means that what was handled ends with what was taken, for every
overflow policy that keeps the newest message.
-/

import BoosterSdk.CloseReader

namespace Booster.Common

open Interleaving LossyQueue

variable {Msg User : Type}

/-! ### Messages between the begin of their callback and their handling -/

/-- The message whose callback has begun and whose handler has not acted. -/
def DrainPhase.unhandled : DrainPhase Msg User → List (Received Msg)
  | .inCallback ⟨taken, _, some _, false, _⟩ => [taken.pendingMessage]
  | _ => []

/-- A drain task that holds a reference and is in its loop. -/
def DrainPhase.loops : DrainPhase Msg User → Nat
  | .draining => 1
  | .popped _ => 1
  | .inCallback _ => 1
  | .recording _ _ _ => 1
  | _ => 0

namespace Thread

def unhandled : Thread Msg User → List (Received Msg)
  | .worker _ (.running (.drain phase)) => phase.unhandled
  | _ => []

def loops : Thread Msg User → Nat := drainWeight DrainPhase.loops

theorem loops_le_active (thread : Thread Msg User) : thread.loops ≤ thread.active := by
  refine drainWeight_le (fun phase => ?_) thread
  cases phase <;> first | exact Nat.le_refl _ | exact Nat.zero_le _

theorem loops_le_holds (thread : Thread Msg User) : thread.loops ≤ thread.holds := by
  refine drainWeight_le (fun phase => ?_) thread
  cases phase <;> first | exact Nat.le_refl _ | exact Nat.zero_le _

theorem unhandled_eq_nil {thread : Thread Msg User} (idle : thread.loops = 0) :
    thread.unhandled = [] := by
  unfold unhandled
  split
  · rename_i phase
    cases phase with
    | inCallback => exact absurd idle Nat.one_ne_zero
    | _ => rfl
  · rfl

end Thread

section Step

variable {self : ThreadId} {world world' : World Msg User} {thread thread' : Thread Msg User}

/-- What has begun is handled or about to be. -/
theorem drainActs_handled {phase : DrainPhase Msg User} {phase' : Option (DrainPhase Msg User)}
    (acts : DrainActs self world phase phase' world')
    (begun : world.history.handled ++ phase.unhandled = world.history.delivered) :
    world'.history.handled ++ phase'.elim [] DrainPhase.unhandled = world'.history.delivered := by
  cases acts with
  | begin popped =>
    have same : world.history.handled = world.history.delivered :=
      (List.append_nil _).symm.trans begun
    show world.history.handled ++ [popped.pendingMessage] =
      world.history.delivered ++ [popped.pendingMessage]
    rw [same]
  | handle => exact (List.append_nil _).trans begun
  | callClose _ _ _ handled => cases handled <;> exact begun
  | close _ _ _ handled _ _ _ closed =>
    rw [(closeActs_past closed).1]
    cases handled <;> exact begun
  | finish popped _ context =>
    cases context <;> cases popped.metricsEnabled <;> exact begun
  | release phase _ released =>
    rw [(releases_past released).1]
    cases phase <;> exact begun
  | destroy _ phase' _ destroyed =>
    rw [(destroyActs_past destroyed).1]
    cases phase' <;> exact begun
  | _ => exact begun

/-- A drain task outside its loop begins and handles nothing. -/
theorem drainActs_unhandled {phase : DrainPhase Msg User} {phase' : Option (DrainPhase Msg User)}
    (acts : DrainActs self world phase phase' world') (idle : phase.loops = 0) :
    phase'.elim [] DrainPhase.unhandled = [] ∧ world'.history.handled = world.history.handled ∧
      world'.history.delivered = world.history.delivered := by
  cases acts with
  | expired | promote => exact ⟨rfl, rfl, rfl⟩
  | release phase _ released =>
    rw [(releases_past released).1]
    cases phase <;> exact ⟨rfl, rfl, rfl⟩
  | destroy _ phase' _ destroyed =>
    rw [(destroyActs_past destroyed).1]
    cases phase' <;> exact ⟨rfl, rfl, rfl⟩
  | _ => exact absurd idle Nat.one_ne_zero

theorem worldActs_unhandled (acts : WorldActs self world thread thread' world')
    (idle : thread.loops = 0) :
    thread'.unhandled = [] ∧ world'.history.handled = world.history.handled ∧
      world'.history.delivered = world.history.delivered := by
  cases acts with
  | call _ _ _ acts => cases acts <;> exact ⟨rfl, rfl, rfl⟩
  | drain _ _ _ _ acts => exact drainActs_unhandled acts idle
  | drainEnd _ _ _ acts => exact drainActs_unhandled acts idle
  | run _ _ _ _ ran =>
    refine ⟨?_, rfl, rfl⟩
    cases ran with
    | take task => cases task <;> rfl
    | _ => rfl
  | close _ _ _ acts =>
    rw [(closeActs_past acts).1]
    exact ⟨rfl, rfl, rfl⟩
  | _ => exact ⟨rfl, rfl, rfl⟩

theorem worldActs_handled (acts : WorldActs self world thread thread' world')
    (looping : thread.loops ≠ 0)
    (begun : world.history.handled ++ thread.unhandled = world.history.delivered) :
    world'.history.handled ++ thread'.unhandled = world'.history.delivered := by
  cases acts with
  | drain _ _ _ _ acts => exact drainActs_handled acts begun
  | drainEnd _ _ _ acts => exact drainActs_handled acts begun
  | run _ _ _ _ ran =>
    cases ran <;> exact absurd rfl looping
  | _ => exact absurd rfl looping

/-- The application changes only when a message is handled, by what the callback the drain task
has copied does to it. -/
theorem drainActs_user {phase : DrainPhase Msg User} {phase' : Option (DrainPhase Msg User)}
    (acts : DrainActs self world phase phase' world') :
    world'.user = world.user ∧ world'.history.handled = world.history.handled ∨
      ∃ (popped : DdsReaderListener.Popped Msg User) (context : DdsMessageContext),
        (∀ callback, phase.Serves callback → popped.cb = callback) ∧
        (∀ callback, popped.cb = some callback → world'.user =
          callback.onDataAvailable popped.pendingMessage.message context world.user) ∧
        world'.history.handled = world.history.handled ++ [popped.pendingMessage] := by
  cases acts with
  | handle popped start context =>
    refine Or.inr ⟨popped, context, fun callback served => served, fun callback is => ?_, rfl⟩
    simp only [is]
  | close _ _ _ _ _ _ _ closed =>
    obtain ⟨history, user⟩ := closeActs_past closed
    rw [history, user]
    exact Or.inl ⟨rfl, rfl⟩
  | release _ _ released =>
    obtain ⟨history, user⟩ := releases_past released
    rw [history, user]
    exact Or.inl ⟨rfl, rfl⟩
  | destroy _ _ _ destroyed =>
    obtain ⟨history, user⟩ := destroyActs_past destroyed
    rw [history, user]
    exact Or.inl ⟨rfl, rfl⟩
  | _ => exact Or.inl ⟨rfl, rfl⟩

theorem worldActs_user (acts : WorldActs self world thread thread' world') :
    world'.user = world.user ∧ world'.history.handled = world.history.handled ∨
      ∃ (popped : DdsReaderListener.Popped Msg User) (context : DdsMessageContext),
        (∀ callback, thread.Serves callback → popped.cb = callback) ∧
        (∀ callback, popped.cb = some callback → world'.user =
          callback.onDataAvailable popped.pendingMessage.message context world.user) ∧
        world'.history.handled = world.history.handled ++ [popped.pendingMessage] := by
  cases acts with
  | call _ _ _ acts => cases acts <;> exact Or.inl ⟨rfl, rfl⟩
  | drain _ _ _ _ acts => exact drainActs_user acts
  | drainEnd _ _ _ acts => exact drainActs_user acts
  | close _ _ _ acts =>
    obtain ⟨history, user⟩ := closeActs_past acts
    rw [history, user]
    exact Or.inl ⟨rfl, rfl⟩
  | _ => exact Or.inl ⟨rfl, rfl⟩

/-- Samples are only ever added to what has been taken. -/
theorem worldActs_taken (acts : WorldActs self world thread thread' world') :
    world.history.taken <+: world'.history.taken := by
  cases acts with
  | call _ _ _ acts =>
    cases acts with
    | take => exact List.prefix_append _ _
    | _ => exact List.prefix_refl _
  | drain _ _ _ _ acts => rw [(drainActs_taken acts).1]
  | drainEnd _ _ _ acts => rw [(drainActs_taken acts).1]
  | close _ _ _ acts => rw [(closeActs_past acts).1]
  | _ => exact List.prefix_refl _

end Step

/-! ### Every run -/

section Run

variable {setup : Setup Msg User} {config : Config (World Msg User) (Thread Msg User)}
  {admits : Config (World Msg User) (Thread Msg User) →
    Event (Thread Msg User) (Choice Msg) → Prop}

/-- What has begun is handled or in a callback about to handle it, in every state. -/
theorem handled_reachable (reachable : setup.system.ReachableBy admits config) :
    config.shared.history.handled ++ gather Thread.unhandled config.threads =
      config.shared.history.delivered := by
  let holds (config : Config (World Msg User) (Thread Msg User)) : Prop :=
    config.shared.history.handled ++ gather Thread.unhandled config.threads =
      config.shared.history.delivered
  have initially : holds setup.initial := by
    refine gather_eq_nil.mpr fun thread member => ?_
    rcases mem_initial_threads member with ⟨pool, rfl⟩ | rfl <;> rfl
  refine Program.invariant initially ?_ ?_ reachable
  · intro config thread _ begun _ allowed
    have handled : thread.unhandled = [] := by
      rcases spawns_cases allowed with ⟨rfl, _⟩ | rfl | rfl <;> rfl
    show config.shared.history.handled ++ gather Thread.unhandled (config.threads ++ [thread]) =
      config.shared.history.delivered
    rw [gather_append, gather_cons, handled]
    simp only [gather_nil, List.append_nil]
    exact begun
  · intro config self choice thread thread' shared reached begun _ found acted
    have acts := worldAct_cases acted
    show shared.history.handled ++
      gather Thread.unhandled (config.threads.set self thread') = shared.history.delivered
    by_cases idle : thread.loops = 0
    · obtain ⟨after, handled, delivered⟩ := worldActs_unhandled acts idle
      rw [gather_set_of_eq Thread.unhandled found
        (after.trans (Thread.unhandled_eq_nil idle).symm), handled, delivered]
      exact begun
    · have one := (drainInvariant_reachable reached).tally_le_one Thread.loops_le_active
        Thread.loops_le_holds
      have whole : tally Thread.loops config.threads ≤ thread.loops := by omega
      obtain ⟨before, after⟩ := gather_set_of_alone Thread.unhandled Thread.loops
        (fun _ => Thread.unhandled_eq_nil) found whole thread'
      have own : config.shared.history.handled ++ thread.unhandled =
          config.shared.history.delivered := by
        rw [← before]
        exact begun
      rw [after]
      exact worldActs_handled acts idle own

/-- What has been handed to the callback is a subsequence of what has been taken, also after the
listener has been destroyed. -/
theorem delivered_sublist_taken (reachable : setup.system.ReachableBy NonOverlapping config) :
    config.shared.history.delivered.Sublist config.shared.history.taken := by
  let holds (config : Config (World Msg User) (Thread Msg User)) : Prop :=
    config.shared.history.delivered.Sublist config.shared.history.taken
  have initially : holds setup.system.initial := List.Sublist.refl _
  refine System.ReachableBy.invariant initially ?_ reachable
  intro config event next reached earlier admitted stepped
  have reachedNext := reached.step admitted stepped
  show next.shared.history.delivered.Sublist next.shared.history.taken
  by_cases alive : 0 < next.shared.useCount
  · have sound := ledger_sound reachedNext alive
    have offered := ((offerInvariant_reachable reachedNext).offered_numbered alive).1
    refine List.Sublist.trans ?_ (sound.inOrder.trans offered.sublist)
    show next.shared.history.delivered.Sublist (next.shared.history.delivered ++
      gather Thread.inHand next.threads ++ next.shared.listener.pendingMessages)
    rw [List.append_assoc]
    exact List.sublist_append_left _ _
  · rcases Program.step_cases stepped with
      ⟨thread, _, _, shared, _⟩ | ⟨self, choice, thread, thread', _, found, acted, _⟩
    · rw [shared]
      exact earlier
    · have acts := worldAct_cases acted
      rcases worldActs_delivered acts with same | ⟨_, holds, useCount⟩
      · rw [same]
        exact earlier.trans (worldActs_taken acts).sublist
      · have references := (drainInvariant_reachable reached).references
        have own := weight_le_tally Thread.holds found
        omega

/-- What the handler has done to the application, when it does not look at the context. -/
theorem user_reachable {act : Msg → User → User}
    (handler : setup.callback.handler = some fun message _ user => act message user)
    (reachable : setup.system.ReachableBy admits config) :
    config.shared.user = config.shared.history.handled.foldl
      (fun user sample => act sample.message user) setup.user := by
  let holds (config : Config (World Msg User) (Thread Msg User)) : Prop :=
    config.shared.user = config.shared.history.handled.foldl
      (fun user sample => act sample.message user) setup.user
  have initially : holds setup.initial := rfl
  refine Program.invariant initially ?_ ?_ reachable
  · intro config thread _ earlier _ _
    exact earlier
  · intro config self choice thread thread' shared reached earlier _ found acted
    have served := (serves_reachable reached).2 thread (List.mem_of_getElem? found)
    have callback : setup.listener.cb = some setup.callback := by
      have settings := congrArg Prod.fst setup.listener_settings
      have present : setup.callback.hasMessageHandler = true := by
        unfold DdsReaderCallback.hasMessageHandler
        rw [handler]
        rfl
      exact settings.trans (if_pos present)
    rw [callback] at served
    show shared.user = _
    rcases worldActs_user (worldAct_cases acted) with
      ⟨user, handled⟩ | ⟨popped, context, copied, user, handled⟩
    · rw [user, handled]
      exact earlier
    · rw [user setup.callback (copied _ served), handled, List.foldl_append, ← earlier]
      unfold DdsReaderCallback.onDataAvailable
      rw [handler]
      rfl

/-- Messages are only ever added to what has been handled. -/
theorem handled_forward {event : Event (Thread Msg User) (Choice Msg)}
    {next : Config (World Msg User) (Thread Msg User)}
    (stepped : setup.system.step config event = some next) :
    config.shared.history.handled <+: next.shared.history.handled := by
  rcases Program.step_cases stepped with
    ⟨thread, _, _, shared, _⟩ | ⟨self, choice, thread, thread', _, found, acted, _⟩
  · rw [shared]
  · rcases worldActs_user (worldAct_cases acted) with ⟨_, same⟩ | ⟨popped, _, _, _, handled⟩
    · rw [same]
    · rw [handled]
      exact List.prefix_append _ _

/-- Nothing is pending and nothing is in flight: no call holds samples, no drain task has a
message popped, and no callback is about to handle one. -/
structure Settled (config : Config (World Msg User) (Thread Msg User)) : Prop where
  pending : config.shared.listener.pendingMessages = []
  ready : gather Thread.ready config.threads = []
  inHand : gather Thread.inHand config.threads = []
  unhandled : gather Thread.unhandled config.threads = []

/-- Under a policy that keeps the newest message, a live reader with nothing pending and nothing
in flight has handled the last sample taken. -/
theorem settled_newest (reachable : setup.system.ReachableBy NonOverlapping config)
    (alive : 0 < config.shared.useCount) (settled : Settled config)
    (keeps : setup.executorOptions.overflowPolicy ≠ .dropNewest) :
    config.shared.history.handled.getLast? = config.shared.history.taken.getLast? := by
  have newest := (ledger_reachable reachable alive).getLast?_surviving
    (DdsReaderExecutorOptions.rule_keepsNewest keeps)
  have ordered := (offerInvariant_reachable reachable).ordered alive
  have handled := handled_reachable reachable
  rw [settled.ready, List.append_nil] at ordered
  rw [settled.unhandled, List.append_nil] at handled
  have surviving : (ledger config).surviving = config.shared.history.delivered := by
    show config.shared.history.delivered ++ gather Thread.inHand config.threads ++
      config.shared.listener.pendingMessages = _
    rw [settled.inHand, settled.pending, List.append_nil, List.append_nil]
  rw [surviving, show (ledger config).offered = config.shared.history.offered from rfl,
    ordered] at newest
  rw [handled]
  exact newest

end Run

end Booster.Common
