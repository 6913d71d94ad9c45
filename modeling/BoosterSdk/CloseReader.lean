/-
This file settles what `DdsTopicChannel::CloseReader` promises about callbacks.

`CloseReader` deletes the reader and resets the channel's reference to the
listener. When that was the last reference the listener is destroyed there, its
queue is cleared, and every later drain task finds its weak pointer expired. When
a drain task holds another one the listener lives on: `stop_requested_` is set in
the destructor only, which cannot run while the drain holds its reference, so the
test of `stop_requested_` in the drain loop never stops a drain. The drain goes on
popping and calling back after `CloseReader` has returned.

So whether a callback begins after `CloseReader` has returned is decided by what
it leaves behind when it returns, and runs are restricted to those in which it
leaves nothing: the listener is gone, or no message of the reader is left.
-/

import BoosterSdk.Delivery

namespace Booster.Common

open Interleaving

variable {Msg User : Type}

/-! ### Threads in `CloseReader` -/

/-- Where the user callback of a drain task is in `CloseReader`. -/
def DrainPhase.closePhase : DrainPhase Msg User → Option ClosePhase
  | .inCallback run => run.closing
  | _ => none

namespace Thread

/-- Where a thread is in `CloseReader`, called directly or by a user callback. -/
def closePhase : Thread Msg User → Option ClosePhase
  | .closer phase => some phase
  | .worker _ (.running (.drain phase)) => phase.closePhase
  | _ => none

/-- A thread with messages outside the queue that no callback has begun for: a drain task that
has popped one, or a call about to enqueue its batch. -/
def undelivered : Thread Msg User → Nat
  | .call (.filled _) => 1
  | .worker _ (.running (.drain phase)) => phase.inHand.length
  | _ => 0

end Thread

/-- Past the call of `delete_datareader`, and not returned. -/
def ClosePhase.pastDelete : ClosePhase → Bool
  | .resetting => true
  | .destroying _ => true
  | .returning => true
  | _ => false

/-- No message of the reader is left to hand to the callback. -/
def Exhausted (config : Config (World Msg User) (Thread Msg User)) : Prop :=
  config.shared.listener.pendingMessages = [] ∧ tally Thread.undelivered config.threads = 0

/-- What `CloseReader` leaves behind when it returns: no listener, or no message. -/
def LeavesNothing (config : Config (World Msg User) (Thread Msg User)) : Prop :=
  config.shared.useCount = 0 ∨ Exhausted config

/-- A run in which every `CloseReader` that returns leaves nothing behind. -/
def ClosesLast (config : Config (World Msg User) (Thread Msg User)) :
    Event (Thread Msg User) (Choice Msg) → Prop
  | .act self _ =>
    (config.threads[self]?).bind Thread.closePhase = some .returning → LeavesNothing config
  | .spawn _ => True

instance (config : Config (World Msg User) (Thread Msg User)) : Decidable (Exhausted config) :=
  inferInstanceAs (Decidable (_ ∧ _))

instance (config : Config (World Msg User) (Thread Msg User)) :
    Decidable (LeavesNothing config) :=
  inferInstanceAs (Decidable (_ ∨ _))

instance (config : Config (World Msg User) (Thread Msg User))
    (event : Event (Thread Msg User) (Choice Msg)) : Decidable (ClosesLast config event) :=
  match event with
  | .act _ _ => inferInstanceAs (Decidable (_ → _))
  | .spawn _ => inferInstanceAs (Decidable True)

section Step

variable {self : ThreadId} {world world' : World Msg User} {thread thread' : Thread Msg User}

theorem releases_deleted {phase : Option DestroyPhase}
    (released : Releases self world phase world') :
    world'.readerDeleted = world.readerDeleted ∧ world'.closeReturned = world.closeReturned := by
  cases released <;> exact ⟨rfl, rfl⟩

theorem destroyActs_deleted {phase : DestroyPhase} {phase' : Option DestroyPhase}
    (acts : DestroyActs self world phase phase' world') :
    world'.readerDeleted = world.readerDeleted ∧ world'.closeReturned = world.closeReturned := by
  cases acts <;> exact ⟨rfl, rfl⟩

/-- `CloseReader` deletes the reader before it resets the listener, and records its return. -/
theorem closeActs_deleted {phase phase' : ClosePhase}
    (acts : CloseActs self world phase phase' world')
    (deleted : phase.pastDelete = true → world.readerDeleted = true) :
    (world.readerDeleted = true → world'.readerDeleted = true) ∧
      (phase'.pastDelete = true → world'.readerDeleted = true) ∧
      (world'.closeReturned = true → world.closeReturned = true ∨ phase = .returning) := by
  cases acts with
  | call => exact ⟨id, fun past => absurd past Bool.false_ne_true, Or.inl⟩
  | again => exact ⟨id, fun past => absurd past Bool.false_ne_true, Or.inl⟩
  | delete => exact ⟨fun _ => rfl, fun _ => rfl, Or.inl⟩
  | reset _ _ released =>
    obtain ⟨same, returned⟩ := releases_deleted released
    have already : world.readerDeleted = true := deleted rfl
    rw [same, returned]
    exact ⟨id, fun _ => already, Or.inl⟩
  | destroy _ _ _ destroyed =>
    obtain ⟨same, returned⟩ := destroyActs_deleted destroyed
    rw [same, returned]
    exact ⟨id, fun _ => deleted rfl, Or.inl⟩
  | returns => exact ⟨id, fun past => absurd past Bool.false_ne_true, fun _ => Or.inr rfl⟩

theorem drainActs_deleted {phase : DrainPhase Msg User} {phase' : Option (DrainPhase Msg User)}
    (acts : DrainActs self world phase phase' world')
    (deleted : ∀ closing, phase.closePhase = some closing → closing.pastDelete = true →
      world.readerDeleted = true) :
    (world.readerDeleted = true → world'.readerDeleted = true) ∧
      (∀ closing, phase'.bind DrainPhase.closePhase = some closing →
        closing.pastDelete = true → world'.readerDeleted = true) ∧
      (world'.closeReturned = true →
        world.closeReturned = true ∨ phase.closePhase = some .returning) := by
  cases acts with
  | handle _ _ _ closing => exact ⟨id, deleted, Or.inl⟩
  | callClose =>
    refine ⟨id, ?_, Or.inl⟩
    rintro closing ⟨⟩ past
    exact absurd past Bool.false_ne_true
  | close _ _ _ _ closing closing' _ closed =>
    obtain ⟨kept, later, returned⟩ := closeActs_deleted closed (deleted closing rfl)
    refine ⟨kept, ?_, fun now => (returned now).imp_right (congrArg some)⟩
    rintro after ⟨⟩ past
    exact later past
  | finish popped =>
    refine ⟨id, ?_, Or.inl⟩
    cases popped.metricsEnabled <;> rintro closing ⟨⟩
  | release phase _ released =>
    obtain ⟨same, returned⟩ := releases_deleted released
    rw [same, returned]
    refine ⟨id, ?_, Or.inl⟩
    cases phase <;> rintro closing ⟨⟩
  | destroy _ phase' _ destroyed =>
    obtain ⟨same, returned⟩ := destroyActs_deleted destroyed
    rw [same, returned]
    refine ⟨id, ?_, Or.inl⟩
    cases phase' <;> rintro closing ⟨⟩
  | _ =>
    refine ⟨id, ?_, Or.inl⟩
    rintro closing ⟨⟩

/-- A step of any thread, on the deletion of the reader and the return of `CloseReader`. -/
theorem worldActs_deleted (acts : WorldActs self world thread thread' world')
    (deleted : ∀ closing, thread.closePhase = some closing → closing.pastDelete = true →
      world.readerDeleted = true) :
    (world.readerDeleted = true → world'.readerDeleted = true) ∧
      (∀ closing, thread'.closePhase = some closing → closing.pastDelete = true →
        world'.readerDeleted = true) ∧
      (world'.closeReturned = true →
        world.closeReturned = true ∨ thread.closePhase = some .returning) := by
  cases acts with
  | call _ _ _ acts =>
    have same : world'.readerDeleted = world.readerDeleted ∧
        world'.closeReturned = world.closeReturned := by
      cases acts <;> exact ⟨rfl, rfl⟩
    rw [same.1, same.2]
    refine ⟨id, ?_, Or.inl⟩
    rintro closing ⟨⟩
  | drain _ _ _ _ acts => exact drainActs_deleted acts deleted
  | drainEnd _ _ _ acts =>
    obtain ⟨kept, _, returned⟩ := drainActs_deleted acts deleted
    refine ⟨kept, ?_, returned⟩
    rintro closing ⟨⟩
  | run _ _ _ _ ran =>
    refine ⟨id, ?_, Or.inl⟩
    cases ran with
    | take task => cases task <;> rintro closing ⟨⟩
    | _ => rintro closing ⟨⟩
  | close phase _ _ acts =>
    obtain ⟨kept, later, returned⟩ := closeActs_deleted acts (deleted phase rfl)
    refine ⟨kept, ?_, fun now => (returned now).imp_right (congrArg some)⟩
    rintro closing ⟨⟩ past
    exact later past
  | _ =>
    refine ⟨id, ?_, Or.inl⟩
    rintro closing ⟨⟩

/-- With the reader deleted and nothing left, no step brings a message back. -/
theorem callActs_exhausted {phase phase' : CallPhase Msg}
    (acts : CallActs world phase phase' world') (deleted : world.readerDeleted = true)
    (empty : world.listener.pendingMessages = [])
    (idle : (Thread.call phase : Thread Msg User).undelivered = 0) :
    world'.listener.pendingMessages = [] ∧
      (Thread.call phase' : Thread Msg User).undelivered = 0 := by
  cases acts with
  | configure =>
    obtain ⟨configured, same⟩ :=
      DdsReaderListener.applyRealtimeListenerThreadConfigOnce_eq world.listener
    rw [same]
    exact ⟨empty, rfl⟩
  | fill _ _ _ _ opened => exact absurd (opened.symm.trans deleted) Bool.false_ne_true
  | offer => exact absurd idle Nat.one_ne_zero
  | _ => exact ⟨empty, rfl⟩

theorem closeActs_exhausted {phase phase' : ClosePhase}
    (acts : CloseActs self world phase phase' world')
    (empty : world.listener.pendingMessages = []) :
    world'.listener.pendingMessages = [] := by
  cases acts with
  | reset _ _ released => cases released <;> first | exact empty | rfl
  | destroy _ _ _ destroyed =>
    obtain ⟨_, _, _, _, listener⟩ := destroyActs_frame destroyed
    rw [listener]
    exact empty
  | _ => exact empty

theorem drainActs_exhausted {phase : DrainPhase Msg User}
    {phase' : Option (DrainPhase Msg User)} (acts : DrainActs self world phase phase' world')
    (empty : world.listener.pendingMessages = []) :
    world'.listener.pendingMessages = [] ∧ phase'.elim [] DrainPhase.inHand = [] := by
  cases acts with
  | pop message rest _ front =>
    rw [empty] at front
    exact absurd front (List.cons_ne_nil message rest).symm
  | close _ _ _ _ _ _ _ closed => exact ⟨closeActs_exhausted closed empty, rfl⟩
  | finish popped => cases popped.metricsEnabled <;> exact ⟨empty, rfl⟩
  | release _ _ released => cases released <;> first | exact ⟨empty, rfl⟩ | exact ⟨rfl, rfl⟩
  | destroy _ phase' _ destroyed =>
    obtain ⟨_, _, _, _, listener⟩ := destroyActs_frame destroyed
    rw [listener]
    cases phase' <;> exact ⟨empty, rfl⟩
  | _ => exact ⟨empty, rfl⟩

theorem worldActs_exhausted (acts : WorldActs self world thread thread' world')
    (deleted : world.readerDeleted = true) (empty : world.listener.pendingMessages = [])
    (idle : thread.undelivered = 0) :
    world'.listener.pendingMessages = [] ∧ thread'.undelivered = 0 := by
  cases acts with
  | call _ _ _ acts => exact callActs_exhausted acts deleted empty idle
  | drain _ _ phase' _ acts =>
    obtain ⟨still, drained⟩ := drainActs_exhausted acts empty
    exact ⟨still, congrArg List.length drained⟩
  | drainEnd _ _ _ acts => exact ⟨(drainActs_exhausted acts empty).1, rfl⟩
  | run _ _ _ _ ran =>
    refine ⟨empty, ?_⟩
    cases ran with
    | take task => cases task <;> rfl
    | _ => rfl
  | close _ _ _ acts => exact ⟨closeActs_exhausted acts empty, rfl⟩
  | _ => exact ⟨empty, rfl⟩

theorem drainActs_delivered {phase : DrainPhase Msg User}
    {phase' : Option (DrainPhase Msg User)} (acts : DrainActs self world phase phase' world') :
    world'.history.delivered = world.history.delivered ∨
      phase.inHand.length = 1 ∧ phase.holds = 1 ∧ world'.useCount = world.useCount := by
  cases acts with
  | begin => exact Or.inr ⟨rfl, rfl, rfl⟩
  | close _ _ _ _ _ _ _ closed =>
    rw [(closeActs_past closed).1]
    exact Or.inl rfl
  | release _ _ released =>
    rw [(releases_past released).1]
    exact Or.inl rfl
  | destroy _ _ _ destroyed =>
    rw [(destroyActs_past destroyed).1]
    exact Or.inl rfl
  | _ => exact Or.inl rfl

/-- A callback begins only for a message a drain task has in hand. -/
theorem worldActs_delivered (acts : WorldActs self world thread thread' world') :
    world'.history.delivered = world.history.delivered ∨
      thread.undelivered = 1 ∧ thread.holds = 1 ∧ world'.useCount = world.useCount := by
  cases acts with
  | call _ _ _ acts => cases acts <;> exact Or.inl rfl
  | drain _ _ _ _ acts => exact drainActs_delivered acts
  | drainEnd _ _ _ acts => exact drainActs_delivered acts
  | close _ _ _ acts =>
    rw [(closeActs_past acts).1]
    exact Or.inl rfl
  | _ => exact Or.inl rfl

end Step

/-! ### No callback after the close -/

/-- What a run whose closes leave nothing behind keeps. -/
structure CloseInvariant (config : Config (World Msg User) (Thread Msg User)) : Prop where
  deleted : ∀ thread ∈ config.threads, ∀ closing, thread.closePhase = some closing →
    closing.pastDelete = true → config.shared.readerDeleted = true
  closed : config.shared.closeReturned = true →
    config.shared.readerDeleted = true ∧ LeavesNothing config

section Close

variable {setup : Setup Msg User} {config : Config (World Msg User) (Thread Msg User)}

/-- With the reader deleted, what leaves nothing behind keeps leaving nothing behind. -/
theorem leavesNothing_act {self : ThreadId} {thread thread' : Thread Msg User}
    {shared : World Msg User} (found : config.threads[self]? = some thread)
    (acts : WorldActs self config.shared thread thread' shared)
    (deleted : config.shared.readerDeleted = true) (nothing : LeavesNothing config) :
    LeavesNothing { shared := shared, threads := config.threads.set self thread' } := by
  rcases nothing with dead | ⟨empty, idle⟩
  · refine Or.inl (Nat.eq_zero_of_not_pos fun alive => ?_)
    exact Nat.ne_of_gt (worldActs_alive acts alive) dead
  · have own := tally_eq_zero.mp idle thread (List.mem_of_getElem? found)
    obtain ⟨still, drained⟩ := worldActs_exhausted acts deleted empty own
    have replaced := tally_set Thread.undelivered found thread'
    refine Or.inr ⟨still, ?_⟩
    simp only
    omega

theorem closeInvariant_initial (setup : Setup Msg User) : CloseInvariant setup.initial := by
  refine ⟨fun thread member closing is _ => ?_, fun returned => absurd returned ?_⟩
  · rcases mem_initial_threads member with ⟨pool, rfl⟩ | rfl <;> cases is
  · exact Bool.false_ne_true

theorem closeInvariant_spawn {thread : Thread Msg User} (invariant : CloseInvariant config)
    (allowed : thread.spawns config.shared = true) :
    CloseInvariant { config with threads := config.threads ++ [thread] } := by
  refine ⟨fun other member closing is past => ?_, fun returned => ?_⟩
  · rcases List.mem_append.mp member with old | new
    · exact invariant.deleted other old closing is past
    · rw [List.mem_singleton.mp new] at is
      rcases spawns_cases allowed with ⟨rfl, _⟩ | rfl | rfl
      · cases is
      · cases is
        exact absurd past Bool.false_ne_true
      · cases is
  · obtain ⟨deleted, nothing⟩ := invariant.closed returned
    refine ⟨deleted, nothing.imp id fun exhausted => ⟨exhausted.1, ?_⟩⟩
    rw [tally_spawned allowed rfl rfl rfl]
    exact exhausted.2

theorem closeInvariant_act {self : ThreadId} {choice : Choice Msg}
    {thread thread' : Thread Msg User} {shared : World Msg User}
    (invariant : CloseInvariant config) (admitted : ClosesLast config (.act self choice))
    (found : config.threads[self]? = some thread)
    (acts : WorldActs self config.shared thread thread' shared) :
    CloseInvariant { shared := shared, threads := config.threads.set self thread' } := by
  have own := invariant.deleted thread (List.mem_of_getElem? found)
  obtain ⟨kept, later, returned⟩ := worldActs_deleted acts own
  refine ⟨?_, fun now => ?_⟩
  · refine forall_mem_set (fun other member closing is past => ?_) later
    exact kept (invariant.deleted other member closing is past)
  · rcases returned now with already | returning
    · obtain ⟨deleted, nothing⟩ := invariant.closed already
      exact ⟨kept deleted, leavesNothing_act found acts deleted nothing⟩
    · have deleted := own .returning returning rfl
      have nothing : LeavesNothing config := by
        refine admitted ?_
        rw [found]
        exact returning
      exact ⟨kept deleted, leavesNothing_act found acts deleted nothing⟩

theorem closeInvariant_reachable (reachable : setup.system.ReachableBy ClosesLast config) :
    CloseInvariant config := by
  refine Program.invariant (closeInvariant_initial setup) ?_ ?_ reachable
  · intro config thread _ invariant _ allowed
    exact closeInvariant_spawn invariant allowed
  · intro config self choice thread thread' shared _ invariant admitted found acted
    exact closeInvariant_act invariant admitted found (worldAct_cases acted)

/-- In a run in which every `CloseReader` that returns leaves the listener destroyed or no
message behind, no user callback begins after `CloseReader` has returned. -/
theorem no_callback_after_close (setup : Setup Msg User)
    (reachable : setup.system.ReachableBy ClosesLast config)
    (closed : config.shared.closeReturned = true)
    {event : Event (Thread Msg User) (Choice Msg)}
    {next : Config (World Msg User) (Thread Msg User)}
    (stepped : setup.system.step config event = some next) :
    next.shared.history.delivered = config.shared.history.delivered := by
  have nothing := ((closeInvariant_reachable reachable).closed closed).2
  rcases Program.step_cases stepped with
    ⟨thread, _, _, shared, _⟩ | ⟨self, choice, thread, thread', _, found, acted, _⟩
  · rw [shared]
  · rcases worldActs_delivered (worldAct_cases acted) with same | ⟨undelivered, holds, _⟩
    · exact same
    · rcases nothing with dead | ⟨_, idle⟩
      · have references := (drainInvariant_reachable reachable).references
        have own := weight_le_tally Thread.holds found
        omega
      · have own := weight_le_tally Thread.undelivered found
        omega

/-- A thread calls `CloseReader` and runs it to its end. -/
def closing (self : ThreadId) : List (Event (Thread Msg User) (Choice Msg)) :=
  [.spawn (.closer .calling), .act self .close, .act self .close, .act self .close,
    .act self .close]

/-- The callback in progress on worker `self` ends, and the drain pops the next message. -/
def continuing (self : ThreadId) : List (Event (Thread Msg User) (Choice Msg)) :=
  [.act self .handle, .act self .proceed, .act self .proceed]

/-- Two samples arrive; while the callback for the first is in progress another thread closes
the reader; then the worker goes on to the second. -/
def closedWhileDrainingRun : List (Event (Thread Nat (List Nat)) (Choice Nat)) :=
  arrival 2 [7, 8] ++ scheduling 2 ++ beginning 0 ++ closing 3 ++ continuing 0

theorem closedWhileDrainingRun_isSome :
    ((loggingSetup {} 1).system.run closedWhileDrainingRun).isSome = true := rfl

/-- The state `closedWhileDrainingRun` ends in. -/
def closedWhileDraining : Config (World Nat (List Nat)) (Thread Nat (List Nat)) :=
  ((loggingSetup {} 1).system.run closedWhileDrainingRun).get closedWhileDrainingRun_isSome

theorem secondCallback_isSome :
    ((loggingSetup {} 1).system.step closedWhileDraining (.act 0 .proceed)).isSome = true := rfl

/-- `CloseReader` has returned, and the callback for the second sample begins. -/
theorem callback_after_close :
    ¬ ∀ config event next, (loggingSetup {} 1).system.Reachable config →
      config.shared.closeReturned = true →
      (loggingSetup {} 1).system.step config event = some next →
      next.shared.history.delivered = config.shared.history.delivered := by
  intro claim
  have same := claim closedWhileDraining (.act 0 .proceed) _
    (System.reachable_of_run (Option.some_get closedWhileDrainingRun_isSome).symm) rfl
    (Option.some_get secondCallback_isSome).symm
  exact absurd (congrArg List.length same) (by decide)

/-- Two samples arrive and a drain is queued; the reader is closed before a worker takes it. -/
def closedBeforeDrainRun : List (Event (Thread Nat (List Nat)) (Choice Nat)) :=
  arrival 2 [7, 8] ++ scheduling 2 ++ closing 3 ++ [.act 0 .proceed, .act 0 .proceed]

theorem closedBeforeDrainRun_isSome :
    (((loggingSetup {} 1).system.restrict ClosesLast).run closedBeforeDrainRun).isSome = true :=
  rfl

/-- The state `closedBeforeDrainRun` ends in. -/
def closedBeforeDrain : Config (World Nat (List Nat)) (Thread Nat (List Nat)) :=
  (((loggingSetup {} 1).system.restrict ClosesLast).run closedBeforeDrainRun).get
    closedBeforeDrainRun_isSome

theorem expiredDrain_isSome :
    ((loggingSetup {} 1).system.step closedBeforeDrain (.act 0 .proceed)).isSome = true := rfl

/-- The worker finds the listener gone. -/
def expiredDrain : Config (World Nat (List Nat)) (Thread Nat (List Nat)) :=
  ((loggingSetup {} 1).system.step closedBeforeDrain (.act 0 .proceed)).get expiredDrain_isSome

theorem no_callback_after_close_expired :
    expiredDrain.shared.history.delivered = closedBeforeDrain.shared.history.delivered :=
  no_callback_after_close (loggingSetup {} 1)
    (.of_restrict (System.reachable_of_run (Option.some_get closedBeforeDrainRun_isSome).symm))
    rfl (Option.some_get expiredDrain_isSome).symm

end Close

end Booster.Common
