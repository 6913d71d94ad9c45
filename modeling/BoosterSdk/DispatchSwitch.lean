/-
This file settles whether switching the dispatch mode of a listener in use can
deadlock.

`SetExecutorOptions` keeps `mutex_` locked while it resets `dedicated_executor_`, and
the destructor of the executor joins its worker, which first empties its queue. A
drain task locks `mutex_` before it can end. The call is added to the world of the
listener together with the lock it keeps: while the dedicated executor is destroyed,
no thread takes a step that locks `mutex_`.

A call may be made by the application or by a user callback, on a worker of either
executor; it may select either mode. While a call is in progress its caller keeps the
listener alive. A call of `on_data_available` that has picked the dedicated executor
and finds it destroyed would use a destroyed object; it takes no further step.
-/

import BoosterSdk.SingleDrain
import Mathlib.Data.List.Enum

namespace Booster.Common

open Interleaving

variable {Msg User : Type}

/-! ### The calls -/

/-- Where a call of `SetExecutorOptions` is: about to lock `mutex_`, destroying the dedicated
executor with the lock held, or past its end. -/
inductive SwitchPhase where
  | called
  | destroying (phase : DestroyPhase)
  | returned
  deriving DecidableEq

/-- A call of `SetExecutorOptions`, made by a callback on the worker `caller` or, without one,
by the application. -/
structure SwitchCall where
  caller : Option ThreadId
  options : DdsReaderExecutorOptions
  phase : SwitchPhase

/-- The call keeps `mutex_` locked between its steps. -/
def SwitchCall.locked (call : SwitchCall) : Bool :=
  match call.phase with
  | .destroying _ => true
  | _ => false

def SwitchCall.inProgress (call : SwitchCall) : Bool := decide (call.phase ≠ .returned)

/-- The thread that runs the call. The application's is none of the reader's threads, and is
named by an index past them. -/
def SwitchCall.thread (call : SwitchCall) (threads : List (Thread Msg User)) : ThreadId :=
  call.caller.getD threads.length

/-- The next step of the thread locks `mutex_`. The destructor of the listener locks it as well,
but not while a caller keeps the listener alive. -/
def Thread.locks : Thread Msg User → Bool
  | .call .configuring => true
  | .call (.filled _) => true
  | .call .scheduling => true
  | .worker _ (.running (.drain .draining)) => true
  | .worker _ (.running (.drain (.recording _ _ _))) => true
  | _ => false

/-- The thread is in a user callback, of this listener or of another. -/
def Thread.inUserCallback : Thread Msg User → Bool
  | .worker _ (.running .other) => true
  | .worker _ (.running (.drain (.inCallback ⟨_, _, some _, _, none⟩))) => true
  | .worker _ (.running (.drain (.inCallback ⟨_, _, some _, _, some .returned⟩))) => true
  | _ => false

/-- The thread is a call of `on_data_available` that keeps a pointer to the dedicated
executor. -/
def Thread.pointsToDedicated : Thread Msg User → Bool
  | .call (.submitting .dedicated) => true
  | .call (.notifying .dedicated) => true
  | _ => false

/-- The reader, the calls of `SetExecutorOptions` made so far, and the threads left with a
pointer to a destroyed executor. -/
structure Switching (Msg User : Type) where
  reader : Config (World Msg User) (Thread Msg User)
  calls : List SwitchCall
  dangling : List ThreadId

inductive SwitchEvent (Msg User : Type) where
  | reader (event : Event (Thread Msg User) (Choice Msg))
  | call (caller : Option ThreadId) (options : DdsReaderExecutorOptions)
  | proceed (index : Nat)

namespace Switching

/-- A call keeps `mutex_` locked. -/
def locked (state : Switching Msg User) : Bool := state.calls.any SwitchCall.locked

/-- A call is in progress on the thread. -/
def busy (self : ThreadId) (state : Switching Msg User) : Bool :=
  state.calls.any fun call => call.inProgress && decide (call.caller = some self)

/-- The threads with a pointer to the dedicated executor. -/
def pointing (state : Switching Msg User) : List ThreadId :=
  (state.reader.threads.zipIdx.filter fun entry => entry.1.pointsToDedicated).map Prod.snd

/-- Whether the event is neither held up by a lock or by a call on its own thread nor a use of a
destroyed executor. -/
def permits (state : Switching Msg User) : Event (Thread Msg User) (Choice Msg) → Bool
  | .spawn _ => true
  | .act self _ =>
    !state.busy self && !state.dangling.contains self &&
      !(state.locked && (state.reader.threads[self]?).elim false Thread.locks)

/-- A step of the reader. -/
def stepReader (event : Event (Thread Msg User) (Choice Msg)) (state : Switching Msg User) :
    Option (Switching Msg User) :=
  if state.permits event then
    ((listenerProgram Msg User).step state.reader event).bind fun reader =>
      if state.calls.any SwitchCall.inProgress && decide (reader.shared.useCount = 0) then none
      else some { state with reader := reader }
  else none

/-- A caller calls `SetExecutorOptions`. -/
def begin (caller : Option ThreadId) (options : DdsReaderExecutorOptions)
    (state : Switching Msg User) : Option (Switching Msg User) :=
  let calling := match caller with
    | some self =>
      !state.busy self && (state.reader.threads[self]?).elim false Thread.inUserCallback
    | none => true
  if calling && decide (0 < state.reader.shared.useCount) && !state.reader.shared.terminated then
    some { state with calls := state.calls ++ [⟨caller, options, .called⟩] }
  else none

/-- The call moves on to a phase. -/
def setPhase (index : Nat) (call : SwitchCall) (phase : SwitchPhase) (state : Switching Msg User) :
    Switching Msg User :=
  { state with calls := state.calls.set index { call with phase := phase } }

/-- The critical section of `SetExecutorOptions`, up to the destructor of the executor. -/
def enter (index : Nat) (call : SwitchCall) (state : Switching Msg User) : Switching Msg User :=
  let world := state.reader.shared
  let threads := state.reader.threads
  let switched := { world with listener := world.listener.setExecutorOptions call.options }
  match call.options.dispatchMode, world.listener.dedicatedExecutor with
  | .dedicated, false =>
    { state with
      reader := {
        shared := switched.setExecutor .dedicated (.create {threads.length})
        threads := threads ++ [Thread.worker .dedicated .starting] }
    }.setPhase index call .returned
  | .shared, true =>
    { state with reader := { state.reader with shared := switched } }.setPhase index call
      (.destroying .stopping)
  | _, _ =>
    { state with reader := { state.reader with shared := switched } }.setPhase index call .returned

/-- The next step of a call. -/
def proceed (index : Nat) (call : SwitchCall) (state : Switching Msg User) :
    Option (Switching Msg User) :=
  match call.phase with
  | .called => if state.locked then none else some (state.enter index call)
  | .destroying phase =>
    (state.reader.shared.destroyAct (call.thread state.reader.threads) phase).map
      fun (phase, world) =>
        let destroyed := { state with reader := { state.reader with shared := world } }
        match phase with
        | some phase => destroyed.setPhase index call (.destroying phase)
        | none =>
          { destroyed with dangling := state.dangling ++ state.pointing }.setPhase index call
            .returned
  | .returned => none

def step (state : Switching Msg User) : SwitchEvent Msg User → Option (Switching Msg User)
  | .reader event => state.stepReader event
  | .call caller options => state.begin caller options
  | .proceed index =>
    if state.reader.shared.terminated then none
    else (state.calls[index]?).bind fun call => state.proceed index call

end Switching

/-- All runs of a reader whose executor options are set again and again. -/
def Setup.switching (setup : Setup Msg User) : System (Switching Msg User) (SwitchEvent Msg User)
    where
  initial := ⟨setup.initial, [], []⟩
  step := Switching.step

/-! ### What a call waits for -/

/-- The thread is a worker of the dedicated executor in a drain task that has yet to lock
`mutex_`. -/
def Thread.drainsDedicated : Thread Msg User → Bool
  | .worker pool (.running (.drain phase)) => decide (pool = .dedicated ∧ 0 < phase.active)
  | _ => false

/-- The call of `on_data_available` is about to submit to the dedicated executor. -/
def Thread.submitsDedicated : Thread Msg User → Bool
  | .call (.submitting .dedicated) => true
  | _ => false

namespace Switching

/-- The worker of the dedicated executor must lock `mutex_` to finish its remaining tasks. -/
def MustLock (state : Switching Msg User) : Prop :=
  .drain ∈ (state.reader.shared.executors .dedicated).tasks ∨
    ∃ thread ∈ state.reader.threads, thread.drainsDedicated = true

/-- A call holds `mutex_` and waits to join the worker, which must lock it. -/
def Deadlocked (state : Switching Msg User) : Prop :=
  ∃ call ∈ state.calls, call.phase = .destroying .joining ∧
    (state.reader.shared.executors .dedicated).join (call.thread state.reader.threads) =
      .blocked ∧
    state.MustLock

/-- No drain is outstanding on the dedicated executor: none is queued, none runs there that has
yet to lock `mutex_`, and none is about to be submitted. -/
structure Clear (state : Switching Msg User) : Prop where
  queue : .drain ∉ (state.reader.shared.executors .dedicated).tasks
  workers : ∀ thread ∈ state.reader.threads, thread.drainsDedicated = false
  calls : ∀ entry ∈ state.reader.threads.zipIdx, entry.1.submitsDedicated = true →
    entry.2 ∈ state.dangling

instance (state : Switching Msg User) : Decidable state.Clear :=
  decidable_of_iff
    (.drain ∉ (state.reader.shared.executors .dedicated).tasks ∧
      (∀ thread ∈ state.reader.threads, thread.drainsDedicated = false) ∧
      ∀ entry ∈ state.reader.threads.zipIdx, entry.1.submitsDedicated = true →
        entry.2 ∈ state.dangling)
    ⟨fun ⟨queue, workers, calls⟩ => ⟨queue, workers, calls⟩,
      fun ⟨queue, workers, calls⟩ => ⟨queue, workers, calls⟩⟩

/-- The call is about to switch to the shared executor and finds a dedicated one to destroy. -/
def Leaves (state : Switching Msg User) (call : SwitchCall) : Prop :=
  call.phase = .called ∧ call.options.dispatchMode = .shared ∧
    state.reader.shared.listener.dedicatedExecutor = true

instance (state : Switching Msg User) (call : SwitchCall) : Decidable (state.Leaves call) :=
  inferInstanceAs (Decidable (_ ∧ _ ∧ _))

end Switching

/-- A run in which the dedicated executor is given up only while no drain is outstanding on
it. -/
def LeavesClear (state : Switching Msg User) : SwitchEvent Msg User → Prop
  | .proceed index => ∀ call ∈ state.calls[index]?, state.Leaves call → state.Clear
  | _ => True

instance (state : Switching Msg User) (event : SwitchEvent Msg User) :
    Decidable (LeavesClear state event) :=
  match event with
  | .proceed _ => inferInstanceAs (Decidable (∀ _ ∈ _, _))
  | .reader _ => inferInstanceAs (Decidable True)
  | .call _ _ => inferInstanceAs (Decidable True)

/-! ### One step -/

section Step

variable {self : ThreadId} {world world' : World Msg User} {thread thread' : Thread Msg User}

/-- A drain task that has nothing left to lock never has again. -/
theorem drainActs_inactive {phase phase' : DrainPhase Msg User}
    (acts : DrainActs self world phase (some phase') world') (inactive : phase.active = 0) :
    phase'.active = 0 := by
  generalize result : some phase' = next at acts
  cases acts with
  | release phase =>
    cases phase with
    | none => cases result
    | some phase =>
      cases result
      rfl
  | destroy _ phase =>
    cases phase with
    | none => cases result
    | some phase =>
      cases result
      rfl
  | expired => cases result
  | leave =>
    cases result
    rfl
  | _ => cases inactive

/-- The only call that reaches the point of submitting to the dedicated executor has locked
`mutex_` to do so. -/
theorem callActs_submitsDedicated {phase phase' : CallPhase Msg}
    (acts : CallActs world phase phase' world')
    (unlocked : (Thread.call phase : Thread Msg User).locks = false) :
    (Thread.call phase' : Thread Msg User).submitsDedicated = false := by
  cases acts with
  | schedule => cases unlocked
  | offer => cases unlocked
  | _ => rfl

/-- A call that neither locks `mutex_` nor is about to submit to the dedicated executor leaves it
without a drain. -/
theorem callActs_clear {phase phase' : CallPhase Msg} (acts : CallActs world phase phase' world')
    (submits : (Thread.call phase : Thread Msg User).submitsDedicated = false)
    (queue : .drain ∉ (world.executors .dedicated).tasks) :
    .drain ∉ (world'.executors .dedicated).tasks := by
  cases acts with
  | submit pool =>
    cases pool with
    | shared => exact queue
    | dedicated => cases submits
  | notify _ _ _ notified =>
    rw [setExecutor_part Executor.tasks (Executor.notifyOne_tasks notified)]
    exact queue
  | _ => exact queue

/-- A worker of an executor without a drain begins none. -/
theorem runs_clear {pool : Pool} {phase phase' : RunPhase (Running Msg User)}
    {executor : Executor Task}
    (ran : Executor.Runs Running.start self (world.executors pool) phase phase' executor)
    (queue : .drain ∉ (world.executors .dedicated).tasks) :
    .drain ∉ ((world.setExecutor pool executor).executors .dedicated).tasks ∧
      (Thread.worker pool phase').drainsDedicated = false := by
  cases pool with
  | shared =>
    refine ⟨queue, ?_⟩
    cases ran with
    | take task => cases task <;> rfl
    | _ => rfl
  | dedicated =>
    cases ran with
    | take task rest front =>
      rw [front, List.mem_cons, not_or] at queue
      cases task with
      | drain => exact absurd rfl queue.1
      | other => exact ⟨queue.2, rfl⟩
    | _ => exact ⟨queue, rfl⟩

/-- While `mutex_` is locked by others no drain comes to the dedicated executor: a thread that
neither drains there nor is about to submit leaves it without one. -/
theorem worldActs_clear (acts : WorldActs self world thread thread' world')
    (unlocked : thread.locks = false) (submits : thread.submitsDedicated = false)
    (drains : thread.drainsDedicated = false)
    (queue : .drain ∉ (world.executors .dedicated).tasks) :
    .drain ∉ (world'.executors .dedicated).tasks ∧ thread'.drainsDedicated = false ∧
      thread'.submitsDedicated = false := by
  cases acts with
  | call _ _ _ acts =>
    exact ⟨callActs_clear acts submits queue, rfl, callActs_submitsDedicated acts unlocked⟩
  | drain pool phase phase' _ acts =>
    rw [drainActs_part Executor.keeps_tasks acts]
    refine ⟨queue, ?_, rfl⟩
    refine decide_eq_false ?_
    rintro ⟨here, active⟩
    have inactive : phase.active = 0 :=
      Nat.eq_zero_of_not_pos fun active => of_decide_eq_false drains ⟨here, active⟩
    exact absurd (drainActs_inactive acts inactive) (Nat.ne_of_gt active)
  | drainEnd _ _ _ acts =>
    rw [drainActs_part Executor.keeps_tasks acts]
    exact ⟨queue, rfl, rfl⟩
  | run _ _ _ _ ran =>
    obtain ⟨queue', drains'⟩ := runs_clear ran queue
    exact ⟨queue', drains', rfl⟩
  | close _ _ _ acts =>
    rw [closeActs_part Executor.keeps_tasks acts]
    exact ⟨queue, rfl, rfl⟩
  | postNotify _ _ notified =>
    rw [setExecutor_part Executor.tasks (Executor.notifyOne_tasks notified)]
    exact ⟨queue, rfl, rfl⟩
  | _ => exact ⟨queue, rfl, rfl⟩

end Step

/-! ### Whole runs -/

namespace Switching

variable {state state' : Switching Msg User}

theorem Clear.not_mustLock (clear : state.Clear) : ¬ state.MustLock := by
  rintro (queued | ⟨thread, member, drains⟩)
  · exact clear.queue queued
  · exact absurd ((clear.workers thread member).symm.trans drains) Bool.false_ne_true

/-- A step of the reader while `mutex_` is locked brings no drain to the dedicated executor. -/
theorem clear_stepReader {event : Event (Thread Msg User) (Choice Msg)}
    (stepped : state.stepReader event = some state') (locked : state.locked = true)
    (clear : state.Clear) : state'.Clear := by
  obtain ⟨permitted, stepped⟩ := Option.ite_none_right_eq_some.mp stepped
  obtain ⟨reader, moved, result⟩ := Option.bind_eq_some_iff.mp stepped
  obtain ⟨_, result⟩ := Option.ite_none_left_eq_some.mp result
  cases result
  obtain ⟨world, threads⟩ := reader
  rcases Program.step_cases moved with
    ⟨thread, rfl, allowed, shared, grown⟩ | ⟨self, choice, thread, thread', rfl, found, acted, set⟩
  · subst shared grown
    have fresh : thread.drainsDedicated = false ∧ thread.submitsDedicated = false := by
      rcases spawns_cases allowed with ⟨rfl, _⟩ | rfl | rfl <;> exact ⟨rfl, rfl⟩
    refine ⟨clear.queue, ?_, ?_⟩
    · intro other member
      rcases List.mem_append.mp member with old | new
      · exact clear.workers other old
      · rw [List.mem_singleton.mp new]
        exact fresh.1
    · rintro ⟨other, index⟩ member submits
      rcases found_append (List.mem_zipIdx_iff_getElem?.mp member) with old | ⟨_, rfl⟩
      · exact clear.calls (other, index) (List.mem_zipIdx_iff_getElem?.mpr old) submits
      · exact absurd (fresh.2.symm.trans submits) Bool.false_ne_true
  · subst set
    simp only [permits, found, Option.elim, locked, Bool.true_and, Bool.and_eq_true,
      Bool.not_eq_true'] at permitted
    obtain ⟨⟨_, pointing⟩, unlocked⟩ := permitted
    have submits : thread.submitsDedicated = false := by
      refine Bool.not_eq_true _ ▸ fun submits => ?_
      have dangles := clear.calls (thread, self) (List.mem_zipIdx_iff_getElem?.mpr found) submits
      exact absurd (pointing.symm.trans (List.contains_iff_mem.mpr dangles)) Bool.false_ne_true
    obtain ⟨queue, drains', submits'⟩ := worldActs_clear (worldAct_cases acted) unlocked submits
      (clear.workers thread (List.mem_of_getElem? found)) clear.queue
    refine ⟨queue, forall_mem_set clear.workers drains', ?_⟩
    rintro ⟨other, index⟩ member submitting
    rcases found_set (List.mem_zipIdx_iff_getElem?.mp member) with ⟨_, rfl⟩ | ⟨_, old⟩
    · exact absurd (submits'.symm.trans submitting) Bool.false_ne_true
    · exact clear.calls (other, index) (List.mem_zipIdx_iff_getElem?.mpr old) submitting

/-- A call that starts or ends locks nothing. -/
theorem unlocked_setPhase (unlocked : state.locked = false) (index : Nat) (call : SwitchCall) :
    (state.setPhase index call .returned).locked = false := by
  refine List.any_eq_false.mpr fun other member => ?_
  rcases List.mem_or_eq_of_mem_set member with old | rfl
  · exact List.any_eq_false.mp unlocked other old
  · exact Bool.false_ne_true

theorem locked_of_mem {call : SwitchCall} (member : call ∈ state.calls)
    (locked : call.locked = true) : state.locked = true :=
  List.any_eq_true.mpr ⟨call, member, locked⟩

/-- A call that locks `mutex_` for longer than one step leaves the dedicated dispatch. -/
theorem clear_enter {index : Nat} {call : SwitchCall} (calling : call.phase = .called)
    (unlocked : state.locked = false) (admitted : state.Leaves call → state.Clear)
    (locked : (state.enter index call).locked = true) : (state.enter index call).Clear := by
  unfold enter at locked ⊢
  simp only at locked ⊢
  split at locked
  · exact absurd ((unlocked_setPhase unlocked index call).symm.trans locked) Bool.false_ne_true
  · rename_i shared owns
    obtain ⟨queue, workers, calls⟩ := admitted ⟨calling, shared, owns⟩
    exact ⟨queue, workers, calls⟩
  · exact absurd ((unlocked_setPhase unlocked index call).symm.trans locked) Bool.false_ne_true

theorem clear_proceed {index : Nat} {call : SwitchCall} (found : state.calls[index]? = some call)
    (stepped : state.proceed index call = some state')
    (admitted : state.Leaves call → state.Clear) (kept : state.locked = true → state.Clear)
    (locked : state'.locked = true) : state'.Clear := by
  unfold proceed at stepped
  split at stepped
  · rename_i calling
    split at stepped
    · cases stepped
    · rename_i unlocked
      cases stepped
      exact clear_enter calling (Bool.eq_false_iff.mpr unlocked) admitted locked
  · rename_i phase destroying
    obtain ⟨⟨phase', world⟩, destroyed, result⟩ := Option.map_eq_some_iff.mp stepped
    have held : call.locked = true := by
      unfold SwitchCall.locked
      rw [destroying]
    obtain ⟨queue, workers, calls⟩ := kept (locked_of_mem (List.mem_of_getElem? found) held)
    rw [← destroyActs_part Executor.keeps_tasks (destroyAct_cases destroyed)] at queue
    cases phase' with
    | some phase' =>
      cases result
      exact ⟨queue, workers, calls⟩
    | none =>
      cases result
      exact ⟨queue, workers, fun entry member submits =>
        List.mem_append_left _ (calls entry member submits)⟩
  · cases stepped

/-- While a call keeps `mutex_` locked no drain is outstanding on the dedicated executor, as
none was when it left the dedicated dispatch. -/
theorem clear_reachable {setup : Setup Msg User}
    (reachable : setup.switching.ReachableBy LeavesClear state) :
    state.locked = true → state.Clear := by
  let holds (state : Switching Msg User) : Prop := state.locked = true → state.Clear
  have initially : holds setup.switching.initial := fun locked =>
    absurd locked Bool.false_ne_true
  refine reachable.invariant initially ?_
  intro state event next _ kept admitted stepped locked
  cases event with
  | reader event =>
    have same : next.calls = state.calls := by
      obtain ⟨_, stepped⟩ := Option.ite_none_right_eq_some.mp stepped
      obtain ⟨reader, _, result⟩ := Option.bind_eq_some_iff.mp stepped
      obtain ⟨_, result⟩ := Option.ite_none_left_eq_some.mp result
      cases result
      rfl
    have before : state.locked = true := by
      unfold Switching.locked at locked ⊢
      rwa [same] at locked
    exact clear_stepReader stepped before (kept before)
  | call caller options =>
    obtain ⟨_, result⟩ := Option.ite_none_right_eq_some.mp stepped
    cases result
    have before : state.locked = true := by
      unfold Switching.locked at locked ⊢
      rwa [List.any_append, List.any_cons, List.any_nil, Bool.or_false,
        show SwitchCall.locked ⟨caller, options, .called⟩ = false from rfl,
        Bool.or_false] at locked
    obtain ⟨queue, workers, calls⟩ := kept before
    exact ⟨queue, workers, calls⟩
  | proceed index =>
    obtain ⟨_, stepped⟩ := Option.ite_none_left_eq_some.mp stepped
    obtain ⟨call, found, stepped⟩ := Option.bind_eq_some_iff.mp stepped
    exact clear_proceed found stepped (admitted call found) kept locked

end Switching

open Switching

variable {state : Switching Msg User}

/-- In a run in which the dedicated executor is given up only while no drain is outstanding on
it, no call of `SetExecutorOptions` waits with `mutex_` locked for a worker that must lock it. -/
theorem switch_never_deadlocks (setup : Setup Msg User)
    (reachable : setup.switching.ReachableBy LeavesClear state) : ¬ state.Deadlocked := by
  rintro ⟨call, member, joining, _, mustLock⟩
  have held : call.locked = true := by
    unfold SwitchCall.locked
    rw [joining]
  exact (clear_reachable reachable (locked_of_mem member held)).not_mustLock mustLock

/-- A drain is queued at a dedicated reader when the application switches to the shared
executor. The worker takes the drain while the application waits for it. -/
def switchedLateRun : List (SwitchEvent Nat (List Nat)) :=
  (arrival 2 [7] ++ scheduling 2).map .reader ++
    [.call none {}, .proceed 0, .proceed 0, .proceed 0, .reader (.act 0 .proceed),
      .reader (.act 0 .proceed), .reader (.act 0 .proceed)]

theorem switchedLateRun_isSome :
    ((loggingSetup { dispatchMode := .dedicated } 0).switching.run switchedLateRun).isSome =
      true := rfl

/-- The state `switchedLateRun` ends in. -/
def switchedLate : Switching Nat (List Nat) :=
  ((loggingSetup { dispatchMode := .dedicated } 0).switching.run switchedLateRun).get
    switchedLateRun_isSome

theorem switchedLate_deadlocked : switchedLate.Deadlocked := by
  refine ⟨⟨none, {}, .destroying .joining⟩, List.mem_singleton.mpr rfl, rfl, rfl, Or.inr ?_⟩
  exact ⟨.worker .dedicated (.running (.drain .draining)), List.mem_cons_self, rfl⟩

/-- The application holds `mutex_` and waits for the worker, which waits for `mutex_`: neither
takes another step. -/
theorem switch_deadlocks :
    switchedLate.step (.proceed 0) = none ∧
    (∀ choice, switchedLate.step (.reader (.act 0 choice)) = none) ∧
    ¬ ∀ state, (loggingSetup { dispatchMode := .dedicated } 0).switching.Reachable state →
      ¬ state.Deadlocked := by
  refine ⟨rfl, fun choice => rfl, fun claim => ?_⟩
  refine claim switchedLate ?_ switchedLate_deadlocked
  exact System.reachable_of_run (Option.some_get switchedLateRun_isSome).symm

/-- Worker `self` ends the callback, finds the queue empty and ends the drain. -/
def ending (self : ThreadId) : List (Event (Thread Msg User) (Choice Msg)) :=
  [.act self .handle, .act self .proceed, .act self .proceed, .act self .proceed]

/-- The application switches once the worker has emptied the queue, and waits for it. -/
def switchedIdleRun : List (SwitchEvent Nat (List Nat)) :=
  (arrival 2 [7] ++ scheduling 2 ++ beginning 0 ++ ending 0).map .reader ++
    [.call none {}, .proceed 0, .proceed 0, .proceed 0]

theorem switchedIdleRun_isSome :
    (((loggingSetup { dispatchMode := .dedicated } 0).switching.restrict LeavesClear).run
      switchedIdleRun).isSome = true := rfl

/-- The state `switchedIdleRun` ends in. -/
def switchedIdle : Switching Nat (List Nat) :=
  (((loggingSetup { dispatchMode := .dedicated } 0).switching.restrict LeavesClear).run
    switchedIdleRun).get switchedIdleRun_isSome

theorem switch_never_deadlocks_idle :
    switchedIdle.locked = true ∧
    (switchedIdle.reader.shared.executors .dedicated).join 2 = .blocked ∧
    switchedIdle.reader.shared.history.handled.length = 1 ∧
    ¬ switchedIdle.Deadlocked :=
  ⟨rfl, rfl, rfl, switch_never_deadlocks (loggingSetup { dispatchMode := .dedicated } 0)
    (.of_restrict (System.reachable_of_run (Option.some_get switchedIdleRun_isSome).symm))⟩

end Booster.Common
