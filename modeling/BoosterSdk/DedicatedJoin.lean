/-
This file settles which thread destroys a dedicated executor.

The listener owns its dedicated executor, so the executor is destroyed by the
thread that gives up the last reference to the listener, and its destructor joins
its worker. While a drain task runs on that worker it holds a reference. If
`CloseReader` resets the channel's reference during that time, from another thread
or from inside the callback, the worker is left with the last one; it then runs
the destructor when its task ends, and joins itself. If instead the channel's
reference is the last whenever `CloseReader` resets it, the thread that calls
`CloseReader` runs the destructor, and it is not the worker.
-/

import BoosterSdk.CloseReader

namespace Booster.Common

open Interleaving

variable {Msg User : Type}

/-- A run in which `CloseReader` resets the channel's reference only when no drain task holds
one. -/
def ResetsLast (config : Config (World Msg User) (Thread Msg User)) :
    Event (Thread Msg User) (Choice Msg) → Prop
  | .act self _ =>
    (config.threads[self]?).bind Thread.closePhase = some .resetting → config.shared.useCount = 1
  | .spawn _ => True

instance (config : Config (World Msg User) (Thread Msg User))
    (event : Event (Thread Msg User) (Choice Msg)) : Decidable (ResetsLast config event) :=
  match event with
  | .act _ _ => inferInstanceAs (Decidable (_ → _))
  | .spawn _ => inferInstanceAs (Decidable True)

/-- A call of `CloseReader` that destroys the dedicated executor. -/
def ClosePhase.destroys : ClosePhase → Bool
  | .destroying _ => true
  | _ => false

/-- A drain task that destroys the dedicated executor, at its end or inside its callback. -/
def DrainPhase.destroys : DrainPhase Msg User → Bool
  | .destroying _ => true
  | .inCallback run => run.closing.elim false ClosePhase.destroys
  | _ => false

/-- A worker that destroys the dedicated executor. -/
def Thread.workerDestroys : Thread Msg User → Bool
  | .worker _ (.running (.drain phase)) => phase.destroys
  | _ => false

/-! ### One step -/

section Step

variable {self : ThreadId} {world world' : World Msg User} {thread thread' : Thread Msg User}

theorem callActs_executors {phase phase' : CallPhase Msg}
    (acts : CallActs world phase phase' world') (pool : Pool) :
    (world'.executors pool).executors = (world.executors pool).executors := by
  cases acts with
  | submit => exact setExecutor_part Executor.executors (Executor.submit_executors _ _) pool
  | notify _ _ _ notified =>
    exact setExecutor_part Executor.executors (Executor.notifyOne_executors notified) pool
  | _ => rfl

/-- No step changes which threads an executor has. -/
theorem worldActs_executors (acts : WorldActs self world thread thread' world') (pool : Pool) :
    (world'.executors pool).executors = (world.executors pool).executors := by
  cases acts with
  | call _ _ _ acts => exact callActs_executors acts pool
  | drain _ _ _ _ acts => exact drainActs_part Executor.keeps_executors acts pool
  | drainEnd _ _ _ acts => exact drainActs_part Executor.keeps_executors acts pool
  | run _ _ _ _ ran =>
    refine setExecutor_part Executor.executors ?_ pool
    cases ran <;> rfl
  | close _ _ _ acts => exact closeActs_part Executor.keeps_executors acts pool
  | post => exact setExecutor_part Executor.executors (Executor.submit_executors _ _) pool
  | postNotify _ _ notified =>
    exact setExecutor_part Executor.executors (Executor.notifyOne_executors notified) pool
  | _ => rfl

/-- A worker stays a worker of its pool. -/
theorem worldActs_worker {pool : Pool} {phase : RunPhase (Running Msg User)}
    (acts : WorldActs self world (.worker pool phase) thread' world') :
    ∃ phase', thread' = .worker pool phase' := by
  cases acts <;> exact ⟨_, rfl⟩

/-- Giving up a reference that is not the last one decides nothing. -/
theorem releases_shared {phase : Option DestroyPhase}
    (released : Releases self world phase world') (more : world.useCount ≠ 1) :
    phase = none ∧ world'.destroyer = world.destroyer ∧
      world'.terminated = world.terminated := by
  cases released with
  | shared => exact ⟨rfl, rfl, rfl⟩
  | last one => exact absurd one more
  | lastDedicated one => exact absurd one more

/-- Whoever calls `CloseReader` may become the destroyer, and ends the process only by joining
itself. -/
theorem closeActs_destroyer {phase phase' : ClosePhase}
    (acts : CloseActs self world phase phase' world') :
    (world'.destroyer = world.destroyer ∨ world'.destroyer = some self) ∧
      (world'.terminated = world.terminated ∨
        self ∈ (world.executors .dedicated).executors) := by
  cases acts with
  | reset _ _ released =>
    cases released with
    | shared => exact ⟨Or.inl rfl, Or.inl rfl⟩
    | last => exact ⟨Or.inl rfl, Or.inl rfl⟩
    | lastDedicated => exact ⟨Or.inr rfl, Or.inl rfl⟩
  | destroy _ _ _ destroyed =>
    cases destroyed with
    | selfJoin joined => exact ⟨Or.inl rfl, Or.inr (Executor.mem_of_selfJoin joined)⟩
    | _ => exact ⟨Or.inl rfl, Or.inl rfl⟩
  | _ => exact ⟨Or.inl rfl, Or.inl rfl⟩

/-- A drain task that neither resets the channel's reference nor gives up the last one destroys
nothing. -/
theorem drainActs_calm {phase : DrainPhase Msg User} {phase' : Option (DrainPhase Msg User)}
    (acts : DrainActs self world phase phase' world') (calm : phase.destroys = false)
    (resets : phase.closePhase ≠ some .resetting)
    (releases : phase = .releasing → world.useCount ≠ 1) :
    world'.destroyer = world.destroyer ∧ world'.terminated = world.terminated ∧
      world'.channelHolds = world.channelHolds ∧ phase'.elim false DrainPhase.destroys = false := by
  cases acts with
  | handle => exact ⟨rfl, rfl, rfl, calm⟩
  | close _ _ _ _ _ _ _ closed =>
    cases closed with
    | reset => exact absurd rfl resets
    | destroy => exact absurd calm.symm Bool.false_ne_true
    | _ => exact ⟨rfl, rfl, rfl, rfl⟩
  | finish popped => cases popped.metricsEnabled <;> exact ⟨rfl, rfl, rfl, rfl⟩
  | release phase _ released =>
    obtain ⟨rfl, destroyer, terminated⟩ := releases_shared released (releases rfl)
    exact ⟨destroyer, terminated, (releases_frame released).2.2.1, rfl⟩
  | destroy => exact absurd calm.symm Bool.false_ne_true
  | _ => exact ⟨rfl, rfl, rfl, rfl⟩

/-- A callback about to reset the channel's reference sits on a drain task's own one. -/
theorem holds_of_resetting {phase : DrainPhase Msg User}
    (resetting : phase.closePhase = some .resetting) : phase.holds = 1 ∧ phase.closes = 1 := by
  cases phase with
  | inCallback run =>
    have closing : run.closing = some .resetting := resetting
    refine ⟨rfl, ?_⟩
    simp only [DrainPhase.closes, closing]
    rfl
  | _ => cases resetting

/-- A thread that is not a caller of `CloseReader`, does not reset the channel's reference from
a callback and does not give up the last one destroys nothing. -/
theorem worldActs_calm (acts : WorldActs self world thread thread' world')
    (outside : ∀ phase, thread ≠ .closer phase) (calm : thread.workerDestroys = false)
    (resets : thread.closePhase ≠ some .resetting)
    (releases : ∀ pool, thread = .worker pool (.running (.drain .releasing)) →
      world.useCount ≠ 1) :
    world'.destroyer = world.destroyer ∧ world'.terminated = world.terminated ∧
      world'.channelHolds = world.channelHolds ∧ thread'.workerDestroys = false := by
  cases acts with
  | call _ _ _ acts => cases acts <;> exact ⟨rfl, rfl, rfl, rfl⟩
  | drain pool phase _ _ acts =>
    refine drainActs_calm acts calm resets fun releasing => releases pool ?_
    rw [releasing]
  | drainEnd pool phase _ acts =>
    refine drainActs_calm acts calm resets fun releasing => releases pool ?_
    rw [releasing]
  | run _ _ _ _ ran =>
    refine ⟨rfl, rfl, rfl, ?_⟩
    cases ran with
    | take task => cases task <;> rfl
    | _ => rfl
  | close phase => exact absurd rfl (outside phase)
  | _ => exact ⟨rfl, rfl, rfl, rfl⟩

/-- When the reference reset is the last one, the listener goes with it. -/
theorem closeActs_released {phase phase' : ClosePhase}
    (acts : CloseActs self world phase phase' world')
    (released : world.channelHolds = false → world.useCount = 0)
    (last : phase = .resetting → world.useCount = 1) :
    world'.channelHolds = false → world'.useCount = 0 := by
  cases acts with
  | reset _ _ gone =>
    intro _
    rw [(releases_frame gone).1]
    show world.useCount - 1 = 0
    rw [last rfl]
  | destroy _ _ _ destroyed =>
    obtain ⟨useCount, _, channelHolds, _, _⟩ := destroyActs_frame destroyed
    rw [useCount, channelHolds]
    exact released
  | _ => exact released

end Step

/-! ### The destroyer -/

/-- What a run keeps in which the channel's reference is the last when it is reset. -/
structure JoinInvariant (setup : Setup Msg User)
    (config : Config (World Msg User) (Thread Msg User)) : Prop where
  released : config.shared.channelHolds = false → config.shared.useCount = 0
  executors : (config.shared.executors .dedicated).executors = setup.dedicatedThreads
  workers : ∀ index ∈ setup.dedicatedThreads, ∃ phase,
    config.threads[index]? = some (.worker .dedicated phase)
  calm : ∀ thread ∈ config.threads, thread.workerDestroys = false
  destroyer : ∀ thread, config.shared.destroyer = some thread → thread ∉ setup.dedicatedThreads
  running : config.shared.terminated = false

section Join

variable {setup : Setup Msg User} {config : Config (World Msg User) (Thread Msg User)}

theorem joinInvariant_initial (setup : Setup Msg User) : JoinInvariant setup setup.initial := by
  refine ⟨fun gone => absurd gone.symm Bool.false_ne_true, rfl, ?_, ?_, ?_, rfl⟩
  · intro index member
    unfold Setup.dedicatedThreads at member
    split at member
    · rename_i dedicated
      refine ⟨.starting, ?_⟩
      rw [Finset.mem_singleton.mp member]
      simp [Setup.initial, dedicated]
    · exact absurd member (Finset.notMem_empty index)
  · intro thread member
    rcases mem_initial_threads member with ⟨pool, rfl⟩ | rfl <;> rfl
  · rintro thread ⟨⟩

theorem joinInvariant_spawn {thread : Thread Msg User} (invariant : JoinInvariant setup config)
    (allowed : thread.spawns config.shared = true) :
    JoinInvariant setup { config with threads := config.threads ++ [thread] } := by
  refine ⟨invariant.released, invariant.executors, ?_, ?_, invariant.destroyer,
    invariant.running⟩
  · intro index member
    obtain ⟨phase, found⟩ := invariant.workers index member
    refine ⟨phase, ?_⟩
    rw [List.getElem?_append_left (List.getElem?_eq_some_iff.mp found).1]
    exact found
  · intro other member
    rcases List.mem_append.mp member with old | new
    · exact invariant.calm other old
    · rw [List.mem_singleton.mp new]
      rcases spawns_cases allowed with ⟨rfl, _⟩ | rfl | rfl <;> rfl

/-- The workers of the dedicated executor stay at their indices. -/
theorem joinInvariant_workers {self : ThreadId} {thread thread' : Thread Msg User}
    {shared : World Msg User} (invariant : JoinInvariant setup config)
    (found : config.threads[self]? = some thread)
    (acts : WorldActs self config.shared thread thread' shared) :
    ∀ index ∈ setup.dedicatedThreads, ∃ phase,
      (config.threads.set self thread')[index]? = some (.worker .dedicated phase) := by
  intro index member
  obtain ⟨phase, there⟩ := invariant.workers index member
  by_cases same : self = index
  · subst same
    have is : thread = .worker .dedicated phase := Option.some.inj (found.symm.trans there)
    rw [is] at acts
    obtain ⟨phase', is'⟩ := worldActs_worker acts
    refine ⟨phase', ?_⟩
    rw [List.getElem?_set_self (List.getElem?_eq_some_iff.mp found).1, is']
  · refine ⟨phase, ?_⟩
    rw [List.getElem?_set_ne same]
    exact there

/-- A caller of `CloseReader` is not a worker of the dedicated executor, and is the one that
destroys it. -/
theorem joinInvariant_closer {self : ThreadId} {phase phase' : ClosePhase}
    {shared : World Msg User} (invariant : JoinInvariant setup config)
    (last : phase = .resetting → config.shared.useCount = 1)
    (found : config.threads[self]? = some (.closer phase))
    (acts : CloseActs self config.shared phase phase' shared) :
    JoinInvariant setup
      { shared := shared, threads := config.threads.set self (.closer phase') } := by
  have elsewhere : self ∉ setup.dedicatedThreads := by
    intro member
    obtain ⟨_, there⟩ := invariant.workers self member
    cases found.symm.trans there
  have executors :=
    (closeActs_part Executor.keeps_executors acts .dedicated).trans invariant.executors
  have workers := joinInvariant_workers invariant found (.close phase phase' shared acts)
  obtain ⟨destroyer, terminated⟩ := closeActs_destroyer acts
  refine ⟨closeActs_released acts invariant.released last, executors, workers,
    forall_mem_set invariant.calm rfl, ?_, ?_⟩
  · intro other is
    rcases destroyer with same | here
    · exact invariant.destroyer other (same.symm.trans is)
    · rw [Option.some.inj (is.symm.trans here)]
      exact elsewhere
  · rcases terminated with same | member
    · exact same.trans invariant.running
    · rw [invariant.executors] at member
      exact absurd member elsewhere

/-- A callback that calls `CloseReader` sits on a reference of its own, so the channel's is not the
last one when it is reset. -/
theorem DrainInvariant.not_resetting {self : ThreadId} {thread : Thread Msg User}
    (drain : DrainInvariant config) (found : config.threads[self]? = some thread)
    (outside : ∀ phase, thread ≠ .closer phase)
    (last : thread.closePhase = some .resetting → config.shared.useCount = 1) :
    thread.closePhase ≠ some .resetting := by
  intro resetting
  have one := last resetting
  have references := drain.references
  have closing := drain.closing
  have ownCloses := weight_le_tally Thread.closes found
  have ownHolds := weight_le_tally Thread.holds found
  cases thread with
  | closer phase => exact outside phase rfl
  | worker pool phase =>
    cases phase with
    | running task =>
      cases task with
      | drain phase =>
        obtain ⟨holds, closes⟩ := holds_of_resetting resetting
        have held : 1 ≤ tally Thread.holds config.threads := holds.symm.trans_le ownHolds
        have closing : 1 ≤ tally Thread.closes config.threads := closes.symm.trans_le ownCloses
        omega
      | other => cases resetting
    | _ => cases resetting
  | _ => cases resetting

/-- A drain task at its end does not give up the last reference: were it the last, the channel's
would be gone and the listener with it. -/
theorem JoinInvariant.more_than_one {self : ThreadId} {pool : Pool}
    (invariant : JoinInvariant setup config) (drain : DrainInvariant config)
    (found : config.threads[self]? = some (.worker pool (.running (.drain .releasing)))) :
    config.shared.useCount ≠ 1 := by
  intro one
  have references := drain.references
  have held : 1 ≤ tally Thread.holds config.threads := weight_le_tally Thread.holds found
  have gone : config.shared.channelHolds = false := by
    refine Bool.toNat_eq_zero.mp ?_
    omega
  rw [invariant.released gone] at one
  exact absurd one Nat.zero_ne_one

theorem joinInvariant_act {self : ThreadId} {choice : Choice Msg}
    {thread thread' : Thread Msg User} {shared : World Msg User}
    (invariant : JoinInvariant setup config) (drain : DrainInvariant config)
    (admitted : ResetsLast config (.act self choice))
    (found : config.threads[self]? = some thread)
    (acts : WorldActs self config.shared thread thread' shared) :
    JoinInvariant setup { shared := shared, threads := config.threads.set self thread' } := by
  have last : thread.closePhase = some .resetting → config.shared.useCount = 1 := by
    intro resetting
    refine admitted ?_
    rw [found]
    exact resetting
  by_cases caller : ∃ phase, thread = .closer phase
  · obtain ⟨phase, rfl⟩ := caller
    cases acts with
    | close _ phase' _ acts =>
      exact joinInvariant_closer invariant (fun resetting => last (congrArg some resetting))
        found acts
  · push Not at caller
    have executors := (worldActs_executors acts .dedicated).trans invariant.executors
    have workers := joinInvariant_workers invariant found acts
    have dies : config.shared.useCount = 0 → shared.useCount = 0 := fun dead =>
      Nat.eq_zero_of_not_pos fun alive => Nat.ne_of_gt (worldActs_alive acts alive) dead
    have releases : ∀ pool, thread = .worker pool (.running (.drain .releasing)) →
        config.shared.useCount ≠ 1 := by
      rintro pool rfl
      exact invariant.more_than_one drain found
    obtain ⟨destroyer, terminated, channelHolds, calm⟩ := worldActs_calm acts caller
      (invariant.calm thread (List.mem_of_getElem? found))
      (drain.not_resetting found caller last) releases
    refine ⟨?_, executors, workers, forall_mem_set invariant.calm calm, ?_, ?_⟩
    · intro gone
      exact dies (invariant.released (channelHolds.symm.trans gone))
    · intro other is
      exact invariant.destroyer other (destroyer.symm.trans is)
    · exact terminated.trans invariant.running

theorem joinInvariant_reachable (reachable : setup.system.ReachableBy ResetsLast config) :
    JoinInvariant setup config := by
  refine Program.invariant (joinInvariant_initial setup) ?_ ?_ reachable
  · intro config thread _ invariant _ allowed
    exact joinInvariant_spawn invariant allowed
  · intro config self choice thread thread' shared reached invariant admitted found acted
    exact joinInvariant_act invariant (drainInvariant_reachable reached) admitted found
      (worldAct_cases acted)

/-- In a run in which `CloseReader` resets the channel's reference only while no drain task
holds one, the thread that destroys the dedicated executor is not its worker, and no thread
joins itself. -/
theorem dedicated_worker_never_joins_itself (setup : Setup Msg User)
    (reachable : setup.system.ReachableBy ResetsLast config) :
    (∀ thread, config.shared.destroyer = some thread →
      thread ∉ (config.shared.executors .dedicated).executors) ∧
    config.shared.terminated = false := by
  have invariant := joinInvariant_reachable reachable
  rw [invariant.executors]
  exact ⟨invariant.destroyer, invariant.running⟩

/-- A sample arrives at a dedicated reader; another thread closes the reader while the callback
is in progress; the worker ends its drain and gives up its reference. -/
def workerReleasesLastRun : List (Event (Thread Nat (List Nat)) (Choice Nat)) :=
  arrival 2 [7] ++ scheduling 2 ++ beginning 0 ++ closing 3 ++ continuing 0 ++
    [.act 0 .proceed, .act 0 .proceed, .act 0 .proceed, .act 0 .proceed]

theorem workerReleasesLastRun_isSome :
    ((loggingSetup { dispatchMode := .dedicated } 0).system.run
      workerReleasesLastRun).isSome = true := rfl

/-- The state `workerReleasesLastRun` ends in. -/
def workerReleasesLast : Config (World Nat (List Nat)) (Thread Nat (List Nat)) :=
  ((loggingSetup { dispatchMode := .dedicated } 0).system.run
    workerReleasesLastRun).get workerReleasesLastRun_isSome

/-- The worker destroys its own executor, joins itself, and the process ends. -/
theorem dedicated_worker_joins_itself :
    workerReleasesLast.shared.terminated = true ∧
    ¬ ∀ config, (loggingSetup { dispatchMode := .dedicated } 0).system.Reachable config →
      ∀ thread, config.shared.destroyer = some thread →
        thread ∉ (config.shared.executors .dedicated).executors := by
  refine ⟨rfl, fun claim => ?_⟩
  refine claim workerReleasesLast ?_ 0 rfl (by decide)
  exact System.reachable_of_run (Option.some_get workerReleasesLastRun_isSome).symm

/-- A sample arrives at a dedicated reader and a drain is queued; the reader is closed before the
worker takes it, and the closing thread waits for the worker. -/
def closerReleasesLastRun : List (Event (Thread Nat (List Nat)) (Choice Nat)) :=
  arrival 2 [7] ++ scheduling 2 ++
    [.spawn (.closer .calling), .act 3 .close, .act 3 .close, .act 3 .close, .act 3 .close,
      .act 3 .close, .act 0 .proceed, .act 0 .proceed, .act 0 .proceed, .act 0 .proceed,
      .act 3 .close, .act 3 .close]

theorem closerReleasesLastRun_isSome :
    (((loggingSetup { dispatchMode := .dedicated } 0).system.restrict ResetsLast).run
      closerReleasesLastRun).isSome = true := rfl

/-- The state `closerReleasesLastRun` ends in. -/
def closerReleasesLast : Config (World Nat (List Nat)) (Thread Nat (List Nat)) :=
  (((loggingSetup { dispatchMode := .dedicated } 0).system.restrict ResetsLast).run
    closerReleasesLastRun).get closerReleasesLastRun_isSome

theorem dedicated_worker_never_joins_itself_closed :
    closerReleasesLast.shared.destroyer = some 3 ∧
    closerReleasesLast.shared.closeReturned = true ∧
    (∀ thread, closerReleasesLast.shared.destroyer = some thread →
      thread ∉ (closerReleasesLast.shared.executors .dedicated).executors) ∧
    closerReleasesLast.shared.terminated = false :=
  ⟨rfl, rfl, dedicated_worker_never_joins_itself (loggingSetup { dispatchMode := .dedicated } 0)
    (.of_restrict (System.reachable_of_run (Option.some_get closerReleasesLastRun_isSome).symm))⟩

end Join

end Booster.Common
