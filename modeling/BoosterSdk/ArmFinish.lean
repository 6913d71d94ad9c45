/-
This file proves the properties of the arm commands that matter to the robot.

Every published command is well formed and every planned joint stays on the segment
from where it was reported when `Finish` planned it to its target. Whether a `Finish`
that returns true has brought the joints there depends on when its clock was last
read: the loop ends by the clock alone.
-/

import BoosterSdk.ArmMotion
import Mathlib.Algebra.Order.Ring.Rat

namespace Booster.Robot.B1.ArmController

open Interleaving TimedSegment

section Finish

variable {K : Type} [Field K] [LinearOrder K]

/-! ### Well formed commands -/

/-- The entry of a joint on its way to a target. -/
structure OnSegment (startQ : K) (action : PendingAction K) (elapsed : K) (motor : MotorCmd K) :
    Prop where
  between : motor.q ∈ Set.uIcc startQ action.targetRad
  arrived : action.durationSeconds ≤ elapsed → motor.q = action.targetRad
  gains : motor.kp = 60 ∧ motor.kd = 3

/-- A published command, against the calls and the messages so far and the positions from which
the joints started. -/
structure WellFormed (history : History K) (tasks : PlannedTasks K) (start : Int → K)
    (publication : Publication K) : Prop where
  count : publication.command.motorCmd.length = kLowLevelJointCount
  fields : ∀ motor ∈ publication.command.motorCmd,
    motor.mode = 0x0A ∧ motor.dq = 0 ∧ motor.tau = 0 ∧ motor.weight = 0
  planned : ∀ joint, tasks.lookup joint =
    (queued history.calls joint).map (PendingAction.taskFrom (start joint))
  moving : ∀ joint action, queued history.calls joint = some action →
    Admissible joint action ∧ ∃ motor, publication.command.motorCmd[joint.toNat]? = some motor ∧
      OnSegment (start joint) action publication.elapsed motor
  holding : ∀ joint : Nat, queued history.calls joint = none → kArmJointStart ≤ joint →
    joint ≤ kArmJointEnd → ∃ motor, publication.command.motorCmd[joint]? = some motor ∧
      motor.q = lastReported (history.reports.take publication.reportsSeen) joint ∧
      motor.kp = 60 ∧ motor.kd = 3
  free : ∀ joint : Nat, joint < kArmJointStart ∨ kArmJointEnd < joint →
    joint < kLowLevelJointCount → ∃ motor, publication.command.motorCmd[joint]? = some motor ∧
      motor.q = 0 ∧ motor.kp = 0 ∧ motor.kd = 0

theorem plannedCmd_getElem? (tasks : PlannedTasks K) (reports : List (LowState K)) (elapsed : K)
    {joint : Nat} (low : joint < kLowLevelJointCount) :
    (plannedCmd tasks reports elapsed).motorCmd[joint]? =
      some (plannedMotor tasks (lastReported reports) elapsed joint) := by
  unfold plannedCmd
  rw [List.getElem?_map, List.getElem?_range low]
  rfl

theorem plannedMotor_of_task {tasks : PlannedTasks K} {joint : Nat} {task : PlannedTask K}
    (planned : tasks.lookup (joint : Int) = some task) (position : Nat → K) (elapsed : K) :
    plannedMotor tasks position elapsed joint = movingMotor task elapsed := by
  unfold plannedMotor
  rw [planned]

theorem plannedMotor_of_none {tasks : PlannedTasks K} {joint : Nat}
    (unplanned : tasks.lookup (joint : Int) = none) (position : Nat → K) (elapsed : K) :
    plannedMotor tasks position elapsed joint =
      if kArmJointStart.toNat ≤ joint ∧ joint ≤ kArmJointEnd.toNat then
        drivenMotor (position joint)
      else freeMotor := by
  unfold plannedMotor
  rw [unplanned]

theorem plannedMotor_fields (tasks : PlannedTasks K) (position : Nat → K) (elapsed : K)
    (joint : Nat) :
    (plannedMotor tasks position elapsed joint).mode = 0x0A ∧
      (plannedMotor tasks position elapsed joint).dq = 0 ∧
      (plannedMotor tasks position elapsed joint).tau = 0 ∧
      (plannedMotor tasks position elapsed joint).weight = 0 := by
  unfold plannedMotor
  cases tasks.lookup (joint : Int) with
  | some task => exact ⟨rfl, rfl, rfl, rfl⟩
  | none =>
    dsimp only
    split <;> exact ⟨rfl, rfl, rfl, rfl⟩

/-- An arm joint has an entry in every command. -/
theorem Admissible.index {joint : Int} {action : PendingAction K}
    (admissible : Admissible joint action) :
    (joint.toNat : Int) = joint ∧ joint.toNat < kLowLevelJointCount := by
  have start : kArmJointStart = 2 := rfl
  have stop : kArmJointEnd = 9 := rfl
  have count : kLowLevelJointCount = 23 := rfl
  have first := admissible.1
  have last := admissible.2.1
  omega

/-- The entry of a planned joint. -/
theorem motor_of_task {tasks : PlannedTasks K} {joint : Int} {action : PendingAction K}
    (admissible : Admissible joint action) {task : PlannedTask K}
    (planned : tasks.lookup joint = some task) (reports : List (LowState K)) (elapsed : K) :
    (plannedCmd tasks reports elapsed).motorCmd[joint.toNat]? =
      some (movingMotor task elapsed) := by
  rw [plannedCmd_getElem? tasks reports elapsed admissible.index.2]
  rw [← admissible.index.1] at planned
  rw [plannedMotor_of_task planned]

variable [IsStrictOrderedRing K]

/-- A planned command is well formed. -/
theorem wellFormed_of_planned {execution : Execution K} {startTime : K} {tasks : PlannedTasks K}
    {publication : Publication K} (published : Planned execution startTime tasks publication)
    {start : Int → K}
    (planned : ∀ joint, tasks.lookup joint =
      (queued execution.history.calls joint).map (PendingAction.taskFrom (start joint)))
    (admissible : ∀ joint action, queued execution.history.calls joint = some action →
      Admissible joint action) :
    WellFormed execution.history tasks start publication := by
  have first : kArmJointStart = 2 := rfl
  have last : kArmJointEnd = 9 := rfl
  have low : kLowLevelJointCount = 23 := rfl
  have command := published.command
  refine ⟨?_, fun motor member => ?_, planned, fun joint action asked => ?_,
    fun joint unasked startsBelow stop => ?_, fun joint outside below => ?_⟩
  · rw [command]
    unfold plannedCmd
    rw [List.length_map, List.length_range]
  · rw [command] at member
    obtain ⟨joint, _, rfl⟩ := List.mem_map.mp member
    exact plannedMotor_fields tasks _ _ joint
  · have allowed := admissible joint action asked
    have task := planned joint
    rw [asked] at task
    refine ⟨allowed, movingMotor (action.taskFrom (start joint)) publication.elapsed, ?_, ?_,
      fun late => ?_, rfl, rfl⟩
    · rw [command]
      exact motor_of_task allowed task _ _
    · exact along_mem_uIcc _ _ published.started allowed.positive
    · exact (along_progress_eq_target_iff allowed.positive).mpr (.inr late)
  · have unplanned := planned joint
    rw [unasked] at unplanned
    refine ⟨drivenMotor
      (lastReported (execution.history.reports.take publication.reportsSeen) joint), ?_, rfl, rfl,
      rfl⟩
    rw [command, plannedCmd_getElem? _ _ _ (by omega), plannedMotor_of_none unplanned,
      if_pos (by omega)]
  · have unplanned := planned joint
    cases asked : queued execution.history.calls joint with
    | some action =>
      have allowed := admissible joint action asked
      have within := allowed.1
      have bound := allowed.2.1
      omega
    | none =>
      rw [asked] at unplanned
      refine ⟨freeMotor, ?_, rfl, rfl, rfl⟩
      rw [command, plannedCmd_getElem? _ _ _ below, plannedMotor_of_none unplanned,
        if_neg (by omega)]

/-- A later command moves every planned joint toward its target. -/
theorem moves_toward {execution : Execution K} {startTime : K} {tasks : PlannedTasks K}
    {earlier later : Publication K} (first : Planned execution startTime tasks earlier)
    (second : Planned execution startTime tasks later) (passed : earlier.elapsed ≤ later.elapsed)
    {joint : Int} {action : PendingAction K} (admissible : Admissible joint action) {startQ : K}
    (planned : tasks.lookup joint = some (action.taskFrom startQ)) :
    ∃ before after, earlier.command.motorCmd[joint.toNat]? = some before ∧
      later.command.motorCmd[joint.toNat]? = some after ∧
      after.q ∈ Set.uIcc before.q action.targetRad := by
  refine ⟨movingMotor (action.taskFrom startQ) earlier.elapsed,
    movingMotor (action.taskFrom startQ) later.elapsed, ?_, ?_, ?_⟩
  · rw [first.command]
    exact motor_of_task admissible planned _ _
  · rw [second.command]
    exact motor_of_task admissible planned _ _
  · exact along_mem_uIcc_of_le _ _ (progress_mono admissible.positive passed)
      (progress_le_one _ _)

/-- Every published command is well formed and stays on its segments. Whatever is queued, whatever
messages are handled and however the clock goes on, no access is out of range and no divisor is
zero. While `Finish` is in its loop, each joint has a start position, the one last reported at some
moment between the entry of `Finish` and its start time; a command has been published at every
reading of the clock, or none where there is no channel; on a controller that has not been closed
the planned joints are those queued since the last return of `Finish` or `Close`, with their last
target and duration; every command published so far is well formed with respect to these; and from
one command to a later one every planned joint moves toward its target. -/
theorem published_on_segment {publisherOpen : Bool} {clock : K} {execution : Execution K}
    (reachable : (system publisherOpen clock).Reachable execution) :
    (∀ fault, execution.phase ≠ .faulted fault) ∧
    ∀ startTime maxDuration tasks success,
      execution.phase = .looping startTime maxDuration tasks success →
      ∃ start : Int → K,
        (∀ joint, ReportedBetween execution.history.reports execution.history.reportsAtEntry
          execution.history.reportsAtStart joint (start joint)) ∧
        execution.history.published.map Publication.elapsed =
          (if execution.arm.publisherOpen then execution.history.readings else []) ∧
        (execution.arm.isClosed = false → ∀ joint, tasks.lookup joint =
          (queued execution.history.calls joint).map (PendingAction.taskFrom (start joint))) ∧
        (∀ publication ∈ execution.history.published, 0 ≤ publication.elapsed ∧
          WellFormed execution.history tasks start publication) ∧
        execution.history.published.Pairwise fun earlier later =>
          earlier.elapsed ≤ later.elapsed ∧
          ∀ joint action, queued execution.history.calls joint = some action →
            ∃ before after, earlier.command.motorCmd[joint.toNat]? = some before ∧
              later.command.motorCmd[joint.toNat]? = some after ∧
              after.q ∈ Set.uIcc before.q action.targetRad := by
  have consistent := consistent_reachable reachable
  have phase := consistent.phase
  unfold PhaseConsistent at phase
  refine ⟨fun fault failed => ?_, fun startTime maxDuration tasks success loops => ?_⟩
  · rw [failed] at phase
    exact phase
  · rw [loops] at phase
    choose start reported planned using phase.planned
    have assigned (unclosed : execution.arm.isClosed = false) (joint : Int) :
        tasks.lookup joint =
          (queued execution.history.calls joint).map (PendingAction.taskFrom (start joint)) := by
      rw [planned joint, consistent.pending unclosed joint]
    refine ⟨start, reported, phase.published_elapsed, assigned, ?_⟩
    cases published : execution.history.published with
    | nil => exact ⟨fun publication member => absurd member List.not_mem_nil, List.Pairwise.nil⟩
    | cons head rest =>
      have nonempty : execution.history.published ≠ [] := by
        rw [published]
        exact List.cons_ne_nil head rest
      -- a closed controller has no channel, so what was published tells that it is not closed
      have unclosed : execution.arm.isClosed = false := by
        cases closed : execution.arm.isClosed with
        | false => rfl
        | true => exact absurd (phase.opened nonempty) (by rw [consistent.closed closed]; decide)
      have admissible : ∀ joint action, queued execution.history.calls joint = some action →
          Admissible joint action := fun joint action queued =>
        consistent.admissible joint action ((consistent.pending unclosed joint).trans queued)
      rw [← published]
      refine ⟨fun publication member => ?_, ?_⟩
      · have kept := phase.published publication member
        exact ⟨kept.started, wellFormed_of_planned kept (assigned unclosed) admissible⟩
      · refine List.Pairwise.imp_of_mem ?_ (List.pairwise_map.mp phase.ordered)
        intro earlier later earlierMember laterMember passed
        refine ⟨passed, fun joint action queued => ?_⟩
        have task := assigned unclosed joint
        rw [queued] at task
        exact moves_toward (phase.published earlier earlierMember)
          (phase.published later laterMember) passed (admissible joint action queued) task

/-! ### When Finish completes -/

/-- The last command published has every queued joint at its target. -/
def Completed (pendingActions : PendingActions K) (published : List (Publication K)) : Prop :=
  ∃ publication, published.getLast? = some publication ∧
    ∀ joint action, pendingActions.lookup joint = some action →
      ∃ motor, publication.command.motorCmd[joint.toNat]? = some motor ∧
        motor.q = action.targetRad

/-- The clock was read at least once while the loop went on, and at the last such reading every
joint had spent its duration or had started at its target. -/
def ReadLate (tasks : PlannedTasks K) (readings : List K) : Prop :=
  ∃ elapsed, readings.getLast? = some elapsed ∧
    ∀ joint task, tasks.lookup joint = some task →
      task.startQ = task.endQ ∨ task.durationSeconds ≤ elapsed

theorem completed_iff_readLate {execution : Execution K} (consistent : Consistent execution)
    {startTime : K} {tasks : PlannedTasks K}
    (looping : Looping execution startTime tasks true) :
    Completed execution.arm.pendingActions execution.history.published ↔
      ReadLate tasks execution.history.readings := by
  unfold Completed ReadLate
  rw [← looping.readings (.inl rfl), List.getLast?_map]
  cases last : execution.history.published.getLast? with
  | none => simp
  | some publication =>
    have command := (looping.published publication (List.mem_of_getLast? last)).command
    simp only [Option.some.injEq, exists_eq_left', Option.map_some]
    constructor
    · intro completed joint task planned
      obtain ⟨startQ, _, same⟩ := looping.planned joint
      rw [planned] at same
      obtain ⟨action, queued, rfl⟩ := Option.map_eq_some_iff.mp same.symm
      have admissible := consistent.admissible joint action queued
      obtain ⟨motor, found, target⟩ := completed joint action queued
      rw [command, motor_of_task admissible planned] at found
      cases found
      exact (along_progress_eq_target_iff admissible.positive).mp target
    · intro late joint action queued
      obtain ⟨startQ, _, planned⟩ := looping.planned joint
      rw [queued] at planned
      have admissible := consistent.admissible joint action queued
      refine ⟨movingMotor (action.taskFrom startQ) publication.elapsed, ?_, ?_⟩
      · rw [command]
        exact motor_of_task admissible planned _ _
      · exact (along_progress_eq_target_iff admissible.positive).mpr
          (late joint (action.taskFrom startQ) planned)

/-- When a `Finish` whose loop has run returns true, the last command it published has every queued
joint at its target exactly when the clock was read late enough: the loop went on at some reading,
and at the last one at which it did every joint had spent its own duration or had started at its
target. -/
theorem finish_completes_iff {publisherOpen : Bool} {clock : K} {execution next : Execution K}
    (reachable : (system publisherOpen clock).Reachable execution) {startTime maxDuration : K}
    {tasks : PlannedTasks K} {success : Bool}
    (loops : execution.phase = .looping startTime maxDuration tasks success) {now : K}
    {written : Bool} (stepped : execution.step (.iterate now written) = some next)
    (returns : next.phase = .idle) (succeeds : next.history.finishReturned = some true) :
    Completed execution.arm.pendingActions next.history.published ↔
      ReadLate tasks execution.history.readings := by
  have consistent := consistent_reachable reachable
  have looping := consistent.phase
  unfold PhaseConsistent at looping
  rw [loops] at looping
  cases steps_of_step stepped with
  | iterate _ _ again forward =>
    rw [loops] at again
    cases again
    by_cases timedOut : maxDuration + 1 / 50 < now - startTime
    · unfold Execution.iterate at succeeds ⊢
      simp only [if_pos timedOut] at succeeds ⊢
      cases succeeds
      exact completed_iff_readLate consistent looping
    · rw [iterate_eq consistent looping written timedOut] at returns
      cases returns

end Finish

/-! ### Runs -/

/-- The left shoulder pitch is queued for a motion of 50 ms, a joint that is not of an arm is asked
for in vain, and `Finish` begins its loop. -/
def shoulderMotion : List (Action ℚ) :=
  [.handleMessage ⟨[⟨5⟩, ⟨5⟩, ⟨1 / 2⟩]⟩, .controlArm 2 1 20, .controlArm 30 1 100, .finish,
    .planTask, .startLoop 0]

/-- The clock is read before the duration is over. -/
def halfwayRun : List (Action ℚ) := shoulderMotion ++ [.iterate (1 / 40) true]

theorem halfwayRun_isSome : ((system true (0 : ℚ)).run halfwayRun).isSome = true := by
  decide +kernel

/-- The state `halfwayRun` ends in. -/
def halfway : Execution ℚ := ((system true 0).run halfwayRun).get halfwayRun_isSome

theorem halfway_reachable : (system true (0 : ℚ)).Reachable halfway :=
  System.reachable_of_run (Option.some_get halfwayRun_isSome).symm

/-- What `Finish` plans for the shoulder. -/
def shoulderTasks : PlannedTasks ℚ := AList.insert 2 ⟨1 / 2, 1, 50 / 1000⟩ ∅

/-- The clock is read when the duration is over. -/
def onTimeRun : List (Action ℚ) := halfwayRun ++ [.iterate (1 / 20) true]

theorem onTimeRun_isSome : ((system true (0 : ℚ)).run onTimeRun).isSome = true := by
  decide +kernel

/-- The state `onTimeRun` ends in. -/
def onTime : Execution ℚ := ((system true 0).run onTimeRun).get onTimeRun_isSome

theorem onTime_reachable : (system true (0 : ℚ)).Reachable onTime :=
  System.reachable_of_run (Option.some_get onTimeRun_isSome).symm

theorem onTime_phase : onTime.phase = .looping 0 (50 / 1000) shoulderTasks true := by
  with_unfolding_all rfl

theorem published_on_segment_onTime :
    onTime.history.published.length = 2 ∧
    (∀ fault, onTime.phase ≠ .faulted fault) ∧
    ∃ start : Int → ℚ,
      (∀ joint, ReportedBetween onTime.history.reports onTime.history.reportsAtEntry
        onTime.history.reportsAtStart joint (start joint)) ∧
      onTime.history.published.map Publication.elapsed = [1 / 40, 1 / 20] ∧
      (∀ joint, shoulderTasks.lookup joint =
        (queued onTime.history.calls joint).map (PendingAction.taskFrom (start joint))) ∧
      (∀ publication ∈ onTime.history.published, 0 ≤ publication.elapsed ∧
        WellFormed onTime.history shoulderTasks start publication) ∧
      onTime.history.published.Pairwise fun earlier later =>
        earlier.elapsed ≤ later.elapsed ∧
        ∀ joint action, queued onTime.history.calls joint = some action →
          ∃ before after, earlier.command.motorCmd[joint.toNat]? = some before ∧
            later.command.motorCmd[joint.toNat]? = some after ∧
            after.q ∈ Set.uIcc before.q action.targetRad := by
  obtain ⟨running, looping⟩ := published_on_segment onTime_reachable
  obtain ⟨start, reported, times, planned, published⟩ := looping _ _ _ _ onTime_phase
  have readings : onTime.history.readings = [1 / 40, 1 / 20] := by decide +kernel
  refine ⟨by decide +kernel, running, start, reported, ?_, planned (by decide +kernel), published⟩
  rw [times, readings]
  exact if_pos (by decide +kernel)

theorem onTimeReturn_isSome : (onTime.step (.iterate (2 / 25) true)).isSome = true := by
  decide +kernel

/-- `Finish` returns after `onTime`. -/
def onTimeReturn : Execution ℚ := (onTime.step (.iterate (2 / 25) true)).get onTimeReturn_isSome

theorem finish_completes_iff_onTime :
    Completed onTime.arm.pendingActions onTimeReturn.history.published := by
  refine (finish_completes_iff onTime_reachable onTime_phase
    (Option.some_get onTimeReturn_isSome).symm (by decide +kernel) (by decide +kernel)).mpr
    ⟨1 / 20, by decide +kernel, ?_⟩
  intro joint task planned
  by_cases shoulder : joint = 2
  · rw [shoulder, shoulderTasks, AList.lookup_insert] at planned
    cases planned
    exact .inr (by norm_num)
  · rw [shoulderTasks, AList.lookup_insert_ne shoulder, AList.lookup_empty] at planned
    cases planned

theorem lateReturn_isSome : (halfway.step (.iterate (2 / 25) true)).isSome = true := by
  decide +kernel

/-- The clock is read next when the loop has to end, and `Finish` returns. -/
def lateReturn : Execution ℚ := (halfway.step (.iterate (2 / 25) true)).get lateReturn_isSome

/-- `Finish` returns true and the only command it published has the joint halfway. -/
theorem finish_misses_target :
    (system true (0 : ℚ)).Reachable halfway ∧
    halfway.step (.iterate (2 / 25) true) = some lateReturn ∧
    lateReturn.phase = .idle ∧ lateReturn.history.finishReturned = some true ∧
    ¬ Completed halfway.arm.pendingActions lateReturn.history.published := by
  refine ⟨halfway_reachable, (Option.some_get lateReturn_isSome).symm, by decide +kernel,
    by decide +kernel, ?_⟩
  rintro ⟨publication, last, completed⟩
  obtain ⟨motor, found, target⟩ := completed 2 ⟨1, 50 / 1000⟩ (by decide +kernel)
  have shown : (lateReturn.history.published.getLast?.bind fun publication =>
      publication.command.motorCmd[2]?).map MotorCmd.q = some (3 / 4) := by
    decide +kernel
  have entry : publication.command.motorCmd[2]? = some motor := found
  rw [last, Option.bind_some, entry, Option.map_some, target] at shown
  revert shown
  decide +kernel

end Booster.Robot.B1.ArmController
