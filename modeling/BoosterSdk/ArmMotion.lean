/-
This file proves what `ArmController` publishes and when `Finish` completes.

The calls and the messages so far say which joints are queued and where each joint
was last reported. Between its entry and its return `Finish` keeps to a plan made from
these: every command it gives to the writer is the one its plan asks for at the time
the iteration read.
-/

import BoosterSdk.ArmController

namespace Booster.Robot.B1.ArmController

open CheckedVector Interleaving TimedSegment

section Motion

variable {K : Type} [Field K]

/-! ### Reported positions -/

/-- The position last reported for a joint, zero when none was. -/
def lastReported (reports : List (LowState K)) (joint : Nat) : K :=
  (reports.filterMap fun report => report.motorStateParallel[joint]?).getLast?.elim 0 MotorState.q

/-- The positions last reported for all joints. -/
def positionsAfter (reports : List (LowState K)) : List K :=
  (List.range kLowLevelJointCount).map (lastReported reports)

theorem lastReported_concat (reports : List (LowState K)) (report : LowState K) (joint : Nat) :
    lastReported (reports ++ [report]) joint =
      (report.motorStateParallel[joint]?).elim (lastReported reports joint) MotorState.q := by
  unfold lastReported
  rw [List.filterMap_append, List.filterMap_cons]
  cases report.motorStateParallel[joint]? with
  | none =>
    rw [List.filterMap_nil, List.append_nil]
    rfl
  | some state =>
    rw [List.filterMap_nil, List.getLast?_concat]
    rfl

theorem positionsAfter_getElem? (reports : List (LowState K)) {joint : Nat}
    (low : joint < kLowLevelJointCount) :
    (positionsAfter reports)[joint]? = some (lastReported reports joint) := by
  unfold positionsAfter
  rw [List.getElem?_map, List.getElem?_range low]
  rfl

theorem length_positionsAfter (reports : List (LowState K)) :
    (positionsAfter reports).length = kLowLevelJointCount := by
  unfold positionsAfter
  rw [List.length_map, List.length_range]

/-- A message of any length is handled without a fault, and the tracker then shows the positions
last reported. -/
theorem handleMessage_eq {reports : List (LowState K)} {tracker : LowStateTracker K}
    (tracked : tracker.jointPositions = positionsAfter reports) (lowState : LowState K) :
    tracker.handleMessage lowState = .ok ⟨true, positionsAfter (reports ++ [lowState])⟩ := by
  have filled : fill (min lowState.motorStateParallel.length kLowLevelJointCount)
      (fun i => do
        let motorState ← entry lowState.motorStateParallel i
        return motorState.q)
      (positionsAfter reports) = .ok (positionsAfter (reports ++ [lowState])) := by
    refine fill_map_range (Nat.min_le_right _ _) (fun index below => ?_) fun index beyond low => ?_
    · have reported := List.getElem?_eq_getElem (lt_of_lt_of_le below (Nat.min_le_left _ _))
      rw [entry_of_getElem? reported, lastReported_concat, reported]
      rfl
    · rw [lastReported_concat, List.getElem?_eq_none (by omega)]
      rfl
  unfold LowStateTracker.handleMessage
  simp only [tracked, length_positionsAfter, filled]
  rfl

theorem Execution.handleMessage_eq {execution : Execution K}
    (tracked : execution.arm.tracker.jointPositions = positionsAfter execution.history.reports)
    (lowState : LowState K) :
    execution.handleMessage lowState =
      { execution with
        arm :=
          { execution.arm with
            tracker := ⟨true, positionsAfter (execution.history.reports ++ [lowState])⟩ }
        history :=
          { execution.history with reports := execution.history.reports ++ [lowState] } } := by
  unfold Execution.handleMessage
  rw [ArmController.handleMessage_eq tracked lowState]

/-- Initially every position is shown as last reported. -/
theorem initial_tracked :
    (LowStateTracker.initial : LowStateTracker K).jointPositions = positionsAfter [] := rfl

/-- The position of an arm joint is read without a fault. -/
theorem getJointQ_eq {reports : List (LowState K)} {tracker : LowStateTracker K}
    (tracked : tracker.jointPositions = positionsAfter reports) {joint : Int}
    (first : kArmJointStart ≤ joint) (last : joint ≤ kArmJointEnd) :
    tracker.getJointQ joint = .ok (lastReported reports joint.toNat) := by
  have start : kArmJointStart = 2 := rfl
  have stop : kArmJointEnd = 9 := rfl
  have count : kLowLevelJointCount = 23 := rfl
  unfold LowStateTracker.getJointQ
  rw [tracked, length_positionsAfter, if_neg (by omega),
    entry_of_getElem? (positionsAfter_getElem? reports (by omega))]

/-- A position reported for a joint at some moment between two counts of messages. -/
def ReportedBetween (reports : List (LowState K)) (first last : Nat) (joint : Int) (q : K) : Prop :=
  ∃ count, first ≤ count ∧ count ≤ last ∧ q = lastReported (reports.take count) joint.toNat

theorem ReportedBetween.later {reports : List (LowState K)} {first last : Nat} {joint : Int} {q : K}
    (reported : ReportedBetween reports first last joint q) (within : last ≤ reports.length)
    (report : LowState K) {later : Nat} (grown : last ≤ later) :
    ReportedBetween (reports ++ [report]) first later joint q := by
  obtain ⟨count, after, before, same⟩ := reported
  refine ⟨count, after, before.trans grown, ?_⟩
  rw [List.take_append_of_le_length (before.trans within), same]

/-! ### Queued joints -/

variable [LinearOrder K]

/-- The calls since the last return of `Finish` or `Close`. -/
def sinceReturn (calls : List (Call K)) : List (Call K) := calls.rtakeWhile Call.isControlArm

/-- The last action asked of a joint since the last return of `Finish` or `Close`. -/
def queued (calls : List (Call K)) (joint : Int) : Option (PendingAction K) :=
  ((sinceReturn calls).filterMap (Call.actionFor joint)).getLast?

theorem queued_returned (calls : List (Call K)) (joint : Int) :
    queued (calls ++ [.returned]) joint = none := by
  unfold queued sinceReturn
  rw [List.rtakeWhile_concat_neg _ _ _ Bool.false_ne_true]
  rfl

theorem queued_controlArm (calls : List (Call K)) (jointIdx : Int) (targetRad durationMs : K)
    (joint : Int) :
    queued (calls ++ [.controlArm jointIdx targetRad durationMs]) joint =
      (Call.actionFor joint (.controlArm jointIdx targetRad durationMs)).or
        (queued calls joint) := by
  unfold queued sinceReturn
  rw [List.rtakeWhile_concat_pos _ _ _ rfl, List.filterMap_append, List.filterMap_cons]
  cases Call.actionFor joint (.controlArm jointIdx targetRad durationMs) with
  | none =>
    rw [List.filterMap_nil, List.append_nil]
    rfl
  | some action =>
    rw [List.filterMap_nil, List.getLast?_concat]
    rfl

/-- `ControlArm` queues what the call asks of each joint. -/
theorem controlArm_lookup (arm : ArmController K) (jointIdx : Int) (targetRad durationMs : K)
    (joint : Int) :
    (arm.controlArm jointIdx targetRad durationMs).pendingActions.lookup joint =
      (Call.actionFor joint (.controlArm jointIdx targetRad durationMs)).or
        (arm.pendingActions.lookup joint) := by
  unfold controlArm
  by_cases outside : jointIdx < kArmJointStart ∨ kArmJointEnd < jointIdx
  · have ignored : Call.actionFor joint (.controlArm jointIdx targetRad durationMs) = none :=
      if_neg (by omega)
    rw [if_pos outside, ignored]
    rfl
  · rw [if_neg outside]
    by_cases same : jointIdx = joint
    · subst same
      have asked : Call.actionFor jointIdx (.controlArm jointIdx targetRad durationMs) =
          some ⟨targetRad, max 50 durationMs / 1000⟩ := if_pos (by omega)
      rw [asked]
      exact AList.lookup_insert arm.pendingActions
    · have ignored : Call.actionFor joint (.controlArm jointIdx targetRad durationMs) = none :=
        if_neg fun asked => same asked.1
      rw [ignored]
      exact AList.lookup_insert_ne (Ne.symm same)

theorem controlArm_frame (arm : ArmController K) (jointIdx : Int) (targetRad durationMs : K) :
    (arm.controlArm jointIdx targetRad durationMs).tracker = arm.tracker ∧
      (arm.controlArm jointIdx targetRad durationMs).isClosed = arm.isClosed ∧
      (arm.controlArm jointIdx targetRad durationMs).publisherOpen = arm.publisherOpen := by
  unfold controlArm
  split <;> exact ⟨rfl, rfl, rfl⟩

/-- The task of an action for a joint that starts at a position. -/
def PendingAction.taskFrom (startQ : K) (action : PendingAction K) : PlannedTask K where
  startQ := startQ
  endQ := action.targetRad
  durationSeconds := action.durationSeconds

/-! ### The command of an iteration -/

/-- The entry of a joint with a task. -/
def movingMotor (task : PlannedTask K) (elapsed : K) : MotorCmd K :=
  drivenMotor (along task.startQ task.endQ (progress elapsed task.durationSeconds))

/-- What an iteration commands a joint. -/
def plannedMotor (tasks : PlannedTasks K) (position : Nat → K) (elapsed : K) (joint : Nat) :
    MotorCmd K :=
  match tasks.lookup (joint : Int) with
  | some task => movingMotor task elapsed
  | none =>
    if kArmJointStart.toNat ≤ joint ∧ joint ≤ kArmJointEnd.toNat then drivenMotor (position joint)
    else freeMotor

/-- What an iteration publishes. -/
def plannedCmd (tasks : PlannedTasks K) (reports : List (LowState K)) (elapsed : K) : LowCmd K :=
  ⟨.parallel,
    (List.range kLowLevelJointCount).map (plannedMotor tasks (lastReported reports) elapsed)⟩

/-- With positive durations the command is built without a fault. -/
theorem lowCmdOf_eq {tasks : PlannedTasks K}
    (positive : ∀ joint task, tasks.lookup joint = some task → 0 < task.durationSeconds)
    (reports : List (LowState K)) (elapsed : K) :
    lowCmdOf tasks (positionsAfter reports) elapsed = .ok (plannedCmd tasks reports elapsed) := by
  have motors : ∀ joint, joint < kLowLevelJointCount →
      motorOf tasks (positionsAfter reports) elapsed joint =
        .ok (plannedMotor tasks (lastReported reports) elapsed joint) := by
    intro joint low
    unfold motorOf plannedMotor
    cases planned : tasks.lookup (joint : Int) with
    | some task =>
      simp only [quotient_of_ne elapsed (positive joint task planned).ne']
      rfl
    | none =>
      simp only
      split
      · rw [entry_of_getElem? (positionsAfter_getElem? reports low)]
        rfl
      · rfl
  have enough : kLowLevelJointCount ≤
      (List.replicate kLowLevelJointCount (blankMotor : MotorCmd K)).length := by
    rw [List.length_replicate]
  have filled := fill_eq enough motors
  unfold lowCmdOf
  rw [filled, List.drop_replicate, Nat.sub_self, List.replicate_zero, List.append_nil]
  rfl

/-! ### Steps -/

/-- What a step can do. -/
inductive Steps (execution : Execution K) : Action K → Execution K → Prop
  | handleMessage (lowState : LowState K)
      (running : ∀ fault, execution.phase ≠ .faulted fault) :
      Steps execution (.handleMessage lowState) (execution.handleMessage lowState)
  | controlArm (jointIdx : Int) (targetRad durationMs : K) (idle : execution.phase = .idle) :
      Steps execution (.controlArm jointIdx targetRad durationMs)
        (execution.controlArm jointIdx targetRad durationMs)
  | finish (idle : execution.phase = .idle) : Steps execution .finish execution.finish
  | planTask {action : PendingEntry K} {rest : List (PendingEntry K)} {tasks : PlannedTasks K}
      {maxDuration : K}
      (planning : execution.phase = .planning (action :: rest) tasks maxDuration) :
      Steps execution .planTask (execution.planTask action rest tasks maxDuration)
  | startLoop {tasks : PlannedTasks K} {maxDuration : K} (now : K)
      (planned : execution.phase = .planning [] tasks maxDuration)
      (forward : execution.clock ≤ now) :
      Steps execution (.startLoop now) (execution.startLoop now tasks maxDuration)
  | iterate {startTime maxDuration : K} {tasks : PlannedTasks K} {success : Bool} (now : K)
      (written : Bool) (looping : execution.phase = .looping startTime maxDuration tasks success)
      (forward : execution.clock ≤ now) :
      Steps execution (.iterate now written)
        (execution.iterate now written startTime maxDuration tasks success)
  | close (idle : execution.phase = .idle) : Steps execution .close execution.close
  | closeChannels (closing : execution.phase = .closing) :
      Steps execution .closeChannels execution.closeChannels
  | throwOut : Steps execution .throwOut { execution with phase := .idle }

theorem steps_of_step {execution next : Execution K} {action : Action K}
    (stepped : execution.step action = some next) : Steps execution action next := by
  unfold Execution.step at stepped
  split at stepped
  · cases stepped
  · cases stepped
    rename_i running
    exact .handleMessage _ running
  · cases stepped
    exact .controlArm _ _ _ ‹_›
  · cases stepped
    exact .finish ‹_›
  · cases stepped
    exact .planTask ‹_›
  · obtain ⟨forward, same⟩ := Option.ite_none_right_eq_some.mp stepped
    cases same
    exact .startLoop _ ‹_› forward
  · obtain ⟨forward, same⟩ := Option.ite_none_right_eq_some.mp stepped
    cases same
    exact .iterate _ _ ‹_› forward
  · cases stepped
    exact .close ‹_›
  · cases stepped
    exact .closeChannels ‹_›
  · cases stepped
    exact .throwOut
  · cases stepped
    exact .throwOut
  · cases stepped

/-! ### The plan of Finish -/

/-- A Finish that is planning: each queued joint remains to be planned or has its task. -/
structure Planning (execution : Execution K) (remaining : List (PendingEntry K))
    (tasks : PlannedTasks K) : Prop where
  entered : execution.history.reportsAtEntry ≤ execution.history.reports.length
  waiting : ∀ action ∈ remaining,
    execution.arm.pendingActions.lookup action.1 = some action.2
  planned : ∀ joint action, execution.arm.pendingActions.lookup joint = some action →
    (⟨joint, action⟩ : PendingEntry K) ∈ remaining ∨
      ∃ startQ, ReportedBetween execution.history.reports execution.history.reportsAtEntry
          execution.history.reports.length joint startQ ∧
        tasks.lookup joint = some (action.taskFrom startQ)
  only : ∀ joint, execution.arm.pendingActions.lookup joint = none → tasks.lookup joint = none
  unpublished : execution.history.published = [] ∧ execution.history.readings = []

/-- What is published by a Finish that keeps to its tasks. -/
structure Planned (execution : Execution K) (startTime : K) (tasks : PlannedTasks K)
    (publication : Publication K) : Prop where
  started : 0 ≤ publication.elapsed
  elapsed : publication.elapsed ≤ execution.clock - startTime
  reports : publication.reportsSeen ≤ execution.history.reports.length
  command : publication.command =
    plannedCmd tasks (execution.history.reports.take publication.reportsSeen) publication.elapsed

/-- A Finish in its loop. -/
structure Looping (execution : Execution K) (startTime : K) (tasks : PlannedTasks K)
    (success : Bool) : Prop where
  forward : startTime ≤ execution.clock
  entered : execution.history.reportsAtStart ≤ execution.history.reports.length
  planned : ∀ joint, ∃ startQ,
    ReportedBetween execution.history.reports execution.history.reportsAtEntry
      execution.history.reportsAtStart joint startQ ∧
    tasks.lookup joint =
      (execution.arm.pendingActions.lookup joint).map (PendingAction.taskFrom startQ)
  published : ∀ publication ∈ execution.history.published,
    Planned execution startTime tasks publication
  ordered : (execution.history.published.map Publication.elapsed).Pairwise (· ≤ ·)
  opened : execution.history.published ≠ [] → execution.arm.publisherOpen = true
  readings : success = true ∨ execution.arm.publisherOpen = true →
    execution.history.published.map Publication.elapsed = execution.history.readings

/-- A command is published at every reading of the clock at which the loop goes on, as long as there
is a channel to publish on. -/
theorem Looping.published_elapsed {execution : Execution K} {startTime : K}
    {tasks : PlannedTasks K} {success : Bool}
    (looping : Looping execution startTime tasks success) :
    execution.history.published.map Publication.elapsed =
      if execution.arm.publisherOpen then execution.history.readings else [] := by
  split
  · exact looping.readings (.inr ‹_›)
  · rename_i closed
    rw [List.map_eq_nil_iff]
    by_contra nonempty
    exact closed (looping.opened nonempty)

/-- What holds while the application thread is in a phase; it is never in a fault. -/
def PhaseConsistent (execution : Execution K) : Prop :=
  match execution.phase with
  | .idle => True
  | .planning remaining tasks _ => Planning execution remaining tasks
  | .looping startTime _ tasks success => Looping execution startTime tasks success
  | .closing => True
  | .faulted _ => False

/-- The invariant of the controller. -/
structure Consistent (execution : Execution K) : Prop where
  tracked : execution.arm.tracker.jointPositions = positionsAfter execution.history.reports
  pending : execution.arm.isClosed = false → ∀ joint,
    execution.arm.pendingActions.lookup joint = queued execution.history.calls joint
  admissible : ∀ joint action, execution.arm.pendingActions.lookup joint = some action →
    Admissible joint action
  closed : execution.arm.isClosed = true → execution.arm.publisherOpen = false
  phase : PhaseConsistent execution

theorem consistent_initial (publisherOpen : Bool) (clock : K) :
    Consistent (system publisherOpen clock).initial where
  tracked := initial_tracked
  pending := fun _ joint => AList.lookup_empty joint
  admissible := fun joint action queued => by
    rw [show (system publisherOpen clock).initial.arm.pendingActions = ∅ from rfl,
      AList.lookup_empty] at queued
    cases queued
  closed := fun closed => absurd closed Bool.false_ne_true
  phase := trivial

/-- An empty queue is what is queued after a return. -/
theorem Consistent.returned {execution next : Execution K} (consistent : Consistent execution)
    (phase : next.phase = .idle) (tracker : next.arm.tracker = execution.arm.tracker)
    (empty : next.arm.pendingActions = ∅)
    (closed : next.arm.isClosed = true → next.arm.publisherOpen = false)
    (reports : next.history.reports = execution.history.reports)
    (calls : next.history.calls = execution.history.calls ++ [.returned]) : Consistent next where
  tracked := by rw [tracker, reports, consistent.tracked]
  pending := fun _ joint => by rw [empty, calls, queued_returned, AList.lookup_empty]
  admissible := fun joint action queued => by
    rw [empty, AList.lookup_empty] at queued
    cases queued
  closed := closed
  phase := by
    unfold PhaseConsistent
    rw [phase]
    trivial

theorem Consistent.finish {execution : Execution K} (consistent : Consistent execution) :
    Consistent execution.finish := by
  unfold Execution.finish
  cases entries : execution.arm.pendingActions.entries with
  | nil =>
    exact consistent.returned rfl rfl (AList.ext entries) consistent.closed rfl rfl
  | cons action rest =>
    refine ⟨consistent.tracked, consistent.pending, consistent.admissible, consistent.closed, ?_⟩
    refine ⟨Nat.le_refl _, fun action member => ?_, fun joint action queued => .inl ?_,
      fun joint _ => AList.lookup_empty joint, rfl, rfl⟩
    · rw [← entries] at member
      exact AList.mem_lookup_iff.mpr member
    · rw [← entries]
      exact AList.mem_lookup_iff.mp queued

theorem Consistent.planTask {execution : Execution K} (consistent : Consistent execution)
    {action : PendingEntry K} {rest : List (PendingEntry K)} {tasks : PlannedTasks K}
    {maxDuration : K} (planning : execution.phase = .planning (action :: rest) tasks maxDuration) :
    Consistent (execution.planTask action rest tasks maxDuration) := by
  have before := consistent.phase
  unfold PhaseConsistent at before
  rw [planning] at before
  have waits := before.waiting action List.mem_cons_self
  have admissible := consistent.admissible action.1 action.2 waits
  unfold Execution.planTask
  rw [getJointQ_eq consistent.tracked admissible.1 admissible.2.1]
  refine ⟨consistent.tracked, consistent.pending, consistent.admissible, consistent.closed, ?_⟩
  refine ⟨before.entered, fun other member => before.waiting other (List.mem_cons_of_mem _ member),
    fun joint asked queued => ?_, fun joint unqueued => ?_, before.unpublished⟩
  · by_cases same : joint = action.1
    · subst same
      rw [waits] at queued
      cases queued
      refine .inr ⟨_, ⟨execution.history.reports.length, before.entered, Nat.le_refl _, ?_⟩,
        AList.lookup_insert tasks⟩
      rw [List.take_length]
    · rcases before.planned joint asked queued with member | ⟨startQ, reported, task⟩
      · rcases List.mem_cons.mp member with first | later
        · exact absurd (congrArg Sigma.fst first) same
        · exact .inl later
      · refine .inr ⟨startQ, reported, ?_⟩
        rw [AList.lookup_insert_ne same, task]
  · have other : joint ≠ action.1 := by
      rintro rfl
      rw [waits] at unqueued
      cases unqueued
    rw [AList.lookup_insert_ne other, before.only joint unqueued]

theorem Consistent.startLoop {execution : Execution K} (consistent : Consistent execution)
    {tasks : PlannedTasks K} {maxDuration : K} (now : K)
    (planned : execution.phase = .planning [] tasks maxDuration) :
    Consistent (execution.startLoop now tasks maxDuration) := by
  have before := consistent.phase
  unfold PhaseConsistent at before
  rw [planned] at before
  obtain ⟨published, readings⟩ := before.unpublished
  refine ⟨consistent.tracked, consistent.pending, consistent.admissible, consistent.closed, ?_⟩
  show Looping ⟨execution.arm, _, now, { execution.history with
    reportsAtStart := execution.history.reports.length }⟩ now tasks true
  refine ⟨le_refl _, Nat.le_refl _, fun joint => ?_, fun publication member => ?_, ?_, ?_, ?_⟩
  all_goals dsimp only
  · cases queued : execution.arm.pendingActions.lookup joint with
    | none =>
      exact ⟨_, ⟨_, Nat.le_refl _, before.entered, rfl⟩, before.only joint queued⟩
    | some action =>
      rcases before.planned joint action queued with member | ⟨startQ, reported, task⟩
      · exact absurd member List.not_mem_nil
      · exact ⟨startQ, reported, task⟩
  · rw [published] at member
    exact absurd member List.not_mem_nil
  · rw [published]
    exact List.Pairwise.nil
  · exact fun nonempty => absurd published nonempty
  · rw [published, readings]
    exact fun _ => rfl

theorem Consistent.close {execution : Execution K} (consistent : Consistent execution) :
    Consistent execution.close := by
  unfold Execution.close
  split
  · rename_i closed
    refine ⟨consistent.tracked, fun unclosed => ?_, consistent.admissible, consistent.closed,
      trivial⟩
    exact absurd (closed.symm.trans unclosed) (by decide)
  · exact ⟨consistent.tracked, consistent.pending, consistent.admissible, consistent.closed,
      trivial⟩

/-! ### Every step keeps the invariant -/

variable [IsStrictOrderedRing K]

theorem admissible_of_actionFor {joint : Int} {call : Call K} {action : PendingAction K}
    (asked : call.actionFor joint = some action) : Admissible joint action := by
  cases call with
  | returned => cases asked
  | controlArm jointIdx targetRad durationMs =>
    obtain ⟨⟨_, first, last⟩, same⟩ := Option.ite_none_right_eq_some.mp asked
    cases same
    exact ⟨first, last, div_le_div_of_nonneg_right (le_max_left _ _) (by norm_num)⟩

theorem Admissible.positive {joint : Int} {action : PendingAction K}
    (admissible : Admissible joint action) : 0 < action.durationSeconds :=
  lt_of_lt_of_le (by norm_num) admissible.2.2

theorem Planned.later {execution next : Execution K} {startTime : K} {tasks : PlannedTasks K}
    {publication : Publication K} (planned : Planned execution startTime tasks publication)
    (passed : execution.clock ≤ next.clock)
    (grown : execution.history.reports <+: next.history.reports) :
    Planned next startTime tasks publication where
  started := planned.started
  elapsed := planned.elapsed.trans (sub_le_sub_right passed startTime)
  reports := planned.reports.trans grown.length_le
  command := by
    obtain ⟨more, same⟩ := grown
    rw [planned.command, ← same, List.take_append_of_le_length planned.reports]

theorem Consistent.handleMessage {execution : Execution K} (consistent : Consistent execution)
    (lowState : LowState K) : Consistent (execution.handleMessage lowState) := by
  rw [Execution.handleMessage_eq consistent.tracked lowState]
  refine ⟨rfl, consistent.pending, consistent.admissible, consistent.closed, ?_⟩
  have before := consistent.phase
  unfold PhaseConsistent at before ⊢
  cases phase : execution.phase with
  | idle => trivial
  | closing => trivial
  | faulted fault =>
    rw [phase] at before
    exact before.elim
  | planning remaining tasks maxDuration =>
    rw [phase] at before
    refine ⟨?_, before.waiting, fun joint action queued => ?_, before.only, before.unpublished⟩
    · exact before.entered.trans (List.prefix_append _ _).length_le
    · rcases before.planned joint action queued with waits | ⟨startQ, reported, task⟩
      · exact .inl waits
      · exact .inr ⟨startQ, reported.later (Nat.le_refl _) lowState
          (List.prefix_append _ _).length_le, task⟩
  | looping startTime maxDuration tasks success =>
    rw [phase] at before
    refine ⟨before.forward, ?_, fun joint => ?_, fun publication member => ?_, before.ordered,
      before.opened, before.readings⟩
    · exact before.entered.trans (List.prefix_append _ _).length_le
    · obtain ⟨startQ, reported, task⟩ := before.planned joint
      exact ⟨startQ, reported.later before.entered lowState (Nat.le_refl _), task⟩
    · exact (before.published publication member).later (le_refl _) (List.prefix_append _ _)

theorem Consistent.controlArm {execution : Execution K} (consistent : Consistent execution)
    (idle : execution.phase = .idle) (jointIdx : Int) (targetRad durationMs : K) :
    Consistent (execution.controlArm jointIdx targetRad durationMs) := by
  obtain ⟨tracker, isClosed, publisherOpen⟩ :=
    controlArm_frame execution.arm jointIdx targetRad durationMs
  unfold Execution.controlArm
  refine ⟨?_, fun unclosed joint => ?_, fun joint action queued => ?_, ?_, ?_⟩
  · rw [tracker]
    exact consistent.tracked
  · rw [isClosed] at unclosed
    rw [controlArm_lookup, queued_controlArm, consistent.pending unclosed]
  · rw [controlArm_lookup, Option.or_eq_some_iff] at queued
    rcases queued with asked | ⟨_, before⟩
    · exact admissible_of_actionFor asked
    · exact consistent.admissible joint action before
  · rw [isClosed, publisherOpen]
    exact consistent.closed
  · unfold PhaseConsistent
    rw [idle]
    trivial

/-- Every task of a plan has a positive duration. -/
theorem Looping.positive {execution : Execution K} (consistent : Consistent execution)
    {startTime : K} {tasks : PlannedTasks K} {success : Bool}
    (looping : Looping execution startTime tasks success) {joint : Int} {task : PlannedTask K}
    (planned : tasks.lookup joint = some task) : 0 < task.durationSeconds := by
  obtain ⟨startQ, _, same⟩ := looping.planned joint
  rw [planned] at same
  obtain ⟨action, queued, rfl⟩ := Option.map_eq_some_iff.mp same.symm
  exact (consistent.admissible joint action queued).positive

/-- An iteration that goes on gives the planned command to the writer when there is one. -/
theorem iterate_eq {execution : Execution K} (consistent : Consistent execution)
    {startTime : K} {tasks : PlannedTasks K} {success : Bool}
    (looping : Looping execution startTime tasks success) {maxDuration now : K} (written : Bool)
    (within : ¬ maxDuration + 1 / 50 < now - startTime) :
    execution.iterate now written startTime maxDuration tasks success =
      { execution with
        phase :=
          .looping startTime maxDuration tasks ((execution.arm.publisherOpen && written) && success)
        clock := now
        history :=
          { execution.history with
            readings := execution.history.readings ++ [now - startTime]
            published := execution.history.published ++
              if execution.arm.publisherOpen then
                [⟨now - startTime, execution.history.reports.length,
                  plannedCmd tasks execution.history.reports (now - startTime)⟩]
              else [] } } := by
  have built := lowCmdOf_eq (fun joint task planned => looping.positive consistent planned)
    execution.history.reports (now - startTime)
  unfold Execution.iterate LowStateTracker.getAllQ
  simp only [if_neg within, consistent.tracked, built]

theorem Consistent.iterate {execution : Execution K} (consistent : Consistent execution)
    {startTime maxDuration : K} {tasks : PlannedTasks K} {success : Bool} (now : K) (written : Bool)
    (loops : execution.phase = .looping startTime maxDuration tasks success)
    (forward : execution.clock ≤ now) :
    Consistent (execution.iterate now written startTime maxDuration tasks success) := by
  have before := consistent.phase
  unfold PhaseConsistent at before
  rw [loops] at before
  by_cases timedOut : maxDuration + 1 / 50 < now - startTime
  · unfold Execution.iterate
    simp only [if_pos timedOut]
    exact consistent.returned rfl rfl rfl consistent.closed rfl rfl
  · rw [iterate_eq consistent before written timedOut]
    refine ⟨consistent.tracked, consistent.pending, consistent.admissible, consistent.closed, ?_⟩
    cases opened : execution.arm.publisherOpen with
    | false =>
      rw [if_neg Bool.false_ne_true, List.append_nil]
      refine ⟨before.forward.trans forward, before.entered, before.planned,
        fun publication member => ?_, before.ordered, before.opened, ?_⟩
      · exact (before.published publication member).later forward (List.prefix_refl _)
      · rintro (succeeds | isOpen)
        · cases succeeds
        · exact absurd (opened.symm.trans isOpen) Bool.false_ne_true
    | true =>
      rw [if_pos rfl]
      refine ⟨before.forward.trans forward, before.entered, before.planned,
        fun publication member => ?_, ?_, fun _ => opened, fun _ => ?_⟩
      · rcases List.mem_append.mp member with old | new
        · exact (before.published publication old).later forward (List.prefix_refl _)
        · rw [List.mem_singleton.mp new]
          refine ⟨sub_nonneg.mpr (before.forward.trans forward), le_refl _, Nat.le_refl _, ?_⟩
          rw [List.take_length]
      · rw [List.map_append]
        refine List.pairwise_append.mpr ⟨before.ordered, List.pairwise_singleton _ _, ?_⟩
        intro earlier member later last
        obtain ⟨publication, old, rfl⟩ := List.mem_map.mp member
        rw [List.mem_singleton.mp last]
        exact (before.published publication old).elapsed.trans (sub_le_sub_right forward startTime)
      · rw [List.map_append, before.readings (.inr opened)]
        rfl

/-- The invariant holds throughout. -/
theorem consistent_reachable {publisherOpen : Bool} {clock : K} {execution : Execution K}
    (reachable : (system publisherOpen clock).Reachable execution) : Consistent execution := by
  refine reachable.invariant (consistent_initial publisherOpen clock) ?_
  intro execution action next _ consistent _ stepped
  cases steps_of_step stepped with
  | handleMessage lowState running => exact consistent.handleMessage lowState
  | controlArm jointIdx targetRad durationMs idle =>
    exact consistent.controlArm idle jointIdx targetRad durationMs
  | finish idle => exact consistent.finish
  | planTask planning => exact consistent.planTask planning
  | startLoop now planned forward => exact consistent.startLoop now planned
  | iterate now written looping forward => exact consistent.iterate now written looping forward
  | close idle => exact consistent.close
  | closeChannels closing => exact consistent.returned rfl rfl rfl (fun _ => rfl) rfl rfl
  | throwOut =>
    exact ⟨consistent.tracked, consistent.pending, consistent.admissible, consistent.closed,
      trivial⟩

end Motion

end Booster.Robot.B1.ArmController
