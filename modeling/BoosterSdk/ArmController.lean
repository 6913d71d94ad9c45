/-
This file models `ArmController`: queueing arm targets, `Finish` and `Close`.

Angles, durations and clock readings are elements of an ordered field, so arithmetic
is exact. Methods are called one after another from one application thread, while
`LowState` messages may be handled between any two steps of them: each access to the
tracker takes its lock, so the planning of one joint, one iteration of the loop of
`Finish` and the handling of one message are atomic. A checked access or division
that fails leaves the controller in a fault. Iterations of a standard map come in the
order of an association list, on which nothing here depends. What `Close` asks of the
robot only ends in log lines, so of the request only the time it takes and whether it
throws take part; sleeps take part through the readings of the clock.
-/

import BoosterSdk.Library.CheckedVector
import BoosterSdk.Library.Interleaving
import BoosterSdk.Library.TimedSegment
import Mathlib.Data.List.AList
import Mathlib.Data.List.DropRight
import Mathlib.Tactic.NormNum

namespace Booster.Robot.B1

open CheckedVector Interleaving

/-! ### Messages -/

def kJointCnt : Nat := 23

inductive CmdType where
  | parallel
  | serial
  deriving DecidableEq

/-- `booster_interface::msg::MotorCmd`. -/
structure MotorCmd (K : Type) where
  mode : UInt8
  q : K
  dq : K
  tau : K
  kp : K
  kd : K
  weight : K

/-- `booster_interface::msg::LowCmd`. -/
structure LowCmd (K : Type) where
  cmdType : CmdType
  motorCmd : List (MotorCmd K)

/-- `booster_interface::msg::MotorState`, as far as the tracker reads it. -/
structure MotorState (K : Type) where
  q : K

/-- `booster_interface::msg::LowState`, as far as the tracker reads it. -/
structure LowState (K : Type) where
  motorStateParallel : List (MotorState K)

namespace ArmController

def kArmJointStart : Int := 2

def kArmJointEnd : Int := 9

def kLowLevelJointCount : Nat := kJointCnt

section Methods

variable {K : Type} [Field K]

/-- `MotorCmd()`. -/
def blankMotor : MotorCmd K := ⟨0, 0, 0, 0, 0, 0, 0⟩

/-! ### LowStateTracker -/

/-- The members of `LowStateTracker`. -/
structure LowStateTracker (K : Type) where
  ready : Bool
  jointPositions : List K

namespace LowStateTracker

/-- A tracker that has handled nothing. -/
def initial : LowStateTracker K := ⟨false, List.replicate kLowLevelJointCount 0⟩

/-- `GetJointQ`. -/
def getJointQ (jointIdx : Int) (tracker : LowStateTracker K) : Except Fault K :=
  if jointIdx < 0 ∨ tracker.jointPositions.length ≤ jointIdx then .ok 0
  else entry tracker.jointPositions jointIdx.toNat

/-- `GetAllQ`. -/
def getAllQ (tracker : LowStateTracker K) : List K := tracker.jointPositions

/-- `HandleMessage`. -/
def handleMessage (lowState : LowState K) (tracker : LowStateTracker K) :
    Except Fault (LowStateTracker K) := do
  let motorStates := lowState.motorStateParallel
  let count := min motorStates.length tracker.jointPositions.length
  let jointPositions ← fill count
    (fun i => do
      let motorState ← entry motorStates i
      return motorState.q)
    tracker.jointPositions
  return ⟨true, jointPositions⟩

end LowStateTracker

/-! ### The loop of Finish -/

structure PendingAction (K : Type) where
  targetRad : K
  durationSeconds : K
  deriving DecidableEq

structure PlannedTask (K : Type) where
  startQ : K
  endQ : K
  durationSeconds : K
  deriving DecidableEq

/-- `pending_actions_`. -/
abbrev PendingActions (K : Type) := AList fun _ : Int => PendingAction K

/-- A joint with its pending action. -/
abbrev PendingEntry (K : Type) := Sigma fun _ : Int => PendingAction K

/-- The tasks planned by `Finish`. -/
abbrev PlannedTasks (K : Type) := AList fun _ : Int => PlannedTask K

variable [LinearOrder K]

/-- The entry of a joint in the command of an iteration. -/
def motorOf (tasks : PlannedTasks K) (currentRealQ : List K) (elapsed : K) (i : Nat) :
    Except Fault (MotorCmd K) :=
  let motor : MotorCmd K := { blankMotor with mode := 0x0A, dq := 0, tau := 0 }
  match tasks.lookup (i : Int) with
  | some task => do
    let ratio ← quotient elapsed task.durationSeconds
    let progress := min 1 ratio
    let targetQ := task.startQ + (task.endQ - task.startQ) * progress
    return { motor with q := targetQ, kp := 60, kd := 3 }
  | none =>
    if kArmJointStart.toNat ≤ i ∧ i ≤ kArmJointEnd.toNat then do
      let q ← entry currentRealQ i
      return { motor with q := q, kp := 60, kd := 3 }
    else return { motor with q := 0, kp := 0, kd := 0 }

/-- The command of an iteration. -/
def lowCmdOf (tasks : PlannedTasks K) (currentRealQ : List K) (elapsed : K) :
    Except Fault (LowCmd K) := do
  let cmdList ← fill kLowLevelJointCount (motorOf tasks currentRealQ elapsed)
    (List.replicate kLowLevelJointCount blankMotor)
  return ⟨.parallel, cmdList⟩

end Methods

end ArmController

open ArmController

/-! ### The controller -/

/-- The members of `ArmController`; the publisher is open while it has a channel. -/
structure ArmController (K : Type) where
  publisherOpen : Bool
  tracker : LowStateTracker K
  pendingActions : PendingActions K
  isClosed : Bool

namespace ArmController

/-- Where the application thread is. -/
inductive Phase (K : Type) where
  | idle
  | planning (remaining : List (PendingEntry K)) (tasks : PlannedTasks K) (maxDuration : K)
  | looping (startTime maxDuration : K) (tasks : PlannedTasks K) (success : Bool)
  | closing
  | faulted (fault : Fault)
  deriving DecidableEq

/-- What happens next: a message is handled, a method is called or goes on, or a request that the
application thread waits for throws. -/
inductive Action (K : Type) where
  | handleMessage (lowState : LowState K)
  | controlArm (jointIdx : Int) (targetRad durationMs : K)
  | finish
  | planTask
  | startLoop (now : K)
  | iterate (now : K) (written : Bool)
  | close
  | closeChannels
  | throwOut

/-- The calls the application has made; the returns of `Finish` and `Close` count as one kind. -/
inductive Call (K : Type) where
  | controlArm (jointIdx : Int) (targetRad durationMs : K)
  | returned

/-- A command given to the writer: when, after how many messages, and what. -/
structure Publication (K : Type) where
  elapsed : K
  reportsSeen : Nat
  command : LowCmd K

/-- What has happened so far. Publications and clock readings are those of the last call of
`Finish`, without the reading that ended its loop. -/
structure History (K : Type) where
  calls : List (Call K) := []
  reports : List (LowState K) := []
  reportsAtEntry : Nat := 0
  reportsAtStart : Nat := 0
  readings : List K := []
  published : List (Publication K) := []
  finishReturned : Option Bool := none

/-- A controller with the thread that uses it, the clock and what has happened. -/
structure Execution (K : Type) where
  arm : ArmController K
  phase : Phase K
  clock : K
  history : History K

section Methods

variable {K : Type} [Field K] [LinearOrder K]

/-- `ControlArm`. -/
def controlArm (jointIdx : Int) (targetRad durationMs : K) (arm : ArmController K) :
    ArmController K :=
  if jointIdx < kArmJointStart ∨ kArmJointEnd < jointIdx then arm
  else
    let durationMs := max 50 durationMs
    { arm with
      pendingActions := arm.pendingActions.insert jointIdx ⟨targetRad, durationMs / 1000⟩ }

namespace Execution

/-- A message is handled. -/
def handleMessage (lowState : LowState K) (execution : Execution K) : Execution K :=
  match execution.arm.tracker.handleMessage lowState with
  | .error fault => { execution with phase := .faulted fault }
  | .ok tracker =>
    { execution with
      arm := { execution.arm with tracker := tracker }
      history :=
        { execution.history with reports := execution.history.reports ++ [lowState] } }

/-- `ControlArm` is called. -/
def controlArm (jointIdx : Int) (targetRad durationMs : K) (execution : Execution K) :
    Execution K :=
  { execution with
    arm := execution.arm.controlArm jointIdx targetRad durationMs
    history :=
      { execution.history with
        calls := execution.history.calls ++ [.controlArm jointIdx targetRad durationMs] } }

/-- `Finish` returns. -/
def finishReturn (arm : ArmController K) (success : Bool) (execution : Execution K) :
    Execution K :=
  { execution with
    arm := arm
    phase := .idle
    history :=
      { execution.history with
        calls := execution.history.calls ++ [.returned]
        finishReturned := some success } }

/-- `Finish` is entered. -/
def finish (execution : Execution K) : Execution K :=
  let entered :=
    { execution with
      history :=
        { execution.history with
          reportsAtEntry := execution.history.reports.length
          readings := []
          published := [] } }
  match execution.arm.pendingActions.entries with
  | [] => entered.finishReturn execution.arm true
  | action :: rest => { entered with phase := .planning (action :: rest) ∅ 0 }

/-- `Finish` plans one joint. -/
def planTask (action : PendingEntry K) (rest : List (PendingEntry K)) (tasks : PlannedTasks K)
    (maxDuration : K) (execution : Execution K) : Execution K :=
  let duration := action.2.durationSeconds
  match execution.arm.tracker.getJointQ action.1 with
  | .error fault => { execution with phase := .faulted fault }
  | .ok startQ =>
    { execution with
      phase := .planning rest (tasks.insert action.1 ⟨startQ, action.2.targetRad, duration⟩)
        (max maxDuration duration) }

/-- `Finish` reads its start time. -/
def startLoop (now : K) (tasks : PlannedTasks K) (maxDuration : K) (execution : Execution K) :
    Execution K :=
  { execution with
    phase := .looping now maxDuration tasks true
    clock := now
    history :=
      { execution.history with reportsAtStart := execution.history.reports.length } }

/-- One iteration of the loop of `Finish`. A command reaches the writer when the publisher is
open, and `Write` then answers what the writer does. -/
def iterate (now : K) (written : Bool) (startTime maxDuration : K) (tasks : PlannedTasks K)
    (success : Bool) (execution : Execution K) : Execution K :=
  let elapsed := now - startTime
  if maxDuration + 1 / 50 < elapsed then
    { execution with clock := now }.finishReturn { execution.arm with pendingActions := ∅ } success
  else
    match lowCmdOf tasks execution.arm.tracker.getAllQ elapsed with
    | .error fault => { execution with phase := .faulted fault }
    | .ok command =>
      let publication : List (Publication K) :=
        if execution.arm.publisherOpen then
          [⟨elapsed, execution.history.reports.length, command⟩]
        else []
      { execution with
        phase :=
          .looping startTime maxDuration tasks ((execution.arm.publisherOpen && written) && success)
        clock := now
        history :=
          { execution.history with
            readings := execution.history.readings ++ [elapsed]
            published := execution.history.published ++ publication } }

/-- `Close` returns. -/
def closeReturn (execution : Execution K) : Execution K :=
  { execution with
    phase := .idle
    history := { execution.history with calls := execution.history.calls ++ [.returned] } }

/-- `Close` is entered. -/
def close (execution : Execution K) : Execution K :=
  if execution.arm.isClosed then execution.closeReturn else { execution with phase := .closing }

/-- `Close` closes the channels once the request to the robot has been answered. -/
def closeChannels (execution : Execution K) : Execution K :=
  { execution with
    arm :=
      { execution.arm with publisherOpen := false, pendingActions := ∅, isClosed := true }
  }.closeReturn

/-- A step of an execution. -/
def step (execution : Execution K) (action : Action K) : Option (Execution K) :=
  match action, execution.phase with
  | .handleMessage _, .faulted _ => none
  | .handleMessage lowState, _ => some (execution.handleMessage lowState)
  | .controlArm jointIdx targetRad durationMs, .idle =>
    some (execution.controlArm jointIdx targetRad durationMs)
  | .finish, .idle => some execution.finish
  | .planTask, .planning (action :: rest) tasks maxDuration =>
    some (execution.planTask action rest tasks maxDuration)
  | .startLoop now, .planning [] tasks maxDuration =>
    if execution.clock ≤ now then some (execution.startLoop now tasks maxDuration) else none
  | .iterate now written, .looping startTime maxDuration tasks success =>
    if execution.clock ≤ now then
      some (execution.iterate now written startTime maxDuration tasks success)
    else none
  | .close, .idle => some execution.close
  | .closeChannels, .closing => some execution.closeChannels
  | .throwOut, .looping _ _ _ _ => some { execution with phase := .idle }
  | .throwOut, .closing => some { execution with phase := .idle }
  | _, _ => none

end Execution

/-- A controller after its constructor, whose publisher may have got no channel. -/
def system (publisherOpen : Bool) (clock : K) : System (Execution K) (Action K) where
  initial := ⟨⟨publisherOpen, .initial, ∅, false⟩, .idle, clock, {}⟩
  step := Execution.step

end Methods

/-! ### What a call asks of a joint, and what a joint is commanded -/

section Asked

variable {K : Type} [Field K] [LinearOrder K]

namespace Call

def isControlArm : Call K → Bool
  | .controlArm _ _ _ => true
  | .returned => false

/-- What a call asks of a joint. -/
def actionFor (joint : Int) : Call K → Option (PendingAction K)
  | .controlArm jointIdx targetRad durationMs =>
    if jointIdx = joint ∧ kArmJointStart ≤ joint ∧ joint ≤ kArmJointEnd then
      some ⟨targetRad, max 50 durationMs / 1000⟩
    else none
  | .returned => none

end Call

/-- An action that may be queued for a joint. -/
def Admissible (joint : Int) (action : PendingAction K) : Prop :=
  kArmJointStart ≤ joint ∧ joint ≤ kArmJointEnd ∧ 50 / 1000 ≤ action.durationSeconds

/-- A joint driven to a position. -/
def drivenMotor (q : K) : MotorCmd K := ⟨0x0A, q, 0, 0, 60, 3, 0⟩

/-- A joint left to others. -/
def freeMotor : MotorCmd K := ⟨0x0A, 0, 0, 0, 0, 0, 0⟩

end Asked

end ArmController

end Booster.Robot.B1
