/-
This file models the rotation of `MoveController`.

Coordinates and angles are elements of an ordered field, so arithmetic is exact,
and half a turn is any positive element of it. `GetPose` and `MoveCommand` are
answered by the environment, which may also make them throw; a command is recorded
when it is issued, whatever its answer. A loop runs for as many iterations as it is
given and is otherwise still running; the sleeps between iterations take no part.
-/

import BoosterSdk.Library.WrappedPath
import Mathlib.Algebra.Order.Field.Basic
import Mathlib.Algebra.Order.Floor.Semiring
import Mathlib.Tactic.FieldSimp
import Mathlib.Tactic.Linarith
import Mathlib.Tactic.Ring

namespace Booster.Robot.B1.MoveController

open WrappedPath

/-! ### The environment -/

/-- A velocity command. -/
structure Command (K : Type) where
  vx : K
  vy : K
  vyaw : K

/-- The answers of the environment: the pose of each call of `GetPose` and the status of each
call of `MoveCommand`, none when the call throws. -/
structure Environment (K : Type) where
  getPose : Nat → Option (K × K × K)
  moveCommand : Nat → Option Int

/-- What the controller has done so far: the calls of `GetPose`, the commands it has issued and
the lines it has printed to the error stream. -/
structure Session (K : Type) where
  readings : Nat := 0
  commands : List (Command K) := []
  errors : List String := []

/-- How far a method has come. -/
inductive Outcome where
  | running
  | returned (value : Bool)
  | threw
  deriving DecidableEq

def kRpcStatusCodeSuccess : Int := 0

def kRpcStatusCodeTimeout : Int := 100

section Methods

variable {K : Type}

namespace Session

/-- `tracker_.GetPose()`. -/
def getPose (environment : Environment K) (session : Session K) :
    Option (K × K × K) × Session K :=
  (environment.getPose session.readings, { session with readings := session.readings + 1 })

/-- What `SafeMove` prints for a status. -/
def safeMoveErrors (ret : Int) : List String :=
  if ret = kRpcStatusCodeSuccess ∨ ret = kRpcStatusCodeTimeout then
    if ret = kRpcStatusCodeTimeout then
      ["[WARN] Move command send timeout (code 100). Packet dropped, continuing..."]
    else []
  else ["[ERROR] Move command failed, code = " ++ toString ret]

/-- `SafeMove`; the result is none when `MoveCommand` throws. -/
def safeMove (environment : Environment K) (command : Command K) (session : Session K) :
    Option Unit × Session K :=
  let issued := { session with commands := session.commands ++ [command] }
  match environment.moveCommand session.commands.length with
  | none => (none, issued)
  | some ret => (some (), { issued with errors := issued.errors ++ safeMoveErrors ret })

/-- A command is recorded whatever its answer. -/
theorem safeMove_eq (environment : Environment K) (command : Command K) (session : Session K) :
    ∃ errors, session.safeMove environment command =
      ((environment.moveCommand session.commands.length).map fun _ => (),
        { session with commands := session.commands ++ [command], errors := errors }) := by
  unfold safeMove
  cases environment.moveCommand session.commands.length with
  | none => exact ⟨_, rfl⟩
  | some ret => exact ⟨_, rfl⟩

/-- A command that does not throw returns. -/
theorem safeMove_of_sent {environment : Environment K}
    (sent : ∀ index, (environment.moveCommand index).isSome = true) (command : Command K)
    (session : Session K) :
    ∃ errors, session.safeMove environment command =
      (some (), { session with commands := session.commands ++ [command], errors := errors }) := by
  obtain ⟨errors, issued⟩ := session.safeMove_eq environment command
  obtain ⟨ret, answered⟩ := Option.isSome_iff_exists.mp (sent session.commands.length)
  rw [answered] at issued
  exact ⟨errors, issued⟩

variable [Field K]

/-- `Stop`. -/
def stop (environment : Environment K) (session : Session K) : Option Unit × Session K :=
  session.safeMove environment ⟨0, 0, 0⟩

/-- The handler of every movement method: `catch (...) { Stop(); return false; }`. -/
def caught (environment : Environment K) (session : Session K) : Outcome × Session K :=
  match session.stop environment with
  | (some _, session) => (.returned false, session)
  | (none, session) => (.threw, session)

/-- The handler issues a stop and does not report success. -/
theorem caught_eq (environment : Environment K) (session : Session K) :
    ∃ outcome errors, session.caught environment =
        (outcome, { session with commands := session.commands ++ [⟨0, 0, 0⟩], errors := errors }) ∧
      outcome ≠ .running ∧ outcome ≠ .returned true := by
  obtain ⟨errors, stopped⟩ := session.safeMove_eq environment ⟨0, 0, 0⟩
  unfold caught stop
  rw [stopped]
  cases environment.moveCommand session.commands.length with
  | none => exact ⟨.threw, errors, rfl, by decide, by decide⟩
  | some ret => exact ⟨.returned false, errors, rfl, by decide, by decide⟩

end Session

/-! ### NormalizeAngle -/

variable [Field K] [LinearOrder K]

/-- `kPi`, of which only its sign matters. -/
def HalfTurn (K : Type) [Field K] [LinearOrder K] := { kPi : K // 0 < kPi }

/-- One turn less leaves fewer turns above half a turn. -/
theorem turns_decrease [IsStrictOrderedRing K] [FloorRing K] {kPi angle : K} (positive : 0 < kPi)
    (above : kPi < angle) :
    ⌈(angle - 2 * kPi - kPi) / (2 * kPi)⌉₊ < ⌈(angle - kPi) / (2 * kPi)⌉₊ := by
  have turn : 0 < 2 * kPi := by linarith
  have positive : 0 < (angle - kPi) / (2 * kPi) := div_pos (by linarith) turn
  have fewer : (angle - 2 * kPi - kPi) / (2 * kPi) = (angle - kPi) / (2 * kPi) - 1 := by
    field_simp
    ring
  rw [fewer, Nat.lt_ceil]
  rcases le_total ((angle - kPi) / (2 * kPi) - 1) 0 with within | more
  · rw [Nat.ceil_eq_zero.mpr within, Nat.cast_zero]
    exact positive
  · have bound := Nat.ceil_lt_add_one more
    linarith

/-- `while (angle > kPi) angle -= kTwoPi`. -/
def subtractTurns [IsStrictOrderedRing K] [FloorRing K] (kPi : HalfTurn K) (angle : K) : K :=
  if above : kPi.val < angle then subtractTurns kPi (angle - 2 * kPi.val) else angle
termination_by ⌈(angle - kPi.val) / (2 * kPi.val)⌉₊
decreasing_by exact turns_decrease kPi.property above

/-- `while (angle < -kPi) angle += kTwoPi`. -/
def addTurns [IsStrictOrderedRing K] [FloorRing K] (kPi : HalfTurn K) (angle : K) : K :=
  if angle < -kPi.val then addTurns kPi (angle + 2 * kPi.val) else angle
termination_by ⌈(-angle - kPi.val) / (2 * kPi.val)⌉₊
decreasing_by
  rename_i below
  have above : kPi.val < -angle := by linarith
  have fewer := turns_decrease kPi.property above
  rwa [show -angle - 2 * kPi.val - kPi.val = -(angle + 2 * kPi.val) - kPi.val by ring] at fewer

/-- Whole turns do not change an angle modulo the turn. -/
theorem sub_turn_modEq (kPi : HalfTurn K) (angle : K) :
    angle - 2 * kPi.val ≡ angle [PMOD kPi.val + kPi.val] := by
  refine AddCommGroup.modEq_iff_zsmul.mpr ⟨1, ?_⟩
  rw [one_zsmul]
  ring

theorem add_turn_modEq (kPi : HalfTurn K) (angle : K) :
    angle + 2 * kPi.val ≡ angle [PMOD kPi.val + kPi.val] := by
  have back := sub_turn_modEq kPi (angle + 2 * kPi.val)
  rw [add_sub_cancel_right] at back
  exact back.symm

variable [IsStrictOrderedRing K] [FloorRing K]

/-- `NormalizeAngle`. -/
def normalizeAngle (kPi : HalfTurn K) (angle : K) : K := addTurns kPi (subtractTurns kPi angle)

/-- The first loop ends at a congruent angle that is not above half a turn. -/
theorem subtractTurns_spec (kPi : HalfTurn K) (angle : K) :
    subtractTurns kPi angle ≡ angle [PMOD kPi.val + kPi.val] ∧
      subtractTurns kPi angle ≤ kPi.val := by
  fun_induction subtractTurns kPi angle with
  | case1 angle above inductionHypothesis =>
    exact ⟨inductionHypothesis.1.trans (sub_turn_modEq kPi angle), inductionHypothesis.2⟩
  | case2 angle within => exact ⟨AddCommGroup.modEq_rfl, not_lt.mp within⟩

/-- The second loop ends at a congruent angle that is not below half a turn, and stays below half a
turn above. -/
theorem addTurns_spec (kPi : HalfTurn K) (angle : K) :
    addTurns kPi angle ≡ angle [PMOD kPi.val + kPi.val] ∧ -kPi.val ≤ addTurns kPi angle ∧
      (angle ≤ kPi.val → addTurns kPi angle ≤ kPi.val) := by
  fun_induction addTurns kPi angle with
  | case1 angle below inductionHypothesis =>
    obtain ⟨congruent, lower, upper⟩ := inductionHypothesis
    refine ⟨congruent.trans (add_turn_modEq kPi angle), lower, fun _ => upper ?_⟩
    have positive := kPi.property
    linarith
  | case2 angle within => exact ⟨AddCommGroup.modEq_rfl, not_lt.mp within, id⟩

/-- `NormalizeAngle` is a reduction. -/
theorem normalizeAngle_reduces (kPi : HalfTurn K) : Reduces kPi.val (normalizeAngle kPi) := by
  constructor
  · intro angle
    have first := subtractTurns_spec kPi angle
    have second := addTurns_spec kPi (subtractTurns kPi angle)
    exact abs_le.mpr ⟨second.2.1, second.2.2 first.2⟩
  · intro angle
    have first := subtractTurns_spec kPi angle
    have second := addTurns_spec kPi (subtractTurns kPi angle)
    exact second.1.trans first.1

/-! ### TurnAround -/

/-- The sign of the yaw commands for a requested angle. -/
def directionSign (angle : K) : K := if 0 < angle then -1 else 1

/-- The yaw speed for what remains to be turned. -/
def turnSpeed (vel remaining : K) : K :=
  if remaining < 1 / 5 then max (1 / 5) (remaining * 2) else |vel|

/-- The loop of `TurnAround`. -/
def turnLoop (kPi : HalfTurn K) (environment : Environment K) (angle vel : K) :
    Nat → K → K → Session K → Outcome × Session K
  | 0, _, _, session => (.running, session)
  | iterations + 1, lastTheta, currentAccumulated, session =>
    match session.getPose environment with
    | (none, session) => session.caught environment
    | (some (_, _, currTheta), session) =>
      let delta := normalizeAngle kPi (currTheta - lastTheta)
      let currentAccumulated := currentAccumulated + |delta|
      let remaining := |angle| - currentAccumulated
      if remaining ≤ 0 then
        match session.stop environment with
        | (some _, session) => (.returned true, session)
        | (none, session) => session.caught environment
      else
        match session.safeMove environment
          ⟨0, 0, directionSign angle * turnSpeed vel remaining⟩ with
        | (some _, session) =>
          turnLoop kPi environment angle vel iterations currTheta currentAccumulated session
        | (none, session) => session.caught environment

/-- `TurnAround`, its loop run for a number of iterations. -/
def turnAround (kPi : HalfTurn K) (environment : Environment K) (angle vel : K)
    (iterations : Nat) (session : Session K) : Outcome × Session K :=
  match session.getPose environment with
  | (none, session) => (.threw, session)
  | (some (_, _, lastTheta), session) =>
    turnLoop kPi environment angle vel iterations lastTheta 0 session

/-! ### What a turn measures -/

/-- An environment in which the headings of the robot are read wrapped, no call throws, and the
heading moves by less than half a turn between readings. -/
structure Observes (kPi : HalfTurn K) (environment : Environment K) (heading : Nat → K) :
    Prop where
  read : ∀ index, ∃ x y theta, environment.getPose index = some (x, y, theta) ∧
    theta ≡ heading index [PMOD kPi.val + kPi.val]
  sent : ∀ index, (environment.moveCommand index).isSome = true
  small : ∀ index, |heading (index + 1) - heading index| < kPi.val

/-- The command `TurnAround` issues after a reading that leaves something to turn. -/
def turnCommand (heading : Nat → K) (angle vel : K) (index : Nat) : Command K where
  vx := 0
  vy := 0
  vyaw := directionSign angle * turnSpeed vel (|angle| - pathLength heading index)

section Measure

variable {kPi : HalfTurn K} {environment : Environment K} {heading : Nat → K}

/-- A loop that has measured the path so far, with the last reading it took. -/
structure Measured (environment : Environment K) (heading : Nat → K) (index : Nat)
    (lastTheta accumulated : K) (session : Session K) : Prop where
  reading : ∃ x y, environment.getPose index = some (x, y, lastTheta)
  length : accumulated = pathLength heading index
  readings : session.readings = index + 1

/-- What the next reading measures. -/
theorem Measured.next (observes : Observes kPi environment heading) {index : Nat}
    {lastTheta accumulated : K} {session : Session K}
    (measured : Measured environment heading index lastTheta accumulated session) :
    ∃ x y currTheta, session.getPose environment =
        (some (x, y, currTheta), { session with readings := index + 2 }) ∧
      environment.getPose (index + 1) = some (x, y, currTheta) ∧
      accumulated + |normalizeAngle kPi (currTheta - lastTheta)| =
        pathLength heading (index + 1) := by
  obtain ⟨x, y, currTheta, read, wrapped⟩ := observes.read (index + 1)
  obtain ⟨_, _, lastTheta', lastRead, lastWrapped⟩ := observes.read index
  obtain ⟨_, _, reading⟩ := measured.reading
  rw [reading] at lastRead
  cases lastRead
  refine ⟨x, y, currTheta, ?_, read, ?_⟩
  · unfold Session.getPose
    rw [measured.readings, read]
  · have delta := (normalizeAngle_reduces kPi).eq_of_modEq (wrapped.sub lastWrapped)
      (observes.small index)
    rw [delta, measured.length, pathLength_succ]

/-- A reading at which the path is long enough ends the turn with a stop. -/
theorem turnLoop_reached (observes : Observes kPi environment heading) {index : Nat}
    {lastTheta accumulated : K} {session : Session K}
    (measured : Measured environment heading index lastTheta accumulated session)
    {angle : K} (vel : K) (reached : |angle| ≤ pathLength heading (index + 1))
    (iterations : Nat) :
    ∃ final, turnLoop kPi environment angle vel (iterations + 1) lastTheta accumulated session =
        (.returned true, final) ∧
      final.readings = index + 2 ∧ final.commands = session.commands ++ [⟨0, 0, 0⟩] := by
  obtain ⟨x, y, currTheta, got, _, length⟩ := measured.next observes
  obtain ⟨errors, stopped⟩ := Session.safeMove_of_sent observes.sent ⟨0, 0, 0⟩
    { session with readings := index + 2 }
  refine ⟨⟨index + 2, session.commands ++ [⟨0, 0, 0⟩], errors⟩, ?_, rfl, rfl⟩
  rw [turnLoop]
  simp only [got, length, sub_nonpos.mpr reached, if_true, Session.stop, stopped]

/-- A reading at which the path is too short sends a command and goes on. -/
theorem turnLoop_short (observes : Observes kPi environment heading) {index : Nat}
    {lastTheta accumulated : K} {session : Session K}
    (measured : Measured environment heading index lastTheta accumulated session)
    {angle : K} (vel : K) (short : pathLength heading (index + 1) < |angle|) :
    ∃ currTheta later, Measured environment heading (index + 1) currTheta
        (pathLength heading (index + 1)) later ∧
      later.commands = session.commands ++ [turnCommand heading angle vel (index + 1)] ∧
      ∀ iterations,
        turnLoop kPi environment angle vel (iterations + 1) lastTheta accumulated session =
          turnLoop kPi environment angle vel iterations currTheta (pathLength heading (index + 1))
            later := by
  obtain ⟨x, y, currTheta, got, read, length⟩ := measured.next observes
  obtain ⟨errors, sent⟩ := Session.safeMove_of_sent observes.sent
    (turnCommand heading angle vel (index + 1)) { session with readings := index + 2 }
  refine ⟨currTheta,
    ⟨index + 2, session.commands ++ [turnCommand heading angle vel (index + 1)], errors⟩,
    ⟨⟨x, y, read⟩, rfl, rfl⟩, rfl, fun iterations => ?_⟩
  have remains : ¬ |angle| - pathLength heading (index + 1) ≤ 0 :=
    not_le.mpr (sub_pos.mpr short)
  unfold turnCommand at sent
  rw [turnLoop]
  simp only [got, length, remains, if_false, sent]
  rfl

/-- As long as the path is too short at every reading the loop sends a command at each and goes
on. -/
theorem turnLoop_advance (observes : Observes kPi environment heading) {angle : K} (vel : K)
    (count : Nat) {index : Nat} {lastTheta accumulated : K} {session : Session K}
    (measured : Measured environment heading index lastTheta accumulated session)
    (short : ∀ later, index < later → later ≤ index + count →
      pathLength heading later < |angle|) :
    ∃ currTheta currAccumulated later,
      Measured environment heading (index + count) currTheta currAccumulated later ∧
      later.commands = session.commands ++
        (List.range' (index + 1) count).map (turnCommand heading angle vel) ∧
      ∀ iterations,
        turnLoop kPi environment angle vel (count + iterations) lastTheta accumulated session =
          turnLoop kPi environment angle vel iterations currTheta currAccumulated later := by
  induction count generalizing index lastTheta accumulated session with
  | zero =>
    refine ⟨lastTheta, accumulated, session, measured, ?_, fun iterations => ?_⟩
    · exact (List.append_nil _).symm
    · rw [Nat.zero_add]
  | succ count inductionHypothesis =>
    obtain ⟨nextTheta, next, nextMeasured, nextCommands, nextLoop⟩ :=
      turnLoop_short observes measured vel (short (index + 1) (Nat.lt_succ_self index) (by omega))
    obtain ⟨currTheta, currAccumulated, later, laterMeasured, laterCommands, laterLoop⟩ :=
      inductionHypothesis nextMeasured fun later after within =>
        short later (by omega) (by omega)
    refine ⟨currTheta, currAccumulated, later, ?_, ?_, fun iterations => ?_⟩
    · rw [show index + (count + 1) = index + 1 + count by omega]
      exact laterMeasured
    · rw [laterCommands, nextCommands, List.append_assoc, List.singleton_append,
        List.range'_succ, List.map_cons]
    · rw [show count + 1 + iterations = count + iterations + 1 by omega, nextLoop, laterLoop]

/-- While something remains to be turned, the yaw has the sign opposite to the angle. -/
theorem turnCommand_opposes {angle vel : K} (moving : vel ≠ 0) (turning : angle ≠ 0)
    (heading : Nat → K) (index : Nat) : (turnCommand heading angle vel index).vyaw * angle < 0 := by
  have speed : 0 < turnSpeed vel (|angle| - pathLength heading index) := by
    unfold turnSpeed
    split
    · exact lt_max_of_lt_left (by norm_num)
    · exact abs_pos.mpr moving
  unfold turnCommand directionSign
  split
  · rename_i positive
    have product := mul_pos speed positive
    linarith
  · rename_i notPositive
    have negative : angle < 0 := lt_of_le_of_ne (not_lt.mp notPositive) turning
    have product := mul_neg_of_pos_of_neg speed negative
    linarith

/-- `TurnAround` measures the rotation exactly. Whatever the headings of the robot, as long as they
move by less than half a turn between readings, and whichever values congruent to them are read:
while the path is shorter than the angle at every reading after the first, the loop goes on, and at
the first reading at which it is not, `TurnAround` stops and returns true, having sent one command
for each reading in between. The commands depend on the headings only; none translates, and with a
velocity other than zero the yaw of each has the sign opposite to the angle. -/
theorem turnAround_measures (kPi : HalfTurn K) (environment : Environment K) (heading : Nat → K)
    (observes : Observes kPi environment heading) (angle vel : K) (iterations : Nat) :
    ((∀ reading, 1 ≤ reading → reading ≤ iterations → pathLength heading reading < |angle|) →
      ∃ session, turnAround kPi environment angle vel iterations {} = (.running, session) ∧
        session.readings = iterations + 1 ∧
        session.commands = (List.range' 1 iterations).map (turnCommand heading angle vel)) ∧
    (∀ reading, 1 ≤ reading → reading ≤ iterations → |angle| ≤ pathLength heading reading →
      (∀ earlier, 1 ≤ earlier → earlier < reading → pathLength heading earlier < |angle|) →
      ∃ session, turnAround kPi environment angle vel iterations {} = (.returned true, session) ∧
        session.readings = reading + 1 ∧
        session.commands =
          (List.range' 1 (reading - 1)).map (turnCommand heading angle vel) ++ [⟨0, 0, 0⟩]) ∧
    ∀ index, (turnCommand heading angle vel index).vx = 0 ∧
      (turnCommand heading angle vel index).vy = 0 ∧
      (vel ≠ 0 → angle ≠ 0 → (turnCommand heading angle vel index).vyaw * angle < 0) := by
  obtain ⟨x, y, theta, read, _⟩ := observes.read 0
  have entered : turnAround kPi environment angle vel iterations {} =
      turnLoop kPi environment angle vel iterations theta 0 ⟨1, [], []⟩ := by
    unfold turnAround Session.getPose
    simp only [read]
  have measured : Measured environment heading 0 theta 0 ⟨1, [], []⟩ := ⟨⟨x, y, read⟩, rfl, rfl⟩
  refine ⟨fun short => ?_, fun reading first within reached short => ?_, fun index => ?_⟩
  · obtain ⟨_, _, session, later, commands, loop⟩ :=
      turnLoop_advance observes vel iterations measured fun reading after bound =>
        short reading after (by omega)
    refine ⟨session, ?_, ?_, commands⟩
    · rw [entered]
      exact loop 0
    · rw [later.readings, Nat.zero_add]
  · obtain ⟨_, _, session, later, commands, loop⟩ :=
      turnLoop_advance observes vel (reading - 1) measured fun earlier after bound =>
        short earlier after (by omega)
    obtain ⟨rest, enough⟩ : ∃ rest, iterations = reading - 1 + (rest + 1) :=
      ⟨iterations - reading, by omega⟩
    have reached' : |angle| ≤ pathLength heading (0 + (reading - 1) + 1) := by
      rwa [show 0 + (reading - 1) + 1 = reading by omega]
    obtain ⟨final, returned, readings, stopped⟩ :=
      turnLoop_reached observes later vel reached' rest
    refine ⟨final, ?_, ?_, ?_⟩
    · rw [entered, enough, loop, returned]
    · rw [readings]
      omega
    · rw [stopped, commands]
      rfl
  · exact ⟨rfl, rfl, fun moving turning => turnCommand_opposes moving turning heading index⟩

end Measure

end Methods

/-- A half turn close to the constant of the source. -/
def approximatePi : HalfTurn ℚ := ⟨314159265 / 100000000, by norm_num⟩

/-- A robot that turns by one radian between readings, read across the seam from the fourth reading
on. -/
def crossing : Environment ℚ where
  getPose index :=
    some (0, 0, if index < 4 then (index : ℚ) else (index : ℚ) - 2 * approximatePi.val)
  moveCommand _ := some 0

theorem crossing_observes : Observes approximatePi crossing (fun index => (index : ℚ)) where
  read := fun index => by
    refine ⟨0, 0, _, rfl, ?_⟩
    split
    · exact AddCommGroup.modEq_rfl
    · exact sub_turn_modEq approximatePi (index : ℚ)
  sent := fun _ => rfl
  small := fun index => by
    rw [Nat.cast_succ, add_sub_cancel_left, abs_one]
    norm_num [approximatePi]

theorem crossing_pathLength (index : Nat) :
    pathLength (fun reading => (reading : ℚ)) index = index := by
  induction index with
  | zero => rfl
  | succ index inductionHypothesis =>
    rw [pathLength_succ, inductionHypothesis, Nat.cast_succ, add_sub_cancel_left, abs_one]

theorem turnAround_measures_crossing :
    ∃ session, turnAround approximatePi crossing 7 1 10 {} = (.returned true, session) ∧
      session.readings = 8 ∧
      session.commands =
        (List.range' 1 6).map (turnCommand (fun index => (index : ℚ)) 7 1) ++ [⟨0, 0, 0⟩] := by
  refine (turnAround_measures approximatePi crossing (fun index => (index : ℚ)) crossing_observes
    7 1 10).2.1 7 (by decide) (by decide) ?_ ?_
  · rw [crossing_pathLength]
    norm_num
  · intro earlier _ before
    rw [crossing_pathLength, abs_of_pos (by norm_num)]
    exact_mod_cast before

end Booster.Robot.B1.MoveController
