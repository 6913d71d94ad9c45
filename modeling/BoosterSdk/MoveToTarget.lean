/-
This file models `MoveToTarget` and `MoveToRelative`, and proves that the commands of
`MoveToTarget` are bounded and aimed at the target.

The functions of the mathematics library enter through what is used of them: the
squares of a cosine and a sine add up to one, and the hypotenuse is the root that is
not negative. A loop reads a pose and either leaves or issues a command and goes on;
the time that has elapsed at each reading is arbitrary. A division by zero would be a
fault, and a run without one is part of what is proved.
-/

import BoosterSdk.Library.CheckedVector
import BoosterSdk.MoveController
import Mathlib.Analysis.Complex.Trigonometric
import Mathlib.Analysis.SpecialFunctions.Complex.Arg

namespace Booster.Robot.B1.MoveController

open CheckedVector

section Methods

variable {K : Type}

/-! ### The mathematics library -/

/-- `std::cos`, `std::sin`, `std::hypot` and `std::atan2`, with what is used of them. -/
structure Trigonometry (K : Type) [Field K] [LinearOrder K] where
  cos : K → K
  sin : K → K
  hypot : K → K → K
  atan2 : K → K → K
  cos_sq_add_sin_sq : ∀ angle, cos angle ^ 2 + sin angle ^ 2 = 1
  hypot_nonneg : ∀ x y, 0 ≤ hypot x y
  hypot_sq : ∀ x y, hypot x y ^ 2 = x ^ 2 + y ^ 2

/-- `std::clamp`. -/
def clamp [LinearOrder K] (value low high : K) : K :=
  if value < low then low else if high < value then high else value

/-! ### Loops -/

/-- How a loop leaves off. -/
inductive Ending where
  | running
  | left
  | threw
  deriving DecidableEq

/-- A loop that reads a pose and either leaves or issues a command and goes on. Its body is given
the number of the reading as well. -/
def Session.follow (environment : Environment K)
    (body : Nat → K × K × K → Except Fault (Option (Command K))) :
    Nat → Session K → Except Fault (Ending × Session K)
  | 0, session => pure (.running, session)
  | iterations + 1, session => do
    let reading := session.readings
    match session.getPose environment with
    | (none, session) => pure (.threw, session)
    | (some pose, session) =>
      match ← body reading pose with
      | none => pure (.left, session)
      | some command =>
        match session.safeMove environment command with
        | (none, session) => pure (.threw, session)
        | (some _, session) => session.follow environment body iterations

/-! ### MoveToTarget -/

variable [Field K] [LinearOrder K]

def kDistanceTolerance : K := 0.2

variable [IsStrictOrderedRing K] [FloorRing K]

/-- `heading_error`. -/
def headingError (math : Trigonometry K) (kPi : HalfTurn K) (x y : K) : K × K × K → K
  | (curX, curY, curTheta) =>
    let targetHeading := math.atan2 (y - curY) (x - curX)
    normalizeAngle kPi (targetHeading - curTheta)

/-- The body of the loop that turns toward the target. -/
def rotationBody (math : Trigonometry K) (kPi : HalfTurn K) (x y elapsed : K) :
    K × K × K → Except Fault (Option (Command K))
  | (curX, curY, curTheta) =>
    let dist := math.hypot (x - curX) (y - curY)
    if dist < 0.6 ∨ elapsed > 5.0 then pure none
    else
      let error := headingError math kPi x y (curX, curY, curTheta)
      if |error| < 0.2 then pure none
      else
        let vyaw := clamp (1.2 * error) (-1) 1
        pure (some ⟨0, 0, vyaw⟩)

/-- The body of the loop that moves toward the target. -/
def translationBody (math : Trigonometry K) (kPi : HalfTurn K) (x y vel holdTheta : K) :
    K × K × K → Except Fault (Option (Command K))
  | (curX, curY, curTheta) => do
    let dx := x - curX
    let dy := y - curY
    let dist := math.hypot dx dy
    if dist < kDistanceTolerance then pure none
    else
      let cosTheta := math.cos curTheta
      let sinTheta := math.sin curTheta
      let vx := dx * cosTheta + dy * sinTheta
      let vy := -dx * sinTheta + dy * cosTheta
      let localLimit :=
        if dist < 0.2 then
          let localLimit := max 0.1 dist
          if dist < 0.1 then max 0.05 localLimit else localLimit
        else vel
      let currentSpeed := math.hypot vx vy
      let (vx, vy) ←
        if currentSpeed > localLimit ∧ currentSpeed > 1e-6 then do
          let scale ← quotient localLimit currentSpeed
          pure (vx * scale, vy * scale)
        else pure (vx, vy)
      let vyaw := clamp (normalizeAngle kPi (holdTheta - curTheta)) (-0.5) 0.5
      pure (some ⟨vx, vy, vyaw⟩)

/-- `MoveToTarget`, its loops run for numbers of iterations; `elapsed` is the time since
`rotation_start` at each reading. -/
def moveToTarget (math : Trigonometry K) (kPi : HalfTurn K) (environment : Environment K)
    (elapsed : Nat → K) (x y vel : K) (rotations translations : Nat) (session : Session K) :
    Except Fault (Outcome × Session K) := do
  match ← session.follow environment
      (fun reading => rotationBody math kPi x y (elapsed reading)) rotations with
  | (.running, session) => pure (.running, session)
  | (.threw, session) => pure (session.caught environment)
  | (.left, session) =>
    match session.safeMove environment ⟨0, 0, 0⟩ with
    | (none, session) => pure (session.caught environment)
    | (some _, session) =>
      match session.getPose environment with
      | (none, session) => pure (session.caught environment)
      | (some (_, _, holdTheta), session) =>
        match ← session.follow environment
            (fun _ => translationBody math kPi x y vel holdTheta) translations with
        | (.running, session) => pure (.running, session)
        | (.threw, session) => pure (session.caught environment)
        | (.left, session) =>
          match session.stop environment with
          | (some _, session) => pure (.returned true, session)
          | (none, session) => pure (session.caught environment)

/-- `MoveToRelative`. -/
def moveToRelative (math : Trigonometry K) (kPi : HalfTurn K) (environment : Environment K)
    (elapsed : Nat → K) (dx dy vel : K) (rotations translations : Nat) (session : Session K) :
    Except Fault (Outcome × Session K) :=
  match session.getPose environment with
  | (none, session) => pure (.threw, session)
  | (some (curX, curY, _), session) =>
    moveToTarget math kPi environment elapsed (curX + dx) (curY + dy) vel rotations translations
      session

/-! ### What a loop issues -/

/-- The commands issued from a reading on, one for each, are of a kind that depends on the pose
read. -/
def IssuedFrom (environment : Environment K) (Issues : K × K × K → Command K → Prop)
    (reading : Nat) (issued : List (Command K)) : Prop :=
  ∀ index command, issued[index]? = some command → ∃ pose,
    environment.getPose (reading + index) = some pose ∧ Issues pose command

section Loop

omit [Field K] [LinearOrder K] [IsStrictOrderedRing K] [FloorRing K]

variable {environment : Environment K} {Issues : K × K × K → Command K → Prop} {reading : Nat}

theorem issuedFrom_nil : IssuedFrom environment Issues reading [] := by
  intro index command found
  rw [List.getElem?_nil] at found
  cases found

theorem IssuedFrom.cons {pose : K × K × K} {command : Command K} {issued : List (Command K)}
    (read : environment.getPose reading = some pose) (issues : Issues pose command)
    (rest : IssuedFrom environment Issues (reading + 1) issued) :
    IssuedFrom environment Issues reading (command :: issued) := by
  intro index other found
  cases index with
  | zero =>
    cases found
    exact ⟨pose, read, issues⟩
  | succ index =>
    rw [Nat.add_comm index 1, ← Nat.add_assoc]
    exact rest index other found

theorem IssuedFrom.of_mem {issued : List (Command K)}
    (aimed : IssuedFrom environment Issues reading issued) {command : Command K}
    (member : command ∈ issued) : ∃ pose, Issues pose command := by
  obtain ⟨index, found⟩ := List.mem_iff_getElem?.mp member
  obtain ⟨pose, _, issues⟩ := aimed index command found
  exact ⟨pose, issues⟩

/-- A loop whose body does not fault, issues commands of one kind, and leaves at poses of
another. -/
theorem Session.follow_spec (environment : Environment K)
    {body : Nat → K × K × K → Except Fault (Option (Command K))}
    {Leaves : K × K × K → Prop}
    (sound : ∀ reading pose, (body reading pose = .ok none ∧ Leaves pose) ∨
      ∃ command, body reading pose = .ok (some command) ∧ Issues pose command)
    (iterations : Nat) (session : Session K) :
    ∃ ending issued later,
      session.follow environment body iterations = .ok (ending, later) ∧
      later.commands = session.commands ++ issued ∧
      IssuedFrom environment Issues session.readings issued ∧
      (ending = .left → later.readings = session.readings + issued.length + 1 ∧
        ∃ pose, environment.getPose (session.readings + issued.length) = some pose ∧
          Leaves pose) := by
  induction iterations generalizing session with
  | zero =>
    exact ⟨.running, [], session, rfl, (List.append_nil _).symm, issuedFrom_nil, by rintro ⟨⟩⟩
  | succ iterations inductionHypothesis =>
    unfold Session.follow Session.getPose
    cases read : environment.getPose session.readings with
    | none => exact ⟨.threw, [], _, rfl, (List.append_nil _).symm, issuedFrom_nil, by rintro ⟨⟩⟩
    | some pose =>
      rcases sound session.readings pose with ⟨left, leaves⟩ | ⟨command, continued, issues⟩
      · simp only [left]
        exact ⟨.left, [], _, rfl, (List.append_nil _).symm, issuedFrom_nil,
          fun _ => ⟨rfl, pose, read, leaves⟩⟩
      · obtain ⟨errors, sent⟩ := Session.safeMove_eq environment command
          { session with readings := session.readings + 1 }
        simp only [continued, ok_bind, sent]
        cases answer : environment.moveCommand session.commands.length with
        | none =>
          exact ⟨.threw, [command], _, rfl, rfl, issuedFrom_nil.cons read issues, by rintro ⟨⟩⟩
        | some ret =>
          obtain ⟨ending, issued, later, followed, commands, aimed, leaves⟩ :=
            inductionHypothesis ⟨session.readings + 1, session.commands ++ [command], errors⟩
          have count : session.readings + 1 + issued.length =
              session.readings + (command :: issued).length := by
            rw [List.length_cons]
            omega
          rw [count] at leaves
          refine ⟨ending, command :: issued, later, followed, ?_, aimed.cons read issues, leaves⟩
          rw [commands, List.append_assoc, List.singleton_append]

end Loop

/-! ### Clamps -/

omit [FloorRing K] in
theorem abs_clamp_le (value : K) {bound : K} (nonneg : 0 ≤ bound) :
    |clamp value (-bound) bound| ≤ bound := by
  unfold clamp
  split
  · rw [abs_neg, abs_of_nonneg nonneg]
  · rename_i above
    split
    · rw [abs_of_nonneg nonneg]
    · rename_i below
      exact abs_le.mpr ⟨not_lt.mp above, not_lt.mp below⟩

omit [FloorRing K] in
/-- A clamp around zero keeps the sign of a positive multiple. -/
theorem sign_clamp_mul {factor bound : K} (gain : 0 < factor) (positive : 0 < bound) (value : K) :
    SignType.sign (clamp (factor * value) (-bound) bound) = SignType.sign value := by
  have same : SignType.sign (factor * value) = SignType.sign value := by
    rw [sign_mul, sign_pos gain, one_mul]
  unfold clamp
  split
  · rename_i low
    rw [sign_neg (neg_lt_zero.mpr positive), ← same, sign_neg (by linarith)]
  · split
    · rename_i high
      rw [sign_pos positive, ← same, sign_pos (by linarith)]
    · exact same

/-! ### Turning toward the target -/

/-- A command of the rotation loop: it does not translate, and turns at up to one radian per second
in the direction of the heading error. -/
structure Turns (math : Trigonometry K) (kPi : HalfTurn K) (x y : K) (pose : K × K × K)
    (command : Command K) : Prop where
  vx : command.vx = 0
  vy : command.vy = 0
  bound : |command.vyaw| ≤ 1
  sign : SignType.sign command.vyaw = SignType.sign (headingError math kPi x y pose)

theorem rotationBody_spec (math : Trigonometry K) (kPi : HalfTurn K) (x y elapsed : K)
    (pose : K × K × K) :
    (rotationBody math kPi x y elapsed pose = .ok none ∧ True) ∨
      ∃ command, rotationBody math kPi x y elapsed pose = .ok (some command) ∧
        Turns math kPi x y pose command := by
  unfold rotationBody
  dsimp only
  split
  · exact .inl ⟨rfl, trivial⟩
  · split
    · exact .inl ⟨rfl, trivial⟩
    · exact .inr ⟨_, rfl, rfl, rfl, abs_clamp_le _ zero_le_one,
        sign_clamp_mul (by norm_num) one_pos _⟩

/-! ### Moving toward the target -/

/-- A command of the translation loop: its speed is at most the one asked for, its yaw is at most
half a radian per second, and seen from the odometry frame it points at the target. -/
structure Approaches (math : Trigonometry K) (x y vel : K) (pose : K × K × K)
    (command : Command K) : Prop where
  speed : command.vx ^ 2 + command.vy ^ 2 ≤ vel ^ 2
  yaw : |command.vyaw| ≤ 0.5
  aimed : ∃ factor, 0 < factor ∧
    command.vx * math.cos pose.2.2 - command.vy * math.sin pose.2.2 = factor * (x - pose.1) ∧
    command.vx * math.sin pose.2.2 + command.vy * math.cos pose.2.2 = factor * (y - pose.2.1)

omit [IsStrictOrderedRing K] [FloorRing K] in
/-- Seeing a vector from the body frame keeps its length. -/
theorem Trigonometry.body_sq (math : Trigonometry K) (dx dy theta : K) :
    (dx * math.cos theta + dy * math.sin theta) ^ 2 +
      (-dx * math.sin theta + dy * math.cos theta) ^ 2 = dx ^ 2 + dy ^ 2 := by
  calc (dx * math.cos theta + dy * math.sin theta) ^ 2 +
      (-dx * math.sin theta + dy * math.cos theta) ^ 2
    _ = (dx ^ 2 + dy ^ 2) * (math.cos theta ^ 2 + math.sin theta ^ 2) := by ring
    _ = dx ^ 2 + dy ^ 2 := by rw [math.cos_sq_add_sin_sq, mul_one]

omit [FloorRing K] in
theorem Trigonometry.hypot_body (math : Trigonometry K) (dx dy theta : K) :
    math.hypot (dx * math.cos theta + dy * math.sin theta)
      (-dx * math.sin theta + dy * math.cos theta) = math.hypot dx dy := by
  refine (sq_eq_sq₀ (math.hypot_nonneg _ _) (math.hypot_nonneg _ _)).mp ?_
  rw [math.hypot_sq, math.hypot_sq, math.body_sq]

omit [IsStrictOrderedRing K] [FloorRing K] in
/-- A multiple of a vector seen from the body frame is the same multiple seen from the odometry
frame. -/
theorem Trigonometry.body_back (math : Trigonometry K) (dx dy theta factor : K) :
    (dx * math.cos theta + dy * math.sin theta) * factor * math.cos theta -
        (-dx * math.sin theta + dy * math.cos theta) * factor * math.sin theta = factor * dx ∧
    (dx * math.cos theta + dy * math.sin theta) * factor * math.sin theta +
        (-dx * math.sin theta + dy * math.cos theta) * factor * math.cos theta = factor * dy := by
  have unit := math.cos_sq_add_sin_sq theta
  constructor
  · linear_combination factor * dx * unit
  · linear_combination factor * dy * unit

/-- The body of the translation loop leaves near the target and approaches it elsewhere. It does not
divide by zero: what it divides by is the distance to the target. -/
theorem translationBody_spec (math : Trigonometry K) (kPi : HalfTurn K) (x y vel holdTheta : K)
    (pose : K × K × K) :
    (translationBody math kPi x y vel holdTheta pose = .ok none ∧
      math.hypot (x - pose.1) (y - pose.2.1) < 0.2) ∨
    ∃ command, translationBody math kPi x y vel holdTheta pose = .ok (some command) ∧
      (0 < vel → Approaches math x y vel pose command) := by
  obtain ⟨curX, curY, curTheta⟩ := pose
  unfold translationBody kDistanceTolerance
  dsimp only
  split
  · rename_i near
    exact .inl ⟨rfl, near⟩
  · rename_i far
    refine .inr ?_
    have distance : 0.2 ≤ math.hypot (x - curX) (y - curY) := not_lt.mp far
    have square : ((x - curX) * math.cos curTheta + (y - curY) * math.sin curTheta) ^ 2 +
        (-(x - curX) * math.sin curTheta + (y - curY) * math.cos curTheta) ^ 2 =
          math.hypot (x - curX) (y - curY) ^ 2 := by rw [math.hypot_sq, math.body_sq]
    have yaw : |clamp (normalizeAngle kPi (holdTheta - curTheta)) (-0.5) 0.5| ≤ 0.5 :=
      abs_clamp_le _ (by norm_num)
    rw [math.hypot_body]
    split
    · rename_i fast
      have moving : 0 < math.hypot (x - curX) (y - curY) := by linarith
      rw [quotient_of_ne vel moving.ne']
      refine ⟨_, rfl, fun positive => ⟨le_of_eq ?_, yaw, vel / math.hypot (x - curX) (y - curY),
        div_pos positive moving, math.body_back _ _ _ _⟩⟩
      rw [mul_pow, mul_pow, ← add_mul, square, ← mul_pow, mul_div_cancel₀ vel moving.ne']
    · rename_i slow
      have within : math.hypot (x - curX) (y - curY) ≤ vel := by
        by_contra above
        exact slow ⟨not_le.mp above, by linarith⟩
      have aimed := math.body_back (x - curX) (y - curY) curTheta 1
      rw [mul_one, mul_one] at aimed
      refine ⟨_, rfl, fun _ => ⟨?_, yaw, 1, one_pos, aimed⟩⟩
      rw [square]
      exact pow_le_pow_left₀ (math.hypot_nonneg _ _) within 2

/-! ### A whole run -/

/-- A run issues the commands of its first loop, pauses, issues those of its second, and stops. -/
def Traced (math : Trigonometry K) (kPi : HalfTurn K) (environment : Environment K) (x y vel : K)
    (session later : Session K) : Prop :=
  ∃ rotation pause translation stops : List (Command K),
    later.commands = session.commands ++ (rotation ++ pause ++ translation ++ stops) ∧
    IssuedFrom environment (Turns math kPi x y) session.readings rotation ∧
    IssuedFrom environment (fun pose command => 0 < vel → Approaches math x y vel pose command)
      (session.readings + rotation.length + 2) translation ∧
    ∀ command ∈ pause ++ stops, command = ⟨0, 0, 0⟩

/-- A method that returns a value has issued a stop last. -/
def StopsLast (session : Session K) (outcome : Outcome) (later : Session K) : Prop :=
  ∀ value, outcome = .returned value →
    ∃ earlier, later.commands = session.commands ++ earlier ++ [⟨0, 0, 0⟩]

/-- What a run of `MoveToTarget` comes to: it stops last when it returns, and it reports success
from near the target. -/
structure MovesTo (math : Trigonometry K) (kPi : HalfTurn K) (environment : Environment K)
    (x y vel : K) (session : Session K) (outcome : Outcome) (later : Session K) : Prop where
  traced : Traced math kPi environment x y vel session later
  stopped : StopsLast session outcome later
  arrived : outcome = .returned true → ∃ pose,
    environment.getPose (later.readings - 1) = some pose ∧
      math.hypot (x - pose.1) (y - pose.2.1) < 0.2

section Run

variable {math : Trigonometry K} {kPi : HalfTurn K} {environment : Environment K} {x y vel : K}
  {session later : Session K}

/-- One more stop. -/
theorem Traced.stop (traced : Traced math kPi environment x y vel session later)
    (errors : List String) : Traced math kPi environment x y vel session
      { later with commands := later.commands ++ [⟨0, 0, 0⟩], errors := errors } := by
  obtain ⟨rotation, pause, translation, stops, commands, turns, moves, zero⟩ := traced
  refine ⟨rotation, pause, translation, stops ++ [⟨0, 0, 0⟩], ?_, turns, moves,
    fun command member => ?_⟩
  · rw [commands]
    simp only [List.append_assoc]
  · rw [← List.append_assoc] at member
    rcases List.mem_append.mp member with old | new
    · exact zero command old
    · exact List.mem_singleton.mp new

theorem Traced.extends (traced : Traced math kPi environment x y vel session later) :
    ∃ issued, later.commands = session.commands ++ issued := by
  obtain ⟨_, _, _, _, commands, _⟩ := traced
  exact ⟨_, commands⟩

theorem Traced.running (traced : Traced math kPi environment x y vel session later) :
    MovesTo math kPi environment x y vel session .running later :=
  ⟨traced, by rintro _ ⟨⟩, by rintro ⟨⟩⟩

/-- A run that ends in the handler. -/
theorem Traced.caught (traced : Traced math kPi environment x y vel session later) :
    MovesTo math kPi environment x y vel session (later.caught environment).1
      (later.caught environment).2 := by
  obtain ⟨outcome, errors, handled, _, failed⟩ := later.caught_eq environment
  obtain ⟨issued, commands⟩ := traced.extends
  rw [handled]
  refine ⟨traced.stop errors, fun _ _ => ⟨issued, ?_⟩, fun success => absurd success failed⟩
  rw [commands]

/-- A run whose second loop has left. -/
theorem Traced.arrived (traced : Traced math kPi environment x y vel session later)
    {pose : K × K × K} (read : environment.getPose (later.readings - 1) = some pose)
    (near : math.hypot (x - pose.1) (y - pose.2.1) < 0.2) (errors : List String) :
    MovesTo math kPi environment x y vel session (.returned true)
      { later with commands := later.commands ++ [⟨0, 0, 0⟩], errors := errors } := by
  obtain ⟨issued, commands⟩ := traced.extends
  refine ⟨traced.stop errors, fun _ _ => ⟨issued, ?_⟩, fun _ => ⟨pose, read, near⟩⟩
  rw [commands]

end Run

theorem moveToTarget_spec (math : Trigonometry K) (kPi : HalfTurn K) (environment : Environment K)
    (elapsed : Nat → K) (x y vel : K) (rotations translations : Nat) (session : Session K) :
    ∃ outcome later,
      moveToTarget math kPi environment elapsed x y vel rotations translations session =
        .ok (outcome, later) ∧
      MovesTo math kPi environment x y vel session outcome later := by
  obtain ⟨ending, rotation, turned, turning, turnCommands, turns, turnLeft⟩ :=
    Session.follow_spec environment
      (fun reading pose => rotationBody_spec math kPi x y (elapsed reading) pose)
      rotations session
  have turnTraced : Traced math kPi environment x y vel session turned := by
    refine ⟨rotation, [], [], [], ?_, turns, issuedFrom_nil, by rintro _ ⟨⟩⟩
    rw [turnCommands, List.append_nil, List.append_nil, List.append_nil]
  unfold moveToTarget
  rw [turning, ok_bind]
  cases ending with
  | running => exact ⟨_, _, rfl, turnTraced.running⟩
  | threw => exact ⟨_, _, rfl, turnTraced.caught⟩
  | left =>
    obtain ⟨errors, paused⟩ := turned.safeMove_eq environment ⟨0, 0, 0⟩
    have pauseTraced := turnTraced.stop errors
    dsimp only
    rw [paused]
    cases environment.moveCommand turned.commands.length with
    | none => exact ⟨_, _, rfl, pauseTraced.caught⟩
    | some ret =>
      obtain ⟨readings, _⟩ := turnLeft rfl
      dsimp only [Option.map, Session.getPose]
      cases environment.getPose turned.readings with
      | none =>
        have unread : Traced math kPi environment x y vel session
            ⟨turned.readings + 1, turned.commands ++ [⟨0, 0, 0⟩], errors⟩ := pauseTraced
        exact ⟨_, _, rfl, unread.caught⟩
      | some hold =>
        obtain ⟨_, _, holdTheta⟩ := hold
        obtain ⟨ending, translation, moved, moving, moveCommands, moves, moveLeft⟩ :=
          Session.follow_spec environment
            (fun _ pose => translationBody_spec math kPi x y vel holdTheta pose) translations
            ⟨turned.readings + 1, turned.commands ++ [⟨0, 0, 0⟩], errors⟩
        have moveTraced : Traced math kPi environment x y vel session moved := by
          refine ⟨rotation, [⟨0, 0, 0⟩], translation, [], ?_, turns, ?_, ?_⟩
          · rw [moveCommands, turnCommands]
            simp only [List.append_assoc, List.append_nil]
          · rw [readings] at moves
            exact moves
          · intro command member
            exact List.mem_singleton.mp member
        dsimp only
        rw [moving, ok_bind]
        cases ending with
        | running => exact ⟨_, _, rfl, moveTraced.running⟩
        | threw => exact ⟨_, _, rfl, moveTraced.caught⟩
        | left =>
          obtain ⟨count, pose, read, near⟩ := moveLeft rfl
          obtain ⟨errors, stopped⟩ := moved.safeMove_eq environment ⟨0, 0, 0⟩
          have last : moved.readings - 1 = turned.readings + 1 + translation.length := by
            rw [count]
            rfl
          rw [← last] at read
          dsimp only [Session.stop]
          rw [stopped]
          cases environment.moveCommand moved.commands.length with
          | none => exact ⟨_, _, rfl, (moveTraced.stop errors).caught⟩
          | some ret => exact ⟨_, _, rfl, moveTraced.arrived read near errors⟩

/-- `MoveToTarget` only issues bounded commands aimed at the target. Whatever poses are read,
however much time goes by and whichever calls throw, its first loop only turns and its second only
approaches, each command by the pose read just before it; a run of the method does nothing else but
pause between the loops and stop at the end, never divides by zero, and reports success only when
the last pose read is near the target. -/
theorem moveToTarget_bounded (math : Trigonometry K) (kPi : HalfTurn K)
    (environment : Environment K) (elapsed : Nat → K) (x y : K) {vel : K} (positive : 0 < vel) :
    (∀ rotations session, ∃ ending issued later,
      Session.follow environment (fun reading => rotationBody math kPi x y (elapsed reading))
        rotations session = .ok (ending, later) ∧
      later.commands = session.commands ++ issued ∧
      IssuedFrom environment (Turns math kPi x y) session.readings issued) ∧
    (∀ holdTheta translations session, ∃ ending issued later,
      Session.follow environment (fun _ => translationBody math kPi x y vel holdTheta)
        translations session = .ok (ending, later) ∧
      later.commands = session.commands ++ issued ∧
      IssuedFrom environment (Approaches math x y vel) session.readings issued) ∧
    ∀ rotations translations session, ∃ outcome later rotation pause translation stops,
      moveToTarget math kPi environment elapsed x y vel rotations translations session =
        .ok (outcome, later) ∧
      later.commands = session.commands ++ (rotation ++ pause ++ translation ++ stops) ∧
      IssuedFrom environment (Turns math kPi x y) session.readings rotation ∧
      IssuedFrom environment (Approaches math x y vel)
        (session.readings + rotation.length + 2) translation ∧
      (∀ command ∈ pause ++ stops, command = ⟨0, 0, 0⟩) ∧
      (outcome = .returned true → ∃ curX curY curTheta,
        environment.getPose (later.readings - 1) = some (curX, curY, curTheta) ∧
          math.hypot (x - curX) (y - curY) < 0.2) := by
  have fast {reading : Nat} {issued : List (Command K)}
      (moves : IssuedFrom environment
        (fun pose command => 0 < vel → Approaches math x y vel pose command) reading issued) :
      IssuedFrom environment (Approaches math x y vel) reading issued := by
    intro index command found
    obtain ⟨pose, read, approaches⟩ := moves index command found
    exact ⟨pose, read, approaches positive⟩
  refine ⟨fun rotations session => ?_, fun holdTheta translations session => ?_,
    fun rotations translations session => ?_⟩
  · obtain ⟨ending, issued, later, followed, commands, turns, _⟩ :=
      Session.follow_spec environment
        (fun reading pose => rotationBody_spec math kPi x y (elapsed reading) pose)
        rotations session
    exact ⟨ending, issued, later, followed, commands, turns⟩
  · obtain ⟨ending, issued, later, followed, commands, moves, _⟩ :=
      Session.follow_spec environment
        (fun _ pose => translationBody_spec math kPi x y vel holdTheta pose) translations session
    exact ⟨ending, issued, later, followed, commands, fast moves⟩
  · obtain ⟨outcome, later, run, moves⟩ := moveToTarget_spec math kPi environment elapsed x y vel
      rotations translations session
    obtain ⟨rotation, pause, translation, stops, commands, turns, approaches, zero⟩ := moves.traced
    exact ⟨outcome, later, rotation, pause, translation, stops, run, commands, turns,
      fast approaches, zero, fun success => by
        obtain ⟨⟨curX, curY, curTheta⟩, read, near⟩ := moves.arrived success
        exact ⟨curX, curY, curTheta, read, near⟩⟩

end Methods

/-! ### A robot on the plane -/

/-- The functions of the mathematics library on real numbers. -/
noncomputable def realTrigonometry : Trigonometry ℝ where
  cos := Real.cos
  sin := Real.sin
  hypot x y := √(x ^ 2 + y ^ 2)
  atan2 y x := Complex.arg ⟨x, y⟩
  cos_sq_add_sin_sq angle := Real.cos_sq_add_sin_sq angle
  hypot_nonneg _ _ := Real.sqrt_nonneg _
  hypot_sq x y := Real.sq_sqrt (add_nonneg (sq_nonneg x) (sq_nonneg y))

/-- A robot that is told to go one metre ahead at half a metre per second and does not move is never
told to go faster, and is not taken to have arrived. -/
theorem moveToTarget_bounded_stuck : ∃ outcome later,
    moveToTarget realTrigonometry ⟨Real.pi, Real.pi_pos⟩
        ⟨fun _ => some (0, 0, 0), fun _ => some 0⟩ (fun _ => 0) 1 0 (1 / 2) 3 4 {} =
      .ok (outcome, later) ∧
      outcome ≠ .returned true ∧
      ∀ command ∈ later.commands, command.vx ^ 2 + command.vy ^ 2 ≤ (1 / 2) ^ 2 := by
  obtain ⟨outcome, later, rotation, pause, translation, stops, run, commands, turns, approaches,
    zero, arrived⟩ := (moveToTarget_bounded realTrigonometry ⟨Real.pi, Real.pi_pos⟩
      ⟨fun _ => some (0, 0, 0), fun _ => some 0⟩ (fun _ => 0) 1 0
      (show (0 : ℝ) < 1 / 2 by norm_num)).2.2 3 4 {}
  refine ⟨outcome, later, run, fun success => ?_, fun command member => ?_⟩
  · obtain ⟨curX, curY, curTheta, read, near⟩ := arrived success
    cases read
    norm_num [realTrigonometry] at near
  · have still : (0 : ℝ) ^ 2 + 0 ^ 2 ≤ (1 / 2) ^ 2 := by norm_num
    rw [commands] at member
    simp only [List.nil_append, List.mem_append] at member
    rcases member with ((turning | paused) | moving) | stopped
    · obtain ⟨_, turn⟩ := turns.of_mem turning
      rwa [turn.vx, turn.vy]
    · rwa [zero command (List.mem_append_left _ paused)]
    · obtain ⟨_, approach⟩ := approaches.of_mem moving
      exact approach.speed
    · rwa [zero command (List.mem_append_right _ stopped)]

end Booster.Robot.B1.MoveController
