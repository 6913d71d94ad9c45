/-
This file proves that every movement method ends with a stop, and so does `Close`.

Any reading and any command may throw, at any iteration. A method that returns has
issued a stop last, on the way to success or in its handler; one that throws may not
have, but a `Close` that returns stops whatever the calls before it have left behind,
and no `Close` after it issues anything.
-/

import BoosterSdk.MoveToTarget

namespace Booster.Robot.B1.MoveController

open CheckedVector

section Methods

variable {K : Type} [Field K] [LinearOrder K]

/-! ### The controller -/

/-- What the methods of the controller change: what it has done, how often it has closed the channel
of the tracker, and `is_closed_`. -/
structure Controller (K : Type) where
  session : Session K := {}
  closings : Nat := 0
  isClosed : Bool := false

/-- `Close`; `closeChannel` says which calls of `tracker_.CloseChannel()` return. -/
def Controller.close (environment : Environment K) (closeChannel : Nat → Bool)
    (controller : Controller K) : Option Unit × Controller K :=
  if controller.isClosed then (some (), controller)
  else
    match controller.session.stop environment with
    | (none, session) => (none, { controller with session := session })
    | (some _, session) =>
      let closings := controller.closings + 1
      if closeChannel controller.closings then (some (), ⟨session, closings, true⟩)
      else (none, ⟨session, closings, false⟩)

/-- A call of a movement method, with the time that elapses in it. -/
inductive Movement (K : Type) where
  | moveToTarget (elapsed : Nat → K) (x y vel : K) (rotations translations : Nat)
  | moveToRelative (elapsed : Nat → K) (dx dy vel : K) (rotations translations : Nat)
  | turnAround (angle vel : K) (iterations : Nat)

variable [IsStrictOrderedRing K] [FloorRing K]

def Movement.run (math : Trigonometry K) (kPi : HalfTurn K) (environment : Environment K) :
    Movement K → Session K → Except Fault (Outcome × Session K)
  | .moveToTarget elapsed x y vel rotations translations, session =>
    B1.MoveController.moveToTarget math kPi environment elapsed x y vel rotations translations
      session
  | .moveToRelative elapsed dx dy vel rotations translations, session =>
    B1.MoveController.moveToRelative math kPi environment elapsed dx dy vel rotations translations
      session
  | .turnAround angle vel iterations, session =>
    pure (B1.MoveController.turnAround kPi environment angle vel iterations session)

/-- A movement method called on the controller. -/
def Controller.move (math : Trigonometry K) (kPi : HalfTurn K) (environment : Environment K)
    (controller : Controller K) (movement : Movement K) : Except Fault (Controller K) := do
  let (_, session) ← movement.run math kPi environment controller.session
  pure { controller with session := session }

/-- A call of the controller after it has been closed. -/
inductive Call (K : Type) where
  | move (movement : Movement K)
  | stop
  | close

/-- A call, whether it returns or throws. -/
def Controller.call (math : Trigonometry K) (kPi : HalfTurn K) (environment : Environment K)
    (closeChannel : Nat → Bool) (controller : Controller K) :
    Call K → Except Fault (Controller K)
  | .move movement => controller.move math kPi environment movement
  | .stop => pure { controller with session := (controller.session.stop environment).2 }
  | .close => pure (controller.close environment closeChannel).2

/-! ### Every method stops last -/

section Stops

variable {math : Trigonometry K} {kPi : HalfTurn K} {environment : Environment K}

omit [LinearOrder K] [IsStrictOrderedRing K] [FloorRing K] in
/-- What a method does after some commands. -/
theorem StopsLast.after {session middle later : Session K} {outcome : Outcome}
    (stops : StopsLast middle outcome later)
    (continued : ∃ issued, middle.commands = session.commands ++ issued) :
    StopsLast session outcome later := by
  intro value returned
  obtain ⟨earlier, commands⟩ := stops value returned
  obtain ⟨issued, before⟩ := continued
  refine ⟨issued ++ earlier, ?_⟩
  rw [commands, before]
  simp only [List.append_assoc]

omit [LinearOrder K] [IsStrictOrderedRing K] [FloorRing K] in
theorem caught_stopsLast (environment : Environment K) (session : Session K) :
    StopsLast session (session.caught environment).1 (session.caught environment).2 := by
  obtain ⟨outcome, errors, handled, _⟩ := session.caught_eq environment
  intro value _
  rw [handled]
  exact ⟨[], by rw [List.append_nil]⟩

/-- The loop of `TurnAround` stops last, wherever it ends. -/
theorem turnLoop_stopsLast (angle vel : K) (iterations : Nat) (lastTheta accumulated : K)
    (session : Session K) :
    StopsLast session
      (turnLoop kPi environment angle vel iterations lastTheta accumulated session).1
      (turnLoop kPi environment angle vel iterations lastTheta accumulated session).2 := by
  induction iterations generalizing lastTheta accumulated session with
  | zero => rintro _ ⟨⟩
  | succ iterations inductionHypothesis =>
    unfold turnLoop Session.getPose
    cases environment.getPose session.readings with
    | none => exact caught_stopsLast environment _
    | some pose =>
      obtain ⟨_, _, currTheta⟩ := pose
      dsimp only
      split
      · obtain ⟨errors, stopped⟩ := Session.safeMove_eq environment ⟨0, 0, 0⟩
          { session with readings := session.readings + 1 }
        rw [Session.stop, stopped]
        cases environment.moveCommand session.commands.length with
        | none => exact (caught_stopsLast environment _).after ⟨[⟨0, 0, 0⟩], rfl⟩
        | some ret => exact fun _ _ => ⟨[], by rw [List.append_nil]; rfl⟩
      · obtain ⟨errors, issued⟩ := Session.safeMove_eq environment
          ⟨0, 0, directionSign angle * turnSpeed vel (|angle| -
            (accumulated + |normalizeAngle kPi (currTheta - lastTheta)|))⟩
          { session with readings := session.readings + 1 }
        rw [issued]
        cases environment.moveCommand session.commands.length with
        | none => exact (caught_stopsLast environment _).after ⟨_, rfl⟩
        | some ret => exact (inductionHypothesis _ _ _).after ⟨_, rfl⟩

theorem turnAround_stopsLast (angle vel : K) (iterations : Nat) (session : Session K) :
    StopsLast session (turnAround kPi environment angle vel iterations session).1
      (turnAround kPi environment angle vel iterations session).2 := by
  unfold turnAround Session.getPose
  cases environment.getPose session.readings with
  | none => rintro _ ⟨⟩
  | some pose =>
    obtain ⟨_, _, lastTheta⟩ := pose
    exact turnLoop_stopsLast angle vel iterations lastTheta 0 _

theorem moveToRelative_stopsLast (math : Trigonometry K) (kPi : HalfTurn K)
    (environment : Environment K) (elapsed : Nat → K) (dx dy vel : K) (rotations translations : Nat)
    (session : Session K) :
    ∃ outcome later, moveToRelative math kPi environment elapsed dx dy vel rotations translations
        session = .ok (outcome, later) ∧
      StopsLast session outcome later := by
  unfold moveToRelative Session.getPose
  cases environment.getPose session.readings with
  | none => exact ⟨.threw, _, rfl, by rintro _ ⟨⟩⟩
  | some pose =>
    obtain ⟨curX, curY, _⟩ := pose
    obtain ⟨outcome, later, run, moves⟩ := moveToTarget_spec math kPi environment elapsed
      (curX + dx) (curY + dy) vel rotations translations
      { session with readings := session.readings + 1 }
    exact ⟨outcome, later, run, moves.stopped⟩

/-- A movement method does not fault, and stops last. -/
theorem Movement.run_stopsLast (math : Trigonometry K) (kPi : HalfTurn K)
    (environment : Environment K) (movement : Movement K) (session : Session K) :
    ∃ outcome later, movement.run math kPi environment session = .ok (outcome, later) ∧
      StopsLast session outcome later := by
  cases movement with
  | moveToTarget elapsed x y vel rotations translations =>
    obtain ⟨outcome, later, run, moves⟩ := moveToTarget_spec math kPi environment elapsed x y vel
      rotations translations session
    exact ⟨outcome, later, run, moves.stopped⟩
  | moveToRelative elapsed dx dy vel rotations translations =>
    exact moveToRelative_stopsLast math kPi environment elapsed dx dy vel rotations translations
      session
  | turnAround angle vel iterations =>
    exact ⟨_, _, rfl, turnAround_stopsLast angle vel iterations session⟩

/-! ### Close -/

omit [LinearOrder K] [IsStrictOrderedRing K] [FloorRing K] in
/-- A `Close` that returns on an open controller has issued a stop last. -/
theorem Controller.close_returned {closeChannel : Nat → Bool} {controller closed : Controller K}
    (returned : controller.close environment closeChannel = (some (), closed))
    (unclosed : controller.isClosed = false) :
    closed.session.commands = controller.session.commands ++ [⟨0, 0, 0⟩] ∧
      closed.isClosed = true := by
  obtain ⟨errors, stopped⟩ := controller.session.safeMove_eq environment ⟨0, 0, 0⟩
  unfold Controller.close Session.stop at returned
  rw [if_neg (by rw [unclosed]; exact Bool.false_ne_true), stopped] at returned
  cases answer : environment.moveCommand controller.session.commands.length with
  | none =>
    rw [answer] at returned
    cases returned
  | some ret =>
    rw [answer] at returned
    dsimp only [Option.map] at returned
    split at returned
    · cases returned
      exact ⟨rfl, rfl⟩
    · cases returned

omit [LinearOrder K] [IsStrictOrderedRing K] [FloorRing K] in
/-- `Close` does nothing on a closed controller. -/
theorem Controller.close_of_closed (closeChannel : Nat → Bool) {controller : Controller K}
    (closed : controller.isClosed = true) :
    controller.close environment closeChannel = (some (), controller) := by
  unfold Controller.close
  rw [if_pos closed]

/-- A movement leaves `is_closed_` as it is. -/
theorem Controller.move_spec (math : Trigonometry K) (kPi : HalfTurn K)
    (environment : Environment K) (controller : Controller K) (movement : Movement K) :
    ∃ next, controller.move math kPi environment movement = .ok next ∧
      next.isClosed = controller.isClosed := by
  obtain ⟨outcome, later, run, _⟩ := movement.run_stopsLast math kPi environment controller.session
  refine ⟨{ controller with session := later }, ?_, rfl⟩
  unfold Controller.move
  rw [run]
  rfl

/-- A closed controller stays closed. -/
theorem Controller.call_spec (math : Trigonometry K) (kPi : HalfTurn K)
    (environment : Environment K) (closeChannel : Nat → Bool) (controller : Controller K)
    (call : Call K) (closed : controller.isClosed = true) :
    ∃ next, controller.call math kPi environment closeChannel call = .ok next ∧
      next.isClosed = true := by
  cases call with
  | move movement =>
    obtain ⟨next, moved, same⟩ := controller.move_spec math kPi environment movement
    exact ⟨next, moved, same.trans closed⟩
  | stop => exact ⟨_, rfl, closed⟩
  | close =>
    refine ⟨controller, ?_, closed⟩
    unfold Controller.call
    rw [Controller.close_of_closed closeChannel closed]
    rfl

/-- Every movement method ends with a stop. Whatever the odometry reads, whatever the commands
answer and whichever calls throw, a movement method that returns a value has issued a zero command
last; a `Close` that returns after any movement calls has as well; and after it, whatever is called,
`Close` issues nothing. -/
theorem movement_stopsLast (math : Trigonometry K) (kPi : HalfTurn K)
    (environment : Environment K) (closeChannel : Nat → Bool) :
    (∀ movement session, ∃ outcome later,
      Movement.run math kPi environment movement session = .ok (outcome, later) ∧
        ∀ value, outcome = .returned value →
          ∃ earlier, later.commands = session.commands ++ earlier ++ [⟨0, 0, 0⟩]) ∧
    ∀ movements : List (Movement K), ∃ moved,
      movements.foldlM (Controller.move math kPi environment) {} = .ok moved ∧
      ∀ closed, moved.close environment closeChannel = (some (), closed) →
        closed.session.commands.getLast? = some ⟨0, 0, 0⟩ ∧
        ∀ calls : List (Call K), ∃ later,
          calls.foldlM (Controller.call math kPi environment closeChannel) closed = .ok later ∧
            later.close environment closeChannel = (some (), later) := by
  refine ⟨fun movement session => movement.run_stopsLast math kPi environment session,
    fun movements => ?_⟩
  have stays (controller : Controller K) (movement : Movement K)
      (unclosed : controller.isClosed = false) :
      ∃ next, controller.move math kPi environment movement = .ok next ∧
        next.isClosed = false := by
    obtain ⟨next, moved, same⟩ := controller.move_spec math kPi environment movement
    exact ⟨next, moved, same.trans unclosed⟩
  have fresh : ({} : Controller K).isClosed = false := rfl
  obtain ⟨moved, run, unclosed⟩ := foldlM_keeps stays movements fresh
  refine ⟨moved, run, fun closed returned => ?_⟩
  obtain ⟨commands, isClosed⟩ := Controller.close_returned returned unclosed
  refine ⟨?_, fun calls => ?_⟩
  · rw [commands, List.getLast?_concat]
  · obtain ⟨later, called, laterClosed⟩ := foldlM_keeps
      (fun (controller : Controller K) call closed =>
        controller.call_spec math kPi environment closeChannel call closed) calls isClosed
    exact ⟨later, called, Controller.close_of_closed closeChannel laterClosed⟩

end Stops

end Methods

/-- Where every call returns, a robot that has been told to turn and to move can be closed, and has
been told to stop last. -/
theorem movement_stopsLast_returning : ∃ moved closed,
    [Movement.turnAround 1 1 2, .moveToTarget (fun _ => 0) 1 0 1 1 1].foldlM
      (Controller.move realTrigonometry ⟨Real.pi, Real.pi_pos⟩
        ⟨fun _ => some (0, 0, 0), fun _ => some 0⟩) {} = .ok moved ∧
    moved.close ⟨fun _ => some (0, 0, 0), fun _ => some 0⟩ (fun _ => true) = (some (), closed) ∧
    closed.session.commands.getLast? = some ⟨0, 0, 0⟩ := by
  obtain ⟨moved, run, stops⟩ := (movement_stopsLast realTrigonometry ⟨Real.pi, Real.pi_pos⟩
    ⟨fun _ => some (0, 0, 0), fun _ => some 0⟩ (fun _ => true)).2
      [.turnAround 1 1 2, .moveToTarget (fun _ => 0) 1 0 1 1 1]
  have returned : ∃ closed, moved.close ⟨fun _ => some (0, 0, 0), fun _ => some 0⟩
      (fun _ => true) = (some (), closed) := by
    unfold Controller.close
    split
    · exact ⟨moved, rfl⟩
    · exact ⟨_, rfl⟩
  obtain ⟨closed, close⟩ := returned
  exact ⟨moved, closed, run, close, (stops closed close).1⟩

end Booster.Robot.B1.MoveController
