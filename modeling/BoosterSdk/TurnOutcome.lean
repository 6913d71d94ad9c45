/-
This file says exactly what a run of `TurnAround` does, and settles what its result
says about the rotation and how fast it lets the robot turn.

Any call may throw and the readings are arbitrary. As long as every call returns and
less than the angle has been accumulated, the loop issues one command for each
reading and goes on; the first reading at which one of these fails ends it. What is
accumulated counts motion either way, so only a robot that turns one way has turned
as far. Near the end the speed is taken from what remains, not from the velocity
asked for; a robot that sways can leave any remainder, which says for which requests
that is too fast.
-/

import BoosterSdk.MoveController

namespace Booster.Robot.B1.MoveController

open WrappedPath

section Methods

variable {K : Type} [Field K] [LinearOrder K]

/-! ### What the loop has done -/

/-- The yaw read by a call of `GetPose`; zero stands for a call that throws. -/
def Environment.theta (environment : Environment K) (index : Nat) : K :=
  (environment.getPose index).elim 0 fun (_, _, theta) => theta

variable [IsStrictOrderedRing K] [FloorRing K]

/-- What `TurnAround` has accumulated at a reading. -/
def turned (kPi : HalfTurn K) (environment : Environment K) (index : Nat) : K :=
  measuredLength (normalizeAngle kPi) environment.theta index

/-- The command issued at a reading that leaves something to turn. -/
def yawCommand (kPi : HalfTurn K) (environment : Environment K) (angle vel : K) (index : Nat) :
    Command K where
  vx := 0
  vy := 0
  vyaw := directionSign angle * turnSpeed vel (|angle| - turned kPi environment index)

/-- Every reading up to the given one is taken and leaves something to turn, and the command issued
at each is sent. -/
structure Advances (kPi : HalfTurn K) (environment : Environment K) (angle : K) (count : Nat) :
    Prop where
  read : ∀ index ≤ count, (environment.getPose index).isSome = true
  short : ∀ index, 1 ≤ index → index ≤ count → turned kPi environment index < |angle|
  sent : ∀ index < count, (environment.moveCommand index).isSome = true

/-- What a run that ends at the reading after `count` others does at it: its outcome and the
commands it issues there. -/
structure EndsWith (kPi : HalfTurn K) (environment : Environment K) (angle vel : K) (count : Nat)
    (outcome : Outcome) (issued : List (Command K)) : Prop where
  stopped : ∀ command ∈ issued, command = ⟨0, 0, 0⟩ ∨
    (environment.getPose (count + 1)).isSome = true ∧
      turned kPi environment (count + 1) < |angle| ∧
      command = yawCommand kPi environment angle vel (count + 1)
  turning : (environment.getPose (count + 1)).isSome = true →
    turned kPi environment (count + 1) < |angle| →
    yawCommand kPi environment angle vel (count + 1) ∈ issued
  succeeded : outcome = .returned true ↔ (environment.getPose (count + 1)).isSome = true ∧
    |angle| ≤ turned kPi environment (count + 1) ∧
    (environment.moveCommand count).isSome = true

section Loop

variable {kPi : HalfTurn K} {environment : Environment K} {angle vel : K} {count : Nat}

theorem Advances.mono {earlier : Nat} (advances : Advances kPi environment angle count)
    (before : earlier ≤ count) : Advances kPi environment angle earlier :=
  ⟨fun index within => advances.read index (within.trans before),
    fun index first within => advances.short index first (within.trans before),
    fun index within => advances.sent index (within.trans_le before)⟩

/-- One more reading that leaves something to turn, with its command sent. -/
theorem Advances.succ (advances : Advances kPi environment angle count)
    (read : (environment.getPose (count + 1)).isSome = true)
    (short : turned kPi environment (count + 1) < |angle|)
    (sent : (environment.moveCommand count).isSome = true) :
    Advances kPi environment angle (count + 1) := by
  refine ⟨fun index within => ?_, fun index first within => ?_, fun index within => ?_⟩
  · rcases Nat.le_succ_iff.mp within with old | rfl
    · exact advances.read index old
    · exact read
  · rcases Nat.le_succ_iff.mp within with old | rfl
    · exact advances.short index first old
    · exact short
  · rcases Nat.lt_succ_iff_lt_or_eq.mp within with old | rfl
    · exact advances.sent index old
    · exact sent

/-- The session after a number of readings, each with its command. -/
structure Progress (kPi : HalfTurn K) (environment : Environment K) (angle vel : K) (count : Nat)
    (session : Session K) : Prop where
  advances : Advances kPi environment angle count
  readings : session.readings = count + 1
  commands : session.commands =
    (List.range' 1 count).map (yawCommand kPi environment angle vel)

/-- A run that ended at the reading after `count` others. -/
structure Ended (kPi : HalfTurn K) (environment : Environment K) (angle vel : K) (count : Nat)
    (result : Outcome × Session K) : Prop where
  advances : Advances kPi environment angle count
  blocked : ¬ Advances kPi environment angle (count + 1)
  readings : result.2.readings = count + 2
  commands : ∃ issued, result.2.commands =
      (List.range' 1 count).map (yawCommand kPi environment angle vel) ++ issued ∧
    EndsWith kPi environment angle vel count result.1 issued

/-! ### One iteration -/

theorem Progress.length {session : Session K}
    (progress : Progress kPi environment angle vel count session) :
    session.commands.length = count := by
  rw [progress.commands, List.length_map, List.length_range']

/-- A loop that has made progress takes the next reading. -/
theorem Progress.getPose {session : Session K}
    (progress : Progress kPi environment angle vel count session) :
    session.getPose environment =
      (environment.getPose (count + 1), { session with readings := count + 2 }) := by
  unfold Session.getPose
  rw [progress.readings]

/-- What the next reading adds to what has been accumulated. -/
theorem turned_succ (kPi : HalfTurn K) {x y currTheta : K}
    (pose : environment.getPose (count + 1) = some (x, y, currTheta)) :
    environment.theta (count + 1) = currTheta ∧
      turned kPi environment count +
          |normalizeAngle kPi (currTheta - environment.theta count)| =
        turned kPi environment (count + 1) := by
  have theta : environment.theta (count + 1) = currTheta := by
    unfold Environment.theta
    rw [pose]
    rfl
  refine ⟨theta, ?_⟩
  rw [← theta]
  exact (measuredLength_succ _ _ _).symm

/-- A run that ends in the handler, which adds a stop to what the reading has issued. -/
theorem Progress.caught {session later : Session K} {issued : List (Command K)}
    (progress : Progress kPi environment angle vel count session)
    (blocked : ¬ Advances kPi environment angle (count + 1))
    (readings : later.readings = count + 2)
    (commands : later.commands = session.commands ++ issued)
    (stopped : ∀ command ∈ issued, command = ⟨0, 0, 0⟩ ∨
      (environment.getPose (count + 1)).isSome = true ∧
        turned kPi environment (count + 1) < |angle| ∧
        command = yawCommand kPi environment angle vel (count + 1))
    (turning : (environment.getPose (count + 1)).isSome = true →
      turned kPi environment (count + 1) < |angle| →
      yawCommand kPi environment angle vel (count + 1) ∈ issued)
    (failed : ¬ ((environment.getPose (count + 1)).isSome = true ∧
      |angle| ≤ turned kPi environment (count + 1) ∧
      (environment.moveCommand count).isSome = true)) :
    Ended kPi environment angle vel count (later.caught environment) := by
  obtain ⟨outcome, errors, handled, _, unsuccessful⟩ := later.caught_eq environment
  rw [handled]
  refine ⟨progress.advances, blocked, readings, issued ++ [⟨0, 0, 0⟩], ?_, ?_⟩
  · rw [← progress.commands, commands, List.append_assoc]
  · exact {
      stopped := fun command member => by
        rcases List.mem_append.mp member with before | last
        · exact stopped command before
        · exact .inl (List.mem_singleton.mp last)
      turning := fun read short => List.mem_append_left _ (turning read short)
      succeeded := ⟨fun success => absurd success unsuccessful, fun success =>
        absurd success failed⟩ }

/-- A reading that throws ends the run. -/
theorem turnLoop_unread {session : Session K}
    (progress : Progress kPi environment angle vel count session)
    (unread : environment.getPose (count + 1) = none) (iterations : Nat) :
    Ended kPi environment angle vel count
      (turnLoop kPi environment angle vel (iterations + 1) (environment.theta count)
        (turned kPi environment count) session) := by
  have absent : ¬ (environment.getPose (count + 1)).isSome = true := by
    rw [unread]
    exact Bool.false_ne_true
  rw [turnLoop, progress.getPose, unread]
  exact progress.caught (fun advances => absent (advances.read _ le_rfl)) rfl
    (List.append_nil _).symm (by rintro _ ⟨⟩) (fun read => absurd read absent)
    fun success => absent success.1

/-- A reading at which enough has been accumulated ends the run. -/
theorem turnLoop_enough {session : Session K}
    (progress : Progress kPi environment angle vel count session)
    (read : (environment.getPose (count + 1)).isSome = true)
    (enough : |angle| ≤ turned kPi environment (count + 1)) (iterations : Nat) :
    Ended kPi environment angle vel count
      (turnLoop kPi environment angle vel (iterations + 1) (environment.theta count)
        (turned kPi environment count) session) := by
  obtain ⟨⟨x, y, currTheta⟩, pose⟩ := Option.isSome_iff_exists.mp read
  have spent : |angle| - turned kPi environment (count + 1) ≤ 0 := sub_nonpos.mpr enough
  have blocked : ¬ Advances kPi environment angle (count + 1) := fun advances =>
    (advances.short (count + 1) (Nat.le_add_left 1 count) le_rfl).not_ge enough
  obtain ⟨errors, stopped⟩ := Session.safeMove_eq environment ⟨0, 0, 0⟩
    { session with readings := count + 2 }
  rw [progress.length] at stopped
  rw [turnLoop, progress.getPose, pose]
  simp only [(turned_succ kPi pose).2, spent, if_true, Session.stop, stopped]
  cases answer : environment.moveCommand count with
  | some ret =>
    refine ⟨progress.advances, blocked, rfl, [⟨0, 0, 0⟩], by rw [← progress.commands]; rfl, ?_⟩
    exact {
      stopped := fun command member => .inl (List.mem_singleton.mp member)
      turning := fun _ short => absurd short enough.not_gt
      succeeded := ⟨fun _ => ⟨read, enough, by rw [answer]; rfl⟩, fun _ => rfl⟩ }
  | none =>
    refine progress.caught blocked rfl rfl
      (fun command member => .inl (List.mem_singleton.mp member))
      (fun _ short => absurd short enough.not_gt) fun success => ?_
    rw [answer] at success
    exact Bool.false_ne_true success.2.2

/-- A reading that leaves something to turn issues a command: the loop goes on if it is sent and
ends if it throws. -/
theorem turnLoop_issues {session : Session K}
    (progress : Progress kPi environment angle vel count session)
    (read : (environment.getPose (count + 1)).isSome = true)
    (short : turned kPi environment (count + 1) < |angle|) (iterations : Nat) :
    (∃ later, Progress kPi environment angle vel (count + 1) later ∧
      turnLoop kPi environment angle vel (iterations + 1) (environment.theta count)
          (turned kPi environment count) session =
        turnLoop kPi environment angle vel iterations (environment.theta (count + 1))
          (turned kPi environment (count + 1)) later) ∨
    Ended kPi environment angle vel count
      (turnLoop kPi environment angle vel (iterations + 1) (environment.theta count)
        (turned kPi environment count) session) := by
  obtain ⟨⟨x, y, currTheta⟩, pose⟩ := Option.isSome_iff_exists.mp read
  obtain ⟨theta, accumulated⟩ := turned_succ kPi pose
  have remains : ¬ |angle| - turned kPi environment (count + 1) ≤ 0 :=
    not_le.mpr (sub_pos.mpr short)
  obtain ⟨errors, issued⟩ := Session.safeMove_eq environment
    (yawCommand kPi environment angle vel (count + 1)) { session with readings := count + 2 }
  rw [progress.length] at issued
  unfold yawCommand at issued
  rw [turnLoop, progress.getPose, pose]
  simp only [accumulated, remains, if_false, issued]
  cases answer : environment.moveCommand count with
  | some ret =>
    refine .inl ⟨⟨count + 2, session.commands ++ [yawCommand kPi environment angle vel (count + 1)],
      errors⟩, ⟨progress.advances.succ read short (by rw [answer]; rfl), rfl, ?_⟩, ?_⟩
    · rw [progress.commands, List.range'_concat, List.map_append]
      rw [Nat.mul_comm, Nat.mul_one, Nat.add_comm 1 count]
      rfl
    · rw [theta]
      rfl
  | none =>
    have unsent : ¬ (environment.moveCommand count).isSome = true := by
      rw [answer]
      exact Bool.false_ne_true
    have blocked : ¬ Advances kPi environment angle (count + 1) := fun advances =>
      unsent (advances.sent count (Nat.lt_succ_self count))
    have issues : ∀ command ∈ [yawCommand kPi environment angle vel (count + 1)],
        command = yawCommand kPi environment angle vel (count + 1) :=
      fun command member => List.mem_singleton.mp member
    exact .inr (progress.caught blocked rfl rfl
      (fun command member => .inr ⟨read, short, issues command member⟩)
      (fun _ _ => List.mem_singleton_self _) fun success => unsent success.2.2)

/-- One iteration goes on to the next or ends the run. -/
theorem turnLoop_step {session : Session K}
    (progress : Progress kPi environment angle vel count session) (iterations : Nat) :
    (∃ later, Progress kPi environment angle vel (count + 1) later ∧
      turnLoop kPi environment angle vel (iterations + 1) (environment.theta count)
          (turned kPi environment count) session =
        turnLoop kPi environment angle vel iterations (environment.theta (count + 1))
          (turned kPi environment (count + 1)) later) ∨
    Ended kPi environment angle vel count
      (turnLoop kPi environment angle vel (iterations + 1) (environment.theta count)
        (turned kPi environment count) session) := by
  by_cases read : (environment.getPose (count + 1)).isSome = true
  · by_cases short : turned kPi environment (count + 1) < |angle|
    · exact turnLoop_issues progress read short iterations
    · exact .inr (turnLoop_enough progress read (not_lt.mp short) iterations)
  · exact .inr (turnLoop_unread progress (Option.not_isSome_iff_eq_none.mp read) iterations)

/-! ### A whole run -/

/-- A loop that has made progress goes on for all its iterations, or ends at a reading. -/
theorem turnLoop_spec (iterations : Nat) {session : Session K}
    (progress : Progress kPi environment angle vel count session) :
    (∃ later, turnLoop kPi environment angle vel iterations (environment.theta count)
          (turned kPi environment count) session = (.running, later) ∧
        Progress kPi environment angle vel (count + iterations) later) ∨
      ∃ last, count ≤ last ∧ last < count + iterations ∧
        Ended kPi environment angle vel last
          (turnLoop kPi environment angle vel iterations (environment.theta count)
            (turned kPi environment count) session) := by
  induction iterations generalizing count session with
  | zero => exact .inl ⟨session, rfl, progress⟩
  | succ iterations inductionHypothesis =>
    rcases turnLoop_step progress iterations with ⟨later, laterProgress, continued⟩ | ended
    · rw [continued, show count + (iterations + 1) = count + 1 + iterations by omega]
      rcases inductionHypothesis laterProgress with running | ⟨last, after, within, ended⟩
      · exact .inl running
      · exact .inr ⟨last, by omega, within, ended⟩
    · exact .inr ⟨count, le_rfl, by omega, ended⟩

/-- `TurnAround` throws when its first reading does. -/
theorem turnAround_unread (kPi : HalfTurn K) {environment : Environment K} (angle vel : K)
    (unread : environment.getPose 0 = none) (iterations : Nat) :
    turnAround kPi environment angle vel iterations {} = (.threw, ⟨1, [], []⟩) := by
  unfold turnAround Session.getPose
  simp only [unread]

/-- Otherwise it goes on for all its iterations, or ends at a later reading. -/
theorem turnAround_spec (kPi : HalfTurn K) {environment : Environment K} (angle vel : K)
    (read : (environment.getPose 0).isSome = true) (iterations : Nat) :
    (∃ later, turnAround kPi environment angle vel iterations {} = (.running, later) ∧
      Progress kPi environment angle vel iterations later) ∨
    ∃ last < iterations, Ended kPi environment angle vel last
      (turnAround kPi environment angle vel iterations {}) := by
  obtain ⟨⟨x, y, lastTheta⟩, pose⟩ := Option.isSome_iff_exists.mp read
  have entered : turnAround kPi environment angle vel iterations {} =
      turnLoop kPi environment angle vel iterations (environment.theta 0)
        (turned kPi environment 0) ⟨1, [], []⟩ := by
    unfold turnAround Session.getPose Environment.theta
    simp only [pose]
    rfl
  have start : Progress kPi environment angle vel 0 ⟨1, [], []⟩ := by
    refine ⟨⟨fun index within => ?_, fun index first within => by omega,
      fun index within => by omega⟩, rfl, rfl⟩
    rwa [Nat.le_zero.mp within]
  rw [entered]
  rcases turnLoop_spec iterations start with ⟨later, running, progress⟩ | ⟨last, _, within, ended⟩
  · rw [Nat.zero_add] at progress
    exact .inl ⟨later, running, progress⟩
  · exact .inr ⟨last, by omega, ended⟩

/-- A run ends at the reading after those that advance. -/
theorem turnAround_ends (advances : Advances kPi environment angle count) (vel : K)
    (blocked : ¬ Advances kPi environment angle (count + 1)) :
    Ended kPi environment angle vel count
      (turnAround kPi environment angle vel (count + 1) {}) := by
  rcases turnAround_spec kPi angle vel (advances.read 0 (Nat.zero_le count)) (count + 1) with
    ⟨later, _, progress⟩ | ⟨last, within, ended⟩
  · exact absurd progress.advances blocked
  · have same : last = count := by
      by_contra different
      exact ended.blocked (advances.mono (by omega))
    rwa [same] at ended

/-! ### What a success says -/

/-- An environment in which a reading is either not taken or that of the robot's heading, wrapped;
the heading moves by less than half a turn between readings. -/
structure Reads (kPi : HalfTurn K) (environment : Environment K) (heading : Nat → K) : Prop where
  wrapped : ∀ index x y theta, environment.getPose index = some (x, y, theta) →
    theta ≡ heading index [PMOD kPi.val + kPi.val]
  small : ∀ index, |heading (index + 1) - heading index| < kPi.val

/-- The first reading at which the path of a heading is as long as the angle, with every call up to
the stop returning. -/
structure Completes (environment : Environment K) (heading : Nat → K) (angle : K)
    (reading : Nat) : Prop where
  first : 1 ≤ reading
  read : ∀ index ≤ reading, (environment.getPose index).isSome = true
  sent : ∀ index < reading, (environment.moveCommand index).isSome = true
  short : ∀ earlier, 1 ≤ earlier → earlier < reading → pathLength heading earlier < |angle|
  long : |angle| ≤ pathLength heading reading

/-- What has been accumulated is the length of the path. -/
theorem Reads.turned_eq {heading : Nat → K} (reads : Reads kPi environment heading) {index : Nat}
    (read : ∀ earlier ≤ index, (environment.getPose earlier).isSome = true) :
    turned kPi environment index = pathLength heading index := by
  refine (normalizeAngle_reduces kPi).measuredLength_eq (fun earlier within => ?_) reads.small
  obtain ⟨⟨x, y, theta⟩, pose⟩ := Option.isSome_iff_exists.mp (read earlier within)
  have wrapped := reads.wrapped earlier x y theta pose
  unfold Environment.theta
  rwa [pose]

theorem Reads.advances {heading : Nat → K} (reads : Reads kPi environment heading)
    (completes : Completes environment heading angle (count + 1)) :
    Advances kPi environment angle count := by
  have read (index : Nat) (within : index ≤ count) :
      (environment.getPose index).isSome = true :=
    completes.read index (Nat.le_succ_of_le within)
  refine ⟨read, fun index first within => ?_,
    fun index within => completes.sent index (Nat.lt_succ_of_lt within)⟩
  rw [reads.turned_eq fun earlier before => read earlier (before.trans within)]
  exact completes.short index first (Nat.lt_succ_of_le within)

/-- `TurnAround` succeeds at a reading that completes the path. -/
theorem Reads.succeeds {heading : Nat → K} (reads : Reads kPi environment heading) {reading : Nat}
    (completes : Completes environment heading angle reading) (vel : K) :
    ∃ session, turnAround kPi environment angle vel reading {} = (.returned true, session) ∧
      session.readings = reading + 1 := by
  obtain ⟨count, rfl⟩ : ∃ count, reading = count + 1 :=
    ⟨reading - 1, (Nat.sub_add_cancel completes.first).symm⟩
  have enough : |angle| ≤ turned kPi environment (count + 1) := by
    rw [reads.turned_eq completes.read]
    exact completes.long
  have blocked : ¬ Advances kPi environment angle (count + 1) := fun advances =>
    (advances.short (count + 1) completes.first le_rfl).not_ge enough
  have ended := turnAround_ends (reads.advances completes) vel blocked
  obtain ⟨issued, _, ends⟩ := ended.commands
  have success := ends.succeeded.mpr ⟨completes.read _ le_rfl, enough,
    completes.sent count (Nat.lt_succ_self count)⟩
  exact ⟨_, Prod.ext success rfl, ended.readings⟩

/-- A success comes from a reading that completes the path. -/
theorem Reads.completes {heading : Nat → K} (reads : Reads kPi environment heading)
    {iterations : Nat} {session : Session K}
    (success : turnAround kPi environment angle vel iterations {} = (.returned true, session)) :
    ∃ reading, session.readings = reading + 1 ∧
      Completes environment heading angle reading := by
  cases pose : environment.getPose 0 with
  | none =>
    rw [turnAround_unread kPi angle vel pose] at success
    cases congrArg Prod.fst success
  | some start =>
    rcases turnAround_spec kPi angle vel (by rw [pose]; rfl) iterations with
      ⟨later, running, _⟩ | ⟨last, within, ended⟩
    · rw [running] at success
      cases congrArg Prod.fst success
    · rw [success] at ended
      obtain ⟨issued, _, ends⟩ := ended.commands
      obtain ⟨taken, enough, stopped⟩ := ends.succeeded.mp rfl
      have read (index : Nat) (bound : index ≤ last + 1) :
          (environment.getPose index).isSome = true := by
        rcases Nat.le_succ_iff.mp bound with old | rfl
        · exact ended.advances.read index old
        · exact taken
      refine ⟨last + 1, ended.readings, Nat.le_add_left 1 last, read, fun index before => ?_,
        fun earlier first before => ?_, ?_⟩
      · rcases Nat.lt_succ_iff_lt_or_eq.mp before with old | rfl
        · exact ended.advances.sent index old
        · exact stopped
      · rw [← reads.turned_eq fun index bound => read index (by omega)]
        exact ended.advances.short earlier first (Nat.le_of_lt_succ before)
      · rwa [← reads.turned_eq read]

omit [FloorRing K] in
/-- A turn as long as the path up to a reading that has moved completes there. -/
theorem completes_path {heading : Nat → K} {reading : Nat} (first : 1 ≤ reading)
    (read : ∀ index ≤ reading, (environment.getPose index).isSome = true)
    (sent : ∀ index < reading, (environment.moveCommand index).isSome = true)
    (moved : pathLength heading (reading - 1) < pathLength heading reading) :
    Completes environment heading (pathLength heading reading) reading := by
  have length : |pathLength heading reading| = pathLength heading reading :=
    abs_of_nonneg (pathLength_nonneg heading reading)
  refine ⟨first, read, sent, fun earlier _ before => ?_, length.le⟩
  rw [length]
  exact (pathLength_mono heading (Nat.le_sub_one_of_lt before)).trans_lt moved

/-- Successes among the first readings mean that the robot has turned as far as asked, whatever was
asked, exactly when it turns one way as far as these readings are taken. -/
theorem turnAround_rotates_iff (kPi : HalfTurn K) (environment : Environment K)
    (heading : Nat → K) (reads : Reads kPi environment heading) (last : Nat) :
    (∀ angle vel iterations session,
      turnAround kPi environment angle vel iterations {} = (.returned true, session) →
      session.readings ≤ last + 1 →
      |angle| ≤ |heading (session.readings - 1) - heading 0|) ↔
    ∀ count ≤ last, (∀ index ≤ count, (environment.getPose index).isSome = true) →
      (∀ index < count, (environment.moveCommand index).isSome = true) →
      OneWay heading count := by
  constructor
  · intro rotated count
    induction count with
    | zero => exact fun _ _ _ => oneWay_zero heading
    | succ count inductionHypothesis =>
      intro within read sent
      by_cases still : heading (count + 1) = heading count
      · refine (inductionHypothesis (Nat.le_of_succ_le within) (fun index before => ?_)
          fun index before => ?_).rest still
        · exact read index (Nat.le_succ_of_le before)
        · exact sent index (Nat.lt_succ_of_lt before)
      · -- the turn that ends with this motion asks for all of the path
        have moved : pathLength heading count < pathLength heading (count + 1) := by
          rw [pathLength_succ]
          exact lt_add_of_pos_right _ (abs_pos.mpr (sub_ne_zero.mpr still))
        obtain ⟨session, success, readings⟩ :=
          reads.succeeds (completes_path (Nat.le_add_left 1 count) read sent moved) 0
        have bound := rotated _ 0 _ session success (by omega)
        rw [readings, Nat.add_sub_cancel, abs_of_nonneg (pathLength_nonneg _ _)] at bound
        exact pathLength_le_abs_sub_iff.mp bound
  · intro oneWay angle vel iterations session success within
    obtain ⟨reading, readings, completes⟩ := reads.completes success
    have net := pathLength_le_abs_sub_iff.mpr
      (oneWay reading (by omega) completes.read completes.sent)
    rw [readings, Nat.add_sub_cancel]
    exact completes.long.trans net

end Loop

end Methods

theorem crossing_reads : Reads approximatePi crossing fun index => (index : ℚ) where
  wrapped := fun index x y theta pose => by
    obtain ⟨_, _, _, same, wrapped⟩ := crossing_observes.read index
    rw [pose] at same
    cases same
    exact wrapped
  small := crossing_observes.small

/-- A robot that turns one way has turned as far as asked when it is told so. -/
theorem turnAround_rotates_iff_crossing : ∃ session,
    turnAround approximatePi crossing 7 1 7 {} = (.returned true, session) ∧
      |(7 : ℚ)| ≤ |((session.readings - 1 : Nat) : ℚ) - ((0 : Nat) : ℚ)| := by
  have seven : |(7 : ℚ)| = 7 := abs_of_pos (by norm_num)
  have completes : Completes crossing (fun index => (index : ℚ)) 7 7 := by
    refine ⟨by decide, fun _ _ => rfl, fun _ _ => rfl, fun earlier _ before => ?_, ?_⟩
    · rw [crossing_pathLength, seven]
      exact_mod_cast before
    · rw [crossing_pathLength, seven]
      norm_num
  have oneWay (count : Nat) : OneWay (fun index : Nat => (index : ℚ)) count :=
    .inl fun step _ => Nat.cast_le.mpr (Nat.le_succ step)
  obtain ⟨session, success, readings⟩ := crossing_reads.succeeds completes 1
  exact ⟨session, success, (turnAround_rotates_iff approximatePi crossing
    (fun index => (index : ℚ)) crossing_reads 7).mpr (fun count _ _ _ => oneWay count) 7 1 7
    session success (by omega)⟩

/-! ### A robot that sways -/

section Swaying

variable {K : Type} [Field K] [LinearOrder K]

/-- The heading of a robot that sways between two headings. -/
def swayingHeading (width : K) (index : Nat) : K := if index % 2 = 0 then 0 else width

def swaying (width : K) : Environment K where
  getPose index := some (0, 0, swayingHeading width index)
  moveCommand _ := some 0

theorem swayingHeading_step [IsStrictOrderedRing K] (width : K) (index : Nat) :
    |swayingHeading width (index + 1) - swayingHeading width index| = |width| := by
  unfold swayingHeading
  rcases Nat.mod_two_eq_zero_or_one index with even | odd
  · rw [if_pos even, if_neg (by omega), sub_zero]
  · rw [if_neg (show ¬ index % 2 = 0 by omega), if_pos (by omega), zero_sub, abs_neg]

theorem swaying_pathLength [IsStrictOrderedRing K] (width : K) (index : Nat) :
    pathLength (swayingHeading width) index = index * |width| := by
  induction index with
  | zero => rw [pathLength_zero, Nat.cast_zero, zero_mul]
  | succ index inductionHypothesis =>
    rw [pathLength_succ, inductionHypothesis, swayingHeading_step, Nat.cast_succ, add_one_mul]

theorem swaying_reads [IsStrictOrderedRing K] {kPi : HalfTurn K} {width : K}
    (small : |width| < kPi.val) : Reads kPi (swaying width) (swayingHeading width) where
  wrapped := fun index x y theta pose => by
    cases pose
    exact AddCommGroup.modEq_rfl
  small := fun index => by rwa [swayingHeading_step]

end Swaying

/-- A robot that sways by a quarter of a radian is told after four quarters that it has turned by
one radian, and has not turned at all. -/
theorem turnAround_sways : ∃ session,
    turnAround approximatePi (swaying (1 / 4)) 1 1 4 {} = (.returned true, session) ∧
      session.readings = 5 ∧
      ¬ |(1 : ℚ)| ≤ |swayingHeading (1 / 4) (session.readings - 1) - swayingHeading (1 / 4) 0| := by
  have quarter : |(1 / 4 : ℚ)| = 1 / 4 := abs_of_pos (by norm_num)
  have reads : Reads approximatePi (swaying (1 / 4)) (swayingHeading (1 / 4)) := by
    refine swaying_reads ?_
    rw [quarter]
    norm_num [approximatePi]
  have completes : Completes (swaying (1 / 4)) (swayingHeading (1 / 4 : ℚ)) 1 4 := by
    refine ⟨by decide, fun _ _ => rfl, fun _ _ => rfl, fun earlier _ before => ?_, ?_⟩
    · rw [swaying_pathLength, abs_one, quarter]
      have bound : (earlier : ℚ) < 4 := by exact_mod_cast before
      linarith
    · rw [swaying_pathLength, quarter]
      norm_num
  obtain ⟨session, success, readings⟩ := reads.succeeds completes 1
  refine ⟨session, success, readings, ?_⟩
  rw [readings]
  norm_num [swayingHeading]

/-! ### The speed of a turn -/

section Speed

variable {K : Type} [Field K] [LinearOrder K] [IsStrictOrderedRing K] [FloorRing K]
variable {kPi : HalfTurn K} {environment : Environment K} {angle vel : K} {count : Nat}

/-- A run issues stops, and the command of each reading that leaves something to turn. -/
theorem issued_cases {iterations : Nat} {command : Command K}
    (member : command ∈ (turnAround kPi environment angle vel iterations {}).2.commands) :
    command = ⟨0, 0, 0⟩ ∨ ∃ count, Advances kPi environment angle count ∧
      (environment.getPose (count + 1)).isSome = true ∧
      turned kPi environment (count + 1) < |angle| ∧
      command = yawCommand kPi environment angle vel (count + 1) := by
  have advanced {last : Nat} (advances : Advances kPi environment angle last)
      (earlier : command ∈ (List.range' 1 last).map (yawCommand kPi environment angle vel)) :
      ∃ count, Advances kPi environment angle count ∧
        (environment.getPose (count + 1)).isSome = true ∧
        turned kPi environment (count + 1) < |angle| ∧
        command = yawCommand kPi environment angle vel (count + 1) := by
    obtain ⟨index, within, rfl⟩ := List.mem_map.mp earlier
    have bounds := List.mem_range'_1.mp within
    obtain ⟨count, rfl⟩ : ∃ count, index = count + 1 := ⟨index - 1, by omega⟩
    exact ⟨count, advances.mono (by omega), advances.read _ (by omega),
      advances.short _ (by omega) (by omega), rfl⟩
  cases pose : environment.getPose 0 with
  | none =>
    rw [turnAround_unread kPi angle vel pose] at member
    cases member
  | some first =>
    rcases turnAround_spec kPi angle vel (by rw [pose]; rfl) iterations with
      ⟨later, running, progress⟩ | ⟨last, within, ended⟩
    · rw [running, progress.commands] at member
      exact .inr (advanced progress.advances member)
    · obtain ⟨issued, commands, ends⟩ := ended.commands
      rw [commands] at member
      rcases List.mem_append.mp member with earlier | later
      · exact .inr (advanced ended.advances earlier)
      · rcases ends.stopped command later with stop | ⟨read, short, same⟩
        · exact .inl stop
        · exact .inr ⟨last, ended.advances, read, short, same⟩

/-- The command of such a reading is issued. -/
theorem yawCommand_issued (advances : Advances kPi environment angle count)
    (read : (environment.getPose (count + 1)).isSome = true)
    (short : turned kPi environment (count + 1) < |angle|) :
    yawCommand kPi environment angle vel (count + 1) ∈
      (turnAround kPi environment angle vel (count + 1) {}).2.commands := by
  rcases turnAround_spec kPi angle vel (advances.read 0 (Nat.zero_le count)) (count + 1) with
    ⟨later, running, progress⟩ | ⟨last, within, ended⟩
  · rw [running, progress.commands]
    exact List.mem_map_of_mem (List.mem_range'_1.mpr (by omega))
  · have same : last = count := by
      by_contra different
      exact ended.blocked (advances.mono (by omega))
    rw [same] at ended
    obtain ⟨issued, commands, ends⟩ := ended.commands
    rw [commands]
    exact List.mem_append_right _ (ends.turning read short)

/-- The speed of a command is that of the rule for what remains. -/
theorem abs_yawCommand (kPi : HalfTurn K) (environment : Environment K) (angle vel : K)
    (index : Nat) :
    |(yawCommand kPi environment angle vel index).vyaw| =
      turnSpeed vel (|angle| - turned kPi environment index) := by
  have speed : 0 ≤ turnSpeed vel (|angle| - turned kPi environment index) := by
    unfold turnSpeed
    split
    · exact le_max_of_le_left (by norm_num)
    · exact abs_nonneg vel
  have direction : |directionSign angle| = 1 := by
    unfold directionSign
    split
    · rw [abs_neg, abs_one]
    · exact abs_one
  calc |(yawCommand kPi environment angle vel index).vyaw|
    _ = |directionSign angle| * |turnSpeed vel (|angle| - turned kPi environment index)| :=
      abs_mul _ _
    _ = turnSpeed vel (|angle| - turned kPi environment index) := by
      rw [direction, one_mul, abs_of_nonneg speed]

theorem turned_nonneg (kPi : HalfTurn K) (environment : Environment K) (index : Nat) :
    0 ≤ turned kPi environment index := by
  unfold turned measuredLength
  exact Finset.sum_nonneg fun _ _ => abs_nonneg _

/-- A robot that sways can leave any remainder of the angle, and is sent a command for it. -/
theorem remainder_left (kPi : HalfTurn K) (angle vel : K) {remaining : K}
    (positive : 0 < remaining) (part : remaining ≤ |angle|) :
    ∃ environment iterations, ∃ command ∈
      (turnAround kPi environment angle vel iterations {}).2.commands,
      |command.vyaw| = turnSpeed vel remaining := by
  obtain ⟨count, enough⟩ := exists_nat_gt ((|angle| - remaining) / kPi.val)
  have readings : (0 : K) < (count + 1 : Nat) := Nat.cast_pos.mpr (Nat.succ_pos count)
  have spent : 0 ≤ |angle| - remaining := sub_nonneg.mpr part
  obtain ⟨width, parts⟩ : ∃ width, width = (|angle| - remaining) / (count + 1 : Nat) := ⟨_, rfl⟩
  have size : |width| = width := by
    rw [parts]
    exact abs_of_nonneg (div_nonneg spent readings.le)
  have total : (count + 1 : Nat) * width = |angle| - remaining := by
    rw [parts]
    exact mul_div_cancel₀ _ readings.ne'
  have small : |width| < kPi.val := by
    rw [size, parts, div_lt_iff₀ readings]
    have more : (|angle| - remaining) / kPi.val < (count + 1 : Nat) := by
      rw [Nat.cast_succ]
      linarith
    rwa [div_lt_iff₀ kPi.property, mul_comm] at more
  have reads := swaying_reads small
  have left (index : Nat) : turned kPi (swaying width) index = index * width := by
    rw [reads.turned_eq fun _ _ => rfl, swaying_pathLength, size]
  have advances : Advances kPi (swaying width) angle count := by
    refine ⟨fun _ _ => rfl, fun index _ within => ?_, fun _ _ => rfl⟩
    have fewer : (index : K) * width ≤ (count + 1 : Nat) * width :=
      mul_le_mul_of_nonneg_right (Nat.cast_le.mpr (Nat.le_succ_of_le within))
        (size ▸ abs_nonneg width)
    rw [left]
    linarith
  have short : turned kPi (swaying width) (count + 1) < |angle| := by
    rw [left, total]
    linarith
  refine ⟨swaying width, count + 1, _, yawCommand_issued advances rfl short, ?_⟩
  rw [abs_yawCommand, left, total, sub_sub_cancel]

/-- `TurnAround` keeps to the velocity asked for, whatever is read and whichever calls throw,
exactly when nothing is to be turned, when the velocity is at least two fifths of a radian per
second, or when the angle is below a fifth of a radian and the velocity at least a fifth and twice
the angle. -/
theorem turnAround_speed_iff (kPi : HalfTurn K) (angle vel : K) :
    (∀ environment iterations, ∀ command ∈
      (turnAround kPi environment angle vel iterations {}).2.commands, |command.vyaw| ≤ |vel|) ↔
    angle = 0 ∨ 2 / 5 ≤ |vel| ∨ |angle| < 1 / 5 ∧ 1 / 5 ≤ |vel| ∧ 2 * |angle| ≤ |vel| := by
  constructor
  · intro bounded
    have fast (remaining : K) (positive : 0 < remaining) (part : remaining ≤ |angle|)
        (near : remaining < 1 / 5) : 1 / 5 ≤ |vel| ∧ remaining * 2 ≤ |vel| := by
      obtain ⟨environment, iterations, command, issued, speed⟩ :=
        remainder_left kPi angle vel positive part
      have bound := bounded environment iterations command issued
      rw [speed, turnSpeed, if_pos near] at bound
      exact max_le_iff.mp bound
    by_cases turning : angle = 0
    · exact .inl turning
    refine .inr (or_iff_not_imp_left.mpr fun slow => ?_)
    have turns : 0 < |angle| := abs_pos.mpr turning
    have below : |vel| < 2 / 5 := not_le.mp slow
    -- a remainder between half of the velocity and a fifth would be turned too fast
    have near : |angle| < 1 / 5 := by
      by_contra far
      have speed := abs_nonneg vel
      have bound := (fast ((|vel| / 2 + 1 / 5) / 2) (by linarith) (by linarith) (by linarith)).2
      linarith
    obtain ⟨least, twice⟩ := fast |angle| turns le_rfl near
    exact ⟨near, least, by rwa [mul_comm] at twice⟩
  · intro enough environment iterations command member
    rcases issued_cases member with rfl | ⟨count, advances, read, short, rfl⟩
    · rw [abs_zero]
      exact abs_nonneg vel
    · have part := turned_nonneg kPi environment (count + 1)
      rw [abs_yawCommand, turnSpeed]
      split
      · rename_i near
        rcases enough with still | fast | ⟨_, least, twice⟩
        · rw [still, abs_zero] at short
          exact absurd short part.not_gt
        · exact max_le (by linarith) (by linarith)
        · exact max_le least (by linarith)
      · exact le_rfl

end Speed

/-- A robot asked to turn at one radian per second is not told to turn faster. -/
theorem turnAround_speed_iff_crossing :
    ∃ command ∈ (turnAround approximatePi crossing 7 1 1 {}).2.commands,
      |command.vyaw| ≤ |(1 : ℚ)| := by
  have slow := (turnAround_speed_iff approximatePi (7 : ℚ) 1).mpr (.inr (.inl (by norm_num)))
  have advances : Advances approximatePi crossing 7 0 :=
    ⟨fun _ _ => rfl, fun index first within => by omega, fun _ _ => rfl⟩
  have short : turned approximatePi crossing 1 < |(7 : ℚ)| := by
    rw [crossing_reads.turned_eq fun _ _ => rfl, crossing_pathLength]
    norm_num
  have issued : yawCommand approximatePi crossing 7 1 1 ∈
      (turnAround approximatePi crossing 7 1 1 {}).2.commands :=
    yawCommand_issued advances rfl short
  exact ⟨_, issued, slow crossing 1 _ issued⟩

def resting : Environment ℚ where
  getPose _ := some (0, 0, 0)
  moveCommand _ := some 0

theorem resting_reads : Reads approximatePi resting fun _ => 0 where
  wrapped := fun index x y theta pose => by
    cases pose
    exact AddCommGroup.modEq_rfl
  small := fun index => by norm_num [approximatePi]

/-- A robot that rests near the end of its turn is told to turn at twice the speed asked for. -/
theorem turnAround_hurries :
    ∃ command ∈ (turnAround approximatePi resting (1 / 10) (1 / 10) 1 {}).2.commands,
      ¬ |command.vyaw| ≤ |(1 / 10 : ℚ)| := by
  have still (index : Nat) : turned approximatePi resting index = 0 := by
    rw [resting_reads.turned_eq fun _ _ => rfl]
    exact Finset.sum_eq_zero fun _ _ => by norm_num
  have advances : Advances approximatePi resting (1 / 10) 0 :=
    ⟨fun _ _ => rfl, fun index first within => by omega, fun _ _ => rfl⟩
  refine ⟨_, yawCommand_issued advances rfl ?_, ?_⟩
  · rw [still]
    norm_num
  · rw [abs_yawCommand, still, turnSpeed]
    norm_num

end Booster.Robot.B1.MoveController
