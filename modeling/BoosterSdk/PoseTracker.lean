/-
This file models `MoveController::PoseTracker` on top of the reader.

The tracker subscribes to the odometer with the default executor options and
overwrites its pose, under a lock of its own, with each message it handles.
`GetPose` reads the pose under the same lock, at any point of a run: it is an
observer of the reader. Every pose it returns is the one left by some prefix of
the messages handled so far, and prefixes only grow. Coordinates are floats in the
source; nothing here computes with them, so their type is left open.
-/

import BoosterSdk.Handling
import Mathlib.Order.WithBot
import Mathlib.Algebra.Ring.Int.Defs

namespace Booster.Robot.B1

open Interleaving Booster.Common

/-- `booster_interface::msg::Odometer`. -/
structure Odometer (Coordinate : Type) where
  x : Coordinate
  y : Coordinate
  theta : Coordinate

/-- The pose an odometer message carries. -/
def Odometer.pose {Coordinate : Type} (odom : Odometer Coordinate) :
    Coordinate × Coordinate × Coordinate := (odom.x, odom.y, odom.theta)

/-- The members of `PoseTracker`. -/
structure PoseTracker (Coordinate : Type) where
  x : Coordinate
  y : Coordinate
  theta : Coordinate
  ready : Bool

namespace PoseTracker

variable {Coordinate : Type}

/-- A tracker that has handled nothing: all members are zero and it is not ready. -/
def initial [Zero Coordinate] : PoseTracker Coordinate := ⟨0, 0, 0, false⟩

/-- `Ready`. -/
def isReady (tracker : PoseTracker Coordinate) : Bool := tracker.ready

/-- `GetPose`. -/
def getPose (tracker : PoseTracker Coordinate) : Coordinate × Coordinate × Coordinate :=
  (tracker.x, tracker.y, tracker.theta)

/-- `HandleMessage`. -/
def handleMessage (odom : Odometer Coordinate) (_ : PoseTracker Coordinate) :
    PoseTracker Coordinate where
  x := odom.x
  y := odom.y
  theta := odom.theta
  ready := true

/-- The subscription of the tracker: the default executor options, on a shared pool. -/
def subscription [Zero Coordinate] (workers : Nat) (steadyNow systemNow : Int) :
    Setup (Odometer Coordinate) (PoseTracker Coordinate) where
  executorOptions := {}
  callback := ⟨some fun message _ tracker => tracker.handleMessage message⟩
  workers := workers
  user := initial
  steadyNow := steadyNow
  systemNow := systemNow

/-- The runs of a subscription in which `GetPose` is called at any point. -/
def observed (setup : Setup (Odometer Coordinate) (PoseTracker Coordinate)) :=
  setup.system.observed fun config => config.shared.user.getPose

/-! ### Poses and the samples they come from -/

/-- The pose of the sample a read comes from, and the initial pose when it comes from none. -/
def poseOf [Zero Coordinate] (source : Option (Received (Odometer Coordinate))) :
    Coordinate × Coordinate × Coordinate :=
  source.elim initial.getPose fun sample => sample.message.pose

/-- The pose left by a sequence of messages. -/
def poseAfter [Zero Coordinate] (handled : List (Received (Odometer Coordinate))) :
    Coordinate × Coordinate × Coordinate := poseOf handled.getLast?

/-- Where the sample a read comes from stands among the samples taken; the initial pose comes
before all of them. -/
def receivePosition (source : Option (Received (Odometer Coordinate))) : WithBot Nat :=
  source.elim ⊥ fun sample => WithBot.some sample.position

/-- Handling a sequence of messages leaves the pose of the last one. -/
theorem getPose_foldl [Zero Coordinate] (handled : List (Received (Odometer Coordinate))) :
    (handled.foldl (fun tracker sample => handleMessage sample.message tracker)
      initial).getPose = poseAfter handled := by
  induction handled using List.reverseRecOn with
  | nil => rfl
  | append_singleton earlier last _ =>
    rw [List.foldl_append, poseAfter, List.getLast?_concat]
    rfl

/-- The last sample of a prefix of an increasing sequence is not behind the last of the whole. -/
theorem receivePosition_le {earlier later : List (Received (Odometer Coordinate))}
    (grown : earlier <+: later)
    (increasing : (later.map Received.position).Pairwise (· < ·)) :
    receivePosition earlier.getLast? ≤ receivePosition later.getLast? := by
  cases earlier using List.reverseRecOn with
  | nil => exact bot_le
  | append_singleton before sample =>
    have member : sample ∈ later := grown.subset (List.mem_append_right before List.mem_cons_self)
    cases later using List.reverseRecOn with
    | nil => exact absurd member List.not_mem_nil
    | append_singleton rest last =>
      rw [List.getLast?_concat, List.getLast?_concat]
      refine WithBot.coe_le_coe.mpr ?_
      rw [List.map_append, List.pairwise_append] at increasing
      rcases List.mem_append.mp member with inside | final
      · exact Nat.le_of_lt (increasing.2.2 sample.position (List.mem_map_of_mem inside)
          last.position List.mem_cons_self)
      · rw [List.mem_singleton.mp final]

/-! ### Reads -/

section Reads

variable [Zero Coordinate] {workers : Nat} {steadyNow systemNow : Int}
  {config : Config (World (Odometer Coordinate) (PoseTracker Coordinate))
    (Thread (Odometer Coordinate) (PoseTracker Coordinate))}

/-- The tracker shows the pose of the last sample handled. -/
theorem getPose_reachable
    (reachable : (subscription workers steadyNow systemNow).system.ReachableBy NonOverlapping
      config) :
    config.shared.user.getPose = poseAfter config.shared.history.handled := by
  rw [user_reachable rfl reachable]
  exact getPose_foldl config.shared.history.handled

/-- The samples handled are samples taken, in the order they were taken. -/
theorem handled_increasing
    (reachable : (subscription workers steadyNow systemNow).system.ReachableBy NonOverlapping
      config) :
    config.shared.history.handled.Sublist config.shared.history.taken ∧
      (config.shared.history.handled.map Received.position).Pairwise (· < ·) := by
  have handled : config.shared.history.handled <+: config.shared.history.delivered :=
    ⟨_, handled_reachable reachable⟩
  have sublist := handled.sublist.trans (delivered_sublist_taken reachable)
  refine ⟨sublist, List.Pairwise.sublist (sublist.map Received.position) ?_⟩
  rw [(offerInvariant_reachable reachable).numbered]
  exact List.pairwise_lt_range

/-- Poses are fresh and never go backwards: for any number of workers and any run of the
subscription by calls that do not overlap, with `GetPose` called at any points of it, every pose
returned is the initial one or the pose of one sample taken from the reader; the positions of
these samples never decrease; and while the listener is alive, with nothing pending and nothing
in flight, `GetPose` returns the pose of the last sample taken. -/
theorem getPose_fresh_and_monotone
    {reads : List (Coordinate × Coordinate × Coordinate)}
    (reachable : (observed (subscription workers steadyNow systemNow)).ReachableBy
      (System.whileObserved NonOverlapping) (config, reads)) :
    config.shared.history.taken.map Received.position =
      List.range config.shared.history.taken.length ∧
    (∃ sources : List (Option (Received (Odometer Coordinate))),
      reads = sources.map poseOf ∧
      (∀ sample, some sample ∈ sources → sample ∈ config.shared.history.taken) ∧
      (sources.map receivePosition).Pairwise (· ≤ ·)) ∧
    (0 < config.shared.useCount → Settled config →
      ∀ last, config.shared.history.taken.getLast? = some last →
        config.shared.user.getPose = last.message.pose) := by
  have present := reachable.unobserved
  obtain ⟨handled, increasing⟩ := handled_increasing present
  refine ⟨(offerInvariant_reachable present).numbered, ?_, fun alive settled last newest => ?_⟩
  · obtain ⟨prefixes, views, ordered, bounded⟩ := reachable.sources
      (fun now => List.prefix_refl now) (fun _ _ _ first second => first.trans second)
      (fun _ reached => getPose_reachable reached) (fun _ _ _ _ stepped => handled_forward stepped)
    refine ⟨prefixes.map List.getLast?, ?_, ?_, ?_⟩
    · rw [List.map_map]
      exact views
    · intro sample member
      obtain ⟨earlier, prefixMember, last⟩ := List.mem_map.mp member
      have inside := List.mem_of_getLast? last
      exact handled.subset ((bounded earlier prefixMember).subset inside)
    · rw [List.map_map, List.pairwise_map]
      refine ordered.imp_of_mem fun {earlier later} _ laterMember grown => ?_
      refine receivePosition_le grown (List.Pairwise.sublist ?_ increasing)
      exact (bounded later laterMember).sublist.map Received.position
  · have keeps : DdsExecutorOverflowPolicy.dropOldest ≠ .dropNewest := by decide
    have same := settled_newest present alive settled keeps
    rw [getPose_reachable present, poseAfter, same, newest]
    rfl

/-- Two odometer messages arrive at a pool of two workers and the first is handled. -/
def firstPose : List (Event (Thread (Odometer Int) (PoseTracker Int)) (Choice (Odometer Int))) :=
  arrival 3 [⟨1, 2, 3⟩, ⟨4, 5, 6⟩] ++ scheduling 3 ++ beginning 0 ++ continuing 0

/-- The second is handled. -/
def secondPose : List (Event (Thread (Odometer Int) (PoseTracker Int)) (Choice (Odometer Int))) :=
  [.act 0 .proceed] ++ continuing 0

/-- `GetPose` is called before, between and after. -/
def twoPosesRun : List (Option (Event (Thread (Odometer Int) (PoseTracker Int))
    (Choice (Odometer Int)))) :=
  [none] ++ firstPose.map some ++ [none] ++ secondPose.map some ++ [none]

theorem twoPosesRun_isSome :
    (((observed (subscription 2 0 0 : Setup (Odometer Int) (PoseTracker Int))).restrict
      (System.whileObserved NonOverlapping)).run twoPosesRun).isSome = true := rfl

/-- The state `twoPosesRun` ends in, with the poses read. -/
def twoPoses : Config (World (Odometer Int) (PoseTracker Int))
    (Thread (Odometer Int) (PoseTracker Int)) × List (Int × Int × Int) :=
  (((observed (subscription 2 0 0 : Setup (Odometer Int) (PoseTracker Int))).restrict
    (System.whileObserved NonOverlapping)).run twoPosesRun).get twoPosesRun_isSome

theorem getPose_fresh_and_monotone_twoPoses :
    twoPoses.2 = [(0, 0, 0), (1, 2, 3), (4, 5, 6)] ∧
    twoPoses.1.shared.history.taken.map Received.position =
      List.range twoPoses.1.shared.history.taken.length ∧
    (∃ sources : List (Option (Received (Odometer Int))),
      twoPoses.2 = sources.map poseOf ∧
      (∀ sample, some sample ∈ sources → sample ∈ twoPoses.1.shared.history.taken) ∧
      (sources.map receivePosition).Pairwise (· ≤ ·)) ∧
    (0 < twoPoses.1.shared.useCount → Settled twoPoses.1 →
      ∀ last, twoPoses.1.shared.history.taken.getLast? = some last →
        twoPoses.1.shared.user.getPose = last.message.pose) :=
  ⟨rfl, getPose_fresh_and_monotone
    (.of_restrict (System.reachable_of_run (Option.some_get twoPosesRun_isSome).symm))⟩

end Reads

end PoseTracker

end Booster.Robot.B1
