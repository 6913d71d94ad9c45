/-
This file is a library for bounded queues that lose messages on overflow.

A producer offers items one at a time to a pending queue; an overflow rule may
remove items when one is admitted, from either end or all of them. A consumer
takes the front item in hand and later hands it over. A `Ledger` records what
became of every item. Whatever the rule, as long as it accounts for what it
removes, items are handed over in the order they were offered, none twice, and
every item offered is handed over, in hand, pending or removed by the rule. A rule
that always keeps the newest item leaves the last item offered as the last one to
be handed over. Queues that keep only so many items at one end are windows of
everything pushed, whether the items come one at a time or at once. A `Buffer` takes
whole batches at once and can be watched while it is empty.
-/

import BoosterSdk.Library.WatchedSystem
import Mathlib.Data.List.DropRight
import Mathlib.Data.List.Perm.Basic
import Mathlib.Data.List.Nodup
import Mathlib.Data.List.Range
import Mathlib.Tactic.Common

namespace LossyQueue

open Interleaving

variable {Item : Type*}

/-- What an overflow rule may do when it admits an item to a queue: what it keeps is in order,
and it keeps or removes every item. -/
structure Admits (queue : List Item) (item : Item) (kept removed : List Item) : Prop where
  inOrder : kept.Sublist (queue ++ [item])
  accounted : (kept ++ removed).Perm (queue ++ [item])

/-- A rule that removes nothing. -/
theorem Admits.push (queue : List Item) (item : Item) : Admits queue item (queue ++ [item]) [] where
  inOrder := List.Sublist.refl _
  accounted := by rw [List.append_nil]

/-- A rule that refuses the new item. -/
theorem Admits.refuse (queue : List Item) (item : Item) : Admits queue item queue [item] where
  inOrder := List.sublist_append_left queue [item]
  accounted := List.Perm.refl _

/-- A rule that removes items from the front. -/
theorem Admits.dropFront (queue : List Item) (item : Item) (count : Nat) :
    Admits queue item (queue.drop count ++ [item]) (queue.take count) where
  inOrder := (List.drop_sublist count queue).append (List.Sublist.refl _)
  accounted := by
    refine List.perm_append_comm.trans ?_
    rw [← List.append_assoc, List.take_append_drop]

/-- A rule that makes room for the new item by removing everything else. -/
theorem Admits.clear (queue : List Item) (item : Item) : Admits queue item [item] queue where
  inOrder := List.sublist_append_right queue [item]
  accounted := List.perm_append_comm

/-- An overflow rule: from a queue and an item offered to it, the queue kept and the items
removed. -/
abbrev Rule (Item : Type*) := List Item → Item → List Item → List Item → Prop

/-- A rule that keeps the order and accounts for every item. -/
def Rule.Accounts (rule : Rule Item) : Prop :=
  ∀ queue item kept removed, rule queue item kept removed → Admits queue item kept removed

/-- A rule that never removes the item being offered. -/
def Rule.KeepsNewest (rule : Rule Item) : Prop :=
  ∀ queue item kept removed, rule queue item kept removed → kept.getLast? = some item

/-- What became of the items offered so far. -/
structure Ledger (Item : Type*) where
  offered : List Item
  delivered : List Item
  inHand : List Item
  pending : List Item
  removed : List Item

namespace Ledger

/-- The items not removed, in the order they leave. -/
def surviving (ledger : Ledger Item) : List Item :=
  ledger.delivered ++ ledger.inHand ++ ledger.pending

/-- The ledger before anything was offered. -/
def empty : Ledger Item := ⟨[], [], [], [], []⟩

/-- A step of producer or consumer. -/
inductive Step (rule : Rule Item) (ledger : Ledger Item) : Ledger Item → Prop where
  | offer (item : Item) (kept victims : List Item)
      (admits : rule ledger.pending item kept victims) :
      Step rule ledger
        { ledger with
          offered := ledger.offered ++ [item]
          pending := kept
          removed := ledger.removed ++ victims }
  | take (item : Item) (rest : List Item) (free : ledger.inHand = [])
      (front : ledger.pending = item :: rest) :
      Step rule ledger { ledger with inHand := [item], pending := rest }
  | deliver (item : Item) (held : ledger.inHand = [item]) :
      Step rule ledger { ledger with delivered := ledger.delivered ++ [item], inHand := [] }

/-- Deliveries are in order, and every offered item is accounted for. -/
structure Sound (ledger : Ledger Item) : Prop where
  inOrder : ledger.surviving.Sublist ledger.offered
  accounted : (ledger.surviving ++ ledger.removed).Perm ledger.offered

theorem sound_empty : Sound (empty : Ledger Item) where
  inOrder := List.Sublist.refl _
  accounted := List.Perm.refl _

/-- Admitting an item keeps the order and accounts for the item. -/
theorem Sound.offer {ledger : Ledger Item} (sound : ledger.Sound) {item : Item}
    {kept victims : List Item} (admits : Admits ledger.pending item kept victims) :
    Sound { ledger with
      offered := ledger.offered ++ [item]
      pending := kept
      removed := ledger.removed ++ victims } := by
  obtain ⟨offered, delivered, inHand, pending, removed⟩ := ledger
  obtain ⟨inOrder, accounted⟩ := sound
  simp only [surviving] at inOrder accounted admits
  constructor
  · calc delivered ++ inHand ++ kept
      _ |>.Sublist (delivered ++ inHand ++ (pending ++ [item])) :=
        (List.Sublist.refl _).append admits.inOrder
      _ = delivered ++ inHand ++ pending ++ [item] := (List.append_assoc _ _ _).symm
      _ |>.Sublist (offered ++ [item]) := inOrder.append (List.Sublist.refl _)
  · calc delivered ++ inHand ++ kept ++ (removed ++ victims)
      _ |>.Perm (delivered ++ inHand ++ (kept ++ victims) ++ removed) := by
        simp only [List.append_assoc]
        exact ((List.perm_append_comm.append_left kept).append_left inHand).append_left delivered
      _ |>.Perm (delivered ++ inHand ++ (pending ++ [item]) ++ removed) :=
        (admits.accounted.append_left _).append_right removed
      _ = delivered ++ inHand ++ pending ++ ([item] ++ removed) := by
        simp only [List.append_assoc]
      _ |>.Perm (delivered ++ inHand ++ pending ++ (removed ++ [item])) :=
        List.perm_append_comm.append_left _
      _ = delivered ++ inHand ++ pending ++ removed ++ [item] := by
        simp only [List.append_assoc]
      _ |>.Perm (offered ++ [item]) := accounted.append_right [item]

/-- Taking an item in hand and handing it over change nothing in what survives. -/
theorem surviving_take {ledger : Ledger Item} {item : Item} {rest : List Item}
    (free : ledger.inHand = []) (front : ledger.pending = item :: rest) :
    surviving { ledger with inHand := [item], pending := rest } = ledger.surviving := by
  simp only [surviving, free, front, List.append_nil, List.append_assoc, List.singleton_append]

theorem surviving_deliver {ledger : Ledger Item} {item : Item} (held : ledger.inHand = [item]) :
    surviving { ledger with delivered := ledger.delivered ++ [item], inHand := [] } =
      ledger.surviving := by
  simp only [surviving, held, List.append_nil]

variable {rule : Rule Item}

theorem Sound.step {ledger next : Ledger Item} (accounts : rule.Accounts) (sound : ledger.Sound)
    (step : Step rule ledger next) : next.Sound := by
  cases step with
  | offer item kept victims admits => exact sound.offer (accounts _ _ _ _ admits)
  | take item rest free front =>
    have same := surviving_take free front
    exact ⟨by rw [same]; exact sound.inOrder, by rw [same]; exact sound.accounted⟩
  | deliver item held =>
    have same := surviving_deliver held
    exact ⟨by rw [same]; exact sound.inOrder, by rw [same]; exact sound.accounted⟩

/-- Any number of steps. -/
abbrev Steps (rule : Rule Item) : Ledger Item → Ledger Item → Prop :=
  Relation.ReflTransGen (Step rule)

/-- Every ledger reached from the empty one is sound. -/
theorem Steps.sound {ledger : Ledger Item} (accounts : rule.Accounts)
    (steps : Steps rule empty ledger) : ledger.Sound := by
  induction steps with
  | refl => exact sound_empty
  | tail _ step inductionHypothesis => exact inductionHypothesis.step accounts step

/-- A rule that keeps the newest item leaves the last item offered last. -/
theorem Steps.getLast?_surviving {ledger : Ledger Item} (keeps : rule.KeepsNewest)
    (steps : Steps rule empty ledger) :
    ledger.surviving.getLast? = ledger.offered.getLast? := by
  induction steps with
  | refl => rfl
  | tail _ step inductionHypothesis =>
    cases step with
    | offer item kept victims admits =>
      have newest := keeps _ _ _ _ admits
      simp only [surviving, List.getLast?_append, newest, List.getLast?_singleton, Option.some_or]
    | take item rest free front =>
      rw [surviving_take free front]
      exact inductionHypothesis
    | deliver item held =>
      rw [surviving_deliver held]
      exact inductionHypothesis

/-! ### Positions -/

section Positions

variable {ledger : Ledger Item} {position : Item → Nat}

/-- When the offered items are numbered in order, what survives is numbered increasingly. -/
theorem Sound.increasing (sound : ledger.Sound)
    (numbered : ledger.offered.map position = List.range ledger.offered.length) :
    (ledger.surviving.map position).Pairwise (· < ·) := by
  refine List.Pairwise.sublist (sound.inOrder.map position) ?_
  rw [numbered]
  exact List.pairwise_lt_range

/-- A position of the offered items survives or is removed, and never both. -/
theorem Sound.missing_iff (sound : ledger.Sound)
    (numbered : ledger.offered.map position = List.range ledger.offered.length) {index : Nat}
    (bound : index < ledger.offered.length) :
    index ∉ ledger.surviving.map position ↔ index ∈ ledger.removed.map position := by
  have perm := sound.accounted.map position
  rw [numbered, List.map_append] at perm
  have distinct := perm.nodup_iff.mpr List.nodup_range
  have member := perm.mem_iff.mpr (List.mem_range.mpr bound)
  constructor
  · intro absent
    exact (List.mem_append.mp member).resolve_left absent
  · intro removed survives
    exact List.disjoint_of_nodup_append distinct survives removed

/-- A ledger without removals keeps everything. -/
theorem Sound.surviving_eq (sound : ledger.Sound) (unremoved : ledger.removed = []) :
    ledger.surviving = ledger.offered := by
  refine sound.inOrder.eq_of_length ?_
  have length := sound.accounted.length_eq
  rwa [unremoved, List.append_nil] at length

end Positions

end Ledger

/-! ### Windows -/

/-- The last items of a queue pushed onto its last items. -/
theorem rtake_rtake_append (queue batch : List Item) (capacity : Nat) :
    (queue.rtake capacity ++ batch).rtake capacity = (queue ++ batch).rtake capacity := by
  simp only [List.rtake_eq_reverse_take_reverse, List.reverse_append, List.reverse_reverse,
    List.take_append, List.take_take]
  rw [Nat.min_eq_left (Nat.sub_le capacity batch.reverse.length)]

/-- The first items of a queue pushed onto its first items. -/
theorem take_take_append (queue batch : List Item) (capacity : Nat) :
    (queue.take capacity ++ batch).take capacity = (queue ++ batch).take capacity := by
  simp only [List.take_append, List.take_take, Nat.min_self, List.length_take]
  congr 2
  omega

/-- Items pushed one at a time through a window leave the window of everything pushed, where the
window of a window and more is the window of it all. -/
theorem foldl_eq_window (window : List Item → List Item) {push : List Item → Item → List Item}
    {within : List Item → Prop} (whole : ∀ queue, within queue → window queue = queue)
    (pushed : ∀ queue item, within queue → push queue item = window (queue ++ [item]))
    (stays : ∀ queue item, within queue → within (push queue item))
    (absorbs : ∀ queue batch, window (window queue ++ batch) = window (queue ++ batch))
    {queue : List Item} (bound : within queue) (batch : List Item) :
    batch.foldl push queue = window (queue ++ batch) := by
  induction batch generalizing queue with
  | nil =>
    rw [List.append_nil]
    exact (whole queue bound).symm
  | cons item rest inductionHypothesis =>
    calc (item :: rest).foldl push queue
      _ = rest.foldl push (push queue item) := rfl
      _ = window (push queue item ++ rest) := inductionHypothesis (stays queue item bound)
      _ = window (window (queue ++ [item]) ++ rest) := by rw [pushed queue item bound]
      _ = window (queue ++ [item] ++ rest) := absorbs (queue ++ [item]) rest
      _ = window (queue ++ item :: rest) := by rw [List.append_assoc, List.singleton_append]

/-- A queue within its bound is its own window. -/
theorem rtake_of_length_le {queue : List Item} {capacity : Nat}
    (bound : queue.length ≤ capacity) : queue.rtake capacity = queue := by
  unfold List.rtake
  rw [Nat.sub_eq_zero_of_le bound, List.drop_zero]

/-- A window is no longer than the queue. -/
theorem rtake_min_length (queue : List Item) (capacity : Nat) :
    queue.rtake (min capacity queue.length) = queue.rtake capacity := by
  unfold List.rtake
  congr 1
  omega

/-! ### Batches -/

/-- What becomes of an item offered to a queue: the queue kept and the items removed. -/
structure Admission (Item : Type*) where
  kept : List Item → Item → List Item
  removed : List Item → Item → List Item

namespace Admission

/-- The queue kept after a batch. -/
def keptBatch (admission : Admission Item) (queue batch : List Item) : List Item :=
  batch.foldl admission.kept queue

/-- The items removed while a batch is admitted. -/
def removedBatch (admission : Admission Item) (queue : List Item) : List Item → List Item
  | [] => []
  | item :: rest =>
    admission.removed queue item ++ admission.removedBatch (admission.kept queue item) rest

/-- Where every item admitted leaves something in the queue, so does every batch. -/
theorem keptBatch_ne_nil {admission : Admission Item}
    (keeps : ∀ queue item, admission.kept queue item ≠ []) (queue : List Item) {batch : List Item}
    (nonempty : batch ≠ []) : admission.keptBatch queue batch ≠ [] := by
  obtain ⟨earlier, last, rfl⟩ := List.eq_nil_or_concat batch |>.resolve_left nonempty
  unfold keptBatch
  rw [List.concat_eq_append, List.foldl_concat]
  exact keeps _ last

section Renaming

variable {Other : Type*} {rename : Item → Other}

/-- Two admissions that agree on items and on their new names. -/
structure Renames (rename : Item → Other) (first : Admission Item) (second : Admission Other) :
    Prop where
  kept : ∀ queue item,
    (first.kept queue item).map rename = second.kept (queue.map rename) (rename item)
  removed : ∀ queue item,
    (first.removed queue item).map rename = second.removed (queue.map rename) (rename item)

variable {first : Admission Item} {second : Admission Other}

theorem Renames.keptBatch (renames : Renames rename first second) (queue batch : List Item) :
    (first.keptBatch queue batch).map rename =
      second.keptBatch (queue.map rename) (batch.map rename) := by
  induction batch generalizing queue with
  | nil => rfl
  | cons item rest inductionHypothesis =>
    refine (inductionHypothesis (first.kept queue item)).trans ?_
    rw [renames.kept]
    rfl

theorem Renames.removedBatch (renames : Renames rename first second) (queue batch : List Item) :
    (first.removedBatch queue batch).map rename =
      second.removedBatch (queue.map rename) (batch.map rename) := by
  induction batch generalizing queue with
  | nil => rfl
  | cons item rest inductionHypothesis =>
    simp only [Admission.removedBatch, List.map_cons, List.map_append, renames.removed,
      inductionHypothesis, renames.kept]

end Renaming

end Admission

/-- A queue between a producer of batches and a consumer: the items handed over, those removed
and those that remain. -/
structure Buffer (Item : Type*) where
  delivered : List Item
  dropped : List Item
  remaining : List Item

namespace Buffer

def empty : Buffer Item := ⟨[], [], []⟩

/-- A batch arrives, all of it at once. -/
def arrive (admission : Admission Item) (batch : List Item) (buffer : Buffer Item) :
    Buffer Item where
  delivered := buffer.delivered
  dropped := buffer.dropped ++ admission.removedBatch buffer.remaining batch
  remaining := admission.keptBatch buffer.remaining batch

/-- A batch arrives, where any may, or the front item is handed over. -/
def step (admission : Admission Item) (accepts : Bool) (buffer : Buffer Item) :
    Option (List Item) → Option (Buffer Item)
  | some batch =>
    if accepts && !batch.isEmpty then some (buffer.arrive admission batch) else none
  | none =>
    match buffer.remaining with
    | [] => none
    | item :: rest =>
      some { buffer with delivered := buffer.delivered ++ [item], remaining := rest }

/-- The buffer as a watched system: it reports the batches and can be seen when it is empty. -/
def watched (admission : Admission Item) (accepts : Bool) :
    WatchedSystem (Buffer Item) (Option (List Item)) (List Item) (Buffer Item) where
  initial := empty
  step := step admission accepts
  admits _ _ := True
  reports _ action := action.toList
  rests buffer := buffer.remaining = []
  view buffer := buffer

variable {admission : Admission Item} {accepts : Bool} {buffer next : Buffer Item}

/-- Everything a buffer can do. -/
theorem step_cases {action : Option (List Item)}
    (stepped : buffer.step admission accepts action = some next) :
    (∃ batch, action = some batch ∧ accepts = true ∧ batch ≠ [] ∧
      next = buffer.arrive admission batch) ∨
    ∃ item rest, action = none ∧ buffer.remaining = item :: rest ∧
      next = { buffer with delivered := buffer.delivered ++ [item], remaining := rest } := by
  cases action with
  | some batch =>
    obtain ⟨taken, result⟩ := Option.ite_none_right_eq_some.mp stepped
    cases result
    rw [Bool.and_eq_true, Bool.not_eq_true', List.isEmpty_eq_false_iff] at taken
    exact Or.inl ⟨batch, rfl, taken.1, taken.2, rfl⟩
  | none =>
    simp only [step] at stepped
    split at stepped
    · cases stepped
    · rename_i item rest front
      cases stepped
      exact Or.inr ⟨item, rest, rfl, front, rfl⟩

/-- A batch arrives. -/
theorem leads_arrive (accepted : accepts = true) {batch : List Item} (nonempty : batch ≠ []) :
    (watched admission accepts).Leads buffer [batch] (buffer.arrive admission batch) := by
  have taken : (accepts && !batch.isEmpty) = true := by
    rw [accepted, List.isEmpty_eq_false_iff.mpr nonempty]
    rfl
  have arrived : (watched admission accepts).step buffer (some batch) =
      some (buffer.arrive admission batch) := if_pos taken
  exact .step .refl trivial arrived

/-- The front item is handed over. -/
theorem leads_deliver {item : Item} {rest : List Item} (front : buffer.remaining = item :: rest) :
    (watched admission accepts).Leads buffer []
      { buffer with delivered := buffer.delivered ++ [item], remaining := rest } := by
  obtain ⟨delivered, dropped, _⟩ := buffer
  cases front
  have handed : (watched admission accepts).step ⟨delivered, dropped, item :: rest⟩ none =
      some ⟨delivered ++ [item], dropped, rest⟩ := rfl
  exact .step .refl trivial handed

end Buffer

end LossyQueue
