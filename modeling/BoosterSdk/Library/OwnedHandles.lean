/-
This file is a library for handles that are created, used and deleted.

A log records what is done to each handle and through which owner. The log is safe
when nothing touches a handle after it has been deleted, so that no handle is
deleted twice either. The rules here keep a log safe together with the list of
handles that are still held: a fresh handle may be created and is then held, only
held handles are used or deleted, and a deleted handle is held no more. Holding
less is always allowed; a holder that forgets a handle leaks it. The owners through
which a handle was deleted, counted with repetitions, tell a leak from a deletion.
-/

import Mathlib.Data.List.Perm.Basic
import Mathlib.Data.List.Nodup
import Mathlib.Tactic.Common

namespace OwnedHandles

variable {Owner Handle : Type*}

/-- Something done to a handle. -/
inductive Event (Owner Handle : Type*) where
  | create (owner : Owner) (handle : Handle)
  | use (handle : Handle)
  | delete (owner : Owner) (handle : Handle)
  deriving DecidableEq

namespace Event

def handle : Event Owner Handle → Handle
  | create _ handle => handle
  | use handle => handle
  | delete _ handle => handle

def isDelete : Event Owner Handle → Bool
  | delete _ _ => true
  | _ => false

end Event

/-- Nothing touches a handle after it has been deleted. -/
def Safe (events : List (Event Owner Handle)) : Prop :=
  events.Pairwise fun earlier later =>
    earlier.isDelete = true → later.handle ≠ earlier.handle

instance [DecidableEq Handle] (events : List (Event Owner Handle)) : Decidable (Safe events) :=
  inferInstanceAs (Decidable (List.Pairwise _ _))

/-- A handle that has been created and not deleted. -/
def Live (events : List (Event Owner Handle)) (handle : Handle) : Prop :=
  (∃ event ∈ events, event.handle = handle) ∧
    ∀ event ∈ events, event.isDelete = true → event.handle ≠ handle

instance [DecidableEq Handle] (events : List (Event Owner Handle)) (handle : Handle) :
    Decidable (Live events handle) :=
  inferInstanceAs (Decidable (_ ∧ _))

/-- A safe log, with the handles that are still held: live ones, each held once. -/
structure Owned (events : List (Event Owner Handle)) (held : List Handle) : Prop where
  safe : Safe events
  distinct : held.Nodup
  live : ∀ handle ∈ held, Live events handle

theorem owned_nil : Owned ([] : List (Event Owner Handle)) [] where
  safe := List.Pairwise.nil
  distinct := List.nodup_nil
  live := fun _ member => absurd member List.not_mem_nil

/-- A safe log stays safe when the handle touched next has not been deleted. -/
theorem Safe.append {events : List (Event Owner Handle)} (safe : Safe events)
    {event : Event Owner Handle}
    (undeleted : ∀ earlier ∈ events, earlier.isDelete = true → earlier.handle ≠ event.handle) :
    Safe (events ++ [event]) := by
  refine List.pairwise_append.mpr ⟨safe, List.pairwise_singleton _ _, ?_⟩
  intro earlier member later last deleted
  rw [List.mem_singleton.mp last]
  exact (undeleted earlier member deleted).symm

/-- A log in which a deleted handle is used is not safe. -/
theorem not_safe_append_use {events : List (Event Owner Handle)} {handle : Handle}
    {deletion : Event Owner Handle} (member : deletion ∈ events)
    (deleted : deletion.isDelete = true) (same : deletion.handle = handle) :
    ¬ Safe (events ++ [.use handle]) := by
  intro safe
  have apart := (List.pairwise_append.mp safe).2.2 deletion member _ (List.mem_singleton_self _)
  exact apart deleted same.symm

/-- A live handle stays live unless it is the one deleted next. -/
theorem Live.append {events : List (Event Owner Handle)} {handle : Handle}
    (live : Live events handle) {event : Event Owner Handle}
    (kept : event.isDelete = true → event.handle ≠ handle) : Live (events ++ [event]) handle := by
  obtain ⟨⟨witness, member, is⟩, undeleted⟩ := live
  refine ⟨⟨witness, List.mem_append_left _ member, is⟩, fun other present deleted => ?_⟩
  rcases List.mem_append.mp present with old | new
  · exact undeleted other old deleted
  · rw [List.mem_singleton.mp new] at deleted ⊢
    exact kept deleted

namespace Owned

variable {events : List (Event Owner Handle)} {held : List Handle}

theorem perm (owned : Owned events held) {rearranged : List Handle}
    (same : held.Perm rearranged) : Owned events rearranged where
  safe := owned.safe
  distinct := same.nodup_iff.mp owned.distinct
  live := fun handle member => owned.live handle (same.mem_iff.mpr member)

/-- Handles may be forgotten. -/
theorem forget (owned : Owned events held) {fewer : List Handle} (sublist : fewer.Sublist held) :
    Owned events fewer where
  safe := owned.safe
  distinct := owned.distinct.sublist sublist
  live := fun handle member => owned.live handle (sublist.subset member)

/-- A live handle that is not held may be taken up. -/
theorem take (owned : Owned events held) {handle : Handle} (live : Live events handle)
    (unheld : handle ∉ held) : Owned events (handle :: held) where
  safe := owned.safe
  distinct := List.nodup_cons.mpr ⟨unheld, owned.distinct⟩
  live := List.forall_mem_cons.mpr ⟨live, owned.live⟩

/-- A handle no event has touched may be created. -/
theorem create (owned : Owned events held) (owner : Owner) {handle : Handle}
    (fresh : ∀ event ∈ events, event.handle ≠ handle) :
    Owned (events ++ [.create owner handle]) (handle :: held) where
  safe := owned.safe.append fun earlier member _ => fresh earlier member
  distinct := by
    refine List.nodup_cons.mpr ⟨fun member => ?_, owned.distinct⟩
    obtain ⟨⟨event, present, is⟩, _⟩ := owned.live handle member
    exact fresh event present is
  live := by
    intro other member
    rcases List.mem_cons.mp member with rfl | old
    · refine ⟨⟨_, List.mem_append_right events List.mem_cons_self, rfl⟩, ?_⟩
      intro event present deleted
      rcases List.mem_append.mp present with before | last
      · exact fresh event before
      · rw [List.mem_singleton.mp last] at deleted
        exact absurd deleted Bool.false_ne_true
    · exact (owned.live other old).append fun deleted => absurd deleted Bool.false_ne_true

/-- A held handle may be used. -/
theorem use (owned : Owned events held) {handle : Handle} (member : handle ∈ held) :
    Owned (events ++ [.use handle]) held where
  safe := owned.safe.append (owned.live handle member).2
  distinct := owned.distinct
  live := fun other present =>
    (owned.live other present).append fun deleted => absurd deleted Bool.false_ne_true

/-- A held handle may be deleted, and is held no more. -/
theorem delete {handle : Handle} (owned : Owned events (handle :: held)) (owner : Owner) :
    Owned (events ++ [.delete owner handle]) held where
  safe := owned.safe.append (owned.live handle List.mem_cons_self).2
  distinct := (List.nodup_cons.mp owned.distinct).2
  live := by
    intro other present
    refine (owned.live other (List.mem_cons_of_mem handle present)).append fun _ same => ?_
    have absent := (List.nodup_cons.mp owned.distinct).1
    have is : handle = other := same
    rw [is] at absent
    exact absent present

end Owned

/-! ### Deletions -/

section Deletions

variable [DecidableEq Handle]

/-- The owners through which a handle was deleted, in order. -/
def deletions (events : List (Event Owner Handle)) (handle : Handle) : List Owner :=
  events.filterMap fun event =>
    match event with
    | .delete owner other => if other = handle then some owner else none
    | _ => none

variable (events : List (Event Owner Handle)) (owner : Owner)

@[simp] theorem deletions_create (created handle : Handle) :
    deletions (events ++ [.create owner created]) handle = deletions events handle := by
  simp [deletions]

@[simp] theorem deletions_use (used handle : Handle) :
    deletions (events ++ [.use used]) handle = deletions events handle := by
  simp [deletions]

@[simp] theorem deletions_delete (deleted handle : Handle) :
    deletions (events ++ [.delete owner deleted]) handle =
      deletions events handle ++ if deleted = handle then [owner] else [] := by
  by_cases same : deleted = handle <;> simp [deletions, same]

end Deletions

end OwnedHandles
