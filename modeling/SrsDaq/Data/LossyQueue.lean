import SrsDaq.Data.TransitionSystem
import Mathlib.Data.List.Basic

/-!
This module contains the queue of bounded capacity between a producer that never waits and one
consumer: an entry that is offered while the queue is full is lost.
-/

/--
`offered`, `taken` and `lost` are the history of the queue, its content is `waiting`.
-/
structure LossyQueue (α : Type) where
  offered : List α := []
  taken : List α := []
  waiting : List α := []
  lost : Nat := 0
  deriving DecidableEq, Repr

namespace LossyQueue

variable {α : Type}

inductive Action (α : Type) where
  | offer (entry : α)
  | take

def offer (capacity : Nat) (entry : α) (queue : LossyQueue α) : LossyQueue α :=
  if queue.waiting.length < capacity then
    { queue with offered := queue.offered ++ [entry], waiting := queue.waiting ++ [entry] }
  else
    { queue with offered := queue.offered ++ [entry], lost := queue.lost + 1 }

def take (queue : LossyQueue α) : Option (LossyQueue α) :=
  match queue.waiting with
  | [] => none
  | entry :: waiting => some { queue with taken := queue.taken ++ [entry], waiting := waiting }

def next (capacity : Nat) (queue : LossyQueue α) : Action α → Option (LossyQueue α)
  | .offer entry => some (queue.offer capacity entry)
  | .take => queue.take

def system (α : Type) (capacity : Nat) : TransitionSystem (LossyQueue α) (Action α) where
  init := {}
  next := next capacity

inductive Effect (capacity : Nat) (queue : LossyQueue α) : LossyQueue α → Prop where
  | accept (entry) (hroom : queue.waiting.length < capacity)
    : Effect capacity queue
        { queue with offered := queue.offered ++ [entry], waiting := queue.waiting ++ [entry] }
  | lose (entry) (hfull : capacity ≤ queue.waiting.length)
    : Effect capacity queue
        { queue with offered := queue.offered ++ [entry], lost := queue.lost + 1 }
  | take (entry) (waiting) (hwaiting : queue.waiting = entry :: waiting)
    : Effect capacity queue { queue with taken := queue.taken ++ [entry], waiting := waiting }

theorem next_effect {capacity : Nat} {queue queue' : LossyQueue α} {a : Action α}
    (h : next capacity queue a = some queue')
    : Effect capacity queue queue' := by
  cases a with
  | offer entry =>
    cases h
    unfold offer
    split
    . next hroom => exact .accept entry hroom
    . next hfull => exact .lose entry (Nat.le_of_not_lt hfull)
  | take =>
    simp only [next, take] at h
    split at h
    . cases h
    . next entry waiting hwaiting =>
      cases h
      exact .take entry waiting hwaiting

/--
What was taken and what waits are the entries that were offered, in their order, but for the lost
ones. Of these there are no more than the capacity leaves over.
-/
structure Accounts (capacity : Nat) (queue : LossyQueue α) : Prop where
  inOrder : (queue.taken ++ queue.waiting).Sublist queue.offered
  complete : queue.offered.length = queue.taken.length + queue.waiting.length + queue.lost
  bounded : queue.waiting.length ≤ capacity
  lost_le : queue.lost ≤ queue.offered.length - capacity

theorem accounts_next {capacity : Nat} {queue queue' : LossyQueue α} {a : Action α}
    (hqueue : queue.Accounts capacity) (h : next capacity queue a = some queue')
    : queue'.Accounts capacity := by
  rcases hqueue with ⟨hsublist, hlength, hbounded, hlost⟩
  cases next_effect h with
  | accept entry hroom =>
    constructor
    . rw [← List.append_assoc]
      apply hsublist.append_right
    . simp only [List.length_append, List.length_singleton]
      omega
    . simp only [List.length_append, List.length_singleton]
      omega
    . simp only [List.length_append, List.length_singleton]
      omega
  | lose entry hfull =>
    constructor
    . apply hsublist.trans (List.sublist_append_left _ _)
    . simp only [List.length_append, List.length_singleton]
      omega
    . exact hbounded
    . simp only [List.length_append, List.length_singleton]
      omega
  | take entry waiting hwaiting =>
    rw [hwaiting] at hsublist hlength hbounded
    simp only [List.length_cons] at hlength hbounded
    constructor
    . simpa using hsublist
    . simp only [List.length_append, List.length_singleton]
      omega
    . simp only
      omega
    . exact hlost

theorem accounts_reachable {capacity : Nat} {queue : LossyQueue α}
    (h : (system α capacity).Reachable queue)
    : queue.Accounts capacity := by
  refine h.invariant ?_ ?_
  . exact ⟨by simp [system], rfl, Nat.zero_le _, Nat.zero_le _⟩
  . intro queue a queue' hqueue hnext
    apply accounts_next hqueue hnext

theorem Accounts.offered_eq {capacity : Nat} {queue : LossyQueue α} (h : queue.Accounts capacity)
    (hlost : queue.lost = 0)
    : queue.taken ++ queue.waiting = queue.offered := by
  apply h.inOrder.eq_of_length
  rw [List.length_append, h.complete, hlost, Nat.add_zero]

end LossyQueue
