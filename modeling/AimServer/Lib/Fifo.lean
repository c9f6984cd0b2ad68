import Mathlib.Data.List.Infix

/-!
Contract: a first-in first-out queue whose reader takes everything at once.

Owns: the queue with the record of what was put and what each read returned,
the events a store can have on it, a failed removal included, and the account:
what was ever put is what some reads removed followed by what still waits.

Does not own: where the elements are kept and which store operation causes
which event.
-/

namespace AimServer.Lib

universe u

variable {α : Type u}

/-- The elements that wait, those ever put, and the results of the reads. -/
structure Fifo (α : Type u) where
  waiting : List α
  stored : List α
  returned : List (List α)

/-- What can happen to a queue. `kept` is a read whose removal failed, `missed`
a read that found nothing out. -/
inductive FifoEvent (α : Type u) where
  | put (element : α)
  | drained
  | kept
  | missed
  | idle

namespace Fifo

def step (queue : Fifo α) : FifoEvent α → Fifo α
  | .put element =>
      { queue with
        waiting := queue.waiting ++ [element]
        stored := queue.stored ++ [element] }
  | .drained => { queue with waiting := [], returned := queue.returned ++ [queue.waiting] }
  | .kept => { queue with returned := queue.returned ++ [queue.waiting] }
  | .missed => { queue with returned := queue.returned ++ [[]] }
  | .idle => queue

/-- The queue before anything happens to it, `initial` waiting in it. -/
def starting (initial : List α) : Fifo α := ⟨initial, initial, []⟩

/-- Every read returned consecutive elements in the order they were put, and
what was put is what some of the reads returned, each once and in order,
followed by what waits. -/
structure Accounts (queue : Fifo α) : Prop where
  inOrder : ∀ result ∈ queue.returned, result <:+: queue.stored
  nothingLost : ∃ removing : List (List α), removing.Sublist queue.returned ∧
    queue.stored = removing.flatten ++ queue.waiting

/-- Every read removed what it returned. -/
def Exact (queue : Fifo α) : Prop :=
  queue.stored = queue.returned.flatten ++ queue.waiting

variable {queue : Fifo α}

theorem accounts_starting (initial : List α) : (starting initial).Accounts :=
  ⟨by simp [starting], ⟨[], List.Sublist.refl _, rfl⟩⟩

theorem exact_starting (initial : List α) : (starting initial).Exact := rfl

/-- What waits was put last. -/
theorem Accounts.waiting_isInfix (accounts : queue.Accounts) :
    queue.waiting <:+: queue.stored := by
  obtain ⟨removing, -, stored⟩ := accounts.nothingLost
  rw [stored]
  exact (List.suffix_append _ _).isInfix

/-- One more result that is in order. -/
theorem Accounts.inOrder_snoc (accounts : queue.Accounts) {result : List α}
    (isInfix : result <:+: queue.stored) :
    ∀ found ∈ queue.returned ++ [result], found <:+: queue.stored := by
  intro found isFound
  rcases List.mem_append.mp isFound with earlier | last
  · exact accounts.inOrder found earlier
  · rw [List.mem_singleton.mp last]
    exact isInfix

theorem Accounts.step (accounts : queue.Accounts) (event : FifoEvent α) :
    (queue.step event).Accounts := by
  obtain ⟨removing, sublist, stored⟩ := accounts.nothingLost
  cases event with
  | put element =>
      refine ⟨?_, removing, sublist, ?_⟩
      · intro result isResult
        exact (accounts.inOrder result isResult).trans (List.prefix_append _ _).isInfix
      · show queue.stored ++ [element] = removing.flatten ++ (queue.waiting ++ [element])
        rw [stored, List.append_assoc]
  | drained =>
      refine ⟨accounts.inOrder_snoc accounts.waiting_isInfix, removing ++ [queue.waiting],
        sublist.append (List.Sublist.refl _), ?_⟩
      show queue.stored = (removing ++ [queue.waiting]).flatten ++ []
      rw [stored]
      simp
  | kept =>
      exact ⟨accounts.inOrder_snoc accounts.waiting_isInfix, removing,
        sublist.trans (List.sublist_append_left _ _), stored⟩
  | missed =>
      exact ⟨accounts.inOrder_snoc (List.nil_infix), removing,
        sublist.trans (List.sublist_append_left _ _), stored⟩
  | idle => exact accounts

/-- Only a removal that fails makes a read return what a later one returns
again. -/
theorem Exact.step (exact : queue.Exact) {event : FifoEvent α}
    (removes : event = .kept → queue.waiting = []) : (queue.step event).Exact := by
  unfold Exact at *
  cases event with
  | put element =>
      show queue.stored ++ [element] = queue.returned.flatten ++ (queue.waiting ++ [element])
      rw [exact, List.append_assoc]
  | drained =>
      show queue.stored = (queue.returned ++ [queue.waiting]).flatten ++ []
      rw [exact]
      simp
  | kept =>
      show queue.stored = (queue.returned ++ [queue.waiting]).flatten ++ queue.waiting
      rw [exact, removes rfl]
      simp
  | missed =>
      show queue.stored = (queue.returned ++ [[]]).flatten ++ queue.waiting
      rw [exact]
      simp
  | idle => exact exact

end Fifo

end AimServer.Lib
