import Mathlib.Data.List.Perm.Basic

/-!
Contract: a message queue with manual acknowledgement.

Owns: what waits and what is with the consumer, publishing, delivery,
acknowledgement, negative acknowledgement with requeue, the loss of the
consumer's connection, and the account of the messages over each of them.

Does not own: who publishes and who consumes, and what a message is.
-/

namespace AimServer.Lib

universe u

/-- The messages that wait and those delivered without an acknowledgement yet,
both oldest first. -/
structure Broker (α : Type u) where
  ready : List α
  unacked : List α

namespace Broker

variable {α : Type u}

def empty : Broker α := ⟨[], []⟩

/-- All messages the queue answers for. -/
def contents (queue : Broker α) : List α :=
  queue.ready ++ queue.unacked

def publish (message : α) (queue : Broker α) : Broker α :=
  { queue with ready := queue.ready ++ [message] }

/-- The oldest waiting message goes to the consumer. -/
def deliver (queue : Broker α) : Option (α × Broker α) :=
  match queue.ready with
  | [] => none
  | message :: rest => some (message, ⟨rest, queue.unacked ++ [message]⟩)

/-- The consumer's connection is gone: what it had waits again. -/
def disconnect (queue : Broker α) : Broker α :=
  ⟨queue.unacked ++ queue.ready, []⟩

variable [DecidableEq α]

/-- An acknowledgement, or a negative one without requeue. -/
def settle (message : α) (queue : Broker α) : Broker α :=
  { queue with unacked := queue.unacked.erase message }

/-- A negative acknowledgement with requeue. -/
def requeue (message : α) (queue : Broker α) : Broker α :=
  if message ∈ queue.unacked then
    ⟨message :: queue.ready, queue.unacked.erase message⟩
  else queue

section Account

variable {queue next : Broker α} {message : α}

omit [DecidableEq α] in
theorem contents_publish (queue : Broker α) (message : α) :
    (queue.publish message).contents.Perm (message :: queue.contents) := by
  unfold contents publish
  rw [List.append_assoc]
  exact List.perm_middle

omit [DecidableEq α] in
theorem contents_deliver (delivered : queue.deliver = some (message, next)) :
    next.contents.Perm queue.contents := by
  obtain ⟨ready, unacked⟩ := queue
  cases ready with
  | nil => cases delivered
  | cons first rest =>
      cases delivered
      show (rest ++ (unacked ++ [message])).Perm (message :: (rest ++ unacked))
      rw [← List.append_assoc]
      exact List.perm_append_singleton message (rest ++ unacked)

omit [DecidableEq α] in
theorem contents_disconnect (queue : Broker α) : queue.disconnect.contents.Perm queue.contents := by
  unfold contents disconnect
  rw [List.append_nil]
  exact List.perm_append_comm

omit [DecidableEq α] in
/-- What is delivered was in the queue. -/
theorem mem_of_deliver (delivered : queue.deliver = some (message, next)) :
    message ∈ queue.contents := by
  obtain ⟨ready, unacked⟩ := queue
  cases ready with
  | nil => cases delivered
  | cons first rest =>
      cases delivered
      exact List.mem_cons_self

omit [DecidableEq α] in
theorem ready_deliver (delivered : queue.deliver = some (message, next)) :
    queue.ready = message :: next.ready := by
  obtain ⟨ready, unacked⟩ := queue
  cases ready with
  | nil => cases delivered
  | cons first rest =>
      cases delivered
      rfl

omit [DecidableEq α] in
theorem unacked_deliver (delivered : queue.deliver = some (message, next)) :
    next.unacked = queue.unacked ++ [message] := by
  obtain ⟨ready, unacked⟩ := queue
  cases ready with
  | nil => cases delivered
  | cons first rest =>
      cases delivered
      rfl

theorem settle_subset (message : α) (queue : Broker α) :
    (queue.settle message).contents ⊆ queue.contents := by
  intro other member
  rcases List.mem_append.mp member with waits | held
  · exact List.mem_append_left _ waits
  · exact List.mem_append_right _ (List.mem_of_mem_erase held)

theorem contents_settle (member : message ∈ queue.unacked) :
    queue.contents.Perm (message :: (queue.settle message).contents) := by
  unfold contents settle
  have removed := List.perm_cons_erase member
  exact (removed.append_left queue.ready).trans List.perm_middle

theorem contents_requeue (queue : Broker α) (message : α) :
    (queue.requeue message).contents.Perm queue.contents := by
  unfold requeue
  split
  · rename_i member
    exact (contents_settle member).symm
  · exact List.Perm.refl _

/-- What a settlement leaves. -/
theorem mem_contents_settle {other : α} (different : other ≠ message) :
    other ∈ (queue.settle message).contents ↔ other ∈ queue.contents := by
  unfold contents settle
  rw [List.mem_append, List.mem_append, List.mem_erase_of_ne different]

end Account

end Broker

end AimServer.Lib
