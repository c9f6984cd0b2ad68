import AimServer.Persist.Pipeline

/-!
Contract: how often the persister puts a message back.

Owns: the theorem that the number of requeues has a bound exactly when the
number of times the database refuses one message has, and the run that puts
one message back any number of times.

A body that does not decode is dropped with `Nack(false, false)`. A message
that decodes and cannot be stored goes back to the queue each time, without a
count of the attempts.
-/

namespace AimServer

open AimServer.Lib

namespace Pipeline

/-- How many of the first attempts to insert a message the database refuses. -/
def refusals (db : Nat → Nat → Bool) (message attempts : Nat) : Nat :=
  (List.range attempts).countP fun attempt => !db message attempt

def refusedTask (message : Nat) : ConsumerTask → Nat
  | .refused delivery => if delivery.message = message then 1 else 0
  | _ => 0

/-- One when the message has been refused and its `Nack` is still to come. -/
def refusedNow (message : Nat) : Persister → Nat
  | .consuming consumer => refusedTask message consumer.task
  | _ => 0

/-- Every requeue answers a refusal. -/
def Counted (db : Nat → Nat → Bool) (p : Pipeline) : Prop :=
  ∀ message, p.requeues message + refusedNow message p.persister ≤
    refusals db message (p.attempts message)

section Count

variable {db : Nat → Nat → Bool} {p : Pipeline}

theorem refusals_succ (db : Nat → Nat → Bool) (message attempts : Nat) :
    refusals db message (attempts + 1) =
      refusals db message attempts + if db message attempts then 0 else 1 := by
  unfold refusals
  rw [List.range_succ, List.countP_append, List.countP_singleton]
  cases db message attempts <;> rfl

theorem refusedNow_of_quiet {persister : Persister} (quiet : Quiet persister) (message : Nat) :
    refusedNow message persister = 0 := by
  cases persister with
  | consuming consumer =>
      rw [refusedNow, quiet.2]
      rfl
  | _ => rfl

theorem counted_step (db : Nat → Nat → Bool) (p : Pipeline) (label : PipelineStep)
    (counted : Counted db p) : Counted db (p.step db label) := by
  generalize isNext : p.step db label = next
  have moves := step_moves db p label
  rw [isNext] at moves
  intro message
  have before := counted message
  cases moves with
  | moved _ _ persister isBound _ _ after =>
      show p.requeues message + refusedNow message persister ≤ _
      rw [refusedNow_of_quiet after]
      exact le_trans (Nat.le_add_right _ _) before
  | disconnected _ _ persister _ after =>
      show p.requeues message + refusedNow message persister ≤ _
      rcases after with rfl | rfl | ⟨consumer, isConsumer, -, rfl⟩
      · exact le_trans (Nat.le_add_right _ _) before
      · exact le_trans (Nat.le_add_right _ _) before
      · rw [isConsumer] at before
        exact before
  | delivered inbox task delivery queue isConsumer taken =>
      rw [isConsumer] at before
      exact before
  | received linked delivery rest isConsumer =>
      rw [isConsumer] at before
      exact before
  | malformed now linked inbox delivery isConsumer isMalformed =>
      rw [isConsumer] at before
      exact before
  | saved now linked inbox delivery event isConsumer isEvent accepted =>
      rw [isConsumer] at before
      show p.requeues message + 0 ≤ refusals db message
        (Function.update p.attempts delivery.message (p.attempts delivery.message + 1) message)
      by_cases same : message = delivery.message
      · subst same
        rw [Function.update_self, refusals_succ]
        exact le_trans before (Nat.le_add_right _ _)
      · rw [Function.update_of_ne same]
        exact before
  | refused now linked inbox delivery event isConsumer isEvent rejected =>
      rw [isConsumer] at before
      show p.requeues message + (if delivery.message = message then 1 else 0) ≤ refusals db message
        (Function.update p.attempts delivery.message (p.attempts delivery.message + 1) message)
      by_cases same : delivery.message = message
      · subst same
        rw [Function.update_self, refusals_succ, rejected, if_pos rfl]
        exact Nat.add_le_add_right before 1
      · rw [Function.update_of_ne (Ne.symm same), if_neg same]
        exact before
  | unheard inbox task isConsumer =>
      exact le_trans (Nat.le_add_right _ _) before
  | settled inbox delivery task isConsumer isTask =>
      exact le_trans (Nat.le_add_right _ _) before
  | requeued inbox delivery isConsumer =>
      rw [isConsumer] at before
      show Function.update p.requeues delivery.message (p.requeues delivery.message + 1) message +
        0 ≤ _
      by_cases same : delivery.message = message
      · subst same
        rw [Function.update_self]
        simpa [refusedNow, refusedTask] using before
      · rw [Function.update_of_ne (Ne.symm same)]
        exact le_trans (Nat.le_add_right _ _) before
  | _ => exact before

theorem requeues_le_refusals (db : Nat → Nat → Bool) (next : Nat) (bound : Bool)
    (labels : List PipelineStep) (message : Nat) :
    (run (step db) (init next bound) labels).requeues message ≤
      refusals db message ((run (step db) (init next bound) labels).attempts message) := by
  have counted : Counted db (run (step db) (init next bound) labels) := by
    refine run_keeps (Counted db) (counted_step db) ?_
    intro message
    exact Nat.zero_le _
  exact le_trans (Nat.le_add_right _ _) (counted message)

end Count

/-! ### A message that goes round -/

section Loop

variable {db : Nat → Nat → Bool} {p : Pipeline} {message : Nat} {event : ChatEvent}

/-- A delivery that is refused and put back. -/
def refusedRound : List PipelineStep :=
  [.deliver, .receive, .handle 0, .settle]

/-- A delivery that is saved, the loss of its `Ack`, and a new connection. -/
def unconfirmedRound : List PipelineStep :=
  .deliver :: .receive :: .handle 0 :: .loseConnection :: .settle :: .notice :: connect

/-- The persister is connected and the message, attempted so many times, is the
only one in the queue. -/
structure Waits (db : Nat → Nat → Bool) (message : Nat) (event : ChatEvent) (attempts : Nat)
    (p : Pipeline) : Prop where
  queue : p.queue = ⟨[⟨message, some event⟩], []⟩
  persister : p.persister = .consuming ⟨true, [], .select⟩
  tried : p.attempts message = attempts
  requeues : p.requeues message = refusals db message attempts

/-- A refused attempt brings the message back. -/
theorem waits_of_refused {attempts : Nat} (waits : Waits db message event attempts p)
    (rejected : db message attempts = false) :
    Waits db message event (attempts + 1) (run (step db) p refusedRound) := by
  obtain ⟨next, returned, writing, publisher, bound, queue, persister, rows, tried, requeues⟩ := p
  obtain ⟨rfl, rfl, rfl, isCount⟩ := waits
  have ended : run (step db) (Pipeline.mk next returned writing publisher bound
      ⟨[⟨message, some event⟩], []⟩ (.consuming ⟨true, [], .select⟩) rows tried requeues)
        refusedRound =
      Pipeline.mk next returned writing publisher bound ⟨[⟨message, some event⟩], []⟩
        (.consuming ⟨true, [], .select⟩) rows
        (Function.update tried message (tried message + 1))
        (Function.update requeues message (requeues message + 1)) := by
    simp [refusedRound, step, deliver, receive, handle, settle, Broker.deliver, Broker.requeue,
      prefetch, rejected]
  rw [ended]
  refine ⟨rfl, rfl, Function.update_self _ _ _, ?_⟩
  show Function.update requeues message (requeues message + 1) message = _
  rw [Function.update_self, refusals_succ, rejected]
  exact congrArg (· + 1) isCount

/-- An accepted attempt whose `Ack` does not arrive brings it back too. -/
theorem waits_of_accepted {attempts : Nat} (waits : Waits db message event attempts p)
    (accepted : db message attempts = true) :
    Waits db message event (attempts + 1) (run (step db) p unconfirmedRound) := by
  obtain ⟨next, returned, writing, publisher, bound, queue, persister, rows, tried, requeues⟩ := p
  obtain ⟨rfl, rfl, rfl, isCount⟩ := waits
  have ended : run (step db) (Pipeline.mk next returned writing publisher bound
      ⟨[⟨message, some event⟩], []⟩ (.consuming ⟨true, [], .select⟩) rows tried requeues)
        unconfirmedRound =
      Pipeline.mk next returned writing publisher true ⟨[⟨message, some event⟩], []⟩
        (.consuming ⟨true, [], .select⟩) (rows ++ [(message, event.savedRow 0)])
        (Function.update tried message (tried message + 1)) requeues := by
    simp [unconfirmedRound, connect, step, deliver, receive, handle, settle, loseConnection,
      notice, setup, disconnect, Broker.deliver, Broker.disconnect, prefetch, accepted]
  rw [ended]
  refine ⟨rfl, rfl, Function.update_self _ _ _, ?_⟩
  show requeues message = _
  rw [refusals_succ, accepted]
  exact isCount

/-- Any number of attempts can be made. -/
theorem waits_run (db : Nat → Nat → Bool) (message : Nat) (event : ChatEvent) (attempts : Nat) :
    ∃ labels, Waits db message event attempts (run (step db) (init message true) labels) := by
  induction attempts with
  | zero =>
      refine ⟨.chat event ⟨true, true, true⟩ :: .startPersister :: connect, ?_⟩
      exact ⟨rfl, rfl, rfl, rfl⟩
  | succ attempts inductionHypothesis =>
      obtain ⟨labels, waits⟩ := inductionHypothesis
      cases verdict : db message attempts with
      | false =>
          refine ⟨labels ++ refusedRound, ?_⟩
          rw [run_append]
          exact waits_of_refused waits verdict
      | true =>
          refine ⟨labels ++ unconfirmedRound, ?_⟩
          rw [run_append]
          exact waits_of_accepted waits verdict

end Loop

/-- The number of requeues of one message has a bound over all runs exactly when
the number of its refused inserts has. -/
theorem requeues_bounded_iff (db : Nat → Nat → Bool) :
    (∃ most, ∀ (next : Nat) (bound : Bool) (labels : List PipelineStep) (message : Nat),
        (run (step db) (init next bound) labels).requeues message ≤ most) ↔
      ∃ most, ∀ message attempts, refusals db message attempts ≤ most := by
  constructor
  · intro bounded
    obtain ⟨most, bounds⟩ := bounded
    refine ⟨most, ?_⟩
    intro message attempts
    obtain ⟨labels, waits⟩ := waits_run db message Sample.event attempts
    rw [← waits.requeues]
    exact bounds message true labels message
  · intro bounded
    obtain ⟨most, bounds⟩ := bounded
    refine ⟨most, ?_⟩
    intro next bound labels message
    exact le_trans (requeues_le_refusals db next bound labels message) (bounds message _)

/-- A message the database never takes goes round forever. -/
theorem requeues_unbounded :
    ¬ ∃ most, ∀ (db : Nat → Nat → Bool) (next : Nat) (bound : Bool) (labels : List PipelineStep)
      (message : Nat), (run (step db) (init next bound) labels).requeues message ≤ most := by
  intro bounded
  obtain ⟨most, bounds⟩ := bounded
  obtain ⟨labels, waits⟩ := waits_run (fun _ _ => false) 0 Sample.event (most + 1)
  have all : refusals (fun _ _ => false) 0 (most + 1) = most + 1 := by
    simp [refusals]
  have tooMany := bounds (fun _ _ => false) 0 true labels 0
  rw [waits.requeues, all] at tooMany
  omega

end Pipeline

end AimServer
