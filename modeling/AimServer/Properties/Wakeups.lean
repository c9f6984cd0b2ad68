import AimServer.Net.EventLoop

/-!
Contract: what is queued in a loop is called.

Owns: that functors are called once and in the order they were queued, that
the loop never sleeps on a functor or a `quit` without somebody about to wake
it, and that one turn calls all that wait.

Does not own: fairness. A thread that owes a wake-up pays it when it runs.
-/

namespace AimServer.Muduo

open AimServer.Lib

universe u

namespace EventLoop

variable {α : Type u} {loop : EventLoop α}

/-- The queue is not about to be taken: what is queued needs a wake-up. -/
def Sleeps (phase : LoopPhase α) : Prop :=
  match phase with
  | .starting | .polling | .calling _ => True
  | .handling _ | .stopped => False

/-- What holds of a loop at any time. -/
structure Wakes (loop : EventLoop α) : Prop where
  inOrder : loop.queued = loop.called ++ loop.taken ++ loop.pendingFunctors
  functors : Sleeps loop.phase → loop.pendingFunctors ≠ [] → 0 < loop.counter + loop.owing
  quits : loop.phase = .polling → loop.quit = true → 0 < loop.counter + loop.owing

/-- With a wake-up made or owed there is nothing to fear. -/
theorem wakes_of_paid (inOrder : loop.queued = loop.called ++ loop.taken ++ loop.pendingFunctors)
    (paid : 0 < loop.counter + loop.owing) : loop.Wakes :=
  ⟨inOrder, fun _ _ => paid, fun _ _ => paid⟩

/-- Nor when the loop does not sleep. -/
theorem wakes_of_awake
    (inOrder : loop.queued = loop.called ++ loop.taken ++ loop.pendingFunctors)
    (awake : ¬ Sleeps loop.phase) : loop.Wakes := by
  refine ⟨inOrder, fun sleeps => absurd sleeps awake, fun isPolling => ?_⟩
  rw [isPolling] at awake
  exact absurd trivial awake

/-- The order with a functor more in the queue. -/
theorem Wakes.inOrder_push (wakes : loop.Wakes) (functor : α) :
    (loop.push functor).queued =
      (loop.push functor).called ++ (loop.push functor).taken ++
        (loop.push functor).pendingFunctors := by
  show loop.queued ++ [functor] =
    loop.called ++ loop.taken ++ (loop.pendingFunctors ++ [functor])
  rw [wakes.inOrder, List.append_assoc]

theorem Wakes.queueInCall (wakes : loop.Wakes) (functor : α) :
    (loop.queueInCall functor).Wakes :=
  wakes_of_paid (wakes.inOrder_push functor) (Nat.add_pos_left (Nat.succ_pos _) _)

theorem Wakes.queueAllInCall (queues : List α) {loop : EventLoop α} (wakes : loop.Wakes) :
    (queues.foldl EventLoop.queueInCall loop).Wakes := by
  induction queues generalizing loop with
  | nil => exact wakes
  | cons functor queues inductionHypothesis =>
      exact inductionHypothesis (wakes.queueInCall functor)

theorem taken_of_phase {phase : LoopPhase α} (isPhase : loop.phase = phase) :
    loop.taken = phase.functors := by
  rw [taken, isPhase]

theorem Wakes.step (wakes : loop.Wakes) (event : LoopEvent α) : (loop.step event).Wakes := by
  have inOrder := wakes.inOrder
  cases event with
  | queueElsewhere functor =>
      exact wakes_of_paid (wakes.inOrder_push functor) (Nat.add_pos_right _ (Nat.succ_pos _))
  | quitElsewhere => exact wakes_of_paid inOrder (Nat.add_pos_right _ (Nat.succ_pos _))
  | wakeup =>
      dsimp only [EventLoop.step]
      by_cases none : loop.owing = 0
      · rw [if_pos none]
        exact wakes
      · rw [if_neg none]
        exact wakes_of_paid inOrder (Nat.add_pos_left (Nat.succ_pos _) _)
  | loop =>
      dsimp only [EventLoop.step]
      split
      · rename_i isStarting
        rw [taken_of_phase isStarting] at inOrder
        refine ⟨inOrder, fun _ nonempty => wakes.functors ?_ nonempty, fun _ quits => ?_⟩
        · rw [isStarting]
          trivial
        · cases quits
      · exact wakes
  | pollReturns woken =>
      dsimp only [EventLoop.step]
      split
      · rename_i isPolling
        rw [taken_of_phase isPolling] at inOrder
        split
        · exact wakes
        · exact wakes_of_awake inOrder id
      · exact wakes
  | queueInHandler functor =>
      dsimp only [EventLoop.step]
      split
      · rename_i isHandling
        refine wakes_of_awake (wakes.inOrder_push functor) ?_
        show ¬ Sleeps loop.phase
        rw [isHandling]
        exact id
      · exact wakes
  | quitInHandler =>
      dsimp only [EventLoop.step]
      split
      · rename_i isHandling
        refine wakes_of_awake inOrder ?_
        show ¬ Sleeps loop.phase
        rw [isHandling]
        exact id
      · exact wakes
  | handleRead =>
      dsimp only [EventLoop.step]
      split
      · rename_i isHandling
        rw [taken_of_phase isHandling] at inOrder
        exact wakes_of_awake inOrder id
      · exact wakes
  | beginFunctors =>
      dsimp only [EventLoop.step]
      split
      · rename_i isHandling
        rw [taken_of_phase isHandling] at inOrder
        refine ⟨?_, fun _ nonempty => absurd rfl nonempty, fun isPolling => by cases isPolling⟩
        show loop.queued = loop.called ++ loop.pendingFunctors ++ []
        rw [List.append_nil, inOrder]
        exact congrArg (· ++ loop.pendingFunctors) (List.append_nil _)
      · exact wakes
  | callFunctor queues quits =>
      dsimp only [EventLoop.step]
      split
      · rename_i functor functors isCalling
        apply Wakes.queueAllInCall
        rw [taken_of_phase isCalling] at inOrder
        refine ⟨?_, fun _ nonempty => wakes.functors ?_ nonempty,
          fun isPolling => by cases isPolling⟩
        · show loop.queued = loop.called ++ [functor] ++ functors ++ loop.pendingFunctors
          rw [inOrder, List.append_assoc loop.called [functor]]
          rfl
        · rw [isCalling]
          trivial
      · exact wakes
  | endFunctors =>
      dsimp only [EventLoop.step]
      split
      · rename_i isCalling
        rw [taken_of_phase isCalling] at inOrder
        by_cases quits : loop.quit = true
        · rw [if_pos quits]
          exact wakes_of_awake inOrder id
        · rw [if_neg quits]
          refine ⟨inOrder, fun _ nonempty => wakes.functors ?_ nonempty, fun _ isQuit =>
            absurd isQuit quits⟩
          rw [isCalling]
          trivial
      · exact wakes

end EventLoop

end AimServer.Muduo
