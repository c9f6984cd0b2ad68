import AimServer.Lib.Run

/-!
Contract: `EventLoop`, seen by the threads that queue functors in it.

Owns: the queue of functors, the event descriptor that ends a poll, the phases
of one turn of the loop, and who wakes whom and when.

Does not own: what the functors do beyond queueing others, and the channels of
the poll but that of the event descriptor. A mutex section is one step; what a
thread does after it is another.
-/

namespace AimServer.Muduo

open AimServer.Lib

universe u

/-- Where the loop is. -/
inductive LoopPhase (α : Type u) where
  /-- Before `loop()`. -/
  | starting
  /-- In `poll`. -/
  | polling
  /-- Handling the active channels, the event descriptor's or not. -/
  | handling (woken : Bool)
  /-- In `doPendingFunctors`, with those not yet called. -/
  | calling (functors : List α)
  | stopped
deriving DecidableEq, Repr

def LoopPhase.functors {α : Type u} (phase : LoopPhase α) : List α :=
  match phase with
  | .calling functors => functors
  | _ => []

structure EventLoop (α : Type u) where
  quit : Bool
  /-- The count of the event descriptor. -/
  counter : Nat
  pendingFunctors : List α
  phase : LoopPhase α
  /-- Other threads between the queueing, or `quit_`, and their `wakeup()`. -/
  owing : Nat
  /-- For the results: what was queued and what was called. -/
  queued : List α
  called : List α

namespace EventLoop

variable {α : Type u}

def new : EventLoop α :=
  ⟨false, 0, [], .starting, 0, [], []⟩

/-- Functors that are taken out of the queue but not yet called. -/
def taken (loop : EventLoop α) : List α :=
  loop.phase.functors

def push (functor : α) (loop : EventLoop α) : EventLoop α :=
  { loop with
    pendingFunctors := loop.pendingFunctors ++ [functor]
    queued := loop.queued ++ [functor] }

/-- What happens, in the loop's thread or in others. -/
inductive LoopEvent (α : Type u) where
  /-- `queueInLoop` in another thread, up to its `wakeup()`. -/
  | queueElsewhere (functor : α)
  /-- `quit` in another thread, up to its `wakeup()`. -/
  | quitElsewhere
  | wakeup
  | loop
  /-- `poll` returns, with the event descriptor's channel when `woken`; without
  it for another channel, a signal or a timeout. -/
  | pollReturns (woken : Bool)
  /-- A channel's callback queues a functor or quits. -/
  | queueInHandler (functor : α)
  | quitInHandler
  | handleRead
  | beginFunctors
  /-- The next functor is called; it queues these, and may quit. -/
  | callFunctor (queues : List α) (quits : Bool)
  | endFunctors

/-- `queueInLoop` in the loop's thread while functors are called. -/
def queueInCall (loop : EventLoop α) (functor : α) : EventLoop α :=
  { loop.push functor with counter := loop.counter + 1 }

def step (loop : EventLoop α) (event : LoopEvent α) : EventLoop α :=
  match event with
  | .queueElsewhere functor => { loop.push functor with owing := loop.owing + 1 }
  | .quitElsewhere => { loop with quit := true, owing := loop.owing + 1 }
  | .wakeup =>
      if loop.owing = 0 then loop
      else { loop with owing := loop.owing - 1, counter := loop.counter + 1 }
  | .loop =>
      match loop.phase with
      | .starting => { loop with quit := false, phase := .polling }
      | _ => loop
  | .pollReturns woken =>
      match loop.phase with
      | .polling =>
          if woken && loop.counter == 0 then loop
          else { loop with phase := .handling woken }
      | _ => loop
  | .queueInHandler functor =>
      match loop.phase with
      | .handling _ => loop.push functor
      | _ => loop
  | .quitInHandler =>
      match loop.phase with
      | .handling _ => { loop with quit := true }
      | _ => loop
  | .handleRead =>
      match loop.phase with
      | .handling true => { loop with counter := 0, phase := .handling false }
      | _ => loop
  | .beginFunctors =>
      match loop.phase with
      | .handling false =>
          { loop with phase := .calling loop.pendingFunctors, pendingFunctors := [] }
      | _ => loop
  | .callFunctor queues quits =>
      match loop.phase with
      | .calling (functor :: functors) =>
          let loop :=
            { loop with
              phase := .calling functors
              called := loop.called ++ [functor]
              quit := loop.quit || quits }
          queues.foldl queueInCall loop
      | _ => loop
  | .endFunctors =>
      match loop.phase with
      | .calling [] => { loop with phase := if loop.quit then .stopped else .polling }
      | _ => loop

/-- A turn of the loop, woken, that calls so many functors and adds none. -/
def turn (count : Nat) : List (LoopEvent α) :=
  [.pollReturns true, .handleRead, .beginFunctors] ++
    List.replicate count (.callFunctor [] false)

end EventLoop

end AimServer.Muduo
