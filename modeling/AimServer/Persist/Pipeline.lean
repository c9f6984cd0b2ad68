import AimServer.Session.Chat
import AimServer.Lib.Broker
import AimServer.Lib.Run

/-!
Contract: chat persistence across IMServer, the broker and GoChatPersister.

Owns: the persistence part of `OnChatResponse` with the publisher's
connection, the persister's durable queue and its binding, `Run` and
`consumeOnce` with every stop and connection loss in between, and one delivery
from the client buffer to its `Ack` or `Nack`.

Does not own: the rest of `OnChatResponse`, and the JSON text of an event: a
body is what `json.Unmarshal` makes of it.

Messages are numbered as they are sent, so that two equal messages stay two;
no code sees the numbers. Both sides declare the exchange before they use it.
A message that is published while no queue is bound is discarded by the
broker, and `amqp_basic_publish` still reports success. The queue and its
binding are durable. An `INSERT` of IMServer succeeds; whether the `n`-th
`INSERT` of a message by the persister succeeds is `db message n`.
-/

namespace AimServer

open AimServer.Lib

/-- A message with its number; `none` is a body that does not decode. -/
structure QueuedEvent where
  message : Nat
  body : Option ChatEvent
deriving DecidableEq, Repr

/-- One round of the delivery loop: in `select`, with a delivery taken, saved
before its `Ack`, refused or undecodable before its `Nack`. -/
inductive ConsumerTask where
  | select
  | received (delivery : QueuedEvent)
  | saved (delivery : QueuedEvent)
  | refused (delivery : QueuedEvent)
  | malformed (delivery : QueuedEvent)
deriving DecidableEq, Repr

/-- `consumeOnce` after `Consume`. The client library buffers deliveries; when
the connection is lost the loop learns of it at its next `select`. -/
structure Consumer where
  linked : Bool
  inbox : List QueuedEvent
  task : ConsumerTask
deriving DecidableEq, Repr

/-- The persister process: not running, between two calls of `consumeOnce`, or
in one, by the last call on the channel that succeeded. -/
inductive Persister where
  | down
  | waiting
  | opened
  | exchangeDeclared
  | queueDeclared
  | queueBound
  | prefetchSet
  | consuming (consumer : Consumer)
deriving DecidableEq, Repr

/-- The delivery a consumer works on. -/
def ConsumerTask.delivery : ConsumerTask → Option QueuedEvent
  | .select => none
  | .received delivery => some delivery
  | .saved delivery => some delivery
  | .refused delivery => some delivery
  | .malformed delivery => some delivery

/-- The deliveries the process holds, in the order it will work on them. -/
def Persister.holding : Persister → List QueuedEvent
  | .consuming consumer => consumer.task.delivery.toList ++ consumer.inbox
  | _ => []

structure Pipeline where
  /-- The number of the next message. -/
  next : Nat
  /-- The calls of `OnChatResponse` that have returned. -/
  returned : List (Nat × ChatEvent)
  /-- Those that could not publish and have yet to run their `INSERT`. -/
  writing : List (Nat × ChatEvent)
  /-- `m_connected` of the publisher. -/
  publisher : Bool
  /-- The queue is bound to the exchange. -/
  bound : Bool
  queue : Broker QueuedEvent
  persister : Persister
  /-- `t_chatmsg`, with the message each row comes from. -/
  rows : List (Nat × ChatMsgRow)
  /-- How often the persister tried to insert a message. -/
  attempts : Nat → Nat
  /-- How often a message was put back by a `Nack`. -/
  requeues : Nat → Nat

/-- How `Publish` fares: whether there is a publisher, whether a missing
connection can be opened, and whether `amqp_basic_publish` reports success. -/
structure PublishOutcome where
  enabled : Bool
  connects : Bool
  sent : Bool
deriving DecidableEq, Repr

inductive PipelineStep where
  /-- `OnChatResponse` up to the decision whether to insert. -/
  | chat (event : ChatEvent) (outcome : PublishOutcome)
  /-- The `INSERT` of a call that could not publish. -/
  | insert (message : Nat) (now : Int)
  /-- A body on the exchange that does not decode. -/
  | garbage
  | stopServer
  | startPersister
  | stopPersister
  /-- The next call of `consumeOnce` up to `Consume`, and whether it succeeds. -/
  | setup (ok : Bool)
  | loseConnection
  | deliver
  | receive
  | handle (now : Int)
  | settle
  /-- `select` finds the delivery channel closed. -/
  | notice
deriving DecidableEq, Repr

/-- `Prefetch` of the configuration. -/
def prefetch : Nat := 16

namespace Pipeline

/-- A start on a broker that has the binding from earlier or not. -/
def init (next : Nat) (bound : Bool) : Pipeline where
  next := next
  returned := []
  writing := []
  publisher := false
  bound := bound
  queue := .empty
  persister := .down
  rows := []
  attempts := fun _ => 0
  requeues := fun _ => 0

/-- The broker routes a message to the bound queue or discards it. -/
def route (delivery : QueuedEvent) (p : Pipeline) : Pipeline :=
  if p.bound then { p with queue := p.queue.publish delivery } else p

/-- `Publish` reports success. -/
def publishes (p : Pipeline) (outcome : PublishOutcome) : Bool :=
  outcome.enabled && (p.publisher || outcome.connects) && outcome.sent

/-- `m_connected` after `Publish`. -/
def publisherAfter (p : Pipeline) (outcome : PublishOutcome) : Bool :=
  if outcome.enabled then (p.publisher || outcome.connects) && outcome.sent else p.publisher

/-- `OnChatResponse`: publish, else go on to the `INSERT`. -/
def chat (event : ChatEvent) (outcome : PublishOutcome) (p : Pipeline) : Pipeline :=
  let sent := { p with next := p.next + 1, publisher := p.publisherAfter outcome }
  if p.publishes outcome then
    { sent.route ⟨p.next, some event⟩ with returned := p.returned ++ [(p.next, event)] }
  else { sent with writing := p.writing ++ [(p.next, event)] }

def insert (message : Nat) (now : Int) (p : Pipeline) : Pipeline :=
  match p.writing.find? fun entry => entry.1 = message with
  | none => p
  | some entry =>
      { p with
        writing := p.writing.erase entry
        rows := p.rows ++ [(entry.1, entry.2.savedRow now)]
        returned := p.returned ++ [entry] }

/-- The connection of the persister is closed. -/
def disconnect (persister : Persister) (p : Pipeline) : Pipeline :=
  { p with queue := p.queue.disconnect, persister := persister }

/-- `consumeOnce` up to `Consume`. -/
def setup (ok : Bool) (p : Pipeline) : Pipeline :=
  match p.persister, ok with
  | .waiting, true => { p with persister := .opened }
  | .opened, true => { p with persister := .exchangeDeclared }
  | .exchangeDeclared, true => { p with persister := .queueDeclared }
  | .queueDeclared, true => { p with persister := .queueBound, bound := true }
  | .queueBound, true => { p with persister := .prefetchSet }
  | .prefetchSet, true => { p with persister := .consuming ⟨true, [], .select⟩ }
  | .opened, false | .exchangeDeclared, false | .queueDeclared, false | .queueBound, false
  | .prefetchSet, false => p.disconnect .waiting
  | _, _ => p

def loseConnection (p : Pipeline) : Pipeline :=
  match p.persister with
  | .consuming consumer =>
      if consumer.linked then p.disconnect (.consuming { consumer with linked := false }) else p
  | .down | .waiting => p
  | _ => p.disconnect .waiting

/-- The broker pushes the oldest message unless the prefetch count is reached. -/
def deliver (p : Pipeline) : Pipeline :=
  match p.persister, p.queue.deliver with
  | .consuming consumer, some (delivery, queue) =>
      if consumer.linked ∧ p.queue.unacked.length < prefetch then
        { p with
          queue := queue
          persister := .consuming { consumer with inbox := consumer.inbox ++ [delivery] } }
      else p
  | _, _ => p

/-- `d, ok := <-deliveries`. -/
def receive (p : Pipeline) : Pipeline :=
  match p.persister with
  | .consuming ⟨linked, delivery :: rest, .select⟩ =>
      { p with persister := .consuming ⟨linked, rest, .received delivery⟩ }
  | _ => p

/-- `json.Unmarshal` and `save`. -/
def handle (db : Nat → Nat → Bool) (now : Int) (p : Pipeline) : Pipeline :=
  match p.persister with
  | .consuming ⟨linked, inbox, .received delivery⟩ =>
      match delivery.body with
      | none => { p with persister := .consuming ⟨linked, inbox, .malformed delivery⟩ }
      | some event =>
          let tried := Function.update p.attempts delivery.message
            (p.attempts delivery.message + 1)
          if db delivery.message (p.attempts delivery.message) then
            { p with
              persister := .consuming ⟨linked, inbox, .saved delivery⟩
              rows := p.rows ++ [(delivery.message, event.savedRow now)]
              attempts := tried }
          else
            { p with
              persister := .consuming ⟨linked, inbox, .refused delivery⟩
              attempts := tried }
  | _ => p

/-- `Ack` after a save, `Nack` with requeue after a refused one, `Nack` without
for a body that does not decode. Without a connection none of them arrives. -/
def settle (p : Pipeline) : Pipeline :=
  match p.persister with
  | .consuming ⟨linked, inbox, .refused delivery⟩ =>
      let p := { p with persister := .consuming ⟨linked, inbox, .select⟩ }
      if linked then
        { p with
          queue := p.queue.requeue delivery
          requeues := Function.update p.requeues delivery.message
            (p.requeues delivery.message + 1) }
      else p
  | .consuming ⟨linked, inbox, .saved delivery⟩
  | .consuming ⟨linked, inbox, .malformed delivery⟩ =>
      let p := { p with persister := .consuming ⟨linked, inbox, .select⟩ }
      if linked then { p with queue := p.queue.settle delivery } else p
  | _ => p

/-- `consumeOnce` returns when the delivery channel is closed, and `Run` waits. -/
def notice (p : Pipeline) : Pipeline :=
  match p.persister with
  | .consuming ⟨false, _, .select⟩ => { p with persister := .waiting }
  | _ => p

def step (db : Nat → Nat → Bool) (p : Pipeline) : PipelineStep → Pipeline
  | .chat event outcome => p.chat event outcome
  | .insert message now => p.insert message now
  | .garbage => { p with next := p.next + 1 }.route ⟨p.next, none⟩
  | .stopServer => { p with writing := [], publisher := false }
  | .startPersister =>
      match p.persister with
      | .down => { p with persister := .waiting }
      | _ => p
  | .stopPersister => p.disconnect .down
  | .setup ok => p.setup ok
  | .loseConnection => p.loseConnection
  | .deliver => p.deliver
  | .receive => p.receive
  | .handle now => p.handle db now
  | .settle => p.settle
  | .notice => p.notice

/-- `consumeOnce` up to `Consume`, every call successful. -/
def connect : List PipelineStep :=
  [.setup true, .setup true, .setup true, .setup true, .setup true, .setup true]

/-- The message of the sample runs. -/
def Sample.event : ChatEvent := ⟨1, 2, str "hi", 0, [], 0, [], 0, [], 1700000000⟩

/-! ### What a step can do -/

/-- A phase of the persister in which it has no delivery. -/
def Quiet : Persister → Prop
  | .consuming consumer => consumer.inbox = [] ∧ consumer.task = .select
  | _ => True

inductive Moves (db : Nat → Nat → Bool) (p : Pipeline) : PipelineStep → Pipeline → Prop
  | still (label : PipelineStep) (silent : ∀ event outcome, label ≠ .chat event outcome) :
      Moves db p label p
  | published (event : ChatEvent) (outcome : PublishOutcome)
      (sent : p.publishes outcome = true) (isBound : p.bound = true) :
      Moves db p (.chat event outcome)
        { p with
          next := p.next + 1
          publisher := p.publisherAfter outcome
          queue := p.queue.publish ⟨p.next, some event⟩
          returned := p.returned ++ [(p.next, event)] }
  | discarded (event : ChatEvent) (outcome : PublishOutcome)
      (sent : p.publishes outcome = true) (unbound : p.bound = false) :
      Moves db p (.chat event outcome)
        { p with
          next := p.next + 1
          publisher := p.publisherAfter outcome
          returned := p.returned ++ [(p.next, event)] }
  | fellBack (event : ChatEvent) (outcome : PublishOutcome)
      (refused : p.publishes outcome = false) :
      Moves db p (.chat event outcome)
        { p with
          next := p.next + 1
          publisher := p.publisherAfter outcome
          writing := p.writing ++ [(p.next, event)] }
  | inserted (entry : Nat × ChatEvent) (now : Int) (member : entry ∈ p.writing) :
      Moves db p (.insert entry.1 now)
        { p with
          writing := p.writing.erase entry
          rows := p.rows ++ [(entry.1, entry.2.savedRow now)]
          returned := p.returned ++ [entry] }
  | garbage (routed : Bool) :
      Moves db p .garbage
        { p with
          next := p.next + 1
          queue := if routed then p.queue.publish ⟨p.next, none⟩ else p.queue }
  | serverStopped : Moves db p .stopServer { p with writing := [], publisher := false }
  | moved (label : PipelineStep) (silent : ∀ event outcome, label ≠ .chat event outcome)
      (persister : Persister) (isBound : Bool) (grows : p.bound = true → isBound = true)
      (before : ∀ consumer, p.persister = .consuming consumer →
        consumer.linked = false ∧ consumer.task = .select)
      (after : Quiet persister) :
      Moves db p label { p with persister := persister, bound := isBound }
  | disconnected (label : PipelineStep) (isEnd : label = .stopPersister ∨
        label = .loseConnection ∨ label = .setup false) (persister : Persister)
      (before : label = .setup false → ∀ consumer, p.persister ≠ .consuming consumer)
      (after : persister = .down ∨ persister = .waiting ∨
        ∃ consumer, p.persister = .consuming consumer ∧ consumer.linked = true ∧
          persister = .consuming { consumer with linked := false }) :
      Moves db p label (p.disconnect persister)
  | delivered (inbox : List QueuedEvent) (task : ConsumerTask) (delivery : QueuedEvent)
      (queue : Broker QueuedEvent) (isConsumer : p.persister = .consuming ⟨true, inbox, task⟩)
      (taken : p.queue.deliver = some (delivery, queue)) :
      Moves db p .deliver
        { p with
          queue := queue
          persister := .consuming ⟨true, inbox ++ [delivery], task⟩ }
  | received (linked : Bool) (delivery : QueuedEvent) (rest : List QueuedEvent)
      (isConsumer : p.persister = .consuming ⟨linked, delivery :: rest, .select⟩) :
      Moves db p .receive { p with persister := .consuming ⟨linked, rest, .received delivery⟩ }
  | malformed (now : Int) (linked : Bool) (inbox : List QueuedEvent) (delivery : QueuedEvent)
      (isConsumer : p.persister = .consuming ⟨linked, inbox, .received delivery⟩)
      (isMalformed : delivery.body = none) :
      Moves db p (.handle now)
        { p with persister := .consuming ⟨linked, inbox, .malformed delivery⟩ }
  | saved (now : Int) (linked : Bool) (inbox : List QueuedEvent) (delivery : QueuedEvent)
      (event : ChatEvent)
      (isConsumer : p.persister = .consuming ⟨linked, inbox, .received delivery⟩)
      (isEvent : delivery.body = some event)
      (accepted : db delivery.message (p.attempts delivery.message) = true) :
      Moves db p (.handle now)
        { p with
          persister := .consuming ⟨linked, inbox, .saved delivery⟩
          rows := p.rows ++ [(delivery.message, event.savedRow now)]
          attempts := Function.update p.attempts delivery.message
            (p.attempts delivery.message + 1) }
  | refused (now : Int) (linked : Bool) (inbox : List QueuedEvent) (delivery : QueuedEvent)
      (event : ChatEvent)
      (isConsumer : p.persister = .consuming ⟨linked, inbox, .received delivery⟩)
      (isEvent : delivery.body = some event)
      (rejected : db delivery.message (p.attempts delivery.message) = false) :
      Moves db p (.handle now)
        { p with
          persister := .consuming ⟨linked, inbox, .refused delivery⟩
          attempts := Function.update p.attempts delivery.message
            (p.attempts delivery.message + 1) }
  | unheard (inbox : List QueuedEvent) (task : ConsumerTask)
      (isConsumer : p.persister = .consuming ⟨false, inbox, task⟩) :
      Moves db p .settle { p with persister := .consuming ⟨false, inbox, .select⟩ }
  | settled (inbox : List QueuedEvent) (delivery : QueuedEvent) (task : ConsumerTask)
      (isConsumer : p.persister = .consuming ⟨true, inbox, task⟩)
      (isTask : task = .saved delivery ∨ task = .malformed delivery) :
      Moves db p .settle
        { p with
          persister := .consuming ⟨true, inbox, .select⟩
          queue := p.queue.settle delivery }
  | requeued (inbox : List QueuedEvent) (delivery : QueuedEvent)
      (isConsumer : p.persister = .consuming ⟨true, inbox, .refused delivery⟩) :
      Moves db p .settle
        { p with
          persister := .consuming ⟨true, inbox, .select⟩
          queue := p.queue.requeue delivery
          requeues := Function.update p.requeues delivery.message
            (p.requeues delivery.message + 1) }

theorem holding_of_quiet {persister : Persister} (quiet : Quiet persister) :
    persister.holding = [] := by
  cases persister with
  | consuming consumer =>
      obtain ⟨isEmpty, isSelect⟩ := quiet
      rw [Persister.holding, isEmpty, isSelect]
      rfl
  | _ => rfl

section Steps

variable {db : Nat → Nat → Bool} {p : Pipeline}

theorem chat_moves (event : ChatEvent) (outcome : PublishOutcome) :
    Moves db p (.chat event outcome) (p.chat event outcome) := by
  unfold chat
  by_cases sent : p.publishes outcome = true
  · rw [if_pos sent]
    unfold route
    by_cases isBound : p.bound = true
    · rw [if_pos isBound]
      exact .published event outcome sent isBound
    · rw [if_neg isBound]
      exact .discarded event outcome sent (Bool.eq_false_of_not_eq_true isBound)
  · rw [if_neg sent]
    exact .fellBack event outcome (Bool.eq_false_of_not_eq_true sent)

theorem insert_moves (message : Nat) (now : Int) :
    Moves db p (.insert message now) (p.insert message now) := by
  unfold insert
  split
  · exact .still _ (by intro _ _ same; cases same)
  · rename_i entry found
    have isMessage : entry.1 = message := by simpa using List.find?_some found
    subst isMessage
    exact .inserted entry now (List.mem_of_find?_eq_some found)

/-- A successful call of `consumeOnce` before `Consume`. -/
theorem setup_moves (ok : Bool) : Moves db p (.setup ok) (p.setup ok) := by
  have silent : ∀ event outcome, PipelineStep.setup ok ≠ .chat event outcome := by
    intro _ _ same
    cases same
  have onward : ∀ {here there : Persister} (isBound : Bool), p.persister = here →
      (∀ consumer, here ≠ .consuming consumer) → (p.bound = true → isBound = true) →
      Quiet there → Moves db p (.setup ok) { p with persister := there, bound := isBound } := by
    intro here there isBound isHere early grows quiet
    refine .moved _ silent there isBound grows ?_ quiet
    intro consumer isConsumer
    exact absurd (isHere.symm.trans isConsumer) (early consumer)
  have failed : ∀ {here : Persister}, ok = false → p.persister = here →
      (∀ consumer, here ≠ .consuming consumer) →
      Moves db p (.setup ok) (p.disconnect .waiting) := by
    intro here notOk isHere early
    subst notOk
    refine .disconnected _ (Or.inr (Or.inr rfl)) .waiting ?_ (Or.inr (Or.inl rfl))
    intro _ consumer isConsumer
    exact early consumer (isHere.symm.trans isConsumer)
  unfold setup
  cases isHere : p.persister with
  | down => cases ok <;> exact .still _ silent
  | consuming consumer => cases ok <;> exact .still _ silent
  | waiting =>
      cases ok with
      | false => exact .still _ silent
      | true => exact onward p.bound isHere (by intro _ same; cases same) id trivial
  | opened =>
      cases ok with
      | false => exact failed rfl isHere (by intro _ same; cases same)
      | true => exact onward p.bound isHere (by intro _ same; cases same) id trivial
  | exchangeDeclared =>
      cases ok with
      | false => exact failed rfl isHere (by intro _ same; cases same)
      | true => exact onward p.bound isHere (by intro _ same; cases same) id trivial
  | queueDeclared =>
      cases ok with
      | false => exact failed rfl isHere (by intro _ same; cases same)
      | true => exact onward true isHere (by intro _ same; cases same) (fun _ => rfl) trivial
  | queueBound =>
      cases ok with
      | false => exact failed rfl isHere (by intro _ same; cases same)
      | true => exact onward p.bound isHere (by intro _ same; cases same) id trivial
  | prefetchSet =>
      cases ok with
      | false => exact failed rfl isHere (by intro _ same; cases same)
      | true => exact onward p.bound isHere (by intro _ same; cases same) id ⟨rfl, rfl⟩

theorem loseConnection_moves : Moves db p .loseConnection p.loseConnection := by
  have silent : ∀ event outcome, PipelineStep.loseConnection ≠ .chat event outcome := by
    intro _ _ same
    cases same
  have closed : Moves db p .loseConnection (p.disconnect .waiting) := by
    refine .disconnected _ (Or.inr (Or.inl rfl)) .waiting ?_ (Or.inr (Or.inl rfl))
    intro same
    cases same
  unfold loseConnection
  cases isHere : p.persister with
  | consuming consumer =>
      dsimp only
      split
      · rename_i linked
        refine .disconnected _ (Or.inr (Or.inl rfl)) _ ?_
          (Or.inr (Or.inr ⟨consumer, isHere, linked, rfl⟩))
        intro same
        cases same
      · exact .still _ silent
  | down => exact .still _ silent
  | waiting => exact .still _ silent
  | opened => exact closed
  | exchangeDeclared => exact closed
  | queueDeclared => exact closed
  | queueBound => exact closed
  | prefetchSet => exact closed

theorem deliver_moves : Moves db p .deliver p.deliver := by
  have silent : ∀ event outcome, PipelineStep.deliver ≠ .chat event outcome := by
    intro _ _ same
    cases same
  unfold deliver
  split
  · rename_i consumer delivery queue isConsumer taken
    split
    · rename_i open'
      obtain ⟨linked, inbox, task⟩ := consumer
      obtain ⟨isLinked, -⟩ := open'
      cases isLinked
      exact .delivered inbox task delivery queue isConsumer taken
    · exact .still _ silent
  · exact .still _ silent

theorem receive_moves : Moves db p .receive p.receive := by
  unfold receive
  split
  · rename_i linked delivery rest isConsumer
    exact .received linked delivery rest isConsumer
  · exact .still _ (by intro _ _ same; cases same)

theorem handle_moves (now : Int) : Moves db p (.handle now) (p.handle db now) := by
  unfold handle
  split
  · rename_i linked inbox delivery isConsumer
    split
    · rename_i isMalformed
      exact .malformed now linked inbox delivery isConsumer isMalformed
    · rename_i event isEvent
      dsimp only
      split
      · rename_i accepted
        exact .saved now linked inbox delivery event isConsumer isEvent accepted
      · rename_i rejected
        exact .refused now linked inbox delivery event isConsumer isEvent
          (Bool.eq_false_of_not_eq_true rejected)
  · exact .still _ (by intro _ _ same; cases same)

theorem settle_moves : Moves db p .settle p.settle := by
  unfold settle
  split
  · rename_i linked inbox delivery isConsumer
    cases linked with
    | true => exact .requeued inbox delivery isConsumer
    | false => exact .unheard inbox _ isConsumer
  · rename_i linked inbox delivery isConsumer
    cases linked with
    | true => exact .settled inbox delivery _ isConsumer (Or.inl rfl)
    | false => exact .unheard inbox _ isConsumer
  · rename_i linked inbox delivery isConsumer
    cases linked with
    | true => exact .settled inbox delivery _ isConsumer (Or.inr rfl)
    | false => exact .unheard inbox _ isConsumer
  · exact .still _ (by intro _ _ same; cases same)

theorem notice_moves : Moves db p .notice p.notice := by
  have silent : ∀ event outcome, PipelineStep.notice ≠ .chat event outcome := by
    intro _ _ same
    cases same
  unfold notice
  split
  · rename_i inbox isConsumer
    refine .moved _ silent .waiting p.bound id ?_ trivial
    intro consumer isHere
    cases isConsumer.symm.trans isHere
    exact ⟨rfl, rfl⟩
  · exact .still _ silent

theorem step_moves (db : Nat → Nat → Bool) (p : Pipeline) (label : PipelineStep) :
    Moves db p label (p.step db label) := by
  cases label with
  | chat event outcome => exact chat_moves event outcome
  | insert message now => exact insert_moves message now
  | garbage =>
      simp only [step, route]
      by_cases isBound : p.bound = true
      · rw [if_pos isBound]
        exact .garbage true
      · rw [if_neg isBound]
        exact .garbage false
  | stopServer => exact .serverStopped
  | startPersister =>
      have silent : ∀ event outcome, PipelineStep.startPersister ≠ .chat event outcome := by
        intro _ _ same
        cases same
      simp only [step]
      split
      · rename_i isDown
        refine .moved _ silent .waiting p.bound id ?_ trivial
        intro consumer isHere
        cases isDown.symm.trans isHere
      · exact .still _ silent
  | stopPersister =>
      refine .disconnected _ (Or.inl rfl) .down ?_ (Or.inl rfl)
      intro same
      cases same
  | setup ok => exact setup_moves ok
  | loseConnection => exact loseConnection_moves
  | deliver => exact deliver_moves
  | receive => exact receive_moves
  | handle now => exact handle_moves now
  | settle => exact settle_moves
  | notice => exact notice_moves

end Steps

end Pipeline

end AimServer
