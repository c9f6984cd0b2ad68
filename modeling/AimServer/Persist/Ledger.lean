import AimServer.Persist.Pipeline

/-!
Contract: what every run of the pipeline keeps.

Owns: the numbers of the messages a state knows, that rows are only added,
what the task of a consumer says about its delivery, and that the broker's
unacknowledged messages are those the connected consumer holds.

Does not own: any property of the persistence as a whole.
-/

namespace AimServer

open AimServer.Lib

namespace Pipeline

/-- What the task of a consumer says about its delivery. -/
def TaskSound (p : Pipeline) : ConsumerTask → Prop
  | .saved delivery => ∃ event now, delivery.body = some event ∧
      (delivery.message, event.savedRow now) ∈ p.rows
  | .malformed delivery => delivery.body = none
  | _ => True

/-- The messages that a row, a call, the queue or the persister has. -/
def messages (p : Pipeline) : List Nat :=
  p.rows.map Prod.fst ++ p.writing.map Prod.fst ++ p.queue.contents.map QueuedEvent.message ++
    p.persister.holding.map QueuedEvent.message

structure Sound (p : Pipeline) : Prop where
  numbered : ∀ message ∈ p.messages, message < p.next
  task : ∀ consumer, p.persister = .consuming consumer → p.TaskSound consumer.task

section Steps

variable {db : Nat → Nat → Bool} {p : Pipeline}

theorem mem_messages {message : Nat} :
    message ∈ p.messages ↔
      (∃ row, (message, row) ∈ p.rows) ∨ (∃ event, (message, event) ∈ p.writing) ∨
        (∃ body, ⟨message, body⟩ ∈ p.queue.contents) ∨
        ∃ body, ⟨message, body⟩ ∈ p.persister.holding := by
  have numbered : ∀ deliveries : List QueuedEvent, message ∈ deliveries.map QueuedEvent.message ↔
      ∃ body, ⟨message, body⟩ ∈ deliveries := by
    intro deliveries
    rw [List.mem_map]
    constructor
    · intro found
      obtain ⟨delivery, member, rfl⟩ := found
      exact ⟨delivery.body, member⟩
    · intro found
      obtain ⟨body, member⟩ := found
      exact ⟨_, member, rfl⟩
  simp only [messages, List.mem_append, numbered, List.mem_map, Prod.exists, exists_and_right,
    exists_eq_right, or_assoc]

theorem mem_messages_of_same {next : Pipeline} {message : Nat} (named : message ∈ next.messages)
    (rows : next.rows = p.rows) (writing : next.writing = p.writing) (queue : next.queue = p.queue)
    (holding : next.persister.holding = p.persister.holding) : message ∈ p.messages := by
  unfold messages at named ⊢
  rwa [rows, writing, queue, holding] at named

/-- Numbers are given out in order. -/
theorem next_le_step (db : Nat → Nat → Bool) (p : Pipeline) (label : PipelineStep) :
    p.next ≤ (p.step db label).next := by
  generalize isNext : p.step db label = next
  have moves := step_moves db p label
  rw [isNext] at moves
  cases moves with
  | published event outcome sent isBound => exact Nat.le_succ _
  | discarded event outcome sent unbound => exact Nat.le_succ _
  | fellBack event outcome refused => exact Nat.le_succ _
  | garbage routed => exact Nat.le_succ _
  | _ => exact le_refl _

/-- No step names a message that is not sent yet. -/
theorem messages_step (db : Nat → Nat → Bool) (p : Pipeline) (label : PipelineStep) :
    ∀ message ∈ (p.step db label).messages,
      message ∈ p.messages ∨ message < (p.step db label).next := by
  generalize isNext : p.step db label = next
  have moves := step_moves db p label
  rw [isNext] at moves
  intro message named
  cases moves with
  | still _ _ => exact Or.inl named
  | published event outcome sent isBound =>
      simp only [mem_messages, (p.queue.contents_publish _).mem_iff, List.mem_cons] at named ⊢
      grind
  | discarded event outcome sent unbound =>
      exact Or.inl named
  | fellBack event outcome refused =>
      simp only [mem_messages, List.mem_append, List.mem_singleton] at named ⊢
      grind
  | inserted entry now member =>
      simp only [mem_messages, List.mem_append, List.mem_singleton] at named ⊢
      grind [List.mem_of_mem_erase]
  | garbage routed =>
      cases routed with
      | false => exact Or.inl named
      | true =>
          simp only [mem_messages, if_true, (p.queue.contents_publish _).mem_iff,
            List.mem_cons] at named ⊢
          grind
  | serverStopped =>
      simp only [mem_messages, List.not_mem_nil, exists_false, false_or] at named ⊢
      grind
  | moved _ _ persister isBound _ _ after =>
      have nothing : persister.holding = [] := holding_of_quiet after
      simp only [mem_messages, nothing, List.not_mem_nil, exists_false, or_false] at named ⊢
      grind
  | disconnected _ _ persister _ after =>
      have fewer : ∀ delivery ∈ persister.holding, delivery ∈ p.persister.holding := by
        rcases after with rfl | rfl | ⟨consumer, isConsumer, -, rfl⟩
        · intro delivery member
          cases member
        · intro delivery member
          cases member
        · rw [isConsumer]
          exact fun delivery member => member
      simp only [mem_messages, disconnect, p.queue.contents_disconnect.mem_iff] at named ⊢
      grind
  | delivered inbox task delivery queue isConsumer taken =>
      have waited := Broker.mem_of_deliver taken
      simp only [mem_messages, isConsumer, Persister.holding,
        (Broker.contents_deliver taken).mem_iff, List.mem_append, List.mem_singleton] at named ⊢
      grind
  | received linked delivery rest isConsumer =>
      refine Or.inl (mem_messages_of_same named rfl rfl rfl ?_)
      rw [isConsumer]
      rfl
  | malformed now linked inbox delivery isConsumer isMalformed =>
      refine Or.inl (mem_messages_of_same named rfl rfl rfl ?_)
      rw [isConsumer]
      rfl
  | saved now linked inbox delivery event isConsumer isEvent accepted =>
      simp only [mem_messages, isConsumer, Persister.holding, ConsumerTask.delivery,
        Option.toList_some, List.mem_append, List.mem_singleton] at named ⊢
      rcases named with ⟨row, old | new⟩ | elsewhere
      · exact Or.inl (Or.inl ⟨row, old⟩)
      · -- The new row is of the message the consumer works on.
        cases new
        exact Or.inl (Or.inr (Or.inr (Or.inr ⟨delivery.body, Or.inl rfl⟩)))
      · exact Or.inl (Or.inr elsewhere)
  | refused now linked inbox delivery event isConsumer isEvent rejected =>
      refine Or.inl (mem_messages_of_same named rfl rfl rfl ?_)
      rw [isConsumer]
      rfl
  | unheard inbox task isConsumer =>
      simp only [mem_messages, isConsumer, Persister.holding, ConsumerTask.delivery,
        Option.toList_none, List.nil_append, List.mem_append] at named ⊢
      grind
  | settled inbox delivery task isConsumer isTask =>
      have fewer := fun other => @Broker.settle_subset _ _ delivery p.queue other
      simp only [mem_messages, isConsumer, Persister.holding, ConsumerTask.delivery,
        Option.toList_none, List.nil_append, List.mem_append] at named ⊢
      grind
  | requeued inbox delivery isConsumer =>
      simp only [mem_messages, isConsumer, Persister.holding, ConsumerTask.delivery,
        Option.toList_none, List.nil_append, List.mem_append,
        (p.queue.contents_requeue _).mem_iff] at named ⊢
      grind

theorem numbered_step {label : PipelineStep} (numbered : ∀ message ∈ p.messages, message < p.next) :
    ∀ message ∈ (p.step db label).messages, message < (p.step db label).next := by
  intro message named
  rcases messages_step db p label message named with before | isSent
  · exact lt_of_lt_of_le (numbered message before) (next_le_step db p label)
  · exact isSent

/-- Rows are only added. -/
theorem rows_step (db : Nat → Nat → Bool) (p : Pipeline) (label : PipelineStep) :
    p.rows <+: (p.step db label).rows := by
  generalize isNext : p.step db label = next
  have moves := step_moves db p label
  rw [isNext] at moves
  cases moves with
  | inserted entry now member => exact List.prefix_append _ _
  | saved now linked inbox delivery event isConsumer isEvent accepted =>
      exact List.prefix_append _ _
  | _ => exact List.prefix_refl _

theorem TaskSound.mono {next : Pipeline} {task : ConsumerTask} (sound : p.TaskSound task)
    (grows : p.rows <+: next.rows) : next.TaskSound task := by
  cases task with
  | saved delivery =>
      obtain ⟨event, now, isEvent, isRow⟩ := sound
      exact ⟨event, now, isEvent, grows.subset isRow⟩
  | malformed delivery => exact sound
  | select => trivial
  | received delivery => trivial
  | refused delivery => trivial

theorem task_step {label : PipelineStep}
    (sound : ∀ consumer, p.persister = .consuming consumer → p.TaskSound consumer.task) :
    ∀ consumer, (p.step db label).persister = .consuming consumer →
      (p.step db label).TaskSound consumer.task := by
  have grows := rows_step db p label
  generalize isNext : p.step db label = next at grows
  have moves := step_moves db p label
  rw [isNext] at moves
  -- Most steps leave the task alone, and rows are only added.
  have unchanged : ∀ consumer, p.persister = .consuming consumer → next.TaskSound consumer.task :=
    fun consumer isConsumer => (sound consumer isConsumer).mono grows
  intro consumer isConsumer
  cases moves with
  | moved _ _ persister isBound _ _ after =>
      cases isConsumer
      rw [after.2]
      trivial
  | disconnected _ _ persister _ after =>
      rcases after with rfl | rfl | ⟨before, isBefore, -, rfl⟩
      · cases isConsumer
      · cases isConsumer
      · cases isConsumer
        exact unchanged before isBefore
  | delivered inbox task delivery queue isBefore taken =>
      cases isConsumer
      exact unchanged ⟨true, inbox, task⟩ isBefore
  | received linked delivery rest isBefore =>
      cases isConsumer
      trivial
  | malformed now linked inbox delivery isBefore isMalformed =>
      cases isConsumer
      exact isMalformed
  | saved now linked inbox delivery event isBefore isEvent accepted =>
      cases isConsumer
      exact ⟨event, now, isEvent, List.mem_append_right _ List.mem_cons_self⟩
  | refused now linked inbox delivery event isBefore isEvent rejected =>
      cases isConsumer
      trivial
  | unheard inbox task isBefore =>
      cases isConsumer
      trivial
  | settled inbox delivery task isBefore isTask =>
      cases isConsumer
      trivial
  | requeued inbox delivery isBefore =>
      cases isConsumer
      trivial
  | _ => exact unchanged consumer isConsumer

theorem sound_step (db : Nat → Nat → Bool) (p : Pipeline) (label : PipelineStep) (sound : Sound p) :
    Sound (p.step db label) :=
  ⟨numbered_step sound.numbered, task_step sound.task⟩

theorem sound_init (next : Nat) (bound : Bool) : Sound (init next bound) := by
  constructor
  · intro message member
    cases member
  · intro consumer isConsumer
    cases isConsumer

/-! ### What the broker has given out -/

/-- The deliveries of a process whose connection is alive. -/
def connectedHolding : Persister → List QueuedEvent
  | .consuming ⟨true, inbox, task⟩ => task.delivery.toList ++ inbox
  | _ => []

/-- The unacknowledged messages are those the connected consumer holds. -/
def Held (p : Pipeline) : Prop :=
  p.queue.unacked = connectedHolding p.persister

theorem connectedHolding_of_quiet {persister : Persister} (quiet : Quiet persister) :
    connectedHolding persister = [] := by
  cases persister with
  | consuming consumer =>
      obtain ⟨linked, inbox, task⟩ := consumer
      obtain ⟨isEmpty, isSelect⟩ := quiet
      dsimp only at isEmpty isSelect
      rw [isEmpty, isSelect]
      cases linked <;> rfl
  | _ => rfl

theorem connectedHolding_of_unlinked {persister : Persister}
    (unlinked : ∀ consumer, persister = .consuming consumer → consumer.linked = false) :
    connectedHolding persister = [] := by
  cases persister with
  | consuming consumer =>
      obtain ⟨linked, inbox, task⟩ := consumer
      cases unlinked _ rfl
      rfl
  | _ => rfl

/-- Work on a delivery that stays with the consumer. -/
theorem connectedHolding_congr {linked : Bool} {inbox rest : List QueuedEvent}
    {task next : ConsumerTask}
    (same : task.delivery.toList ++ inbox = next.delivery.toList ++ rest) :
    connectedHolding (.consuming ⟨linked, inbox, task⟩) =
      connectedHolding (.consuming ⟨linked, rest, next⟩) := by
  cases linked with
  | true => exact same
  | false => rfl

theorem held_step (db : Nat → Nat → Bool) (p : Pipeline) (label : PipelineStep) (held : Held p) :
    Held (p.step db label) := by
  generalize isNext : p.step db label = next
  have moves := step_moves db p label
  rw [isNext] at moves
  unfold Held at held ⊢
  cases moves with
  | garbage routed =>
      cases routed with
      | true => exact held
      | false => exact held
  | moved _ _ persister isBound _ before after =>
      show p.queue.unacked = connectedHolding persister
      rw [connectedHolding_of_quiet after, held]
      exact connectedHolding_of_unlinked fun consumer isConsumer => (before consumer isConsumer).1
  | disconnected _ _ persister _ after =>
      show [] = connectedHolding persister
      rcases after with rfl | rfl | ⟨consumer, -, -, rfl⟩
      · rfl
      · rfl
      · rfl
  | delivered inbox task delivery queue isConsumer taken =>
      rw [isConsumer] at held
      have given : queue.unacked = p.queue.unacked ++ [delivery] := Broker.unacked_deliver taken
      show queue.unacked = task.delivery.toList ++ (inbox ++ [delivery])
      rw [given, held, ← List.append_assoc]
      rfl
  | received linked delivery rest isConsumer =>
      rw [isConsumer] at held
      exact held.trans (connectedHolding_congr rfl)
  | malformed now linked inbox delivery isConsumer isMalformed =>
      rw [isConsumer] at held
      exact held.trans (connectedHolding_congr rfl)
  | saved now linked inbox delivery event isConsumer isEvent accepted =>
      rw [isConsumer] at held
      exact held.trans (connectedHolding_congr rfl)
  | refused now linked inbox delivery event isConsumer isEvent rejected =>
      rw [isConsumer] at held
      exact held.trans (connectedHolding_congr rfl)
  | unheard inbox task isConsumer =>
      rw [isConsumer] at held
      exact held
  | settled inbox delivery task isConsumer isTask =>
      rw [isConsumer] at held
      show p.queue.unacked.erase delivery = inbox
      rcases isTask with rfl | rfl
      · rw [held]
        exact List.erase_cons_head _ _
      · rw [held]
        exact List.erase_cons_head _ _
  | requeued inbox delivery isConsumer =>
      rw [isConsumer] at held
      have isHead : p.queue.unacked = delivery :: inbox := held
      show (p.queue.requeue delivery).unacked = inbox
      rw [Broker.requeue, if_pos (by rw [isHead]; exact List.mem_cons_self)]
      show p.queue.unacked.erase delivery = inbox
      rw [isHead]
      exact List.erase_cons_head _ _
  | _ => exact held

theorem held_init (next : Nat) (bound : Bool) : Held (init next bound) := rfl

end Steps

end Pipeline

end AimServer
