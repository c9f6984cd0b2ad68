import AimServer.Persist.Ledger

/-!
Contract: how many rows a chat event gets.

Owns: the theorem that a saved event has exactly one row in every run in which
no failure falls between a save and its `Ack`, and the run in which the
connection is lost there and the event gets a second row.

`save` is a plain `INSERT` with a fresh key, so a redelivered event is stored
again: nothing in the row or the table tells a copy from a new message.
-/

namespace AimServer

open AimServer.Lib

namespace Pipeline

/-- The persister has saved a delivery, and the broker has yet to hear of it. -/
def Unconfirmed : Persister → Prop
  | .consuming ⟨true, _, .saved _⟩ => True
  | _ => False

/-- The next `handle` saves an event. -/
def Saves (db : Nat → Nat → Bool) (p : Pipeline) (delivery : QueuedEvent) : Prop :=
  delivery.body.isSome ∧ db delivery.message (p.attempts delivery.message) = true

/-- The step does not come between a save and its `Ack`: the process is not
stopped and the connection not lost while a save is unconfirmed, and nothing
is saved on a connection that is lost already. -/
def ConfirmsSaves (db : Nat → Nat → Bool) (p : Pipeline) : PipelineStep → Prop
  | .stopPersister => ¬ Unconfirmed p.persister
  | .loseConnection => ¬ Unconfirmed p.persister
  | .handle _ => ∀ linked inbox delivery,
      p.persister = .consuming ⟨linked, inbox, .received delivery⟩ → p.Saves db delivery →
        linked = true
  | _ => True

/-- The step saves the message. -/
def SavesMessage (db : Nat → Nat → Bool) (message : Nat) (p : Pipeline) (label : PipelineStep) :
    Prop :=
  ∃ now linked inbox delivery, label = .handle now ∧ delivery.message = message ∧
    p.persister = .consuming ⟨linked, inbox, .received delivery⟩ ∧ p.Saves db delivery

/-! ### The account of the messages -/

/-- The messages with the queue that have not been saved: all but the one a
connected consumer is about to confirm. -/
def unsavedOf (queue : Broker QueuedEvent) : Persister → List QueuedEvent
  | .consuming ⟨true, inbox, .saved _⟩ => queue.ready ++ inbox
  | _ => queue.contents

def unsaved (p : Pipeline) : List QueuedEvent :=
  unsavedOf p.queue p.persister

/-- Messages with a row, with a call that will insert them, and with the queue. -/
def account (p : Pipeline) : List Nat :=
  p.rows.map Prod.fst ++ (p.writing.map Prod.fst ++ p.unsaved.map QueuedEvent.message)

section Account

variable {db : Nat → Nat → Bool} {p : Pipeline}

theorem unsavedOf_of_confirmed {queue : Broker QueuedEvent} {persister : Persister}
    (confirmed : ¬ Unconfirmed persister) : unsavedOf queue persister = queue.contents := by
  unfold unsavedOf
  split
  · exact absurd trivial confirmed
  · rfl

theorem confirmed_of_unlinked {persister : Persister}
    (unlinked : ∀ consumer, persister = .consuming consumer → consumer.linked = false) :
    ¬ Unconfirmed persister := by
  intro unconfirmed
  unfold Unconfirmed at unconfirmed
  split at unconfirmed
  · cases unlinked _ rfl
  · exact unconfirmed

theorem confirmed_of_quiet {persister : Persister} (quiet : Quiet persister) :
    ¬ Unconfirmed persister := by
  intro unconfirmed
  unfold Unconfirmed at unconfirmed
  split at unconfirmed
  · cases quiet.2
  · exact unconfirmed

/-- A message more that waits. -/
theorem unsavedOf_publish (queue : Broker QueuedEvent) (persister : Persister)
    (delivery : QueuedEvent) :
    (unsavedOf (queue.publish delivery) persister).Perm
      (delivery :: unsavedOf queue persister) := by
  unfold unsavedOf
  split
  · show ((queue.ready ++ [delivery]) ++ _).Perm _
    rw [List.append_assoc]
    exact List.perm_middle
  · exact queue.contents_publish delivery

/-- Only messages that are sent are accounted for. -/
theorem mem_messages_of_account (held : Held p) {message : Nat} (member : message ∈ p.account) :
    message ∈ p.messages := by
  have contained : ∀ delivery ∈ p.unsaved, delivery ∈ p.queue.contents := by
    intro delivery isUnsaved
    by_cases unconfirmed : Unconfirmed p.persister
    · generalize isConsumer : p.persister = persister at unconfirmed
      unfold Unconfirmed at unconfirmed
      split at unconfirmed
      · rename_i inbox saved
        rw [unsaved, isConsumer] at isUnsaved
        unfold Held at held
        rw [isConsumer] at held
        rw [Broker.contents, held]
        rcases List.mem_append.mp isUnsaved with waits | inInbox
        · exact List.mem_append_left _ waits
        · exact List.mem_append_right _ (List.mem_cons_of_mem _ inInbox)
      · exact absurd unconfirmed id
    · rw [unsaved, unsavedOf_of_confirmed unconfirmed] at isUnsaved
      exact isUnsaved
  rcases List.mem_append.mp member with isRow | others
  · exact List.mem_append_left _ (List.mem_append_left _ (List.mem_append_left _ isRow))
  · rcases List.mem_append.mp others with isWriting | isUnsaved
    · exact List.mem_append_left _ (List.mem_append_left _ (List.mem_append_right _ isWriting))
    · obtain ⟨delivery, waits, rfl⟩ := List.mem_map.mp isUnsaved
      exact List.mem_append_left _
        (List.mem_append_right _ (List.mem_map_of_mem (contained delivery waits)))

/-- A message out of the last two of three lists. -/
theorem perm_middle_right (first second third : List Nat) (message : Nat) :
    (first ++ (second ++ message :: third)).Perm (message :: (first ++ (second ++ third))) :=
  (List.perm_middle.append_left first).trans List.perm_middle

/-- A step that changes the unsaved messages only. -/
theorem account_of_unsaved {next : Pipeline} (rows : next.rows = p.rows)
    (writing : next.writing = p.writing) (unsaved : List.Subperm next.unsaved p.unsaved) :
    List.Subperm next.account (p.next :: p.account) := by
  unfold account
  rw [rows, writing]
  apply List.Subperm.cons_right
  rw [List.subperm_append_left, List.subperm_append_left]
  obtain ⟨kept, same, fewer⟩ := unsaved
  exact ⟨kept.map QueuedEvent.message, same.map _, fewer.map _⟩

/-- A step that puts the next message into the queue. -/
theorem account_of_published {next : Pipeline} {body : Option ChatEvent}
    (rows : next.rows = p.rows) (writing : next.writing = p.writing)
    (unsaved : next.unsaved.Perm (⟨p.next, body⟩ :: p.unsaved)) :
    List.Subperm next.account (p.next :: p.account) := by
  unfold account
  rw [rows, writing]
  have moved := ((unsaved.map QueuedEvent.message).append_left (p.writing.map Prod.fst)).append_left
    (p.rows.map Prod.fst)
  refine (moved.trans ?_).subperm
  rw [List.map_cons]
  exact perm_middle_right _ _ _ _

/-- The message the consumer works on, while its connection is alive. -/
theorem contents_of_held {inbox : List QueuedEvent} {task : ConsumerTask} {delivery : QueuedEvent}
    (held : Held p) (isConsumer : p.persister = .consuming ⟨true, inbox, task⟩)
    (isTask : task.delivery = some delivery) : p.queue.unacked = delivery :: inbox := by
  unfold Held at held
  rw [held, isConsumer]
  show task.delivery.toList ++ inbox = _
  rw [isTask]
  rfl

/-- Work on a delivery that is not saved by it leaves the unsaved messages. -/
theorem account_of_working {linked : Bool} {inbox rest : List QueuedEvent}
    {task after : ConsumerTask} {attempts : Nat → Nat}
    (isConsumer : p.persister = .consuming ⟨linked, inbox, task⟩)
    (before : ∀ delivery, task ≠ .saved delivery) (later : ∀ delivery, after ≠ .saved delivery) :
    List.Subperm
      { p with persister := .consuming ⟨linked, rest, after⟩, attempts := attempts }.account
      (p.next :: p.account) := by
  have confirmed : ∀ {inbox : List QueuedEvent} {task : ConsumerTask},
      (∀ delivery, task ≠ .saved delivery) → ¬ Unconfirmed (.consuming ⟨linked, inbox, task⟩) := by
    intro inbox task notSaved unconfirmed
    unfold Unconfirmed at unconfirmed
    split at unconfirmed
    · rename_i isSaved
      cases isSaved
      exact notSaved _ rfl
    · exact unconfirmed
  refine account_of_unsaved rfl rfl ?_
  show List.Subperm (unsavedOf p.queue _) (unsavedOf p.queue p.persister)
  rw [isConsumer, unsavedOf_of_confirmed (confirmed before),
    unsavedOf_of_confirmed (confirmed later)]

/-- A delivery waits for the broker before and in the inbox afterwards. -/
theorem unsavedOf_delivered {inbox : List QueuedEvent} {task : ConsumerTask}
    {delivery : QueuedEvent} {queue : Broker QueuedEvent}
    (taken : p.queue.deliver = some (delivery, queue)) :
    List.Subperm (unsavedOf queue (.consuming ⟨true, inbox ++ [delivery], task⟩))
      (unsavedOf p.queue (.consuming ⟨true, inbox, task⟩)) := by
  cases task with
  | saved before =>
      show List.Subperm (queue.ready ++ (inbox ++ [delivery])) (p.queue.ready ++ inbox)
      rw [Broker.ready_deliver taken, ← List.append_assoc]
      exact (List.perm_append_singleton delivery (queue.ready ++ inbox)).subperm
  | _ => exact (Broker.contents_deliver taken).subperm

/-- A save takes the message from the unsaved ones and gives it a row. -/
theorem account_of_saved {inbox : List QueuedEvent} {delivery : QueuedEvent} {event : ChatEvent}
    {now : Int} {attempts : Nat → Nat} (held : Held p)
    (isConsumer : p.persister = .consuming ⟨true, inbox, .received delivery⟩) :
    List.Subperm
      { p with
        persister := .consuming ⟨true, inbox, .saved delivery⟩
        rows := p.rows ++ [(delivery.message, event.savedRow now)]
        attempts := attempts }.account (p.next :: p.account) := by
  have isHead : p.queue.unacked = delivery :: inbox := contents_of_held held isConsumer rfl
  have before : p.unsaved = p.queue.ready ++ delivery :: inbox := by
    rw [← isHead, unsaved, isConsumer]
    rfl
  apply List.Subperm.cons_right
  unfold account
  rw [before]
  show List.Subperm ((p.rows ++ [(delivery.message, event.savedRow now)]).map Prod.fst ++
    (p.writing.map Prod.fst ++ (p.queue.ready ++ inbox).map QueuedEvent.message)) _
  rw [List.map_append, List.append_assoc]
  apply List.Perm.subperm
  apply List.Perm.append_left
  simp only [List.map_append, List.map_cons, List.map_nil, List.cons_append, List.nil_append]
  exact (perm_middle_right _ _ _ _).symm

/-- Every message is accounted for once more at most: the new one. -/
theorem account_step (db : Nat → Nat → Bool) (p : Pipeline) (label : PipelineStep) (held : Held p)
    (confirms : p.ConfirmsSaves db label) :
    List.Subperm (p.step db label).account (p.next :: p.account) := by
  generalize isNext : p.step db label = next
  have moves := step_moves db p label
  rw [isNext] at moves
  cases moves with
  | still _ _ => exact account_of_unsaved rfl rfl (List.Subperm.refl _)
  | published event outcome sent isBound =>
      exact account_of_published rfl rfl (unsavedOf_publish p.queue p.persister _)
  | discarded event outcome sent unbound => exact account_of_unsaved rfl rfl (List.Subperm.refl _)
  | fellBack event outcome refused =>
      unfold account
      show List.Subperm (p.rows.map Prod.fst ++ ((p.writing ++ [(p.next, event)]).map Prod.fst ++
        p.unsaved.map QueuedEvent.message)) _
      rw [List.map_append, List.append_assoc]
      exact (perm_middle_right _ _ _ _).subperm
  | inserted entry now member =>
      apply List.Subperm.cons_right
      unfold account
      show List.Subperm ((p.rows ++ [(entry.1, entry.2.savedRow now)]).map Prod.fst ++
        ((p.writing.erase entry).map Prod.fst ++ p.unsaved.map QueuedEvent.message)) _
      rw [List.map_append, List.append_assoc]
      apply List.Perm.subperm
      apply List.Perm.append_left
      have removed := ((List.perm_cons_erase member).map Prod.fst).symm
      exact removed.append_right (p.unsaved.map QueuedEvent.message)
  | garbage routed =>
      cases routed with
      | true => exact account_of_published rfl rfl (unsavedOf_publish p.queue p.persister _)
      | false => exact account_of_unsaved rfl rfl (List.Subperm.refl _)
  | serverStopped =>
      apply List.Subperm.cons_right
      unfold account
      rw [List.subperm_append_left]
      exact (List.sublist_append_right _ _).subperm
  | moved _ _ persister isBound _ before after =>
      have confirmed : ¬ Unconfirmed p.persister := by
        apply confirmed_of_unlinked
        intro consumer isConsumer
        exact (before consumer isConsumer).1
      refine account_of_unsaved rfl rfl ?_
      show List.Subperm (unsavedOf p.queue persister) (unsavedOf p.queue p.persister)
      rw [unsavedOf_of_confirmed confirmed, unsavedOf_of_confirmed (confirmed_of_quiet after)]
  | disconnected _ isEnd persister early after =>
      have confirmed : ¬ Unconfirmed p.persister := by
        rcases isEnd with rfl | rfl | rfl
        · exact confirms
        · exact confirms
        · apply confirmed_of_unlinked
          intro consumer isConsumer
          exact absurd isConsumer (early rfl consumer)
      have confirmedNext : ¬ Unconfirmed persister := by
        rcases after with rfl | rfl | ⟨consumer, -, -, rfl⟩
        · exact id
        · exact id
        · apply confirmed_of_unlinked
          intro other same
          cases same
          rfl
      refine account_of_unsaved rfl rfl ?_
      show List.Subperm (unsavedOf p.queue.disconnect persister) (unsavedOf p.queue p.persister)
      rw [unsavedOf_of_confirmed confirmed, unsavedOf_of_confirmed confirmedNext]
      exact p.queue.contents_disconnect.subperm
  | delivered inbox task delivery queue isConsumer taken =>
      refine account_of_unsaved rfl rfl ?_
      rw [unsaved, unsaved, isConsumer]
      exact unsavedOf_delivered taken
  | received linked delivery rest isConsumer =>
      exact account_of_working isConsumer (by simp) (by simp)
  | malformed now linked inbox delivery isConsumer isMalformed =>
      exact account_of_working isConsumer (by simp) (by simp)
  | refused now linked inbox delivery event isConsumer isEvent rejected =>
      exact account_of_working isConsumer (by simp) (by simp)
  | unheard inbox task isConsumer =>
      refine account_of_unsaved rfl rfl ?_
      rw [unsaved, unsaved, isConsumer]
      exact List.Subperm.refl _
  | saved now linked inbox delivery event isConsumer isEvent accepted =>
      have isLinked : linked = true := by
        refine confirms linked inbox delivery isConsumer ⟨?_, accepted⟩
        rw [isEvent]
        rfl
      subst isLinked
      exact account_of_saved held isConsumer
  | settled inbox delivery task isConsumer isTask =>
      refine account_of_unsaved rfl rfl ?_
      show List.Subperm (p.queue.ready ++ p.queue.unacked.erase delivery)
        (unsavedOf p.queue p.persister)
      rw [isConsumer]
      rcases isTask with rfl | rfl
      · rw [contents_of_held held isConsumer rfl, List.erase_cons_head]
        exact List.Subperm.refl _
      · show List.Subperm _ (p.queue.ready ++ p.queue.unacked)
        exact (List.erase_sublist.append_left p.queue.ready).subperm
  | requeued inbox delivery isConsumer =>
      refine account_of_unsaved rfl rfl ?_
      rw [unsaved, unsaved, isConsumer]
      exact (p.queue.contents_requeue delivery).subperm

end Account

/-! ### The run -/

section Run

variable {db : Nat → Nat → Bool} {p : Pipeline}

/-- No message is accounted for twice. -/
structure Once (p : Pipeline) : Prop where
  sound : Sound p
  held : Held p
  distinct : p.account.Nodup

theorem once_step (db : Nat → Nat → Bool) (p : Pipeline) (label : PipelineStep) (once : Once p)
    (confirms : p.ConfirmsSaves db label) : Once (p.step db label) := by
  refine ⟨sound_step db p label once.sound, held_step db p label once.held, ?_⟩
  have unsent : p.next ∉ p.account := by
    intro member
    exact lt_irrefl _ (once.sound.numbered _ (mem_messages_of_account once.held member))
  obtain ⟨kept, same, fewer⟩ := account_step db p label once.held confirms
  exact same.nodup_iff.mp ((List.nodup_cons.mpr ⟨unsent, once.distinct⟩).sublist fewer)

theorem once_init (next : Nat) (bound : Bool) : Once (init next bound) :=
  ⟨sound_init next bound, held_init next bound, List.nodup_nil⟩

/-- A save leaves a row. -/
theorem mem_rows_of_saves {message : Nat} {label : PipelineStep}
    (saves : SavesMessage db message p label) :
    message ∈ (p.step db label).rows.map Prod.fst := by
  obtain ⟨now, linked, inbox, delivery, rfl, rfl, isConsumer, isSome, accepted⟩ := saves
  obtain ⟨event, isEvent⟩ := Option.isSome_iff_exists.mp isSome
  simp only [step, handle, isConsumer, isEvent, accepted, if_true, List.map_append]
  exact List.mem_append_right _ List.mem_cons_self

theorem mem_rows_of_occurs {start : Pipeline} {labels : List PipelineStep} {message : Nat}
    (occurs : Occurs (step db) (SavesMessage db message) start labels) :
    message ∈ (run (step db) start labels).rows.map Prod.fst := by
  obtain ⟨past, label, rest, rfl, saves⟩ := occurs
  rw [run_append, run_cons]
  refine run_keeps (fun p : Pipeline => message ∈ p.rows.map Prod.fst) ?_ (mem_rows_of_saves saves)
  intro p label member
  exact ((rows_step db p label).map Prod.fst).subset member

/-- In a run in which no failure falls between a save and its `Ack`, a message
that was saved has exactly one row. -/
theorem saved_event_has_one_row {next : Nat} {bound : Bool} {labels : List PipelineStep}
    {message : Nat}
    (confirmed : AllSteps (step db) (ConfirmsSaves db) (init next bound) labels)
    (saved : Occurs (step db) (SavesMessage db message) (init next bound) labels) :
    ((run (step db) (init next bound) labels).rows.map Prod.fst).count message = 1 := by
  have once := run_invariant Once (once_step db) (once_init next bound) confirmed
  apply List.count_eq_one_of_mem
  · exact once.distinct.of_append_left
  · exact mem_rows_of_occurs saved

end Run

/-! ### Two runs -/

namespace Sample

/-- One message is published and delivered. -/
def toReceive : List PipelineStep :=
  [.startPersister] ++ connect ++ [.chat event ⟨true, true, true⟩, .deliver, .receive]

/-- The connection is lost after the `Ack`. -/
def confirmed : List PipelineStep :=
  toReceive ++ .handle 0 :: [.settle, .loseConnection, .notice]

/-- The connection is lost before the `Ack`, and the message comes again. -/
def unconfirmed : List PipelineStep :=
  toReceive ++ .handle 0 :: ([.loseConnection, .settle, .notice] ++ connect ++
    [.deliver, .receive, .handle 0, .settle])

/-- The consumer that has taken the message. -/
theorem received (db : Nat → Nat → Bool) :
    (run (step db) (init 0 false) toReceive).persister =
      .consuming ⟨true, [], .received ⟨0, some event⟩⟩ := rfl

theorem saves (rest : List PipelineStep) :
    Occurs (step fun _ _ => true) (SavesMessage (fun _ _ => true) 0) (init 0 false)
      (toReceive ++ .handle 0 :: rest) :=
  ⟨toReceive, .handle 0, rest, rfl, 0, true, [], ⟨0, some event⟩, rfl, rfl, received _, rfl, rfl⟩

end Sample

theorem saved_event_has_one_row_confirmed :
    AllSteps (step fun _ _ => true) (ConfirmsSaves fun _ _ => true) (init 0 false)
        Sample.confirmed ∧
      ((run (step fun _ _ => true) (init 0 false) Sample.confirmed).rows.map
        Prod.fst).count 0 = 1 := by
  have linked : ∀ {known found : Consumer}, Persister.consuming known = .consuming found →
      known.linked = true → found.linked = true := by
    intro known found same isLinked
    cases same
    exact isLinked
  have confirmed : AllSteps (step fun _ _ => true) (ConfirmsSaves fun _ _ => true) (init 0 false)
      Sample.confirmed := by
    refine ⟨trivial, trivial, trivial, trivial, trivial, trivial, trivial, trivial, trivial,
      trivial, ?_, trivial, id, trivial, trivial⟩
    intro found inbox delivery isConsumer _
    exact linked isConsumer rfl
  exact ⟨confirmed, saved_event_has_one_row confirmed (Sample.saves _)⟩

/-- The row of a message that was delivered twice is there twice. -/
theorem saved_event_has_two_rows :
    ¬ ∀ (db : Nat → Nat → Bool) (next : Nat) (bound : Bool) (labels : List PipelineStep)
      (message : Nat), Occurs (step db) (SavesMessage db message) (init next bound) labels →
      ((run (step db) (init next bound) labels).rows.map Prod.fst).count message = 1 := by
  intro once
  have one := once (fun _ _ => true) 0 false Sample.unconfirmed 0 (Sample.saves _)
  have two : ((run (step fun _ _ => true) (init 0 false) Sample.unconfirmed).rows.map
      Prod.fst).count 0 = 2 := by decide +kernel
  rw [two] at one
  cases one

end Pipeline

end AimServer
