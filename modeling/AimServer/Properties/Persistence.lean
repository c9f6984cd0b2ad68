import AimServer.Persist.Ledger

/-!
Contract: what the asynchronous persistence keeps of the chat messages.

Owns: the theorem that every message whose `OnChatResponse` has returned is a
row or still with the persister's queue exactly as long as nothing was
published before the queue was bound, and the run that loses a message.

The publisher declares the exchange only. Until the persister has bound its
queue once, a published message has nowhere to go.
-/

namespace AimServer

open AimServer.Lib

namespace Pipeline

/-- The message is a row, waits in the queue, or is unacknowledged. -/
def Keeps (p : Pipeline) (message : Nat) (event : ChatEvent) : Prop :=
  (∃ now, (message, event.savedRow now) ∈ p.rows) ∨ ⟨message, some event⟩ ∈ p.queue.contents

/-- Every message whose `OnChatResponse` has returned is kept. -/
def NothingLost (p : Pipeline) : Prop :=
  ∀ entry ∈ p.returned, p.Keeps entry.1 entry.2

/-- What is published has a queue to go to. -/
def PublishesBound (p : Pipeline) : PipelineStep → Prop
  | .chat _ outcome => p.publishes outcome = true → p.bound = true
  | _ => True

section Steps

variable {db : Nat → Nat → Bool} {p : Pipeline}

/-- A kept message is still kept after a step. -/
theorem keeps_step {label : PipelineStep} {message : Nat} {event : ChatEvent} (sound : Sound p)
    (keeps : p.Keeps message event) : (p.step db label).Keeps message event := by
  have grows := rows_step db p label
  generalize isNext : p.step db label = next at grows
  have moves := step_moves db p label
  rw [isNext] at moves
  rcases keeps with ⟨now, isRow⟩ | waits
  · exact Or.inl ⟨now, grows.subset isRow⟩
  -- It was with the queue. Only a settlement takes something from there.
  cases moves with
  | published sentEvent outcome sent isBound =>
      exact Or.inr ((p.queue.contents_publish _).mem_iff.mpr (List.mem_cons_of_mem _ waits))
  | garbage routed =>
      cases routed with
      | true =>
          exact Or.inr ((p.queue.contents_publish _).mem_iff.mpr (List.mem_cons_of_mem _ waits))
      | false => exact Or.inr waits
  | disconnected _ _ persister _ after =>
      exact Or.inr (p.queue.contents_disconnect.mem_iff.mpr waits)
  | delivered inbox task delivery queue isConsumer taken =>
      exact Or.inr ((Broker.contents_deliver taken).mem_iff.mpr waits)
  | requeued inbox delivery isConsumer =>
      exact Or.inr ((p.queue.contents_requeue _).mem_iff.mpr waits)
  | settled inbox delivery task isConsumer isTask =>
      by_cases same : (⟨message, some event⟩ : QueuedEvent) = delivery
      · subst same
        have isSound := sound.task _ isConsumer
        rcases isTask with rfl | rfl
        · obtain ⟨savedEvent, now, isEvent, isRow⟩ := isSound
          cases isEvent
          exact Or.inl ⟨now, isRow⟩
        · cases isSound
      · exact Or.inr ((Broker.mem_contents_settle same).mpr waits)
  | _ => exact Or.inr waits

/-- A step keeps every returned message exactly when it publishes to a bound
queue. -/
theorem nothingLost_step (db : Nat → Nat → Bool) (p : Pipeline) (label : PipelineStep)
    (sound : Sound p) (nothingLost : p.NothingLost) :
    (p.step db label).NothingLost ↔ p.PublishesBound label := by
  have kept : ∀ entry ∈ p.returned, (p.step db label).Keeps entry.1 entry.2 :=
    fun entry member => keeps_step sound (nothingLost entry member)
  have sameReturned : (p.step db label).returned = p.returned → (p.step db label).NothingLost := by
    intro same entry member
    rw [same] at member
    exact kept entry member
  have oneMore : ∀ {new : Nat × ChatEvent}, (p.step db label).returned = p.returned ++ [new] →
      (p.step db label).Keeps new.1 new.2 → (p.step db label).NothingLost := by
    intro new grown keeps entry member
    rw [grown] at member
    rcases List.mem_append.mp member with old | isNew
    · exact kept entry old
    · rw [List.mem_singleton.mp isNew]
      exact keeps
  generalize isNext : p.step db label = next at kept sameReturned oneMore
  have moves := step_moves db p label
  rw [isNext] at moves
  cases moves with
  | published event outcome sent isBound =>
      refine iff_of_true (oneMore rfl (Or.inr ?_)) (fun _ => isBound)
      exact (p.queue.contents_publish _).mem_iff.mpr List.mem_cons_self
  | discarded event outcome sent unbound =>
      refine iff_of_false ?_ ?_
      · -- The number of the discarded message is new, so nothing has it.
        intro safe
        have unsent : p.next ∉ p.messages := fun member =>
          lt_irrefl _ (sound.numbered p.next member)
        apply unsent
        rw [mem_messages]
        rcases safe (p.next, event) (List.mem_append_right _ List.mem_cons_self) with
          ⟨now, isRow⟩ | waits
        · exact Or.inl ⟨_, isRow⟩
        · exact Or.inr (Or.inr (Or.inl ⟨_, waits⟩))
      · intro condition
        rw [condition sent] at unbound
        cases unbound
  | fellBack event outcome refused =>
      refine iff_of_true (sameReturned rfl) ?_
      intro sent
      rw [refused] at sent
      cases sent
  | inserted entry now member =>
      exact iff_of_true (oneMore rfl (Or.inl ⟨now, List.mem_append_right _ List.mem_cons_self⟩))
        trivial
  | still _ silent =>
      refine iff_of_true (sameReturned rfl) ?_
      cases label with
      | chat event outcome => exact absurd rfl (silent event outcome)
      | _ => trivial
  | moved _ silent persister isBound _ _ after =>
      refine iff_of_true (sameReturned rfl) ?_
      cases label with
      | chat event outcome => exact absurd rfl (silent event outcome)
      | _ => trivial
  | disconnected _ isEnd persister _ after =>
      refine iff_of_true (sameReturned rfl) ?_
      rcases isEnd with rfl | rfl | rfl
      · trivial
      · trivial
      · trivial
  | _ => exact iff_of_true (sameReturned rfl) trivial

/-- Along a run every message whose `OnChatResponse` has returned is a row, waits
in the queue or is unacknowledged, exactly when each publish that reports
success is made after the queue was bound. -/
theorem nothing_lost_iff (db : Nat → Nat → Bool) (next : Nat) (bound : Bool)
    (labels : List PipelineStep) :
    (∀ past rest, labels = past ++ rest →
        (run (step db) (init next bound) past).NothingLost) ↔
      AllSteps (step db) PublishesBound (init next bound) labels := by
  apply always_iff_allSteps NothingLost Sound (sound_step db) (nothingLost_step db)
  · intro entry member
    cases member
  · exact sound_init next bound

end Steps

/-- IMServer publishes before the persister has ever run: success is reported
and the message is nowhere. -/
theorem chat_message_lost :
    ¬ ∀ (next : Nat) (bound : Bool) (labels : List PipelineStep),
      (run (step fun _ _ => true) (init next bound) labels).NothingLost := by
  intro always
  have kept := always 0 false [.chat Sample.event ⟨true, true, true⟩]
    (0, Sample.event) List.mem_cons_self
  rcases kept with ⟨now, isRow⟩ | waits
  · cases isRow
  · cases waits

end Pipeline

end AimServer
