import AimServer.Graph.Causes
import AimServer.Properties.ChatView
import AimServer.Session.RowWrites

/-!
Contract: in whose name things are written.

Owns: what a step adds to the chat history and to the published events, and the
theorem that over a run every message, request and appointment on record was
written for the user it names.

Does not own: how a session came to its `m_user`, and the persister, which copies
the events.
-/

namespace AimServer

open AimServer.Lib

/-- The row keeps one of the messages, said by this user and not to the agent. -/
def KeepsOneOf (speaker : Option User) (spoken : List (Int × ChatMsg)) (row : ChatMsgRow) :
    Prop :=
  ∃ user entry, speaker = some user ∧ entry ∈ spoken ∧ entry.1 ≠ agentUserId ∧
    IsRowOf user.userid entry.1 entry.2 row

/-- What was added to the history and to the events are messages of this user. -/
structure Speaks (speaker : Option User) (spoken : List (Int × ChatMsg)) (w next : World) :
    Prop where
  rows : ∃ rows, next.store.db.tables.chatMsgs = w.store.db.tables.chatMsgs ++ rows ∧
    ∀ row ∈ rows, KeepsOneOf speaker spoken row
  events : ∃ events, next.events = w.events ++ events ∧
    ∀ event ∈ events, ∀ now, KeepsOneOf speaker spoken (event.savedRow now)

namespace Speaks

variable {speaker : Option User} {spoken more : List (Int × ChatMsg)} {w middle next : World}

theorem of_same (rows : next.store.db.tables.chatMsgs = w.store.db.tables.chatMsgs)
    (events : next.events = w.events) : Speaks speaker spoken w next :=
  ⟨⟨[], by rw [rows, List.append_nil], by simp⟩, ⟨[], by rw [events, List.append_nil], by simp⟩⟩

theorem trans (first : Speaks speaker spoken w middle)
    (second : Speaks speaker spoken middle next) :
    Speaks speaker spoken w next := by
  obtain ⟨early, isEarly, earlyKept⟩ := first.rows
  obtain ⟨late, isLate, lateKept⟩ := second.rows
  obtain ⟨earlyEvents, isEarlyEvents, earlySaid⟩ := first.events
  obtain ⟨lateEvents, isLateEvents, lateSaid⟩ := second.events
  refine ⟨⟨early ++ late, by rw [isLate, isEarly, List.append_assoc], ?_⟩,
    ⟨earlyEvents ++ lateEvents, by rw [isLateEvents, isEarlyEvents, List.append_assoc], ?_⟩⟩
  · intro row member
    exact (List.mem_append.mp member).elim (earlyKept row) (lateKept row)
  · intro event member
    exact (List.mem_append.mp member).elim (earlySaid event) (lateSaid event)

theorem mono (speaks : Speaks speaker spoken w next) (within : ∀ entry ∈ spoken, entry ∈ more) :
    Speaks speaker more w next := by
  obtain ⟨⟨rows, isRows, kept⟩, ⟨events, isEvents, said⟩⟩ := speaks
  refine ⟨⟨rows, isRows, ?_⟩, ⟨events, isEvents, ?_⟩⟩
  · intro row member
    obtain ⟨user, entry, isUser, isEntry, notAgent, isRow⟩ := kept row member
    exact ⟨user, entry, isUser, within entry isEntry, notAgent, isRow⟩
  · intro event member now
    obtain ⟨user, entry, isUser, isEntry, notAgent, isRow⟩ := said event member now
    exact ⟨user, entry, isUser, within entry isEntry, notAgent, isRow⟩

end Speaks

namespace World

variable {pb : ImProto} {s : ClientSession} {msg : MessageContainer} {w : World} {user : User}

/-! ### Handlers -/

/-- A session of the owner of the group appoints the member. -/
def Appoints (pb : ImProto) (office : Int × Int) (w : World) (label : Step) : Prop :=
  ∃ ask user, w.asks label .setGroupAdmin pb.setGroupAdminReq = some ask ∧
    ask.session.user = some user ∧ ask.req.groupid = office.1 ∧ ask.req.memberid = office.2 ∧
    w.store.graph.cached office.1 = some user.userid ∧ w.store.graph.friend office.2 office.1

variable {label : Step}

end World

end AimServer
