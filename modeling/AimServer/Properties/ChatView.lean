import AimServer.Session.Deliveries
import AimServer.Properties.Client

/-!
Contract: what the recipient of a chat message reads and what the history
shows of it.

Owns: the two views of a message, what one chat step delivers and persists,
the exact condition under which the views agree, and a message on which they
do not.

The delivered container carries the client's payload untouched, while the
history row takes sender and target from the session and the container. So
the two agree only as far as the client filled in the truth.
-/

namespace AimServer

open AimServer.Lib

/-- The `ChatMsg` a client decodes from a container it receives. -/
def decodeChat (pb : ImProto) (frame : Frame) : Option ChatMsg :=
  match frame.body with
  | .raw payload => if (pb.chatMsg payload).1 then some (pb.chatMsg payload).2 else none
  | _ => none

/-- A container that reaches a recipient of this step: pushed now, or stored
and replayed when the recipient logs in. -/
def Delivered (pb : ImProto) (w : World) (label : Step) (frame : Frame) : Prop :=
  (∃ conn, (conn, frame) ∈ w.sent pb label) ∨
    ∃ row ∈ (w.step pb label).store.db.tables.offlineMsgs.drop
        w.store.db.tables.offlineMsgs.length,
      ∃ container, pb.parseContainer row.content = some container ∧ frame = container.frame

/-- A history row of this step: inserted now, or saved by the persister from
the published event. -/
def Persisted (pb : ImProto) (w : World) (label : Step) (row : ChatMsgRow) : Prop :=
  row ∈ (w.step pb label).store.db.tables.chatMsgs.drop w.store.db.tables.chatMsgs.length ∨
    ∃ event ∈ (w.step pb label).events.drop w.events.length, ∃ now, row = event.savedRow now

/-- The message a recipient reads and the message the history shows agree on
every field, with sender `u` and target `t`. -/
structure SameMessage (u t : Int) (seen shown : ChatMsg) : Prop where
  senderSeen : seen.senderid = u
  senderShown : shown.senderid = u
  targetSeen : seen.targetid = t
  targetShown : shown.targetid = t
  content : shown.content = seen.content
  msgType : shown.msgType = seen.msgType
  mediaUrl : shown.mediaUrl = seen.mediaUrl
  duration : shown.duration = seen.duration
  thumbUrl : shown.thumbUrl = seen.thumbUrl
  fileSize : shown.fileSize = seen.fileSize
  fileName : shown.fileName = seen.fileName
  timestamp : seen.timestamp > 0 → shown.timestamp = seen.timestamp

/-- Recipient and history agree about one delivered container and one row. -/
def ViewsAgree (pb : ImProto) (u t : Int) (frame : Frame) (row : ChatMsgRow) : Prop :=
  ∃ seen, decodeChat pb frame = some seen ∧ SameMessage u t seen (Store.historyMsg row)

section Step

variable {pb : ImProto}

/-! ### What a chat step delivers -/

/-- `next` is `w` after `forwarded` was pushed to some connections and stored
for some users. -/
structure Forwards (pb : ImProto) (forwarded : MessageContainer) (w next : World) : Prop where
  pushed : ∃ frames, next.outbox = w.outbox ++ frames ∧ ∀ entry ∈ frames, entry.2 = forwarded.frame
  stored : ∃ rows, next.store.db.tables.offlineMsgs = w.store.db.tables.offlineMsgs ++ rows ∧
    ∀ row ∈ rows, row.content = pb.serializeContainer forwarded
  chatMsgs : next.store.db.tables.chatMsgs = w.store.db.tables.chatMsgs
  events : next.events = w.events

theorem deliverAll_forwards (forwarded : MessageContainer) (recipients : List Int) (w : World) :
    Forwards pb forwarded w (recipients.foldl (World.deliver pb forwarded) w) := by
  obtain ⟨tables, -⟩ := World.afterCalls_storing pb forwarded (w.absent recipients) w.store
  have offlineMsgs := congrArg Tables.offlineMsgs tables
  have chatMsgs := congrArg Tables.chatMsgs tables
  rw [World.deliverAll_eq]
  refine ⟨⟨w.pushesTo forwarded recipients, rfl, ?_⟩, ⟨_, offlineMsgs, ?_⟩, chatMsgs, rfl⟩
  · intro entry pushed
    obtain ⟨-, -, session, -, rfl⟩ := World.mem_pushesTo pushed
    rfl
  · intro row stored
    exact World.mem_storedCopies stored

/-! ### What a chat step persists -/

/-- The row a chat message of user `u` to `t` is kept as. -/
def IsRowOf (u t : Int) (msg : ChatMsg) (row : ChatMsgRow) : Prop :=
  ∃ now, row = Store.chatRow u t msg now

/-- `next` is `w` after the message was published, inserted, or lost. -/
structure Keeps (u t : Int) (msg : ChatMsg) (w next : World) : Prop where
  outbox : next.outbox = w.outbox
  offlineMsgs : next.store.db.tables.offlineMsgs = w.store.db.tables.offlineMsgs
  inserted : ∃ rows, next.store.db.tables.chatMsgs = w.store.db.tables.chatMsgs ++ rows ∧
    ∀ row ∈ rows, IsRowOf u t msg row
  published : ∃ events, next.events = w.events ++ events ∧
    ∀ event ∈ events, ∀ now, IsRowOf u t msg (event.savedRow now)

theorem persistChat_keeps (user : User) (target : Int) (msg : ChatMsg) (w : World) :
    Keeps user.userid target msg w (w.persistChat user target msg) := by
  obtain ⟨tables, -⟩ := World.persistChat_db user target msg w
  have offlineMsgs := congrArg Tables.offlineMsgs tables
  have chatMsgs := congrArg Tables.chatMsgs tables
  have persisted := World.persistChat_eq user target msg w
  refine ⟨?_, offlineMsgs, ⟨_, chatMsgs, ?_⟩, ⟨_, congrArg World.events persisted, ?_⟩⟩
  · rw [persisted]
  · intro row inserted
    split at inserted
    · rw [List.mem_singleton.mp inserted]
      exact ⟨_, rfl⟩
    · cases inserted
  · intro event published now
    split at published
    · rw [List.mem_singleton.mp published]
      exact ⟨now, rfl⟩
    · cases published

/-! ### The whole step -/

variable {w : World} {label : Step} {s : ClientSession} {msg : MessageContainer} {user : User}

/-- Everything a chat step to a user or a group does. -/
theorem chat_step (pb : ImProto) (reached : w.dispatched label = some (.chat, s, msg))
    (signedIn : s.user = some user) (notAgent : msg.targetId ≠ agentUserId) :
    ∃ middle, Keeps user.userid msg.targetId (pb.chatMsg msg.payload).2 w middle ∧
      Forwards pb (World.forwardMsg s msg) middle (w.step pb label) := by
  rw [World.step_of_dispatched pb reached]
  simp only [World.handle, World.onChatResponse, signedIn, if_neg notAgent]
  have kept := persistChat_keeps user msg.targetId (pb.chatMsg msg.payload).2
    (((w.withEnv label.env).setSession s).setSession
      { s with user := some user, target := msg.targetId })
  exact ⟨_, ⟨kept.outbox, kept.offlineMsgs, kept.inserted, kept.published⟩,
    deliverAll_forwards _ _ _⟩

/-- Every container that reaches a recipient is the forwarded one. -/
theorem delivered_forwardMsg (reached : w.dispatched label = some (.chat, s, msg))
    (signedIn : s.user = some user) (notAgent : msg.targetId ≠ agentUserId)
    (roundTrip : pb.parseContainer (pb.serializeContainer (World.forwardMsg s msg)) =
      some (World.forwardMsg s msg))
    {frame : Frame} (delivered : Delivered pb w label frame) :
    frame = (World.forwardMsg s msg).frame := by
  obtain ⟨middle, kept, ⟨frames, outbox, isFrame⟩, ⟨rows, offline, isRow⟩, -, -⟩ :=
    chat_step pb reached signedIn notAgent
  rcases delivered with ⟨conn, sent⟩ | ⟨row, stored, container, parsed, rfl⟩
  · rw [kept.outbox] at outbox
    rw [World.sent_eq outbox] at sent
    exact isFrame _ sent
  · rw [kept.offlineMsgs] at offline
    rw [offline, List.drop_left] at stored
    rw [isRow row stored, roundTrip] at parsed
    cases parsed
    rfl

/-- Every history row is the one built from session, container and parse. -/
theorem persisted_isRowOf (reached : w.dispatched label = some (.chat, s, msg))
    (signedIn : s.user = some user) (notAgent : msg.targetId ≠ agentUserId) {row : ChatMsgRow}
    (persisted : Persisted pb w label row) :
    IsRowOf user.userid msg.targetId (pb.chatMsg msg.payload).2 row := by
  obtain ⟨middle, ⟨-, -, ⟨rows, inserted, isRow⟩, ⟨events, published, isEvent⟩⟩, forwards⟩ :=
    chat_step pb reached signedIn notAgent
  rcases persisted with new | ⟨event, new, now, rfl⟩
  · rw [forwards.chatMsgs, inserted, List.drop_left] at new
    exact isRow row new
  · rw [forwards.events, published, List.drop_left] at new
    exact isEvent event new now

end Step

/-- Recipient and history agree about a chat message exactly when its payload
is a `ChatMsg` that names the session's user as sender and the container's
target as target. -/
theorem chat_views_agree_iff (pb : ImProto) (w : World) (label : Step) (s : ClientSession)
    (msg : MessageContainer) (user : User) (frame : Frame) (row : ChatMsgRow)
    (reached : w.dispatched label = some (.chat, s, msg)) (signedIn : s.user = some user)
    (notAgent : msg.targetId ≠ agentUserId)
    (roundTrip : pb.parseContainer (pb.serializeContainer (World.forwardMsg s msg)) =
      some (World.forwardMsg s msg))
    (delivered : Delivered pb w label frame) (persisted : Persisted pb w label row) :
    ViewsAgree pb user.userid msg.targetId frame row ↔
      (pb.chatMsg msg.payload).1 = true ∧
        (pb.chatMsg msg.payload).2.senderid = user.userid ∧
        (pb.chatMsg msg.payload).2.targetid = msg.targetId := by
  rw [delivered_forwardMsg reached signedIn notAgent roundTrip delivered]
  obtain ⟨now, rfl⟩ := persisted_isRowOf reached signedIn notAgent persisted
  have decoded : decodeChat pb (World.forwardMsg s msg).frame =
      if (pb.chatMsg msg.payload).1 then some (pb.chatMsg msg.payload).2 else none := rfl
  rw [ViewsAgree, decoded]
  cases (pb.chatMsg msg.payload).1 with
  | false => simp
  | true =>
      simp only [if_true, true_and, Option.some.injEq, exists_eq_left']
      constructor
      · intro same
        exact ⟨same.senderSeen, same.targetSeen⟩
      · intro truthful
        obtain ⟨sender, target⟩ := truthful
        refine ⟨sender, rfl, target, rfl, rfl, rfl, rfl, rfl, rfl, rfl, rfl, ?_⟩
        intro positive
        exact if_pos positive

namespace ChatRuns

/-- Alice is logged in, Bob is not connected. -/
def server : World := World.runFrom wireProto (World.boot Sample.aliceAndBob) Sample.aliceLogsIn

/-- "hi" to Bob, with the sender the client writes into it. -/
def hi (senderid : Int) : MessageContainer :=
  ⟨MsgType.chat.cmd, 2, 2, [], Client.chatMsg senderid 2 (str "hi")⟩

def step (senderid : Int) : Step := ⟨.frame 0 (hi senderid), .plain⟩

/-- The container Bob gets when he logs in. -/
def frame (senderid : Int) : Frame := ⟨MsgType.chat.cmd, 2, 2, .raw (hi senderid).payload⟩

/-- The row the history keeps. -/
def row : ChatMsgRow := ⟨1, 2, str "hi", 0, [], 0, [], 0, [], 0⟩

/-- Alice's session when the message arrives. -/
def session : ClientSession :=
  ⟨0, 2, some { Store.loadedUser Sample.alice with status := 1 }, 0, []⟩

end ChatRuns

open ChatRuns in
theorem chat_views_agree_iff_hi :
    ViewsAgree wireProto 1 2 (frame 1) row :=
  (chat_views_agree_iff wireProto server (step 1) session (hi 1)
    { Store.loadedUser Sample.alice with status := 1 } (frame 1) row (by decide) rfl (by decide)
    (by decide) (Or.inr ⟨⟨2, 1, wireProto.serializeContainer (World.forwardMsg session (hi 1))⟩,
      by decide, World.forwardMsg session (hi 1), by decide, rfl⟩)
    (Or.inl (by decide))).mpr ⟨by decide, by decide, by decide⟩

open ChatRuns in
/-- A client that writes another sender into its payload is believed by the
recipient and not by the history. -/
theorem forged_sender_is_delivered :
    server.dispatched (step 3) = some (.chat, session, hi 3) ∧
      session.user.map User.userid = some 1 ∧
      Delivered wireProto server (step 3) (frame 3) ∧ Persisted wireProto server (step 3) row ∧
      ¬ ViewsAgree wireProto 1 2 (frame 3) row := by
  refine ⟨by decide, rfl,
    Or.inr ⟨⟨2, 1, wireProto.serializeContainer (World.forwardMsg session (hi 3))⟩,
      by decide, World.forwardMsg session (hi 3), by decide, rfl⟩, Or.inl (by decide), ?_⟩
  intro agree
  obtain ⟨seen, decoded, same⟩ := agree
  have sender : (decodeChat wireProto (frame 3)).map ChatMsg.senderid = some 1 := by
    rw [decoded, Option.map_some, same.senderSeen]
  exact absurd sender (by decide)

end AimServer
