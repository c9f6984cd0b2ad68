import AimServer.Session.Group

/-!
Contract: the chat handlers of `ClientSession`.

Owns: chat history, the agent route and its asynchronous answer, persistence
through the broker or the database, delivery to a user or to the members of a
group, and group sending.
-/

namespace AimServer

open AimServer.Lib

/-- `AGENT_USERID`. -/
def agentUserId : Int := -1

/-- The row the persister's `save` inserts for an event. -/
def ChatEvent.savedRow (event : ChatEvent) (now : Int) : ChatMsgRow where
  senderid := event.senderid
  targetid := event.targetid
  msgcontent := event.content
  msgtype := event.msgtype
  mediaUrl := event.mediaUrl
  duration := event.duration
  thumbUrl := event.thumbUrl
  filesize := event.filesize
  filename := event.filename
  createTime := if event.timestamp > 0 then event.timestamp else now

/-- The JSON object `OnChatResponse` publishes. -/
def chatEvent (senderid targetid : Int) (msg : ChatMsg) : ChatEvent where
  senderid := senderid
  targetid := targetid
  content := msg.content
  msgtype := msg.msgType
  mediaUrl := msg.mediaUrl
  duration := msg.duration
  thumbUrl := msg.thumbUrl
  filesize := msg.fileSize
  filename := msg.fileName
  timestamp := msg.timestamp

/-- The broker accepts the next event. -/
def Env.publishes (env : Env) : Bool :=
  env.publish.elim false fun outcomes => outcomes 0

/-- The environment after one attempt to publish. -/
def Env.spent (env : Env) : Env :=
  { env with publish := env.publish.map fun outcomes n => outcomes (n + 1) }

namespace World

def onGetChatHistoryResponse (pb : ImProto) (s : ClientSession) (msg : MessageContainer)
    (w : World) : World :=
  match pb.chatHistoryReq msg.payload with
  | none =>
      (w.reply s .getChatHistory (.chatHistory 101 "protobuf parse failed!" 0 [])).derefUser s
  | some req =>
      match s.user with
      | none => w.raise .nullUser
      | some user =>
          match w.store.getChatHistory user.userid req.targetid 50 with
          | (some messages, store) =>
              (w.withStore store).reply s .getChatHistory
                (.chatHistory 0 "ok" req.targetid messages)
          | (none, store) =>
              (w.withStore store).reply s .getChatHistory
                (.chatHistory 100 "get chat history failed!" 0 [])

/-! ### Agent -/

/-- The `ChatMsg` that carries an agent answer. -/
def agentReply (userid : Int) (content : Bytes) (now : Int) : ChatMsg :=
  { ChatMsg.empty with
    senderid := agentUserId
    targetid := userid
    content := content
    timestamp := now }

/-- The agent branch of `OnChatResponse`. The call is answered later, by
`onAgentReply`. -/
def routeToAgent (s : ClientSession) (user : User) (chatMsg : ChatMsg) (w : World) : World :=
  match w.env.grpc with
  | .ready =>
      let w := w.call (.processMessage user.userid agentUserId chatMsg.content 1 chatMsg.skill
        chatMsg.context)
      { w with agentPending := w.agentPending ++ [s.conn] }
  | .notConfigured => w
  | .notBuilt =>
      w.emit [(s.conn, ⟨MsgType.chat.cmd, s.seq, agentUserId, .chatMsg (agentReply user.userid
        (str "[Agent未配置]\ngRPC client not built. Install libgrpc++-dev and rebuild IMServer.")
        w.env.now)⟩)]

/-- The callback of an agent call: it reads `m_user` and `m_seq` of the session
when the answer arrives. -/
def onAgentReply (conn : Nat) (ok : Bool) (reply : Bytes) (w : World) : World :=
  if conn ∈ w.agentPending then
    let w := { w with agentPending := w.agentPending.erase conn }
    match w.session? conn with
    | none => w.raise .danglingSession
    | some s =>
        match s.user with
        | none => w.raise .nullUser
        | some user =>
            let content := if ok then reply else str "[Agent不可用] " ++ reply
            w.emit [(s.conn, ⟨MsgType.chat.cmd, s.seq, user.userid,
              .chatMsg (agentReply user.userid content w.env.now)⟩)]
  else w

/-! ### Persistence and delivery -/

/-- `Publish`: an event that was accepted is with the broker. -/
def publish (event : ChatEvent) (w : World) : Bool × World :=
  match w.env.publish with
  | none => (false, w)
  | some outcomes =>
      let w := { w with env := { w.env with publish := some fun n => outcomes (n + 1) } }
      if outcomes 0 then (true, { w with events := w.events ++ [event] }) else (false, w)

/-- The persistence part of `OnChatResponse`: publish, else insert; a failed
`INSERT` is only logged. -/
def persistChat (user : User) (target : Int) (chatMsg : ChatMsg) (w : World) : World :=
  match w.publish (chatEvent user.userid target chatMsg) with
  | (true, w) => w
  | (false, w) => w.withStore (w.store.saveChatMsgToDb user.userid target chatMsg).2

/-- A message is published, or one `INSERT` is tried. -/
theorem persistChat_eq (user : User) (target : Int) (chatMsg : ChatMsg) (w : World) :
    w.persistChat user target chatMsg =
      { w with
        env := w.env.spent
        events := w.events ++
          if w.env.publishes then [chatEvent user.userid target chatMsg] else []
        store := if w.env.publishes then w.store
          else (w.store.saveChatMsgToDb user.userid target chatMsg).2 } := by
  unfold persistChat publish Env.publishes Env.spent
  cases publisher : w.env.publish with
  | none =>
      simp only [Option.elim_none, Option.map_none, Bool.false_eq_true, if_false, List.append_nil]
      rw [← publisher]
      rfl
  | some outcomes =>
      by_cases accepted : outcomes 0 = true
      · simp [accepted]
      · simp [accepted]

/-- One recipient: push to the first session of that user, else store. -/
def deliver (pb : ImProto) (forwardMsg : MessageContainer) (w : World) (recipient : Int) :
    World :=
  match w.getSessionByID recipient with
  | none =>
      w.withStore (w.store.addChatMsgCache recipient (pb.serializeContainer forwardMsg)).2
  | some session => w.emit [(session.conn, forwardMsg.frame)]

/-- However many recipients there are, only the store and the outbox change. -/
theorem deliverAll_touches (pb : ImProto) (forwarded : MessageContainer) (recipients : List Int)
    (w : World) :
    ∃ store frames,
      recipients.foldl (deliver pb forwarded) w = (w.withStore store).emit frames := by
  induction recipients generalizing w with
  | nil => exact ⟨w.store, [], by simp [withStore, emit]⟩
  | cons recipient rest inductionHypothesis =>
      rw [List.foldl_cons]
      obtain ⟨store, frames, delivered⟩ := inductionHypothesis (deliver pb forwarded w recipient)
      rw [delivered]
      unfold deliver
      split
      · exact ⟨store, frames, rfl⟩
      · rename_i session _
        refine ⟨store, [(session.conn, forwarded.frame)] ++ frames, ?_⟩
        rw [withStore, emit, emit, List.append_assoc]
        rfl

/-- The container `OnChatResponse` passes on: the payload is the client's. -/
def forwardMsg (s : ClientSession) (msg : MessageContainer) : MessageContainer where
  cmd := MsgType.chat.cmd
  seq := s.seq
  targetId := msg.targetId
  targets := []
  payload := msg.payload

/-- Who receives a chat message: the target itself, or the existing members of
the target group but the sender. -/
def chatRecipients (user : User) (target : Int) (store : Store) : List Int :=
  if target < groupIdBoundary then [target]
  else
    (((store.getFriendInfoByUserID target).getD []).map User.userid).filter (· ≠ user.userid)

/-- `OnChatResponse`: the result of parsing the payload is not looked at. -/
def onChatResponse (pb : ImProto) (s : ClientSession) (msg : MessageContainer) (w : World) :
    World :=
  let w := w.setSession { s with target := msg.targetId }
  let chatMsg := (pb.chatMsg msg.payload).2
  match s.user with
  | none => w.raise .nullUser
  | some user =>
      if msg.targetId = agentUserId then w.routeToAgent s user chatMsg
      else
        let w := w.persistChat user msg.targetId chatMsg
        (chatRecipients user msg.targetId w.store).foldl (deliver pb (forwardMsg s msg)) w

/-- The loop of `OnMultiChatResponse`: one chat message per target, whose
payload is the text itself. A fault ends it. -/
def chatToEach (pb : ImProto) (s : ClientSession) (content : Bytes) (targets : List Int)
    (w : World) : World :=
  targets.foldl
    (fun w target =>
      if w.fault.isSome then w
      else w.onChatResponse pb s ⟨MsgType.chat.cmd, s.seq, target, [], content⟩) w

def onMultiChatResponse (pb : ImProto) (s : ClientSession) (msg : MessageContainer) (w : World) :
    World :=
  let s := { s with targets := msg.targets }
  let w := w.setSession s
  match pb.multiChatTargets msg.payload with
  | none => w.derefUser s
  | some multi =>
      let w := w.chatToEach pb s multi.content multi.targets
      if w.fault.isSome then w else w.derefUser s

end World

end AimServer
