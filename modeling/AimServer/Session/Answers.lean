import AimServer.Session.Identity
import AimServer.Session.StoreCalls

/-!
Contract: what one handler run sends, and whom it looks up.

Owns: the ids a handler can pass to `GetSessionByID`, the ways a handler that
is no chat handler can end, and one lemma per handler: it sends one reply on its
own connection, and around it only pushes to sessions it looked up and stored
containers it replays.

Does not own: chat messages.
-/

namespace AimServer

open AimServer.Lib
open AimServer.PasswordUtil

namespace Store

/-- The ids in the list of `GetFriendInfoByUserID`. -/
def friendIds (userid : Int) (s : Store) : List Int :=
  ((s.getFriendInfoByUserID userid).getD []).map User.userid

/-- They are the friends that have a record. -/
theorem mem_friendIds {userid id : Int} {s : Store} :
    id ∈ s.friendIds userid ↔ s.graph.friend userid id ∧ (s.graph.cached id).isSome := by
  rw [cached_isSome]
  show id ∈ s.friendIds userid ↔ s.isFriend userid id = true ∧ _
  unfold friendIds getFriendInfoByUserID isFriend
  cases s.getUserByID userid with
  | none => simp
  | some user =>
      simp only [Option.map_some, Option.getD_some, List.mem_map, List.mem_filterMap,
        mem_ascending, decide_eq_true_eq]
      constructor
      · intro listed
        obtain ⟨friend, ⟨friendid, isFriend, found⟩, rfl⟩ := listed
        have key : friend.userid = friendid := lookup_key found
        rw [key]
        exact ⟨isFriend, Option.isSome_of_eq_some found⟩
      · intro listed
        obtain ⟨isFriend, known⟩ := listed
        obtain ⟨friend, found⟩ := Option.isSome_iff_exists.mp known
        exact ⟨friend, ⟨id, isFriend, found⟩, lookup_key found⟩

theorem mem_friendIds_of_graph {userid id : Int} {s next : Store} (same : next.graph = s.graph)
    (listed : id ∈ next.friendIds userid) : id ∈ s.friendIds userid := by
  rw [mem_friendIds, same] at listed
  exact mem_friendIds.mpr listed

end Store

/-- An id a handler passes to `GetSessionByID`, with what it has checked by
then. -/
inductive LooksUp (pb : ImProto) (s : ClientSession) (msg : MessageContainer) (w : World) :
    MsgType → Int → Prop
  | online {req : LoginReq} {found : User} {id : Int}
      (parsed : pb.loginReq msg.payload = some req)
      (registered : w.store.getUserInfoUsername req.username = some found)
      (friend : id ∈ w.store.friendIds found.userid) : LooksUp pb s msg w .login id
  | added {user : User} {req : OperateFriendReq} (signedIn : s.user = some user)
      (parsed : pb.operateFriendReq msg.payload = some req) (isAdd : req.type = 1)
      (made : (w.store.makeFriendRelationship (smallId user.userid req.friendid)
        (greatId user.userid req.friendid)).1 = true) :
      LooksUp pb s msg w .operateFriend req.friendid
  | deleted {user : User} {req : OperateFriendReq} (signedIn : s.user = some user)
      (parsed : pb.operateFriendReq msg.payload = some req) (isDelete : req.type = 2)
      (made : (w.store.deleteFriendToUser user.userid req.friendid).1 = true) :
      LooksUp pb s msg w .operateFriend req.friendid
  | requested {user : User} {req : SendRequestReq} (signedIn : s.user = some user)
      (parsed : pb.sendRequestReq msg.payload = some req)
      (known : (w.store.getUserByID req.targetid).isSome) :
      LooksUp pb s msg w .sendRequest req.targetid
  | applied {user : User} {req : SendRequestReq} {group : User} (signedIn : s.user = some user)
      (parsed : pb.sendRequestReq msg.payload = some req)
      (found : w.store.getUserByID req.groupid = some group) :
      LooksUp pb s msg w .sendRequest group.ownerid
  | accepted {user : User} {req : HandleRequestReq} {row : FriendRequestRow}
      (signedIn : s.user = some user) (parsed : pb.handleRequestReq msg.payload = some req)
      (found : w.store.graph.request req.reqid = some row) (addressee : row.toId = user.userid) :
      LooksUp pb s msg w .handleRequest row.fromId
  | kicked {user : User} {req : KickGroupMemberReq} (signedIn : s.user = some user)
      (parsed : pb.kickGroupMemberReq msg.payload = some req)
      (member : w.store.isFriend req.memberid req.groupid = true) :
      LooksUp pb s msg w .kickGroupMember req.memberid
  | renamed {user : User} {req : RenameGroupReq} {id : Int} (signedIn : s.user = some user)
      (parsed : pb.renameGroupReq msg.payload = some req)
      (member : id ∈ w.store.friendIds req.groupid) (other : id ≠ user.userid) :
      LooksUp pb s msg w .renameGroup id
  | appointed {user : User} {req : SetGroupAdminReq} (signedIn : s.user = some user)
      (parsed : pb.setGroupAdminReq msg.payload = some req)
      (member : w.store.isFriend req.memberid req.groupid = true) :
      LooksUp pb s msg w .setGroupAdmin req.memberid
  | avatar {user : User} {req : AvatarUploadReq} {owner id : Int} (signedIn : s.user = some user)
      (parsed : pb.avatarUploadReq msg.payload = some req)
      (isOwner : owner = user.userid ∨ owner = req.targetId)
      (friend : id ∈ w.store.friendIds owner) : LooksUp pb s msg w .avatarUpload id
  | chat {user : User} {id : Int} (signedIn : s.user = some user)
      (notAgent : msg.targetId ≠ agentUserId)
      (recipient : id ∈ World.chatRecipients user msg.targetId w.store) :
      LooksUp pb s msg w .chat id
  | multiChat {user : User} {multi : MultiChatTargets} {target id : Int}
      (signedIn : s.user = some user) (parsed : pb.multiChatTargets msg.payload = some multi)
      (isTarget : target ∈ multi.targets) (notAgent : target ≠ agentUserId)
      (recipient : id ∈ World.chatRecipients user target w.store) :
      LooksUp pb s msg w .multiChat id

/-- The payload is a login request that names the user `found`. -/
structure NamesUser (pb : ImProto) (w : World) (msg : MessageContainer) (req : LoginReq)
    (found : User) : Prop where
  parsed : pb.loginReq msg.payload = some req
  username : req.username ≠ []
  password : req.password ≠ []
  registered : w.store.getUserInfoUsername req.username = some found

/-- A frame of a handler run besides its reply. -/
inductive Extra (pb : ImProto) (s : ClientSession) (msg : MessageContainer) (type : MsgType)
    (w next : World) (entry : Nat × Frame) : Prop
  /-- A status change or a new request, on a session the handler looked up. -/
  | pushed {id : Int} {session : ClientSession}
      (isPush : entry.2.cmd = cmdUserStatusChange ∨ entry.2.cmd = cmdNewRequestPush)
      (looksUp : LooksUp pb s msg w type id) (found : next.getSessionByID id = some session)
      (isConn : entry.1 = session.conn)
  /-- A stored container, after a login that named a user. -/
  | replayed {req : LoginReq} {found : User} {row : OfflineMsgRow} {container : MessageContainer}
      (isLogin : type = .login) (named : NamesUser pb w msg req found)
      (waits : row ∈ w.store.db.tables.offlineMsgs)
      (parsed : pb.parseContainer row.content = some container)
      (isEntry : entry = (s.conn, container.frame))

/-- The reply container of a handler. -/
def replyFrame (s : ClientSession) (type : MsgType) (body : Body) : Nat × Frame :=
  (s.conn, ⟨type.cmd, s.seq, 0, body⟩)

/-- One reply, and around it pushes and replays. -/
structure Answers (pb : ImProto) (s : ClientSession) (msg : MessageContainer) (type : MsgType)
    (w next : World) : Prop where
  fault : next.fault = w.fault
  sent : ∃ before after body,
    next.outbox = w.outbox ++ (before ++ replyFrame s type body :: after) ∧
      ∀ entry ∈ before ++ after, Extra pb s msg type w next entry

/-- The number `OnFindUserResponse` cannot read. -/
def BadNumber (pb : ImProto) (type : MsgType) (payload : Bytes) : Prop :=
  type = .findUser ∧ ∃ req, pb.findUserReq payload = some req ∧ req.type = str "userid" ∧
    stoi req.keyword = none

/-- How a handler other than the chat handlers can end. -/
inductive Outcome (pb : ImProto) (s : ClientSession) (msg : MessageContainer) (type : MsgType)
    (w next : World) : Prop
  | answered (answers : Answers pb s msg type w next)
  | threw (bad : BadNumber pb type msg.payload) (fault : next.fault = some .badNumber)
      (sent : next.outbox = w.outbox)
  | crashed (anonymous : s.user = none) (fault : next.fault = some .nullUser)
      (sent : next.outbox = w.outbox ∨
        ∃ body, next.outbox = w.outbox ++ [replyFrame s type body])

section Handlers

variable {pb : ImProto} {s : ClientSession} {msg : MessageContainer} {type : MsgType}
  {w next : World}

/-- A handler that only replies. -/
theorem Outcome.reply {body : Body} (sent : next.outbox = w.outbox ++ [replyFrame s type body])
    (fault : next.fault = w.fault) : Outcome pb s msg type w next :=
  .answered ⟨fault, [], [], body, sent, by simp⟩

/-- A handler that pushes and then replies. -/
theorem Outcome.pushes {frames : List (Nat × Frame)} {body : Body}
    (sent : next.outbox = w.outbox ++ frames ++ [replyFrame s type body])
    (fault : next.fault = w.fault) (all : ∀ entry ∈ frames, Extra pb s msg type w next entry) :
    Outcome pb s msg type w next := by
  refine .answered ⟨fault, frames, [], body, by rw [sent, List.append_assoc], ?_⟩
  rw [List.append_nil]
  exact all

/-- A read through the null `m_user` before anything was sent. -/
theorem Outcome.raised (anonymous : s.user = none) (fault : next.fault = some .nullUser)
    (sent : next.outbox = w.outbox) : Outcome pb s msg type w next :=
  .crashed anonymous fault (Or.inl sent)

/-- A reply, and then a log line that reads `m_user`. -/
theorem Outcome.logged {body : Body} (answered : next = w.reply s type body) :
    Outcome pb s msg type w (next.derefUser s) := by
  subst answered
  unfold World.derefUser
  split
  · rename_i anonymous
    exact .crashed anonymous rfl (Or.inr ⟨body, rfl⟩)
  · exact .reply rfl rfl

namespace World

/-- Status changes go to sessions that were looked up. -/
theorem extra_of_statusFrames {v : World} {targets : List Int} {userid kind : Int}
    {customface : Bytes} (sessions : v.sessions = next.sessions)
    (looked : ∀ id ∈ targets, LooksUp pb s msg w type id) :
    ∀ entry ∈ targets.flatMap (v.statusFrames userid kind customface),
      Extra pb s msg type w next entry := by
  intro entry member
  obtain ⟨target, isTarget, pushed⟩ := List.mem_flatMap.mp member
  have sameLookup : v.getSessionByID target = next.getSessionByID target := by
    simp [getSessionByID, sessions]
  unfold statusFrames at pushed
  split at pushed
  · cases pushed
  · rename_i session found
    rw [List.mem_singleton.mp pushed]
    rw [sameLookup] at found
    exact .pushed (Or.inl rfl) (looked target isTarget) found rfl

/-- The push of a new request goes to the session that was looked up. -/
theorem extra_of_newRequestFrames {v : World} {target : Int} {request : FriendRequest}
    (sessions : v.sessions = next.sessions) (looked : LooksUp pb s msg w type target) :
    ∀ entry ∈ v.newRequestFrames target request, Extra pb s msg type w next entry := by
  intro entry pushed
  have sameLookup : v.getSessionByID target = next.getSessionByID target := by
    simp [getSessionByID, sessions]
  unfold newRequestFrames at pushed
  split at pushed
  · cases pushed
  · rename_i session found
    rw [List.mem_singleton.mp pushed]
    rw [sameLookup] at found
    exact .pushed (Or.inr rfl) looked found rfl

/-! ### Account handlers -/

theorem onRegisterResponse_outcome :
    Outcome pb s msg .register w (w.onRegisterResponse pb s msg) := by
  unfold onRegisterResponse
  split
  · exact .reply rfl rfl
  split
  · exact .reply rfl rfl
  split
  · exact .reply rfl rfl
  split
  · exact .reply rfl rfl
  split
  · exact .reply rfl rfl
  · exact .reply rfl rfl
  · dsimp only
    split
    · exact .reply rfl rfl
    · exact .reply rfl rfl

/-- The replayed containers were waiting before the login. -/
theorem extra_of_replayFrames {req : LoginReq} {found : User} {kind : OfflineKind} {userid : Int}
    {store : Store} {s' : ClientSession} (named : NamesUser pb w msg req found)
    (isConn : s'.conn = s.conn)
    (older : ∀ row ∈ store.db.tables.offlineMsgs, row ∈ w.store.db.tables.offlineMsgs) :
    ∀ entry ∈ replayFrames pb s'.conn (store.fetchAndDeleteOfflineMsg kind userid).1,
      Extra pb s msg .login w next entry := by
  have waiting : ∀ blob ∈ (store.fetchAndDeleteOfflineMsg kind userid).1,
      ∃ row ∈ store.db.tables.offlineMsgs, row.content = blob := by
    intro blob member
    unfold Store.fetchAndDeleteOfflineMsg Store.query at member
    simp only [MySql.query_fst, MySql.query_snd] at member
    split at member
    · cases member
    · cases member
    · rename_i first rest _ result
      split at result
      · simp only [Prod.mk.injEq, Option.some.injEq] at result
        rw [← result.1] at member
        obtain ⟨row, selected, rfl⟩ := List.mem_map.mp member
        exact ⟨row, (List.mem_filter.mp selected).1, (fromHex_toHex row.content).symm⟩
      · simp at result
  intro entry member
  obtain ⟨blob, isBlob, replayed⟩ := List.mem_filterMap.mp member
  obtain ⟨row, waits, content⟩ := waiting blob isBlob
  obtain ⟨container, parsed, rfl⟩ := Option.map_eq_some_iff.mp replayed
  rw [isConn]
  exact .replayed rfl named (older row waits) (by rw [content, parsed]) rfl

/-- A fetch leaves rows that were there before. -/
theorem fetch_older {kind : OfflineKind} {userid : Int} {store : Store} :
    ∀ row ∈ (store.fetchAndDeleteOfflineMsg kind userid).2.db.tables.offlineMsgs,
      row ∈ store.db.tables.offlineMsgs := by
  refine Store.fetchAndDeleteOfflineMsg_relates (fun before after =>
    ∀ row ∈ after.db.tables.offlineMsgs, row ∈ before.db.tables.offlineMsgs) ?_ ?_ ?_ _
  · intro s middle next first second row member
    exact first row (second row member)
  · intro s row member
    exact member
  · intro s row member
    rcases Store.execute_cases (.deleteOfflineMsg userid kind.code) s with
      failed | ⟨-, tables, applied, succeeded⟩
    · rw [failed] at member
      exact member
    · rw [succeeded] at member
      cases applied
      exact (List.mem_filter.mp member).1

/-- Setting a status writes to no table. -/
theorem setUserStatus_tables (userid status : Int) (store : Store) :
    (store.setUserStatus userid status).2.db = store.db := by
  unfold Store.setUserStatus
  split <;> rfl

/-- The store an accepted login leaves, as `completeLogin` reaches it. -/
def afterLogin (userid : Int) (store : Store) : Store :=
  ((store.setUserStatus userid 1).2.getNotifyMsgCache userid).2.getChatMsgCache userid |>.2

theorem afterLogin_graph (userid : Int) (store : Store) :
    (afterLogin userid store).graph = store.graph := by
  have online := Store.setUserStatus_follows userid 1 store
  have notified := Store.fetchAndDeleteOfflineMsg_follows .notify userid
    (store.setUserStatus userid 1).2
  have chatted := Store.fetchAndDeleteOfflineMsg_follows .chat userid
    ((store.setUserStatus userid 1).2.getNotifyMsgCache userid).2
  exact ((online.trans notified).trans chatted).graph

/-- The frames of an accepted login, in order. -/
theorem completeLogin_frames (pb : ImProto) (s : ClientSession) (found : User) (w : World) :
    ∃ (isVip : Bool) (online : World), online.sessions = (w.completeLogin pb s found).sessions ∧
      (w.completeLogin pb s found).outbox = w.outbox ++
        (replyFrame s .login (.login 0 "ok" (some (infoOf found)) isVip) ::
          (replayFrames pb s.conn
              ((w.store.setUserStatus found.userid 1).2.getNotifyMsgCache found.userid).1 ++
            (replayFrames pb s.conn (((w.store.setUserStatus found.userid 1).2.getNotifyMsgCache
                found.userid).2.getChatMsgCache found.userid).1 ++
              ((afterLogin found.userid w.store).friendIds found.userid).flatMap
                (online.statusFrames found.userid 1 [])))) := by
  unfold completeLogin
  cases w.env.grpc with
  | ready =>
      refine ⟨w.env.vipStatus.getD false, _, rfl, ?_⟩
      simp only [notifyAll, emit, World.reply, withStore, setSession, call, List.append_assoc,
        List.singleton_append]
      rfl
  | notBuilt =>
      refine ⟨false, _, rfl, ?_⟩
      simp only [notifyAll, emit, World.reply, withStore, setSession, List.append_assoc,
        List.singleton_append]
      rfl
  | notConfigured =>
      refine ⟨false, _, rfl, ?_⟩
      simp only [notifyAll, emit, World.reply, withStore, setSession, List.append_assoc,
        List.singleton_append]
      rfl

/-- An accepted login replies first, replays what waits, and tells the
friends. -/
theorem completeLogin_answers {req : LoginReq} {found : User}
    (named : NamesUser pb w msg req found) :
    Answers pb s msg .login w ((w.setSession { s with user := some found }).completeLogin pb
      { s with user := some found } found) := by
  refine ⟨completeLogin_fault found, ?_⟩
  obtain ⟨isVip, online, sessions, outbox⟩ := completeLogin_frames pb { s with user := some found }
    found (w.setSession { s with user := some found })
  refine ⟨[], _, _, outbox, ?_⟩
  have unread : ∀ row ∈ (w.store.setUserStatus found.userid 1).2.db.tables.offlineMsgs,
      row ∈ w.store.db.tables.offlineMsgs := by
    rw [setUserStatus_tables]
    exact fun _ member => member
  intro entry member
  rw [List.nil_append] at member
  rcases List.mem_append.mp member with notify | rest
  · exact extra_of_replayFrames named rfl unread entry notify
  rcases List.mem_append.mp rest with chat | status
  · exact extra_of_replayFrames named rfl (fun row waits => unread row (fetch_older row waits))
      entry chat
  · refine extra_of_statusFrames sessions ?_ entry status
    intro id listed
    exact .online named.parsed named.registered
      (Store.mem_friendIds_of_graph (afterLogin_graph _ _) listed)

theorem onLoginResponse_outcome : Outcome pb s msg .login w (w.onLoginResponse pb s msg) := by
  unfold onLoginResponse
  split
  · exact .logged rfl
  · rename_i req parsed
    split
    · exact .logged rfl
    rename_i filled
    obtain ⟨username, password⟩ := not_or.mp filled
    split
    · exact .logged rfl
    · rename_i found registered
      dsimp only
      split
      · exact .answered (completeLogin_answers ⟨parsed, username, password, registered⟩)
      · exact .reply rfl rfl

theorem onSendEmailCodeResponse_outcome :
    Outcome pb s msg .sendEmailCode w (w.onSendEmailCodeResponse pb s msg) := by
  unfold onSendEmailCodeResponse
  split
  · exact .reply rfl rfl
  split
  · exact .reply rfl rfl
  split
  · exact .reply rfl rfl
  · exact .reply rfl rfl
  · exact .reply rfl rfl

theorem onUpgradeVipResponse_outcome :
    Outcome pb s msg .upgradeVip w (w.onUpgradeVipResponse pb s msg) := by
  unfold onUpgradeVipResponse
  split
  · exact .reply rfl rfl
  dsimp only
  split
  · exact .reply rfl rfl
  · exact .reply rfl rfl
  · exact .reply rfl rfl

theorem onUpdateUserInfoResponse_outcome :
    Outcome pb s msg .updateUserInfo w (w.onUpdateUserInfoResponse pb s msg) := by
  unfold onUpdateUserInfoResponse
  split
  · exact .reply rfl rfl
  split
  · rename_i anonymous
    exact .raised anonymous rfl rfl
  dsimp only
  split
  · exact .reply rfl rfl
  · exact .reply rfl rfl

theorem onModifyPasswordResponse_outcome :
    Outcome pb s msg .modifyPassword w (w.onModifyPasswordResponse pb s msg) := by
  unfold onModifyPasswordResponse
  split
  · exact .reply rfl rfl
  split
  · exact .reply rfl rfl
  split
  · rename_i anonymous
    exact .raised anonymous rfl rfl
  split
  · exact .reply rfl rfl
  split
  · exact .reply rfl rfl
  · exact .reply rfl rfl

/-- An avatar that was stored is shown to the friends or members of its
owner. -/
theorem updateUserInfo_graph (userid : Int) (newuserinfo : User) (store : Store) :
    (store.updateUserInfo userid newuserinfo).2.graph = store.graph :=
  (Store.updateUserInfo_follows userid newuserinfo store).graph

theorem onAvatarUploadResponse_outcome :
    Outcome pb s msg .avatarUpload w (w.onAvatarUploadResponse pb s msg) := by
  unfold onAvatarUploadResponse
  split
  · exact .reply rfl rfl
  rename_i req parsed
  split
  · exact .reply rfl rfl
  rename_i user signedIn
  split
  · exact .reply rfl rfl
  · exact .reply rfl rfl
  split
  · unfold uploadGroupAvatar
    dsimp only
    split
    · exact .reply rfl rfl
    split
    · exact .reply rfl rfl
    split
    · refine .pushes rfl rfl (extra_of_statusFrames rfl ?_)
      intro id listed
      have member := (List.mem_filter.mp listed).1
      exact .avatar signedIn parsed (Or.inr rfl)
        (Store.mem_friendIds_of_graph (updateUserInfo_graph _ _ _) member)
    · exact .reply rfl rfl
  · unfold uploadOwnAvatar
    dsimp only
    split
    · refine .pushes rfl rfl (extra_of_statusFrames rfl ?_)
      intro id listed
      exact .avatar signedIn parsed (Or.inl rfl)
        (Store.mem_friendIds_of_graph (updateUserInfo_graph _ _ _) listed)
    · exact .reply rfl rfl

/-! ### Friend and request handlers -/

theorem onFindUserResponse_outcome :
    Outcome pb s msg .findUser w (w.onFindUserResponse pb s msg) := by
  unfold onFindUserResponse
  split
  · exact .reply rfl rfl
  rename_i req parsed
  split
  · exact .reply rfl rfl
  split
  · rename_i byId
    split
    · rename_i bad
      exact .threw ⟨rfl, req, parsed, byId, bad⟩ rfl rfl
    · exact .reply rfl rfl
  · exact .reply rfl rfl

theorem onOperateFriendResponse_outcome :
    Outcome pb s msg .operateFriend w (w.onOperateFriendResponse pb s msg) := by
  unfold onOperateFriendResponse
  split
  · exact .reply rfl rfl
  rename_i req parsed
  split
  · rename_i isAdd
    unfold operateAdd
    split
    · exact .reply rfl rfl
    split
    · rename_i anonymous
      exact .raised anonymous rfl rfl
    rename_i user signedIn
    split
    · rename_i store result
      refine .pushes rfl rfl (extra_of_statusFrames rfl ?_)
      intro id listed
      rw [List.mem_singleton.mp listed]
      exact .added signedIn parsed isAdd (congrArg Prod.fst result)
    · exact .reply rfl rfl
  split
  · rename_i isDelete
    unfold operateDelete
    split
    · rename_i anonymous
      exact .raised anonymous rfl rfl
    rename_i user signedIn
    split
    · rename_i store result
      refine .pushes rfl rfl (extra_of_statusFrames rfl ?_)
      intro id listed
      rw [List.mem_singleton.mp listed]
      exact .deleted signedIn parsed isDelete (congrArg Prod.fst result)
    · exact .reply rfl rfl
  split
  · unfold operateInvite
    split
    · split
      · exact .reply rfl rfl
      · exact .reply rfl rfl
    · exact .reply rfl rfl
  · exact .reply rfl rfl

/-- A stored request is pushed to its addressee. -/
theorem storeRequest_outcome {user : User} {toId reqType groupId : Int}
    {groupname message : Bytes} {sent failed : String}
    (looked : LooksUp pb s msg w .sendRequest toId) :
    Outcome pb s msg .sendRequest w
      (w.storeRequest s user toId reqType groupId groupname message sent failed) := by
  unfold storeRequest
  split
  · exact .pushes rfl rfl (extra_of_newRequestFrames rfl looked)
  · exact .reply rfl rfl

theorem onSendRequestResponse_outcome :
    Outcome pb s msg .sendRequest w (w.onSendRequestResponse pb s msg) := by
  unfold onSendRequestResponse
  split
  · exact .reply rfl rfl
  rename_i user signedIn
  split
  · exact .reply rfl rfl
  rename_i req parsed
  split
  · unfold sendFriendRequest
    dsimp only
    split
    · exact .reply rfl rfl
    split
    · exact .reply rfl rfl
    split
    · exact .reply rfl rfl
    rename_i target found
    split
    · exact .reply rfl rfl
    · exact storeRequest_outcome (.requested signedIn parsed (Option.isSome_of_eq_some found))
  split
  · unfold sendInvitation
    dsimp only
    split
    · exact .reply rfl rfl
    split
    · exact .reply rfl rfl
    split
    · exact .reply rfl rfl
    rename_i target found
    split
    · exact .reply rfl rfl
    split
    · exact .reply rfl rfl
    · exact storeRequest_outcome (.requested signedIn parsed (Option.isSome_of_eq_some found))
  split
  · unfold sendApplication
    dsimp only
    split
    · exact .reply rfl rfl
    rename_i group found
    split
    · exact .reply rfl rfl
    split
    · exact .reply rfl rfl
    split
    · exact .reply rfl rfl
    · exact storeRequest_outcome (.applied signedIn parsed found)
  · exact .reply rfl rfl

theorem acceptRequest_outcome {user : User} {req : HandleRequestReq} {row : FriendRequestRow}
    (signedIn : s.user = some user) (parsed : pb.handleRequestReq msg.payload = some req)
    (found : w.store.graph.request req.reqid = some row) (addressee : row.toId = user.userid)
    {v : World} (outbox : v.outbox = w.outbox) (fault : v.fault = w.fault) :
    Outcome pb s msg .handleRequest w (v.acceptRequest s req.reqid row) := by
  have looked : ∀ id ∈ [row.fromId], LooksUp pb s msg w .handleRequest id := by
    intro id listed
    rw [List.mem_singleton.mp listed]
    exact .accepted signedIn parsed found addressee
  unfold acceptRequest
  split
  · exact .reply (congrArg (· ++ _) outbox) fault
  split
  · exact .reply (congrArg (· ++ _) outbox) fault
  · unfold notifyAccepted
    dsimp only
    split
    · exact .pushes (congrArg (· ++ _ ++ _) outbox) fault (extra_of_statusFrames rfl looked)
    split
    · exact .pushes (congrArg (· ++ _ ++ _) outbox) fault (extra_of_statusFrames rfl looked)
    · exact .reply (congrArg (· ++ _) outbox) fault

theorem onHandleRequestResponse_outcome :
    Outcome pb s msg .handleRequest w (w.onHandleRequestResponse pb s msg) := by
  unfold onHandleRequestResponse
  split
  · exact .reply rfl rfl
  rename_i user signedIn
  split
  · exact .reply rfl rfl
  rename_i req parsed
  rcases Store.getFriendRequestById_cases req.reqid w.store with
    unread | ⟨row, -, found, read⟩
  · rw [unread]
    exact .reply rfl rfl
  · rw [read]
    dsimp only
    split
    · exact .reply rfl rfl
    rename_i addressed
    split
    · exact .reply rfl rfl
    · exact acceptRequest_outcome signedIn parsed found (not_not.mp addressed) rfl rfl

/-! ### Group handlers -/

theorem onCreateGroupResponse_outcome :
    Outcome pb s msg .createGroup w (w.onCreateGroupResponse pb s msg) := by
  unfold onCreateGroupResponse
  split
  · exact .reply rfl rfl
  split
  · exact .reply rfl rfl
  split
  · rename_i anonymous
    exact .raised anonymous rfl rfl
  split
  · exact .reply rfl rfl
  · exact .reply rfl rfl

theorem onGetGroupMembersResponse_outcome :
    Outcome pb s msg .getGroupMembers w (w.onGetGroupMembersResponse pb s msg) := by
  unfold onGetGroupMembersResponse
  split
  · exact .reply rfl rfl
  dsimp only
  split
  · exact .reply rfl rfl
  · exact .reply rfl rfl

theorem onKickGroupMemberResponse_outcome :
    Outcome pb s msg .kickGroupMember w (w.onKickGroupMemberResponse pb s msg) := by
  unfold onKickGroupMemberResponse
  split
  · exact .reply rfl rfl
  rename_i user signedIn
  split
  · exact .reply rfl rfl
  rename_i req parsed
  dsimp only
  split
  · exact .reply rfl rfl
  split
  · exact .reply rfl rfl
  split
  · exact .reply rfl rfl
  split
  · exact .reply rfl rfl
  split
  · exact .reply rfl rfl
  rename_i member
  split
  · refine .pushes rfl rfl (extra_of_statusFrames rfl ?_)
    intro id listed
    rw [List.mem_singleton.mp listed]
    exact .kicked signedIn parsed (not_not.mp member)
  · exact .reply rfl rfl

theorem onRenameGroupResponse_outcome :
    Outcome pb s msg .renameGroup w (w.onRenameGroupResponse pb s msg) := by
  unfold onRenameGroupResponse
  split
  · exact .reply rfl rfl
  rename_i user signedIn
  split
  · exact .reply rfl rfl
  rename_i req parsed
  dsimp only
  split
  · exact .reply rfl rfl
  split
  · exact .reply rfl rfl
  split
  · exact .reply rfl rfl
  split
  · exact .reply rfl rfl
  split
  · rename_i store result
    refine .pushes rfl rfl (extra_of_statusFrames rfl ?_)
    intro id listed
    obtain ⟨member, other⟩ := List.mem_filter.mp listed
    have sameGraph := (Store.renameGroup_follows req.groupid req.newname w.store).graph
    rw [result] at sameGraph
    exact .renamed signedIn parsed (Store.mem_friendIds_of_graph sameGraph member)
      (of_decide_eq_true other)
  · exact .reply rfl rfl

theorem onSetGroupAdminResponse_outcome :
    Outcome pb s msg .setGroupAdmin w (w.onSetGroupAdminResponse pb s msg) := by
  unfold onSetGroupAdminResponse
  split
  · exact .reply rfl rfl
  rename_i user signedIn
  split
  · exact .reply rfl rfl
  rename_i req parsed
  dsimp only
  split
  · exact .reply rfl rfl
  split
  · exact .reply rfl rfl
  split
  · exact .reply rfl rfl
  split
  · exact .reply rfl rfl
  split
  · exact .reply rfl rfl
  rename_i member
  split
  · refine .pushes rfl rfl (extra_of_statusFrames rfl ?_)
    intro id listed
    rw [List.mem_singleton.mp listed]
    exact .appointed signedIn parsed (not_not.mp member)
  · exact .reply rfl rfl

/-! ### All handlers but the chat handlers -/

theorem onGetFriendListResponse_outcome :
    Outcome pb s msg .getFriendList w (w.onGetFriendListResponse s) := by
  unfold onGetFriendListResponse
  split
  · rename_i anonymous
    exact .raised anonymous rfl rfl
  · exact .reply rfl rfl

theorem onPendingRequestsResponse_outcome :
    Outcome pb s msg .pendingRequests w (w.onPendingRequestsResponse s) := by
  unfold onPendingRequestsResponse
  split
  · exact .reply rfl rfl
  · exact .reply rfl rfl

theorem onGetChatHistoryResponse_outcome :
    Outcome pb s msg .getChatHistory w (w.onGetChatHistoryResponse pb s msg) := by
  unfold onGetChatHistoryResponse
  split
  · exact .logged rfl
  split
  · rename_i anonymous
    exact .raised anonymous rfl rfl
  split
  · exact .reply rfl rfl
  · exact .reply rfl rfl

/-- How a handler that is no chat handler ends. -/
theorem handle_outcome (pb : ImProto) {type : MsgType} (notChat : type ≠ .chat)
    (notMultiChat : type ≠ .multiChat) (s : ClientSession) (msg : MessageContainer) (w : World) :
    Outcome pb s msg type w (w.handle pb type s msg) := by
  cases type with
  | heartbeat => exact .reply rfl rfl
  | register => exact onRegisterResponse_outcome
  | login => exact onLoginResponse_outcome
  | getFriendList => exact onGetFriendListResponse_outcome
  | findUser => exact onFindUserResponse_outcome
  | operateFriend => exact onOperateFriendResponse_outcome
  | updateUserInfo => exact onUpdateUserInfoResponse_outcome
  | modifyPassword => exact onModifyPasswordResponse_outcome
  | createGroup => exact onCreateGroupResponse_outcome
  | getGroupMembers => exact onGetGroupMembersResponse_outcome
  | getChatHistory => exact onGetChatHistoryResponse_outcome
  | avatarUpload => exact onAvatarUploadResponse_outcome
  | sendEmailCode => exact onSendEmailCodeResponse_outcome
  | upgradeVip => exact onUpgradeVipResponse_outcome
  | sendRequest => exact onSendRequestResponse_outcome
  | pendingRequests => exact onPendingRequestsResponse_outcome
  | handleRequest => exact onHandleRequestResponse_outcome
  | kickGroupMember => exact onKickGroupMemberResponse_outcome
  | renameGroup => exact onRenameGroupResponse_outcome
  | setGroupAdmin => exact onSetGroupAdminResponse_outcome
  | chat => exact absurd rfl notChat
  | multiChat => exact absurd rfl notMultiChat

end World

end Handlers

end AimServer
