import AimServer.Graph.Effect

/-!
Contract: the list of effects is complete for every handler.

Owns: one lemma per handler, which follows the branches of its source, and
their union over all commands.

Does not own: steps that reach no handler.
-/

namespace AimServer

open AimServer.Lib

/-- A handler run from `w` to `next` is one of the listed effects. -/
def Acts (pb : ImProto) (s : ClientSession) (msg : MessageContainer) (w : World) (type : MsgType)
    (next : World) : Prop :=
  ∃ ops, Effect pb s msg w.store type ops ∧ Store.Follows ops w.store next.store

section Handlers

variable {pb : ImProto} {s : ClientSession} {msg : MessageContainer} {w : World}

theorem Acts.unseen {type : MsgType} {next : World}
    (follows : Store.Follows [] w.store next.store) : Acts pb s msg w type next :=
  ⟨[], .quiet, follows⟩

theorem Acts.still {type : MsgType} {next : World} (same : next.store = w.store) :
    Acts pb s msg w type next :=
  .unseen (by rw [same]; exact .refl _)

namespace World

/-! ### Account handlers -/

theorem onRegisterResponse_acts : Acts pb s msg w .register (w.onRegisterResponse pb s msg) := by
  unfold onRegisterResponse
  split
  · exact .still rfl
  · rename_i req parsed
    split
    · exact .still rfl
    split
    · exact .still rfl
    split
    · exact .still rfl
    split
    · exact .still rfl
    · exact .still rfl
    · dsimp only
      split
      · rcases Store.addUser_cases w.env.salt (registeredUser req) w.store rfl rfl with
          refused | ⟨fresh, enrolled⟩
        · exact .unseen refused
        · exact ⟨_, .register fresh, enrolled⟩
      · exact .still rfl

theorem completeLogin_follows (pb : ImProto) (s : ClientSession) (found : User) (w : World) :
    Store.Follows [] w.store (w.completeLogin pb s found).store := by
  unfold completeLogin
  have online := Store.setUserStatus_follows found.userid 1 w.store
  have notified := Store.fetchAndDeleteOfflineMsg_follows .notify found.userid
    (w.store.setUserStatus found.userid 1).2
  have chatted := Store.fetchAndDeleteOfflineMsg_follows .chat found.userid
    ((w.store.setUserStatus found.userid 1).2.getNotifyMsgCache found.userid).2
  have all := (online.trans notified).trans chatted
  cases w.env.grpc <;> exact all

theorem onLoginResponse_acts : Acts pb s msg w .login (w.onLoginResponse pb s msg) := by
  unfold onLoginResponse
  split
  · exact .still derefUser_store
  · rename_i req _
    split
    · exact .still derefUser_store
    split
    · exact .still derefUser_store
    · rename_i found _
      dsimp only
      cases PasswordUtil.verifyPassword req.password found.password with
      | true => exact .unseen (completeLogin_follows pb _ found (w.setSession _))
      | false => exact .still rfl

theorem onSendEmailCodeResponse_acts :
    Acts pb s msg w .sendEmailCode (w.onSendEmailCodeResponse pb s msg) := by
  apply Acts.still
  unfold onSendEmailCodeResponse
  split
  · rfl
  · split_ifs
    · rfl
    · split <;> rfl

theorem onUpgradeVipResponse_acts :
    Acts pb s msg w .upgradeVip (w.onUpgradeVipResponse pb s msg) := by
  apply Acts.still
  unfold onUpgradeVipResponse
  split
  · rfl
  · dsimp only
    cases w.env.grpc <;> rfl

theorem onUpdateUserInfoResponse_acts :
    Acts pb s msg w .updateUserInfo (w.onUpdateUserInfoResponse pb s msg) := by
  unfold onUpdateUserInfoResponse
  split
  · exact .still rfl
  · rename_i req _
    split
    · exact .still rfl
    · rename_i user _
      have updated := Store.updateUserInfo_follows user.userid
        (Store.withProfile (requestedProfile req user) User.blank) w.store
      dsimp only
      split
      · rename_i store result
        rw [result] at updated
        exact .unseen updated
      · rename_i store result
        rw [result] at updated
        exact .unseen updated

theorem onModifyPasswordResponse_acts :
    Acts pb s msg w .modifyPassword (w.onModifyPasswordResponse pb s msg) := by
  unfold onModifyPasswordResponse
  split
  · exact .still rfl
  · rename_i req _
    split
    · exact .still rfl
    · split
      · exact .still rfl
      · rename_i user _
        split
        · exact .still rfl
        · have modified := Store.modifyUserPassword_follows w.env.salt user.userid req.newpassword
            w.store
          split
          · rename_i store result
            rw [result] at modified
            exact .unseen modified
          · rename_i store result
            rw [result] at modified
            exact .unseen modified

theorem onAvatarUploadResponse_acts :
    Acts pb s msg w .avatarUpload (w.onAvatarUploadResponse pb s msg) := by
  unfold onAvatarUploadResponse
  split
  · exact .still rfl
  · rename_i req _
    split
    · exact .still rfl
    · rename_i user _
      split
      · exact .still rfl
      · exact .still rfl
      · split
        · unfold uploadGroupAvatar
          dsimp only
          split
          · exact .still rfl
          split
          · exact .still rfl
          split
          · exact .unseen (Store.updateUserInfo_follows _ _ _)
          · exact .still rfl
        · unfold uploadOwnAvatar
          dsimp only
          split
          · exact .unseen (Store.updateUserInfo_follows _ _ _)
          · exact .still rfl

/-! ### Friend and request handlers -/

theorem onFindUserResponse_acts : Acts pb s msg w .findUser (w.onFindUserResponse pb s msg) := by
  apply Acts.still
  unfold onFindUserResponse
  split
  · rfl
  · split
    · rfl
    split
    · split <;> rfl
    · rfl

theorem operateAdd_acts {req : OperateFriendReq}
    (parsed : pb.operateFriendReq msg.payload = some req) (isAdd : req.type = 1) :
    Acts pb s msg w .operateFriend (w.operateAdd s req) := by
  unfold operateAdd
  split
  · exact .still rfl
  rename_i isUser
  split
  · exact .still rfl
  rename_i user signedIn
  rcases Store.makeFriendRelationship_cases (smallId user.userid req.friendid)
    (greatId user.userid req.friendid) w.store with
    ⟨-, -, follows⟩ | ⟨ordered, granted, -, follows, -⟩
  all_goals
    split
    all_goals
      rename_i store result
      rw [result] at follows
  · exact .unseen follows
  · exact .unseen follows
  · exact ⟨_, .operateAdd signedIn parsed isAdd (not_le.mp isUser) ordered granted, follows⟩
  · exact ⟨_, .operateAdd signedIn parsed isAdd (not_le.mp isUser) ordered granted, follows⟩

theorem operateDelete_acts {req : OperateFriendReq}
    (parsed : pb.operateFriendReq msg.payload = some req) (isDelete : req.type = 2) :
    Acts pb s msg w .operateFriend (w.operateDelete s req) := by
  unfold operateDelete
  split
  · exact .still rfl
  rename_i user signedIn
  rcases Store.deleteFriendToUser_cases user.userid req.friendid w.store with
    ⟨-, follows⟩ | ⟨granted, follows⟩
  all_goals
    split
    all_goals
      rename_i store result
      rw [result] at follows
  · exact .unseen follows
  · exact .unseen follows
  · exact ⟨_, .operateDelete signedIn parsed isDelete granted, follows⟩
  · exact ⟨_, .operateDelete signedIn parsed isDelete granted, follows⟩

theorem operateInvite_acts {req : OperateFriendReq}
    (parsed : pb.operateFriendReq msg.payload = some req) (isInvite : req.type = 3) :
    Acts pb s msg w .operateFriend (w.operateInvite s req msg.targetId) := by
  unfold operateInvite
  split
  · rename_i isGroup
    rcases Store.makeFriendRelationship_cases (smallId req.friendid msg.targetId)
      (greatId req.friendid msg.targetId) w.store with
      ⟨-, -, follows⟩ | ⟨-, -, -, follows, -⟩
    all_goals
      split
      all_goals
        rename_i store result
        rw [result] at follows
    · exact .unseen follows
    · exact .unseen follows
    · exact ⟨_, .operateInvite parsed isInvite isGroup, follows⟩
    · exact ⟨_, .operateInvite parsed isInvite isGroup, follows⟩
  · exact .still rfl

theorem onOperateFriendResponse_acts :
    Acts pb s msg w .operateFriend (w.onOperateFriendResponse pb s msg) := by
  unfold onOperateFriendResponse
  split
  · exact .still rfl
  rename_i req parsed
  split
  · rename_i isAdd
    exact operateAdd_acts parsed isAdd
  split
  · rename_i isDelete
    exact operateDelete_acts parsed isDelete
  split
  · rename_i isInvite
    exact operateInvite_acts parsed isInvite
  · exact .still rfl

/-- What `storeRequest` does is what `AddFriendRequest` did. -/
theorem storeRequest_store {user : User} {toId reqType groupId : Int} {groupname message : Bytes}
    {sent failed : String} :
    (w.storeRequest s user toId reqType groupId groupname message sent failed).store =
      (w.store.addFriendRequest user.userid toId reqType groupId message).2 := by
  unfold storeRequest
  split
  · rename_i result
    rw [result]
    rfl
  · rename_i result
    rw [result]
    rfl

theorem sendFriendRequest_acts {user : User} {req : SendRequestReq}
    (signedIn : s.user = some user) (parsed : pb.sendRequestReq msg.payload = some req)
    (isFriend : req.reqtype = 1) :
    Acts pb s msg w .sendRequest (w.sendFriendRequest s user req) := by
  unfold sendFriendRequest
  dsimp only
  split
  · exact .still rfl
  rename_i other
  split
  · exact .still rfl
  rename_i isUser
  split
  · exact .still rfl
  rename_i target found
  split
  · exact .still rfl
  rename_i stranger
  rw [Acts, storeRequest_store]
  rcases Store.addFriendRequest_cases user.userid req.targetid 1 0 req.message w.store with
    follows | ⟨granted, unasked, key, fresh, follows⟩
  · exact ⟨_, .quiet, follows⟩
  · have knownTarget : (w.store.graph.cached req.targetid).isSome := by
      simp [Store.cached_of_getUserByID found]
    exact ⟨_, .sendFriendRequest signedIn parsed isFriend other (not_le.mp isUser) knownTarget
      stranger granted unasked fresh, follows⟩

theorem sendInvitation_acts {user : User} {req : SendRequestReq}
    (signedIn : s.user = some user) (parsed : pb.sendRequestReq msg.payload = some req)
    (isInvitation : req.reqtype = 2) :
    Acts pb s msg w .sendRequest (w.sendInvitation s user req) := by
  unfold sendInvitation
  dsimp only
  split
  · exact .still rfl
  rename_i group found
  split
  · exact .still rfl
  rename_i isGroup
  split
  · exact .still rfl
  rename_i target foundTarget
  split
  · exact .still rfl
  rename_i isUser
  split
  · exact .still rfl
  rename_i stranger
  rw [Acts, storeRequest_store]
  rcases Store.addFriendRequest_cases user.userid req.targetid 2 req.groupid req.message
    w.store with follows | ⟨granted, unasked, key, fresh, follows⟩
  · exact ⟨_, .quiet, follows⟩
  · have known : (w.store.graph.cached req.groupid).isSome := by
      simp [Store.cached_of_getUserByID found]
    have knownTarget : (w.store.graph.cached req.targetid).isSome := by
      simp [Store.cached_of_getUserByID foundTarget]
    exact ⟨_, .sendInvitation signedIn parsed isInvitation (not_lt.mp isGroup) known
      (not_le.mp isUser) knownTarget stranger granted unasked fresh, follows⟩

theorem sendApplication_acts {user : User} {req : SendRequestReq}
    (signedIn : s.user = some user) (parsed : pb.sendRequestReq msg.payload = some req)
    (isApplication : req.reqtype = 3) :
    Acts pb s msg w .sendRequest (w.sendApplication s user req) := by
  unfold sendApplication
  dsimp only
  split
  · exact .still rfl
  rename_i group found
  split
  · exact .still rfl
  rename_i isGroup
  split
  · exact .still rfl
  split
  · exact .still rfl
  rw [Acts, storeRequest_store]
  rcases Store.addFriendRequest_cases user.userid group.ownerid 3 req.groupid req.message
    w.store with follows | ⟨-, -, key, fresh, follows⟩
  · exact ⟨_, .quiet, follows⟩
  · exact ⟨_, .sendApplication signedIn parsed isApplication (not_lt.mp isGroup)
      (Store.cached_of_getUserByID found) fresh, follows⟩

theorem onSendRequestResponse_acts :
    Acts pb s msg w .sendRequest (w.onSendRequestResponse pb s msg) := by
  unfold onSendRequestResponse
  split
  · exact .still rfl
  rename_i user signedIn
  split
  · exact .still rfl
  rename_i req parsed
  split
  · rename_i isFriend
    exact sendFriendRequest_acts signedIn parsed isFriend
  split
  · rename_i isInvitation
    exact sendInvitation_acts signedIn parsed isInvitation
  split
  · rename_i isApplication
    exact sendApplication_acts signedIn parsed isApplication
  · exact .still rfl

theorem onPendingRequestsResponse_acts :
    Acts pb s msg w .pendingRequests (w.onPendingRequestsResponse s) := by
  unfold onPendingRequestsResponse
  split
  · exact .still rfl
  · rename_i user _
    have queried : Store.Follows [] w.store (w.store.getPendingRequests user.userid).2 :=
      Store.query_follows _ _
    exact .unseen queried

@[simp] theorem notifyAccepted_store {row : FriendRequestRow} :
    (w.notifyAccepted row).store = w.store := by
  unfold notifyAccepted
  split
  · rfl
  · split <;> rfl

theorem acceptRequest_store {reqid : Int} {row : FriendRequestRow} {first second : Int}
    (parties : requestParties row = some (first, second)) :
    (w.acceptRequest s reqid row).store =
      bif (w.store.makeFriendRelationship (smallId first second) (greatId first second)).1 then
        ((w.store.makeFriendRelationship (smallId first second)
          (greatId first second)).2.updateRequestStatus reqid 1).2
      else (w.store.makeFriendRelationship (smallId first second) (greatId first second)).2 := by
  unfold acceptRequest
  rw [parties]
  dsimp only
  split
  · rename_i result
    rw [result]
    rfl
  · rename_i store result
    simp only [result, cond_true, withStore, reply, emit, notifyAccepted_store]

/-- The accept branch: one statement for the link, one for the status. The
world is the one after the request was read. -/
theorem acceptRequest_follows (s : ClientSession) (reqid : Int) (row : FriendRequestRow)
    (w : World) :
    Store.Follows [] w.store (w.acceptRequest s reqid row).store ∨
      ∃ first second, requestParties row = some (first, second) ∧
        smallId first second < greatId first second ∧ w.store.db.outcomes 0 = true ∧
        (Store.Follows [.link (smallId first second) (greatId first second), .decide reqid 1]
            w.store (w.acceptRequest s reqid row).store ∨
          (¬ ((w.store.graph.cached (smallId first second)).isSome ∧
              (w.store.graph.cached (greatId first second)).isSome ∧
              w.store.db.outcomes 1 = true) ∧
            Store.Follows [.link (smallId first second) (greatId first second)]
              w.store (w.acceptRequest s reqid row).store)) := by
  cases parties : requestParties row with
  | none =>
      unfold acceptRequest
      rw [parties]
      exact Or.inl (.refl _)
  | some pair =>
      obtain ⟨first, second⟩ := pair
      rw [acceptRequest_store parties]
      rcases Store.makeFriendRelationship_cases (smallId first second) (greatId first second)
        w.store with ⟨refused, -, follows⟩ | ⟨ordered, granted, known, follows, outcomes⟩
      · rw [refused]
        exact Or.inl follows
      · refine Or.inr ⟨first, second, rfl, ordered, granted, ?_⟩
        rw [Store.cached_isSome, Store.cached_isSome]
        by_cases joined : (w.store.makeFriendRelationship (smallId first second)
            (greatId first second)).1 = true
        · rw [joined, cond_true]
          rcases Store.updateRequestStatus_cases reqid 1 (w.store.makeFriendRelationship
              (smallId first second) (greatId first second)).2 with ⟨failed, kept⟩ | ⟨-, decided⟩
          · rw [outcomes] at failed
            exact Or.inr ⟨by simp [failed], follows.trans kept⟩
          · exact Or.inl (follows.trans decided)
        · rw [Bool.not_eq_true] at joined
          rw [joined, cond_false]
          refine Or.inr ⟨?_, follows⟩
          intro recorded
          obtain ⟨small, great, -⟩ := recorded
          rw [known.mpr ⟨small, great⟩] at joined
          cases joined

theorem onHandleRequestResponse_acts :
    Acts pb s msg w .handleRequest (w.onHandleRequestResponse pb s msg) := by
  unfold onHandleRequestResponse
  split
  · exact .still rfl
  rename_i user signedIn
  split
  · exact .still rfl
  rename_i req parsed
  have readQuietly : Store.Follows [] w.store { w.store with db := w.store.db.advance } :=
    ⟨Store.graph_advance _, le_refl _, le_refl _⟩
  rcases Store.getFriendRequestById_cases req.reqid w.store with
    missing | ⟨row, read, found, result⟩
  · rw [missing]
    exact .unseen readQuietly
  · rw [result]
    dsimp only
    split
    · exact .unseen readQuietly
    rename_i addressee
    rw [not_not] at addressee
    split
    · rename_i isReject
      rcases Store.updateRequestStatus_cases req.reqid 2
        { w.store with db := w.store.db.advance } with ⟨-, kept⟩ | ⟨granted, decided⟩
      · exact .unseen (readQuietly.trans kept)
      · exact ⟨_, .reject signedIn parsed read found addressee isReject granted,
          readQuietly.trans decided⟩
    · rename_i isAccept
      rcases acceptRequest_follows s req.reqid row
        (w.withStore { w.store with db := w.store.db.advance }) with
        kept | ⟨first, second, parties, ordered, granted, recorded | ⟨unrecorded, linked⟩⟩
      · exact .unseen (readQuietly.trans kept)
      · exact ⟨_, .accept signedIn parsed read found addressee isAccept parties ordered granted,
          readQuietly.trans recorded⟩
      · refine ⟨_, .acceptUnrecorded signedIn parsed read found addressee isAccept parties
          ordered granted ?_, readQuietly.trans linked⟩
        exact unrecorded

/-! ### Group handlers -/

theorem onCreateGroupResponse_acts :
    Acts pb s msg w .createGroup (w.onCreateGroupResponse pb s msg) := by
  unfold onCreateGroupResponse
  split
  · exact .still rfl
  rename_i req parsed
  split
  · exact .still rfl
  rename_i named
  split
  · exact .still rfl
  rename_i user signedIn
  rcases Store.addGroup_cases req.groupname user.userid w.store with
    ⟨refused, kept⟩ | ⟨groupid, granted, fresh, enrolled, outcomes⟩
  · split
    · rename_i result
      rw [result] at refused
      cases refused
    · rename_i result
      rw [result] at kept
      exact .unseen kept
  · split
    · rename_i result
      rw [result] at groupid enrolled outcomes
      cases groupid
      rcases Store.makeFriendRelationship_cases (smallId user.userid (w.store.baseGroupID + 1))
        (greatId user.userid (w.store.baseGroupID + 1)) _ with
        ⟨-, alone, kept⟩ | ⟨-, -, -, linked, -⟩
      · rw [outcomes] at alone
        exact ⟨_, .createGroupAlone signedIn parsed named granted fresh alone,
          enrolled.trans kept⟩
      · exact ⟨_, .createGroup signedIn parsed named granted fresh, enrolled.trans linked⟩
    · rename_i result
      rw [result] at groupid
      cases groupid

theorem onGetGroupMembersResponse_acts :
    Acts pb s msg w .getGroupMembers (w.onGetGroupMembersResponse pb s msg) := by
  apply Acts.still
  unfold onGetGroupMembersResponse
  split
  · rfl
  · dsimp only
    split <;> rfl

theorem onKickGroupMemberResponse_acts :
    Acts pb s msg w .kickGroupMember (w.onKickGroupMemberResponse pb s msg) := by
  unfold onKickGroupMemberResponse
  split
  · exact .still rfl
  rename_i user signedIn
  split
  · exact .still rfl
  rename_i req parsed
  dsimp only
  split
  · exact .still rfl
  rename_i group found
  split
  · exact .still rfl
  rename_i isGroup
  split
  · exact .still rfl
  rename_i owned
  rw [not_not] at owned
  split
  · exact .still rfl
  rename_i other
  split
  · exact .still rfl
  rename_i member
  rw [Bool.not_eq_true, Bool.not_eq_false] at member
  rw [owned] at other
  have owner : w.store.graph.cached req.groupid = some user.userid := by
    rw [Store.cached_of_getUserByID found, owned]
  rcases Store.releaseFriendRelationship_cases req.memberid req.groupid w.store with
    ⟨-, follows⟩ | ⟨ordered, granted, follows⟩
  all_goals
    split
    all_goals
      rename_i store result
      rw [result] at follows
  · exact .unseen follows
  · exact .unseen follows
  · exact ⟨_, .kick signedIn parsed (not_lt.mp isGroup) owner other member ordered granted, follows⟩
  · exact ⟨_, .kick signedIn parsed (not_lt.mp isGroup) owner other member ordered granted, follows⟩

theorem onRenameGroupResponse_acts :
    Acts pb s msg w .renameGroup (w.onRenameGroupResponse pb s msg) := by
  unfold onRenameGroupResponse
  split
  · exact .still rfl
  split
  · exact .still rfl
  rename_i req _
  dsimp only
  split
  · exact .still rfl
  split
  · exact .still rfl
  split
  · exact .still rfl
  split
  · exact .still rfl
  have renamed := Store.renameGroup_follows req.groupid req.newname w.store
  split
  all_goals
    rename_i store result
    rw [result] at renamed
    exact .unseen renamed

theorem onSetGroupAdminResponse_acts :
    Acts pb s msg w .setGroupAdmin (w.onSetGroupAdminResponse pb s msg) := by
  unfold onSetGroupAdminResponse
  split
  · exact .still rfl
  rename_i user signedIn
  split
  · exact .still rfl
  rename_i req parsed
  dsimp only
  split
  · exact .still rfl
  rename_i group found
  split
  · exact .still rfl
  rename_i isGroup
  split
  · exact .still rfl
  rename_i owned
  rw [not_not] at owned
  split
  · exact .still rfl
  split
  · exact .still rfl
  rename_i member
  rw [Bool.not_eq_true, Bool.not_eq_false] at member
  have owner : w.store.graph.cached req.groupid = some user.userid := by
    rw [Store.cached_of_getUserByID found, owned]
  rcases Store.setGroupAdmin_cases req.groupid req.memberid req.isAdmin w.store with
    ⟨-, follows⟩ | ⟨isAdmin, granted, follows⟩ | ⟨-, -, follows⟩
  all_goals
    split
    all_goals
      rename_i store result
      rw [result] at follows
  · exact .unseen follows
  · exact .unseen follows
  · exact ⟨_, .appoint signedIn parsed (not_lt.mp isGroup) owner member isAdmin granted, follows⟩
  · exact ⟨_, .appoint signedIn parsed (not_lt.mp isGroup) owner member isAdmin granted, follows⟩
  · exact ⟨_, .dismiss, follows⟩
  · exact ⟨_, .dismiss, follows⟩

/-! ### Chat handlers -/

theorem onGetChatHistoryResponse_acts :
    Acts pb s msg w .getChatHistory (w.onGetChatHistoryResponse pb s msg) := by
  unfold onGetChatHistoryResponse
  split
  · exact .still derefUser_store
  rename_i req _
  split
  · exact .still rfl
  rename_i user _
  have queried : Store.Follows [] w.store
      (w.store.getChatHistory user.userid req.targetid 50).2 := Store.query_follows _ _
  split
  all_goals
    rename_i result
    rw [result] at queried
    exact .unseen queried

theorem persistChat_follows (user : User) (target : Int) (chatMsg : ChatMsg) (w : World) :
    Store.Follows [] w.store (w.persistChat user target chatMsg).store := by
  rw [persistChat_eq]
  dsimp only
  split
  · exact .refl _
  · exact Store.saveChatMsgToDb_follows _ _ _ _

theorem deliver_follows (pb : ImProto) (forwarded : MessageContainer) (w : World)
    (recipient : Int) : Store.Follows [] w.store (deliver pb forwarded w recipient).store := by
  unfold deliver
  split
  · exact Store.insertOfflineMsg_follows _ _ _ _
  · exact .refl _

theorem deliverAll_follows (pb : ImProto) (forwarded : MessageContainer) (recipients : List Int)
    (w : World) :
    Store.Follows [] w.store (recipients.foldl (deliver pb forwarded) w).store := by
  induction recipients generalizing w with
  | nil => exact .refl _
  | cons recipient rest inductionHypothesis =>
      exact (deliver_follows pb forwarded w recipient).trans (inductionHypothesis _)

theorem onChatResponse_follows (pb : ImProto) (s : ClientSession) (msg : MessageContainer)
    (w : World) : Store.Follows [] w.store (w.onChatResponse pb s msg).store := by
  unfold onChatResponse
  dsimp only
  split
  · exact .refl _
  rename_i user _
  split
  · unfold routeToAgent
    split <;> exact .refl _
  · have persisted := persistChat_follows user msg.targetId (pb.chatMsg msg.payload).2
      (w.setSession { s with target := msg.targetId })
    exact persisted.trans (deliverAll_follows pb _ _ _)

theorem chatToEach_follows (pb : ImProto) (s : ClientSession) (content : Bytes)
    (targets : List Int) (w : World) :
    Store.Follows [] w.store (w.chatToEach pb s content targets).store := by
  unfold chatToEach
  induction targets generalizing w with
  | nil => exact .refl _
  | cons target rest inductionHypothesis =>
      rw [List.foldl_cons]
      split
      · exact inductionHypothesis w
      · exact (onChatResponse_follows pb _ _ w).trans (inductionHypothesis _)

theorem onMultiChatResponse_follows (pb : ImProto) (s : ClientSession) (msg : MessageContainer)
    (w : World) : Store.Follows [] w.store (w.onMultiChatResponse pb s msg).store := by
  unfold onMultiChatResponse
  dsimp only
  split
  · rw [derefUser_store]
    exact .refl _
  rename_i multi _
  have sent := chatToEach_follows pb { s with targets := msg.targets } multi.content multi.targets
    (w.setSession { s with targets := msg.targets })
  split
  · exact sent
  · rw [derefUser_store]
    exact sent

/-! ### Every handler -/

/-- Every handler run is one of the listed effects. -/
theorem handle_acts (pb : ImProto) (type : MsgType) (s : ClientSession) (msg : MessageContainer)
    (w : World) : Acts pb s msg w type (w.handle pb type s msg) := by
  cases type with
  | heartbeat => exact .still rfl
  | register => exact onRegisterResponse_acts
  | login => exact onLoginResponse_acts
  | getFriendList =>
      apply Acts.still
      unfold handle onGetFriendListResponse
      dsimp only
      split <;> rfl
  | findUser => exact onFindUserResponse_acts
  | operateFriend => exact onOperateFriendResponse_acts
  | updateUserInfo => exact onUpdateUserInfoResponse_acts
  | modifyPassword => exact onModifyPasswordResponse_acts
  | createGroup => exact onCreateGroupResponse_acts
  | getGroupMembers => exact onGetGroupMembersResponse_acts
  | getChatHistory => exact onGetChatHistoryResponse_acts
  | avatarUpload => exact onAvatarUploadResponse_acts
  | sendEmailCode => exact onSendEmailCodeResponse_acts
  | upgradeVip => exact onUpgradeVipResponse_acts
  | sendRequest => exact onSendRequestResponse_acts
  | pendingRequests => exact onPendingRequestsResponse_acts
  | handleRequest => exact onHandleRequestResponse_acts
  | kickGroupMember => exact onKickGroupMemberResponse_acts
  | renameGroup => exact onRenameGroupResponse_acts
  | setGroupAdmin => exact onSetGroupAdminResponse_acts
  | chat => exact .unseen (onChatResponse_follows pb s msg w)
  | multiChat => exact .unseen (onMultiChatResponse_follows pb s msg w)

end World

end Handlers

end AimServer
