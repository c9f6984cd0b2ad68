import AimServer.Graph.Step
import AimServer.Store.Calls

/-!
Contract: which calls of `UserManager` and `MsgCacheManager` a handler makes.

Owns: the calls as data, the list of calls each handler can make, with the
guards that matter to whoever asks what a step can change, and the theorem
that a handler touches the store by such calls only.

Does not own: what a call does. A result that some part of the store is kept
by every step needs one lemma per call, and no handler is opened for it.
-/

namespace AimServer

open AimServer.Lib
open AimServer.PasswordUtil

/-- A call with its arguments. A call that only reads uses up the outcome of its
query. -/
inductive StoreCall where
  | mutate (call : Mutator)
  | setUserStatus (userid status : Int)
  | addFriendRequest (fromId toId reqType groupId : Int) (message : Bytes)
  | updateRequestStatus (reqId status : Int)
  | saveChatMsgToDb (senderid targetid : Int) (msg : ChatMsg)
  | addChatMsgCache (userid : Int) (cache : Bytes)
  | fetchAndDeleteOfflineMsg (kind : OfflineKind) (userid : Int)
  | read

namespace Store

/-- The store after a call. -/
def afterCall (s : Store) : StoreCall → Store
  | .mutate call => s.mutate ⟨call, s.db.outcomes⟩
  | .setUserStatus userid status => (s.setUserStatus userid status).2
  | .addFriendRequest fromId toId reqType groupId message =>
      (s.addFriendRequest fromId toId reqType groupId message).2
  | .updateRequestStatus reqId status => (s.updateRequestStatus reqId status).2
  | .saveChatMsgToDb senderid targetid msg => (s.saveChatMsgToDb senderid targetid msg).2
  | .addChatMsgCache userid cache => (s.addChatMsgCache userid cache).2
  | .fetchAndDeleteOfflineMsg kind userid => (s.fetchAndDeleteOfflineMsg kind userid).2
  | .read => { s with db := s.db.advance }

/-- The store after calls in order. -/
def afterCalls (calls : List StoreCall) (s : Store) : Store :=
  calls.foldl afterCall s

theorem afterCalls_append (first second : List StoreCall) (s : Store) :
    s.afterCalls (first ++ second) = (s.afterCalls first).afterCalls second := by
  simp [afterCalls, List.foldl_append]

/-- What every call keeps, calls in order keep. -/
theorem afterCalls_keeps {made : StoreCall → Prop} (inv : Store → Prop) {calls : List StoreCall}
    {s : Store} (keeps : ∀ s call, made call → inv s → inv (s.afterCall call))
    (all : ∀ call ∈ calls, made call) (initial : inv s) : inv (s.afterCalls calls) := by
  induction calls generalizing s with
  | nil => exact initial
  | cons call rest inductionHypothesis =>
      refine inductionHypothesis ?_ (keeps s call (all call List.mem_cons_self) initial)
      intro later member
      exact all later (List.mem_cons_of_mem call member)

end Store

/-- The calls of one handler run on session `s`. -/
inductive Makes (pb : ImProto) (s : ClientSession) (msg : MessageContainer) (w : World) :
    MsgType → StoreCall → Prop
  | read {type : MsgType} : Makes pb s msg w type .read
  | register {req : RegisterReq} (parsed : pb.registerReq msg.payload = some req) :
      Makes pb s msg w .register (.mutate (.addUser w.env.salt (World.registeredUser req)))
  | online (userid : Int) : Makes pb s msg w .login (.setUserStatus userid 1)
  | replay (kind : OfflineKind) (userid : Int) :
      Makes pb s msg w .login (.fetchAndDeleteOfflineMsg kind userid)
  | profile {type : MsgType} (userid : Int) (newuserinfo : User)
      (edits : type = .updateUserInfo ∨ type = .avatarUpload) :
      Makes pb s msg w type (.mutate (.updateUserInfo userid newuserinfo))
  | password {user : User} {req : ModifyPasswordReq} (signedIn : s.user = some user)
      (parsed : pb.modifyPasswordReq msg.payload = some req) (old : req.oldpassword ≠ [])
      (new : req.newpassword ≠ [])
      (verified : verifyPassword req.oldpassword user.password = true) :
      Makes pb s msg w .modifyPassword
        (.mutate (.modifyUserPassword w.env.salt user.userid req.newpassword))
  | link {type : MsgType} (smallid greatid : Int)
      (links : type = .operateFriend ∨ type = .handleRequest ∨ type = .createGroup) :
      Makes pb s msg w type (.mutate (.makeFriendRelationship smallid greatid))
  | delete (userid friendid : Int) :
      Makes pb s msg w .operateFriend (.mutate (.deleteFriendToUser userid friendid))
  | request (fromId toId reqType groupId : Int) (message : Bytes) :
      Makes pb s msg w .sendRequest (.addFriendRequest fromId toId reqType groupId message)
  | decide (reqId status : Int) :
      Makes pb s msg w .handleRequest (.updateRequestStatus reqId status)
  | createGroup {user : User} {req : CreateGroupReq} (signedIn : s.user = some user)
      (parsed : pb.createGroupReq msg.payload = some req) :
      Makes pb s msg w .createGroup (.mutate (.addGroup req.groupname user.userid))
  | kick (memberid groupid : Int) :
      Makes pb s msg w .kickGroupMember (.mutate (.releaseFriendRelationship memberid groupid))
  | rename (groupid : Int) (newname : Bytes) :
      Makes pb s msg w .renameGroup (.mutate (.renameGroup groupid newname))
  | setGroupAdmin (groupid userid : Int) (isAdmin : Bool) :
      Makes pb s msg w .setGroupAdmin (.mutate (.setGroupAdmin groupid userid isAdmin))
  | save {type : MsgType} (senderid targetid : Int) (chatMsg : ChatMsg)
      (chats : type = .chat ∨ type = .multiChat) :
      Makes pb s msg w type (.saveChatMsgToDb senderid targetid chatMsg)
  | cache {type : MsgType} (userid : Int) (container : MessageContainer)
      (isChat : container.cmd = MsgType.chat.cmd) (chats : type = .chat ∨ type = .multiChat) :
      Makes pb s msg w type (.addChatMsgCache userid (pb.serializeContainer container))

/-- `after` is `before` after calls that the handler of `type` makes. -/
def Reaches (pb : ImProto) (s : ClientSession) (msg : MessageContainer) (w : World)
    (type : MsgType) (before after : Store) : Prop :=
  ∃ calls, after = before.afterCalls calls ∧ ∀ call ∈ calls, Makes pb s msg w type call

/-- `next` is `w` after calls that the handler of `type` makes. -/
abbrev CallsOnly (pb : ImProto) (s : ClientSession) (msg : MessageContainer) (w : World)
    (type : MsgType) (next : World) : Prop :=
  Reaches pb s msg w type w.store next.store

section Handlers

variable {pb : ImProto} {s : ClientSession} {msg : MessageContainer} {w : World} {type : MsgType}
  {next : World}

theorem Reaches.refl (store : Store) : Reaches pb s msg w type store store :=
  ⟨[], rfl, by simp⟩

theorem Reaches.trans {before middle after : Store} (first : Reaches pb s msg w type before middle)
    (second : Reaches pb s msg w type middle after) : Reaches pb s msg w type before after := by
  obtain ⟨calls, reached, made⟩ := first
  obtain ⟨later, reachedLater, madeLater⟩ := second
  refine ⟨calls ++ later, by rw [reachedLater, reached, Store.afterCalls_append], ?_⟩
  intro call member
  rcases List.mem_append.mp member with early | late
  · exact made call early
  · exact madeLater call late

theorem Reaches.none {before after : Store} (same : after = before) :
    Reaches pb s msg w type before after :=
  ⟨[], same, by simp⟩

theorem Reaches.one {before after : Store} {call : StoreCall} (makes : Makes pb s msg w type call)
    (reached : after = before.afterCall call) : Reaches pb s msg w type before after :=
  ⟨[call], reached, by simpa using makes⟩

theorem Reaches.two {before after : Store} {first second : StoreCall}
    (makes : Makes pb s msg w type first) (makesNext : Makes pb s msg w type second)
    (reached : after = (before.afterCall first).afterCall second) :
    Reaches pb s msg w type before after :=
  (Reaches.one makes rfl).trans (.one makesNext reached)

namespace World

/-! ### Account handlers -/

theorem onRegisterResponse_calls :
    CallsOnly pb s msg w .register (w.onRegisterResponse pb s msg) := by
  unfold onRegisterResponse
  split
  · exact .none rfl
  · rename_i req parsed
    split
    · exact .none rfl
    split
    · exact .none rfl
    split
    · exact .none rfl
    split
    · exact .none rfl
    · exact .none rfl
    · dsimp only
      split
      · exact .one (.register parsed) rfl
      · exact .none rfl

/-- The calls of an accepted login. -/
theorem completeLogin_store (found : User) :
    (w.completeLogin pb s found).store = w.store.afterCalls
      [.setUserStatus found.userid 1, .fetchAndDeleteOfflineMsg .notify found.userid,
        .fetchAndDeleteOfflineMsg .chat found.userid] := by
  unfold completeLogin
  cases w.env.grpc <;> rfl

theorem onLoginResponse_calls : CallsOnly pb s msg w .login (w.onLoginResponse pb s msg) := by
  unfold onLoginResponse
  split
  · exact .none derefUser_store
  · rename_i req _
    split
    · exact .none derefUser_store
    split
    · exact .none derefUser_store
    · rename_i found _
      dsimp only
      split
      · refine ⟨_, completeLogin_store found, ?_⟩
        intro call member
        simp only [List.mem_cons, List.not_mem_nil, or_false] at member
        rcases member with rfl | rfl | rfl
        · exact .online _
        · exact .replay _ _
        · exact .replay _ _
      · exact .none rfl

theorem onUpdateUserInfoResponse_calls :
    CallsOnly pb s msg w .updateUserInfo (w.onUpdateUserInfoResponse pb s msg) := by
  unfold onUpdateUserInfoResponse
  split
  · exact .none rfl
  · rename_i req _
    split
    · exact .none rfl
    · rename_i user _
      have makes : Makes pb s msg w .updateUserInfo (.mutate (.updateUserInfo user.userid
          (Store.withProfile (requestedProfile req user) User.blank))) :=
        .profile _ _ (Or.inl rfl)
      dsimp only
      split
      · rename_i store result
        exact .one makes (congrArg Prod.snd result).symm
      · rename_i store result
        exact .one makes (congrArg Prod.snd result).symm

/-- What `OnModifyPasswordResponse` leaves in the store. -/
theorem onModifyPasswordResponse_store (pb : ImProto) (s : ClientSession) (msg : MessageContainer)
    (v : World) :
    (v.onModifyPasswordResponse pb s msg).store = v.store ∨
      ∃ req user, pb.modifyPasswordReq msg.payload = some req ∧ s.user = some user ∧
        req.oldpassword ≠ [] ∧ req.newpassword ≠ [] ∧
        verifyPassword req.oldpassword user.password = true ∧
        (v.onModifyPasswordResponse pb s msg).store = v.store.mutate
          ⟨.modifyUserPassword v.env.salt user.userid req.newpassword, v.store.db.outcomes⟩ := by
  unfold onModifyPasswordResponse
  split
  · exact Or.inl rfl
  · rename_i req parsed
    split
    · exact Or.inl rfl
    · rename_i filled
      obtain ⟨old, new⟩ := not_or.mp filled
      split
      · exact Or.inl rfl
      · rename_i user signedIn
        split
        · exact Or.inl rfl
        · rename_i verified
          have isVerified : verifyPassword req.oldpassword user.password = true := by
            simpa using verified
          refine Or.inr ⟨req, user, parsed, signedIn, old, new, isVerified, ?_⟩
          split
          all_goals
            rename_i result
            exact (congrArg Prod.snd result).symm

theorem onModifyPasswordResponse_calls :
    CallsOnly pb s msg w .modifyPassword (w.onModifyPasswordResponse pb s msg) := by
  rcases onModifyPasswordResponse_store pb s msg w with
    same | ⟨req, user, parsed, signedIn, old, new, verified, changed⟩
  · exact .none same
  · exact .one (.password signedIn parsed old new verified) changed

theorem onAvatarUploadResponse_calls :
    CallsOnly pb s msg w .avatarUpload (w.onAvatarUploadResponse pb s msg) := by
  unfold onAvatarUploadResponse
  split
  · exact .none rfl
  split
  · exact .none rfl
  split
  · exact .none rfl
  · exact .none rfl
  split
  · unfold uploadGroupAvatar
    dsimp only
    split
    · exact .none rfl
    split
    · exact .none rfl
    split
    · exact .one (.profile _ _ (Or.inr rfl)) rfl
    · exact .none rfl
  · unfold uploadOwnAvatar
    dsimp only
    split
    · exact .one (.profile _ _ (Or.inr rfl)) rfl
    · exact .none rfl

/-! ### Friend and request handlers -/

theorem operateAdd_calls (req : OperateFriendReq) :
    CallsOnly pb s msg w .operateFriend (w.operateAdd s req) := by
  unfold operateAdd
  split
  · exact .none rfl
  split
  · exact .none rfl
  · rename_i user _
    have makes : Makes pb s msg w .operateFriend (.mutate (.makeFriendRelationship
        (smallId user.userid req.friendid) (greatId user.userid req.friendid))) :=
      .link _ _ (Or.inl rfl)
    split
    · rename_i store result
      exact .one makes (congrArg Prod.snd result).symm
    · rename_i store result
      exact .one makes (congrArg Prod.snd result).symm

theorem operateDelete_calls (req : OperateFriendReq) :
    CallsOnly pb s msg w .operateFriend (w.operateDelete s req) := by
  unfold operateDelete
  split
  · exact .none rfl
  · rename_i user _
    split
    · rename_i store result
      exact .one (.delete user.userid req.friendid) (congrArg Prod.snd result).symm
    · rename_i store result
      exact .one (.delete user.userid req.friendid) (congrArg Prod.snd result).symm

theorem operateInvite_calls (req : OperateFriendReq) (groupid : Int) :
    CallsOnly pb s msg w .operateFriend (w.operateInvite s req groupid) := by
  have makes : Makes pb s msg w .operateFriend (.mutate (.makeFriendRelationship
      (smallId req.friendid groupid) (greatId req.friendid groupid))) :=
    .link _ _ (Or.inl rfl)
  unfold operateInvite
  split
  · split
    · rename_i store result
      exact .one makes (congrArg Prod.snd result).symm
    · rename_i store result
      exact .one makes (congrArg Prod.snd result).symm
  · exact .none rfl

theorem onOperateFriendResponse_calls :
    CallsOnly pb s msg w .operateFriend (w.onOperateFriendResponse pb s msg) := by
  unfold onOperateFriendResponse
  split
  · exact .none rfl
  · rename_i req _
    split
    · exact operateAdd_calls req
    split
    · exact operateDelete_calls req
    split
    · exact operateInvite_calls req msg.targetId
    · exact .none rfl

theorem storeRequest_calls (user : User) (toId reqType groupId : Int) (groupname message : Bytes)
    (sent failed : String) :
    CallsOnly pb s msg w .sendRequest
      (w.storeRequest s user toId reqType groupId groupname message sent failed) := by
  unfold storeRequest
  split
  · rename_i reqId store result
    exact .one (.request user.userid toId reqType groupId message) (congrArg Prod.snd result).symm
  · rename_i store result
    exact .one (.request user.userid toId reqType groupId message) (congrArg Prod.snd result).symm

theorem onSendRequestResponse_calls :
    CallsOnly pb s msg w .sendRequest (w.onSendRequestResponse pb s msg) := by
  unfold onSendRequestResponse
  split
  · exact .none rfl
  split
  · exact .none rfl
  split
  · unfold sendFriendRequest
    dsimp only
    repeat' split
    all_goals first | exact .none rfl | exact storeRequest_calls _ _ _ _ _ _ _ _
  split
  · unfold sendInvitation
    dsimp only
    repeat' split
    all_goals first | exact .none rfl | exact storeRequest_calls _ _ _ _ _ _ _ _
  split
  · unfold sendApplication
    dsimp only
    repeat' split
    all_goals first | exact .none rfl | exact storeRequest_calls _ _ _ _ _ _ _ _
  · exact .none rfl

theorem onPendingRequestsResponse_calls :
    CallsOnly pb s msg w .pendingRequests (w.onPendingRequestsResponse s) := by
  unfold onPendingRequestsResponse
  split
  · exact .none rfl
  · rename_i user _
    have read : (w.store.getPendingRequests user.userid).2 = w.store.afterCall .read :=
      Store.query_store _ _
    exact .one .read read

/-- The store after the query of `GetFriendRequestById`. -/
theorem getFriendRequestById_store (reqId : Int) (store : Store) :
    (store.getFriendRequestById reqId).2 = store.afterCall .read := by
  have queried := Store.query_store (fun t => t.friendRequests.find reqId) store
  unfold Store.getFriendRequestById
  split
  · rename_i found
    rw [found] at queried
    exact queried
  · rename_i found
    rw [found] at queried
    exact queried

/-- The calls of an acceptance, after the request was read. -/
theorem acceptRequest_calls (reqid : Int) (row : FriendRequestRow) {before : World}
    (read : w.store = before.store.afterCall .read) :
    CallsOnly pb s msg before .handleRequest (w.acceptRequest s reqid row) := by
  unfold acceptRequest
  split
  · exact .one .read read
  · rename_i first second _
    have makes : Makes pb s msg before .handleRequest (.mutate (.makeFriendRelationship
        (smallId first second) (greatId first second))) := .link _ _ (Or.inr (Or.inl rfl))
    split
    · rename_i store result
      refine .two .read makes ?_
      rw [← read]
      exact (congrArg Prod.snd result).symm
    · rename_i store result
      have linked : store = (before.store.afterCall .read).afterCall (.mutate
          (.makeFriendRelationship (smallId first second) (greatId first second))) := by
        rw [← read]
        exact (congrArg Prod.snd result).symm
      have notified : ((w.withStore store).notifyAccepted row).store = store := by
        unfold notifyAccepted
        repeat' split
        all_goals rfl
      refine ⟨[.read, .mutate (.makeFriendRelationship (smallId first second)
        (greatId first second)), .updateRequestStatus reqid 1], ?_, ?_⟩
      · show (((w.withStore store).notifyAccepted row).store.updateRequestStatus reqid 1).2 = _
        rw [notified, linked]
        rfl
      · intro call member
        simp only [List.mem_cons, List.not_mem_nil, or_false] at member
        rcases member with rfl | rfl | rfl
        · exact .read
        · exact makes
        · exact .decide _ _

theorem onHandleRequestResponse_calls :
    CallsOnly pb s msg w .handleRequest (w.onHandleRequestResponse pb s msg) := by
  unfold onHandleRequestResponse
  split
  · exact .none rfl
  split
  · exact .none rfl
  · rename_i req _
    have read := getFriendRequestById_store req.reqid w.store
    split
    · rename_i store result
      rw [result] at read
      exact .one .read read
    · rename_i row store result
      rw [result] at read
      dsimp only
      split
      · exact .one .read read
      split
      · refine .two .read (.decide req.reqid 2) ?_
        rw [← read]
        rfl
      · exact acceptRequest_calls req.reqid row read

/-! ### Group handlers -/

theorem onCreateGroupResponse_calls :
    CallsOnly pb s msg w .createGroup (w.onCreateGroupResponse pb s msg) := by
  unfold onCreateGroupResponse
  split
  · exact .none rfl
  · rename_i req parsed
    split
    · exact .none rfl
    split
    · exact .none rfl
    · rename_i user signedIn
      split
      · rename_i groupid store result
        refine .two (.createGroup signedIn parsed) (.link (smallId user.userid groupid)
          (greatId user.userid groupid) (Or.inr (Or.inr rfl))) ?_
        have added : store = (w.store.addGroup req.groupname user.userid).2 :=
          (congrArg Prod.snd result).symm
        rw [added]
        rfl
      · rename_i store result
        exact .one (.createGroup signedIn parsed) (congrArg Prod.snd result).symm

theorem onKickGroupMemberResponse_calls :
    CallsOnly pb s msg w .kickGroupMember (w.onKickGroupMemberResponse pb s msg) := by
  unfold onKickGroupMemberResponse
  split
  · exact .none rfl
  split
  · exact .none rfl
  · rename_i req _
    dsimp only
    split
    · exact .none rfl
    split
    · exact .none rfl
    split
    · exact .none rfl
    split
    · exact .none rfl
    split
    · exact .none rfl
    split
    · rename_i store result
      exact .one (.kick req.memberid req.groupid) (congrArg Prod.snd result).symm
    · rename_i store result
      exact .one (.kick req.memberid req.groupid) (congrArg Prod.snd result).symm

theorem onRenameGroupResponse_calls :
    CallsOnly pb s msg w .renameGroup (w.onRenameGroupResponse pb s msg) := by
  unfold onRenameGroupResponse
  split
  · exact .none rfl
  split
  · exact .none rfl
  · rename_i req _
    dsimp only
    split
    · exact .none rfl
    split
    · exact .none rfl
    split
    · exact .none rfl
    split
    · exact .none rfl
    split
    · rename_i store result
      exact .one (.rename req.groupid req.newname) (congrArg Prod.snd result).symm
    · rename_i store result
      exact .one (.rename req.groupid req.newname) (congrArg Prod.snd result).symm

theorem onSetGroupAdminResponse_calls :
    CallsOnly pb s msg w .setGroupAdmin (w.onSetGroupAdminResponse pb s msg) := by
  unfold onSetGroupAdminResponse
  split
  · exact .none rfl
  split
  · exact .none rfl
  · rename_i req _
    have makes : Makes pb s msg w .setGroupAdmin
        (.mutate (.setGroupAdmin req.groupid req.memberid req.isAdmin)) := .setGroupAdmin _ _ _
    dsimp only
    split
    · exact .none rfl
    split
    · exact .none rfl
    split
    · exact .none rfl
    split
    · exact .none rfl
    split
    · exact .none rfl
    split
    · rename_i store result
      exact .one makes (congrArg Prod.snd result).symm
    · rename_i store result
      exact .one makes (congrArg Prod.snd result).symm

/-! ### Chat handlers -/

theorem onGetChatHistoryResponse_calls :
    CallsOnly pb s msg w .getChatHistory (w.onGetChatHistoryResponse pb s msg) := by
  unfold onGetChatHistoryResponse
  split
  · exact .none derefUser_store
  · rename_i req _
    split
    · exact .none rfl
    · rename_i user _
      have read : (w.store.getChatHistory user.userid req.targetid 50).2 =
          w.store.afterCall .read := Store.query_store _ _
      split
      · rename_i messages store result
        rw [result] at read
        exact .one .read read
      · rename_i store result
        rw [result] at read
        exact .one .read read

section Chats

variable (chats : type = .chat ∨ type = .multiChat)

include chats in
theorem persistChat_calls (user : User) (target : Int) (chatMsg : ChatMsg) (v : World) :
    Reaches pb s msg w type v.store (v.persistChat user target chatMsg).store := by
  rw [persistChat_eq]
  dsimp only
  split
  · exact .none rfl
  · exact .one (.save user.userid target chatMsg chats) rfl

include chats in
theorem deliverAll_calls {forwarded : MessageContainer} (isChat : forwarded.cmd = MsgType.chat.cmd)
    (recipients : List Int) (v : World) :
    Reaches pb s msg w type v.store (recipients.foldl (deliver pb forwarded) v).store := by
  induction recipients generalizing v with
  | nil => exact .refl v.store
  | cons recipient rest inductionHypothesis =>
      refine Reaches.trans ?_ (inductionHypothesis (deliver pb forwarded v recipient))
      unfold deliver
      split
      · exact .one (.cache recipient forwarded isChat chats) rfl
      · exact .none rfl

include chats in
theorem onChatResponse_reaches (s' : ClientSession) (msg' : MessageContainer) (v : World) :
    Reaches pb s msg w type v.store (v.onChatResponse pb s' msg').store := by
  unfold onChatResponse
  dsimp only
  split
  · exact .none rfl
  · rename_i user _
    split
    · unfold routeToAgent
      refine .none ?_
      split <;> rfl
    · have persisted : Reaches pb s msg w type v.store _ :=
        persistChat_calls chats user msg'.targetId (pb.chatMsg msg'.payload).2
          (v.setSession { s' with target := msg'.targetId })
      exact persisted.trans (deliverAll_calls chats rfl _ _)

include chats in
theorem chatToEach_reaches (s' : ClientSession) (content : Bytes) (targets : List Int)
    (v : World) :
    Reaches pb s msg w type v.store (v.chatToEach pb s' content targets).store := by
  unfold chatToEach
  induction targets generalizing v with
  | nil => exact .refl v.store
  | cons target rest inductionHypothesis =>
      rw [List.foldl_cons]
      split
      · exact inductionHypothesis v
      · exact (onChatResponse_reaches chats s' _ v).trans (inductionHypothesis _)

end Chats

theorem onMultiChatResponse_calls :
    CallsOnly pb s msg w .multiChat (w.onMultiChatResponse pb s msg) := by
  unfold onMultiChatResponse
  dsimp only
  split
  · exact .none derefUser_store
  · rename_i multi _
    have sent : Reaches pb s msg w .multiChat w.store
        ((w.setSession { s with targets := msg.targets }).chatToEach pb
          { s with targets := msg.targets } multi.content multi.targets).store :=
      chatToEach_reaches (Or.inr rfl) _ _ _ (w.setSession { s with targets := msg.targets })
    split
    · exact sent
    · unfold CallsOnly
      rw [derefUser_store]
      exact sent

/-- A handler touches the store by its calls only. -/
theorem handle_calls (pb : ImProto) (type : MsgType) (s : ClientSession) (msg : MessageContainer)
    (w : World) : CallsOnly pb s msg w type (w.handle pb type s msg) := by
  cases type with
  | heartbeat => exact .none rfl
  | register => exact onRegisterResponse_calls
  | login => exact onLoginResponse_calls
  | getFriendList =>
      refine .none ?_
      simp only [handle, onGetFriendListResponse]
      split <;> rfl
  | findUser =>
      refine .none ?_
      simp only [handle, onFindUserResponse]
      repeat' split
      all_goals rfl
  | operateFriend => exact onOperateFriendResponse_calls
  | updateUserInfo => exact onUpdateUserInfoResponse_calls
  | modifyPassword => exact onModifyPasswordResponse_calls
  | createGroup => exact onCreateGroupResponse_calls
  | getGroupMembers =>
      refine .none ?_
      simp only [handle, onGetGroupMembersResponse]
      repeat' split
      all_goals rfl
  | getChatHistory => exact onGetChatHistoryResponse_calls
  | avatarUpload => exact onAvatarUploadResponse_calls
  | sendEmailCode =>
      refine .none ?_
      simp only [handle, onSendEmailCodeResponse]
      repeat' split
      all_goals rfl
  | upgradeVip =>
      refine .none ?_
      simp only [handle, onUpgradeVipResponse]
      repeat' split
      all_goals rfl
  | sendRequest => exact onSendRequestResponse_calls
  | pendingRequests => exact onPendingRequestsResponse_calls
  | handleRequest => exact onHandleRequestResponse_calls
  | kickGroupMember => exact onKickGroupMemberResponse_calls
  | renameGroup => exact onRenameGroupResponse_calls
  | setGroupAdmin => exact onSetGroupAdminResponse_calls
  | chat => exact onChatResponse_reaches (Or.inl rfl) s msg w
  | multiChat => exact onMultiChatResponse_calls

/-- A step is a restart, leaves the store to its handler's calls, or touches
nothing but the clock and the outcomes. -/
theorem step_calls (pb : ImProto) (w : World) (label : Step) :
    (∃ loads, label.event = .restart loads ∧
        (w.step pb label).store = Store.init loads (w.withEnv label.env).store.db) ∨
      (w.step pb label).store = (w.withEnv label.env).store ∨
      ∃ type s msg, w.dispatched label = some (type, s, msg) ∧
        Reaches pb s msg ((w.withEnv label.env).setSession s) type (w.withEnv label.env).store
          (w.step pb label).store := by
  by_cases restarts : ∃ loads, label.event = .restart loads
  · obtain ⟨loads, event⟩ := restarts
    refine Or.inl ⟨loads, event, ?_⟩
    simp [step, event, restart]
  · refine Or.inr ?_
    cases reached : w.dispatched label with
    | none =>
        exact Or.inl (step_store_of_not_dispatched reached fun loads event =>
          restarts ⟨loads, event⟩)
    | some target =>
        obtain ⟨type, s, msg⟩ := target
        refine Or.inr ⟨type, s, msg, rfl, ?_⟩
        rw [step_of_dispatched pb reached]
        exact handle_calls pb type s msg ((w.withEnv label.env).setSession s)

end World

end Handlers

end AimServer
