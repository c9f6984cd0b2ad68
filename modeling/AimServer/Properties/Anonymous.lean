import AimServer.Properties.Client

/-!
Contract: what a message can do on a connection that is not logged in.

Owns: what such a message must not do, the exact condition on the message, the
cache and the environment under which it does not, handler by handler, and the
request that shows the difference.

Twelve commands are harmless for every payload. Four always read through the
null `m_user`. The others depend on the branch the payload takes: some read
`m_user` only after the payload parsed, `OperateFriend` type 3 writes a
relationship without looking at `m_user`, and `OnUpgradeVipResponse` falls back
to the user id of the payload.
-/

namespace AimServer

open AimServer.Lib

/-- Neither the account cache, the tables nor another service was touched. -/
structure Untouched (w next : World) : Prop where
  tables : next.store.db.tables = w.store.db.tables
  cachedUsers : next.store.cachedUsers = w.store.cachedUsers
  baseUserID : next.store.baseUserID = w.store.baseUserID
  baseGroupID : next.store.baseGroupID = w.store.baseGroupID
  calls : next.calls = w.calls

/-- Commands that are meant for connections without a login. -/
def meantForAnonymous : MsgType → Bool
  | .heartbeat | .register | .login | .sendEmailCode => true
  | _ => false

/-- `m_user` was not read through, and unless the command is meant for
connections without a login nothing was touched. -/
def Harmless (command : Option MsgType) (w next : World) : Prop :=
  next.fault ≠ some .nullUser ∧
    ((∀ type ∈ command, meantForAnonymous type = false) → Untouched w next)

/-- When the handler of a command is harmless without a login. -/
def HarmlessRequest (pb : ImProto) (store : Store) (env : Env) (msg : MessageContainer) :
    MsgType → Prop
  | .login => ∃ req ∈ pb.loginReq msg.payload, req.username ≠ [] ∧ req.password ≠ [] ∧
      (store.getUserInfoUsername req.username).isSome
  | .getFriendList | .getChatHistory | .chat | .multiChat => False
  | .operateFriend => ∀ req ∈ pb.operateFriendReq msg.payload,
      (req.type = 1 → req.friendid ≥ groupIdBoundary) ∧ req.type ≠ 2 ∧
      (req.type = 3 → msg.targetId < groupIdBoundary ∨ req.friendid = msg.targetId ∨
        env.sql 0 = false)
  | .updateUserInfo => (pb.updateUserInfoReq msg.payload).isNone
  | .modifyPassword => ∀ req ∈ pb.modifyPasswordReq msg.payload,
      req.oldpassword = [] ∨ req.newpassword = []
  | .createGroup => ∀ req ∈ pb.createGroupReq msg.payload, req.groupname = []
  | .upgradeVip => (pb.upgradeVipReq msg.payload).isSome → env.grpc ≠ .ready
  | _ => True

section Handlers

variable {pb : ImProto} {s : ClientSession} {msg : MessageContainer} {w : World}

theorem harmless_of_untouched {command : Option MsgType} {next : World} (live : next.fault = none)
    (untouched : Untouched w next) : Harmless command w next :=
  ⟨by rw [live]; simp, fun _ => untouched⟩

theorem not_harmless_of_nullUser {command : Option MsgType} {next : World}
    (fault : next.fault = some .nullUser) : ¬ Harmless command w next :=
  fun harmless => harmless.1 fault

/-- The sequence number and the environment of a step are not part of what
must stay. -/
theorem harmless_started (w : World) (env : Env) (s : ClientSession) (command : Option MsgType)
    {next : World} :
    Harmless command ((w.withEnv env).setSession s) next ↔ Harmless command w next := by
  have same : Untouched ((w.withEnv env).setSession s) next ↔ Untouched w next :=
    ⟨fun u => ⟨u.tables, u.cachedUsers, u.baseUserID, u.baseGroupID, u.calls⟩,
     fun u => ⟨u.tables, u.cachedUsers, u.baseUserID, u.baseGroupID, u.calls⟩⟩
  rw [Harmless, Harmless, same]

theorem derefUser_fault (anonymous : s.user = none) :
    (w.derefUser s).fault = some .nullUser := by
  unfold World.derefUser
  rw [anonymous]
  rfl

/-! ### Commands that are harmless for every payload -/

section Always

variable (anonymous : s.user = none) (live : w.fault = none)

include live in
theorem onRegisterResponse_fault : (w.onRegisterResponse pb s msg).fault = none := by
  unfold World.onRegisterResponse
  dsimp only
  repeat' split
  all_goals exact live

include live in
theorem onSendEmailCodeResponse_fault : (w.onSendEmailCodeResponse pb s msg).fault = none := by
  unfold World.onSendEmailCodeResponse
  repeat' split
  all_goals exact live

include live in
theorem onFindUserResponse_harmless :
    Harmless (some .findUser) w (w.onFindUserResponse pb s msg) := by
  unfold World.onFindUserResponse
  split
  · exact harmless_of_untouched live ⟨rfl, rfl, rfl, rfl, rfl⟩
  split
  · exact harmless_of_untouched live ⟨rfl, rfl, rfl, rfl, rfl⟩
  split
  · split
    · exact ⟨by simp, fun _ => ⟨rfl, rfl, rfl, rfl, rfl⟩⟩
    · exact harmless_of_untouched live ⟨rfl, rfl, rfl, rfl, rfl⟩
  · exact harmless_of_untouched live ⟨rfl, rfl, rfl, rfl, rfl⟩

include live in
theorem onGetGroupMembersResponse_harmless :
    Harmless (some .getGroupMembers) w (w.onGetGroupMembersResponse pb s msg) := by
  unfold World.onGetGroupMembersResponse
  dsimp only
  repeat' split
  all_goals exact harmless_of_untouched live ⟨rfl, rfl, rfl, rfl, rfl⟩

include anonymous live in
theorem onAvatarUploadResponse_harmless :
    Harmless (some .avatarUpload) w (w.onAvatarUploadResponse pb s msg) := by
  unfold World.onAvatarUploadResponse
  rw [anonymous]
  split <;> exact harmless_of_untouched live ⟨rfl, rfl, rfl, rfl, rfl⟩

/-- The handlers that start with the test of `m_user` and answer 1. -/
theorem guarded_harmless {type : MsgType}
    (guarded : type ∈ [MsgType.sendRequest, .pendingRequests, .handleRequest, .kickGroupMember,
      .renameGroup, .setGroupAdmin])
    (anonymous : s.user = none) (live : w.fault = none) :
    Harmless (some type) w (w.handle pb type s msg) := by
  simp only [List.mem_cons, List.not_mem_nil, or_false] at guarded
  rcases guarded with rfl | rfl | rfl | rfl | rfl | rfl
  all_goals
    simp only [World.handle, World.onSendRequestResponse, World.onPendingRequestsResponse,
      World.onHandleRequestResponse, World.onKickGroupMemberResponse,
      World.onRenameGroupResponse, World.onSetGroupAdminResponse, anonymous]
    exact harmless_of_untouched live ⟨rfl, rfl, rfl, rfl, rfl⟩

end Always

/-! ### Commands that depend on the payload -/

section Depends

variable (anonymous : s.user = none) (live : w.fault = none)

include anonymous live

theorem onLoginResponse_harmless_iff :
    Harmless (some .login) w (w.onLoginResponse pb s msg) ↔
      HarmlessRequest pb w.store w.env msg .login := by
  have crashes : ∀ body, ¬ Harmless (some .login) w ((w.reply s .login body).derefUser s) :=
    fun _ => not_harmless_of_nullUser (derefUser_fault anonymous)
  unfold World.onLoginResponse HarmlessRequest
  cases parsed : pb.loginReq msg.payload with
  | none => exact iff_of_false (crashes _) (by simp)
  | some req =>
      dsimp only
      by_cases missing : req.username = [] ∨ req.password = []
      · rw [if_pos missing]
        refine iff_of_false (crashes _) ?_
        intro names
        obtain ⟨_, isReq, username, password, -⟩ := names
        cases isReq
        exact missing.elim username password
      rw [if_neg missing]
      obtain ⟨username, password⟩ := not_or.mp missing
      cases registered : w.store.getUserInfoUsername req.username with
      | none =>
          refine iff_of_false (crashes _) ?_
          intro names
          obtain ⟨_, isReq, -, -, known⟩ := names
          cases isReq
          simp [registered] at known
      | some found =>
          refine iff_of_true ⟨?_, by simp [meantForAnonymous]⟩
            ⟨req, rfl, username, password, by simp [registered]⟩
          dsimp only
          split
          · rw [World.completeLogin_fault]
            simp [live]
          · simp [live]

theorem onUpdateUserInfoResponse_harmless_iff :
    Harmless (some .updateUserInfo) w (w.onUpdateUserInfoResponse pb s msg) ↔
      HarmlessRequest pb w.store w.env msg .updateUserInfo := by
  unfold World.onUpdateUserInfoResponse HarmlessRequest
  rw [anonymous]
  cases pb.updateUserInfoReq msg.payload with
  | none => exact iff_of_true (harmless_of_untouched live ⟨rfl, rfl, rfl, rfl, rfl⟩) rfl
  | some req => exact iff_of_false (not_harmless_of_nullUser rfl) (by simp)

theorem onModifyPasswordResponse_harmless_iff :
    Harmless (some .modifyPassword) w (w.onModifyPasswordResponse pb s msg) ↔
      HarmlessRequest pb w.store w.env msg .modifyPassword := by
  unfold World.onModifyPasswordResponse HarmlessRequest
  rw [anonymous]
  cases pb.modifyPasswordReq msg.payload with
  | none =>
      exact iff_of_true (harmless_of_untouched live ⟨rfl, rfl, rfl, rfl, rfl⟩) (by simp)
  | some req =>
      dsimp only
      by_cases missing : req.oldpassword = [] ∨ req.newpassword = []
      · rw [if_pos missing]
        exact iff_of_true (harmless_of_untouched live ⟨rfl, rfl, rfl, rfl, rfl⟩)
          (by simpa using missing)
      · rw [if_neg missing]
        exact iff_of_false (not_harmless_of_nullUser rfl) (by simpa using missing)

theorem onCreateGroupResponse_harmless_iff :
    Harmless (some .createGroup) w (w.onCreateGroupResponse pb s msg) ↔
      HarmlessRequest pb w.store w.env msg .createGroup := by
  unfold World.onCreateGroupResponse HarmlessRequest
  rw [anonymous]
  cases pb.createGroupReq msg.payload with
  | none =>
      exact iff_of_true (harmless_of_untouched live ⟨rfl, rfl, rfl, rfl, rfl⟩) (by simp)
  | some req =>
      dsimp only
      by_cases missing : req.groupname = []
      · rw [if_pos missing]
        exact iff_of_true (harmless_of_untouched live ⟨rfl, rfl, rfl, rfl, rfl⟩)
          (by simpa using missing)
      · rw [if_neg missing]
        exact iff_of_false (not_harmless_of_nullUser rfl) (by simpa using missing)

theorem onUpgradeVipResponse_harmless_iff :
    Harmless (some .upgradeVip) w (w.onUpgradeVipResponse pb s msg) ↔
      HarmlessRequest pb w.store w.env msg .upgradeVip := by
  unfold World.onUpgradeVipResponse HarmlessRequest
  rw [anonymous]
  cases pb.upgradeVipReq msg.payload with
  | none =>
      exact iff_of_true (harmless_of_untouched live ⟨rfl, rfl, rfl, rfl, rfl⟩) (by simp)
  | some req =>
      dsimp only
      split
      · rename_i grpc
        exact iff_of_true (harmless_of_untouched live ⟨rfl, rfl, rfl, rfl, rfl⟩) (by simp [grpc])
      · rename_i grpc
        exact iff_of_true (harmless_of_untouched live ⟨rfl, rfl, rfl, rfl, rfl⟩) (by simp [grpc])
      · rename_i grpc
        refine iff_of_false ?_ (by simp [grpc])
        -- The call for the client's user id is one more than before.
        intro harmless
        have untouched := harmless.2 (by simp [meantForAnonymous])
        simpa using untouched.calls

omit anonymous live in
theorem operateInvite_next (s : ClientSession) (req : OperateFriendReq) (w : World)
    {groupid : Int} (isGroup : groupid ≥ groupIdBoundary) :
    (w.operateInvite s req groupid).store = (w.store.makeFriendRelationship
        (smallId req.friendid groupid) (greatId req.friendid groupid)).2 ∧
      (w.operateInvite s req groupid).fault = w.fault ∧
      (w.operateInvite s req groupid).calls = w.calls := by
  unfold World.operateInvite
  rw [if_pos isGroup]
  split
  all_goals
    rename_i result
    rw [result]
    exact ⟨rfl, rfl, rfl⟩

omit anonymous in
theorem operateInvite_harmless_iff (granted : w.store.db.outcomes 0 = w.env.sql 0)
    (req : OperateFriendReq) :
    Harmless (some .operateFriend) w (w.operateInvite s req msg.targetId) ↔
      msg.targetId < groupIdBoundary ∨ req.friendid = msg.targetId ∨ w.env.sql 0 = false := by
  by_cases isGroup : msg.targetId ≥ groupIdBoundary
  · obtain ⟨store, fault, calls⟩ := operateInvite_next s req w isGroup
    by_cases effective : smallId req.friendid msg.targetId < greatId req.friendid msg.targetId ∧
        w.store.db.outcomes 0 = true
    · -- The row is written whoever sent the request.
      obtain ⟨-, -, db⟩ := Store.makeFriendRelationship_granted effective.1
        (Store.execute_insertRelationship effective.2) rfl
      refine iff_of_false ?_ ?_
      · intro harmless
        have tables := (harmless.2 (by simp [meantForAnonymous])).tables
        rw [store, db] at tables
        simpa using congrArg Tables.relationships tables
      · rw [granted, smallId_lt_greatId_iff] at effective
        intro excuse
        rcases excuse with isUser | same | failed
        · omega
        · exact effective.1 same
        · simp [failed] at effective
    · obtain ⟨-, kept⟩ := Store.makeFriendRelationship_refused effective
      rw [← store] at kept
      refine iff_of_true (harmless_of_untouched (fault.trans live) ?_) ?_
      · rcases kept with same | advanced
        · exact ⟨by rw [same], by rw [same], by rw [same], by rw [same], calls⟩
        · exact ⟨by rw [advanced]; rfl, by rw [advanced], by rw [advanced], by rw [advanced], calls⟩
      · rw [granted, smallId_lt_greatId_iff, not_and_or, not_not, Bool.not_eq_true] at effective
        exact Or.inr effective
  · unfold World.operateInvite
    rw [if_neg isGroup]
    exact iff_of_true (harmless_of_untouched live ⟨rfl, rfl, rfl, rfl, rfl⟩)
      (Or.inl (not_le.mp isGroup))

theorem onOperateFriendResponse_harmless_iff (granted : w.store.db.outcomes 0 = w.env.sql 0) :
    Harmless (some .operateFriend) w (w.onOperateFriendResponse pb s msg) ↔
      HarmlessRequest pb w.store w.env msg .operateFriend := by
  unfold World.onOperateFriendResponse HarmlessRequest
  cases pb.operateFriendReq msg.payload with
  | none =>
      exact iff_of_true (harmless_of_untouched live ⟨rfl, rfl, rfl, rfl, rfl⟩) (by simp)
  | some req =>
      simp only [Option.mem_some, forall_eq']
      by_cases isAdd : req.type = 1
      · simp only [isAdd, if_true, World.operateAdd, anonymous]
        by_cases isGroup : req.friendid ≥ groupIdBoundary
        · rw [if_pos isGroup]
          exact iff_of_true (harmless_of_untouched live ⟨rfl, rfl, rfl, rfl, rfl⟩)
            (by simpa using isGroup)
        · rw [if_neg isGroup]
          exact iff_of_false (not_harmless_of_nullUser rfl) (by simpa using isGroup)
      by_cases isDelete : req.type = 2
      · simp only [isDelete, World.operateDelete, anonymous]
        exact iff_of_false (not_harmless_of_nullUser rfl) (by simp)
      by_cases isInvite : req.type = 3
      · rw [if_neg isAdd, if_neg isDelete, if_pos isInvite,
          operateInvite_harmless_iff live granted]
        simp [isInvite]
      · rw [if_neg isAdd, if_neg isDelete, if_neg isInvite]
        exact iff_of_true (harmless_of_untouched live ⟨rfl, rfl, rfl, rfl, rfl⟩)
          (by simp [isAdd, isDelete, isInvite])

end Depends

/-! ### Commands that always read `m_user` -/

theorem onGetFriendListResponse_fault (anonymous : s.user = none) :
    (w.onGetFriendListResponse s).fault = some .nullUser := by
  unfold World.onGetFriendListResponse
  rw [anonymous]
  rfl

theorem onGetChatHistoryResponse_fault (anonymous : s.user = none) :
    (w.onGetChatHistoryResponse pb s msg).fault = some .nullUser := by
  unfold World.onGetChatHistoryResponse
  split
  · exact derefUser_fault anonymous
  · rw [anonymous]
    rfl

theorem onChatResponse_fault (anonymous : s.user = none) :
    (w.onChatResponse pb s msg).fault = some .nullUser := by
  unfold World.onChatResponse
  rw [anonymous]
  rfl

theorem chatToEach_fault (pb : ImProto) (anonymous : s.user = none) (content : Bytes)
    (targets : List Int) (known : w.fault = none ∨ w.fault = some .nullUser) :
    (w.chatToEach pb s content targets).fault = none ∨
      (w.chatToEach pb s content targets).fault = some .nullUser := by
  unfold World.chatToEach
  induction targets generalizing w with
  | nil => exact known
  | cons target rest inductionHypothesis =>
      rw [List.foldl_cons]
      split
      · exact inductionHypothesis known
      · exact inductionHypothesis (Or.inr (onChatResponse_fault anonymous))

/-- Group sending reads `m_user` for each target, and once more at the end when
there was none. -/
theorem onMultiChatResponse_fault (anonymous : s.user = none) (live : w.fault = none) :
    (w.onMultiChatResponse pb s msg).fault = some .nullUser := by
  unfold World.onMultiChatResponse
  dsimp only
  split
  · exact derefUser_fault anonymous
  rename_i multi _
  have sent := chatToEach_fault pb (s := { s with targets := msg.targets })
    (w := w.setSession { s with targets := msg.targets }) anonymous multi.content multi.targets
    (Or.inl live)
  split
  · rename_i faulty
    rcases sent with unfaulty | crashed
    · rw [unfaulty] at faulty
      cases faulty
    · exact crashed
  · exact derefUser_fault anonymous

/-! ### Every command -/

theorem handle_harmless_iff (anonymous : s.user = none) (live : w.fault = none)
    (granted : w.store.db.outcomes 0 = w.env.sql 0) (type : MsgType) :
    Harmless (some type) w (w.handle pb type s msg) ↔
      HarmlessRequest pb w.store w.env msg type := by
  cases type with
  | heartbeat => exact iff_of_true ⟨by simp [World.handle, World.onHeartbeatResponse, live],
      by simp [meantForAnonymous]⟩ trivial
  | register => exact iff_of_true ⟨by simp [World.handle, onRegisterResponse_fault live],
      by simp [meantForAnonymous]⟩ trivial
  | sendEmailCode => exact iff_of_true ⟨by simp [World.handle, onSendEmailCodeResponse_fault live],
      by simp [meantForAnonymous]⟩ trivial
  | login => exact onLoginResponse_harmless_iff anonymous live
  | getFriendList =>
      exact iff_of_false (not_harmless_of_nullUser (onGetFriendListResponse_fault anonymous)) id
  | findUser => exact iff_of_true (onFindUserResponse_harmless live) trivial
  | operateFriend => exact onOperateFriendResponse_harmless_iff anonymous live granted
  | updateUserInfo => exact onUpdateUserInfoResponse_harmless_iff anonymous live
  | modifyPassword => exact onModifyPasswordResponse_harmless_iff anonymous live
  | createGroup => exact onCreateGroupResponse_harmless_iff anonymous live
  | getGroupMembers => exact iff_of_true (onGetGroupMembersResponse_harmless live) trivial
  | getChatHistory =>
      exact iff_of_false (not_harmless_of_nullUser (onGetChatHistoryResponse_fault anonymous)) id
  | avatarUpload => exact iff_of_true (onAvatarUploadResponse_harmless anonymous live) trivial
  | upgradeVip => exact onUpgradeVipResponse_harmless_iff anonymous live
  | chat => exact iff_of_false (not_harmless_of_nullUser (onChatResponse_fault anonymous)) id
  | multiChat =>
      exact iff_of_false (not_harmless_of_nullUser (onMultiChatResponse_fault anonymous live)) id
  | sendRequest | pendingRequests | handleRequest | kickGroupMember | renameGroup
  | setGroupAdmin => exact iff_of_true (guarded_harmless (by simp) anonymous live) trivial

end Handlers

/-- When a message is harmless on a connection without a login: by its
command, its payload, the cache and what the environment grants. -/
def HarmlessMessage (pb : ImProto) (store : Store) (env : Env) (msg : MessageContainer) : Prop :=
  ∀ type ∈ MsgType.ofCmd msg.cmd, HarmlessRequest pb store env msg type

/-- A message on a connection without a login is harmless exactly under the
condition. -/
theorem anonymous_harmless_iff (pb : ImProto) (w : World) (env : Env) (conn : Nat)
    (s : ClientSession) (msg : MessageContainer) (live : w.fault = none)
    (found : w.session? conn = some s) (anonymous : s.user = none) :
    Harmless (MsgType.ofCmd msg.cmd) w (w.step pb ⟨.frame conn msg, env⟩) ↔
      HarmlessMessage pb w.store env msg := by
  unfold HarmlessMessage
  cases command : MsgType.ofCmd msg.cmd with
  | none =>
      have step : w.step pb ⟨.frame conn msg, env⟩ =
          (w.withEnv env).setSession { s with seq := msg.seq } := by
        have running : (w.withEnv env).fault = none := live
        have known : (w.withEnv env).session? conn = some s := found
        simp [World.step, running, World.perform, World.onMessageReceived, known, command]
      rw [step]
      exact iff_of_true (harmless_of_untouched live ⟨rfl, rfl, rfl, rfl, rfl⟩) (by simp)
  | some type =>
      have reached : w.dispatched ⟨.frame conn msg, env⟩ =
          some (type, { s with seq := msg.seq }, msg) := by
        simp [World.dispatched, live, found, command]
      simp only [Option.mem_some, forall_eq']
      rw [World.step_of_dispatched pb reached,
        ← harmless_started w env { s with seq := msg.seq } (some type)]
      have sameRequest :
          HarmlessRequest pb ((w.withEnv env).setSession { s with seq := msg.seq }).store env
            msg type ↔ HarmlessRequest pb w.store env msg type := by
        cases type <;> rfl
      rw [← sameRequest]
      exact handle_harmless_iff (w := (w.withEnv env).setSession { s with seq := msg.seq })
        (s := { s with seq := msg.seq }) anonymous live rfl type

namespace AnonymousRuns

/-- A running server with one connection that is not logged in. -/
def server : World := World.runFrom wireProto (World.boot .empty) [Client.connect 0]

/-- VIP upgrade for user 7, sent without a login while goagent is reachable. -/
def upgradeForSeven : MessageContainer := MsgType.upgradeVip.container (Lib.Wire.writeInt 1 7)

def withGoagent : Env := { Env.plain with grpc := .ready }

end AnonymousRuns

theorem anonymous_harmless_iff_unparsed :
    (AnonymousRuns.server.session? 0 = some (.fresh 0)) ∧
      Harmless (some .createGroup) AnonymousRuns.server
        (AnonymousRuns.server.step wireProto
          ⟨.frame 0 (MsgType.createGroup.container []), .plain⟩) :=
  ⟨by decide, (anonymous_harmless_iff wireProto AnonymousRuns.server .plain 0 (.fresh 0)
    (MsgType.createGroup.container []) (by decide) (by decide) rfl).mpr (by
      intro type isType
      cases isType
      intro req isReq
      cases isReq
      rfl)⟩

/-- Without a login a VIP upgrade is passed on for the user id of the payload. -/
theorem anonymous_upgrade_calls_goagent :
    ¬ Harmless (some .upgradeVip) AnonymousRuns.server (AnonymousRuns.server.step wireProto
        ⟨.frame 0 AnonymousRuns.upgradeForSeven, AnonymousRuns.withGoagent⟩) := by
  intro harmless
  have untouched := harmless.2 (by simp [meantForAnonymous])
  exact absurd untouched.calls (by decide)

end AimServer
