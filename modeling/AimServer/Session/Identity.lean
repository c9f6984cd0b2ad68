import AimServer.Graph.Step

/-!
Contract: who a session acts as.

Owns: the account of a connection, and the theorem that a step changes it only
by a login that names a registered account, by a profile edit of the same
account, or by ending the session.

Does not own: whether the login was entitled to it.
-/

namespace AimServer

open AimServer.Lib

namespace World

/-- `m_user` of the session of a connection. -/
def userOn (conn : Nat) (w : World) : Option User :=
  (w.session? conn).bind ClientSession.user

variable {pb : ImProto} {s : ClientSession} {msg : MessageContainer} {w : World}

theorem userOn_of_sessions {next : World} (same : next.sessions = w.sessions) (conn : Nat) :
    next.userOn conn = w.userOn conn := by
  simp [userOn, session?, same]

theorem session?_setSession (s : ClientSession) (w : World) (conn : Nat) :
    (w.setSession s).session? conn =
      if conn = s.conn then (w.session? conn).map (fun _ => s) else w.session? conn := by
  have conns : ∀ before : ClientSession,
      (if before.conn = s.conn then s else before).conn = before.conn := by
    intro before
    split
    · rename_i same
      exact same.symm
    · rfl
  simp only [session?, setSession, Lib.modify]
  rw [lookup_map conns]
  by_cases same : conn = s.conn
  · rw [if_pos same]
    cases found : lookup ClientSession.conn conn w.sessions with
    | none => rfl
    | some before => simp [lookup_key found, same]
  · rw [if_neg same]
    cases found : lookup ClientSession.conn conn w.sessions with
    | none => rfl
    | some before => simp [lookup_key found, same]

/-- Writing back the session object of a connection that has one. -/
theorem userOn_setSession {before : ClientSession} (known : w.session? s.conn = some before)
    (conn : Nat) :
    (w.setSession s).userOn conn = if conn = s.conn then s.user else w.userOn conn := by
  unfold userOn
  rw [session?_setSession]
  by_cases same : conn = s.conn
  · subst same
    simp [known]
  · simp [same]

/-- Writing back a session object that kept its user. -/
theorem userOn_setSession_same {before : ClientSession}
    (known : w.session? s.conn = some before) (same : s.user = before.user) (conn : Nat) :
    (w.setSession s).userOn conn = w.userOn conn := by
  rw [userOn_setSession known]
  split
  · rename_i isConn
    subst isConn
    simp [userOn, known, same]
  · rfl

/-! ### Handlers -/

/-- Handlers that never write the session. -/
def keepsSessions : MsgType → Bool
  | .login | .updateUserInfo | .avatarUpload | .chat | .multiChat => false
  | _ => true

theorem handle_sessions {type : MsgType} (keeps : keepsSessions type = true) :
    (w.handle pb type s msg).sessions = w.sessions := by
  cases type with
  | login | updateUserInfo | avatarUpload | chat | multiChat => cases keeps
  | heartbeat => rfl
  | register =>
      simp only [handle, onRegisterResponse]
      repeat' split
      all_goals rfl
  | getFriendList =>
      simp only [handle, onGetFriendListResponse]
      repeat' split
      all_goals rfl
  | findUser =>
      simp only [handle, onFindUserResponse]
      repeat' split
      all_goals rfl
  | operateFriend =>
      simp only [handle, onOperateFriendResponse, operateAdd, operateDelete, operateInvite]
      repeat' split
      all_goals rfl
  | modifyPassword =>
      simp only [handle, onModifyPasswordResponse]
      repeat' split
      all_goals rfl
  | createGroup =>
      simp only [handle, onCreateGroupResponse]
      repeat' split
      all_goals rfl
  | getGroupMembers =>
      simp only [handle, onGetGroupMembersResponse]
      repeat' split
      all_goals rfl
  | getChatHistory =>
      simp only [handle, onGetChatHistoryResponse, derefUser]
      repeat' split
      all_goals rfl
  | sendEmailCode =>
      simp only [handle, onSendEmailCodeResponse]
      repeat' split
      all_goals rfl
  | upgradeVip =>
      simp only [handle, onUpgradeVipResponse]
      repeat' split
      all_goals rfl
  | sendRequest =>
      simp only [handle, onSendRequestResponse, sendFriendRequest, sendInvitation,
        sendApplication, storeRequest]
      repeat' split
      all_goals rfl
  | pendingRequests =>
      simp only [handle, onPendingRequestsResponse]
      repeat' split
      all_goals rfl
  | handleRequest =>
      simp only [handle, onHandleRequestResponse, acceptRequest, notifyAccepted]
      repeat' split
      all_goals rfl
  | kickGroupMember =>
      simp only [handle, onKickGroupMemberResponse]
      repeat' split
      all_goals rfl
  | renameGroup =>
      simp only [handle, onRenameGroupResponse]
      repeat' split
      all_goals rfl
  | setGroupAdmin =>
      simp only [handle, onSetGroupAdminResponse]
      repeat' split
      all_goals rfl

theorem completeLogin_sessions (found : User) :
    (w.completeLogin pb s found).sessions =
      (w.setSession { s with user := some { found with status := 1 } }).sessions := by
  unfold completeLogin
  cases w.env.grpc <;> rfl

theorem completeLogin_fault (found : User) : (w.completeLogin pb s found).fault = w.fault := by
  unfold completeLogin
  cases w.env.grpc <;> rfl

theorem persistChat_sessions (user : User) (target : Int) (chatMsg : ChatMsg) :
    (w.persistChat user target chatMsg).sessions = w.sessions := by
  rw [persistChat_eq]

theorem deliverAll_sessions (forwarded : MessageContainer) (recipients : List Int) (w : World) :
    (recipients.foldl (deliver pb forwarded) w).sessions = w.sessions := by
  obtain ⟨store, frames, delivered⟩ := deliverAll_touches pb forwarded recipients w
  rw [delivered]
  rfl

theorem onChatResponse_sessions :
    (w.onChatResponse pb s msg).sessions =
      (w.setSession { s with target := msg.targetId }).sessions := by
  unfold onChatResponse
  dsimp only
  split
  · rfl
  split
  · unfold routeToAgent
    split <;> rfl
  · rw [deliverAll_sessions, persistChat_sessions]

/-- The session of a connection has the user of the session object `s`. -/
def Holds (s : ClientSession) (w : World) : Prop :=
  ∃ before, w.session? s.conn = some before ∧ before.user = s.user

theorem Holds.userOn (holds : Holds s w) : w.userOn s.conn = s.user := by
  obtain ⟨before, known, user⟩ := holds
  simp [World.userOn, known, user]

/-- Writing `s` back with the same user changes nobody's account. -/
theorem Holds.setSession {next : ClientSession} (holds : Holds s w) (conn : next.conn = s.conn)
    (user : next.user = s.user) :
    Holds s (w.setSession next) ∧ ∀ k, (w.setSession next).userOn k = w.userOn k := by
  obtain ⟨before, known, same⟩ := holds
  rw [← conn] at known
  refine ⟨⟨next, ?_, user⟩, userOn_setSession_same known (user.trans same.symm)⟩
  rw [session?_setSession, ← conn]
  simp [known]

theorem onChatResponse_userOn (pb : ImProto) (msg : MessageContainer) (holds : Holds s w) :
    Holds s (w.onChatResponse pb s msg) ∧
      ∀ k, (w.onChatResponse pb s msg).userOn k = w.userOn k := by
  have kept : Holds s (w.setSession { s with target := msg.targetId }) ∧
      ∀ k, (w.setSession { s with target := msg.targetId }).userOn k = w.userOn k :=
    holds.setSession rfl rfl
  refine ⟨?_, fun k => by rw [userOn_of_sessions onChatResponse_sessions k, kept.2 k]⟩
  obtain ⟨after, found, user⟩ := kept.1
  exact ⟨after, by rw [← found]; simp [session?, onChatResponse_sessions], user⟩

theorem chatToEach_userOn (pb : ImProto) (content : Bytes) (targets : List Int)
    (holds : Holds s w) (k : Nat) :
    (w.chatToEach pb s content targets).userOn k = w.userOn k := by
  unfold chatToEach
  induction targets generalizing w with
  | nil => rfl
  | cons target rest inductionHypothesis =>
      rw [List.foldl_cons]
      split
      · exact inductionHypothesis holds
      · obtain ⟨stillHeld, kept⟩ := onChatResponse_userOn pb
          ⟨MsgType.chat.cmd, s.seq, target, [], content⟩ holds
        rw [inductionHypothesis stillHeld, kept]

theorem onMultiChatResponse_userOn (holds : Holds s w) (k : Nat) :
    (w.onMultiChatResponse pb s msg).userOn k = w.userOn k := by
  have start : Holds { s with targets := msg.targets }
        (w.setSession { s with targets := msg.targets }) ∧
      ∀ k, (w.setSession { s with targets := msg.targets }).userOn k = w.userOn k :=
    holds.setSession rfl rfl
  unfold onMultiChatResponse
  dsimp only
  split
  · rw [userOn_of_sessions derefUser_sessions, start.2]
  rename_i multi _
  have sent := chatToEach_userOn pb multi.content multi.targets start.1 k
  split
  · rw [sent, start.2]
  · rw [userOn_of_sessions derefUser_sessions, sent, start.2]

/-- The account a handler leaves on a connection: the one before, the same
account with an edited profile, or the account a login named. -/
inductive Becomes (pb : ImProto) (s : ClientSession) (msg : MessageContainer) (w : World) :
    MsgType → Nat → Option User → Prop
  | kept {type : MsgType} {conn : Nat} : Becomes pb s msg w type conn (w.userOn conn)
  | edited {type : MsgType} {user next : User} (notLogin : type ≠ .login)
      (signedIn : s.user = some user) (same : next.userid = user.userid) :
      Becomes pb s msg w type s.conn (some next)
  | named {req : LoginReq} {found next : User}
      (parsed : pb.loginReq msg.payload = some req) (username : req.username ≠ [])
      (password : req.password ≠ [])
      (registered : w.store.getUserInfoUsername req.username = some found)
      (same : next.userid = found.userid) :
      Becomes pb s msg w .login s.conn (some next)

theorem Becomes.of_sessions {type : MsgType} {next : World} (conn : Nat)
    (same : next.sessions = w.sessions) : Becomes pb s msg w type conn (next.userOn conn) := by
  rw [userOn_of_sessions same]
  exact .kept

/-- Writing the session back with another user. -/
theorem userOn_setSession_user (holds : Holds s w) (user : Option User) (conn : Nat) :
    (w.setSession { s with user }).userOn conn = if conn = s.conn then user else w.userOn conn := by
  obtain ⟨before, known, -⟩ := holds
  have sameConn : w.session? ({ s with user } : ClientSession).conn = some before := known
  exact userOn_setSession sameConn conn

theorem Holds.setUser (holds : Holds s w) (user : Option User) :
    Holds { s with user } (w.setSession { s with user }) := by
  obtain ⟨before, known, -⟩ := holds
  refine ⟨{ s with user }, ?_, rfl⟩
  rw [session?_setSession]
  simp [known]

/-- `m_user` after a login that found an account. -/
theorem userOn_namedLogin (holds : Holds s w) {req : LoginReq} {found : User}
    (parsed : pb.loginReq msg.payload = some req) (username : req.username ≠ [])
    (password : req.password ≠ [])
    (registered : w.store.getUserInfoUsername req.username = some found) (conn : Nat) :
    (w.onLoginResponse pb s msg).userOn conn =
      if conn = s.conn then
        some (if PasswordUtil.verifyPassword req.password found.password then
          { found with status := 1 } else found)
      else w.userOn conn := by
  unfold onLoginResponse
  rw [parsed]
  simp only [username, password, or_self, if_false, registered]
  cases PasswordUtil.verifyPassword req.password found.password with
  | true =>
      simp only [if_true]
      rw [userOn_of_sessions (completeLogin_sessions found),
        userOn_setSession_user (holds.setUser (some found))]
      split
      · rfl
      · rw [userOn_setSession_user holds, if_neg (by assumption)]
  | false =>
      simp only [Bool.false_eq_true, if_false]
      exact userOn_setSession_user holds (some found) conn

theorem onLoginResponse_becomes (holds : Holds s w) (conn : Nat) :
    Becomes pb s msg w .login conn ((w.onLoginResponse pb s msg).userOn conn) := by
  cases parsed : pb.loginReq msg.payload with
  | none =>
      unfold onLoginResponse
      rw [parsed]
      exact .of_sessions conn derefUser_sessions
  | some req =>
      by_cases missing : req.username = [] ∨ req.password = []
      · unfold onLoginResponse
        simp only [parsed, if_pos missing]
        exact .of_sessions conn derefUser_sessions
      obtain ⟨username, password⟩ := not_or.mp missing
      cases registered : w.store.getUserInfoUsername req.username with
      | none =>
          unfold onLoginResponse
          simp only [parsed, if_neg missing, registered]
          exact .of_sessions conn derefUser_sessions
      | some found =>
          rw [userOn_namedLogin holds parsed username password registered]
          split
          · rename_i isConn
            subst isConn
            refine .named parsed username password registered ?_
            split <;> rfl
          · exact .kept

/-- Writing the session back with an edited profile of its own account. -/
theorem Becomes.of_edit {type : MsgType} {user edited : User} {next : World} (holds : Holds s w)
    (notLogin : type ≠ .login) (signedIn : s.user = some user)
    (same : edited.userid = user.userid)
    (written : next.sessions = (w.setSession { s with user := some edited }).sessions)
    (conn : Nat) : Becomes pb s msg w type conn (next.userOn conn) := by
  rw [userOn_of_sessions written, userOn_setSession_user holds]
  split
  · rename_i isConn
    subst isConn
    exact .edited notLogin signedIn same
  · exact .kept

theorem onUpdateUserInfoResponse_becomes (holds : Holds s w) (conn : Nat) :
    Becomes pb s msg w .updateUserInfo conn
      ((w.onUpdateUserInfoResponse pb s msg).userOn conn) := by
  unfold onUpdateUserInfoResponse
  split
  · exact .of_sessions conn rfl
  rename_i req _
  split
  · exact .of_sessions conn rfl
  rename_i user signedIn
  dsimp only
  split
  · have same : (Store.withProfile (requestedProfile req user) user).userid = user.userid := rfl
    exact .of_edit holds (by simp) signedIn same rfl conn
  · exact .of_sessions conn rfl

theorem onAvatarUploadResponse_becomes (holds : Holds s w) (conn : Nat) :
    Becomes pb s msg w .avatarUpload conn ((w.onAvatarUploadResponse pb s msg).userOn conn) := by
  unfold onAvatarUploadResponse
  split
  · exact .of_sessions conn rfl
  split
  · exact .of_sessions conn rfl
  rename_i user signedIn
  split
  · exact .of_sessions conn rfl
  · exact .of_sessions conn rfl
  split
  · refine .of_sessions conn ?_
    unfold uploadGroupAvatar
    dsimp only
    repeat' split
    all_goals rfl
  · unfold uploadOwnAvatar
    dsimp only
    split
    · have same : ({ user with customface := w.env.upload.url } : User).userid = user.userid := rfl
      exact .of_edit holds (by simp) signedIn same rfl conn
    · exact .of_sessions conn rfl

theorem handle_becomes (pb : ImProto) (msg : MessageContainer) (type : MsgType)
    (holds : Holds s w) (conn : Nat) :
    Becomes pb s msg w type conn ((w.handle pb type s msg).userOn conn) := by
  cases type with
  | login => exact onLoginResponse_becomes holds conn
  | updateUserInfo => exact onUpdateUserInfoResponse_becomes holds conn
  | avatarUpload => exact onAvatarUploadResponse_becomes holds conn
  | chat =>
      have kept := (onChatResponse_userOn pb msg holds).2 conn
      simp only [handle, kept]
      exact .kept
  | multiChat =>
      simp only [handle, onMultiChatResponse_userOn holds conn]
      exact .kept
  | _ => exact .of_sessions conn (handle_sessions rfl)

/-! ### Steps -/

/-- After one step the account on a connection is gone, kept, edited, or the
one a login on this connection named. -/
inductive Turns (pb : ImProto) (w : World) (label : Step) (conn : Nat) : Option User → Prop
  | gone : Turns pb w label conn none
  | kept : Turns pb w label conn (w.userOn conn)
  | edited {user next : User} (notLogin : w.asks label .login pb.loginReq = none)
      (signedIn : w.userOn conn = some user) (same : next.userid = user.userid) :
      Turns pb w label conn (some next)
  | named {ask : Ask LoginReq} {found next : User}
      (asked : w.asks label .login pb.loginReq = some ask) (isConn : ask.session.conn = conn)
      (username : ask.req.username ≠ []) (password : ask.req.password ≠ [])
      (registered : w.store.getUserInfoUsername ask.req.username = some found)
      (same : next.userid = found.userid) :
      Turns pb w label conn (some next)

variable {label : Step}

theorem holds_of_dispatched {type : MsgType}
    (reached : w.dispatched label = some (type, s, msg)) :
    Holds s ((w.withEnv label.env).setSession s) ∧
      ∀ k, ((w.withEnv label.env).setSession s).userOn k = w.userOn k := by
  obtain ⟨-, -, -, before, found, same⟩ := dispatched_session reached
  have user : before.user = s.user := by rw [same]
  have holds : Holds s (w.withEnv label.env) := ⟨before, found, user⟩
  exact holds.setSession rfl rfl

/-- A new connection is nobody's. -/
theorem userOn_onConnection (opened conn : Nat) :
    (w.onConnection opened).userOn conn = none ∨
      (w.onConnection opened).userOn conn = w.userOn conn := by
  unfold onConnection
  split
  · exact Or.inr rfl
  · rename_i absent
    have inserted : lookup ClientSession.conn conn (w.sessions.orderedInsert
        (fun first second => first.conn ≤ second.conn) (.fresh opened)) =
          if conn = opened then some (.fresh opened) else w.session? conn :=
      lookup_orderedInsert _ absent
    unfold userOn session?
    dsimp only
    rw [inserted]
    split
    · exact Or.inl rfl
    · exact Or.inr rfl

theorem userOn_onClose (closed conn : Nat) :
    (w.onClose closed).userOn conn = none ∨ (w.onClose closed).userOn conn = w.userOn conn := by
  simp only [onClose, userOn, session?]
  rw [lookup_filter_ne]
  split
  · exact Or.inl rfl
  · exact Or.inr rfl

/-- An unknown command leaves its sequence number and no other trace. -/
theorem userOn_unknownCommand {frame : MessageContainer}
    (unknown : MsgType.ofCmd frame.cmd = none) (sender conn : Nat) :
    (w.onMessageReceived pb sender frame).userOn conn = w.userOn conn := by
  unfold onMessageReceived
  split
  · rfl
  · rename_i before found
    rw [unknown]
    have key : before.conn = sender := lookup_key found
    have holds : Holds { before with seq := frame.seq } w := ⟨before, by rw [key]; exact found, rfl⟩
    exact (holds.setSession rfl rfl).2 conn

theorem onAgentReply_sessions (conn : Nat) (ok : Bool) (reply : Bytes) :
    (w.onAgentReply conn ok reply).sessions = w.sessions := by
  simp only [onAgentReply]
  repeat' split
  all_goals rfl

/-- A frame that reaches no handler on a live server has an unknown command or
no session. -/
theorem userOn_frame_of_not_dispatched {sender : Nat} {frame : MessageContainer}
    (event : label.event = .frame sender frame) (unreached : w.dispatched label = none)
    (live : ¬ w.fault.isSome = true) (conn : Nat) :
    ((w.withEnv label.env).onMessageReceived pb sender frame).userOn conn = w.userOn conn := by
  cases command : MsgType.ofCmd frame.cmd with
  | none => exact userOn_unknownCommand command sender conn
  | some type =>
      cases known : w.session? sender with
      | none =>
          have absent : (w.withEnv label.env).session? sender = none := known
          simp only [onMessageReceived, absent]
          rfl
      | some before => simp [dispatched, event, live, known, command] at unreached

/-- The sessions of a step that reaches no handler: unchanged but for one that
was opened, closed or given a sequence number, or all gone. -/
theorem userOn_of_not_dispatched (unreached : w.dispatched label = none) (conn : Nat) :
    (w.step pb label).userOn conn = none ∨ (w.step pb label).userOn conn = w.userOn conn := by
  cases event : label.event with
  | restart loads =>
      refine Or.inl ?_
      simp [step, event, restart, userOn, session?, lookup]
  | connect opened =>
      simp only [step, event]
      split
      · exact Or.inr rfl
      · exact userOn_onConnection opened conn
  | close closed =>
      simp only [step, event]
      split
      · exact Or.inr rfl
      · exact userOn_onClose closed conn
  | frame sender frame =>
      simp only [step, event]
      split
      · exact Or.inr rfl
      · rename_i live
        exact Or.inr (userOn_frame_of_not_dispatched event unreached live conn)
  | agentReply sender ok reply =>
      simp only [step, event]
      split
      · exact Or.inr rfl
      · exact Or.inr (userOn_of_sessions (onAgentReply_sessions sender ok reply) conn)

theorem step_turns (pb : ImProto) (w : World) (label : Step) (conn : Nat) :
    Turns pb w label conn ((w.step pb label).userOn conn) := by
  cases reached : w.dispatched label with
  | none =>
      rcases userOn_of_not_dispatched reached conn with gone | kept
      · rw [gone]
        exact .gone
      · rw [kept]
        exact .kept
  | some target =>
      obtain ⟨type, s, msg⟩ := target
      obtain ⟨holds, same⟩ := holds_of_dispatched reached
      rw [step_of_dispatched pb reached]
      have becomes := handle_becomes pb msg type holds conn
      generalize (((w.withEnv label.env).setSession s).handle pb type s msg).userOn conn =
        after at becomes
      cases becomes with
      | kept =>
          rw [same]
          exact .kept
      | edited notLogin signedIn sameId =>
          refine .edited ?_ ?_ sameId
          · simp [asks, reached, notLogin]
          · rw [← same, holds.userOn, signedIn]
      | named parsed username password registered sameId =>
          exact .named (asks_of_dispatched reached parsed) rfl username password registered sameId

end World

end AimServer
