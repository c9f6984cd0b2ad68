import AimServer.Session.Lookups

/-!
Contract: agent questions and their answers, which come in any order.

Owns: what a question was asked with, the server with its outstanding
questions as a machine whose environment chooses the next answer, what has been
handled on a connection since a question was asked there, and what the session
holds because of it when the answer arrives.

Does not own: what an answer should look like.

The callback of a question runs as one step. A session that is closed takes its
questions with it.
-/

namespace AimServer

open AimServer.Lib

/-- An agent chat: its connection, the sequence number of its request and the
user who made it. -/
structure Question where
  conn : Nat
  seq : Int
  userid : Int
deriving DecidableEq, Repr

/-- A question that waits for its answer, with the sequence number of the last
message and the account of the last login that named one, both since it was
asked and on its connection. -/
structure Outstanding where
  question : Question
  lastSeq : Option Int
  lastNamed : Option Int
deriving DecidableEq, Repr

/-- The server, its outstanding questions, and what was pushed for an answer. -/
structure AgentServer where
  world : World
  outstanding : List Outstanding
  pushed : List (Question × Nat × Frame)

/-- Anything but an answer, or the answer to one of the questions. -/
inductive AgentLabel where
  | event (label : Step)
  | answer (index : Nat) (ok : Bool) (reply : Bytes) (env : Env)

namespace World

/-- The account that a login of this step names. -/
def namesAccount (pb : ImProto) (w : World) (label : Step) : Option Int :=
  match w.asks label .login pb.loginReq with
  | none => none
  | some ask =>
      if ask.req.username = [] ∨ ask.req.password = [] then none
      else (w.store.getUserInfoUsername ask.req.username).map User.userid

/-- The questions this step asks: one for each call that it leaves pending. -/
def newQuestions (pb : ImProto) (w : World) (label : Step) : List Question :=
  match w.dispatched label with
  | none => []
  | some (_, s, msg) =>
      match s.user with
      | none => []
      | some user =>
          ((w.step pb label).agentPending.drop w.agentPending.length).map
            fun conn => ⟨conn, msg.seq, user.userid⟩

end World

/-- A message on the connection of the question. -/
def Outstanding.observe (event : Event) (named : Option Int) (o : Outstanding) : Outstanding :=
  match event with
  | .frame conn msg =>
      if conn = o.question.conn then
        { o with lastSeq := some msg.seq, lastNamed := named.or o.lastNamed }
      else o
  | _ => o

namespace AgentServer

def boot (tables : Tables) : AgentServer := ⟨.boot tables, [], []⟩

/-- An event that is no answer. -/
def handle (pb : ImProto) (label : Step) (m : AgentServer) : AgentServer :=
  let next := m.world.step pb label
  let known := m.outstanding.map (Outstanding.observe label.event (m.world.namesAccount pb label))
  let asked := (m.world.newQuestions pb label).map fun question => ⟨question, none, none⟩
  { m with
    world := next
    outstanding := (known ++ asked).filter fun o => (next.session? o.question.conn).isSome }

/-- The answer to `o`, which is question number `index`. -/
def answer (pb : ImProto) (index : Nat) (o : Outstanding) (label : Step) (m : AgentServer) :
    AgentServer :=
  let next := m.world.step pb label
  { world := next
    outstanding := m.outstanding.eraseIdx index
    pushed := m.pushed ++
      (next.outbox.drop m.world.outbox.length).map fun entry => (o.question, entry) }

def step (pb : ImProto) (m : AgentServer) : AgentLabel → AgentServer
  | .event label =>
      match label.event with
      | .agentReply .. => m
      | _ => m.handle pb label
  | .answer index ok reply env =>
      match m.outstanding[index]? with
      | none => m
      | some o => m.answer pb index o ⟨.agentReply o.question.conn ok reply, env⟩

end AgentServer

namespace World

variable {pb : ImProto} {s : ClientSession} {msg : MessageContainer} {w next : World}
  {label : Step}

/-! ### Sequence numbers -/

/-- `m_seq` of the session of a connection. -/
def seqOn (conn : Nat) (w : World) : Option Int :=
  (w.session? conn).map ClientSession.seq

/-- The user id of the session of a connection. -/
def useridOn (conn : Nat) (w : World) : Option Int :=
  (w.userOn conn).map User.userid

theorem seqOn_setSession (s : ClientSession) (w : World) (conn : Nat) :
    (w.setSession s).seqOn conn =
      if conn = s.conn then (w.seqOn conn).map (fun _ => s.seq) else w.seqOn conn := by
  rw [seqOn, session?_setSession, seqOn]
  split
  · rw [Option.map_map, Option.map_map]
    rfl
  · rfl

/-- A handler leaves every sequence number. -/
theorem Resaves.seqOn (resaves : Resaves s w next) (holds : w.seqOn s.conn = some s.seq)
    (conn : Nat) : next.seqOn conn = w.seqOn conn := by
  cases resaves with
  | kept sessions => rw [World.seqOn, World.session?, sessions, World.seqOn, World.session?]
  | @saved version sessions sameConn sameSeq =>
      have written : next.seqOn conn = (w.setSession version).seqOn conn := by
        simp only [World.seqOn, World.session?, sessions]
      rw [written, seqOn_setSession, sameConn, sameSeq]
      split
      · rename_i isConn
        rw [isConn, holds]
        rfl
      · rfl

/-- A message leaves its sequence number on its connection. -/
theorem seqOn_onMessageReceived (conn other : Nat) :
    (w.onMessageReceived pb conn msg).seqOn other =
      if other = conn then (w.seqOn other).map (fun _ => msg.seq) else w.seqOn other := by
  unfold onMessageReceived
  cases found : w.session? conn with
  | none =>
      by_cases same : other = conn
      · rw [if_pos same, same, seqOn, found]
        rfl
      · rw [if_neg same]
  | some before =>
      have isConn : before.conn = conn := lookup_key found
      have started := seqOn_setSession { before with seq := msg.seq } w
      have holds : (w.setSession { before with seq := msg.seq }).seqOn before.conn =
          some msg.seq := by
        rw [started, if_pos rfl, isConn, seqOn, found]
        rfl
      dsimp only
      split
      · rw [started, isConn]
      · rename_i type _
        rw [(handle_resaves pb type { before with seq := msg.seq } msg _).seqOn holds, started,
          isConn]

/-! ### Accounts -/

theorem namesAccount_of_not_dispatched (unreached : w.dispatched label = none) :
    w.namesAccount pb label = none := by
  simp only [namesAccount, asks, unreached]

/-- Only logins name an account. -/
theorem namesAccount_of_other {type : MsgType} (reached : w.dispatched label = some (type, s, msg))
    (other : type ≠ .login) : w.namesAccount pb label = none := by
  simp only [namesAccount, asks, reached, if_neg other]

/-- A login that names an account leaves it on the connection. -/
theorem useridOn_named {id : Int} (reached : w.dispatched label = some (.login, s, msg))
    (named : w.namesAccount pb label = some id) (conn : Nat) :
    (w.step pb label).useridOn conn = if conn = s.conn then some id else w.useridOn conn := by
  obtain ⟨holds, same⟩ := holds_of_dispatched reached
  cases parsed : pb.loginReq msg.payload with
  | none =>
      simp only [namesAccount, asks, reached, parsed, if_true, Option.map_none] at named
      cases named
  | some req =>
      simp only [namesAccount, asks_of_dispatched reached parsed] at named
      by_cases missing : req.username = [] ∨ req.password = []
      · rw [if_pos missing] at named
        cases named
      · rw [if_neg missing] at named
        obtain ⟨found, registered, isId⟩ := Option.map_eq_some_iff.mp named
        obtain ⟨username, password⟩ := not_or.mp missing
        have written := userOn_namedLogin holds parsed username password registered conn
        rw [step_of_dispatched pb reached, useridOn, handle, written]
        split
        · rw [Option.map_some, ← isId]
          split
          · rfl
          · rfl
        · rw [same, useridOn]

/-- A message without such a login leaves every user id. -/
theorem useridOn_unnamed {type : MsgType} (reached : w.dispatched label = some (type, s, msg))
    (unnamed : w.namesAccount pb label = none) (conn : Nat) :
    (w.step pb label).useridOn conn = w.useridOn conn := by
  obtain ⟨holds, same⟩ := holds_of_dispatched reached
  rw [step_of_dispatched pb reached, useridOn]
  have becomes := handle_becomes pb msg type holds conn
  generalize (((w.withEnv label.env).setSession s).handle pb type s msg).userOn conn =
    after at becomes ⊢
  cases becomes with
  | kept => rw [same, useridOn]
  | edited notLogin signedIn sameId =>
      rw [useridOn, ← same, holds.userOn, signedIn, Option.map_some, Option.map_some, sameId]
  | @named req found _ parsed username password registered sameId =>
      have names : w.namesAccount pb label = some found.userid := by
        rw [namesAccount, asks_of_dispatched reached parsed]
        dsimp only
        rw [if_neg (not_or.mpr ⟨username, password⟩)]
        exact congrArg (Option.map User.userid) registered
      rw [names] at unnamed
      cases unnamed

theorem step_frame {sender : Nat} (event : label.event = .frame sender msg)
    (live : w.fault = none) :
    w.step pb label = (w.withEnv label.env).onMessageReceived pb sender msg := by
  have running : (w.withEnv label.env).fault = none := live
  unfold step
  rw [event]
  simp [running, perform]

/-- The user id a message leaves on each connection. -/
theorem useridOn_frame {sender : Nat} (event : label.event = .frame sender msg)
    (live : w.fault = none) (conn : Nat) :
    (w.step pb label).useridOn conn =
      if conn = sender then (w.namesAccount pb label).or (w.useridOn conn)
      else w.useridOn conn := by
  cases reached : w.dispatched label with
  | none =>
      have running : ¬ w.fault.isSome = true := by simp [live]
      have kept : ((w.withEnv label.env).onMessageReceived pb sender msg).userOn conn =
          w.userOn conn := userOn_frame_of_not_dispatched event reached running conn
      rw [namesAccount_of_not_dispatched reached, Option.none_or, ite_self,
        step_frame event live, useridOn, kept, useridOn]
  | some target =>
      obtain ⟨type, s, found⟩ := target
      obtain ⟨-, isFrame, -, -⟩ := dispatched_session reached
      rw [event] at isFrame
      cases isFrame
      cases named : w.namesAccount pb label with
      | none => rw [Option.none_or, ite_self, useridOn_unnamed reached named]
      | some id =>
          have isLogin : type = .login := by
            by_contra other
            rw [namesAccount_of_other reached other] at named
            cases named
          subst isLogin
          rw [useridOn_named reached named, Option.some_or]

/-- An event that is no message leaves the session of every connection that
still has one. -/
theorem session?_kept {conn : Nat} (noFrame : ∀ sender msg, label.event ≠ .frame sender msg)
    (known : w.session? conn = some s) (still : ((w.step pb label).session? conn).isSome) :
    (w.step pb label).session? conn = some s := by
  cases event : label.event with
  | frame sender frame => exact absurd event (noFrame sender frame)
  | restart loads =>
      simp [step, event, restart, session?, lookup] at still
  | connect opened =>
      simp only [step, event, perform]
      split
      · exact known
      · unfold onConnection
        split
        · exact known
        · rename_i absent
          have inserted : lookup ClientSession.conn conn (w.sessions.orderedInsert
              (fun first second => first.conn ≤ second.conn) (.fresh opened)) =
                if conn = opened then some (.fresh opened) else w.session? conn :=
            lookup_orderedInsert _ absent
          have other : conn ≠ opened := by
            rintro rfl
            have found : (w.withEnv label.env).session? conn = some s := known
            rw [found] at absent
            cases absent
          rw [if_neg other, known] at inserted
          exact inserted
  | close closed =>
      simp only [step, event, perform] at still ⊢
      split
      · exact known
      · rename_i live
        rw [if_neg live] at still
        have filtered : ((w.withEnv label.env).onClose closed).session? conn =
            if conn = closed then none else w.session? conn := lookup_filter_ne
        rw [filtered] at still ⊢
        split
        · rename_i isClosed
          rw [if_pos isClosed] at still
          cases still
        · exact known
  | agentReply sender ok reply =>
      simp only [step, event, perform]
      split
      · exact known
      · rw [session?, onAgentReply_sessions]
        exact known

/-- A process that lives has lived, unless it was restarted. -/
theorem live_before (noRestart : ∀ loads, label.event ≠ .restart loads)
    (live : (w.step pb label).fault = none) : w.fault = none := by
  by_contra dead
  have isDead : (w.withEnv label.env).fault.isSome = true := Option.isSome_iff_ne_none.mpr dead
  have same : (w.step pb label).fault = w.fault := by
    unfold step
    split
    · rename_i loads event
      exact absurd event (noRestart loads)
    · dsimp only
      rw [if_pos isDead]
      rfl
  exact dead (same.symm.trans live)

/-! ### Pending calls -/

theorem derefUser_agentPending : (w.derefUser s).agentPending = w.agentPending := by
  unfold derefUser
  split <;> rfl

/-- Only the chat handlers ask the agent. -/
theorem handle_agentPending {type : MsgType} (notChat : type ≠ .chat)
    (notMulti : type ≠ .multiChat) :
    (w.handle pb type s msg).agentPending = w.agentPending := by
  cases type with
  | chat => exact absurd rfl notChat
  | multiChat => exact absurd rfl notMulti
  | heartbeat => rfl
  | register =>
      simp only [handle, onRegisterResponse]
      repeat' split
      all_goals rfl
  | login =>
      simp only [handle, onLoginResponse, completeLogin]
      repeat' split
      all_goals first
        | rfl
        | exact derefUser_agentPending
  | getFriendList =>
      simp only [handle, onGetFriendListResponse]
      repeat' split
      all_goals rfl
  | findUser =>
      simp only [handle, onFindUserResponse]
      repeat' split
      all_goals rfl
  | operateFriend =>
      simp only [handle, onOperateFriendResponse, operateAdd, operateDelete, operateInvite]
      repeat' split
      all_goals rfl
  | updateUserInfo =>
      simp only [handle, onUpdateUserInfoResponse]
      repeat' split
      all_goals rfl
  | modifyPassword =>
      simp only [handle, onModifyPasswordResponse]
      repeat' split
      all_goals rfl
  | createGroup =>
      simp only [handle, onCreateGroupResponse]
      repeat' split
      all_goals rfl
  | getGroupMembers =>
      simp only [handle, onGetGroupMembersResponse]
      repeat' split
      all_goals rfl
  | getChatHistory =>
      simp only [handle, onGetChatHistoryResponse, derefUser]
      repeat' split
      all_goals rfl
  | avatarUpload =>
      simp only [handle, onAvatarUploadResponse, uploadGroupAvatar, uploadOwnAvatar]
      repeat' split
      all_goals rfl
  | sendEmailCode =>
      simp only [handle, onSendEmailCodeResponse]
      repeat' split
      all_goals rfl
  | upgradeVip =>
      simp only [handle, onUpgradeVipResponse]
      repeat' split
      all_goals rfl
  | sendRequest =>
      simp only [handle, onSendRequestResponse, sendFriendRequest, sendInvitation,
        sendApplication, storeRequest]
      repeat' split
      all_goals rfl
  | pendingRequests =>
      simp only [handle, onPendingRequestsResponse]
      repeat' split
      all_goals rfl
  | handleRequest =>
      simp only [handle, onHandleRequestResponse, acceptRequest, notifyAccepted]
      repeat' split
      all_goals rfl
  | kickGroupMember =>
      simp only [handle, onKickGroupMemberResponse]
      repeat' split
      all_goals rfl
  | renameGroup =>
      simp only [handle, onRenameGroupResponse]
      repeat' split
      all_goals rfl
  | setGroupAdmin =>
      simp only [handle, onSetGroupAdminResponse]
      repeat' split
      all_goals rfl

/-- Some calls were left pending on the connection of `s`, none without a
user. -/
def Asks (s : ClientSession) (w next : World) : Prop :=
  ∃ count, next.agentPending = w.agentPending ++ List.replicate count s.conn ∧
    (s.user = none → count = 0)

theorem Asks.of_same (same : next.agentPending = w.agentPending) : Asks s w next :=
  ⟨0, by rw [same, List.replicate_zero, List.append_nil], fun _ => rfl⟩

theorem Asks.refl (s : ClientSession) (w : World) : Asks s w w :=
  .of_same rfl

theorem Asks.trans {middle : World} (before : Asks s w middle) (after : Asks s middle next) :
    Asks s w next := by
  obtain ⟨first, early, firstUser⟩ := before
  obtain ⟨second, late, secondUser⟩ := after
  refine ⟨first + second, ?_, ?_⟩
  · rw [late, early, List.append_assoc, List.replicate_append_replicate]
  · intro nobody
    rw [firstUser nobody, secondUser nobody]

theorem persistChat_agentPending (user : User) (target : Int) (chatMsg : ChatMsg) :
    (w.persistChat user target chatMsg).agentPending = w.agentPending := by
  rw [persistChat_eq]

theorem deliverAll_agentPending (forwarded : MessageContainer) (recipients : List Int)
    (w : World) :
    (recipients.foldl (deliver pb forwarded) w).agentPending = w.agentPending := by
  obtain ⟨store, frames, delivered⟩ := deliverAll_touches pb forwarded recipients w
  rw [delivered]
  rfl

theorem onChatResponse_asks (pb : ImProto) (s : ClientSession) (msg : MessageContainer)
    (w : World) : Asks s w (w.onChatResponse pb s msg) := by
  unfold onChatResponse
  dsimp only
  split
  · exact .of_same rfl
  · rename_i user signedIn
    split
    · unfold routeToAgent
      split
      · refine ⟨1, rfl, ?_⟩
        intro nobody
        rw [signedIn] at nobody
        cases nobody
      · exact .of_same rfl
      · exact .of_same rfl
    · refine .of_same ?_
      rw [deliverAll_agentPending, persistChat_agentPending]
      rfl

theorem chatToEach_asks (pb : ImProto) (content : Bytes) (targets : List Int)
    (s : ClientSession) (w : World) : Asks s w (w.chatToEach pb s content targets) := by
  unfold chatToEach
  induction targets generalizing w with
  | nil => exact .refl s w
  | cons target rest inductionHypothesis =>
      rw [List.foldl_cons]
      refine Asks.trans ?_ (inductionHypothesis _)
      split
      · exact .refl s w
      · exact onChatResponse_asks pb s _ w

theorem onMultiChatResponse_asks (pb : ImProto) (s : ClientSession) (msg : MessageContainer)
    (w : World) : Asks s w (w.onMultiChatResponse pb s msg) := by
  unfold onMultiChatResponse
  dsimp only
  split
  · exact .of_same derefUser_agentPending
  · rename_i multi _
    have chats := chatToEach_asks pb multi.content multi.targets { s with targets := msg.targets }
      (w.setSession { s with targets := msg.targets })
    split
    · exact chats
    · exact Asks.trans chats (.of_same derefUser_agentPending)

/-- What a step that reaches a handler leaves pending. -/
theorem step_asks (pb : ImProto) {type : MsgType}
    (reached : w.dispatched label = some (type, s, msg)) :
    Asks s w (w.step pb label) ∧
      ((w.step pb label).agentPending ≠ w.agentPending → type ≠ .login) := by
  rw [step_of_dispatched pb reached]
  have started : Asks s w ((w.withEnv label.env).setSession s) := .of_same rfl
  refine ⟨?_, ?_⟩
  · refine started.trans ?_
    by_cases isChat : type = .chat
    · rw [isChat]
      exact onChatResponse_asks pb s msg _
    by_cases isMulti : type = .multiChat
    · rw [isMulti]
      exact onMultiChatResponse_asks pb s msg _
    · exact .of_same (handle_agentPending isChat isMulti)
  · rintro grown rfl
    exact grown (handle_agentPending (by decide) (by decide))

/-- What a question was asked with. -/
theorem mem_newQuestions {question : Question} (member : question ∈ w.newQuestions pb label) :
    ∃ type s msg user, w.dispatched label = some (type, s, msg) ∧ s.user = some user ∧
      type ≠ .login ∧ question = ⟨s.conn, msg.seq, user.userid⟩ := by
  unfold newQuestions at member
  cases reached : w.dispatched label with
  | none =>
      rw [reached] at member
      cases member
  | some target =>
      obtain ⟨type, s, msg⟩ := target
      obtain ⟨⟨count, grown, -⟩, notLogin⟩ := step_asks pb reached
      cases signedIn : s.user with
      | none =>
          simp only [reached, signedIn] at member
          cases member
      | some user =>
          simp only [reached, signedIn, grown, List.drop_left] at member
          obtain ⟨conn, isNew, rfl⟩ := List.mem_map.mp member
          obtain ⟨some, isConn⟩ := List.mem_replicate.mp isNew
          refine ⟨type, s, msg, user, rfl, signedIn, notLogin ?_, by rw [isConn]⟩
          intro unchanged
          have lengths := congrArg List.length (grown.symm.trans unchanged)
          simp only [List.length_append, List.length_replicate] at lengths
          omega

/-- Every call that is left pending is a question. -/
theorem agentPending_step (pb : ImProto) (w : World) (label : Step)
    (noAnswer : ∀ conn ok reply, label.event ≠ .agentReply conn ok reply)
    (noRestart : ∀ loads, label.event ≠ .restart loads) :
    (w.step pb label).agentPending =
      w.agentPending ++ (w.newQuestions pb label).map Question.conn := by
  cases reached : w.dispatched label with
  | some target =>
      obtain ⟨type, s, msg⟩ := target
      obtain ⟨⟨count, grown, nobody⟩, -⟩ := step_asks pb reached
      cases signedIn : s.user with
      | none =>
          rw [nobody signedIn] at grown
          simpa [newQuestions, reached, signedIn] using grown
      | some user =>
          simp only [newQuestions, reached, signedIn]
          rw [grown, List.drop_left, List.map_map]
          exact congrArg (w.agentPending ++ ·) (List.map_id _).symm
  | none =>
      have none : w.newQuestions pb label = [] := by simp only [newQuestions, reached]
      rw [none, List.map_nil, List.append_nil]
      cases event : label.event with
      | restart loads => exact absurd event (noRestart loads)
      | agentReply conn ok reply => exact absurd event (noAnswer conn ok reply)
      | connect conn =>
          simp only [step, event, perform, onConnection]
          repeat' split
          all_goals rfl
      | close conn =>
          simp only [step, event, perform, onClose]
          split <;> rfl
      | frame conn frame =>
          simp only [step, event, perform, onMessageReceived]
          split
          · rfl
          rename_i live
          split
          · rfl
          rename_i before found
          split
          · rfl
          · rename_i type command
            have known : w.session? conn = some before := found
            have running : ¬ w.fault.isSome = true := live
            simp [dispatched, event, running, known, command] at reached

end World

namespace AgentServer

open World

variable {pb : ImProto} {m : AgentServer}

/-- Every question still has its call pending, and the session holds what was
handled last. -/
structure Tracks (m : AgentServer) : Prop where
  pending : ∀ conn, (m.outstanding.map fun o => o.question.conn).count conn ≤
    m.world.agentPending.count conn
  seq : m.world.fault = none → ∀ o ∈ m.outstanding,
    m.world.seqOn o.question.conn = some (o.lastSeq.getD o.question.seq)
  userid : m.world.fault = none → ∀ o ∈ m.outstanding,
    m.world.useridOn o.question.conn = some (o.lastNamed.getD o.question.userid)

/-- Where no question is open there is nothing to track. -/
theorem tracks_of_empty (empty : m.outstanding = []) : m.Tracks := by
  refine ⟨?_, ?_, ?_⟩
  · intro conn
    rw [empty]
    exact Nat.zero_le _
  · intro _ o member
    rw [empty] at member
    cases member
  · intro _ o member
    rw [empty] at member
    cases member

theorem tracks_boot (tables : Tables) : (boot tables).Tracks := tracks_of_empty rfl

/-! ### A step that is no answer -/

theorem observe_question (event : Event) (named : Option Int) (o : Outstanding) :
    (o.observe event named).question = o.question := by
  unfold Outstanding.observe
  split
  · split <;> rfl
  · rfl

/-- An earlier question after a message. -/
theorem held_frame {sender : Nat} {msg : MessageContainer} {label : Step} {o : Outstanding}
    {w : World} (event : label.event = .frame sender msg) (live : w.fault = none)
    (seq : w.seqOn o.question.conn = some (o.lastSeq.getD o.question.seq))
    (userid : w.useridOn o.question.conn = some (o.lastNamed.getD o.question.userid)) :
    (w.step pb label).seqOn o.question.conn =
        some ((o.observe label.event (w.namesAccount pb label)).lastSeq.getD o.question.seq) ∧
      (w.step pb label).useridOn o.question.conn =
        some ((o.observe label.event (w.namesAccount pb label)).lastNamed.getD
          o.question.userid) := by
  have seqAfter : (w.step pb label).seqOn o.question.conn =
      if o.question.conn = sender then (w.seqOn o.question.conn).map (fun _ => msg.seq)
      else w.seqOn o.question.conn := by
    rw [step_frame event live]
    exact seqOn_onMessageReceived sender o.question.conn
  have useridAfter : (w.step pb label).useridOn o.question.conn = _ :=
    useridOn_frame event live o.question.conn
  rw [seqAfter, useridAfter, event, seq, userid]
  by_cases same : o.question.conn = sender
  · rw [if_pos same, if_pos same, Outstanding.observe, if_pos same.symm]
    refine ⟨rfl, ?_⟩
    cases w.namesAccount pb label <;> rfl
  · rw [if_neg same, if_neg same, Outstanding.observe, if_neg (Ne.symm same)]
    exact ⟨rfl, rfl⟩

/-- A new question after its own step. -/
theorem held_new {label : Step} {question : Question} {w : World}
    (member : question ∈ w.newQuestions pb label) :
    (w.step pb label).seqOn question.conn = some question.seq ∧
      (w.step pb label).useridOn question.conn = some question.userid := by
  obtain ⟨type, s, msg, user, reached, signedIn, notLogin, rfl⟩ := mem_newQuestions member
  obtain ⟨live, event, -, before, found, isSession⟩ := dispatched_session reached
  obtain ⟨holds, same⟩ := holds_of_dispatched reached
  refine ⟨?_, ?_⟩
  · rw [step_frame event live, seqOn_onMessageReceived, if_pos rfl, seqOn]
    have known : (w.withEnv label.env).session? s.conn = some before := found
    rw [known]
    rfl
  · rw [useridOn_frame event live, if_pos rfl, namesAccount_of_other reached notLogin,
      Option.none_or, useridOn, ← same, holds.userOn, signedIn]
    rfl

/-- An earlier question after a step that leaves its session. -/
theorem held_known {label : Step} {o : Outstanding} {w : World} (live : w.fault = none)
    (seq : w.seqOn o.question.conn = some (o.lastSeq.getD o.question.seq))
    (userid : w.useridOn o.question.conn = some (o.lastNamed.getD o.question.userid))
    (still : ((w.step pb label).session? o.question.conn).isSome) :
    (w.step pb label).seqOn o.question.conn =
        some ((o.observe label.event (w.namesAccount pb label)).lastSeq.getD o.question.seq) ∧
      (w.step pb label).useridOn o.question.conn =
        some ((o.observe label.event (w.namesAccount pb label)).lastNamed.getD
          o.question.userid) := by
  by_cases isFrame : ∃ sender msg, label.event = .frame sender msg
  · obtain ⟨sender, msg, event⟩ := isFrame
    exact held_frame event live seq userid
  · have noFrame : ∀ sender msg, label.event ≠ .frame sender msg :=
      fun sender msg event => isFrame ⟨sender, msg, event⟩
    have unseen : o.observe label.event (w.namesAccount pb label) = o := by
      unfold Outstanding.observe
      split
      · rename_i sender msg event
        exact absurd event (noFrame sender msg)
      · rfl
    obtain ⟨session, isSession, -⟩ := Option.map_eq_some_iff.mp seq
    have kept := session?_kept noFrame isSession still
    rw [unseen, ← seq, ← userid]
    simp only [seqOn, useridOn, userOn, kept, isSession, and_self]

theorem held_handle {label : Step} (noRestart : ∀ loads, label.event ≠ .restart loads)
    (tracks : m.Tracks) (live : (m.world.step pb label).fault = none) {o : Outstanding}
    (member : o ∈ (m.handle pb label).outstanding) :
    (m.world.step pb label).seqOn o.question.conn = some (o.lastSeq.getD o.question.seq) ∧
      (m.world.step pb label).useridOn o.question.conn =
        some (o.lastNamed.getD o.question.userid) := by
  have lived := live_before noRestart live
  obtain ⟨inList, still⟩ := List.mem_filter.mp member
  rcases List.mem_append.mp inList with known | asked
  · obtain ⟨before, isOutstanding, rfl⟩ := List.mem_map.mp known
    rw [observe_question] at still ⊢
    exact held_known lived (tracks.seq lived before isOutstanding)
      (tracks.userid lived before isOutstanding) still
  · obtain ⟨question, isNew, rfl⟩ := List.mem_map.mp asked
    exact held_new isNew

/-- The questions of a connection before those of lost sessions are dropped. -/
theorem conns_handle (m : AgentServer) (pb : ImProto) (label : Step) (conn : Nat) :
    ((m.handle pb label).outstanding.map fun o => o.question.conn).count conn ≤
      (m.outstanding.map fun o => o.question.conn).count conn +
        ((m.world.newQuestions pb label).map Question.conn).count conn := by
  have conns : ((m.outstanding.map (Outstanding.observe label.event
        (m.world.namesAccount pb label)) ++
      (m.world.newQuestions pb label).map fun question =>
        (⟨question, none, none⟩ : Outstanding)).map fun o => o.question.conn) =
      (m.outstanding.map fun o => o.question.conn) ++
        (m.world.newQuestions pb label).map Question.conn := by
    rw [List.map_append, List.map_map, List.map_map]
    congr 1
    refine List.map_congr_left ?_
    intro o _
    exact congrArg Question.conn (observe_question _ _ o)
  have fewer : ((m.handle pb label).outstanding.map fun o => o.question.conn).count conn ≤ _ :=
    (List.filter_sublist.map _).count_le conn
  rwa [conns, List.count_append] at fewer

theorem tracks_restart {label : Step} {loads : Store.LoadOutcome}
    (event : label.event = .restart loads) :
    (m.handle pb label).Tracks := by
  have nobody : ∀ conn, (m.world.step pb label).session? conn = none := by
    intro conn
    simp [World.step, event, restart, session?, lookup]
  refine tracks_of_empty (List.filter_eq_nil_iff.mpr ?_)
  intro o _
  simp [nobody]

theorem tracks_handle {label : Step}
    (noAnswer : ∀ conn ok reply, label.event ≠ .agentReply conn ok reply) (tracks : m.Tracks) :
    (m.handle pb label).Tracks := by
  by_cases restarted : ∃ loads, label.event = .restart loads
  · obtain ⟨loads, event⟩ := restarted
    exact tracks_restart event
  have noRestart : ∀ loads, label.event ≠ .restart loads :=
    fun loads event => restarted ⟨loads, event⟩
  refine ⟨?_, fun live o member => (held_handle noRestart tracks live member).1,
    fun live o member => (held_handle noRestart tracks live member).2⟩
  intro conn
  have grown : (m.handle pb label).world.agentPending = _ :=
    agentPending_step pb m.world label noAnswer noRestart
  rw [grown, List.count_append]
  exact (conns_handle m pb label conn).trans (Nat.add_le_add_right (tracks.pending conn) _)

/-! ### An answer -/

/-- What an answer on a live server does: one container, with what the session
holds now. -/
theorem answer_sent (pb : ImProto) {index : Nat} {o : Outstanding} (ok : Bool) (reply : Bytes)
    (env : Env) (tracks : m.Tracks) (live : m.world.fault = none)
    (isOutstanding : m.outstanding[index]? = some o) :
    ∃ content, (m.world.step pb ⟨.agentReply o.question.conn ok reply, env⟩).outbox =
      m.world.outbox ++ [(o.question.conn,
        ⟨MsgType.chat.cmd, o.lastSeq.getD o.question.seq, o.lastNamed.getD o.question.userid,
          .chatMsg (agentReply (o.lastNamed.getD o.question.userid) content env.now)⟩)] := by
  have member : o ∈ m.outstanding := List.mem_of_getElem? isOutstanding
  have isPending : o.question.conn ∈ m.world.agentPending := by
    have counted : 0 < (m.outstanding.map fun o => o.question.conn).count o.question.conn :=
      List.count_pos_iff.mpr (List.mem_map_of_mem member)
    exact List.count_pos_iff.mp (lt_of_lt_of_le counted (tracks.pending o.question.conn))
  obtain ⟨session, found, seq⟩ := Option.map_eq_some_iff.mp (tracks.seq live o member)
  obtain ⟨user, signedIn, userid⟩ := Option.map_eq_some_iff.mp (tracks.userid live o member)
  have isUser : session.user = some user := by
    rw [userOn, found] at signedIn
    exact signedIn
  have isConn : session.conn = o.question.conn := lookup_key found
  refine ⟨if ok then reply else str "[Agent不可用] " ++ reply, ?_⟩
  have running : (m.world.withEnv env).fault = none := live
  have waits : o.question.conn ∈ (m.world.withEnv env).agentPending := isPending
  have known : lookup ClientSession.conn o.question.conn (m.world.withEnv env).sessions =
      some session := found
  simp only [World.step, running, Option.isSome_none, Bool.false_eq_true, if_false, perform,
    onAgentReply, if_pos waits, session?, known, isUser, emit, isConn, seq, userid]
  rfl

/-- An answer settles one call of its connection. -/
theorem onAgentReply_agentPending (conn : Nat) (ok : Bool) (reply : Bytes) (w : World) :
    (w.onAgentReply conn ok reply).agentPending = w.agentPending.erase conn := by
  unfold onAgentReply
  split
  · dsimp only
    repeat' split
    all_goals rfl
  · rename_i absent
    exact (List.erase_of_not_mem absent).symm

theorem tracks_answer {index : Nat} {o : Outstanding} {ok : Bool} {reply : Bytes} {env : Env}
    (tracks : m.Tracks) (isOutstanding : m.outstanding[index]? = some o) :
    (m.answer pb index o ⟨.agentReply o.question.conn ok reply, env⟩).Tracks := by
  have noRestart : ∀ loads, (⟨.agentReply o.question.conn ok reply, env⟩ : Step).event ≠
      .restart loads := by
    intro loads event
    cases event
  have sessions : (m.world.step pb ⟨.agentReply o.question.conn ok reply, env⟩).sessions =
      m.world.sessions := by
    simp only [World.step, perform]
    split
    · rfl
    · rw [onAgentReply_sessions]
      rfl
  obtain ⟨bound, isElement⟩ := List.getElem?_eq_some_iff.mp isOutstanding
  have perm : (o :: m.outstanding.eraseIdx index).Perm m.outstanding :=
    isElement ▸ List.getElem_cons_eraseIdx_perm bound
  refine ⟨?_, ?_, ?_⟩
  · intro conn
    have counts := (perm.map fun o => o.question.conn).count_eq conn
    have before := tracks.pending conn
    rw [List.map_cons, List.count_cons] at counts
    have pending : m.world.agentPending.count conn ≤
        (m.world.step pb ⟨.agentReply o.question.conn ok reply, env⟩).agentPending.count conn +
          (if o.question.conn == conn then 1 else 0) := by
      simp only [World.step, perform]
      split
      · exact Nat.le_add_right _ _
      · rw [onAgentReply_agentPending, List.count_erase]
        exact Nat.le_add_of_sub_le (le_refl _)
    show ((m.outstanding.eraseIdx index).map fun o => o.question.conn).count conn ≤
      (m.world.step pb ⟨.agentReply o.question.conn ok reply, env⟩).agentPending.count conn
    omega
  · intro live other member
    rw [← tracks.seq (live_before noRestart live) other (List.mem_of_mem_eraseIdx member)]
    show seqOn _ (m.world.step pb _) = _
    rw [seqOn, session?, sessions, seqOn, session?]
  · intro live other member
    rw [← tracks.userid (live_before noRestart live) other (List.mem_of_mem_eraseIdx member)]
    show useridOn _ (m.world.step pb _) = _
    rw [useridOn, userOn_of_sessions sessions, useridOn]

theorem tracks_step (pb : ImProto) (m : AgentServer) (label : AgentLabel) (tracks : m.Tracks) :
    (m.step pb label).Tracks := by
  cases label with
  | event label =>
      show (match label.event with | .agentReply .. => m | _ => m.handle pb label).Tracks
      split
      · exact tracks
      · rename_i noAnswer
        exact tracks_handle noAnswer tracks
  | answer index ok reply env =>
      cases isOutstanding : m.outstanding[index]? with
      | none =>
          simp only [step, isOutstanding]
          exact tracks
      | some o =>
          simp only [step, isOutstanding]
          exact tracks_answer tracks isOutstanding

end AgentServer

end AimServer
