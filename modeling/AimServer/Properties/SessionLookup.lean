import AimServer.Properties.Client
import AimServer.Session.Sentinel

/-!
Contract: whom a session lookup finds.

Proves that the lookups of every step of every run find only the user they
ask for, and that notifications reach only connections that are logged in,
exactly when no step deletes the friend -1 while some connection is not logged
in.

`UserID()` of such a connection is -1, and `OnOperateFriendResponse` type 2 is
the only caller that passes on an id nobody has to have.
-/

namespace AimServer

open AimServer.Lib

namespace World

variable {pb : ImProto} {w : World} {label : Step}

/-! ### The property and its condition -/

/-- The container is one a handler sends to somebody else's connection. -/
def IsNotification (frame : Frame) : Prop :=
  frame.cmd = cmdUserStatusChange ∨ frame.cmd = cmdNewRequestPush ∨ frame.cmd = MsgType.chat.cmd

/-- What `GetSessionByID` finds in a step is a session of the user it was asked
for, and notifications only go to connections that are logged in. -/
structure FindsOnlyUsers (pb : ImProto) (w : World) (label : Step) : Prop where
  found : ∀ type s msg id session, w.dispatched label = some (type, s, msg) →
    LooksUp pb s msg ((w.withEnv label.env).setSession s) type id →
    (w.step pb label).getSessionByID id = some session →
      ∃ user, session.user = some user ∧ user.userid = id
  notified : ∀ entry ∈ w.sent pb label, IsNotification entry.2 →
    ((w.step pb label).userOn entry.1).isSome

/-- The step deletes the friend -1, and the `DELETE` is granted, while some
connection is not logged in. -/
def DeletesSentinel (pb : ImProto) (w : World) (label : Step) : Prop :=
  ∃ ask user, w.asks label .operateFriend pb.operateFriendReq = some ask ∧
    ask.session.user = some user ∧ ask.req.type = 2 ∧ ask.req.friendid = -1 ∧
    label.env.sql 0 = true ∧ ∃ session ∈ w.sessions, session.user = none

section Lookups

variable {s : ClientSession} {msg : MessageContainer} {type : MsgType} {id : Int}

/-- A friendship that was made is between two records. -/
theorem known_of_made {smallid greatid : Int} {store : Store}
    (made : (store.makeFriendRelationship smallid greatid).1 = true) :
    (store.graph.cached smallid).isSome ∧ (store.graph.cached greatid).isSome := by
  by_cases effective : smallid < greatid ∧ store.db.outcomes 0 = true
  · have result := (Store.makeFriendRelationship_granted effective.1
      (Store.execute_insertRelationship effective.2) rfl).1
    rw [Store.cached_isSome, Store.cached_isSome]
    exact result.mp made
  · rw [(Store.makeFriendRelationship_refused effective).1] at made
    cases made

/-- An id that is looked up is no sentinel, unless it is a friend that was just
deleted. -/
theorem real_of_looksUp (coherent : w.store.graph.Coherent)
    (noSentinel : w.store.graph.NoSentinel) (looksUp : LooksUp pb s msg w type id) :
    id ≠ -1 ∨ ∃ user req, type = .operateFriend ∧ s.user = some user ∧
      pb.operateFriendReq msg.payload = some req ∧ req.type = 2 ∧ req.friendid = id ∧
      (w.store.deleteFriendToUser user.userid req.friendid).1 = true := by
  have real : ∀ {k : Int}, (w.store.getUserByID k).isSome → k ≠ -1 := by
    intro k known
    rw [← Store.cached_isSome] at known
    exact noSentinel.real coherent known
  have member : ∀ {k groupid : Int}, w.store.isFriend k groupid = true → k ≠ -1 :=
    fun isMember => noSentinel.real coherent (coherent.friend _ _ isMember).1
  cases looksUp with
  | online parsed registered friend => exact Or.inl (real_of_friendIds coherent noSentinel friend)
  | added signedIn parsed isAdd made =>
      rename_i user req
      obtain ⟨knownSmall, knownGreat⟩ := known_of_made made
      refine Or.inl ?_
      by_cases smaller : user.userid < req.friendid
      · rw [greatId, if_pos smaller] at knownGreat
        exact noSentinel.real coherent knownGreat
      · rw [smallId, if_neg smaller] at knownSmall
        exact noSentinel.real coherent knownSmall
  | deleted signedIn parsed isDelete made =>
      exact Or.inr ⟨_, _, rfl, signedIn, parsed, isDelete, rfl, made⟩
  | requested signedIn parsed known => exact Or.inl (real known)
  | applied signedIn parsed found =>
      rename_i user req group
      have owned : w.store.graph.cached req.groupid = some group.ownerid := by
        show (w.store.getUserByID req.groupid).map User.ownerid = some group.ownerid
        rw [found]
        rfl
      exact Or.inl (noSentinel.owner _ _ (coherent.cached _ _ owned))
  | accepted signedIn parsed found addressee => exact Or.inl (noSentinel.request _ _ found)
  | kicked signedIn parsed isMember => exact Or.inl (member isMember)
  | renamed signedIn parsed isMember other =>
      exact Or.inl (real_of_friendIds coherent noSentinel isMember)
  | appointed signedIn parsed isMember => exact Or.inl (member isMember)
  | avatar signedIn parsed isOwner friend =>
      exact Or.inl (real_of_friendIds coherent noSentinel friend)
  | chat signedIn notAgent recipient =>
      exact Or.inl (real_of_recipient coherent noSentinel notAgent recipient)
  | multiChat signedIn parsed isTarget notAgent recipient =>
      exact Or.inl (real_of_recipient coherent noSentinel notAgent recipient)

/-- The `DELETE` alone decides whether a friend was deleted. -/
theorem deleteFriendToUser_result (userid friendid : Int) (store : Store) :
    (store.deleteFriendToUser userid friendid).1 = store.db.outcomes 0 := by
  unfold Store.deleteFriendToUser
  dsimp only
  cases granted : store.db.outcomes 0 with
  | false => rw [Store.execute_denied granted]
  | true => rw [Store.execute_granted granted rfl]

end Lookups

/-- A handler that never writes the session leaves what lookups see. -/
theorem faces_step {type : MsgType} {s : ClientSession} {msg : MessageContainer} (keyed : w.Keyed)
    (keeps : keepsSessions type = true) (reached : w.dispatched label = some (type, s, msg)) :
    (w.step pb label).faces = w.faces := by
  rw [step_of_dispatched pb reached, faces_of_sessions (handle_sessions keeps)]
  exact faces_of_dispatched keyed reached

theorem anonymous_of_faces {next : World} (same : next.faces = w.faces)
    (anonymous : ∃ session ∈ w.sessions, session.user = none) :
    ∃ session ∈ next.sessions, session.user = none := by
  obtain ⟨session, member, nobody⟩ := anonymous
  have face : (session.conn, session.user) ∈ next.faces := by
    rw [same]
    exact List.mem_map_of_mem member
  obtain ⟨other, isOther, sameFace⟩ := List.mem_map.mp face
  rw [Prod.mk.injEq] at sameFace
  exact ⟨other, isOther, sameFace.2.trans nobody⟩

/-- The step that deletes the sentinel finds a connection that is not logged
in. -/
theorem not_findsOnlyUsers (searchable : w.Searchable) (deletes : DeletesSentinel pb w label) :
    ¬ FindsOnlyUsers pb w label := by
  intro finds
  obtain ⟨ask, user, asked, signedIn, isDelete, isSentinel, granted, anonymous⟩ := deletes
  obtain ⟨reached, parsed⟩ := dispatched_of_asks asked
  have made : (((w.withEnv label.env).setSession ask.session).store.deleteFriendToUser user.userid
      ask.req.friendid).1 = true := by
    rw [deleteFriendToUser_result]
    exact granted
  have looksUp := LooksUp.deleted (w := (w.withEnv label.env).setSession ask.session) signedIn
    parsed isDelete made
  have next : (w.step pb label).Searchable := searchable.step
  obtain ⟨session, found⟩ := (found_sentinel_iff next.real).mpr
    (anonymous_of_faces (faces_step searchable.keyed rfl reached) anonymous)
  rw [isSentinel] at looksUp
  obtain ⟨other, signedInAs, sentinel⟩ := finds.found _ _ _ _ _ reached looksUp found
  exact next.real session (mem_of_found found).1 other signedInAs sentinel

/-- Without such a step every lookup finds the user it asks for. -/
theorem found_user (searchable : w.Searchable) (spares : ¬ DeletesSentinel pb w label)
    {type : MsgType} {s session : ClientSession} {msg : MessageContainer} {id : Int}
    (reached : w.dispatched label = some (type, s, msg))
    (looksUp : LooksUp pb s msg ((w.withEnv label.env).setSession s) type id)
    (found : (w.step pb label).getSessionByID id = some session) :
    ∃ user, session.user = some user ∧ user.userid = id := by
  have graph : ((w.withEnv label.env).setSession s).store.graph = w.store.graph :=
    withEnv_graph label.env
  have cases' := real_of_looksUp (graph ▸ searchable.sound.coherent)
    (graph ▸ searchable.noSentinel) looksUp
  rcases cases' with real | ⟨user, req, rfl, signedIn, parsed, isDelete, rfl, made⟩
  · exact user_of_found real found
  · by_cases sentinel : req.friendid = -1
    · refine absurd ⟨⟨s, msg, req⟩, user, asks_of_dispatched reached parsed, signedIn, isDelete,
        sentinel, ?_, ?_⟩ spares
      · rw [deleteFriendToUser_result] at made
        exact made
      · rw [sentinel] at found
        have next : (w.step pb label).Searchable := searchable.step
        exact anonymous_of_faces (faces_step searchable.keyed rfl reached).symm
          ((found_sentinel_iff next.real).mp ⟨session, found⟩)
    · exact user_of_found sentinel found

/-! ### Where notifications go -/

section Notified

variable {s : ClientSession} {msg : MessageContainer} {type : MsgType}

/-- No reply is a notification. -/
theorem not_isNotification_reply (notChat : type ≠ .chat) (body : Body) :
    ¬ IsNotification (replyFrame s type body).2 := by
  have cmd : (replyFrame s type body).2.cmd = type.cmd := rfl
  rw [IsNotification, cmd]
  cases type with
  | chat => exact absurd rfl notChat
  | _ => decide

/-- The session of a step that reached a handler stays logged in. -/
theorem userOn_step (reached : w.dispatched label = some (type, s, msg))
    (signedIn : s.user.isSome) : ((w.step pb label).userOn s.conn).isSome := by
  obtain ⟨holds, -⟩ := holds_of_dispatched reached
  obtain ⟨user, isUser⟩ := Option.isSome_iff_exists.mp signedIn
  rw [step_of_dispatched pb reached]
  have becomes := handle_becomes pb msg type holds s.conn
  generalize (((w.withEnv label.env).setSession s).handle pb type s msg).userOn s.conn =
    after at becomes
  cases becomes with
  | kept =>
      rw [holds.userOn]
      exact signedIn
  | edited => rfl
  | named => rfl

/-- After a login that named a user the connection is logged in. -/
theorem userOn_login_step {req : LoginReq} {found : User}
    (reached : w.dispatched label = some (.login, s, msg))
    (named : NamesUser pb ((w.withEnv label.env).setSession s) msg req found) :
    ((w.step pb label).userOn s.conn).isSome := by
  obtain ⟨holds, -⟩ := holds_of_dispatched reached
  rw [step_of_dispatched pb reached]
  have after := userOn_namedLogin holds named.parsed named.username named.password
    named.registered s.conn
  rw [if_pos rfl] at after
  simp only [handle, after]
  rfl

/-- A found user's session is the one of its connection. -/
theorem userOn_of_found {id : Int} {session : ClientSession} {user : User} (keyed : w.Keyed)
    (found : w.getSessionByID id = some session) (signedIn : session.user = some user) :
    (w.userOn session.conn).isSome := by
  rw [userOn_of_mem keyed (mem_of_found found).1, signedIn]
  rfl

theorem notified_of_outcome (searchable : w.Searchable) (spares : ¬ DeletesSentinel pb w label)
    (reached : w.dispatched label = some (type, s, msg)) (notChat : type ≠ .chat)
    (notMultiChat : type ≠ .multiChat) :
    ∀ entry ∈ w.sent pb label, IsNotification entry.2 →
      ((w.step pb label).userOn entry.1).isSome := by
  have next : (w.step pb label).Searchable := searchable.step
  have ends := handle_outcome pb notChat notMultiChat s msg ((w.withEnv label.env).setSession s)
  rw [← step_of_dispatched pb reached] at ends
  have outbox : ((w.withEnv label.env).setSession s).outbox = w.outbox := rfl
  intro entry member notification
  cases ends with
  | answered answers =>
      obtain ⟨before, after, body, sent, extras⟩ := answers.sent
      rw [sent_eq sent, List.mem_append, List.mem_cons] at member
      have isExtra : entry ∈ before ++ after := by
        rcases member with early | rfl | late
        · exact List.mem_append_left _ early
        · exact absurd notification (not_isNotification_reply notChat body)
        · exact List.mem_append_right _ late
      cases extras entry isExtra with
      | pushed isPush looksUp found isConn =>
          obtain ⟨user, signedIn, -⟩ := found_user searchable spares reached looksUp found
          rw [isConn]
          exact userOn_of_found next.keyed found signedIn
      | replayed isLogin named waits parsed isEntry =>
          subst isLogin
          rw [isEntry]
          exact userOn_login_step reached named
  | threw bad fault sent =>
      rw [sent_nil (sent.trans outbox)] at member
      cases member
  | crashed anonymous fault sent =>
      rcases sent with nothing | ⟨body, answered⟩
      · rw [sent_nil (nothing.trans outbox)] at member
        cases member
      · rw [sent_eq answered] at member
        rw [List.mem_singleton.mp member] at notification
        exact absurd notification (not_isNotification_reply notChat body)

/-- A frame of a chat handler goes to the sender or to a user that was found. -/
theorem userOn_of_chatFrame {user : User} {targets : List Int} {entry : Nat × Frame}
    (searchable : w.Searchable) (reached : w.dispatched label = some (type, s, msg))
    (signedIn : s.user = some user)
    (alike : Alike ((w.withEnv label.env).setSession s) (w.step pb label))
    (frame : ChatFrame s user targets ((w.withEnv label.env).setSession s) entry) :
    ((w.step pb label).userOn entry.1).isSome := by
  cases frame with
  | notice isConn =>
      rw [isConn]
      exact userOn_step reached (Option.isSome_of_eq_some signedIn)
  | copy isTarget notAgent recipient found isConn =>
      have graph : ((w.withEnv label.env).setSession s).store.graph = w.store.graph :=
        withEnv_graph label.env
      have real := real_of_recipient (graph ▸ searchable.sound.coherent)
        (graph ▸ searchable.noSentinel) notAgent recipient
      obtain ⟨other, isOther, conn, -⟩ := found_of_faces alike.faces found
      obtain ⟨member, signedInAs, -⟩ := user_of_found real isOther
      have keyed : (w.step pb label).Keyed := keyed_step pb w label searchable.keyed
      rw [isConn, ← conn]
      exact userOn_of_found keyed isOther signedInAs

theorem notified_of_chat (searchable : w.Searchable)
    (reached : w.dispatched label = some (type, s, msg))
    (isChat : type = .chat ∨ type = .multiChat) :
    ∀ entry ∈ w.sent pb label, IsNotification entry.2 →
      ((w.step pb label).userOn entry.1).isSome := by
  obtain ⟨holds, -⟩ := holds_of_dispatched reached
  have keyedBefore : (w.withEnv label.env).Keyed := searchable.keyed
  have keyed := keyed_setSession s keyedBefore
  have stepped := step_of_dispatched pb reached
  intro entry member _
  rcases isChat with rfl | rfl
  · cases signedIn : s.user with
    | none =>
        have silent : (w.step pb label).outbox = w.outbox := by
          rw [stepped]
          exact onChatResponse_anonymous signedIn
        rw [sent_nil silent] at member
        cases member
    | some user =>
        obtain ⟨alike, frames, outbox, all⟩ := onChatResponse_frames pb msg keyed holds
          signedIn
        have same : (w.step pb label) = ((w.withEnv label.env).setSession s).onChatResponse pb s
          msg := stepped
        rw [← same] at alike outbox
        rw [sent_eq outbox] at member
        exact userOn_of_chatFrame searchable reached signedIn alike (all entry member)
  · cases signedIn : s.user with
    | none =>
        have silent : (w.step pb label).outbox = w.outbox := by
          rw [stepped]
          exact onMultiChatResponse_anonymous signedIn
        rw [sent_nil silent] at member
        cases member
    | some user =>
        obtain ⟨alike, frames, outbox, all⟩ := onMultiChatResponse_frames pb msg keyed
          holds signedIn
        have same : (w.step pb label) = ((w.withEnv label.env).setSession s).onMultiChatResponse pb
          s msg := stepped
        rw [← same] at alike outbox
        rw [sent_eq outbox] at member
        obtain ⟨multi, -, frame⟩ := all entry member
        exact userOn_of_chatFrame searchable reached signedIn alike frame

end Notified

/-- The answer of the agent goes to a connection that is logged in. -/
theorem onAgentReply_sent (conn : Nat) (ok : Bool) (reply : Bytes) :
    ∃ frames, (w.onAgentReply conn ok reply).outbox = w.outbox ++ frames ∧
      ∀ entry ∈ frames, (w.userOn entry.1).isSome := by
  unfold onAgentReply
  split
  · dsimp only
    split
    · exact ⟨[], (List.append_nil _).symm, by simp⟩
    · rename_i s known
      split
      · exact ⟨[], (List.append_nil _).symm, by simp⟩
      · rename_i user signedIn
        refine ⟨[_], rfl, ?_⟩
        intro entry member
        have found : w.session? conn = some s := known
        have key : s.conn = conn := lookup_key found
        rw [List.mem_singleton.mp member, userOn, key, found]
        exact Option.isSome_of_eq_some signedIn
  · exact ⟨[], (List.append_nil _).symm, by simp⟩

/-- A frame that reaches no handler on a live server sends nothing. -/
theorem onMessageReceived_silent {conn : Nat} {frame : MessageContainer}
    (event : label.event = .frame conn frame) (unreached : w.dispatched label = none)
    (live : ¬ w.fault.isSome = true) :
    ((w.withEnv label.env).onMessageReceived pb conn frame).outbox = w.outbox := by
  have sameSession : (w.withEnv label.env).session? conn = w.session? conn := rfl
  unfold onMessageReceived
  rw [sameSession]
  cases known : w.session? conn with
  | none => rfl
  | some before =>
      cases command : MsgType.ofCmd frame.cmd with
      | none => rfl
      | some type => simp [dispatched, event, live, known, command] at unreached

theorem notified_of_not_dispatched (unreached : w.dispatched label = none) :
    ∀ entry ∈ w.sent pb label, ((w.step pb label).userOn entry.1).isSome := by
  have silent : (w.step pb label).outbox = w.outbox →
      ∀ entry ∈ w.sent pb label, ((w.step pb label).userOn entry.1).isSome := by
    intro same entry member
    rw [sent_nil same] at member
    cases member
  cases event : label.event with
  | connect conn =>
      refine silent ?_
      simp only [step, event]
      split
      · rfl
      · simp only [perform, onConnection]
        split <;> rfl
  | close conn =>
      refine silent ?_
      simp only [step, event]
      split <;> rfl
  | frame conn frame =>
      refine silent ?_
      simp only [step, event]
      split
      · rfl
      · rename_i live
        exact onMessageReceived_silent event unreached live
  | agentReply conn ok reply =>
      by_cases live : (w.withEnv label.env).fault.isSome = true
      · refine silent ?_
        simp only [step, event, if_pos live]
        rfl
      · have stepped : w.step pb label = (w.withEnv label.env).onAgentReply conn ok reply := by
          simp only [step, event, if_neg live, perform]
        obtain ⟨frames, outbox, all⟩ := onAgentReply_sent (w := w.withEnv label.env) conn ok reply
        rw [← stepped] at outbox
        intro entry member
        rw [sent_eq outbox] at member
        rw [stepped, userOn_of_sessions (onAgentReply_sessions conn ok reply)]
        exact all entry member
  | restart loads =>
      refine silent ?_
      simp only [step, event]
      rfl

/-! ### Runs -/

theorem findsOnlyUsers_iff (searchable : w.Searchable) :
    FindsOnlyUsers pb w label ↔ ¬ DeletesSentinel pb w label := by
  constructor
  · intro finds deletes
    exact not_findsOnlyUsers searchable deletes finds
  · intro spares
    refine ⟨fun type s msg id session reached looksUp found =>
      found_user searchable spares reached looksUp found, ?_⟩
    cases reached : w.dispatched label with
    | none =>
        intro entry member _
        exact notified_of_not_dispatched reached entry member
    | some target =>
        obtain ⟨type, s, msg⟩ := target
        by_cases isChat : type = .chat ∨ type = .multiChat
        · exact notified_of_chat searchable reached isChat
        · obtain ⟨notChat, notMultiChat⟩ := not_or.mp isChat
          exact notified_of_outcome searchable spares reached notChat notMultiChat

end World

/-- Lookups find only the user they ask for in every step of a run exactly when
no step of it deletes the friend -1 while a connection is not logged in. -/
theorem lookups_find_users_iff (pb : ImProto) (tables : Tables) (steps : List Step)
    (noSentinel : tables.NoSentinel) :
    AllSteps (World.step pb) (World.FindsOnlyUsers pb) (World.boot tables) steps ↔
      AllSteps (World.step pb) (fun w label => ¬ World.DeletesSentinel pb w label)
        (World.boot tables) steps :=
  allSteps_congr World.Searchable
    (fun _ _ searchable => World.findsOnlyUsers_iff searchable)
    (fun _ _ searchable _ => searchable.step) (World.searchable_boot noSentinel)

namespace LookupRuns

/-- Alice is logged in on connection 0, connection 1 is not logged in, and
Alice deletes the friend -1. -/
def deletesSentinel : List Step :=
  Sample.aliceLogsIn ++ [Client.connect 1,
    Client.send 0 .operateFriend (Client.operateFriend 2 (-1))]

theorem noSentinel_aliceAndBob : Sample.aliceAndBob.NoSentinel := by
  refine ⟨by decide, ?_⟩
  intro key row found
  cases found

end LookupRuns

open LookupRuns in
theorem lookups_find_users_bothLogIn :
    AllSteps (World.step wireProto) (World.FindsOnlyUsers wireProto) (.boot Sample.aliceAndBob)
      Sample.bothLogIn := by
  refine (lookups_find_users_iff wireProto Sample.aliceAndBob Sample.bothLogIn
    noSentinel_aliceAndBob).mpr ?_
  have spares : ∀ w label, (w.asks label .operateFriend wireProto.operateFriendReq).isNone = true →
      ¬ World.DeletesSentinel wireProto w label := by
    intro w label silent deletes
    obtain ⟨ask, user, asked, -⟩ := deletes
    rw [asked] at silent
    cases silent
  exact ⟨spares _ _ (by decide), spares _ _ (by decide), spares _ _ (by decide),
    spares _ _ (by decide), trivial⟩

open LookupRuns in
/-- The connection that is not logged in is told that Alice deleted it. -/
theorem anonymous_connection_notified :
    ¬ AllSteps (World.step wireProto) (World.FindsOnlyUsers wireProto) (.boot Sample.aliceAlone)
      deletesSentinel := by
  intro all
  have split : deletesSentinel = (Sample.aliceLogsIn ++ [Client.connect 1]) ++
      Client.send 0 .operateFriend (Client.operateFriend 2 (-1)) :: [] := rfl
  have notified := (all.admitted split).notified
    (1, ⟨cmdUserStatusChange, 0, 0, .statusChange 3 1 []⟩) (by decide) (Or.inl rfl)
  revert notified
  decide

end AimServer
