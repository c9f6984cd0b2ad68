import AimServer.Graph.Coherence
import AimServer.Session.Answers

/-!
Contract: which session `GetSessionByID` finds.

Owns: what a handler writes to the session map, that the map has one session
per connection in every state of every run, what a found session says about its
connection, and the two ways a lookup can go: by an id that is no sentinel it
finds a user, by -1 a connection that is not logged in.
-/

namespace AimServer

open AimServer.Lib

namespace World

variable {pb : ImProto} {s : ClientSession} {msg : MessageContainer} {w next : World}

/-! ### One session per connection -/

/-- The keys of the session map. -/
def conns (w : World) : List Nat :=
  w.sessions.map ClientSession.conn

/-- No connection has two sessions. -/
def Keyed (w : World) : Prop :=
  w.conns.Nodup

theorem conns_setSession (s : ClientSession) (w : World) : (w.setSession s).conns = w.conns := by
  simp only [conns, setSession, Lib.modify, List.map_map]
  refine List.map_congr_left ?_
  intro session _
  simp only [Function.comp_apply]
  split
  · rename_i same
    exact same.symm
  · rfl

theorem conns_of_setSession {s : ClientSession} (same : next.sessions = (w.setSession s).sessions) :
    next.conns = w.conns := by
  rw [conns, same]
  exact conns_setSession s w

/-! ### What a handler writes to the session map -/

/-- Nothing was written to the session map, or a version of `s` with the same
sequence number. -/
inductive Resaves (s : ClientSession) (w next : World) : Prop
  | kept (sessions : next.sessions = w.sessions)
  | saved {version : ClientSession} (sessions : next.sessions = (w.setSession version).sessions)
      (conn : version.conn = s.conn) (seq : version.seq = s.seq)

/-- The second of two versions is the one that stays. -/
theorem setSession_setSession {first second : ClientSession} (same : second.conn = first.conn)
    (w : World) :
    ((w.setSession first).setSession second).sessions = (w.setSession second).sessions := by
  simp only [setSession, Lib.modify, List.map_map]
  refine List.map_congr_left ?_
  intro session _
  simp only [Function.comp_apply]
  by_cases isConn : session.conn = first.conn
  · rw [if_pos isConn, if_pos same.symm, if_pos (isConn.trans same.symm)]
  · rw [if_neg isConn]

namespace Resaves

theorem trans {middle : World} (before : Resaves s w middle) (after : Resaves s middle next) :
    Resaves s w next := by
  cases after with
  | kept sessions =>
      cases before with
      | kept earlier => exact .kept (sessions.trans earlier)
      | saved earlier conn seq => exact .saved (sessions.trans earlier) conn seq
  | saved sessions conn seq =>
      cases before with
      | kept earlier =>
          refine .saved (sessions.trans ?_) conn seq
          simp only [setSession, earlier]
      | saved earlier firstConn firstSeq =>
          refine .saved (sessions.trans ?_) conn seq
          refine Eq.trans ?_ (setSession_setSession (conn.trans firstConn.symm) w)
          simp only [setSession, earlier]

theorem conns (resaves : Resaves s w next) : next.conns = w.conns := by
  cases resaves with
  | kept sessions => rw [World.conns, sessions, World.conns]
  | saved sessions _ _ => exact conns_of_setSession sessions

end Resaves

theorem onLoginResponse_resaves : Resaves s w (w.onLoginResponse pb s msg) := by
  unfold onLoginResponse
  split
  · exact .kept derefUser_sessions
  · rename_i req _
    split
    · exact .kept derefUser_sessions
    split
    · exact .kept derefUser_sessions
    · rename_i found _
      have named : Resaves s w (w.setSession { s with user := some found }) := .saved rfl rfl rfl
      dsimp only
      split
      · exact named.trans (.saved (completeLogin_sessions found) rfl rfl)
      · exact named.trans (.kept rfl)

theorem onUpdateUserInfoResponse_resaves : Resaves s w (w.onUpdateUserInfoResponse pb s msg) := by
  unfold onUpdateUserInfoResponse
  split
  · exact .kept rfl
  split
  · exact .kept rfl
  dsimp only
  split
  · exact .saved rfl rfl rfl
  · exact .kept rfl

theorem onAvatarUploadResponse_resaves : Resaves s w (w.onAvatarUploadResponse pb s msg) := by
  unfold onAvatarUploadResponse
  split
  · exact .kept rfl
  split
  · exact .kept rfl
  split
  · exact .kept rfl
  · exact .kept rfl
  split
  · refine .kept ?_
    unfold uploadGroupAvatar
    dsimp only
    repeat' split
    all_goals rfl
  · unfold uploadOwnAvatar
    dsimp only
    split
    · exact .saved rfl rfl rfl
    · exact .kept rfl

theorem onChatResponse_resaves : Resaves s w (w.onChatResponse pb s msg) :=
  .saved onChatResponse_sessions rfl rfl

theorem chatToEach_resaves (pb : ImProto) (content : Bytes) (targets : List Int)
    (s : ClientSession) (w : World) : Resaves s w (w.chatToEach pb s content targets) := by
  unfold chatToEach
  induction targets generalizing w with
  | nil => exact .kept rfl
  | cons target rest inductionHypothesis =>
      rw [List.foldl_cons]
      refine Resaves.trans ?_ (inductionHypothesis _)
      split
      · exact .kept rfl
      · exact onChatResponse_resaves

theorem onMultiChatResponse_resaves : Resaves s w (w.onMultiChatResponse pb s msg) := by
  have start : Resaves s w (w.setSession { s with targets := msg.targets }) := .saved rfl rfl rfl
  unfold onMultiChatResponse
  dsimp only
  split
  · exact start.trans (.kept derefUser_sessions)
  · rename_i multi _
    have chats : Resaves { s with targets := msg.targets }
        (w.setSession { s with targets := msg.targets })
        ((w.setSession { s with targets := msg.targets }).chatToEach pb
          { s with targets := msg.targets } multi.content multi.targets) :=
      chatToEach_resaves pb multi.content multi.targets _ _
    have sent : Resaves s w ((w.setSession { s with targets := msg.targets }).chatToEach pb
        { s with targets := msg.targets } multi.content multi.targets) := by
      refine start.trans ?_
      cases chats with
      | kept sessions => exact .kept sessions
      | saved sessions conn seq => exact .saved sessions conn seq
    split
    · exact sent
    · exact sent.trans (.kept derefUser_sessions)

/-- What any handler writes. -/
theorem handle_resaves (pb : ImProto) (type : MsgType) (s : ClientSession) (msg : MessageContainer)
    (w : World) : Resaves s w (w.handle pb type s msg) := by
  cases type with
  | login => exact onLoginResponse_resaves
  | updateUserInfo => exact onUpdateUserInfoResponse_resaves
  | avatarUpload => exact onAvatarUploadResponse_resaves
  | chat => exact onChatResponse_resaves
  | multiChat => exact onMultiChatResponse_resaves
  | _ => exact .kept (handle_sessions rfl)

theorem onMessageReceived_conns (conn : Nat) :
    (w.onMessageReceived pb conn msg).conns = w.conns := by
  unfold onMessageReceived
  split
  · rfl
  · dsimp only
    split
    · exact conns_setSession _ w
    · rw [(handle_resaves pb _ _ _ _).conns]
      exact conns_setSession _ w

theorem onConnection_keyed (conn : Nat) (keyed : w.Keyed) : (w.onConnection conn).Keyed := by
  unfold onConnection
  split
  · exact keyed
  · rename_i absent
    have new : conn ∉ w.conns := lookup_eq_none_iff.mp absent
    have inserted : (w.sessions.orderedInsert (fun first second => first.conn ≤ second.conn)
        (.fresh conn)).Perm (.fresh conn :: w.sessions) := List.perm_orderedInsert ..
    refine (inserted.map ClientSession.conn).nodup_iff.mpr ?_
    exact List.nodup_cons.mpr ⟨new, keyed⟩

theorem keyed_step (pb : ImProto) (w : World) (label : Step) (keyed : w.Keyed) :
    (w.step pb label).Keyed := by
  unfold step
  dsimp only
  split
  · exact List.nodup_nil
  split
  · exact keyed
  cases label.event with
  | connect conn => exact onConnection_keyed conn keyed
  | close conn => exact keyed.sublist (List.filter_sublist.map _)
  | frame conn msg =>
      have kept : ((w.withEnv label.env).onMessageReceived pb conn msg).conns = w.conns :=
        onMessageReceived_conns conn
      exact (congrArg List.Nodup kept).mpr keyed
  | agentReply conn ok reply =>
      have kept := congrArg (List.map ClientSession.conn)
        (onAgentReply_sessions (w := w.withEnv label.env) conn ok reply)
      exact (congrArg List.Nodup kept).mpr keyed
  | restart loads => exact List.nodup_nil

/-- The session map of every run has distinct keys. -/
theorem keyed_run (pb : ImProto) (tables : Tables) (steps : List Step) :
    (runFrom pb (boot tables) steps).Keyed :=
  run_keeps Keyed (keyed_step pb) List.nodup_nil

/-! ### What is found -/

theorem userID_eq_of_real {id : Int} (real : id ≠ -1) (same : s.userID = id) :
    ∃ user, s.user = some user ∧ user.userid = id := by
  unfold ClientSession.userID at same
  split at same
  · exact absurd same.symm real
  · rename_i user signedIn
    exact ⟨user, signedIn, same⟩

theorem mem_of_found {id : Int} (found : w.getSessionByID id = some s) :
    s ∈ w.sessions ∧ s.userID = id :=
  ⟨List.mem_of_find?_eq_some found, by simpa using List.find?_some found⟩

/-- An id other than the sentinel finds the session of that user. -/
theorem user_of_found {id : Int} (real : id ≠ -1) (found : w.getSessionByID id = some s) :
    ∃ user, s.user = some user ∧ user.userid = id :=
  userID_eq_of_real real (mem_of_found found).2

/-- A session of the map is the one of its connection. -/
theorem session?_of_mem (keyed : w.Keyed) (member : s ∈ w.sessions) :
    w.session? s.conn = some s :=
  lookup_of_mem keyed member

theorem userOn_of_mem (keyed : w.Keyed) (member : s ∈ w.sessions) :
    w.userOn s.conn = s.user := by
  rw [userOn, session?_of_mem keyed member]
  rfl

/-- The sentinel finds a connection that is not logged in, when there is one and
no user has that id. -/
theorem found_sentinel_iff (real : ∀ session ∈ w.sessions, ∀ user, session.user = some user →
    user.userid ≠ -1) :
    (∃ session, w.getSessionByID (-1) = some session) ↔
      ∃ session ∈ w.sessions, session.user = none := by
  constructor
  · intro found
    obtain ⟨session, found⟩ := found
    obtain ⟨member, sameId⟩ := mem_of_found found
    refine ⟨session, member, ?_⟩
    cases signedIn : session.user with
    | none => rfl
    | some user =>
        simp only [ClientSession.userID, signedIn] at sameId
        exact absurd sameId (real session member user signedIn)
  · intro anonymous
    obtain ⟨session, member, nobody⟩ := anonymous
    refine Option.isSome_iff_exists.mp ?_
    rw [getSessionByID, List.find?_isSome]
    exact ⟨session, member, by simp [ClientSession.userID, nobody]⟩

/-! ### Lookups while a handler runs -/

/-- What a lookup sees of the session map. -/
def faces (w : World) : List (Nat × Option User) :=
  w.sessions.map fun session => (session.conn, session.user)

theorem faces_of_sessions (same : next.sessions = w.sessions) : next.faces = w.faces := by
  simp [faces, same]

/-- Writing a session back with its user is not seen. -/
theorem faces_setSession {other : ClientSession} (keyed : w.Keyed) (holds : Holds s w)
    (conn : other.conn = s.conn) (user : other.user = s.user) :
    (w.setSession other).faces = w.faces := by
  obtain ⟨before, known, same⟩ := holds
  simp only [faces, setSession, Lib.modify, List.map_map]
  refine List.map_congr_left ?_
  intro session member
  simp only [Function.comp_apply]
  split
  · rename_i isConn
    have itself := session?_of_mem keyed member
    rw [isConn, conn, known] at itself
    rw [Option.some.inj itself] at same
    rw [isConn, user, same]
  · rfl

/-- Nor is the sequence number of a request. -/
theorem faces_of_dispatched {label : Step} {type : MsgType} (keyed : w.Keyed)
    (reached : w.dispatched label = some (type, s, msg)) :
    ((w.withEnv label.env).setSession s).faces = w.faces := by
  obtain ⟨-, -, -, before, found, isSession⟩ := dispatched_session reached
  have holds : Holds s (w.withEnv label.env) := ⟨before, found, by rw [isSession]⟩
  exact faces_setSession (w := w.withEnv label.env) keyed holds rfl rfl

theorem keyed_setSession (s : ClientSession) (keyed : w.Keyed) : (w.setSession s).Keyed := by
  rw [Keyed, conns_setSession]
  exact keyed

/-- A lookup by user sees no more than the faces. -/
theorem seen_of_faces (same : next.faces = w.faces) (id : Int) :
    (next.getSessionByID id).map (fun session => (session.conn, session.user)) =
      (w.getSessionByID id).map fun session => (session.conn, session.user) := by
  have seen : ∀ v : World, (v.getSessionByID id).map (fun session => (session.conn, session.user)) =
      v.faces.find? fun face =>
        decide ((ClientSession.mk face.1 0 face.2 0 []).userID = id) := by
    intro v
    rw [faces, List.find?_map]
    rfl
  rw [seen, seen, same]

/-- The session object found may be another version, with the same connection
and user. -/
theorem found_of_faces {id : Int} {session : ClientSession} (same : next.faces = w.faces)
    (found : w.getSessionByID id = some session) :
    ∃ other, next.getSessionByID id = some other ∧ other.conn = session.conn ∧
      other.user = session.user := by
  have sameFace := seen_of_faces same id
  rw [found, Option.map_some] at sameFace
  obtain ⟨other, isOther, face⟩ := Option.map_eq_some_iff.mp sameFace
  rw [Prod.mk.injEq] at face
  exact ⟨other, isOther, face.1, face.2⟩

/-- A user's connections are found under his id. -/
theorem found_of_userOn {conn : Nat} {user : User} (signedIn : w.userOn conn = some user) :
    (w.getSessionByID user.userid).isSome := by
  obtain ⟨session, known, isUser⟩ := Option.bind_eq_some_iff.mp signedIn
  rw [getSessionByID, List.find?_isSome]
  exact ⟨session, mem_of_lookup known, by simp [ClientSession.userID, isUser]⟩

end World

end AimServer
