import AimServer.Session.Answers
import AimServer.Properties.Client

/-!
Contract: a session acts as an account only after a login with the password of
that account.

Owns: what an accepted login is, the condition on logins under which the
server meets it, and the run in which it does not.

`OnLoginResponse` lets `GetUserInfoUsername` write the record it finds into
`m_user` before `VerifyPassword` is called, so a login that names an account
and is then refused leaves the session with that account.
-/

namespace AimServer

open AimServer.Lib
open AimServer.PasswordUtil

/-- The step is a login on `conn` for the account `userid`, with a password
that `VerifyPassword` accepts against the stored one. -/
def AcceptedLogin (pb : ImProto) (conn : Nat) (userid : Int) (w : World) (label : Step) : Prop :=
  ∃ ask, w.asks label .login pb.loginReq = some ask ∧ ask.session.conn = conn ∧
    ∃ account ∈ w.store.cachedUsers, account.username = ask.req.username ∧
      account.userid = userid ∧ verifyPassword ask.req.password account.password = true

/-- In every state the account of a connection is the one of the accepted
login that set it, and a refused login leaves the account as it was. -/
structure Authenticated (pb : ImProto) (start : World) (steps : List Step) : Prop where
  setByLogin : ∀ conn user, (World.runFrom pb start steps).userOn conn = some user →
    Since (World.step pb) (AcceptedLogin pb conn user.userid)
      (fun w => (w.userOn conn).map User.userid = some user.userid) start steps
  refusalKeeps : ∀ past label rest, steps = past ++ label :: rest → ∀ s msg,
    (World.runFrom pb start past).dispatched label = some (.login, s, msg) →
    ∀ frame code text info isVip,
      (s.conn, frame) ∈ (World.runFrom pb start past).sent pb label →
      frame.body = .login code text info isVip → code ≠ 0 →
        (World.runFrom pb start (past ++ [label])).userOn s.conn =
          (World.runFrom pb start past).userOn s.conn

/-- A login that names a registered account carries its password. -/
def LoginVerified (pb : ImProto) (w : World) (label : Step) : Prop :=
  ∀ ask ∈ w.asks label .login pb.loginReq, ask.req.username ≠ [] → ask.req.password ≠ [] →
    ∀ account ∈ w.store.getUserInfoUsername ask.req.username,
      verifyPassword ask.req.password account.password = true

instance (pb : ImProto) (w : World) (label : Step) : Decidable (LoginVerified pb w label) :=
  inferInstanceAs (Decidable (∀ ask ∈ w.asks label .login pb.loginReq, _))

section Runs

variable {pb : ImProto} {w : World} {label : Step}

theorem acceptedLogin_of_named {ask : Ask LoginReq} {found : User}
    (verified : LoginVerified pb w label)
    (asked : w.asks label .login pb.loginReq = some ask)
    (username : ask.req.username ≠ []) (password : ask.req.password ≠ [])
    (registered : w.store.getUserInfoUsername ask.req.username = some found) :
    AcceptedLogin pb ask.session.conn found.userid w label := by
  refine ⟨ask, asked, rfl, found, List.mem_of_find?_eq_some registered, ?_, rfl, ?_⟩
  · simpa using List.find?_some registered
  · exact verified ask asked username password found registered

theorem replayFrames_body {conn : Nat} {blobs : List Bytes} {entry : Nat × Frame}
    (member : entry ∈ World.replayFrames pb conn blobs) :
    ∃ payload, entry.2.body = .raw payload := by
  obtain ⟨blob, -, replayed⟩ := List.mem_filterMap.mp member
  obtain ⟨container, -, rfl⟩ := Option.map_eq_some_iff.mp replayed
  exact ⟨container.payload, rfl⟩

theorem statusFrames_body {targets : List Int} {userid type : Int} {customface : Bytes}
    {entry : Nat × Frame}
    (member : entry ∈ targets.flatMap (w.statusFrames userid type customface)) :
    entry.2.body = .statusChange type userid customface := by
  obtain ⟨target, -, pushed⟩ := List.mem_flatMap.mp member
  unfold World.statusFrames at pushed
  split at pushed
  · cases pushed
  · rw [List.mem_singleton.mp pushed]

/-- The frames of an accepted login carry no other login response than its
own. -/
theorem completeLogin_outbox (pb : ImProto) (s : ClientSession) (found : User) (w : World) :
    ∃ isVip frames, (w.completeLogin pb s found).outbox =
        w.outbox ++ (s.conn, ⟨MsgType.login.cmd, s.seq, 0,
          .login 0 "ok" (some (infoOf found)) isVip⟩) :: frames ∧
      ∀ entry ∈ frames, ∀ code text info vip, entry.2.body ≠ .login code text info vip := by
  have others : ∀ (notifies chats : List Bytes) (friends : List Int) (at_ : World),
      ∀ entry ∈ World.replayFrames pb s.conn notifies ++ (World.replayFrames pb s.conn chats ++
        friends.flatMap (at_.statusFrames found.userid 1 [])),
      ∀ code text info vip, entry.2.body ≠ .login code text info vip := by
    intro notifies chats friends at_ entry member code text info vip
    rcases List.mem_append.mp member with notify | rest
    · obtain ⟨payload, body⟩ := replayFrames_body notify
      simp [body]
    rcases List.mem_append.mp rest with chat | status
    · obtain ⟨payload, body⟩ := replayFrames_body chat
      simp [body]
    · simp [statusFrames_body status]
  obtain ⟨isVip, online, -, outbox⟩ := World.completeLogin_frames pb s found w
  exact ⟨isVip, _, outbox, others _ _ _ online⟩

/-- A login with the password of the account it names. -/
theorem onLoginResponse_verified {s : ClientSession} {msg : MessageContainer} {req : LoginReq}
    {found : User} (parsed : pb.loginReq msg.payload = some req) (username : req.username ≠ [])
    (password : req.password ≠ [])
    (registered : w.store.getUserInfoUsername req.username = some found)
    (verified : verifyPassword req.password found.password = true) :
    w.onLoginResponse pb s msg =
      (w.setSession { s with user := some found }).completeLogin pb { s with user := some found }
        found := by
  unfold World.onLoginResponse
  simp only [parsed, username, password, or_self, if_false, registered, verified, if_true]

/-- A login that finds no account to name. -/
theorem onLoginResponse_unnamed {s : ClientSession} {msg : MessageContainer}
    (unnamed : ∀ req, pb.loginReq msg.payload = some req → req.username ≠ [] →
      req.password ≠ [] → w.store.getUserInfoUsername req.username = none) :
    (w.onLoginResponse pb s msg).sessions = w.sessions := by
  unfold World.onLoginResponse
  split
  · exact World.derefUser_sessions
  rename_i req parsed
  split
  · exact World.derefUser_sessions
  rename_i nonempty
  obtain ⟨username, password⟩ := not_or.mp nonempty
  rw [unnamed req parsed username password]
  exact World.derefUser_sessions

/-- Under the condition on logins a refused one named no account. -/
theorem refused_login_keeps {s : ClientSession} {msg : MessageContainer}
    (verified : LoginVerified pb w label)
    (reached : w.dispatched label = some (.login, s, msg)) {frame : Frame} {code : Int}
    {text : String} {info : Option UserInfo} {isVip : Bool}
    (sent : (s.conn, frame) ∈ w.sent pb label)
    (body : frame.body = .login code text info isVip) (refused : code ≠ 0) :
    (w.step pb label).userOn s.conn = w.userOn s.conn := by
  have step := World.step_of_dispatched pb reached
  rw [step, ← (World.holds_of_dispatched reached).2]
  refine World.userOn_of_sessions (onLoginResponse_unnamed ?_) _
  intro req parsed username password
  cases registered : w.store.getUserInfoUsername req.username with
  | none => exact registered
  | some found =>
      -- An account was named, so the login was accepted and its response has code 0.
      have accepted := verified _ (World.asks_of_dispatched reached parsed) username password found
        registered
      have completed := onLoginResponse_verified (w := (w.withEnv label.env).setSession s) (s := s)
        parsed username password registered accepted
      obtain ⟨vip, frames, outbox, others⟩ := completeLogin_outbox pb
        { s with user := some found } found
        (((w.withEnv label.env).setSession s).setSession { s with user := some found })
      rw [← completed] at outbox
      rw [World.sent_eq (by rw [step]; exact outbox)] at sent
      rcases List.mem_cons.mp sent with isFirst | isOther
      · cases isFirst
        cases body
        exact absurd rfl refused
      · exact absurd body (others _ isOther _ _ _ _)

/-- The session invariant of one step: whoever a connection acts as was let in
by an accepted login. -/
theorem authenticated_setByLogin {start : World} {steps : List Step}
    (anonymous : ∀ conn, start.userOn conn = none)
    (all : AllSteps (World.step pb) (LoginVerified pb) start steps) :
    ∀ conn user, (World.runFrom pb start steps).userOn conn = some user →
      Since (World.step pb) (AcceptedLogin pb conn user.userid)
        (fun w => (w.userOn conn).map User.userid = some user.userid) start steps := by
  refine run_history_invariant (fun steps w => ∀ conn user, w.userOn conn = some user →
    Since (World.step pb) (AcceptedLogin pb conn user.userid)
      (fun w => (w.userOn conn).map User.userid = some user.userid) start steps) ?_ ?_ all
  · intro conn user signedIn
    rw [anonymous conn] at signedIn
    cases signedIn
  · intro past label inductionHypothesis verified conn user signedIn
    have now : (((run (World.step pb) start past).step pb label).userOn conn).map User.userid =
        some user.userid := by rw [signedIn]; rfl
    have turns := World.step_turns pb (run (World.step pb) start past) label conn
    rw [signedIn] at turns
    generalize after : some user = account at turns
    cases turns with
    | gone => cases after
    | kept => exact (inductionHypothesis conn user after.symm).snoc now
    | edited notLogin before same =>
        cases after
        rw [same] at now ⊢
        exact (inductionHypothesis conn _ before).snoc now
    | named asked isConn username password registered same =>
        cases after
        have accepted := acceptedLogin_of_named verified asked username password registered
        rw [isConn, ← same] at accepted
        exact .last accepted now

end Runs

/-- As long as every login that names a registered account carries its
password, sessions are authenticated. -/
theorem sessions_authenticated (pb : ImProto) (tables : Tables) (steps : List Step)
    (verified : AllSteps (World.step pb) (LoginVerified pb) (World.boot tables) steps) :
    Authenticated pb (World.boot tables) steps where
  setByLogin := authenticated_setByLogin (fun _ => rfl) verified
  refusalKeeps := by
    intro past label rest split s msg reached frame code text info isVip sent body refused
    rw [World.runFrom_snoc]
    exact refused_login_keeps (verified.admitted split) reached sent body refused

namespace LoginRuns

/-- A connection that names Alice. -/
def steps (password : Bytes) : List Step :=
  [Client.connect 0, Client.send 0 .login (Client.login (str "alice") password)]

end LoginRuns

theorem sessions_authenticated_alice :
    (World.runFrom wireProto (World.boot Sample.aliceAlone)
        (LoginRuns.steps (str "secret"))).userOn 0 ≠ none ∧
      Authenticated wireProto (World.boot Sample.aliceAlone) (LoginRuns.steps (str "secret")) :=
  ⟨by decide, sessions_authenticated _ _ _ (by decide)⟩

/-- A refused login leaves its session with the account it named. -/
theorem wrong_password_sets_user :
    ¬ Authenticated wireProto (World.boot Sample.aliceAlone) (LoginRuns.steps (str "wrong")) := by
  intro authenticated
  have kept := authenticated.refusalKeeps [Client.connect 0]
    (Client.send 0 .login (Client.login (str "alice") (str "wrong"))) [] rfl ⟨0, 1, none, 0, []⟩
    (MsgType.login.container (Client.login (str "alice") (str "wrong"))) (by decide)
    ⟨MsgType.login.cmd, 1, 0,
      .login 104 "user is not exist or password is incorrect!" none false⟩
    104 _ none false (by decide) rfl (by decide)
  exact absurd kept (by decide)

end AimServer
