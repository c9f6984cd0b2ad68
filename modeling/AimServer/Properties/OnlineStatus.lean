import AimServer.Properties.Login

/-!
Contract: the cached online status and the live sessions.

Owns: what a run of connections, accepted logins and disconnections does to
both, the condition under which they agree in every state, and the run in
which they do not.

`OnLoginResponse` sets the status of the account it lets in. Neither `OnClose`
nor a login that takes the session over for another account sets the status of
the account that leaves, so it stays 1 when that session was its last.
-/

namespace AimServer

open AimServer.Lib
open AimServer.PasswordUtil

namespace World

/-- The status the cache holds for an account. -/
def cachedStatus (userid : Int) (w : World) : Option Int :=
  (w.store.getUserByID userid).map User.status

/-- Some live session is logged in as `userid`. -/
def OnlineAs (userid : Int) (w : World) : Prop :=
  ∃ s ∈ w.sessions, s.user.map User.userid = some userid

/-- Some live session of another connection is logged in as `userid`. -/
def OnlineElsewhere (conn : Nat) (userid : Int) (w : World) : Prop :=
  ∃ s ∈ w.sessions, s.conn ≠ conn ∧ s.user.map User.userid = some userid

/-- Status 1 and a session mean the same for every account. -/
def Truthful (w : World) : Prop :=
  ∀ userid, w.cachedStatus userid = some 1 ↔ w.OnlineAs userid

/-- The connection and the account of a login that the server accepts. -/
def loginOn (pb : ImProto) (w : World) (label : Step) : Option (Nat × User) :=
  match w.asks label .login pb.loginReq with
  | none => none
  | some ask =>
      if ask.req.username = [] ∨ ask.req.password = [] then none
      else
        match w.store.getUserInfoUsername ask.req.username with
        | none => none
        | some found =>
            if verifyPassword ask.req.password found.password then some (ask.session.conn, found)
            else none

/-- The step opens or closes a connection or is an accepted login. -/
def PresenceStep (pb : ImProto) (w : World) (label : Step) : Prop :=
  match label.event with
  | .connect _ => True
  | .close _ => True
  | .frame _ _ => (w.loginOn pb label).isSome
  | _ => False

/-- The step takes no account's last session away, neither by closing it nor by
a login for another account on it. -/
def KeepsLastSession (pb : ImProto) (w : World) (label : Step) : Prop :=
  match label.event with
  | .close conn =>
      ∀ s ∈ w.sessions, s.conn = conn → ∀ user ∈ s.user, w.OnlineElsewhere conn user.userid
  | .frame _ _ =>
      ∀ login ∈ w.loginOn pb label, ∀ s ∈ w.sessions, s.conn = login.1 → ∀ user ∈ s.user,
        user.userid ≠ login.2.userid → w.OnlineElsewhere login.1 user.userid
  | _ => True

instance (conn : Nat) (userid : Int) (w : World) : Decidable (w.OnlineElsewhere conn userid) :=
  inferInstanceAs (Decidable (∃ s ∈ w.sessions, _))

instance (userid : Int) (w : World) : Decidable (w.OnlineAs userid) :=
  inferInstanceAs (Decidable (∃ s ∈ w.sessions, _))

instance (pb : ImProto) (w : World) (label : Step) : Decidable (w.PresenceStep pb label) :=
  match label with
  | ⟨.connect _, _⟩ => isTrue trivial
  | ⟨.close _, _⟩ => isTrue trivial
  | ⟨.frame conn msg, env⟩ =>
      inferInstanceAs (Decidable ((w.loginOn pb ⟨.frame conn msg, env⟩).isSome = true))
  | ⟨.agentReply _ _ _, _⟩ => isFalse id
  | ⟨.restart _, _⟩ => isFalse id

instance (pb : ImProto) (w : World) (label : Step) : Decidable (w.KeepsLastSession pb label) :=
  match label with
  | ⟨.connect _, _⟩ => isTrue trivial
  | ⟨.close conn, _⟩ =>
      inferInstanceAs (Decidable (∀ s ∈ w.sessions, s.conn = conn → ∀ user ∈ s.user, _))
  | ⟨.frame conn msg, env⟩ =>
      inferInstanceAs (Decidable (∀ login ∈ w.loginOn pb ⟨.frame conn msg, env⟩,
        ∀ s ∈ w.sessions, s.conn = login.1 → ∀ user ∈ s.user, _))
  | ⟨.agentReply _ _ _, _⟩ => isTrue trivial
  | ⟨.restart _, _⟩ => isTrue trivial

variable {pb : ImProto} {w next : World} {label : Step} {conn : Nat} {found : User}

theorem onlineElsewhere_onlineAs {userid : Int} (elsewhere : w.OnlineElsewhere conn userid) :
    w.OnlineAs userid := by
  obtain ⟨s, live, -, isUser⟩ := elsewhere
  exact ⟨s, live, isUser⟩

/-! ### Opening and closing -/

theorem onConnection_onlineAs (userid : Int) :
    (w.onConnection conn).OnlineAs userid ↔ w.OnlineAs userid := by
  unfold onConnection
  split
  · exact Iff.rfl
  · simp [OnlineAs, List.mem_orderedInsert, ClientSession.fresh]

theorem onClose_onlineAs (userid : Int) :
    (w.onClose conn).OnlineAs userid ↔ w.OnlineElsewhere conn userid := by
  simp [OnlineAs, OnlineElsewhere, onClose, and_assoc]

/-! ### Logging in -/

theorem mem_setSession {s t : ClientSession} :
    t ∈ (w.setSession s).sessions ↔
      (t ∈ w.sessions ∧ t.conn ≠ s.conn) ∨
        (t = s ∧ ∃ before ∈ w.sessions, before.conn = s.conn) := by
  simp only [setSession, Lib.modify, List.mem_map]
  constructor
  · rintro ⟨before, live, rfl⟩
    split
    · rename_i same
      exact Or.inr ⟨rfl, before, live, same⟩
    · rename_i different
      exact Or.inl ⟨live, different⟩
  · rintro (⟨live, different⟩ | ⟨rfl, before, live, same⟩)
    · exact ⟨t, live, if_neg different⟩
    · exact ⟨before, live, if_pos same⟩

/-- The session object of a connection is live again after it was written back. -/
theorem mem_setSession_self {s before : ClientSession} (known : before ∈ w.sessions)
    (same : before.conn = s.conn) : s ∈ (w.setSession s).sessions :=
  mem_setSession.mpr (Or.inr ⟨rfl, before, known, same⟩)

/-- Writing back a session object makes its connection stand for its account. -/
theorem setSession_onlineElsewhere {s : ClientSession} (userid : Int) :
    (w.setSession s).OnlineElsewhere s.conn userid ↔ w.OnlineElsewhere s.conn userid := by
  unfold OnlineElsewhere
  constructor
  · rintro ⟨t, live, different, isUser⟩
    rcases mem_setSession.mp live with ⟨before, -⟩ | ⟨rfl, -⟩
    · exact ⟨t, before, different, isUser⟩
    · exact absurd rfl different
  · rintro ⟨t, live, different, isUser⟩
    exact ⟨t, mem_setSession.mpr (Or.inl ⟨live, different⟩), different, isUser⟩

theorem setSession_onlineAs {s before : ClientSession} (known : before ∈ w.sessions)
    (same : before.conn = s.conn) (userid : Int) :
    (w.setSession s).OnlineAs userid ↔
      s.user.map User.userid = some userid ∨ w.OnlineElsewhere s.conn userid := by
  constructor
  · rintro ⟨t, live, isUser⟩
    rcases mem_setSession.mp live with ⟨stays, different⟩ | ⟨rfl, -⟩
    · exact Or.inr ⟨t, stays, different, isUser⟩
    · exact Or.inl isUser
  · rintro (isUser | ⟨t, live, different, isUser⟩)
    · exact ⟨s, mem_setSession_self known same, isUser⟩
    · exact ⟨t, mem_setSession.mpr (Or.inl ⟨live, different⟩), isUser⟩

theorem completeLogin_onlineAs {s before : ClientSession} (known : before ∈ w.sessions)
    (same : before.conn = s.conn) (userid : Int) :
    (w.completeLogin pb s found).OnlineAs userid ↔
      userid = found.userid ∨ w.OnlineElsewhere s.conn userid := by
  have written := setSession_onlineAs (s := { s with user := some { found with status := 1 } })
    known same userid
  unfold OnlineAs at written ⊢
  rw [completeLogin_sessions, written]
  simp [eq_comm]

theorem fetchAndDeleteOfflineMsg_cachedUsers (kind : OfflineKind) (userid : Int) (store : Store) :
    (store.fetchAndDeleteOfflineMsg kind userid).2.cachedUsers = store.cachedUsers := by
  refine Store.fetchAndDeleteOfflineMsg_relates
    (fun before after => after.cachedUsers = before.cachedUsers) ?_ ?_ ?_ _
  · intro s middle next first second
    exact second.trans first
  · intro s
    rfl
  · intro s
    rfl

theorem completeLogin_cachedUsers (pb : ImProto) (s : ClientSession) (found : User) (w : World) :
    (w.completeLogin pb s found).store.cachedUsers =
      (w.store.setUserStatus found.userid 1).2.cachedUsers := by
  have fetched : (((w.store.setUserStatus found.userid 1).2.getNotifyMsgCache
      found.userid).2.getChatMsgCache found.userid).2.cachedUsers =
        (w.store.setUserStatus found.userid 1).2.cachedUsers := by
    unfold Store.getChatMsgCache Store.getNotifyMsgCache
    rw [fetchAndDeleteOfflineMsg_cachedUsers, fetchAndDeleteOfflineMsg_cachedUsers]
  unfold completeLogin
  cases w.env.grpc <;> exact fetched

theorem setUserStatus_getUserByID {store : Store} (registered : found ∈ store.cachedUsers)
    (userid : Int) :
    ((store.setUserStatus found.userid 1).2.getUserByID userid).map User.status =
      if userid = found.userid then some 1 else (store.getUserByID userid).map User.status := by
  have known : (store.getUserByID found.userid).isSome := by
    rw [Store.getUserByID, lookup_isSome_iff]
    exact List.mem_map_of_mem registered
  obtain ⟨cached, isCached⟩ := Option.isSome_iff_exists.mp known
  have written : (store.setUserStatus found.userid 1).2 =
      store.modifyUser found.userid ({ · with status := 1 }) := by
    simp only [Store.setUserStatus, isCached]
  have keeps : ∀ user : User, ({ user with status := 1 } : User).userid = user.userid :=
    fun _ => rfl
  rw [written, Store.getUserByID_modifyUser _ keeps]
  split
  · rename_i same
    rw [same, isCached]
    rfl
  · rfl

/-- What an accepted login does to the sessions and to the cache. -/
structure LogsIn (conn : Nat) (found : User) (w next : World) : Prop where
  live : next.fault = none
  online : ∀ userid, next.OnlineAs userid ↔
    userid = found.userid ∨ w.OnlineElsewhere conn userid
  status : ∀ userid, next.cachedStatus userid =
    if userid = found.userid then some 1 else w.cachedStatus userid

theorem logsIn_completeLogin (pb : ImProto) {s before : ClientSession} (running : w.fault = none)
    (known : before ∈ w.sessions) (same : before.conn = s.conn)
    (registered : found ∈ w.store.cachedUsers) :
    LogsIn s.conn found w (w.completeLogin pb s found) where
  live := by rw [completeLogin_fault, running]
  online := completeLogin_onlineAs known same
  status := by
    intro userid
    have online := setUserStatus_getUserByID registered userid
    unfold cachedStatus
    unfold Store.getUserByID at online ⊢
    rw [completeLogin_cachedUsers, online]

/-- What was written to the session before the login counts for nothing. -/
theorem LogsIn.of_setSession {s : ClientSession}
    (logs : LogsIn s.conn found (w.setSession s) next) : LogsIn s.conn found w next where
  live := logs.live
  online := by
    intro userid
    rw [logs.online userid, setSession_onlineElsewhere]
  status := logs.status

theorem logsIn_onLoginResponse {s before : ClientSession} {msg : MessageContainer} {req : LoginReq}
    (running : w.fault = none) (known : before ∈ w.sessions) (same : before.conn = s.conn)
    (parsed : pb.loginReq msg.payload = some req) (username : req.username ≠ [])
    (password : req.password ≠ [])
    (registered : w.store.getUserInfoUsername req.username = some found)
    (verified : verifyPassword req.password found.password = true) :
    LogsIn s.conn found w (w.onLoginResponse pb s msg) := by
  have written : { s with user := some found } ∈
      (w.setSession { s with user := some found }).sessions := mem_setSession_self known same
  have isCached : found ∈ w.store.cachedUsers := List.mem_of_find?_eq_some registered
  have logs := logsIn_completeLogin pb (w := w.setSession { s with user := some found }) running
    written rfl isCached
  rw [onLoginResponse_verified parsed username password registered verified]
  exact logs.of_setSession

/-- An accepted login is a frame on its connection. -/
theorem logsIn_of_loginOn (login : w.loginOn pb label = some (conn, found)) :
    (∃ msg, label.event = .frame conn msg) ∧ LogsIn conn found w (w.step pb label) := by
  unfold loginOn at login
  split at login
  · cases login
  rename_i ask asked
  split at login
  · cases login
  rename_i filled
  obtain ⟨username, password⟩ := not_or.mp filled
  split at login
  · cases login
  rename_i account registered
  split at login
  · rename_i verified
    cases login
    obtain ⟨reached, parsed⟩ := dispatched_of_asks asked
    obtain ⟨live, event, command, before, isSession, same⟩ := dispatched_session reached
    have known : before ∈ w.sessions := mem_of_lookup isSession
    have sameConn : before.conn = ask.session.conn := lookup_key isSession
    have written : ask.session ∈ ((w.withEnv label.env).setSession ask.session).sessions :=
      mem_setSession_self known sameConn
    have logs := logsIn_onLoginResponse (w := (w.withEnv label.env).setSession ask.session) live
      written rfl parsed username password registered verified
    rw [step_of_dispatched pb reached]
    exact ⟨⟨ask.msg, event⟩, logs.live, logs.of_setSession.online, logs.status⟩
  · cases login

/-! ### One step -/

/-- What a step of such a run does to the sessions and to the cache. -/
inductive PresenceEffect (pb : ImProto) (w : World) (label : Step) (next : World) : Prop
  | opened (live : next.fault = none) (admitted : w.KeepsLastSession pb label)
      (online : ∀ userid, next.OnlineAs userid ↔ w.OnlineAs userid)
      (status : ∀ userid, next.cachedStatus userid = w.cachedStatus userid)
  | closed (conn : Nat) (live : next.fault = none) (isClose : label.event = .close conn)
      (online : ∀ userid, next.OnlineAs userid ↔ w.OnlineElsewhere conn userid)
      (status : ∀ userid, next.cachedStatus userid = w.cachedStatus userid)
  | loggedIn (conn : Nat) (found : User) (msg : MessageContainer)
      (isFrame : label.event = .frame conn msg) (login : w.loginOn pb label = some (conn, found))
      (logs : LogsIn conn found w next)

theorem step_presence (running : w.fault = none) (presence : w.PresenceStep pb label) :
    PresenceEffect pb w label (w.step pb label) := by
  have live : (w.withEnv label.env).fault.isSome = false := by
    simp [withEnv, running]
  cases event : label.event with
  | connect conn =>
      have stepped : w.step pb label = (w.withEnv label.env).onConnection conn := by
        simp only [step, event, live, perform]
        rfl
      have admitted : w.KeepsLastSession pb label := by
        unfold KeepsLastSession
        rw [event]
        trivial
      have kept : ∀ opened : World, (opened.onConnection conn).store = opened.store ∧
          (opened.onConnection conn).fault = opened.fault := by
        intro opened
        unfold onConnection
        split
        · exact ⟨rfl, rfl⟩
        · exact ⟨rfl, rfl⟩
      rw [stepped]
      refine .opened ?_ admitted onConnection_onlineAs ?_
      · rw [(kept _).2]
        exact running
      · intro userid
        unfold cachedStatus
        rw [(kept _).1]
        rfl
  | close conn =>
      have stepped : w.step pb label = (w.withEnv label.env).onClose conn := by
        simp only [step, event, live, perform]
        rfl
      rw [stepped]
      exact .closed conn running event onClose_onlineAs fun _ => rfl
  | frame conn msg =>
      unfold PresenceStep at presence
      rw [event] at presence
      obtain ⟨⟨onConn, found⟩, login⟩ := Option.isSome_iff_exists.mp presence
      obtain ⟨⟨sent, isFrame⟩, logs⟩ := logsIn_of_loginOn login
      exact .loggedIn onConn found sent isFrame login logs
  | agentReply conn ok reply =>
      unfold PresenceStep at presence
      rw [event] at presence
      exact presence.elim
  | restart loads =>
      unfold PresenceStep at presence
      rw [event] at presence
      exact presence.elim

/-- Where the status was truthful it stays so exactly when no account loses its
last session. -/
theorem truthful_step_iff (running : w.fault = none) (presence : w.PresenceStep pb label)
    (truthful : w.Truthful) : (w.step pb label).Truthful ↔ w.KeepsLastSession pb label := by
  cases step_presence running presence with
  | opened live admitted online status =>
      refine iff_of_true ?_ admitted
      intro userid
      rw [status, online]
      exact truthful userid
  | closed conn live isClose online status =>
      unfold Truthful KeepsLastSession
      rw [isClose]
      constructor
      · intro after s isLive same user isUser
        rw [← online, ← after, status, truthful]
        exact ⟨s, isLive, by rw [isUser]; rfl⟩
      · intro keeps userid
        rw [status, online, truthful]
        refine ⟨?_, onlineElsewhere_onlineAs⟩
        rintro ⟨s, isLive, isUser⟩
        obtain ⟨user, signedIn, rfl⟩ := Option.map_eq_some_iff.mp isUser
        by_cases same : s.conn = conn
        · exact keeps s isLive same user signedIn
        · exact ⟨s, isLive, same, isUser⟩
  | loggedIn conn found msg isFrame login logs =>
      unfold Truthful KeepsLastSession
      rw [isFrame]
      constructor
      · intro after accepted isLogin s isLive same user isUser other
        cases login.symm.trans isLogin
        have now := after user.userid
        rw [logs.status, logs.online, if_neg other, truthful] at now
        exact (now.mp ⟨s, isLive, by rw [isUser]; rfl⟩).resolve_left other
      · intro keeps userid
        rw [logs.status, logs.online]
        by_cases isFound : userid = found.userid
        · simp [isFound]
        · rw [if_neg isFound, truthful, or_iff_right isFound]
          refine ⟨?_, onlineElsewhere_onlineAs⟩
          rintro ⟨s, isLive, isUser⟩
          obtain ⟨user, signedIn, rfl⟩ := Option.map_eq_some_iff.mp isUser
          by_cases same : s.conn = conn
          · exact keeps _ login s isLive same user signedIn isFound
          · exact ⟨s, isLive, same, isUser⟩

theorem step_live (running : w.fault = none) (presence : w.PresenceStep pb label) :
    (w.step pb label).fault = none := by
  cases step_presence running presence with
  | opened live => exact live
  | closed _ live => exact live
  | loggedIn _ _ _ _ _ logs => exact logs.live

theorem boot_truthful (tables : Tables) : (boot tables).Truthful := by
  intro userid
  have offline : (boot tables).cachedStatus userid ≠ some 1 := by
    unfold cachedStatus boot
    rw [Store.getUserByID_init]
    cases lookup UserRow.userId userid tables.users.rows with
    | none => simp
    | some row => simp [Store.initUser, Store.loadedUser, User.blank]
  refine iff_of_false offline ?_
  rintro ⟨s, live, -⟩
  cases live

end World

/-- In a run of connections, accepted logins and disconnections the status is
truthful in every state exactly when no step takes an account's last session
away. -/
theorem status_truthful_iff (pb : ImProto) (tables : Tables) (steps : List Step)
    (presence : AllSteps (World.step pb) (World.PresenceStep pb) (World.boot tables) steps) :
    (∀ past rest, steps = past ++ rest →
        (World.runFrom pb (World.boot tables) past).Truthful) ↔
      AllSteps (World.step pb) (World.KeepsLastSession pb) (World.boot tables) steps := by
  refine always_iff_allSteps_within World.Truthful (fun w => w.fault = none) ?_ ?_
    (World.boot_truthful tables) rfl presence
  · intro w label running isPresence
    exact World.step_live running isPresence
  · intro w label running isPresence truthful
    exact World.truthful_step_iff running isPresence truthful

namespace PresenceRuns

/-- Alice logs in on two connections and closes the first. -/
def aliceTwice : List Step :=
  Sample.aliceLogsIn ++
    [Client.connect 1, Client.send 1 .login (Client.login (str "alice") (str "secret")),
      ⟨.close 0, .plain⟩]

/-- Alice logs in and disconnects. -/
def aliceLeaves : List Step :=
  Sample.aliceLogsIn ++ [⟨.close 0, .plain⟩]

end PresenceRuns

theorem status_truthful_aliceTwice :
    (World.runFrom wireProto (World.boot Sample.aliceAlone)
        PresenceRuns.aliceTwice).Truthful ∧
      (World.runFrom wireProto (World.boot Sample.aliceAlone)
        PresenceRuns.aliceTwice).cachedStatus 1 = some 1 := by
  have truthful := (status_truthful_iff wireProto Sample.aliceAlone PresenceRuns.aliceTwice
    (by decide)).mpr (by decide)
  exact ⟨truthful PresenceRuns.aliceTwice [] (by simp), by decide⟩

/-- After the last session of Alice was closed her status is still 1. -/
theorem status_stays_online :
    ¬ ∀ (pb : ImProto) (tables : Tables) (steps : List Step),
      AllSteps (World.step pb) (World.PresenceStep pb) (World.boot tables) steps →
        (World.runFrom pb (World.boot tables) steps).Truthful := by
  intro always
  have truthful := always wireProto Sample.aliceAlone PresenceRuns.aliceLeaves (by decide)
  exact absurd ((truthful 1).mp (by decide)) (by decide)

end AimServer
