import AimServer.Store.Calls
import AimServer.Properties.Login

/-!
Contract: a user name resolves to the account that carries it.

Owns: the directory of ids and names on the cache side and the table side, the
condition on calls under which names stay distinct over every run of calls and
restarts, what distinct names mean for a login, and the call that breaks them.

Users and groups share one list that `GetUserInfoUsername` searches from the
front. Only `AddUser` looks for the name first; the list order is that of
insertion until a restart turns it into descending ids.
-/

namespace AimServer

open AimServer.Lib
open AimServer.PasswordUtil

/-- The login is answered with code 0 and the record of `user`, and the
session acts as `user` afterwards. -/
def LogsInAs (pb : ImProto) (w : World) (label : Step) (ask : Ask LoginReq) (user : User) : Prop :=
  (∃ isVip, (ask.session.conn, ⟨MsgType.login.cmd, ask.session.seq, 0,
      .login 0 "ok" (some (infoOf user)) isVip⟩) ∈ w.sent pb label) ∧
    ((w.step pb label).userOn ask.session.conn).map User.userid = some user.userid

/-- Names are distinct, each is found under its owner, and its owner's
password lets him in. `OnLoginResponse` asks for a name and a password that
are not empty. -/
structure NamesResolve (pb : ImProto) (s : Store) : Prop where
  distinct : (s.cachedUsers.map User.username).Nodup
  found : ∀ user ∈ s.cachedUsers, s.getUserInfoUsername user.username = some user
  login : ∀ user ∈ s.cachedUsers, ∀ w : World, w.store = s → ∀ label ask,
    w.asks label .login pb.loginReq = some ask → ask.req.username = user.username →
    ask.req.username ≠ [] → ask.req.password ≠ [] →
    verifyPassword ask.req.password user.password = true → LogsInAs pb w label ask user

/-- A new group takes a name nobody has, and a renamed account a name nobody
else has. -/
def TakesUnusedName (s : Store) : Store.StoreStep → Prop
  | .call ⟨.addGroup groupname ownerid, sql⟩ => s.Enrols ⟨.addGroup groupname ownerid, sql⟩ →
      cStr groupname ∉ s.cachedUsers.map User.username
  | .call ⟨.renameGroup groupid newname, sql⟩ => sql 0 = true →
      (s.getUserByID groupid).isSome → ∀ user ∈ s.cachedUsers, user.username = newname →
        user.userid = groupid
  | _ => True

/-! ### The directory -/

namespace Store

/-- Ids with their names. -/
def directory (users : List User) : List (Int × Bytes) :=
  users.map fun user => (user.userid, user.username)

/-- The cache and the tables have the same directory, and its names are
distinct. -/
structure Listed (s : Store) : Prop where
  same : (directory s.records).Perm (directory s.rowRecords)
  names : (s.records.map User.username).Nodup

theorem map_records {α : Type} {view : User → α} (ignores : ∀ user, view (bare user) = view user)
    (s : Store) : s.records.map view = s.cachedUsers.map view := by
  simp [records, Function.comp_def, ignores]

theorem map_snd_directory (users : List User) :
    (directory users).map Prod.snd = users.map User.username := by
  simp [directory, Function.comp_def]

theorem map_fst_directory (users : List User) :
    (directory users).map Prod.fst = users.map User.userid := by
  simp [directory, Function.comp_def]

variable {s next : Store} {m : Mutation}

theorem Listed.ids (listed : s.Listed) : (s.records.map User.userid).Nodup := by
  have rows : (s.rowRecords.map User.userid).Nodup := by
    have distinct := s.db.tables.users.distinct
    simpa [rowRecords, loadedUser, Function.comp_def] using distinct
  rw [← map_fst_directory] at rows ⊢
  exact ((listed.same.map Prod.fst).nodup_iff).mpr rows

/-- Whoever passed the duplicate scan of `AddUser` has a new name. -/
theorem duplicateScan_unused {user : User} {users : List User}
    (passed : duplicateScan user users = none) : user.username ∉ users.map User.username := by
  induction users with
  | nil => simp
  | cons head tail inductionHypothesis =>
      unfold duplicateScan at passed
      split at passed
      · cases passed
      rename_i other
      split at passed
      · cases passed
      rw [List.map_cons, List.mem_cons, not_or]
      exact ⟨fun same => other same.symm, inductionHypothesis passed⟩

/-- A record under a new name joins both sides. -/
theorem Listed.append {new row : User} (listed : s.Listed) (sameId : row.userid = new.userid)
    (sameName : row.username = new.username)
    (unused : new.username ∉ s.cachedUsers.map User.username)
    (cached : next.records = s.records ++ [new])
    (loaded : next.rowRecords = s.rowRecords ++ [row]) : next.Listed := by
  refine ⟨?_, ?_⟩
  · have samePair : directory [row] = directory [new] := by simp [directory, sameId, sameName]
    have split : ∀ users : List User, ∀ last : User,
        directory (users ++ [last]) = directory users ++ directory [last] := by
      intro users last
      simp [directory]
    rw [cached, loaded, split, split, samePair]
    exact listed.same.append_right _
  · rw [cached, List.map_append, List.map_singleton, List.nodup_append']
    refine ⟨listed.names, by simp, ?_⟩
    intro name member isNew
    rw [map_records fun _ => rfl] at member
    rw [List.mem_singleton.mp isNew] at member
    exact unused member

/-- An edited record keeps the two sides the same. -/
theorem directory_modify {id : Int} {change : User → User} {name : Bytes} (users : List User)
    (keepsId : ∀ user, (change user).userid = user.userid)
    (renames : ∀ user, (change user).username = name) :
    directory (modify User.userid id change users) =
      modify Prod.fst id (fun entry => (entry.1, name)) (directory users) := by
  refine map_modify_of_carries (fun _ => rfl) ?_
  intro user
  simp [keepsId, renames]

/-- A record that gets a name no other has keeps the directory. -/
theorem Listed.rename {id : Int} {change : User → User} {newname : Bytes} (listed : s.Listed)
    (keepsId : ∀ user, (change user).userid = user.userid)
    (renames : ∀ user, (change user).username = newname)
    (unused : (s.getUserByID id).isSome → ∀ user ∈ s.cachedUsers, user.username = newname →
      user.userid = id)
    (cached : next.records = modify User.userid id change s.records)
    (loaded : next.rowRecords = modify User.userid id change s.rowRecords) : next.Listed := by
  refine ⟨?_, ?_⟩
  · rw [cached, loaded, directory_modify _ keepsId renames, directory_modify _ keepsId renames]
    exact listed.same.map _
  rw [cached]
  by_cases known : (s.getUserByID id).isSome
  · refine nodup_map_modify listed.ids listed.names renames ?_
    intro record member isNew
    obtain ⟨user, isCached, rfl⟩ := List.mem_map.mp member
    exact unused known user isCached isNew
  · have absent : id ∉ s.records.map User.userid := by
      rw [map_records fun _ => rfl]
      exact lookup_eq_none_iff.mp (Option.not_isSome_iff_eq_none.mp known)
    rw [modify_of_not_mem absent]
    exact listed.names

/-- Every call that takes no used name keeps the directory. -/
theorem Listed.mutate (listed : s.Listed) (unused : TakesUnusedName s (.call m)) :
    (s.mutate m).Listed := by
  have effect := mutate_records s m
  obtain ⟨call, sql⟩ := m
  cases effect with
  | kept idle cached loaded =>
      refine ⟨?_, ?_⟩
      · rw [cached, loaded]
        exact listed.same
      · rw [cached]
        exact listed.names
  | enrolled new row enrols named sameId sameName fresh birthday rowBirthday cached loaded =>
      refine listed.append sameId sameName ?_ cached loaded
      rcases named with ⟨salt, user, rfl, isName⟩ | ⟨groupname, ownerid, rfl, isName⟩
      · rw [isName]
        exact duplicateScan_unused enrols.1
      · rw [isName]
        exact unused enrols
  | edited idle keepsId keepsName cached loaded =>
      rename_i id change
      rcases keepsName with same | ⟨newname, rfl, granted, renames⟩
      · have sameDirectory : ∀ users : List User,
            directory (modify User.userid id change users) = directory users := by
          intro users
          refine map_modify ?_
          intro user
          rw [keepsId, same]
        refine ⟨?_, ?_⟩
        · rw [cached, loaded, sameDirectory, sameDirectory]
          exact listed.same
        · rw [cached, map_modify same]
          exact listed.names
      · exact listed.rename keepsId renames (unused granted) cached loaded

/-- The records of a loaded cache are those of its tables, in another order. -/
theorem records_init_perm (loads : LoadOutcome) (db : MySql) :
    (init loads db).records.Perm (init loads db).rowRecords := by
  have loaded : (init loads db).records = (db.tables.users.rows.insertionSort
      fun first second => second.userId ≤ first.userId).map loadedUser := by
    simp only [records, init, List.map_map]
    rfl
  rw [loaded]
  exact (List.perm_insertionSort _ _).map loadedUser

/-- A loaded cache has the directory of its tables. -/
theorem listed_init (loads : LoadOutcome) {db : MySql}
    (distinct : (db.tables.users.rows.map UserRow.username).Nodup) : (init loads db).Listed := by
  have perm := records_init_perm loads db
  refine ⟨perm.map _, ?_⟩
  rw [(perm.map User.username).nodup_iff]
  simpa [rowRecords, init, loadedUser, Function.comp_def] using distinct

/-- The names in the tables are distinct when those in the cache are. -/
theorem Listed.rowNames (listed : s.Listed) :
    (s.db.tables.users.rows.map UserRow.username).Nodup := by
  have names := listed.names
  rw [← map_snd_directory, ((listed.same.map Prod.snd).nodup_iff), map_snd_directory] at names
  simpa [rowRecords, loadedUser, Function.comp_def] using names

theorem Listed.takes {step : StoreStep} (listed : s.Listed) (unused : TakesUnusedName s step) :
    (s.takes step).Listed := by
  cases step with
  | call m => exact listed.mutate unused
  | restart loads => exact listed_init loads listed.rowNames

/-- With distinct names the first record of a name is the only one. -/
theorem Listed.getUserInfoUsername {user : User} (listed : s.Listed)
    (member : user ∈ s.cachedUsers) : s.getUserInfoUsername user.username = some user := by
  have names := listed.names
  rw [map_records fun _ => rfl] at names
  exact lookup_of_mem names member

end Store

/-! ### Logging in -/

/-- A login with the name a record is found under and with its password. -/
theorem logsInAs_of_found {pb : ImProto} {w : World} {label : Step} {ask : Ask LoginReq}
    {user : User} (asked : w.asks label .login pb.loginReq = some ask)
    (username : ask.req.username ≠ []) (password : ask.req.password ≠ [])
    (found : w.store.getUserInfoUsername ask.req.username = some user)
    (verified : verifyPassword ask.req.password user.password = true) :
    LogsInAs pb w label ask user := by
  obtain ⟨reached, parsed⟩ := World.dispatched_of_asks asked
  have step := World.step_of_dispatched pb reached
  have completed := onLoginResponse_verified (w := (w.withEnv label.env).setSession ask.session)
    (s := ask.session) parsed username password found verified
  refine ⟨?_, ?_⟩
  · obtain ⟨vip, frames, outbox, -⟩ := completeLogin_outbox pb
      { ask.session with user := some user } user
      (((w.withEnv label.env).setSession ask.session).setSession
        { ask.session with user := some user })
    rw [← completed] at outbox
    rw [World.sent_eq (by rw [step]; exact outbox)]
    exact ⟨vip, List.mem_cons_self⟩
  · have holds := (World.holds_of_dispatched reached).1
    have becomes := World.userOn_namedLogin holds parsed username password found ask.session.conn
    rw [step]
    change ((World.onLoginResponse pb ask.session ask.msg _).userOn ask.session.conn).map _ = _
    rw [becomes, if_pos rfl, verified]
    rfl

/-- As long as groups take unused names, every name resolves to its owner. -/
theorem names_resolve (pb : ImProto) (tables : Tables) (steps : List Store.StoreStep)
    (distinct : (tables.users.rows.map UserRow.username).Nodup)
    (unused : AllSteps Store.takes TakesUnusedName
      (Store.init .allOk ⟨tables, fun _ => true, 0⟩) steps) :
    ∀ past rest, steps = past ++ rest →
      NamesResolve pb (run Store.takes (Store.init .allOk ⟨tables, fun _ => true, 0⟩) past) := by
  intro past rest split
  rw [split, allSteps_append] at unused
  have listed := run_invariant Store.Listed (fun _ _ => Store.Listed.takes)
    (Store.listed_init .allOk distinct) unused.1
  refine ⟨?_, ?_, ?_⟩
  · have names := listed.names
    rw [Store.map_records fun _ => rfl] at names
    exact names
  · intro user member
    exact listed.getUserInfoUsername member
  · intro user member w isStore label ask asked isName username password verified
    refine logsInAs_of_found asked username password ?_ verified
    rw [isStore, isName]
    exact listed.getUserInfoUsername member

namespace NameRuns

/-- A group is created under a name, and the server restarts. -/
def steps (groupname : Bytes) : List Store.StoreStep :=
  [.call ⟨.addGroup groupname 1, fun _ => true⟩, .restart .allOk]

end NameRuns

theorem names_resolve_club :
    NamesResolve wireProto (run Store.takes
      (Store.init .allOk ⟨Sample.aliceAlone, fun _ => true, 0⟩) (NameRuns.steps (str "club"))) :=
  names_resolve wireProto Sample.aliceAlone (NameRuns.steps (str "club")) (by decide)
    ⟨fun _ => by decide, trivial, trivial⟩ (NameRuns.steps (str "club")) [] (by simp)

/-- A group named like a user hides the user after a restart. -/
theorem group_takes_user_name :
    ((run Store.takes (Store.init .allOk ⟨Sample.aliceAlone, fun _ => true, 0⟩)
        (NameRuns.steps (str "alice"))).getUserInfoUsername (str "alice")).map User.userid =
          some 268435456 ∧
      ¬ NamesResolve wireProto (run Store.takes
        (Store.init .allOk ⟨Sample.aliceAlone, fun _ => true, 0⟩)
        (NameRuns.steps (str "alice"))) := by
  refine ⟨by decide, ?_⟩
  intro resolves
  exact absurd resolves.distinct (by decide)

end AimServer
