import AimServer.Session.StoreCalls

/-!
Contract: which rows of `t_user` a step writes, and at whose request.

Owns: the rows before and after every call of `UserManager`, the writes each
handler can make with the guards it has passed by then, and the theorem that a
step writes the rows in these ways only.

Does not own: the other tables, and the records in the cache.
-/

namespace AimServer

open AimServer.Lib
open AimServer.PasswordUtil

namespace Store

/-- The rows of `t_user`. -/
def userRows (s : Store) : List UserRow :=
  s.db.tables.users.rows

section Statements

variable {s next : Store} {stmt : Stmt} {ok : Bool}

/-- An `UPDATE` of one row. -/
theorem execute_update_userRows {id : Int} {change : UserRow → UserRow}
    {keeps : ∀ row, (change row).userId = row.userId}
    (updates : ∀ t, stmt.apply t = some { t with users := t.users.update id change keeps })
    (executed : s.execute stmt = (ok, next)) :
    next.userRows = s.userRows ∨
      s.db.outcomes 0 = true ∧ next.userRows = modify UserRow.userId id change s.userRows := by
  rcases execute_cases stmt s with failed | ⟨granted, tables, applied, succeeded⟩
  · rw [failed] at executed
    cases executed
    exact Or.inl rfl
  · rw [succeeded] at executed
    cases executed
    rw [updates] at applied
    cases applied
    exact Or.inr ⟨granted, rfl⟩

/-- An `INSERT` of one row. -/
theorem execute_insert_userRows (row : UserRow)
    (inserts : ∀ t, stmt.apply t = (t.users.insert row).map fun users => { t with users })
    (executed : s.execute stmt = (ok, next)) :
    ok = false ∧ next.userRows = s.userRows ∨
      ok = true ∧ s.db.outcomes 0 = true ∧ row.userId ∉ s.userRows.map UserRow.userId ∧
        next.userRows = s.userRows ++ [row] := by
  rcases execute_cases stmt s with failed | ⟨granted, tables, applied, succeeded⟩
  · rw [failed] at executed
    cases executed
    exact Or.inl ⟨rfl, rfl⟩
  · rw [succeeded] at executed
    cases executed
    rw [inserts] at applied
    obtain ⟨users, inserted, rfl⟩ := Option.map_eq_some_iff.mp applied
    obtain ⟨fresh, rows⟩ := KeyedTable.insert_eq_some inserted
    exact Or.inr ⟨rfl, granted, fresh, rows⟩

end Statements

/-! ### Calls -/

/-- The row `AddUser` inserts. -/
def newUserRow (salt : Bytes) (user : User) (s : Store) : UserRow :=
  .inserted (s.baseUserID + 1) user.username user.nickname (hashPassword salt user.password)
    (some user.mail) 0

/-- The row `AddGroup` inserts. -/
def newGroupRow (groupname : Bytes) (ownerid : Int) (s : Store) : UserRow :=
  .inserted (s.baseGroupID + 1) (cStr groupname) (cStr groupname) [] none ownerid

theorem addUser_userRows (salt : Bytes) (user : User) (s : Store) :
    (s.addUser salt user).1 ≠ .ok ∧ (s.addUser salt user).2.userRows = s.userRows ∨
      (s.addUser salt user).1 = .ok ∧ duplicateScan user s.cachedUsers = none ∧
        s.db.outcomes 0 = true ∧
        (s.newUserRow salt user).userId ∉ s.userRows.map UserRow.userId ∧
        (s.addUser salt user).2.userRows = s.userRows ++ [s.newUserRow salt user] := by
  unfold addUser
  cases scanned : duplicateScan user s.cachedUsers with
  | some refused =>
      exact Or.inl ⟨fun isOk => duplicateScan_ne_ok user s.cachedUsers (scanned.trans
        (congrArg some isOk)), rfl⟩
  | none =>
      dsimp only
      cases executed : s.execute (.insertUser (s.baseUserID + 1) user.username user.nickname
          (hashPassword salt user.password) user.mail) with
      | mk ok next =>
          rcases execute_insert_userRows (s.newUserRow salt user) (fun _ => rfl) executed
            with ⟨rfl, same⟩ | ⟨rfl, granted, fresh, added⟩
          · exact Or.inl ⟨by simp, same⟩
          · exact Or.inr ⟨rfl, rfl, granted, fresh, added⟩

theorem addGroup_userRows (groupname : Bytes) (ownerid : Int) (s : Store) :
    (s.addGroup groupname ownerid).2.userRows = s.userRows ∨
      (s.newGroupRow groupname ownerid).userId ∉ s.userRows.map UserRow.userId ∧
        (s.addGroup groupname ownerid).2.userRows =
          s.userRows ++ [s.newGroupRow groupname ownerid] := by
  unfold addGroup
  dsimp only
  cases executed : execute (.insertGroup (s.baseGroupID + 1) (cStr groupname) (cStr groupname) []
      ownerid) { s with baseGroupID := s.baseGroupID + 1 } with
  | mk ok next =>
      rcases execute_insert_userRows (s.newGroupRow groupname ownerid) (fun _ => rfl)
        executed with ⟨rfl, same⟩ | ⟨rfl, -, fresh, added⟩
      · exact Or.inl same
      · exact Or.inr ⟨fresh, added⟩

theorem renameGroup_userRows (groupid : Int) (newname : Bytes) (s : Store) :
    (s.renameGroup groupid newname).2.userRows = s.userRows ∨
      (s.renameGroup groupid newname).2.userRows = modify UserRow.userId groupid
        ({ · with nickname := newname, username := newname }) s.userRows := by
  unfold renameGroup
  cases executed : s.execute (.renameUser groupid newname) with
  | mk ok next =>
      rcases execute_update_userRows (fun _ => rfl) executed with same | ⟨-, written⟩
      · left
        cases ok <;> exact same
      · right
        cases ok <;> exact written

theorem updateUserInfo_userRows (userid : Int) (newuserinfo : User) (s : Store) :
    (s.updateUserInfo userid newuserinfo).2.userRows = s.userRows ∨
      (s.updateUserInfo userid newuserinfo).2.userRows = modify UserRow.userId userid
        (·.withProfile (profileOf newuserinfo)) s.userRows := by
  unfold updateUserInfo
  cases executed : s.execute (.updateUserInfo userid (profileOf newuserinfo)) with
  | mk ok next =>
      rcases execute_update_userRows (fun _ => rfl) executed with same | ⟨-, written⟩
      · left
        cases ok <;> exact same
      · right
        cases ok <;> exact written

theorem modifyUserPassword_userRows (salt : Bytes) (userid : Int) (newpassword : Bytes)
    (s : Store) :
    (s.modifyUserPassword salt userid newpassword).2.userRows = s.userRows ∨
      (s.modifyUserPassword salt userid newpassword).2.userRows = modify UserRow.userId userid
        ({ · with password := hashPassword salt newpassword }) s.userRows := by
  unfold modifyUserPassword
  dsimp only
  cases executed : s.execute (.updatePassword userid (hashPassword salt newpassword)) with
  | mk ok next =>
      rcases execute_update_userRows (fun _ => rfl) executed with same | ⟨-, written⟩
      · left
        cases ok <;> exact same
      · right
        cases ok <;> exact written

end Store

/-! ### Statements of a call -/

/-- The statements a call can run besides its queries. -/
inductive StoreCall.Runs : StoreCall → Stmt → Prop
  | addUser {salt : Bytes} {user : User} (userId : Int) (username nickname password mail : Bytes) :
      Runs (.mutate (.addUser salt user)) (.insertUser userId username nickname password mail)
  | addGroup {groupname : Bytes} {ownerid : Int} (groupId : Int) (name : Bytes) :
      Runs (.mutate (.addGroup groupname ownerid)) (.insertGroup groupId name name [] ownerid)
  | renameGroup {groupid : Int} {newname : Bytes} :
      Runs (.mutate (.renameGroup groupid newname)) (.renameUser groupid newname)
  | updateUserInfo {userid : Int} {info : User} :
      Runs (.mutate (.updateUserInfo userid info)) (.updateUserInfo userid (Store.profileOf info))
  | modifyUserPassword {salt newpassword : Bytes} {userid : Int} (hashed : Bytes) :
      Runs (.mutate (.modifyUserPassword salt userid newpassword)) (.updatePassword userid hashed)
  | makeFriendRelationship {smallid greatid : Int} :
      Runs (.mutate (.makeFriendRelationship smallid greatid)) (.insertRelationship smallid greatid)
  | releaseFriendRelationship {smallid greatid : Int} :
      Runs (.mutate (.releaseFriendRelationship smallid greatid))
        (.deleteRelationship smallid greatid)
  | deleteFriendToUser {userid friendid : Int} (smallid greatid : Int) :
      Runs (.mutate (.deleteFriendToUser userid friendid)) (.deleteRelationship smallid greatid)
  | appoint {groupid userid : Int} {isAdmin : Bool} :
      Runs (.mutate (.setGroupAdmin groupid userid isAdmin)) (.insertGroupAdmin groupid userid)
  | dismiss {groupid userid : Int} {isAdmin : Bool} :
      Runs (.mutate (.setGroupAdmin groupid userid isAdmin)) (.deleteGroupAdmin groupid userid)
  | addFriendRequest {fromId toId reqType groupId : Int} {message : Bytes}
      (row : FriendRequestRow) :
      Runs (.addFriendRequest fromId toId reqType groupId message) (.insertFriendRequest row)
  | updateRequestStatus {reqId status : Int} :
      Runs (.updateRequestStatus reqId status) (.updateRequestStatus reqId status)
  | saveChatMsgToDb {senderid targetid : Int} {msg : ChatMsg} (row : ChatMsgRow) :
      Runs (.saveChatMsgToDb senderid targetid msg) (.insertChatMsg row)
  | addChatMsgCache {userid : Int} {cache : Bytes} (row : OfflineMsgRow) :
      Runs (.addChatMsgCache userid cache) (.insertOfflineMsg row)
  | fetchAndDeleteOfflineMsg {kind : OfflineKind} {userid : Int} :
      Runs (.fetchAndDeleteOfflineMsg kind userid) (.deleteOfflineMsg userid kind.code)

namespace Store

section Related

variable {related : MySql → MySql → Prop} {s next : Store} {ok : Bool}

theorem related_of_execute {stmt : Stmt} (runs : ∀ db : MySql, related db (db.execute stmt).2)
    (executed : s.execute stmt = (ok, next)) : related s.db next.db := by
  have isDb : (s.db.execute stmt).2 = next.db := congrArg (fun result => result.2.db) executed
  rw [← isDb]
  exact runs s.db

variable (refl : ∀ db, related db db)
  (trans : ∀ {db middle next}, related db middle → related middle next → related db next)
  (queries : ∀ db : MySql, related db db.advance)

include refl in
theorem makeFriendRelationship_relates {smallid greatid : Int}
    (links : ∀ db : MySql, related db (db.execute (.insertRelationship smallid greatid)).2)
    (s : Store) : related s.db (s.makeFriendRelationship smallid greatid).2.db := by
  unfold makeFriendRelationship
  split
  · exact refl s.db
  split
  · rename_i executed
    exact related_of_execute links executed
  · rename_i executed
    have linked := related_of_execute links executed
    split
    · exact linked
    · dsimp only
      split
      · exact linked
      · exact linked

include trans queries in
theorem setGroupAdmin_relates {groupid userid : Int}
    (appoints : ∀ db : MySql, related db (db.execute (.insertGroupAdmin groupid userid)).2)
    (dismisses : ∀ db : MySql, related db (db.execute (.deleteGroupAdmin groupid userid)).2)
    (isAdmin : Bool) (s : Store) : related s.db (s.setGroupAdmin groupid userid isAdmin).2.db := by
  have advanced := query_store (fun t => decide ((groupid, userid) ∈ t.groupAdmins)) s
  unfold setGroupAdmin
  split
  · split
    · rename_i queried
      rw [queried] at advanced
      cases advanced
      exact queries s.db
    · rename_i queried
      rw [queried] at advanced
      cases advanced
      split
      · rename_i executed
        exact trans (queries s.db) (related_of_execute appoints executed)
      · rename_i executed
        exact trans (queries s.db) (related_of_execute appoints executed)
  · split
    · rename_i executed
      exact (related_of_execute dismisses executed :)
    · rename_i executed
      exact (related_of_execute dismisses executed :)

include refl trans queries in
/-- A transitive relation that every query and every statement of a call keep to
holds over the call. -/
theorem afterCall_relates {call : StoreCall}
    (statements : ∀ stmt, call.Runs stmt → ∀ db : MySql, related db (db.execute stmt).2)
    (s : Store) : related s.db (s.afterCall call).db := by
  cases call with
  | mutate mutator =>
      have unchanged : s.withOutcomes s.db.outcomes = s := rfl
      simp only [afterCall, mutate, unchanged]
      cases mutator with
      | addUser salt user =>
          dsimp only [addUser]
          split
          · exact refl s.db
          · split
            · rename_i executed
              exact (related_of_execute (statements _ (.addUser ..)) executed :)
            · rename_i executed
              exact (related_of_execute (statements _ (.addUser ..)) executed :)
      | addGroup groupname ownerid =>
          dsimp only [addGroup]
          split
          · rename_i executed
            exact (related_of_execute (statements _ (.addGroup ..)) executed :)
          · rename_i executed
            exact (related_of_execute (statements _ (.addGroup ..)) executed :)
      | renameGroup groupid newname =>
          dsimp only [renameGroup]
          split
          · rename_i executed
            exact (related_of_execute (statements _ .renameGroup) executed :)
          · rename_i executed
            exact (related_of_execute (statements _ .renameGroup) executed :)
      | updateUserInfo userid info =>
          dsimp only [updateUserInfo]
          split
          · rename_i executed
            exact (related_of_execute (statements _ .updateUserInfo) executed :)
          · rename_i executed
            exact (related_of_execute (statements _ .updateUserInfo) executed :)
      | modifyUserPassword salt userid newpassword =>
          dsimp only [modifyUserPassword]
          split
          · rename_i executed
            exact (related_of_execute (statements _ (.modifyUserPassword _)) executed :)
          · rename_i executed
            exact (related_of_execute (statements _ (.modifyUserPassword _)) executed :)
      | makeFriendRelationship smallid greatid =>
          exact makeFriendRelationship_relates refl (statements _ .makeFriendRelationship) s
      | releaseFriendRelationship smallid greatid =>
          dsimp only [releaseFriendRelationship]
          split
          · exact refl s.db
          · split
            · rename_i executed
              exact (related_of_execute (statements _ .releaseFriendRelationship) executed :)
            · rename_i executed
              exact (related_of_execute (statements _ .releaseFriendRelationship) executed :)
      | deleteFriendToUser userid friendid =>
          dsimp only [deleteFriendToUser]
          split
          · rename_i executed
            exact (related_of_execute (statements _ (.deleteFriendToUser ..)) executed :)
          · rename_i executed
            exact (related_of_execute (statements _ (.deleteFriendToUser ..)) executed :)
      | setGroupAdmin groupid userid isAdmin =>
          exact @setGroupAdmin_relates related trans queries groupid userid
            (statements _ .appoint) (statements _ .dismiss) isAdmin s
  | setUserStatus userid status =>
      simp only [afterCall, setUserStatus]
      split
      · exact refl s.db
      · exact refl s.db
  | addFriendRequest fromId toId reqType groupId message =>
      refine addFriendRequest_relates (fun s next => related s.db next.db) trans
        (fun s => queries s.db) ?_ fromId toId reqType groupId message s
      intro row s
      exact statements _ (.addFriendRequest row) s.db
  | updateRequestStatus reqId status => exact statements _ .updateRequestStatus s.db
  | saveChatMsgToDb senderid targetid msg => exact statements _ (.saveChatMsgToDb _) s.db
  | addChatMsgCache userid cache => exact statements _ (.addChatMsgCache _) s.db
  | fetchAndDeleteOfflineMsg kind userid =>
      refine fetchAndDeleteOfflineMsg_relates (fun s next => related s.db next.db) trans
        (fun s => queries s.db) ?_ s
      intro s
      exact statements _ .fetchAndDeleteOfflineMsg s.db
  | read => exact queries s.db

end Related

/-- Part of the tables that no statement of a call touches stays what it is. -/
theorem afterCall_keeps {α : Type} (part : Tables → α) (call : StoreCall)
    (spares : ∀ stmt, call.Runs stmt → ∀ t next, stmt.apply t = some next → part next = part t)
    (s : Store) : part (s.afterCall call).db.tables = part s.db.tables := by
  refine @afterCall_relates (fun db next => part next.tables = part db.tables) (fun _ => rfl)
    (fun first second => second.trans first) (fun _ => rfl) call ?_ s
  intro stmt runs db
  unfold MySql.execute
  split
  · rename_i applied
    exact spares stmt runs _ _ applied
  · rfl

/-- A call that can write `t_user`. -/
def writesUsers : StoreCall → Bool
  | .mutate (.addUser ..) | .mutate (.addGroup ..) | .mutate (.renameGroup ..)
  | .mutate (.updateUserInfo ..) | .mutate (.modifyUserPassword ..) => true
  | _ => false

theorem afterCall_userRows (call : StoreCall) (spares : writesUsers call = false) (s : Store) :
    (s.afterCall call).userRows = s.userRows := by
  refine afterCall_keeps (fun t => t.users.rows) call ?_ s
  intro stmt runs t next applied
  cases runs with
  | addUser | addGroup | renameGroup | updateUserInfo | modifyUserPassword => cases spares
  | _ =>
      cases applied
      rfl

end Store

/-! ### Handlers -/

/-- The request of a registration is one the mail server is asked about. -/
structure AsksMail (env : Env) (req : RegisterReq) : Prop where
  complete : req.username ≠ [] ∧ req.nickname ≠ [] ∧ req.password ≠ [] ∧ req.email ≠ [] ∧
    req.code ≠ []
  username : isValidUsername req.username = true
  nickname : req.nickname.length ≤ 60
  ready : env.grpc = .ready

/-- The request passed every check before the insertion. -/
structure Registers (env : Env) (req : RegisterReq) : Prop extends AsksMail env req where
  verified : env.verify.ok = true

/-- The user owns the group or administers it. -/
def MayEditGroup (w : World) (user : User) (groupid : Int) : Prop :=
  groupIdBoundary ≤ groupid ∧ ∃ group, w.store.getUserByID groupid = some group ∧
    (group.ownerid = user.userid ∨ w.store.isGroupAdmin groupid user.userid = true)

/-- The rows the handler of a command leaves, run on session `s`, with the guards
it has passed. -/
inductive RowWrite (pb : ImProto) (s : ClientSession) (msg : MessageContainer) (w : World) :
    MsgType → List UserRow → Prop
  | kept {type : MsgType} : RowWrite pb s msg w type w.store.userRows
  | registered {req : RegisterReq} (parsed : pb.registerReq msg.payload = some req)
      (registers : Registers w.env req)
      (unused : Store.duplicateScan (World.registeredUser req) w.store.cachedUsers = none)
      (granted : w.store.db.outcomes 0 = true)
      (fresh : w.store.baseUserID + 1 ∉ w.store.userRows.map UserRow.userId) :
      RowWrite pb s msg w .register
        (w.store.userRows ++ [w.store.newUserRow w.env.salt (World.registeredUser req)])
  | grouped {user : User} {req : CreateGroupReq} (signedIn : s.user = some user)
      (parsed : pb.createGroupReq msg.payload = some req)
      (fresh : w.store.baseGroupID + 1 ∉ w.store.userRows.map UserRow.userId) :
      RowWrite pb s msg w .createGroup
        (w.store.userRows ++ [w.store.newGroupRow req.groupname user.userid])
  | profile {type : MsgType} {user info : User} {id : Int} (signedIn : s.user = some user)
      (edits : type = .updateUserInfo ∨ type = .avatarUpload)
      (entitled : id = user.userid ∨ MayEditGroup w user id) :
      RowWrite pb s msg w type
        (modify UserRow.userId id (·.withProfile (Store.profileOf info)) w.store.userRows)
  | password {user : User} {req : ModifyPasswordReq} (signedIn : s.user = some user)
      (parsed : pb.modifyPasswordReq msg.payload = some req)
      (verified : verifyPassword req.oldpassword user.password = true) :
      RowWrite pb s msg w .modifyPassword (modify UserRow.userId user.userid
        ({ · with password := hashPassword w.env.salt req.newpassword }) w.store.userRows)
  | renamed {user : User} {id : Int} {newname : Bytes} (signedIn : s.user = some user)
      (entitled : MayEditGroup w user id) :
      RowWrite pb s msg w .renameGroup (modify UserRow.userId id
        ({ · with nickname := newname, username := newname }) w.store.userRows)

namespace World

variable {pb : ImProto} {s : ClientSession} {msg : MessageContainer} {w : World} {type : MsgType}

theorem rowWrite_of_same {next : World} (same : next.store.userRows = w.store.userRows) :
    RowWrite pb s msg w type next.store.userRows := by
  rw [same]
  exact .kept

/-- A handler that makes no call on `t_user`. -/
theorem rowWrite_of_calls {next : World} (calls : CallsOnly pb s msg w type next)
    (spares : ∀ call, Makes pb s msg w type call → Store.writesUsers call = false) :
    RowWrite pb s msg w type next.store.userRows := by
  obtain ⟨made, reached, all⟩ := calls
  apply rowWrite_of_same
  rw [reached]
  refine Store.afterCalls_keeps (fun store => store.userRows = w.store.userRows) ?_ all rfl
  intro store call makes same
  rw [Store.afterCall_userRows call (spares call makes), same]

theorem onRegisterResponse_rows :
    RowWrite pb s msg w .register (w.onRegisterResponse pb s msg).store.userRows := by
  unfold onRegisterResponse
  split
  · exact .kept
  rename_i req parsed
  split
  · exact .kept
  rename_i filled
  split
  · exact .kept
  rename_i named
  split
  · exact .kept
  rename_i short
  split
  · exact .kept
  · exact .kept
  rename_i ready
  dsimp only
  split
  · rename_i verified
    rcases Store.addUser_userRows w.env.salt (registeredUser req) w.store with
      ⟨-, same⟩ | ⟨-, unused, granted, fresh, added⟩
    · exact rowWrite_of_same same
    · simp only [not_or] at filled
      have registers : Registers w.env req :=
        { complete := filled
          username := by simpa using named
          nickname := Nat.not_lt.mp short
          ready := ready
          verified := verified }
      have written := RowWrite.registered (s := s) parsed registers unused granted fresh
      rw [← added] at written
      exact written
  · exact .kept

theorem onCreateGroupResponse_rows :
    RowWrite pb s msg w .createGroup (w.onCreateGroupResponse pb s msg).store.userRows := by
  unfold onCreateGroupResponse
  split
  · exact .kept
  rename_i req parsed
  split
  · exact .kept
  split
  · exact .kept
  rename_i user signedIn
  have written : RowWrite pb s msg w .createGroup
      (w.store.addGroup req.groupname user.userid).2.userRows := by
    rcases Store.addGroup_userRows req.groupname user.userid w.store with same | ⟨fresh, added⟩
    · rw [same]
      exact .kept
    · rw [added]
      exact .grouped signedIn parsed fresh
  split
  · rename_i groupid store result
    rw [result] at written
    have linked := Store.afterCall_userRows (.mutate (.makeFriendRelationship
      (smallId user.userid groupid) (greatId user.userid groupid))) rfl store
    rw [← linked] at written
    exact written
  · rename_i store result
    rw [result] at written
    exact written

theorem onUpdateUserInfoResponse_rows :
    RowWrite pb s msg w .updateUserInfo (w.onUpdateUserInfoResponse pb s msg).store.userRows := by
  unfold onUpdateUserInfoResponse
  split
  · exact .kept
  rename_i req parsed
  split
  · exact .kept
  rename_i user signedIn
  have written : RowWrite pb s msg w .updateUserInfo (w.store.updateUserInfo user.userid
      (Store.withProfile (requestedProfile req user) User.blank)).2.userRows := by
    rcases Store.updateUserInfo_userRows user.userid
      (Store.withProfile (requestedProfile req user) User.blank) w.store with same | changed
    · rw [same]
      exact .kept
    · rw [changed]
      exact .profile signedIn (Or.inl rfl) (Or.inl rfl)
  dsimp only
  split
  · rename_i store result
    rw [result] at written
    exact written
  · rename_i store result
    rw [result] at written
    exact written

theorem onAvatarUploadResponse_rows :
    RowWrite pb s msg w .avatarUpload (w.onAvatarUploadResponse pb s msg).store.userRows := by
  unfold onAvatarUploadResponse
  split
  · exact .kept
  rename_i req parsed
  split
  · exact .kept
  rename_i user signedIn
  have written : ∀ id info, (id = user.userid ∨ MayEditGroup w user id) →
      RowWrite pb s msg w .avatarUpload (w.store.updateUserInfo id info).2.userRows := by
    intro id info entitled
    rcases Store.updateUserInfo_userRows id info w.store with same | changed
    · rw [same]
      exact .kept
    · rw [changed]
      exact .profile signedIn (Or.inr rfl) entitled
  split
  · exact .kept
  · exact .kept
  split
  · rename_i isGroup
    unfold uploadGroupAvatar
    dsimp only
    split
    · exact .kept
    rename_i group found
    split
    · exact .kept
    rename_i entitled
    split
    · exact written req.targetId _ (Or.inr ⟨isGroup, group, found, not_not.mp entitled⟩)
    · exact .kept
  · unfold uploadOwnAvatar
    dsimp only
    split
    · exact written user.userid _ (Or.inl rfl)
    · exact .kept

theorem onModifyPasswordResponse_rows :
    RowWrite pb s msg w .modifyPassword (w.onModifyPasswordResponse pb s msg).store.userRows := by
  rcases onModifyPasswordResponse_store pb s msg w with
    same | ⟨req, user, parsed, signedIn, -, -, verified, changed⟩
  · rw [same]
    exact .kept
  · have called : w.store.mutate ⟨.modifyUserPassword w.env.salt user.userid req.newpassword,
        w.store.db.outcomes⟩ =
        (w.store.modifyUserPassword w.env.salt user.userid req.newpassword).2 := rfl
    rw [changed, called]
    rcases Store.modifyUserPassword_userRows w.env.salt user.userid req.newpassword w.store with
      same | written
    · rw [same]
      exact .kept
    · rw [written]
      exact .password signedIn parsed verified

theorem onRenameGroupResponse_rows :
    RowWrite pb s msg w .renameGroup (w.onRenameGroupResponse pb s msg).store.userRows := by
  unfold onRenameGroupResponse
  split
  · exact .kept
  rename_i user signedIn
  split
  · exact .kept
  rename_i req parsed
  dsimp only
  split
  · exact .kept
  split
  · exact .kept
  rename_i group found
  split
  · exact .kept
  rename_i isGroup
  split
  · exact .kept
  rename_i entitled
  have mayEdit : MayEditGroup w user req.groupid :=
    ⟨not_lt.mp isGroup, group, found, not_not.mp entitled⟩
  have written : RowWrite pb s msg w .renameGroup
      (w.store.renameGroup req.groupid req.newname).2.userRows := by
    rcases Store.renameGroup_userRows req.groupid req.newname w.store with same | changed
    · rw [same]
      exact .kept
    · rw [changed]
      exact .renamed signedIn mayEdit
  split
  · rename_i store result
    rw [result] at written
    exact written
  · rename_i store result
    rw [result] at written
    exact written

theorem handle_rows (pb : ImProto) (type : MsgType) (s : ClientSession) (msg : MessageContainer)
    (w : World) : RowWrite pb s msg w type (w.handle pb type s msg).store.userRows := by
  have calls := handle_calls pb type s msg w
  cases type with
  | register => exact onRegisterResponse_rows
  | createGroup => exact onCreateGroupResponse_rows
  | updateUserInfo => exact onUpdateUserInfoResponse_rows
  | avatarUpload => exact onAvatarUploadResponse_rows
  | modifyPassword => exact onModifyPasswordResponse_rows
  | renameGroup => exact onRenameGroupResponse_rows
  | _ =>
      refine rowWrite_of_calls calls ?_
      intro call makes
      cases makes <;> first | rfl | simp_all

/-- A step leaves the rows or a handler it reaches writes them. -/
theorem step_rows (pb : ImProto) (w : World) (label : Step) :
    (w.step pb label).store.userRows = w.store.userRows ∨
      ∃ type s msg, w.dispatched label = some (type, s, msg) ∧
        RowWrite pb s msg ((w.withEnv label.env).setSession s) type
          (w.step pb label).store.userRows := by
  rcases step_calls pb w label with ⟨loads, -, restarted⟩ | same | ⟨type, s, msg, reached, -⟩
  · rw [restarted]
    exact Or.inl rfl
  · rw [same]
    exact Or.inl rfl
  · refine Or.inr ⟨type, s, msg, reached, ?_⟩
    rw [step_of_dispatched pb reached]
    exact handle_rows pb type s msg _

end World

end AimServer
