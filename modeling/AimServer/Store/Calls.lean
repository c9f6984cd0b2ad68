import AimServer.Store.Lookup
import AimServer.Lib.Run

/-!
Contract: runs of `UserManager` calls, without the handlers in front of them.

Owns: the nine mutators as labels with the outcomes of their statements, the
records the cache and the tables hold apart from friend and administrator
sets, and the theorem that says what one call does to both.

The cache side and the table side are read as lists of the same kind of
record, so that a call can be compared on the two.
-/

namespace AimServer

open AimServer.Lib
open AimServer.PasswordUtil

/-- A call with its arguments; a salt is the one `HashPassword` draws. -/
inductive Mutator where
  | addUser (salt : Bytes) (user : User)
  | addGroup (groupname : Bytes) (ownerid : Int)
  | renameGroup (groupid : Int) (newname : Bytes)
  | updateUserInfo (userid : Int) (newuserinfo : User)
  | modifyUserPassword (salt : Bytes) (userid : Int) (newpassword : Bytes)
  | makeFriendRelationship (smallid greatid : Int)
  | releaseFriendRelationship (smallid greatid : Int)
  | deleteFriendToUser (userid friendid : Int)
  | setGroupAdmin (groupid userid : Int) (isAdmin : Bool)

/-- A call and the outcomes of the statements it runs. -/
structure Mutation where
  call : Mutator
  sql : Nat → Bool

namespace Store

def withOutcomes (sql : Nat → Bool) (s : Store) : Store :=
  { s with db := { s.db with outcomes := sql } }

/-- The store after a call. -/
def mutate (s : Store) (m : Mutation) : Store :=
  let s := s.withOutcomes m.sql
  match m.call with
  | .addUser salt user => (s.addUser salt user).2
  | .addGroup groupname ownerid => (s.addGroup groupname ownerid).2
  | .renameGroup groupid newname => (s.renameGroup groupid newname).2
  | .updateUserInfo userid newuserinfo => (s.updateUserInfo userid newuserinfo).2
  | .modifyUserPassword salt userid newpassword => (s.modifyUserPassword salt userid newpassword).2
  | .makeFriendRelationship smallid greatid => (s.makeFriendRelationship smallid greatid).2
  | .releaseFriendRelationship smallid greatid => (s.releaseFriendRelationship smallid greatid).2
  | .deleteFriendToUser userid friendid => (s.deleteFriendToUser userid friendid).2
  | .setGroupAdmin groupid userid isAdmin => (s.setGroupAdmin groupid userid isAdmin).2

/-- A call of a running server, or a new process on its tables. -/
inductive StoreStep where
  | call (m : Mutation)
  | restart (loads : LoadOutcome)

def takes (s : Store) : StoreStep → Store
  | .call m => s.mutate m
  | .restart loads => Store.init loads s.db

/-! ### Records without their sets -/

/-- A record without its sets and its online status. -/
def bare (user : User) : User :=
  { user with status := 0, friends := ∅, admins := ∅ }

/-- The cached records. -/
def records (s : Store) : List User :=
  s.cachedUsers.map bare

/-- The records `LoadUserFromDB` would build now. -/
def rowRecords (s : Store) : List User :=
  s.db.tables.users.rows.map loadedUser

/-- The call adds a row to `t_user`: its statement is granted and its id is
new, and for a user neither name nor mail is taken. -/
def Enrols (s : Store) (m : Mutation) : Prop :=
  match m.call with
  | .addUser _ user => duplicateScan user s.cachedUsers = none ∧ m.sql 0 = true ∧
      s.baseUserID + 1 ∉ s.db.tables.users.rows.map UserRow.userId
  | .addGroup _ _ => m.sql 0 = true ∧
      s.baseGroupID + 1 ∉ s.db.tables.users.rows.map UserRow.userId
  | _ => False

/-- What a call does to the records on both sides. -/
inductive RecordEffect (s : Store) (m : Mutation) (next : Store) : Prop
  | kept (idle : ¬ s.Enrols m) (cached : next.records = s.records)
      (loaded : next.rowRecords = s.rowRecords)
  | enrolled (new row : User) (enrols : s.Enrols m)
      (named : (∃ salt user, m.call = .addUser salt user ∧ new.username = user.username) ∨
        ∃ groupname ownerid, m.call = .addGroup groupname ownerid ∧
          new.username = cStr groupname)
      (sameId : row.userid = new.userid) (sameName : row.username = new.username)
      (fresh : new.userid ∉ s.db.tables.users.rows.map UserRow.userId)
      (birthday : new.birthday = 20000101) (rowBirthday : row.birthday = 19900101)
      (cached : next.records = s.records ++ [new])
      (loaded : next.rowRecords = s.rowRecords ++ [row])
  | edited {id : Int} {change : User → User} (idle : ¬ s.Enrols m)
      (keepsId : ∀ user, (change user).userid = user.userid)
      (keepsName : (∀ user, (change user).username = user.username) ∨
        ∃ newname, m.call = .renameGroup id newname ∧ m.sql 0 = true ∧
          ∀ user, (change user).username = newname)
      (cached : next.records = modify User.userid id change s.records)
      (loaded : next.rowRecords = modify User.userid id change s.rowRecords)

section Effects

variable {s next : Store} {m : Mutation}

/-! ### Calls that leave the records -/

/-- Both sides of the records are the same. -/
structure SameRecords (s next : Store) : Prop where
  cached : next.records = s.records
  loaded : next.rowRecords = s.rowRecords

/-- A change of the sets of a record is not seen. -/
theorem SameRecords.modifyUser (same : SameRecords s next) (id : Int) (change : User → User)
    (ignores : ∀ user, bare (change user) = bare user) :
    SameRecords s (next.modifyUser id change) :=
  ⟨(map_modify ignores).trans same.cached, same.loaded⟩

theorem SameRecords.unlinkCached (same : SameRecords s next) (first second : Int) :
    SameRecords s (next.unlinkCached first second) :=
  (same.modifyUser first (eraseFriend second) fun _ => rfl).modifyUser second (eraseFriend first)
    fun _ => rfl

/-- A statement on another table than `t_user`. -/
def SparesUsers (stmt : Stmt) : Prop :=
  ∀ t next, stmt.apply t = some next → next.users = t.users

/-- Such a statement changes no record, whatever its outcome. -/
theorem execute_spares {stmt : Stmt} {ok : Bool} (spares : SparesUsers stmt)
    (executed : s.execute stmt = (ok, next)) : SameRecords s next := by
  rcases execute_cases stmt s with failed | ⟨-, tables, applied, succeeded⟩
  · rw [failed] at executed
    cases executed
    exact ⟨rfl, rfl⟩
  · rw [succeeded] at executed
    cases executed
    exact ⟨rfl, by simp [rowRecords, spares _ _ applied]⟩

theorem sparesUsers_relationship (first second : Int) :
    SparesUsers (.insertRelationship first second) ∧
      SparesUsers (.deleteRelationship first second) := by
  constructor
  all_goals
    intro t next applied
    cases applied
    rfl

theorem sparesUsers_groupAdmin (groupid userid : Int) :
    SparesUsers (.insertGroupAdmin groupid userid) ∧
      SparesUsers (.deleteGroupAdmin groupid userid) := by
  constructor
  all_goals
    intro t next applied
    cases applied
    rfl

theorem makeFriendRelationship_records (smallid greatid : Int) (s : Store) :
    SameRecords s (s.makeFriendRelationship smallid greatid).2 := by
  have spares := (sparesUsers_relationship smallid greatid).1
  unfold makeFriendRelationship
  split
  · exact ⟨rfl, rfl⟩
  split
  · rename_i executed
    exact execute_spares spares executed
  rename_i executed
  have same := execute_spares spares executed
  split
  · exact same
  have linked := same.modifyUser smallid (addFriend greatid) fun _ => rfl
  dsimp only
  split
  · exact linked
  · exact linked.modifyUser greatid (addFriend smallid) fun _ => rfl

theorem releaseFriendRelationship_records (smallid greatid : Int) (s : Store) :
    SameRecords s (s.releaseFriendRelationship smallid greatid).2 := by
  have spares := (sparesUsers_relationship smallid greatid).2
  unfold releaseFriendRelationship
  split
  · exact ⟨rfl, rfl⟩
  split
  · rename_i executed
    exact execute_spares spares executed
  · rename_i executed
    exact (execute_spares spares executed).unlinkCached smallid greatid

theorem deleteFriendToUser_records (userid friendid : Int) (s : Store) :
    SameRecords s (s.deleteFriendToUser userid friendid).2 := by
  unfold deleteFriendToUser
  dsimp only
  split
  · rename_i executed
    exact execute_spares (sparesUsers_relationship _ _).2 executed
  · rename_i executed
    exact (execute_spares (sparesUsers_relationship _ _).2 executed).unlinkCached userid friendid

theorem setGroupAdmin_records (groupid userid : Int) (isAdmin : Bool) (s : Store) :
    SameRecords s (s.setGroupAdmin groupid userid isAdmin).2 := by
  have spares := sparesUsers_groupAdmin groupid userid
  unfold setGroupAdmin
  split
  · have queried := query_store (fun t => decide ((groupid, userid) ∈ t.groupAdmins)) s
    split
    · rename_i found
      rw [found] at queried
      cases queried
      have advanced : SameRecords s { s with db := s.db.advance } := ⟨rfl, rfl⟩
      dsimp only
      exact advanced.modifyUser _ _ fun _ => rfl
    · rename_i found
      rw [found] at queried
      cases queried
      split
      · rename_i executed
        have same := execute_spares spares.1 executed
        exact ⟨same.cached, same.loaded⟩
      · rename_i next executed
        have executedOnly := execute_spares spares.1 executed
        have same : SameRecords s next := ⟨executedOnly.cached, executedOnly.loaded⟩
        dsimp only
        exact same.modifyUser _ _ fun _ => rfl
  · split
    · rename_i executed
      exact execute_spares spares.2 executed
    · rename_i executed
      exact (execute_spares spares.2 executed).modifyUser _ _ fun _ => rfl

/-! ### Calls that edit a record -/

theorem sameRecords_of_failed {stmt : Stmt} (executed : s.execute stmt = (false, next)) :
    SameRecords s next := by
  rcases execute_cases stmt s with failed | ⟨-, tables, -, succeeded⟩
  · rw [failed] at executed
    cases executed
    exact ⟨rfl, rfl⟩
  · rw [succeeded] at executed
    cases executed

/-- An `UPDATE` of one row and the assignment to its record, seen from both
sides: the same change of the same record. -/
theorem edited_of_succeeded {stmt : Stmt} (id : Int) (rowChange : UserRow → UserRow)
    (change : User → User) (keeps : ∀ row, (rowChange row).userId = row.userId)
    (updates : ∀ t, stmt.apply t = some { t with users := t.users.update id rowChange keeps })
    (carries : ∀ row, loadedUser (rowChange row) = change (loadedUser row))
    (carriesBare : ∀ user, bare (change user) = change (bare user))
    (executed : s.execute stmt = (true, next)) :
    s.db.outcomes 0 = true ∧
      (next.modifyUser id change).records = modify User.userid id change s.records ∧
      (next.modifyUser id change).rowRecords = modify User.userid id change s.rowRecords := by
  rcases execute_cases stmt s with failed | ⟨granted, tables, applied, succeeded⟩
  · rw [failed] at executed
    cases executed
  · rw [succeeded] at executed
    cases executed
    rw [updates] at applied
    cases applied
    exact ⟨granted, map_modify_of_carries (fun _ => rfl) carriesBare,
      map_modify_of_carries (fun _ => rfl) carries⟩

/-- The record of one id is edited, on both sides alike. -/
structure EditedRecord (s next : Store) (id : Int) (change : User → User) : Prop where
  granted : s.db.outcomes 0 = true
  cached : next.records = modify User.userid id change s.records
  loaded : next.rowRecords = modify User.userid id change s.rowRecords

theorem renameGroup_outcome (groupid : Int) (newname : Bytes) (s : Store) :
    SameRecords s (s.renameGroup groupid newname).2 ∨
      EditedRecord s (s.renameGroup groupid newname).2 groupid
        ({ · with nickname := newname, username := newname }) := by
  unfold renameGroup
  split
  · rename_i executed
    exact Or.inl (sameRecords_of_failed executed)
  · rename_i executed
    obtain ⟨granted, cached, loaded⟩ := edited_of_succeeded groupid
      ({ · with nickname := newname, username := newname })
      ({ · with nickname := newname, username := newname })
      (fun _ => rfl) (fun _ => rfl) (fun _ => rfl) (fun _ => rfl) executed
    exact Or.inr ⟨granted, cached, loaded⟩

/-- With its `UPDATE` the call edits the record. -/
theorem updateUserInfo_granted (userid : Int) (newuserinfo : User)
    (granted : s.db.outcomes 0 = true) :
    EditedRecord s (s.updateUserInfo userid newuserinfo).2 userid
      (withProfile (profileOf newuserinfo)) := by
  unfold updateUserInfo
  split
  · rename_i executed
    rw [execute_granted granted rfl] at executed
    cases executed
  · rename_i executed
    obtain ⟨-, cached, loaded⟩ := edited_of_succeeded userid
      (·.withProfile (profileOf newuserinfo)) (withProfile (profileOf newuserinfo))
      (fun _ => rfl) (fun _ => rfl) (fun _ => rfl) (fun _ => rfl) executed
    exact ⟨granted, cached, loaded⟩

theorem updateUserInfo_denied (userid : Int) (newuserinfo : User)
    (denied : s.db.outcomes 0 = false) :
    SameRecords s (s.updateUserInfo userid newuserinfo).2 := by
  unfold updateUserInfo
  rw [execute_denied denied]
  exact ⟨rfl, rfl⟩

theorem updateUserInfo_outcome (userid : Int) (newuserinfo : User) (s : Store) :
    SameRecords s (s.updateUserInfo userid newuserinfo).2 ∨
      EditedRecord s (s.updateUserInfo userid newuserinfo).2 userid
        (withProfile (profileOf newuserinfo)) := by
  cases granted : s.db.outcomes 0 with
  | false => exact Or.inl (updateUserInfo_denied userid newuserinfo granted)
  | true => exact Or.inr (updateUserInfo_granted userid newuserinfo granted)

/-- With its `UPDATE` the call succeeds and edits the record. -/
theorem modifyUserPassword_granted (salt : Bytes) (userid : Int) (newpassword : Bytes)
    (granted : s.db.outcomes 0 = true) :
    (s.modifyUserPassword salt userid newpassword).1 = true ∧
      EditedRecord s (s.modifyUserPassword salt userid newpassword).2 userid
        ({ · with password := hashPassword salt newpassword }) := by
  unfold modifyUserPassword
  dsimp only
  split
  · rename_i executed
    rw [execute_granted granted rfl] at executed
    cases executed
  · rename_i executed
    obtain ⟨-, cached, loaded⟩ := edited_of_succeeded userid
      ({ · with password := hashPassword salt newpassword })
      ({ · with password := hashPassword salt newpassword })
      (fun _ => rfl) (fun _ => rfl) (fun _ => rfl) (fun _ => rfl) executed
    exact ⟨rfl, granted, cached, loaded⟩

theorem modifyUserPassword_outcome (salt : Bytes) (userid : Int) (newpassword : Bytes)
    (s : Store) :
    SameRecords s (s.modifyUserPassword salt userid newpassword).2 ∨
      EditedRecord s (s.modifyUserPassword salt userid newpassword).2 userid
        ({ · with password := hashPassword salt newpassword }) := by
  cases granted : s.db.outcomes 0 with
  | false =>
      refine Or.inl ?_
      unfold modifyUserPassword
      dsimp only
      rw [execute_denied granted]
      exact ⟨rfl, rfl⟩
  | true => exact Or.inr (modifyUserPassword_granted salt userid newpassword granted).2

theorem renameGroup_records (groupid : Int) (newname : Bytes) (sql : Nat → Bool) (s : Store) :
    RecordEffect s ⟨.renameGroup groupid newname, sql⟩
      (s.mutate ⟨.renameGroup groupid newname, sql⟩) := by
  rcases renameGroup_outcome groupid newname (s.withOutcomes sql) with same | edited
  · exact .kept id same.cached same.loaded
  · refine .edited id ?_ (Or.inr ⟨newname, rfl, edited.granted, ?_⟩) edited.cached edited.loaded
    · intro user
      rfl
    · intro user
      rfl

theorem updateUserInfo_records (userid : Int) (newuserinfo : User) (sql : Nat → Bool)
    (s : Store) : RecordEffect s ⟨.updateUserInfo userid newuserinfo, sql⟩
      (s.mutate ⟨.updateUserInfo userid newuserinfo, sql⟩) := by
  rcases updateUserInfo_outcome userid newuserinfo (s.withOutcomes sql) with same | edited
  · exact .kept id same.cached same.loaded
  · refine .edited id ?_ (Or.inl ?_) edited.cached edited.loaded
    · intro user
      rfl
    · intro user
      rfl

theorem modifyUserPassword_records (salt : Bytes) (userid : Int) (newpassword : Bytes)
    (sql : Nat → Bool) (s : Store) :
    RecordEffect s ⟨.modifyUserPassword salt userid newpassword, sql⟩
      (s.mutate ⟨.modifyUserPassword salt userid newpassword, sql⟩) := by
  rcases modifyUserPassword_outcome salt userid newpassword (s.withOutcomes sql) with same | edited
  · exact .kept id same.cached same.loaded
  · refine .edited id ?_ (Or.inl ?_) edited.cached edited.loaded
    · intro user
      rfl
    · intro user
      rfl

/-! ### Calls that add a record -/

/-- The duplicate scan only answers with a refusal. -/
theorem duplicateScan_ne_ok (user : User) (cached : List User) :
    duplicateScan user cached ≠ some .ok := by
  induction cached with
  | nil => simp [duplicateScan]
  | cons other rest inductionHypothesis =>
      unfold duplicateScan
      split
      · simp
      split
      · simp
      · exact inductionHypothesis

/-- An `INSERT` into `t_user` takes effect exactly when it is granted and its
id is new. -/
theorem execute_insert (stmt : Stmt) {row : UserRow}
    (inserts : ∀ t, stmt.apply t = (t.users.insert row).map fun users => { t with users })
    (s : Store) :
    (¬ (s.db.outcomes 0 = true ∧ row.userId ∉ s.db.tables.users.rows.map UserRow.userId) ∧
        s.execute stmt = (false, { s with db := s.db.advance })) ∨
      ((s.db.outcomes 0 = true ∧ row.userId ∉ s.db.tables.users.rows.map UserRow.userId) ∧
        ∃ db, s.execute stmt = (true, { s with db }) ∧
          db.tables.users.rows = s.db.tables.users.rows ++ [row]) := by
  by_cases enrols : s.db.outcomes 0 = true ∧
      row.userId ∉ s.db.tables.users.rows.map UserRow.userId
  · obtain ⟨users, inserted, rows⟩ := KeyedTable.insert_of_absent enrols.2
    have applied : stmt.apply s.db.tables = some { s.db.tables with users } := by
      rw [inserts, inserted]
      rfl
    exact Or.inr ⟨enrols, _, execute_granted enrols.1 applied, rows⟩
  · refine Or.inl ⟨enrols, ?_⟩
    rcases execute_cases stmt s with failed | ⟨granted, tables, applied, -⟩
    · exact failed
    · rw [inserts] at applied
      obtain ⟨users, inserted, -⟩ := Option.map_eq_some_iff.mp applied
      exact absurd ⟨granted, (KeyedTable.insert_eq_some inserted).1⟩ enrols

/-- `AddUser` adds the account with the next id to table and cache, or it
changes neither. -/
theorem addUser_outcome (salt : Bytes) (user : User) (s : Store) :
    (¬ (duplicateScan user s.cachedUsers = none ∧ s.db.outcomes 0 = true ∧
          s.baseUserID + 1 ∉ s.db.tables.users.rows.map UserRow.userId) ∧
        ∃ result db, result ≠ .ok ∧ db.tables = s.db.tables ∧
          s.addUser salt user = (result, { s with db })) ∨
      ((duplicateScan user s.cachedUsers = none ∧ s.db.outcomes 0 = true ∧
          s.baseUserID + 1 ∉ s.db.tables.users.rows.map UserRow.userId) ∧
        ∃ db, db.tables.users.rows = s.db.tables.users.rows ++
            [.inserted (s.baseUserID + 1) user.username user.nickname
              (hashPassword salt user.password) (some user.mail) 0] ∧
          s.addUser salt user = (.ok, { s with
            db
            baseUserID := s.baseUserID + 1
            cachedUsers := s.cachedUsers ++
              [addedUser (s.baseUserID + 1) (hashPassword salt user.password) user] })) := by
  unfold addUser
  cases unused : duplicateScan user s.cachedUsers with
  | some refused =>
      have notOk : refused ≠ .ok := by
        intro isOk
        subst isOk
        exact duplicateScan_ne_ok user s.cachedUsers unused
      exact Or.inl ⟨by simp, refused, s.db, notOk, rfl, rfl⟩
  | none =>
      rcases execute_insert (.insertUser (s.baseUserID + 1) user.username user.nickname
          (hashPassword salt user.password) user.mail) (fun _ => rfl) s with
        ⟨idle, failed⟩ | ⟨enrols, db, succeeded, rows⟩
      · refine Or.inl ⟨fun enrols => idle enrols.2, .databaseError, s.db.advance, by simp, rfl, ?_⟩
        simp only [failed]
      · refine Or.inr ⟨⟨rfl, enrols⟩, db, rows, ?_⟩
        simp only [succeeded]

/-- `AddGroup` uses up the next id; it adds the group to table and cache, or it
changes neither. -/
theorem addGroup_outcome (groupname : Bytes) (ownerid : Int) (s : Store) :
    (¬ (s.db.outcomes 0 = true ∧
          s.baseGroupID + 1 ∉ s.db.tables.users.rows.map UserRow.userId) ∧
        ∃ db, db.tables = s.db.tables ∧
          s.addGroup groupname ownerid =
            (none, { s with db, baseGroupID := s.baseGroupID + 1 })) ∨
      ((s.db.outcomes 0 = true ∧
          s.baseGroupID + 1 ∉ s.db.tables.users.rows.map UserRow.userId) ∧
        ∃ db, db.tables.users.rows = s.db.tables.users.rows ++
            [.inserted (s.baseGroupID + 1) (cStr groupname) (cStr groupname) [] none ownerid] ∧
          s.addGroup groupname ownerid = (some (s.baseGroupID + 1), { s with
            db
            baseGroupID := s.baseGroupID + 1
            cachedUsers := s.cachedUsers ++
              [addedGroup (s.baseGroupID + 1) (cStr groupname) ownerid] })) := by
  unfold addGroup
  rcases execute_insert (.insertGroup (s.baseGroupID + 1) (cStr groupname) (cStr groupname) []
      ownerid) (fun _ => rfl) { s with baseGroupID := s.baseGroupID + 1 } with
    ⟨idle, failed⟩ | ⟨enrols, db, succeeded, rows⟩
  · refine Or.inl ⟨idle, s.db.advance, rfl, ?_⟩
    simp only [failed]
  · refine Or.inr ⟨enrols, db, rows, ?_⟩
    simp only [succeeded]

/-- A record and the one of its row join the two sides. -/
structure EnrolledRecord (s next : Store) (new row : User) : Prop where
  cached : next.records = s.records ++ [new]
  loaded : next.rowRecords = s.rowRecords ++ [row]

theorem addUser_enrolled (salt : Bytes) (user : User) (sql : Nat → Bool) (s : Store) :
    (¬ s.Enrols ⟨.addUser salt user, sql⟩ ∧
        SameRecords s (s.mutate ⟨.addUser salt user, sql⟩)) ∨
      (s.Enrols ⟨.addUser salt user, sql⟩ ∧
        EnrolledRecord s (s.mutate ⟨.addUser salt user, sql⟩)
          (bare (addedUser (s.baseUserID + 1) (hashPassword salt user.password) user))
          (loadedUser (.inserted (s.baseUserID + 1) user.username user.nickname
            (hashPassword salt user.password) (some user.mail) 0))) := by
  simp only [mutate]
  rcases addUser_outcome salt user (s.withOutcomes sql) with
    ⟨idle, result, db, -, sameTables, outcome⟩ | ⟨enrols, db, rows, outcome⟩
  · rw [outcome]
    exact Or.inl ⟨idle, rfl, by simp only [rowRecords, sameTables]; rfl⟩
  · rw [outcome]
    refine Or.inr ⟨enrols, ?_, ?_⟩
    · simp only [records, List.map_append, List.map_singleton]
      rfl
    · simp only [rowRecords, rows, List.map_append, List.map_singleton]
      rfl

theorem addGroup_enrolled (groupname : Bytes) (ownerid : Int) (sql : Nat → Bool) (s : Store) :
    (¬ s.Enrols ⟨.addGroup groupname ownerid, sql⟩ ∧
        SameRecords s (s.mutate ⟨.addGroup groupname ownerid, sql⟩)) ∨
      (s.Enrols ⟨.addGroup groupname ownerid, sql⟩ ∧
        EnrolledRecord s (s.mutate ⟨.addGroup groupname ownerid, sql⟩)
          (bare (addedGroup (s.baseGroupID + 1) (cStr groupname) ownerid))
          (loadedUser (.inserted (s.baseGroupID + 1) (cStr groupname) (cStr groupname) [] none
            ownerid))) := by
  simp only [mutate]
  rcases addGroup_outcome groupname ownerid (s.withOutcomes sql) with
    ⟨idle, db, sameTables, outcome⟩ | ⟨enrols, db, rows, outcome⟩
  · rw [outcome]
    exact Or.inl ⟨idle, rfl, by simp only [rowRecords, sameTables]; rfl⟩
  · rw [outcome]
    refine Or.inr ⟨enrols, ?_, ?_⟩
    · simp only [records, List.map_append, List.map_singleton]
      rfl
    · simp only [rowRecords, rows, List.map_append, List.map_singleton]
      rfl

theorem addUser_records (salt : Bytes) (user : User) (sql : Nat → Bool) (s : Store) :
    RecordEffect s ⟨.addUser salt user, sql⟩ (s.mutate ⟨.addUser salt user, sql⟩) := by
  rcases addUser_enrolled salt user sql s with ⟨idle, same⟩ | ⟨enrols, joined⟩
  · exact .kept idle same.cached same.loaded
  · refine .enrolled _ _ enrols ?_ ?_ ?_ enrols.2.2 ?_ ?_ joined.cached joined.loaded
    · exact Or.inl ⟨salt, user, rfl, rfl⟩
    all_goals rfl

theorem addGroup_records (groupname : Bytes) (ownerid : Int) (sql : Nat → Bool) (s : Store) :
    RecordEffect s ⟨.addGroup groupname ownerid, sql⟩
      (s.mutate ⟨.addGroup groupname ownerid, sql⟩) := by
  rcases addGroup_enrolled groupname ownerid sql s with ⟨idle, same⟩ | ⟨enrols, joined⟩
  · exact .kept idle same.cached same.loaded
  · refine .enrolled _ _ enrols ?_ ?_ ?_ enrols.2 ?_ ?_ joined.cached joined.loaded
    · exact Or.inr ⟨groupname, ownerid, rfl, rfl⟩
    all_goals rfl

/-- What a call does to the records of the cache and of the tables. -/
theorem mutate_records (s : Store) (m : Mutation) : RecordEffect s m (s.mutate m) := by
  obtain ⟨call, sql⟩ := m
  have same : ∀ {next : Store}, ¬ s.Enrols ⟨call, sql⟩ → SameRecords (s.withOutcomes sql) next →
      RecordEffect s ⟨call, sql⟩ next := fun idle same => .kept idle same.cached same.loaded
  cases call with
  | addUser salt user => exact addUser_records salt user sql s
  | addGroup groupname ownerid => exact addGroup_records groupname ownerid sql s
  | renameGroup groupid newname => exact renameGroup_records groupid newname sql s
  | updateUserInfo userid newuserinfo => exact updateUserInfo_records userid newuserinfo sql s
  | modifyUserPassword salt userid newpassword =>
      exact modifyUserPassword_records salt userid newpassword sql s
  | makeFriendRelationship smallid greatid =>
      exact same id (makeFriendRelationship_records smallid greatid _)
  | releaseFriendRelationship smallid greatid =>
      exact same id (releaseFriendRelationship_records smallid greatid _)
  | deleteFriendToUser userid friendid =>
      exact same id (deleteFriendToUser_records userid friendid _)
  | setGroupAdmin groupid userid isAdmin =>
      exact same id (setGroupAdmin_records groupid userid isAdmin _)

end Effects

end Store

end AimServer
