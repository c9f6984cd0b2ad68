import AimServer.Store.Calls

/-!
Contract: where the password of an account is kept and which calls change it.

Owns: the password in `t_user`, the agreement of the cached records with it,
and the theorem that of all calls of a handler only `ModifyUserPassword`
changes a password, in both places alike.

Does not own: the session copies of a record.
-/

namespace AimServer

open AimServer.Lib
open AimServer.PasswordUtil

namespace Store

/-- `f_password` of an account. -/
def storedPassword (userid : Int) (s : Store) : Option Bytes :=
  (lookup UserRow.userId userid s.db.tables.users.rows).map UserRow.password

/-- Every cached record has the password of its row. -/
def PasswordsAgree (s : Store) : Prop :=
  ∀ user ∈ s.cachedUsers, s.storedPassword user.userid = some user.password

/-- The password of a record is replaced. -/
def withPassword (hashed : Bytes) (user : User) : User :=
  { user with password := hashed }

theorem withPassword_userid (hashed : Bytes) (user : User) :
    (withPassword hashed user).userid = user.userid := rfl

/-- What a call does to the passwords on both sides. -/
inductive PasswordEffect (s : Store) (m : Mutation) (next : Store) : Prop
  | kept (same : SameRecords s next)
  | edited {id : Int} {change : User → User} (keepsId : ∀ user, (change user).userid = user.userid)
      (keepsPassword : ∀ user, (change user).password = user.password)
      (cached : next.records = modify User.userid id change s.records)
      (loaded : next.rowRecords = modify User.userid id change s.rowRecords)
  | enrolled (new row : User) (sameId : row.userid = new.userid)
      (samePassword : row.password = new.password)
      (fresh : new.userid ∉ s.db.tables.users.rows.map UserRow.userId)
      (cached : next.records = s.records ++ [new])
      (loaded : next.rowRecords = s.rowRecords ++ [row])
  | changed {salt newpassword : Bytes} {id : Int}
      (call : m.call = .modifyUserPassword salt id newpassword) (granted : m.sql 0 = true)
      (cached : next.records =
        modify User.userid id (withPassword (hashPassword salt newpassword)) s.records)
      (loaded : next.rowRecords =
        modify User.userid id (withPassword (hashPassword salt newpassword)) s.rowRecords)

section Effects

variable {s next : Store} {m : Mutation}

/-! ### Calls -/

theorem addUser_passwords (salt : Bytes) (user : User) (sql : Nat → Bool) (s : Store) :
    PasswordEffect s ⟨.addUser salt user, sql⟩ (s.mutate ⟨.addUser salt user, sql⟩) := by
  rcases addUser_enrolled salt user sql s with ⟨-, same⟩ | ⟨enrols, joined⟩
  · exact .kept same
  · refine .enrolled _ _ ?_ ?_ enrols.2.2 joined.cached joined.loaded
    all_goals rfl

theorem addGroup_passwords (groupname : Bytes) (ownerid : Int) (sql : Nat → Bool) (s : Store) :
    PasswordEffect s ⟨.addGroup groupname ownerid, sql⟩
      (s.mutate ⟨.addGroup groupname ownerid, sql⟩) := by
  rcases addGroup_enrolled groupname ownerid sql s with ⟨-, same⟩ | ⟨enrols, joined⟩
  · exact .kept same
  · refine .enrolled _ _ ?_ ?_ enrols.2 joined.cached joined.loaded
    all_goals rfl

theorem renameGroup_passwords (groupid : Int) (newname : Bytes) (sql : Nat → Bool) (s : Store) :
    PasswordEffect s ⟨.renameGroup groupid newname, sql⟩
      (s.mutate ⟨.renameGroup groupid newname, sql⟩) := by
  rcases renameGroup_outcome groupid newname (s.withOutcomes sql) with same | edited
  · exact .kept ⟨same.cached, same.loaded⟩
  · refine .edited ?_ ?_ edited.cached edited.loaded
    · intro user
      rfl
    · intro user
      rfl

theorem updateUserInfo_passwords (userid : Int) (newuserinfo : User) (sql : Nat → Bool)
    (s : Store) : PasswordEffect s ⟨.updateUserInfo userid newuserinfo, sql⟩
      (s.mutate ⟨.updateUserInfo userid newuserinfo, sql⟩) := by
  rcases updateUserInfo_outcome userid newuserinfo (s.withOutcomes sql) with same | edited
  · exact .kept ⟨same.cached, same.loaded⟩
  · refine .edited ?_ ?_ edited.cached edited.loaded
    · intro user
      rfl
    · intro user
      rfl

theorem modifyUserPassword_passwords (salt : Bytes) (userid : Int) (newpassword : Bytes)
    (sql : Nat → Bool) (s : Store) :
    PasswordEffect s ⟨.modifyUserPassword salt userid newpassword, sql⟩
      (s.mutate ⟨.modifyUserPassword salt userid newpassword, sql⟩) := by
  rcases modifyUserPassword_outcome salt userid newpassword (s.withOutcomes sql) with same | edited
  · exact .kept ⟨same.cached, same.loaded⟩
  · exact .changed rfl edited.granted edited.cached edited.loaded

theorem mutate_passwords (s : Store) (m : Mutation) : PasswordEffect s m (s.mutate m) := by
  obtain ⟨call, sql⟩ := m
  cases call with
  | addUser salt user => exact addUser_passwords salt user sql s
  | addGroup groupname ownerid => exact addGroup_passwords groupname ownerid sql s
  | renameGroup groupid newname => exact renameGroup_passwords groupid newname sql s
  | updateUserInfo userid newuserinfo => exact updateUserInfo_passwords userid newuserinfo sql s
  | modifyUserPassword salt userid newpassword =>
      exact modifyUserPassword_passwords salt userid newpassword sql s
  | makeFriendRelationship smallid greatid =>
      have same := makeFriendRelationship_records smallid greatid (s.withOutcomes sql)
      exact .kept ⟨same.cached, same.loaded⟩
  | releaseFriendRelationship smallid greatid =>
      have same := releaseFriendRelationship_records smallid greatid (s.withOutcomes sql)
      exact .kept ⟨same.cached, same.loaded⟩
  | deleteFriendToUser userid friendid =>
      have same := deleteFriendToUser_records userid friendid (s.withOutcomes sql)
      exact .kept ⟨same.cached, same.loaded⟩
  | setGroupAdmin groupid userid isAdmin =>
      have same := setGroupAdmin_records groupid userid isAdmin (s.withOutcomes sql)
      exact .kept ⟨same.cached, same.loaded⟩

/-! ### The two sides -/

theorem storedPassword_eq (userid : Int) (s : Store) :
    s.storedPassword userid = (lookup User.userid userid s.rowRecords).map User.password := by
  have carries : ∀ row, (loadedUser row).userid = row.userId := fun _ => rfl
  rw [storedPassword, rowRecords, lookup_map carries, Option.map_map]
  rfl

theorem passwordsAgree_iff : s.PasswordsAgree ↔
    ∀ record ∈ s.records, s.storedPassword record.userid = some record.password := by
  constructor
  · intro agree record member
    obtain ⟨user, isUser, rfl⟩ := List.mem_map.mp member
    exact agree user isUser
  · intro agree user member
    exact agree (bare user) (List.mem_map_of_mem member)

theorem storedPassword_of_same (same : next.rowRecords = s.rowRecords) (id : Int) :
    next.storedPassword id = s.storedPassword id := by
  rw [storedPassword_eq, same, storedPassword_eq]

theorem SameRecords.passwordsAgree (same : SameRecords s next) (agree : s.PasswordsAgree) :
    next.PasswordsAgree := by
  rw [passwordsAgree_iff] at agree ⊢
  intro record member
  rw [same.cached] at member
  rw [storedPassword_of_same same.loaded]
  exact agree record member

/-- A loaded record has the password of the row it was built from. -/
theorem passwordsAgree_init (loads : LoadOutcome) (db : MySql) :
    (init loads db).PasswordsAgree := by
  intro user member
  obtain ⟨row, isRow, rfl⟩ := List.mem_map.mp member
  have inTable := (List.mem_insertionSort _).mp isRow
  have found : lookup UserRow.userId row.userId db.tables.users.rows = some row :=
    lookup_of_mem db.tables.users.distinct inTable
  show (lookup UserRow.userId row.userId db.tables.users.rows).map UserRow.password = _
  rw [found]
  rfl

/-- A password that no call replaced is still there. -/
theorem PasswordEffect.stored (effect : PasswordEffect s m next) {id : Int} {password : Bytes}
    (before : s.storedPassword id = some password)
    (unchanged : ∀ salt newpassword, m.call = .modifyUserPassword salt id newpassword →
      m.sql 0 = false) : next.storedPassword id = some password := by
  rw [storedPassword_eq] at before ⊢
  obtain ⟨row, found, isPassword⟩ := Option.map_eq_some_iff.mp before
  cases effect with
  | kept same => rw [same.loaded, before]
  | @edited edited change keepsId keepsPassword cached loaded =>
      rw [loaded]
      by_cases same : id = edited
      · subst same
        rw [lookup_modify_same keepsId, found]
        simp only [Option.map_some, keepsPassword, isPassword]
      · rw [lookup_modify_other keepsId same, before]
  | enrolled new row sameId samePassword fresh cached loaded =>
      rw [loaded, lookup_append, found]
      exact congrArg some isPassword
  | @changed salt newpassword changed call granted cached loaded =>
      have other : id ≠ changed := by
        rintro rfl
        rw [unchanged salt newpassword call] at granted
        cases granted
      rw [loaded, lookup_modify_other (withPassword_userid _) other, before]

/-- The call that replaces a password replaces that of its account. -/
theorem storedPassword_changed {hashed : Bytes} {id : Int}
    (loaded : next.rowRecords = modify User.userid id (withPassword hashed) s.rowRecords)
    (known : s.storedPassword id ≠ none) : next.storedPassword id = some hashed := by
  rw [storedPassword_eq] at known ⊢
  rw [loaded, lookup_modify_same (withPassword_userid hashed)]
  cases found : lookup User.userid id s.rowRecords with
  | none => simp [found] at known
  | some row => rfl

theorem storedPassword_modified (salt : Bytes) {id : Int} (newpassword : Bytes)
    {sql : Nat → Bool} (granted : sql 0 = true) (known : s.storedPassword id ≠ none) :
    (s.mutate ⟨.modifyUserPassword salt id newpassword, sql⟩).storedPassword id =
      some (hashPassword salt newpassword) := by
  refine storedPassword_changed ?_ known
  exact (modifyUserPassword_granted (s := s.withOutcomes sql) salt id newpassword granted).2.loaded

/-- A call keeps the two sides in agreement. -/
theorem PasswordEffect.agree (effect : PasswordEffect s m next) (agree : s.PasswordsAgree) :
    next.PasswordsAgree := by
  cases effect with
  | kept same => exact same.passwordsAgree agree
  | @edited edited change keepsId keepsPassword cached loaded =>
      rw [passwordsAgree_iff] at agree ⊢
      intro record member
      rw [cached] at member
      obtain ⟨old, isOld, rfl⟩ := List.mem_map.mp member
      have before := agree old isOld
      rw [storedPassword_eq] at before ⊢
      rw [loaded, key_changed keepsId]
      by_cases same : old.userid = edited
      · obtain ⟨row, found, isPassword⟩ := Option.map_eq_some_iff.mp before
        rw [if_pos same, same, lookup_modify_same keepsId, ← same, found, Option.map_some,
          Option.map_some, keepsPassword, keepsPassword, isPassword]
      · rw [if_neg same, lookup_modify_other keepsId same, before]
  | enrolled new row sameId samePassword fresh cached loaded =>
      rw [passwordsAgree_iff] at agree ⊢
      intro record member
      rw [cached, List.mem_append, List.mem_singleton] at member
      rw [storedPassword_eq, loaded, lookup_append]
      rcases member with old | rfl
      · have before := agree record old
        rw [storedPassword_eq] at before
        obtain ⟨kept, found, isPassword⟩ := Option.map_eq_some_iff.mp before
        rw [found]
        exact congrArg some isPassword
      · have absent : lookup User.userid record.userid s.rowRecords = none := by
          have carries : ∀ row, (loadedUser row).userid = row.userId := fun _ => rfl
          rw [rowRecords, lookup_map carries, lookup_eq_none_iff.mpr fresh, Option.map_none]
        rw [absent, lookup, List.find?_singleton, if_pos (decide_eq_true sameId)]
        exact congrArg some samePassword
  | @changed salt newpassword changed call granted cached loaded =>
      rw [passwordsAgree_iff] at agree ⊢
      intro record member
      rw [cached] at member
      obtain ⟨old, isOld, rfl⟩ := List.mem_map.mp member
      have before := agree old isOld
      rw [key_changed (withPassword_userid _)]
      by_cases same : old.userid = changed
      · rw [if_pos same, same]
        refine storedPassword_changed loaded ?_
        rw [← same, before]
        exact Option.some_ne_none _
      · rw [if_neg same, storedPassword_eq, loaded,
          lookup_modify_other (withPassword_userid _) same, ← storedPassword_eq, before]

end Effects

end Store

end AimServer
