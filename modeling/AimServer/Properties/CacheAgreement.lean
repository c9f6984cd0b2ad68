import AimServer.Graph.Calls
import AimServer.Graph.Settled

/-!
Contract: the account cache is what a restart would load.

Owns: the agreement of a cache with its tables, its split into profiles and
sets, the exact condition on a call under which it is kept, the theorem that a
run keeps it exactly when all its calls meet the condition, and the call that
breaks it.

`AddUser` and `AddGroup` cache the birthday 20000101 and leave `f_birthday` to
its default 19900101, so no new account agrees.
-/

namespace AimServer

open AimServer.Lib

namespace Store

/-- A record without its online status. -/
def offline (user : User) : User :=
  { user with status := 0 }

/-- Every id has the record in the cache that a new process would load for it,
online status aside. -/
def CacheAgrees (s : Store) : Prop :=
  ∀ id, (s.getUserByID id).map offline = ((init .allOk s.db).getUserByID id).map offline

/-- The exact condition on a call: no account is added, no relationship is
made for an unknown smaller id that the greater one misses, none is removed
that another row still holds, and nobody is appointed in a user's account. -/
def KeepsAgreement (s : Store) (m : Mutation) : Prop :=
  match m.call with
  | .makeFriendRelationship smallid greatid => smallid < greatid → m.sql 0 = true →
      (s.getUserByID smallid).isSome = false → (s.getUserByID greatid).isSome →
        s.isFriend greatid smallid = true
  | .releaseFriendRelationship smallid greatid => smallid < greatid → m.sql 0 = true →
      (s.getUserByID smallid).isSome ∨ (s.getUserByID greatid).isSome →
        (greatid, smallid) ∉ s.db.tables.relationships
  | .deleteFriendToUser userid friendid => userid ≠ friendid → m.sql 0 = true →
      (s.getUserByID userid).isSome ∨ (s.getUserByID friendid).isSome →
        (max userid friendid, min userid friendid) ∉ s.db.tables.relationships
  | .setGroupAdmin groupid userid isAdmin => isAdmin = true →
      (m.sql 0 = true ∧ (groupid, userid) ∈ s.db.tables.groupAdmins) ∨ m.sql 1 = true →
        (s.getUserByID groupid).isSome → groupid ≥ groupIdBoundary
  | _ => ¬ s.Enrols m

/-! ### Profiles and sets -/

/-- The records agree apart from their sets. -/
def ProfilesAgree (s : Store) : Prop :=
  ∀ id, lookup User.userid id s.records = lookup User.userid id s.rowRecords

section Split

variable {s : Store}

theorem lookup_records (id : Int) :
    lookup User.userid id s.records = (s.getUserByID id).map bare := by
  have carries : ∀ user, (bare user).userid = user.userid := fun _ => rfl
  exact lookup_map carries

theorem lookup_rowRecords (id : Int) :
    lookup User.userid id s.rowRecords =
      (lookup UserRow.userId id s.db.tables.users.rows).map loadedUser := by
  have carries : ∀ row, (loadedUser row).userid = row.userId := fun _ => rfl
  exact lookup_map carries

/-- A record equals a loaded one when its profile and its sets do. -/
theorem offline_eq_iff (user : User) (t : Tables) (row : UserRow) :
    offline user = offline (initUser .allOk t row) ↔
      bare user = loadedUser row ∧ user.friends = loadRelationship row.userId t.relationships ∧
        user.admins = if row.userId ≥ groupIdBoundary then loadGroupAdmins row.userId t.groupAdmins
          else ∅ := by
  obtain ⟨⟩ := user
  simp only [offline, bare, initUser, loadedUser, LoadOutcome.allOk, User.blank, User.mk.injEq]
  grind

/-- One id agrees when its profile and both its sets do. -/
theorem agreesAt_iff (id : Int) :
    (s.getUserByID id).map offline = ((init .allOk s.db).getUserByID id).map offline ↔
      lookup User.userid id s.records = lookup User.userid id s.rowRecords ∧
        (∀ b, s.graph.friend id b ↔ (s.graph.account id).isSome ∧ s.graph.Related id b) ∧
        ∀ b, s.graph.admin id b ↔
          (s.graph.account id).isSome ∧ id ≥ groupIdBoundary ∧ s.graph.appointed id b := by
  rw [getUserByID_init, lookup_records, lookup_rowRecords]
  simp only [graph, isFriend_iff, isGroupAdmin_iff, Option.isSome_map, Graph.Related]
  cases found : s.getUserByID id with
  | none =>
      cases loaded : lookup UserRow.userId id s.db.tables.users.rows with
      | none => simp
      | some row => simp
  | some user =>
      cases loaded : lookup UserRow.userId id s.db.tables.users.rows with
      | none => simp
      | some row =>
          have key : row.userId = id := lookup_key loaded
          simp only [Option.map_some, Option.some.injEq, offline_eq_iff, key, Finset.ext_iff,
            exists_eq_left', Option.isSome_some, true_and, mem_loadRelationship]
          refine and_congr_right fun _ => and_congr_right fun _ => forall_congr' fun b => ?_
          by_cases isGroup : id ≥ groupIdBoundary
          · simp [isGroup, mem_loadGroupAdmins]
          · simp [isGroup]

/-- A cache agrees when its profiles and its sets do. -/
theorem cacheAgrees_iff : s.CacheAgrees ↔ s.ProfilesAgree ∧ s.graph.Settled := by
  constructor
  · intro agrees
    have split := fun id => (agreesAt_iff id).mp (agrees id)
    exact ⟨fun id => (split id).1, ⟨fun id => (split id).2.1, fun id => (split id).2.2⟩⟩
  · intro agrees id
    obtain ⟨profiles, settled⟩ := agrees
    exact (agreesAt_iff id).mpr ⟨profiles id, settled.friend id, settled.admin id⟩

/-- Profiles that agree have the same ids. -/
theorem ProfilesAgree.sameIds (profiles : s.ProfilesAgree) : s.graph.SameIds := by
  intro id
  have same := congrArg Option.isSome (profiles id)
  rw [lookup_records, lookup_rowRecords, Option.isSome_map, Option.isSome_map] at same
  simpa [graph] using same

end Split

section Calls

variable {s next : Store} {m : Mutation}

/-! ### Profiles after a call -/

/-- Profiles stay in agreement unless an account is added. -/
theorem profilesAgree_mutate_iff (profiles : s.ProfilesAgree) :
    (s.mutate m).ProfilesAgree ↔ ¬ s.Enrols m := by
  have effect := mutate_records s m
  cases effect with
  | kept idle cached loaded =>
      refine iff_of_true ?_ idle
      intro id
      rw [cached, loaded]
      exact profiles id
  | enrolled new row enrols named sameId sameName fresh birthday rowBirthday cached loaded =>
      refine iff_of_false ?_ (not_not.mpr enrols)
      intro agrees
      have noRow : lookup User.userid new.userid s.rowRecords = none := by
        rw [lookup_rowRecords, lookup_eq_none_iff.mpr fresh]
        rfl
      have noRecord : lookup User.userid new.userid s.records = none :=
        (profiles new.userid).trans noRow
      have same := agrees new.userid
      rw [cached, loaded, lookup_append, lookup_append, noRow, noRecord] at same
      have found : some new = some row := by
        simpa [lookup, sameId] using same
      have birthdays := congrArg (Option.map User.birthday) found
      simp [birthday, rowBirthday] at birthdays
  | edited idle keepsId keepsName cached loaded =>
      rename_i edited change
      refine iff_of_true ?_ idle
      intro id
      rw [cached, loaded]
      by_cases same : id = edited
      · rw [same, lookup_modify_same keepsId, lookup_modify_same keepsId, profiles edited]
      · rw [lookup_modify_other keepsId same, lookup_modify_other keepsId same, profiles id]

/-! ### Sets after a call -/

/-- The sets after a relationship is made. -/
theorem settled_makeFriendRelationship_iff (settled : s.graph.Settled)
    (sameIds : s.graph.SameIds) (smallid greatid : Int) (sql : Nat → Bool) :
    (s.mutate ⟨.makeFriendRelationship smallid greatid, sql⟩).graph.Settled ↔
      s.KeepsAgreement ⟨.makeFriendRelationship smallid greatid, sql⟩ := by
  have known : (s.graph.account greatid).isSome = (s.getUserByID greatid).isSome := by
    rw [← sameIds greatid, cached_isSome]
  rw [graph_makeFriendRelationship, KeepsAgreement]
  by_cases effective : smallid < greatid ∧ sql 0 = true
  · rw [if_pos effective, Graph.settled_link_iff settled sameIds, cached_isSome, known]
    simp only [effective, forall_const]
    rfl
  · rw [if_neg effective]
    refine iff_of_true settled ?_
    intro ordered granted
    exact absurd ⟨ordered, granted⟩ effective

/-- The sets after a relationship is removed, whichever call removes it. -/
theorem settled_unlinked_iff (settled : s.graph.Settled) (sameIds : s.graph.SameIds)
    (smallid greatid : Int) :
    (s.graph.unlink smallid greatid).Settled ↔ (smallid ≠ greatid →
      (s.getUserByID smallid).isSome ∨ (s.getUserByID greatid).isSome →
        (greatid, smallid) ∉ s.db.tables.relationships) := by
  have known : ∀ id, (s.graph.account id).isSome = (s.getUserByID id).isSome := by
    intro id
    rw [← sameIds id, cached_isSome]
  rw [Graph.settled_unlink_iff settled, known, known]
  rfl

theorem settled_releaseFriendRelationship_iff (settled : s.graph.Settled)
    (sameIds : s.graph.SameIds) (smallid greatid : Int) (sql : Nat → Bool) :
    (s.mutate ⟨.releaseFriendRelationship smallid greatid, sql⟩).graph.Settled ↔
      s.KeepsAgreement ⟨.releaseFriendRelationship smallid greatid, sql⟩ := by
  rw [graph_releaseFriendRelationship, KeepsAgreement]
  by_cases effective : smallid < greatid ∧ sql 0 = true
  · have different : smallid ≠ greatid := by omega
    rw [if_pos effective, settled_unlinked_iff settled sameIds]
    simp only [effective, different, ne_eq, not_false_eq_true, forall_const]
  · rw [if_neg effective]
    refine iff_of_true settled ?_
    intro ordered granted
    exact absurd ⟨ordered, granted⟩ effective

theorem settled_deleteFriendToUser_iff (settled : s.graph.Settled)
    (sameIds : s.graph.SameIds) (userid friendid : Int) (sql : Nat → Bool) :
    (s.mutate ⟨.deleteFriendToUser userid friendid, sql⟩).graph.Settled ↔
      s.KeepsAgreement ⟨.deleteFriendToUser userid friendid, sql⟩ := by
  rw [graph_deleteFriendToUser, KeepsAgreement]
  by_cases granted : sql 0 = true
  · rw [if_pos granted, settled_unlinked_iff settled sameIds]
    rcases le_total userid friendid with ordered | reversed
    · simp only [granted, forall_const, max_eq_right ordered, min_eq_left ordered]
    · simp only [granted, forall_const, max_eq_left reversed, min_eq_right reversed, ne_comm,
        or_comm]
  · rw [if_neg granted]
    refine iff_of_true settled ?_
    intro _ isGranted
    exact absurd isGranted granted

theorem settled_setGroupAdmin_iff (settled : s.graph.Settled) (sameIds : s.graph.SameIds)
    (groupid userid : Int) (isAdmin : Bool) (sql : Nat → Bool) :
    (s.mutate ⟨.setGroupAdmin groupid userid isAdmin, sql⟩).graph.Settled ↔
      s.KeepsAgreement ⟨.setGroupAdmin groupid userid isAdmin, sql⟩ := by
  rw [KeepsAgreement]
  rcases graph_setGroupAdmin (s := s) groupid userid isAdmin sql with
    ⟨same, refused⟩ | ⟨appoints, effective, appointed⟩ | ⟨dismisses, dismissed⟩
  · rw [same]
    refine iff_of_true settled ?_
    intro appoints effective
    exact absurd ⟨appoints, effective⟩ refused
  · rw [appointed, Graph.settled_appoint_iff settled sameIds, cached_isSome]
    constructor
    · intro keeps _ _
      exact keeps
    · intro keeps
      exact keeps appoints effective
  · rw [dismissed]
    refine iff_of_true (settled.dismiss groupid userid) ?_
    intro appoints
    rw [dismisses] at appoints
    cases appoints

/-- One call keeps the agreement exactly under the condition. -/
theorem cacheAgrees_mutate_iff (m : Mutation) (agrees : s.CacheAgrees) :
    (s.mutate m).CacheAgrees ↔ s.KeepsAgreement m := by
  obtain ⟨profiles, settled⟩ := cacheAgrees_iff.mp agrees
  have sameIds := profiles.sameIds
  rw [cacheAgrees_iff, profilesAgree_mutate_iff profiles]
  obtain ⟨call, sql⟩ := m
  have onlySets : ¬ False ∧ (s.mutate ⟨call, sql⟩).graph.Settled ↔
      (s.mutate ⟨call, sql⟩).graph.Settled := by simp
  cases call with
  | addUser salt user =>
      refine and_iff_left_of_imp ?_
      intro idle
      rw [graph_addUser_idle idle]
      exact settled
  | addGroup groupname ownerid =>
      refine and_iff_left_of_imp ?_
      intro idle
      rw [graph_addGroup_idle idle]
      exact settled
  | renameGroup groupid newname =>
      refine and_iff_left_of_imp ?_
      intro _
      rw [graph_renameGroup]
      exact settled
  | updateUserInfo userid newuserinfo =>
      refine and_iff_left_of_imp ?_
      intro _
      rw [graph_updateUserInfo]
      exact settled
  | modifyUserPassword salt userid newpassword =>
      refine and_iff_left_of_imp ?_
      intro _
      rw [graph_modifyUserPassword]
      exact settled
  | makeFriendRelationship smallid greatid =>
      exact onlySets.trans (settled_makeFriendRelationship_iff settled sameIds _ _ sql)
  | releaseFriendRelationship smallid greatid =>
      exact onlySets.trans (settled_releaseFriendRelationship_iff settled sameIds _ _ sql)
  | deleteFriendToUser userid friendid =>
      exact onlySets.trans (settled_deleteFriendToUser_iff settled sameIds _ _ sql)
  | setGroupAdmin groupid userid isAdmin =>
      exact onlySets.trans (settled_setGroupAdmin_iff settled sameIds _ _ _ sql)

end Calls

/-- A loaded cache agrees with its tables. -/
theorem cacheAgrees_init (db : MySql) : (init .allOk db).CacheAgrees :=
  fun _ => rfl

end Store

/-- In a run of calls the cache agrees with the tables all along exactly when
every call meets the condition. -/
theorem cache_agrees_iff (tables : Tables) (steps : List Mutation) :
    (∀ past rest, steps = past ++ rest → (run Store.mutate
        (Store.init .allOk ⟨tables, fun _ => true, 0⟩) past).CacheAgrees) ↔
      AllSteps Store.mutate Store.KeepsAgreement
        (Store.init .allOk ⟨tables, fun _ => true, 0⟩) steps :=
  always_iff_allSteps Store.CacheAgrees (fun _ => True) (fun _ _ kept => kept)
    (fun _ label _ => Store.cacheAgrees_mutate_iff label) (Store.cacheAgrees_init _) trivial

/-- A new group is cached with another birthday than its row has. -/
theorem new_group_disagrees :
    ¬ (run Store.mutate (Store.init .allOk ⟨.empty, fun _ => true, 0⟩)
      [⟨.addGroup (str "club") 1, fun _ => true⟩]).CacheAgrees := by
  intro agrees
  have birthdays := congrArg (Option.map User.birthday) (agrees 268435456)
  exact absurd birthdays (by decide)

end AimServer
