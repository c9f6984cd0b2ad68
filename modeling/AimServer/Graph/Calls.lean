import AimServer.Graph.Refinement
import AimServer.Store.Calls

/-!
Contract: what one call of `UserManager` does to the social graph.

Owns: for every mutator with the outcomes of its statements, the graph after
it. Only an account that is added is left to the records of `Store.Calls`.
-/

namespace AimServer

open AimServer.Lib

namespace Store

variable {s : Store}

theorem graph_withOutcomes (sql : Nat → Bool) : (s.withOutcomes sql).graph = s.graph :=
  graph_db (.refl _)

/-! ### Calls that add no account -/

/-- A call that adds no account although it could leaves the graph. -/
theorem graph_addUser_idle {salt : Bytes} {user : User} {sql : Nat → Bool}
    (idle : ¬ s.Enrols ⟨.addUser salt user, sql⟩) :
    (s.mutate ⟨.addUser salt user, sql⟩).graph = s.graph := by
  simp only [mutate]
  rcases addUser_outcome salt user (s.withOutcomes sql) with
    ⟨-, result, db, -, sameTables, outcome⟩ | ⟨enrols, -⟩
  · rw [outcome]
    exact graph_db (sameTables ▸ .refl _)
  · exact absurd enrols idle

theorem graph_addGroup_idle {groupname : Bytes} {ownerid : Int} {sql : Nat → Bool}
    (idle : ¬ s.Enrols ⟨.addGroup groupname ownerid, sql⟩) :
    (s.mutate ⟨.addGroup groupname ownerid, sql⟩).graph = s.graph := by
  simp only [mutate]
  rcases addGroup_outcome groupname ownerid (s.withOutcomes sql) with
    ⟨-, db, sameTables, outcome⟩ | ⟨enrols, -⟩
  · rw [outcome]
    exact graph_db (sameTables ▸ .refl _)
  · exact absurd enrols idle

/-- Profiles and passwords are not part of the graph. -/
theorem graph_of_unseen {next : Store} {sql : Nat → Bool}
    (follows : Follows [] (s.withOutcomes sql) next) : next.graph = s.graph :=
  follows.graph.trans (graph_withOutcomes sql)

theorem graph_renameGroup (groupid : Int) (newname : Bytes) (sql : Nat → Bool) :
    (s.mutate ⟨.renameGroup groupid newname, sql⟩).graph = s.graph :=
  graph_of_unseen (renameGroup_follows groupid newname _)

theorem graph_updateUserInfo (userid : Int) (newuserinfo : User) (sql : Nat → Bool) :
    (s.mutate ⟨.updateUserInfo userid newuserinfo, sql⟩).graph = s.graph :=
  graph_of_unseen (updateUserInfo_follows userid newuserinfo _)

theorem graph_modifyUserPassword (salt : Bytes) (userid : Int) (newpassword : Bytes)
    (sql : Nat → Bool) :
    (s.mutate ⟨.modifyUserPassword salt userid newpassword, sql⟩).graph = s.graph :=
  graph_of_unseen (modifyUserPassword_follows salt userid newpassword _)

/-! ### Relationships and administrators -/

theorem graph_makeFriendRelationship (smallid greatid : Int) (sql : Nat → Bool) :
    (s.mutate ⟨.makeFriendRelationship smallid greatid, sql⟩).graph =
      if smallid < greatid ∧ sql 0 = true then s.graph.link smallid greatid else s.graph := by
  rcases makeFriendRelationship_cases smallid greatid (s.withOutcomes sql) with
    ⟨-, refused, follows⟩ | ⟨ordered, granted, -, follows, -⟩
  · have isRefused : ¬ (smallid < greatid ∧ sql 0 = true) := refused
    rw [if_neg isRefused]
    exact graph_of_unseen follows
  · have isGranted : sql 0 = true := granted
    rw [if_pos ⟨ordered, isGranted⟩, mutate, follows.graph, graph_withOutcomes]
    rfl

theorem graph_releaseFriendRelationship (smallid greatid : Int) (sql : Nat → Bool) :
    (s.mutate ⟨.releaseFriendRelationship smallid greatid, sql⟩).graph =
      if smallid < greatid ∧ sql 0 = true then s.graph.unlink smallid greatid else s.graph := by
  rcases releaseFriendRelationship_cases smallid greatid (s.withOutcomes sql) with
    ⟨refused, follows⟩ | ⟨ordered, granted, follows⟩
  · have isRefused : ¬ (smallid < greatid ∧ sql 0 = true) := refused
    rw [if_neg isRefused]
    exact graph_of_unseen follows
  · have isGranted : sql 0 = true := granted
    rw [if_pos ⟨ordered, isGranted⟩, mutate, follows.graph, graph_withOutcomes]
    rfl

theorem graph_deleteFriendToUser (userid friendid : Int) (sql : Nat → Bool) :
    (s.mutate ⟨.deleteFriendToUser userid friendid, sql⟩).graph =
      if sql 0 = true then s.graph.unlink (min userid friendid) (max userid friendid)
      else s.graph := by
  rcases deleteFriendToUser_cases userid friendid (s.withOutcomes sql) with
    ⟨denied, follows⟩ | ⟨granted, follows⟩
  · have isDenied : sql 0 = false := denied
    rw [if_neg (by simp [isDenied])]
    exact graph_of_unseen follows
  · have isGranted : sql 0 = true := granted
    rw [if_pos isGranted, mutate, follows.graph, graph_withOutcomes]
    by_cases ordered : userid < friendid
    · rw [if_pos ordered, if_pos ordered, min_eq_left ordered.le, max_eq_right ordered.le]
      rfl
    · have reversed : friendid ≤ userid := not_lt.mp ordered
      rw [if_neg ordered, if_neg ordered, min_eq_right reversed, max_eq_left reversed]
      rfl

theorem graph_setGroupAdmin (groupid userid : Int) (isAdmin : Bool) (sql : Nat → Bool) :
    ((s.mutate ⟨.setGroupAdmin groupid userid isAdmin, sql⟩).graph = s.graph ∧
        ¬ (isAdmin = true ∧
          ((sql 0 = true ∧ s.graph.appointed groupid userid) ∨ sql 1 = true))) ∨
      (isAdmin = true ∧ ((sql 0 = true ∧ s.graph.appointed groupid userid) ∨ sql 1 = true) ∧
        (s.mutate ⟨.setGroupAdmin groupid userid isAdmin, sql⟩).graph =
          s.graph.appoint groupid userid) ∨
      (isAdmin = false ∧ (s.mutate ⟨.setGroupAdmin groupid userid isAdmin, sql⟩).graph =
        s.graph.dismiss groupid userid) := by
  rcases setGroupAdmin_cases groupid userid isAdmin (s.withOutcomes sql) with
    ⟨refused, follows⟩ | ⟨appoints, effective, follows⟩ | ⟨dismisses, -, follows⟩
  · exact Or.inl ⟨graph_of_unseen follows, refused⟩
  · refine Or.inr (Or.inl ⟨appoints, effective, ?_⟩)
    rw [mutate, follows.graph, graph_withOutcomes]
    rfl
  · refine Or.inr (Or.inr ⟨dismisses, ?_⟩)
    rw [mutate, follows.graph, graph_withOutcomes]
    rfl

end Store

end AimServer
