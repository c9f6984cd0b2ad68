import AimServer.Graph.Model
import AimServer.Store.MsgCache
import AimServer.Store.Lookup

/-!
Contract: every call of `UserManager` and `MsgCacheManager` acts on the social
graph as an operation of it, or not at all.

Owns: the graph of a store, the relation between a store and a later one, and
one lemma per call.

Does not own: who may make the call.
-/

namespace AimServer

open AimServer.Lib

namespace Store

/-- The graph a store holds. -/
def graph (s : Store) : Graph where
  cached id := (s.getUserByID id).map User.ownerid
  friend a b := s.isFriend a b
  admin a b := s.isGroupAdmin a b
  account id := (lookup UserRow.userId id s.db.tables.users.rows).map UserRow.ownerId
  links := s.db.tables.relationships
  appointed a b := (a, b) ∈ s.db.tables.groupAdmins
  request id := s.db.tables.friendRequests.find id

/-- `next` is `s` after `ops`; ids are only handed out upwards. -/
structure Follows (ops : List GraphOp) (s next : Store) : Prop where
  graph : next.graph = s.graph.perform ops
  groupBase : s.baseGroupID ≤ next.baseGroupID
  userBase : s.baseUserID ≤ next.baseUserID

namespace Follows

theorem refl (s : Store) : Follows [] s s := ⟨rfl, le_refl _, le_refl _⟩

theorem trans {first second : List GraphOp} {s middle next : Store}
    (before : Follows first s middle) (after : Follows second middle next) :
    Follows (first ++ second) s next :=
  ⟨by rw [after.graph, before.graph, Graph.perform_append],
   before.groupBase.trans after.groupBase, before.userBase.trans after.userBase⟩

end Follows

/-! ### The cache -/

theorem cached_isSome {id : Int} {s : Store} :
    (s.graph.cached id).isSome = (s.getUserByID id).isSome := by
  simp [graph]

theorem cached_of_getUserByID {id : Int} {user : User} {s : Store}
    (found : s.getUserByID id = some user) : s.graph.cached id = some user.ownerid := by
  simp [graph, found]

/-- A record change the graph does not see. -/
def Unseen (change : User → User) : Prop :=
  ∀ user, (change user).userid = user.userid ∧ (change user).ownerid = user.ownerid ∧
    (change user).friends = user.friends ∧ (change user).admins = user.admins

theorem graph_modifyUser {id : Int} {change : User → User} (unseen : Unseen change) (s : Store) :
    (s.modifyUser id change).graph = s.graph := by
  have keeps : ∀ user, (change user).userid = user.userid := fun user => (unseen user).1
  ext k other
  case cached =>
    simp only [graph, cached_modifyUser change keeps fun user => (unseen user).2.1]
  case friend =>
    simp only [graph, isFriend_modifyUser change keeps fun user => (unseen user).2.2.1]
  case admin =>
    simp only [graph, isGroupAdmin_modifyUser change keeps fun user => (unseen user).2.2.2]
  all_goals rfl

/-! ### Statements -/

/-- The tables agree on everything the graph reads. -/
structure SameGraphTables (t next : Tables) : Prop where
  account : ∀ id, (lookup UserRow.userId id next.users.rows).map UserRow.ownerId =
    (lookup UserRow.userId id t.users.rows).map UserRow.ownerId
  relationships : next.relationships = t.relationships
  groupAdmins : next.groupAdmins = t.groupAdmins
  friendRequests : next.friendRequests = t.friendRequests

theorem SameGraphTables.refl (t : Tables) : SameGraphTables t t :=
  ⟨fun _ => rfl, rfl, rfl, rfl⟩

/-- A row update that keeps the owner column is not seen. -/
theorem sameGraphTables_update {t : Tables} {id : Int} {change : UserRow → UserRow}
    (keeps : ∀ row, (change row).userId = row.userId)
    (owner : ∀ row, (change row).ownerId = row.ownerId) :
    SameGraphTables t { t with users := t.users.update id change keeps } := by
  refine ⟨fun k => ?_, rfl, rfl, rfl⟩
  rw [KeyedTable.update_rows]
  by_cases same : k = id
  · subst same
    rw [lookup_modify_same keeps, Option.map_map]
    congr 1
    funext row
    exact owner row
  · rw [lookup_modify_other keeps same]

theorem graph_db {s : Store} {db : MySql} (same : SameGraphTables s.db.tables db.tables) :
    ({ s with db } : Store).graph = s.graph := by
  ext k
  case account => exact iff_of_eq (congrArg (· = some _) (same.account k))
  case links => simp [graph, same.relationships]
  case appointed => simp [graph, same.groupAdmins]
  case request => simp [graph, same.friendRequests]
  all_goals rfl

/-- Only the tables of a database matter to the graph. -/
@[simp] theorem graph_advance (s : Store) :
    ({ s with db := s.db.advance } : Store).graph = s.graph :=
  graph_db (.refl _)

/-- A statement on columns or tables the graph does not read. -/
def UnseenStmt (stmt : Stmt) : Prop :=
  ∀ t next, stmt.apply t = some next → SameGraphTables t next

theorem execute_unseen {stmt : Stmt} (unseen : UnseenStmt stmt) (s : Store) :
    Follows [] s (s.execute stmt).2 := by
  rcases execute_cases stmt s with failed | ⟨-, tables, applied, succeeded⟩
  · rw [failed]
    exact ⟨graph_advance s, le_refl _, le_refl _⟩
  · rw [succeeded]
    exact ⟨graph_db (unseen _ _ applied), le_refl _, le_refl _⟩

theorem query_follows {α : Type} (select : Tables → α) (s : Store) :
    Follows [] s (s.query select).2 := by
  rw [query_store]
  exact ⟨graph_advance s, le_refl _, le_refl _⟩

/-! ### Calls the graph does not see -/

/-- A statement and a record change, neither of which the graph sees. -/
theorem execute_modifyUser_follows {stmt : Stmt} (unseenStmt : UnseenStmt stmt) (id : Int)
    {change : User → User} (unseen : Unseen change) (s : Store) :
    Follows [] s ((s.execute stmt).2.modifyUser id change) := by
  have executed := execute_unseen unseenStmt s
  exact ⟨(graph_modifyUser unseen _).trans executed.graph, executed.groupBase, executed.userBase⟩

theorem setUserStatus_follows (userid status : Int) (s : Store) :
    Follows [] s (s.setUserStatus userid status).2 := by
  unfold setUserStatus
  split
  · exact .refl s
  · have unseen : Unseen ({ · with status }) := fun _ => ⟨rfl, rfl, rfl, rfl⟩
    exact ⟨graph_modifyUser unseen s, le_refl _, le_refl _⟩

theorem unseenStmt_updateUserInfo (userid : Int) (profile : ProfileUpdate) :
    UnseenStmt (.updateUserInfo userid profile) := by
  intro t next applied
  cases applied
  exact sameGraphTables_update _ (fun _ => rfl)

theorem updateUserInfo_follows (userid : Int) (newuserinfo : User) (s : Store) :
    Follows [] s (s.updateUserInfo userid newuserinfo).2 := by
  have unseen := unseenStmt_updateUserInfo userid (profileOf newuserinfo)
  have executed := execute_unseen unseen s
  have unseenChange : Unseen (withProfile (profileOf newuserinfo)) :=
    fun _ => ⟨rfl, rfl, rfl, rfl⟩
  have modified := execute_modifyUser_follows unseen userid unseenChange s
  unfold updateUserInfo
  split
  · rename_i result
    rwa [result] at executed
  · rename_i result
    rwa [result] at modified

theorem modifyUserPassword_follows (salt : Bytes) (userid : Int) (newpassword : Bytes)
    (s : Store) : Follows [] s (s.modifyUserPassword salt userid newpassword).2 := by
  have unseen :
      UnseenStmt (.updatePassword userid (PasswordUtil.hashPassword salt newpassword)) := by
    intro t next applied
    cases applied
    exact sameGraphTables_update _ (fun _ => rfl)
  have executed := execute_unseen unseen s
  have unseenChange : Unseen ({ · with password := PasswordUtil.hashPassword salt newpassword }) :=
    fun _ => ⟨rfl, rfl, rfl, rfl⟩
  have modified := execute_modifyUser_follows unseen userid unseenChange s
  unfold modifyUserPassword
  dsimp only
  split
  · rename_i result
    rwa [result] at executed
  · rename_i result
    rwa [result] at modified

theorem renameGroup_follows (groupid : Int) (newname : Bytes) (s : Store) :
    Follows [] s (s.renameGroup groupid newname).2 := by
  have unseen : UnseenStmt (.renameUser groupid newname) := by
    intro t next applied
    cases applied
    exact sameGraphTables_update _ (fun _ => rfl)
  have executed := execute_unseen unseen s
  have unseenChange : Unseen ({ · with nickname := newname, username := newname }) :=
    fun _ => ⟨rfl, rfl, rfl, rfl⟩
  have modified := execute_modifyUser_follows unseen groupid unseenChange s
  unfold renameGroup
  split
  · rename_i result
    rwa [result] at executed
  · rename_i result
    rwa [result] at modified

theorem saveChatMsgToDb_follows (senderid targetid : Int) (msg : ChatMsg) (s : Store) :
    Follows [] s (s.saveChatMsgToDb senderid targetid msg).2 := by
  apply execute_unseen
  intro t next applied
  cases applied
  exact ⟨fun _ => rfl, rfl, rfl, rfl⟩

theorem insertOfflineMsg_follows (kind : OfflineKind) (userid : Int) (blob : Bytes) (s : Store) :
    Follows [] s (s.insertOfflineMsg kind userid blob).2 := by
  apply execute_unseen
  intro t next applied
  cases applied
  exact ⟨fun _ => rfl, rfl, rfl, rfl⟩

theorem fetchAndDeleteOfflineMsg_follows (kind : OfflineKind) (userid : Int) (s : Store) :
    Follows [] s (s.fetchAndDeleteOfflineMsg kind userid).2 := by
  have queried := query_follows (fun t =>
    (t.offlineMsgs.filter fun row => row.userid = userid ∧ row.msgtype = kind.code).map
      fun row => fromHex (toHex row.content)) s
  unfold fetchAndDeleteOfflineMsg
  split
  · rename_i result
    rwa [result] at queried
  · rename_i result
    rwa [result] at queried
  · rename_i result
    rw [result] at queried
    refine queried.trans (execute_unseen ?_ _)
    intro t next applied
    cases applied
    exact ⟨fun _ => rfl, rfl, rfl, rfl⟩

/-- The row of a request, read with the first statement. -/
theorem getFriendRequestById_cases (reqId : Int) (s : Store) :
    s.getFriendRequestById reqId = (none, { s with db := s.db.advance }) ∨
      ∃ row, s.db.outcomes 0 = true ∧ s.graph.request reqId = some row ∧
        s.getFriendRequestById reqId = (some row, { s with db := s.db.advance }) := by
  unfold getFriendRequestById query
  simp only [MySql.query_fst, MySql.query_snd, graph]
  split
  · rename_i row found result
    split at result
    · rename_i granted
      simp only [Prod.mk.injEq, Option.some.injEq] at result
      exact Or.inr ⟨row, granted, result.1, by rw [result.2]⟩
    · simp at result
  · rename_i result
    exact Or.inl (by rw [← (Prod.mk.inj result).2])

/-! ### Accounts -/

theorem account_eq_none {id : Int} {s : Store}
    (absent : id ∉ s.db.tables.users.rows.map UserRow.userId) : s.graph.account id = none := by
  simp [graph, lookup_eq_none_iff.mpr absent]

/-- A new row and a new record, of the same id and owner, at the end of both
lists. -/
theorem graph_enrol {s : Store} {db : MySql} {row : UserRow} {user : User} {base : Int}
    {users : KeyedTable UserRow UserRow.userId} {groupBase : Int}
    (inserted : s.db.tables.users.insert row = some users)
    (tables : db.tables = { s.db.tables with users })
    (sameId : user.userid = row.userId) (sameOwner : user.ownerid = row.ownerId)
    (noFriends : user.friends = ∅) (noAdmins : user.admins = ∅) :
    (⟨db, s.cachedUsers ++ [user], base, groupBase⟩ : Store).graph =
      s.graph.enrol row.userId row.ownerId := by
  obtain ⟨-, rows⟩ := KeyedTable.insert_eq_some inserted
  have cached : ∀ k, (⟨db, s.cachedUsers ++ [user], base, groupBase⟩ : Store).getUserByID k =
      (s.getUserByID k).or (if k = row.userId then some user else none) := by
    intro k
    rw [getUserByID, lookup_append]
    congr 1
    by_cases new : k = row.userId
    · simp [lookup, sameId, new]
    · simp [lookup, sameId, new, Ne.symm new]
  ext k other
  case cached =>
    simp only [Graph.enrol, graph, cached]
    cases s.getUserByID k <;> by_cases new : k = row.userId <;> simp [new, sameOwner]
  case friend =>
    simp only [Graph.enrol, graph, isFriend_iff, cached]
    cases s.getUserByID k <;> by_cases new : k = row.userId <;> simp [new, noFriends]
  case admin =>
    simp only [Graph.enrol, graph, isGroupAdmin_iff, cached]
    cases s.getUserByID k <;> by_cases new : k = row.userId <;> simp [new, noAdmins]
  case account =>
    simp only [Graph.enrol, graph, tables, rows, lookup_append]
    cases lookup UserRow.userId k s.db.tables.users.rows <;>
      by_cases new : k = row.userId <;> simp [lookup, new, eq_comm]
  all_goals simp [Graph.enrol, graph, tables]

theorem addUser_cases (salt : Bytes) (user : User) (s : Store)
    (noFriends : user.friends = ∅) (noAdmins : user.admins = ∅) :
    Follows [] s (s.addUser salt user).2 ∨
      (s.graph.account (s.baseUserID + 1) = none ∧
        Follows [.enrol (s.baseUserID + 1) 0] s (s.addUser salt user).2) := by
  have grows : s.baseUserID ≤ s.baseUserID + 1 := by omega
  unfold addUser
  split
  · exact Or.inl (.refl s)
  · dsimp only
    rcases execute_cases (.insertUser (s.baseUserID + 1) user.username user.nickname
      (PasswordUtil.hashPassword salt user.password) user.mail) s with
      failed | ⟨-, tables, applied, succeeded⟩
    · rw [failed]
      exact Or.inl ⟨graph_advance s, le_refl _, le_refl _⟩
    · obtain ⟨users, inserted, rfl⟩ := Option.map_eq_some_iff.mp applied
      rw [succeeded]
      exact Or.inr ⟨account_eq_none (KeyedTable.insert_eq_some inserted).1,
        graph_enrol inserted rfl rfl rfl noFriends noAdmins, le_refl _, grows⟩

/-- `AddGroup` uses one statement, and either fails or enrols the next group
id. -/
theorem addGroup_cases (groupname : Bytes) (ownerid : Int) (s : Store) :
    ((s.addGroup groupname ownerid).1 = none ∧ Follows [] s (s.addGroup groupname ownerid).2) ∨
      ((s.addGroup groupname ownerid).1 = some (s.baseGroupID + 1) ∧
        s.db.outcomes 0 = true ∧ s.graph.account (s.baseGroupID + 1) = none ∧
        Follows [.enrol (s.baseGroupID + 1) ownerid] s (s.addGroup groupname ownerid).2 ∧
        ∀ n, (s.addGroup groupname ownerid).2.db.outcomes n = s.db.outcomes (n + 1)) := by
  have grows : s.baseGroupID ≤ s.baseGroupID + 1 := by omega
  unfold addGroup
  dsimp only
  rcases execute_cases (.insertGroup (s.baseGroupID + 1) (cStr groupname) (cStr groupname) []
    ownerid) { s with baseGroupID := s.baseGroupID + 1 } with
    failed | ⟨granted, tables, applied, succeeded⟩
  · rw [failed]
    exact Or.inl ⟨rfl, graph_advance s, grows, le_refl _⟩
  · obtain ⟨users, inserted, rfl⟩ := Option.map_eq_some_iff.mp applied
    rw [succeeded]
    exact Or.inr ⟨rfl, granted, account_eq_none (KeyedTable.insert_eq_some inserted).1,
      ⟨graph_enrol inserted rfl rfl rfl rfl rfl, grows, le_refl _⟩, fun _ => rfl⟩

/-! ### Relationships -/

/-- The cache part of `MakeFriendRelationship` once `smallid` has a record. -/
def linkCached (smallid greatid : Int) (s : Store) : Store :=
  (s.modifyUser smallid (addFriend greatid)).modifyUser greatid (addFriend smallid)

theorem graph_linkCached {small great : Int} {s : Store} {db : MySql}
    (known : (s.getUserByID small).isSome)
    (tables : db.tables =
      { s.db.tables with relationships := s.db.tables.relationships ++ [(small, great)] }) :
    (({ s with db } : Store).linkCached small great).graph = s.graph.link small great := by
  have sameRecords : ∀ k, ({ s with db } : Store).getUserByID k = s.getUserByID k := fun _ => rfl
  have sameFriends : ∀ a b, ({ s with db } : Store).isFriend a b = s.isFriend a b := fun _ _ => rfl
  ext k other
  case cached =>
    simp only [graph, Graph.link, linkCached]
    rw [cached_modifyUser (addFriend small) (fun _ => rfl) (fun _ => rfl),
      cached_modifyUser (addFriend great) (fun _ => rfl) (fun _ => rfl)]
    rfl
  case friend =>
    simp only [graph, Graph.link, linkCached, Graph.SamePair, isFriend_addFriend, sameFriends,
      getUserByID_isSome_modifyUser (addFriend great) (fun _ => rfl), sameRecords,
      Option.isSome_map, known, true_and, or_assoc, and_or_left]
  case admin =>
    simp only [graph, Graph.link, linkCached]
    rw [isGroupAdmin_modifyUser (addFriend small) (fun _ => rfl) (fun _ => rfl),
      isGroupAdmin_modifyUser (addFriend great) (fun _ => rfl) (fun _ => rfl)]
    rfl
  all_goals simp [graph, Graph.link, linkCached, tables]

theorem graph_link_unknown {small great : Int} {s : Store} {db : MySql}
    (unknown : s.getUserByID small = none)
    (tables : db.tables =
      { s.db.tables with relationships := s.db.tables.relationships ++ [(small, great)] }) :
    ({ s with db } : Store).graph = s.graph.link small great := by
  ext k other
  case friend =>
    simp only [graph, Graph.link, unknown]
    simp [isFriend, getUserByID]
  case links | appointed | account | request => simp [graph, Graph.link, tables]
  all_goals rfl

/-- `MakeFriendRelationship` after its `INSERT` took effect. -/
theorem makeFriendRelationship_granted {small great : Int} {s : Store} {db : MySql}
    (ordered : small < great)
    (executed : s.execute (.insertRelationship small great) = (true, { s with db }))
    (tables : db.tables =
      { s.db.tables with relationships := s.db.tables.relationships ++ [(small, great)] }) :
    ((s.makeFriendRelationship small great).1 = true ↔
        (s.getUserByID small).isSome ∧ (s.getUserByID great).isSome) ∧
      Follows [.link small great] s (s.makeFriendRelationship small great).2 ∧
      (s.makeFriendRelationship small great).2.db = db := by
  have sameRecords : ∀ k, ({ s with db } : Store).getUserByID k = s.getUserByID k := fun _ => rfl
  have stillKnown :
      ((({ s with db } : Store).modifyUser small (addFriend great)).getUserByID great).isSome =
        (({ s with db } : Store).getUserByID great).isSome :=
    getUserByID_isSome_modifyUser (addFriend great) (fun _ => rfl) great _
  unfold makeFriendRelationship
  rw [if_neg (by omega), executed]
  dsimp only
  rw [sameRecords] at stillKnown ⊢
  cases foundSmall : s.getUserByID small with
  | none => exact ⟨by simp, ⟨graph_link_unknown foundSmall tables, le_refl _, le_refl _⟩, rfl⟩
  | some smallUser =>
      have linked := graph_linkCached (Option.isSome_of_eq_some foundSmall) tables
      dsimp only
      split
      · rename_i unknown
        rw [unknown] at stillKnown
        -- The record that is missing is also the one `linkCached` would change.
        rw [linkCached, modifyUser_of_none unknown] at linked
        exact ⟨by simp [← stillKnown], ⟨linked, le_refl _, le_refl _⟩, rfl⟩
      · rename_i greatUser known
        rw [known] at stillKnown
        exact ⟨by simp [← stillKnown], ⟨linked, le_refl _, le_refl _⟩, rfl⟩

/-- The `INSERT` of an ordered pair that is granted. -/
theorem execute_insertRelationship {small great : Int} {s : Store}
    (granted : s.db.outcomes 0 = true) :
    s.execute (.insertRelationship small great) = (true, { s with
      db := { s.db.advance with tables := { s.db.tables with
        relationships := s.db.tables.relationships ++ [(small, great)] } } }) := by
  simp [execute, MySql.execute, granted, Stmt.apply]

/-- Without an ordered pair and a granted `INSERT` nothing is touched. -/
theorem makeFriendRelationship_refused {small great : Int} {s : Store}
    (refused : ¬ (small < great ∧ s.db.outcomes 0 = true)) :
    (s.makeFriendRelationship small great).1 = false ∧
      ((s.makeFriendRelationship small great).2 = s ∨
        (s.makeFriendRelationship small great).2 = { s with db := s.db.advance }) := by
  unfold makeFriendRelationship
  by_cases ordered : small < great
  · have failed : s.db.outcomes 0 = false := by
      cases granted : s.db.outcomes 0 with
      | false => rfl
      | true => exact absurd ⟨ordered, granted⟩ refused
    have executed : s.execute (.insertRelationship small great) =
        (false, { s with db := s.db.advance }) := by
      simp [execute, MySql.execute, failed]
    rw [if_neg (by omega), executed]
    exact ⟨rfl, Or.inr rfl⟩
  · rw [if_pos (by omega)]
    exact ⟨rfl, Or.inl rfl⟩

/-- `MakeFriendRelationship` uses one statement. Where it takes effect the
pair is linked, and the result says whether both ids have a record. -/
theorem makeFriendRelationship_cases (small great : Int) (s : Store) :
    ((s.makeFriendRelationship small great).1 = false ∧
        ¬ (small < great ∧ s.db.outcomes 0 = true) ∧
        Follows [] s (s.makeFriendRelationship small great).2) ∨
      (small < great ∧ s.db.outcomes 0 = true ∧
        ((s.makeFriendRelationship small great).1 = true ↔
          (s.getUserByID small).isSome ∧ (s.getUserByID great).isSome) ∧
        Follows [.link small great] s (s.makeFriendRelationship small great).2 ∧
        ∀ n, (s.makeFriendRelationship small great).2.db.outcomes n = s.db.outcomes (n + 1)) := by
  by_cases effective : small < great ∧ s.db.outcomes 0 = true
  · obtain ⟨ordered, granted⟩ := effective
    obtain ⟨result, follows, db⟩ :=
      makeFriendRelationship_granted ordered (execute_insertRelationship granted) rfl
    exact Or.inr ⟨ordered, granted, result, follows, fun n => by rw [db]; rfl⟩
  · obtain ⟨result, same | advanced⟩ := makeFriendRelationship_refused effective
    · exact Or.inl ⟨result, effective, by rw [same]; exact .refl s⟩
    · refine Or.inl ⟨result, effective, ?_⟩
      rw [advanced]
      exact ⟨graph_advance s, le_refl _, le_refl _⟩

theorem graph_unlinkCached {small great a b : Int} {s : Store} {db : MySql}
    (pair : (small = a ∧ great = b) ∨ (small = b ∧ great = a))
    (tables : db.tables =
      { s.db.tables with relationships := s.db.tables.relationships.filter (· ≠ (small, great)) }) :
    (({ s with db } : Store).unlinkCached a b).graph = s.graph.unlink small great := by
  have sameFriends : ∀ a b, ({ s with db } : Store).isFriend a b = s.isFriend a b := fun _ _ => rfl
  ext k other
  case cached =>
    simp only [graph, Graph.unlink, unlinkCached]
    rw [cached_modifyUser (eraseFriend a) (fun _ => rfl) (fun _ => rfl),
      cached_modifyUser (eraseFriend b) (fun _ => rfl) (fun _ => rfl)]
    rfl
  case friend =>
    simp only [graph, Graph.unlink, unlinkCached, Graph.SamePair, isFriend_eraseFriend, sameFriends]
    rcases pair with ⟨rfl, rfl⟩ | ⟨rfl, rfl⟩ <;> tauto
  case admin =>
    simp only [graph, Graph.unlink, unlinkCached]
    rw [isGroupAdmin_modifyUser (eraseFriend a) (fun _ => rfl) (fun _ => rfl),
      isGroupAdmin_modifyUser (eraseFriend b) (fun _ => rfl) (fun _ => rfl)]
    rfl
  all_goals simp [graph, Graph.unlink, unlinkCached, tables]

theorem releaseFriendRelationship_cases (small great : Int) (s : Store) :
    (¬ (small < great ∧ s.db.outcomes 0 = true) ∧
        Follows [] s (s.releaseFriendRelationship small great).2) ∨
      (small < great ∧ s.db.outcomes 0 = true ∧
        Follows [.unlink small great] s (s.releaseFriendRelationship small great).2) := by
  unfold releaseFriendRelationship
  split
  · exact Or.inl ⟨by omega, .refl s⟩
  · rename_i ordered
    cases granted : s.db.outcomes 0 with
    | false =>
        rw [execute_denied granted]
        exact Or.inl ⟨by simp, graph_advance s, le_refl _, le_refl _⟩
    | true =>
        rw [execute_granted granted rfl]
        exact Or.inr ⟨by omega, rfl, graph_unlinkCached (Or.inl ⟨rfl, rfl⟩) rfl, le_refl _,
          le_refl _⟩

theorem releaseFriendRelationship_granted {small great : Int} {s : Store} (ordered : small < great)
    (granted : s.db.outcomes 0 = true) : (s.releaseFriendRelationship small great).1 = true := by
  unfold releaseFriendRelationship
  rw [if_neg (not_le.mpr ordered), execute_granted granted rfl]

theorem deleteFriendToUser_cases (userid friendid : Int) (s : Store) :
    (s.db.outcomes 0 = false ∧ Follows [] s (s.deleteFriendToUser userid friendid).2) ∨
      (s.db.outcomes 0 = true ∧
        Follows [.unlink (if userid < friendid then userid else friendid)
          (if userid < friendid then friendid else userid)] s
          (s.deleteFriendToUser userid friendid).2) := by
  unfold deleteFriendToUser
  dsimp only
  cases granted : s.db.outcomes 0 with
  | false =>
      rw [execute_denied granted]
      exact Or.inl ⟨rfl, graph_advance s, le_refl _, le_refl _⟩
  | true =>
      rw [execute_granted granted rfl]
      refine Or.inr ⟨rfl, graph_unlinkCached ?_ rfl, le_refl _, le_refl _⟩
      split
      · exact Or.inl ⟨rfl, rfl⟩
      · exact Or.inr ⟨rfl, rfl⟩

/-! ### Group administrators -/

def addAdmin (userid : Int) (group : User) : User :=
  { group with admins := insert userid group.admins }

def eraseAdmin (userid : Int) (group : User) : User :=
  { group with admins := group.admins.erase userid }

theorem graph_addAdmin {group member : Int} {s : Store} {db : MySql}
    (users : db.tables.users = s.db.tables.users)
    (relationships : db.tables.relationships = s.db.tables.relationships)
    (friendRequests : db.tables.friendRequests = s.db.tables.friendRequests)
    (groupAdmins : ∀ x y, (x, y) ∈ db.tables.groupAdmins ↔
      (x, y) ∈ s.db.tables.groupAdmins ∨ (x = group ∧ y = member)) :
    (({ s with db } : Store).modifyUser group (addAdmin member)).graph =
      s.graph.appoint group member := by
  ext k other
  case cached =>
    simp only [graph, Graph.appoint]
    rw [cached_modifyUser (addAdmin member) (fun _ => rfl) (fun _ => rfl)]
    rfl
  case friend =>
    simp only [graph, Graph.appoint]
    rw [isFriend_modifyUser (addAdmin member) (fun _ => rfl) (fun _ => rfl)]
    rfl
  case admin =>
    have sameRecords : ∀ k, ({ s with db } : Store).getUserByID k = s.getUserByID k := fun _ => rfl
    simp only [graph, Graph.appoint, isGroupAdmin_iff,
      getUserByID_modifyUser (addAdmin member) (fun _ => rfl), sameRecords]
    by_cases same : k = group
    · subst same
      cases s.getUserByID k <;> simp [addAdmin, or_comm]
    · simp [same]
  case appointed => simp [graph, Graph.appoint, groupAdmins]
  all_goals simp [graph, Graph.appoint, users, relationships, friendRequests]

theorem graph_eraseAdmin {group member : Int} {s : Store} {db : MySql}
    (tables : db.tables =
      { s.db.tables with groupAdmins := s.db.tables.groupAdmins.filter (· ≠ (group, member)) }) :
    (({ s with db } : Store).modifyUser group (eraseAdmin member)).graph =
      s.graph.dismiss group member := by
  ext k other
  case cached =>
    simp only [graph, Graph.dismiss]
    rw [cached_modifyUser (eraseAdmin member) (fun _ => rfl) (fun _ => rfl)]
    rfl
  case friend =>
    simp only [graph, Graph.dismiss]
    rw [isFriend_modifyUser (eraseAdmin member) (fun _ => rfl) (fun _ => rfl)]
    rfl
  case admin =>
    have sameRecords : ∀ k, ({ s with db } : Store).getUserByID k = s.getUserByID k := fun _ => rfl
    simp only [graph, Graph.dismiss, isGroupAdmin_iff,
      getUserByID_modifyUser (eraseAdmin member) (fun _ => rfl), sameRecords]
    by_cases same : k = group
    · subst same
      cases s.getUserByID k <;> simp [eraseAdmin, and_comm]
    · simp [same]
  case appointed => simp [graph, Graph.dismiss, tables, ← imp_iff_not_or]
  all_goals simp [graph, Graph.dismiss, tables]

/-- The administrator row is there already: only the cache is written. -/
theorem setGroupAdmin_present {group member : Int} {s : Store} (granted : s.db.outcomes 0 = true)
    (present : (group, member) ∈ s.db.tables.groupAdmins) :
    Follows [.appoint group member] s (s.setGroupAdmin group member true).2 := by
  have queried : s.query (fun t => Decidable.decide ((group, member) ∈ t.groupAdmins)) =
      (some true, { s with db := s.db.advance }) := by
    simp [query, MySql.query, granted, present]
  unfold setGroupAdmin
  rw [if_pos rfl, queried]
  refine ⟨graph_addAdmin rfl rfl rfl ?_, le_refl _, le_refl _⟩
  intro x y
  constructor
  · exact Or.inl
  · intro appointed
    rcases appointed with old | ⟨rfl, rfl⟩
    · exact old
    · exact present

/-- The row was not found, or the query failed: the `INSERT` decides. -/
theorem setGroupAdmin_absent {group member : Int} {s : Store}
    (absent : ¬ (s.db.outcomes 0 = true ∧ (group, member) ∈ s.db.tables.groupAdmins)) :
    (s.db.outcomes 1 = false ∧ Follows [] s (s.setGroupAdmin group member true).2) ∨
      (s.db.outcomes 1 = true ∧
        Follows [.appoint group member] s (s.setGroupAdmin group member true).2) := by
  have queried : ∃ found, found ≠ some true ∧
      s.query (fun t => Decidable.decide ((group, member) ∈ t.groupAdmins)) =
        (found, { s with db := s.db.advance }) := by
    cases granted : s.db.outcomes 0 with
    | false => exact ⟨none, by simp, by simp [query, MySql.query, granted]⟩
    | true =>
        have missing : (group, member) ∉ s.db.tables.groupAdmins := fun present =>
          absent ⟨granted, present⟩
        exact ⟨some false, by simp, by simp [query, MySql.query, granted, missing]⟩
  obtain ⟨found, notFound, result⟩ := queried
  unfold setGroupAdmin
  rw [if_pos rfl, result]
  split
  · rename_i same
    cases same
    exact absurd rfl notFound
  · rename_i same
    cases same
    cases granted : s.db.outcomes 1 with
    | false =>
        rw [execute_denied granted]
        exact Or.inl ⟨rfl, graph_db (.refl _), le_refl _, le_refl _⟩
    | true =>
        rw [execute_granted granted rfl]
        exact Or.inr ⟨rfl, graph_addAdmin rfl rfl rfl (by simp), le_refl _, le_refl _⟩

/-- `SetGroupAdmin` appoints after its query found the row or its `INSERT`
took effect; dismissal is one statement. -/
theorem setGroupAdmin_cases (group member : Int) (isAdmin : Bool) (s : Store) :
    (¬ (isAdmin = true ∧ ((s.db.outcomes 0 = true ∧ s.graph.appointed group member) ∨
          s.db.outcomes 1 = true)) ∧
        Follows [] s (s.setGroupAdmin group member isAdmin).2) ∨
      (isAdmin = true ∧
        ((s.db.outcomes 0 = true ∧ s.graph.appointed group member) ∨ s.db.outcomes 1 = true) ∧
        Follows [.appoint group member] s (s.setGroupAdmin group member isAdmin).2) ∨
      (isAdmin = false ∧ s.db.outcomes 0 = true ∧
        Follows [.dismiss group member] s (s.setGroupAdmin group member isAdmin).2) := by
  cases isAdmin with
  | true =>
      by_cases present : s.db.outcomes 0 = true ∧ (group, member) ∈ s.db.tables.groupAdmins
      · exact Or.inr (Or.inl ⟨rfl, Or.inl present, setGroupAdmin_present present.1 present.2⟩)
      · rcases setGroupAdmin_absent present with ⟨denied, kept⟩ | ⟨granted, appointed⟩
        · refine Or.inl ⟨?_, kept⟩
          intro takesEffect
          obtain ⟨-, found | granted⟩ := takesEffect
          · exact present found
          · rw [denied] at granted
            cases granted
        · exact Or.inr (Or.inl ⟨rfl, Or.inr granted, appointed⟩)
  | false =>
      simp only [setGroupAdmin, Bool.false_eq_true, if_false]
      cases granted : s.db.outcomes 0 with
      | false =>
          rw [execute_denied granted]
          exact Or.inl ⟨by simp, graph_advance s, le_refl _, le_refl _⟩
      | true =>
          rw [execute_granted granted rfl]
          exact Or.inr (Or.inr ⟨trivial, rfl, graph_eraseAdmin rfl, le_refl _, le_refl _⟩)

/-! ### Requests -/

theorem graph_ask {s : Store} {db : MySql} {row : FriendRequestRow}
    (tables : db.tables =
      { s.db.tables with friendRequests := s.db.tables.friendRequests.insert row }) :
    ({ s with db } : Store).graph = s.graph.ask s.db.tables.friendRequests.next row := by
  ext k
  case request =>
    simp only [graph, Graph.ask, tables, AutoTable.find_insert]
  case cached | friend | admin => rfl
  all_goals simp [graph, Graph.ask, tables]

theorem graph_decide {s : Store} {db : MySql} {reqId status : Int}
    (tables : db.tables = { s.db.tables with
      friendRequests := s.db.tables.friendRequests.update reqId ({ · with status }) }) :
    ({ s with db } : Store).graph = s.graph.decide reqId status := by
  ext k
  case request =>
    simp only [graph, Graph.decide, tables, AutoTable.find_update]
    by_cases same : k = reqId <;> simp [same]
  case cached | friend | admin => rfl
  all_goals simp [graph, Graph.decide, tables]

/-- A pending request with the same parties, type and group. -/
def pendingDuplicate (fromId toId reqType groupId : Int) (t : Tables) : Bool :=
  t.friendRequests.rows.any fun entry => pendingMatch fromId toId reqType groupId entry.2

/-- `AddFriendRequest` stores a pending row under a new key, unless it found a
pending duplicate or its `INSERT` failed. -/
theorem addFriendRequest_cases (fromId toId reqType groupId : Int) (message : Bytes)
    (s : Store) :
    Follows [] s (s.addFriendRequest fromId toId reqType groupId message).2 ∨
      (s.db.outcomes 1 = true ∧
        ¬ (s.db.outcomes 0 = true ∧
          pendingDuplicate fromId toId reqType groupId s.db.tables = true) ∧
        ∃ key, s.graph.request key = none ∧
          Follows [.ask key ⟨fromId, toId, reqType, groupId, message, 0, s.db.clock⟩] s
            (s.addFriendRequest fromId toId reqType groupId message).2) := by
  have queried := query_store (fun t => t.friendRequests.rows.find? fun entry =>
    pendingMatch fromId toId reqType groupId entry.2) s
  unfold addFriendRequest
  split
  · rename_i found
    rw [found] at queried
    cases queried
    exact Or.inl ⟨graph_advance s, le_refl _, le_refl _⟩
  · rename_i next missing result
    rw [result] at queried
    cases queried
    have absent : ¬ (s.db.outcomes 0 = true ∧
        pendingDuplicate fromId toId reqType groupId s.db.tables = true) := by
      intro reported
      obtain ⟨granted, duplicate⟩ := reported
      have read := congrArg Prod.fst result
      simp only [query, MySql.query_fst, granted, if_true] at read
      obtain ⟨entry, found⟩ := Option.isSome_iff_exists.mp
        (List.find?_isSome.mpr (List.any_eq_true.mp duplicate))
      rw [found] at read
      exact missing entry read.symm
    rcases execute_cases (.insertFriendRequest
        ⟨fromId, toId, reqType, groupId, message, 0, s.db.clock⟩)
        { s with db := s.db.advance } with
      failed | ⟨granted, tables, applied, succeeded⟩
    · simp only [MySql.advance_clock, failed]
      exact Or.inl ⟨graph_db (.refl _), le_refl _, le_refl _⟩
    · cases applied
      simp only [MySql.advance_clock, succeeded]
      refine Or.inr ⟨granted, absent, s.db.tables.friendRequests.next,
        AutoTable.find_next _, ?_⟩
      split
      all_goals
        rename_i read
        have stored := congrArg Prod.snd read
        rw [query_store] at stored
        cases stored
        exact ⟨(graph_advance _).trans (graph_ask rfl), le_refl _, le_refl _⟩

/-- `UpdateRequestStatus` is one statement. -/
theorem updateRequestStatus_cases (reqId status : Int) (s : Store) :
    (s.db.outcomes 0 = false ∧ Follows [] s (s.updateRequestStatus reqId status).2) ∨
      (s.db.outcomes 0 = true ∧
        Follows [.decide reqId status] s (s.updateRequestStatus reqId status).2) := by
  unfold updateRequestStatus execute MySql.execute
  cases granted : s.db.outcomes 0 with
  | false => exact Or.inl ⟨rfl, graph_advance s, le_refl _, le_refl _⟩
  | true => exact Or.inr ⟨rfl, graph_decide rfl, le_refl _, le_refl _⟩

/-! ### Loading -/

/-- A restart rebuilds the graph from the tables. -/
theorem graph_init (loads : LoadOutcome) (s : Store) :
    (init loads s.db).graph = s.graph.reload loads.relationshipOk loads.adminsOk := by
  ext k other
  case cached =>
    simp only [graph, Graph.reload, getUserByID_init]
    cases lookup UserRow.userId k s.db.tables.users.rows <;> simp [initUser, loadedUser]
  case friend =>
    simp only [graph, Graph.reload, Graph.Related, isFriend_iff, getUserByID_init]
    cases found : lookup UserRow.userId k s.db.tables.users.rows with
    | none => simp
    | some row =>
        have key : row.userId = k := lookup_key found
        by_cases loaded : loads.relationshipOk k = true <;>
          simp [initUser, key, loaded, mem_loadRelationship]
  case admin =>
    simp only [graph, Graph.reload, isGroupAdmin_iff, getUserByID_init]
    cases found : lookup UserRow.userId k s.db.tables.users.rows with
    | none => simp
    | some row =>
        have key : row.userId = k := lookup_key found
        by_cases loaded : k ≥ groupIdBoundary ∧ loads.adminsOk k = true
        · simp [initUser, key, loaded, mem_loadGroupAdmins]
        · simp only [ge_iff_le, not_and, Bool.not_eq_true] at loaded
          simp [initUser, key]
          grind
  all_goals rfl

end Store

end AimServer
