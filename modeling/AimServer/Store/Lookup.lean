import AimServer.Store.UserManager

/-!
Contract: what the account cache answers after an assignment, a statement, a
query or a load.

Owns: record lookup after a record was changed, the two outcomes of a
statement, and the record an id has in a freshly loaded cache.

Does not own: any call of `UserManager`.
-/

namespace AimServer

open AimServer.Lib

namespace Store

/-! ### Records -/

theorem getUserByID_modifyUser {id : Int} (change : User → User)
    (keeps : ∀ user, (change user).userid = user.userid) (k : Int) (s : Store) :
    (s.modifyUser id change).getUserByID k =
      if k = id then (s.getUserByID k).map change else s.getUserByID k := by
  by_cases same : k = id
  · subst same
    rw [if_pos rfl]
    exact lookup_modify_same keeps
  · rw [if_neg same]
    exact lookup_modify_other keeps same

@[simp] theorem modifyUser_db (id : Int) (change : User → User) (s : Store) :
    (s.modifyUser id change).db = s.db := rfl

@[simp] theorem modifyUser_baseGroupID (id : Int) (change : User → User) (s : Store) :
    (s.modifyUser id change).baseGroupID = s.baseGroupID := rfl

theorem isFriend_iff {a b : Int} {s : Store} :
    s.isFriend a b = true ↔ ∃ user, s.getUserByID a = some user ∧ b ∈ user.friends := by
  unfold isFriend
  cases s.getUserByID a <;> simp

theorem isGroupAdmin_iff {a b : Int} {s : Store} :
    s.isGroupAdmin a b = true ↔ ∃ group, s.getUserByID a = some group ∧ b ∈ group.admins := by
  unfold isGroupAdmin
  cases s.getUserByID a <;> simp

section ModifyUser

variable {id : Int} (change : User → User) (keeps : ∀ user, (change user).userid = user.userid)

include keeps

theorem cached_modifyUser (owner : ∀ user, (change user).ownerid = user.ownerid) (k : Int)
    (s : Store) :
    ((s.modifyUser id change).getUserByID k).map User.ownerid =
      (s.getUserByID k).map User.ownerid := by
  rw [getUserByID_modifyUser change keeps]
  split
  · cases s.getUserByID k <;> simp [owner]
  · rfl

theorem isFriend_modifyUser (friends : ∀ user, (change user).friends = user.friends) (a b : Int)
    (s : Store) : (s.modifyUser id change).isFriend a b = s.isFriend a b := by
  rw [Bool.eq_iff_iff, isFriend_iff, isFriend_iff, getUserByID_modifyUser change keeps]
  split
  · cases s.getUserByID a <;> simp [friends]
  · rfl

theorem isGroupAdmin_modifyUser (admins : ∀ user, (change user).admins = user.admins) (a b : Int)
    (s : Store) : (s.modifyUser id change).isGroupAdmin a b = s.isGroupAdmin a b := by
  rw [Bool.eq_iff_iff, isGroupAdmin_iff, isGroupAdmin_iff, getUserByID_modifyUser change keeps]
  split
  · cases s.getUserByID a <;> simp [admins]
  · rfl

theorem getUserByID_isSome_modifyUser (k : Int) (s : Store) :
    ((s.modifyUser id change).getUserByID k).isSome = (s.getUserByID k).isSome := by
  rw [getUserByID_modifyUser change keeps]
  split <;> simp

end ModifyUser

/-- Without a record there is nothing to change. -/
theorem modifyUser_of_none {id : Int} {change : User → User} {s : Store}
    (absent : s.getUserByID id = none) : s.modifyUser id change = s := by
  unfold modifyUser
  rw [modify_of_not_mem (lookup_eq_none_iff.mp absent)]

/-- Adding to the friend set of one record. -/
theorem isFriend_addFriend (id friendid a b : Int) (s : Store) :
    (s.modifyUser id (addFriend friendid)).isFriend a b = true ↔
      s.isFriend a b = true ∨ ((s.getUserByID a).isSome ∧ a = id ∧ b = friendid) := by
  rw [isFriend_iff, isFriend_iff,
    getUserByID_modifyUser (addFriend friendid) (fun _ => rfl)]
  by_cases same : a = id
  · cases s.getUserByID a <;> simp [same, addFriend, or_comm]
  · simp [same]

/-- Erasing from the friend set of one record. -/
theorem isFriend_eraseFriend (id friendid a b : Int) (s : Store) :
    (s.modifyUser id (eraseFriend friendid)).isFriend a b = true ↔
      s.isFriend a b = true ∧ ¬ (a = id ∧ b = friendid) := by
  rw [isFriend_iff, isFriend_iff,
    getUserByID_modifyUser (eraseFriend friendid) (fun _ => rfl)]
  by_cases same : a = id
  · cases s.getUserByID a <;> simp [same, eraseFriend, and_comm]
  · simp [same]

/-! ### Statements -/

theorem execute_cases (stmt : Stmt) (s : Store) :
    s.execute stmt = (false, { s with db := s.db.advance }) ∨
      (s.db.outcomes 0 = true ∧ ∃ tables, stmt.apply s.db.tables = some tables ∧
        s.execute stmt = (true, { s with db := { s.db.advance with tables } })) := by
  unfold execute
  cases result : s.db.execute stmt with
  | mk ok db =>
      cases ok with
      | false => exact Or.inl (by rw [MySql.execute_failed result])
      | true =>
          obtain ⟨granted, tables, applied, rfl⟩ := MySql.execute_succeeded result
          exact Or.inr ⟨granted, tables, applied, rfl⟩

/-- A statement that is granted and violates no key takes effect. -/
theorem execute_granted {stmt : Stmt} {s : Store} {tables : Tables}
    (granted : s.db.outcomes 0 = true) (applied : stmt.apply s.db.tables = some tables) :
    s.execute stmt = (true, { s with db := { s.db.advance with tables } }) := by
  simp only [execute, MySql.execute, granted, applied]

/-- A statement that is not granted fails. -/
theorem execute_denied {stmt : Stmt} {s : Store} (denied : s.db.outcomes 0 = false) :
    s.execute stmt = (false, { s with db := s.db.advance }) := by
  simp only [execute, MySql.execute, denied]

@[simp] theorem query_store {α : Type} (select : Tables → α) (s : Store) :
    (s.query select).2 = { s with db := s.db.advance } := by
  simp [query]

/-- A transitive relation that every query and every `INSERT` of a request keeps to
holds over `AddFriendRequest`. -/
theorem addFriendRequest_relates (related : Store → Store → Prop)
    (trans : ∀ {s middle next}, related s middle → related middle next → related s next)
    (queries : ∀ s : Store, related s { s with db := s.db.advance })
    (inserts : ∀ row (s : Store), related s (s.execute (.insertFriendRequest row)).2)
    (fromId toId reqType groupId : Int) (message : Bytes) (s : Store) :
    related s (s.addFriendRequest fromId toId reqType groupId message).2 := by
  have queried : ∀ {α : Type} {select : Tables → α} {answer : Option α} {before after : Store},
      before.query select = (answer, after) → related before after := by
    intro α select answer before after isQuery
    have advanced := query_store select before
    rw [isQuery] at advanced
    cases advanced
    exact queries before
  have inserted : ∀ {row : FriendRequestRow} {ok : Bool} {before after : Store},
      before.execute (.insertFriendRequest row) = (ok, after) → related before after := by
    intro row ok before after isExecute
    have written := inserts row before
    rw [isExecute] at written
    exact written
  unfold addFriendRequest
  split
  · rename_i looked
    exact queried looked
  · rename_i looked
    split
    · rename_i refused
      exact trans (queried looked) (inserted refused)
    · rename_i stored
      split
      all_goals
        rename_i counted
        exact trans (trans (queried looked) (inserted stored)) (queried counted)

/-! ### Loading -/

/-- The friend set a record is loaded with. -/
theorem mem_loadRelationship {userid friendid : Int} {rows : List (Int × Int)} :
    friendid ∈ loadRelationship userid rows ↔
      (userid, friendid) ∈ rows ∨ (friendid, userid) ∈ rows := by
  unfold loadRelationship
  induction rows using List.reverseRecOn with
  | nil => simp
  | append_singleton rows row inductionHypothesis =>
      obtain ⟨first, second⟩ := row
      rw [List.foldl_append, List.foldl_cons, List.foldl_nil]
      simp only [List.mem_append, List.mem_singleton, Prod.mk.injEq]
      split
      · rename_i isFirst
        subst isFirst
        rw [Finset.mem_insert, inductionHypothesis]
        constructor <;> grind
      · split
        · rename_i isSecond
          subst isSecond
          rw [Finset.mem_insert, inductionHypothesis]
          constructor <;> grind
        · rw [inductionHypothesis]
          constructor <;> grind

theorem mem_loadGroupAdmins {groupid userid : Int} {rows : List (Int × Int)} :
    userid ∈ loadGroupAdmins groupid rows ↔ (groupid, userid) ∈ rows := by
  unfold loadGroupAdmins
  induction rows using List.reverseRecOn with
  | nil => simp
  | append_singleton rows row inductionHypothesis =>
      obtain ⟨first, second⟩ := row
      rw [List.foldl_append, List.foldl_cons, List.foldl_nil]
      simp only [List.mem_append, List.mem_singleton, Prod.mk.injEq]
      split
      · rename_i isFirst
        subst isFirst
        rw [Finset.mem_insert, inductionHypothesis]
        constructor <;> grind
      · rw [inductionHypothesis]
        constructor <;> grind

/-- The record a loaded cache has for an id is the one built from its row. -/
theorem getUserByID_init (loads : LoadOutcome) (db : MySql) (id : Int) :
    (init loads db).getUserByID id =
      (lookup UserRow.userId id db.tables.users.rows).map (initUser loads db.tables) := by
  have sorted := List.perm_insertionSort
    (fun first second : UserRow => second.userId ≤ first.userId) db.tables.users.rows
  have carries : ∀ row, (initUser loads db.tables row).userid = row.userId := fun _ => rfl
  rw [getUserByID, init, lookup_map carries, lookup_perm db.tables.users.distinct sorted.symm]

/-- A base that follows the greatest id of some rows never falls below its
start. -/
theorem le_foldl_base (admits : UserRow → Prop) [DecidablePred admits] (base : Int)
    (rows : List UserRow) :
    base ≤ rows.foldl
      (fun base row => if admits row ∧ row.userId > base then row.userId else base) base := by
  induction rows generalizing base with
  | nil => exact le_refl _
  | cons row rest inductionHypothesis =>
      refine le_trans ?_ (inductionHypothesis _)
      dsimp only
      split
      · omega
      · exact le_refl _

/-- Nor does it reach a bound that all those ids stay below. -/
theorem foldl_base_lt (admits : UserRow → Prop) [DecidablePred admits] {base bound : Int}
    {rows : List UserRow} (start : base < bound)
    (below : ∀ row ∈ rows, admits row → row.userId < bound) :
    rows.foldl (fun base row => if admits row ∧ row.userId > base then row.userId else base) base <
      bound := by
  induction rows generalizing base with
  | nil => exact start
  | cons row rest inductionHypothesis =>
      refine inductionHypothesis ?_ fun later member => below later (List.mem_cons_of_mem _ member)
      dsimp only
      split
      · rename_i taken
        exact below row List.mem_cons_self taken.1
      · exact start

/-- Group ids start above the boundary. -/
theorem groupIdBoundary_le_init (loads : LoadOutcome) (db : MySql) :
    groupIdBoundary ≤ (init loads db).baseGroupID :=
  le_foldl_base (fun row => row.userId ≥ groupIdBoundary) _ _

/-- User ids start above zero. -/
theorem zero_le_init (loads : LoadOutcome) (db : MySql) : 0 ≤ (init loads db).baseUserID :=
  le_foldl_base (fun row => row.userId < groupIdBoundary) _ _

theorem init_baseUserID_lt (loads : LoadOutcome) (db : MySql) :
    (init loads db).baseUserID < groupIdBoundary :=
  foldl_base_lt (fun row => row.userId < groupIdBoundary) (by decide) fun _ _ isUser => isUser

theorem init_baseGroupID_lt (loads : LoadOutcome) {db : MySql} {bound : Int}
    (start : groupIdBoundary < bound)
    (below : ∀ row ∈ db.tables.users.rows, row.userId ≥ groupIdBoundary → row.userId < bound) :
    (init loads db).baseGroupID < bound := by
  refine foldl_base_lt (fun row => row.userId ≥ groupIdBoundary) start ?_
  intro row member
  exact below row ((List.mem_insertionSort _).mp member)

end Store

end AimServer
