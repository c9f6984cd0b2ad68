import AimServer.Store.Calls

/-!
Contract: the ranges of account ids.

Owns: the ids that `AddUser` and `AddGroup` hand out over a run of calls and
restarts, the exact condition on a call under which users stay below the
boundary, groups above it and both counters in 32 bits, and the call that
breaks it.

`AddUser` hands out the next id without looking at the boundary, so the user
after 0xFFFFFFE gets the boundary itself. `AddGroup` advances its counter even
when the statement fails.
-/

namespace AimServer

open AimServer.Lib

/-- The account store with the ids of its users and of its groups. -/
structure Accounts where
  store : Store
  users : List Int
  groups : List Int

/-- A call with the outcomes of its statements, or a new process. -/
inductive IdStep where
  | addUser (salt : Bytes) (user : User) (sql : Nat → Bool)
  | addGroup (groupname : Bytes) (ownerid : Int) (sql : Nat → Bool)
  | restart (loads : Store.LoadOutcome)

namespace Accounts

/-- `AddUser` hands out `m_baseUserID` when it succeeds, `AddGroup` its
result. -/
def step (a : Accounts) : IdStep → Accounts
  | .addUser salt user sql =>
      match (a.store.withOutcomes sql).addUser salt user with
      | (.ok, store) => { a with store, users := a.users ++ [store.baseUserID] }
      | (_, store) => { a with store }
  | .addGroup groupname ownerid sql =>
      match (a.store.withOutcomes sql).addGroup groupname ownerid with
      | (some groupid, store) => { a with store, groups := a.groups ++ [groupid] }
      | (none, store) => { a with store }
  | .restart loads => { a with store := Store.init loads a.store.db }

/-- The ids of `t_user`. -/
def ids (a : Accounts) : List Int :=
  a.store.db.tables.users.rows.map UserRow.userId

/-- A process on a database whose users have ids in `[1, 0xFFFFFFF)` and whose
groups have ids in `(0xFFFFFFF, 2^31)`. -/
structure Starts (a : Accounts) : Prop where
  loaded : ∃ loads db, a.store = Store.init loads db
  accounts : (a.users ++ a.groups).Perm a.ids
  users : ∀ id ∈ a.users, 1 ≤ id ∧ id < groupIdBoundary
  groups : ∀ id ∈ a.groups, groupIdBoundary < id ∧ id < 2 ^ 31

/-- All ids are distinct and in the range of their kind, no counter has left
32 bits, and the boundary tells the groups from the users. -/
structure InRanges (a : Accounts) : Prop where
  distinct : (a.users ++ a.groups).Nodup
  users : ∀ id ∈ a.users, 1 ≤ id ∧ id < groupIdBoundary
  groups : ∀ id ∈ a.groups, groupIdBoundary < id ∧ id < 2 ^ 31
  userCounter : a.store.baseUserID < 2 ^ 31
  groupCounter : a.store.baseGroupID < 2 ^ 31
  told : ∀ account ∈ a.store.cachedUsers,
    account.userid ≥ groupIdBoundary ↔ account.userid ∈ a.groups

/-- An accepted `AddUser` finds the next id below the boundary; an `AddGroup`
finds it below `2^31`, whether or not it succeeds. -/
def NextFits (a : Accounts) : IdStep → Prop
  | .addUser _ user sql => Store.duplicateScan user a.store.cachedUsers = none → sql 0 = true →
      a.store.baseUserID + 1 < groupIdBoundary
  | .addGroup _ _ _ => a.store.baseGroupID + 1 < 2 ^ 31
  | .restart _ => True

instance (a : Accounts) : (label : IdStep) → Decidable (a.NextFits label)
  | .addUser _ user sql =>
      inferInstanceAs (Decidable (Store.duplicateScan user a.store.cachedUsers = none →
        sql 0 = true → _))
  | .addGroup _ _ _ => inferInstanceAs (Decidable (_ < _))
  | .restart _ => isTrue trivial

/-! ### What a step does -/

variable {a next : Accounts} {label : IdStep}

/-- The outcomes of the three kinds of step. -/
inductive Changes (a : Accounts) : IdStep → Accounts → Prop
  | refusedUser {salt : Bytes} {user : User} {sql : Nat → Bool} (db : MySql)
      (sameTables : db.tables = a.store.db.tables)
      (refused : Store.duplicateScan user a.store.cachedUsers = none → sql 0 = true →
        a.store.baseUserID + 1 ∈ a.ids) :
      Changes a (.addUser salt user sql) { a with store := { a.store with db } }
  | newUser {salt : Bytes} {user : User} {sql : Nat → Bool} (db : MySql) (record : User)
      (accepted : Store.duplicateScan user a.store.cachedUsers = none ∧ sql 0 = true)
      (rows : db.tables.users.rows.map UserRow.userId = a.ids ++ [a.store.baseUserID + 1])
      (isNew : record.userid = a.store.baseUserID + 1) :
      Changes a (.addUser salt user sql)
        { a with
          store := { a.store with
            db
            baseUserID := a.store.baseUserID + 1
            cachedUsers := a.store.cachedUsers ++ [record] }
          users := a.users ++ [a.store.baseUserID + 1] }
  | refusedGroup {groupname : Bytes} {ownerid : Int} {sql : Nat → Bool} (db : MySql)
      (sameTables : db.tables = a.store.db.tables) :
      Changes a (.addGroup groupname ownerid sql)
        { a with store := { a.store with db, baseGroupID := a.store.baseGroupID + 1 } }
  | newGroup {groupname : Bytes} {ownerid : Int} {sql : Nat → Bool} (db : MySql) (record : User)
      (rows : db.tables.users.rows.map UserRow.userId = a.ids ++ [a.store.baseGroupID + 1])
      (isNew : record.userid = a.store.baseGroupID + 1) :
      Changes a (.addGroup groupname ownerid sql)
        { a with
          store := { a.store with
            db
            baseGroupID := a.store.baseGroupID + 1
            cachedUsers := a.store.cachedUsers ++ [record] }
          groups := a.groups ++ [a.store.baseGroupID + 1] }
  | restarted (loads : Store.LoadOutcome) :
      Changes a (.restart loads) { a with store := Store.init loads a.store.db }

theorem step_changes (a : Accounts) (label : IdStep) : Changes a label (a.step label) := by
  cases label with
  | addUser salt user sql =>
      unfold step
      rcases Store.addUser_outcome salt user (a.store.withOutcomes sql) with
        ⟨idle, result, db, notOk, sameTables, outcome⟩ | ⟨enrols, db, rows, outcome⟩
      · have refused : Store.duplicateScan user a.store.cachedUsers = none → sql 0 = true →
            a.store.baseUserID + 1 ∈ a.ids := by
          intro unused granted
          by_contra fresh
          exact idle ⟨unused, granted, fresh⟩
        simp only [outcome]
        cases result with
        | ok => exact absurd rfl notOk
        | usernameTaken => exact .refusedUser db sameTables refused
        | mailTaken => exact .refusedUser db sameTables refused
        | databaseError => exact .refusedUser db sameTables refused
      · simp only [outcome]
        refine .newUser db _ ⟨enrols.1, enrols.2.1⟩ ?_ rfl
        rw [rows, List.map_append]
        rfl
  | addGroup groupname ownerid sql =>
      unfold step
      rcases Store.addGroup_outcome groupname ownerid (a.store.withOutcomes sql) with
        ⟨-, db, sameTables, outcome⟩ | ⟨enrols, db, rows, outcome⟩
      · simp only [outcome]
        exact .refusedGroup db sameTables
      · simp only [outcome]
        refine .newGroup db _ ?_ rfl
        rw [rows, List.map_append]
        rfl
  | restart loads => exact .restarted loads

/-! ### What every run keeps -/

/-- The ids handed out are those of the table and of the cache, and the
counters are where such ids, or the start, left them. -/
structure Tracked (a : Accounts) : Prop where
  accounts : (a.users ++ a.groups).Perm a.ids
  cached : (a.store.cachedUsers.map User.userid).Perm a.ids
  userStart : 0 ≤ a.store.baseUserID
  userBase : a.store.baseUserID < groupIdBoundary ∨ a.store.baseUserID ∈ a.users
  groupBase : groupIdBoundary ≤ a.store.baseGroupID

theorem cached_init (loads : Store.LoadOutcome) (db : MySql) :
    ((Store.init loads db).cachedUsers.map User.userid).Perm
      (db.tables.users.rows.map UserRow.userId) := by
  have sorted := List.perm_insertionSort
    (fun first second : UserRow => second.userId ≤ first.userId) db.tables.users.rows
  have sameIds : (Store.init loads db).cachedUsers.map User.userid =
      (db.tables.users.rows.insertionSort fun first second => second.userId ≤ first.userId).map
        UserRow.userId := by
    simp only [Store.init, List.map_map]
    rfl
  rw [sameIds]
  exact sorted.map UserRow.userId

theorem tracked_init {loads : Store.LoadOutcome} {db : MySql} {users groups : List Int}
    (accounts : (users ++ groups).Perm (db.tables.users.rows.map UserRow.userId)) :
    Tracked ⟨Store.init loads db, users, groups⟩ where
  accounts := accounts
  cached := cached_init loads db
  userStart := Store.zero_le_init loads db
  userBase := Or.inl (Store.init_baseUserID_lt loads db)
  groupBase := Store.groupIdBoundary_le_init loads db

theorem Changes.tracked (changes : Changes a label next) (tracked : a.Tracked) :
    next.Tracked := by
  cases changes with
  | refusedUser db sameTables =>
      have sameIds : ({ a with store := { a.store with db } } : Accounts).ids = a.ids := by
        simp only [ids, sameTables]
      exact ⟨sameIds ▸ tracked.accounts, sameIds ▸ tracked.cached, tracked.userStart,
        tracked.userBase, tracked.groupBase⟩
  | newUser db record accepted rows isNew =>
      refine ⟨?_, ?_, ?_, ?_, tracked.groupBase⟩
      · refine List.Perm.trans ?_ (List.Perm.of_eq rows.symm)
        refine List.Perm.trans ?_ (tracked.accounts.append_right _)
        rw [List.append_assoc, List.append_assoc]
        exact List.perm_append_comm.append_left _
      · refine List.Perm.trans ?_ (List.Perm.of_eq rows.symm)
        rw [List.map_append, List.map_singleton, isNew]
        exact tracked.cached.append_right _
      · exact Int.add_nonneg tracked.userStart (by decide)
      · exact Or.inr (List.mem_append_right _ (List.mem_singleton_self _))
  | refusedGroup db sameTables =>
      have sameIds : ({ a with store := { a.store with
          db, baseGroupID := a.store.baseGroupID + 1 } } : Accounts).ids = a.ids := by
        simp only [ids, sameTables]
      exact ⟨sameIds ▸ tracked.accounts, sameIds ▸ tracked.cached, tracked.userStart,
        tracked.userBase, Int.le_add_one tracked.groupBase⟩
  | newGroup db record rows isNew =>
      refine ⟨?_, ?_, tracked.userStart, tracked.userBase, Int.le_add_one tracked.groupBase⟩
      · refine List.Perm.trans ?_ (List.Perm.of_eq rows.symm)
        rw [← List.append_assoc]
        exact tracked.accounts.append_right _
      · refine List.Perm.trans ?_ (List.Perm.of_eq rows.symm)
        rw [List.map_append, List.map_singleton, isNew]
        exact tracked.cached.append_right _
  | restarted loads => exact tracked_init tracked.accounts

/-! ### One step -/

/-- Distinct ids and the boundary test follow from the ranges. -/
theorem Tracked.inRanges (tracked : a.Tracked)
    (users : ∀ id ∈ a.users, 1 ≤ id ∧ id < groupIdBoundary)
    (groups : ∀ id ∈ a.groups, groupIdBoundary < id ∧ id < 2 ^ 31)
    (userCounter : a.store.baseUserID < 2 ^ 31) (groupCounter : a.store.baseGroupID < 2 ^ 31) :
    a.InRanges where
  distinct := tracked.accounts.nodup_iff.mpr a.store.db.tables.users.distinct
  users := users
  groups := groups
  userCounter := userCounter
  groupCounter := groupCounter
  told := by
    intro account member
    have isId : account.userid ∈ a.users ++ a.groups :=
      tracked.accounts.mem_iff.mpr (tracked.cached.mem_iff.mp (List.mem_map_of_mem member))
    constructor
    · intro above
      rcases List.mem_append.mp isId with isUser | isGroup
      · have below := (users _ isUser).2
        omega
      · exact isGroup
    · intro isGroup
      have above := (groups _ isGroup).1
      omega

/-- A process that loads ids in their ranges starts in range. -/
theorem inRanges_init {loads : Store.LoadOutcome} {db : MySql} {users groups : List Int}
    (accounts : (users ++ groups).Perm (db.tables.users.rows.map UserRow.userId))
    (userRange : ∀ id ∈ users, 1 ≤ id ∧ id < groupIdBoundary)
    (groupRange : ∀ id ∈ groups, groupIdBoundary < id ∧ id < 2 ^ 31) :
    InRanges ⟨Store.init loads db, users, groups⟩ := by
  have boundary : groupIdBoundary < 2 ^ 31 := by decide
  have groupIds : ∀ row ∈ db.tables.users.rows, row.userId ≥ groupIdBoundary →
      row.userId < 2 ^ 31 := by
    intro row member above
    have isId := accounts.mem_iff.mpr (List.mem_map_of_mem member)
    rcases List.mem_append.mp isId with isUser | isGroup
    · have below := (userRange _ isUser).2
      omega
    · exact (groupRange _ isGroup).2
  exact (tracked_init accounts).inRanges userRange groupRange
    (lt_trans (Store.init_baseUserID_lt loads db) boundary)
    (Store.init_baseGroupID_lt loads boundary groupIds)

/-- In range, the user counter is below the boundary. -/
theorem Tracked.userBase_lt (tracked : a.Tracked) (inRanges : a.InRanges) :
    a.store.baseUserID < groupIdBoundary := by
  rcases tracked.userBase with below | isUser
  · exact below
  · exact (inRanges.users _ isUser).2

theorem forall_mem_snoc {p : Int → Prop} {list : List Int} {last : Int}
    (all : ∀ id ∈ list, p id) (lastHolds : p last) : ∀ id ∈ list ++ [last], p id := by
  intro id member
  rcases List.mem_append.mp member with earlier | isLast
  · exact all id earlier
  · rw [List.mem_singleton.mp isLast]
    exact lastHolds

/-- A step keeps the ranges exactly when the next id fits. -/
theorem Changes.inRanges_iff (changes : Changes a label next) (tracked : a.Tracked)
    (inRanges : a.InRanges) : next.InRanges ↔ a.NextFits label := by
  have below := tracked.userBase_lt inRanges
  have after := changes.tracked tracked
  have boundary : groupIdBoundary < 2 ^ 31 := by decide
  cases changes with
  | refusedUser db sameTables refused =>
      refine iff_of_true ?_ ?_
      · exact after.inRanges inRanges.users inRanges.groups inRanges.userCounter
          inRanges.groupCounter
      · intro unused granted
        have isId := tracked.accounts.mem_iff.mpr (refused unused granted)
        rcases List.mem_append.mp isId with isUser | isGroup
        · exact (inRanges.users _ isUser).2
        · have above := (inRanges.groups _ isGroup).1
          omega
  | newUser db record accepted rows isNew =>
      constructor
      · intro nextInRanges unused granted
        exact (nextInRanges.users _ (List.mem_append_right _ (List.mem_singleton_self _))).2
      · intro fits
        have fitsNow := fits accepted.1 accepted.2
        have positive : 1 ≤ a.store.baseUserID + 1 := by
          have start := tracked.userStart
          omega
        exact after.inRanges (forall_mem_snoc inRanges.users ⟨positive, fitsNow⟩) inRanges.groups
          (lt_trans fitsNow boundary) inRanges.groupCounter
  | refusedGroup db sameTables =>
      constructor
      · intro nextInRanges
        exact nextInRanges.groupCounter
      · intro fits
        exact after.inRanges inRanges.users inRanges.groups inRanges.userCounter fits
  | newGroup db record rows isNew =>
      constructor
      · intro nextInRanges
        exact nextInRanges.groupCounter
      · intro fits
        have above : groupIdBoundary < a.store.baseGroupID + 1 := by
          have start := tracked.groupBase
          omega
        exact after.inRanges inRanges.users (forall_mem_snoc inRanges.groups ⟨above, fits⟩)
          inRanges.userCounter fits
  | restarted loads =>
      exact iff_of_true (inRanges_init tracked.accounts inRanges.users inRanges.groups) trivial

theorem Starts.tracked (starts : a.Starts) : a.Tracked := by
  obtain ⟨store, users, groups⟩ := a
  obtain ⟨⟨loads, db, rfl⟩, accounts, -, -⟩ := starts
  exact tracked_init accounts

theorem Starts.inRanges (starts : a.Starts) : a.InRanges := by
  obtain ⟨store, users, groups⟩ := a
  obtain ⟨⟨loads, db, rfl⟩, accounts, userRange, groupRange⟩ := starts
  exact inRanges_init accounts userRange groupRange

end Accounts

/-- Over any run of calls and restarts the ids stay in their ranges exactly when
the next id fits at every call. -/
theorem ids_in_ranges_iff (start : Accounts) (starts : start.Starts) (steps : List IdStep) :
    (∀ past rest, steps = past ++ rest → (run Accounts.step start past).InRanges) ↔
      AllSteps Accounts.step Accounts.NextFits start steps := by
  refine always_iff_allSteps Accounts.InRanges Accounts.Tracked ?_ ?_ starts.inRanges
    starts.tracked
  · intro a label tracked
    exact (a.step_changes label).tracked tracked
  · intro a label tracked inRanges
    exact (a.step_changes label).inRanges_iff tracked inRanges

namespace AccountRuns

/-- One user with this id. -/
def oneUser (id : Int) : Accounts where
  store := Store.init .allOk
    ⟨{ Tables.empty with
        users := ⟨[.inserted id (str "alice") (str "Alice") (str "secret") none 0], by simp⟩ },
      fun _ => true, 0⟩
  users := [id]
  groups := []

theorem starts_oneUser {id : Int} (positive : 1 ≤ id) (below : id < groupIdBoundary) :
    (oneUser id).Starts where
  loaded := ⟨_, _, rfl⟩
  accounts := List.Perm.refl _
  users := by
    intro other member
    rw [List.mem_singleton.mp member]
    exact ⟨positive, below⟩
  groups := by
    intro other member
    cases member

def bob : User := { User.blank with username := str "bob" }

def addBob : IdStep := .addUser [] bob fun _ => true

/-- A user, a group whose statement fails, a restart and a group. -/
def mixed : List IdStep :=
  [addBob, .addGroup (str "club") 1 fun _ => false, .restart .allOk,
    .addGroup (str "club") 1 fun _ => true]

end AccountRuns

theorem ids_in_ranges_mixed :
    (run Accounts.step (AccountRuns.oneUser 1) AccountRuns.mixed).InRanges ∧
      (run Accounts.step (AccountRuns.oneUser 1) AccountRuns.mixed).users = [1, 2] ∧
      (run Accounts.step (AccountRuns.oneUser 1) AccountRuns.mixed).groups = [268435456] := by
  have starts : (AccountRuns.oneUser 1).Starts :=
    AccountRuns.starts_oneUser (by decide) (by decide)
  have always := (ids_in_ranges_iff _ starts AccountRuns.mixed).mpr (by decide)
  exact ⟨always AccountRuns.mixed [] (by simp), by decide, by decide⟩

/-- The user after 0xFFFFFFE is taken for a group. -/
theorem user_id_reaches_boundary :
    ¬ ∀ (start : Accounts), start.Starts → ∀ steps : List IdStep,
      (run Accounts.step start steps).InRanges := by
  intro always
  have starts : (AccountRuns.oneUser 268435454).Starts :=
    AccountRuns.starts_oneUser (by decide) (by decide)
  have inRanges := always _ starts [AccountRuns.addBob]
  have handedOut : (268435455 : Int) ∈
      (run Accounts.step (AccountRuns.oneUser 268435454) [AccountRuns.addBob]).users := by
    decide
  exact absurd (inRanges.users _ handedOut).2 (by decide)

end AimServer
