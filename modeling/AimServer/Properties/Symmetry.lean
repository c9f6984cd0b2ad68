import AimServer.Graph.Calls

/-!
Contract: friend sets come in pairs.

Owns: what a call does to the friend sets, the exact condition on a call under
which they stay symmetric, the theorem that a run from the empty database
keeps them symmetric exactly when all its calls meet the condition, and the
run that breaks them.

`MakeFriendRelationship` enters the greater id in the set of the smaller one
before it looks the greater one up. Ids are handed out in order, so an id can
be in a friend set before its account exists, and the account starts with an
empty set.
-/

namespace AimServer

open AimServer.Lib

namespace Store

/-- The id has a record. -/
def Known (s : Store) (id : Int) : Prop :=
  (s.getUserByID id).isSome = true

instance (s : Store) (id : Int) : Decidable (s.Known id) :=
  inferInstanceAs (Decidable (_ = true))

/-- Two accounts are in each other's friend sets or in neither, and no account
is in its own. -/
structure Symmetric (s : Store) : Prop where
  paired : ∀ a b, s.Known a → s.Known b → (s.isFriend a b = true ↔ s.isFriend b a = true)
  notOwn : ∀ a, s.isFriend a a = false

/-- The id and the friend set of the account a call would add. The register
handler hands `AddUser` a record without friends. -/
def newcomer (s : Store) (m : Mutation) : Option (Int × Finset Int) :=
  match m.call with
  | .addUser _ user => some (s.baseUserID + 1, user.friends)
  | .addGroup _ _ => some (s.baseGroupID + 1, ∅)
  | _ => none

/-- The exact condition on a call: an account that is added has the friends it
brings, and only those have its id as a friend already. -/
def KeepsSymmetry (s : Store) (m : Mutation) : Prop :=
  s.Enrols m → ∀ new ∈ s.newcomer m,
    new.1 ∉ new.2 ∧ ∀ b, s.Known b → (b ∈ new.2 ↔ s.isFriend b new.1 = true)

/-- What a call does to the friend sets. -/
inductive FriendEffect (s : Store) (m : Mutation) (next : Store) : Prop
  | kept (idle : ¬ s.Enrols m) (known : ∀ k, next.Known k ↔ s.Known k)
      (friends : ∀ a b, next.isFriend a b = s.isFriend a b)
  | enrolled {id : Int} {brought : Finset Int} (enrols : s.Enrols m)
      (new : s.newcomer m = some (id, brought))
      (fresh : id ∉ s.db.tables.users.rows.map UserRow.userId)
      (known : ∀ k, next.Known k ↔ s.Known k ∨ k = id)
      (friends : ∀ a b, next.isFriend a b = true ↔
        s.isFriend a b = true ∨ (¬ s.Known a ∧ a = id ∧ b ∈ brought))
  | linked {small great : Int} (idle : ¬ s.Enrols m) (ordered : small < great)
      (known : ∀ k, next.Known k ↔ s.Known k)
      (friends : ∀ a b, next.isFriend a b = true ↔ s.isFriend a b = true ∨
        (s.Known small ∧ s.Known a ∧ Graph.SamePair small great a b))
  | unlinked (small great : Int) (idle : ¬ s.Enrols m) (known : ∀ k, next.Known k ↔ s.Known k)
      (friends : ∀ a b, next.isFriend a b = true ↔
        s.isFriend a b = true ∧ ¬ Graph.SamePair small great a b)

section Effects

variable {s next : Store} {m : Mutation}

theorem known_iff_cached (id : Int) : s.Known id ↔ (s.graph.cached id).isSome = true := by
  rw [cached_isSome]
  rfl

/-- The friend sets of a store whose graph is known. -/
theorem friends_of_graph {g : Graph} (same : next.graph = g) :
    (∀ k, next.Known k ↔ (g.cached k).isSome = true) ∧
      ∀ a b, next.isFriend a b = true ↔ g.friend a b := by
  subst same
  exact ⟨fun k => known_iff_cached k, fun _ _ => Iff.rfl⟩

/-- A call without an effect on the graph. -/
theorem FriendEffect.unseen (idle : ¬ s.Enrols m) (same : next.graph = s.graph) :
    FriendEffect s m next := by
  obtain ⟨known, friends⟩ := friends_of_graph same
  refine .kept idle ?_ ?_
  · intro k
    rw [known, known_iff_cached]
  · intro a b
    rw [Bool.eq_iff_iff, friends]
    rfl

/-- A record at the end of the cache. -/
theorem getUserByID_append (user : User) {next : Store}
    (cached : next.cachedUsers = s.cachedUsers ++ [user]) (k : Int) :
    next.getUserByID k = (s.getUserByID k).or (if k = user.userid then some user else none) := by
  rw [getUserByID, cached, lookup_append]
  congr 1
  by_cases same : k = user.userid
  · simp [lookup, same]
  · simp [lookup, same, Ne.symm same]

theorem FriendEffect.appended (user : User) (enrols : s.Enrols m)
    (new : s.newcomer m = some (user.userid, user.friends))
    (fresh : user.userid ∉ s.db.tables.users.rows.map UserRow.userId)
    (cached : next.cachedUsers = s.cachedUsers ++ [user]) : FriendEffect s m next := by
  refine .enrolled enrols new fresh ?_ ?_
  · intro k
    rw [Known, Known, getUserByID_append user cached]
    cases s.getUserByID k <;> by_cases same : k = user.userid <;> simp [same]
  · intro a b
    rw [isFriend_iff, isFriend_iff, Known, getUserByID_append user cached]
    cases s.getUserByID a <;> by_cases same : a = user.userid <;> simp [same]

theorem addUser_friends (salt : Bytes) (user : User) (sql : Nat → Bool) (s : Store) :
    FriendEffect s ⟨.addUser salt user, sql⟩ (s.mutate ⟨.addUser salt user, sql⟩) := by
  simp only [mutate]
  rcases addUser_outcome salt user (s.withOutcomes sql) with
    ⟨idle, result, db, -, -, outcome⟩ | ⟨enrols, db, -, outcome⟩
  · rw [outcome]
    exact .kept idle (fun _ => Iff.rfl) (fun _ _ => rfl)
  · rw [outcome]
    exact .appended
      (addedUser (s.baseUserID + 1) (PasswordUtil.hashPassword salt user.password) user)
      enrols rfl enrols.2.2 rfl

theorem addGroup_friends (groupname : Bytes) (ownerid : Int) (sql : Nat → Bool) (s : Store) :
    FriendEffect s ⟨.addGroup groupname ownerid, sql⟩
      (s.mutate ⟨.addGroup groupname ownerid, sql⟩) := by
  simp only [mutate]
  rcases addGroup_outcome groupname ownerid (s.withOutcomes sql) with
    ⟨idle, db, -, outcome⟩ | ⟨enrols, db, -, outcome⟩
  · rw [outcome]
    exact .kept idle (fun _ => Iff.rfl) (fun _ _ => rfl)
  · rw [outcome]
    exact .appended (addedGroup (s.baseGroupID + 1) (cStr groupname) ownerid) enrols rfl enrols.2
      rfl

/-- A relationship that is removed. -/
theorem FriendEffect.ofUnlink {small great : Int} (idle : ¬ s.Enrols m)
    (unlinked : next.graph = s.graph.unlink small great) : FriendEffect s m next := by
  obtain ⟨known, friends⟩ := friends_of_graph unlinked
  refine .unlinked small great idle ?_ friends
  intro k
  rw [known, known_iff_cached]
  rfl

/-- What a call does to the friend sets. -/
theorem mutate_friends (s : Store) (m : Mutation) : FriendEffect s m (s.mutate m) := by
  obtain ⟨call, sql⟩ := m
  cases call with
  | addUser salt user => exact addUser_friends salt user sql s
  | addGroup groupname ownerid => exact addGroup_friends groupname ownerid sql s
  | renameGroup groupid newname => exact .unseen id (graph_renameGroup groupid newname sql)
  | updateUserInfo userid newuserinfo =>
      exact .unseen id (graph_updateUserInfo userid newuserinfo sql)
  | modifyUserPassword salt userid newpassword =>
      exact .unseen id (graph_modifyUserPassword salt userid newpassword sql)
  | makeFriendRelationship smallid greatid =>
      have after := graph_makeFriendRelationship (s := s) smallid greatid sql
      split at after
      · rename_i effective
        obtain ⟨known, friends⟩ := friends_of_graph after
        refine .linked id effective.1 ?_ ?_
        · intro k
          rw [known, known_iff_cached]
          rfl
        · intro a b
          rw [friends, known_iff_cached, known_iff_cached]
          rfl
      · exact .unseen id after
  | releaseFriendRelationship smallid greatid =>
      have after := graph_releaseFriendRelationship (s := s) smallid greatid sql
      split at after
      · exact .ofUnlink id after
      · exact .unseen id after
  | deleteFriendToUser userid friendid =>
      have after := graph_deleteFriendToUser (s := s) userid friendid sql
      split at after
      · exact .ofUnlink id after
      · exact .unseen id after
  | setGroupAdmin groupid userid isAdmin =>
      rcases graph_setGroupAdmin (s := s) groupid userid isAdmin sql with
        ⟨after, -⟩ | ⟨-, -, after⟩ | ⟨-, after⟩
      · exact .unseen id after
      all_goals
        obtain ⟨known, friends⟩ := friends_of_graph after
        refine .kept id ?_ ?_
        · intro k
          rw [known, known_iff_cached]
          rfl
        · intro a b
          rw [Bool.eq_iff_iff, friends]
          rfl

/-! ### Symmetry after a call -/

theorem not_isFriend_of_unknown {a b : Int} (unknown : ¬ s.Known a) : ¬ s.isFriend a b = true := by
  intro friend
  obtain ⟨user, found, -⟩ := isFriend_iff.mp friend
  exact unknown (Option.isSome_of_eq_some found)

theorem samePair_swap {x y a b : Int} : Graph.SamePair x y a b ↔ Graph.SamePair x y b a := by
  unfold Graph.SamePair
  tauto

/-- A new account keeps the friend sets symmetric exactly when it has the
friends that have it. -/
theorem symmetric_enrolled_iff {id : Int} {brought : Finset Int} (symmetric : s.Symmetric)
    (unknown : ¬ s.Known id) (known : ∀ k, next.Known k ↔ s.Known k ∨ k = id)
    (friends : ∀ a b, next.isFriend a b = true ↔
      s.isFriend a b = true ∨ (¬ s.Known a ∧ a = id ∧ b ∈ brought)) :
    next.Symmetric ↔
      id ∉ brought ∧ ∀ b, s.Known b → (b ∈ brought ↔ s.isFriend b id = true) := by
  have ofNew : ∀ b, next.isFriend id b = true ↔ b ∈ brought := by
    intro b
    simp [friends, unknown, not_isFriend_of_unknown unknown]
  have ofOld : ∀ a b, s.Known a → (next.isFriend a b = true ↔ s.isFriend a b = true) := by
    intro a b isKnown
    simp [friends, isKnown]
  constructor
  · intro after
    refine ⟨?_, ?_⟩
    · intro own
      have isOwn := (ofNew id).mpr own
      rw [after.notOwn id] at isOwn
      cases isOwn
    · intro b isKnown
      have pair := after.paired id b ((known id).mpr (Or.inr rfl)) ((known b).mpr (Or.inl isKnown))
      rw [ofNew, ofOld b id isKnown] at pair
      exact pair
  · intro condition
    obtain ⟨notOwn, agree⟩ := condition
    refine ⟨?_, ?_⟩
    · intro a b knownA knownB
      rcases (known a).mp knownA with oldA | rfl
      · rcases (known b).mp knownB with oldB | rfl
        · rw [ofOld a b oldA, ofOld b a oldB]
          exact symmetric.paired a b oldA oldB
        · rw [ofNew, ofOld a b oldA]
          exact (agree a oldA).symm
      · rcases (known b).mp knownB with oldB | rfl
        · rw [ofNew, ofOld b a oldB]
          exact agree b oldB
        · exact Iff.rfl
    · intro a
      rw [← Bool.not_eq_true]
      intro own
      rcases (friends a a).mp own with old | ⟨-, rfl, isBrought⟩
      · rw [symmetric.notOwn a] at old
        cases old
      · exact notOwn isBrought

/-- One call keeps the friend sets symmetric exactly under the condition. -/
theorem symmetric_mutate_iff (m : Mutation) (symmetric : s.Symmetric)
    (recorded : ∀ id, s.Known id → id ∈ s.db.tables.users.rows.map UserRow.userId) :
    (s.mutate m).Symmetric ↔ s.KeepsSymmetry m := by
  cases mutate_friends s m with
  | kept idle known friends =>
      refine iff_of_true ⟨?_, ?_⟩ (fun enrols => absurd enrols idle)
      · intro a b knownA knownB
        rw [friends, friends]
        exact symmetric.paired a b ((known a).mp knownA) ((known b).mp knownB)
      · intro a
        rw [friends]
        exact symmetric.notOwn a
  | enrolled enrols new fresh known friends =>
      rw [symmetric_enrolled_iff symmetric (fun isKnown => fresh (recorded _ isKnown)) known
        friends, KeepsSymmetry, new]
      simp [enrols]
  | linked idle ordered known friends =>
      refine iff_of_true ⟨?_, ?_⟩ (fun enrols => absurd enrols idle)
      · intro a b knownA knownB
        have oldA := (known a).mp knownA
        have oldB := (known b).mp knownB
        rw [friends, friends, symmetric.paired a b oldA oldB, samePair_swap]
        simp [oldA, oldB]
      · intro a
        rw [← Bool.not_eq_true, friends, symmetric.notOwn a]
        intro own
        rcases own with old | ⟨-, -, ⟨same, sameToo⟩ | ⟨same, sameToo⟩⟩
        · cases old
        · omega
        · omega
  | unlinked small great idle known friends =>
      refine iff_of_true ⟨?_, ?_⟩ (fun enrols => absurd enrols idle)
      · intro a b knownA knownB
        rw [friends, friends, symmetric.paired a b ((known a).mp knownA) ((known b).mp knownB),
          samePair_swap]
      · intro a
        rw [← Bool.not_eq_true, friends, symmetric.notOwn a]
        simp

/-- Nobody has a friend in an empty database. -/
theorem symmetric_empty : (Store.init .allOk ⟨.empty, fun _ => true, 0⟩).Symmetric where
  paired := fun _ _ known => nomatch known
  notOwn := fun _ => rfl

/-- Every record of the cache has its row, in the order of the rows. -/
def IdsAgree (s : Store) : Prop :=
  s.records.map User.userid = s.rowRecords.map User.userid

theorem IdsAgree.recorded (agree : s.IdsAgree) (id : Int) (known : s.Known id) :
    id ∈ s.db.tables.users.rows.map UserRow.userId := by
  obtain ⟨user, found⟩ := Option.isSome_iff_exists.mp known
  have listed : id ∈ s.records.map User.userid := by
    rw [records, List.map_map]
    exact List.mem_map.mpr ⟨user, mem_of_lookup found, lookup_key found⟩
  rw [agree, rowRecords, List.map_map] at listed
  exact listed

theorem IdsAgree.mutate (agree : s.IdsAgree) (m : Mutation) : (s.mutate m).IdsAgree := by
  unfold IdsAgree at *
  cases mutate_records s m with
  | kept idle cached loaded => rw [cached, loaded, agree]
  | enrolled new row enrols named sameId sameName fresh birthday rowBirthday cached loaded =>
      rw [cached, loaded, List.map_append, List.map_append, agree]
      simp [sameId]
  | edited idle keepsId keepsName cached loaded =>
      rw [cached, loaded, map_modify keepsId, map_modify keepsId, agree]

end Effects

end Store

/-- In a run of calls from the empty database the friend sets are symmetric
all along exactly when every call meets the condition. -/
theorem friends_symmetric_iff (steps : List Mutation) :
    (∀ past rest, steps = past ++ rest → (run Store.mutate
        (Store.init .allOk ⟨.empty, fun _ => true, 0⟩) past).Symmetric) ↔
      AllSteps Store.mutate Store.KeepsSymmetry
        (Store.init .allOk ⟨.empty, fun _ => true, 0⟩) steps :=
  always_iff_allSteps Store.Symmetric Store.IdsAgree (fun _ label agree => agree.mutate label)
    (fun _ label agree symmetric => Store.symmetric_mutate_iff label symmetric agree.recorded)
    Store.symmetric_empty rfl

namespace FriendRuns

/-- A call whose statements take effect. -/
def call (call : Mutator) : Mutation := ⟨call, fun _ => true⟩

def register (name : String) : Mutation :=
  call (.addUser [] { User.blank with username := str name, nickname := str name })

/-- The first user adds the next id, which somebody registers afterwards. -/
def addedEarly : List Mutation :=
  [register "alice", call (.makeFriendRelationship 1 2), register "bob"]

end FriendRuns

/-- Bob is a friend of Alice, who is none of his. -/
theorem early_friend_is_one_sided :
    (run Store.mutate (Store.init .allOk ⟨.empty, fun _ => true, 0⟩)
        FriendRuns.addedEarly).isFriend 1 2 = true ∧
      ¬ (run Store.mutate (Store.init .allOk ⟨.empty, fun _ => true, 0⟩)
        FriendRuns.addedEarly).Symmetric := by
  refine ⟨by decide, ?_⟩
  intro symmetric
  have pair := symmetric.paired 1 2 (by decide) (by decide)
  exact absurd (pair.mp (by decide)) (by decide)

end AimServer
