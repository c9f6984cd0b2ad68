import AimServer.Session.ProfileRace
import AimServer.Properties.Client
import Mathlib.Data.Fintype.Basic

/-!
Contract: what a profile request does to the fields it is not about.

Owns: the profile fields of an account in the cache and in its row, the write
a step performs with the fields it is meant to change and the copy it writes
from, the theorem that all writes of a run leave the other fields exactly when
every copy was current, and two sessions of one user that undo each other.

`UpdateUserInfo` writes all nine fields. The handlers fill the ones they are
not about from the copy in their session, or from the group record read before
the upload, and nothing refreshes these copies when another session writes.
-/

namespace AimServer

open AimServer.Lib

/-- The columns `UpdateUserInfo` writes. -/
inductive ProfileField where
  | nickname
  | facetype
  | customface
  | gender
  | birthday
  | signature
  | address
  | phonenumber
  | mail
deriving DecidableEq, Repr

instance : Fintype ProfileField where
  elems := {.nickname, .facetype, .customface, .gender, .birthday, .signature, .address,
    .phonenumber, .mail}
  complete := by
    intro field
    cases field <;> decide

/-- The value of a field: a number or a text. -/
def ProfileUpdate.value (profile : ProfileUpdate) : ProfileField → Int ⊕ Bytes
  | .nickname => .inr profile.nickname
  | .facetype => .inl profile.facetype
  | .customface => .inr profile.customface
  | .gender => .inl profile.gender
  | .birthday => .inl profile.birthday
  | .signature => .inr profile.signature
  | .address => .inr profile.address
  | .phonenumber => .inr profile.phonenumber
  | .mail => .inr profile.mail

/-- The fields a request sets: protobuf defaults mean "not sent". -/
def UpdateUserInfoReq.meant (req : UpdateUserInfoReq) : ProfileField → Bool
  | .nickname => req.nickname ≠ []
  | .facetype => req.facetype ≠ 0
  | .customface => req.customface ≠ []
  | .gender => req.gender ≠ 0
  | .birthday => req.birthday ≠ 0
  | .signature => req.signature ≠ []
  | .address => req.address ≠ []
  | .phonenumber => req.phonenumber ≠ []
  | .mail => req.mail ≠ []

/-- A field that is not sent keeps the value of the copy. -/
theorem requestedProfile_value (req : UpdateUserInfoReq) (user : User) {field : ProfileField}
    (other : req.meant field = false) :
    (World.requestedProfile req user).value field = (Store.profileOf user).value field := by
  cases field with
  | _ =>
      simp only [UpdateUserInfoReq.meant, ne_eq, decide_not, Bool.not_eq_false',
        decide_eq_true_eq] at other
      simp [ProfileUpdate.value, World.requestedProfile, Store.profileOf, World.orKeepText,
        World.orKeepNumber, other]

namespace Store

/-- A field of an account in the cache. -/
def cachedField (account : Int) (field : ProfileField) (s : Store) : Option (Int ⊕ Bytes) :=
  (s.getUserByID account).map fun user => (profileOf user).value field

/-- A field of an account in its row, as the server would load it. -/
def rowField (account : Int) (field : ProfileField) (s : Store) : Option (Int ⊕ Bytes) :=
  (lookup UserRow.userId account s.db.tables.users.rows).map fun row =>
    (profileOf (loadedUser row)).value field

/-- The fields of the accounts after the cache record and the row of one of
them were changed. -/
theorem modified_fields {s next : Store} {account : Int} {change : User → User}
    {rowChange : UserRow → UserRow}
    (cached : next.cachedUsers = modify User.userid account change s.cachedUsers)
    (rows : next.db.tables.users.rows =
      modify UserRow.userId account rowChange s.db.tables.users.rows)
    (keeps : ∀ user, (change user).userid = user.userid)
    (rowKeeps : ∀ row, (rowChange row).userId = row.userId)
    (other : Int) (field : ProfileField) :
    next.cachedField other field =
        (if other = account then
          (s.getUserByID other).map fun user => (profileOf (change user)).value field
        else s.cachedField other field) ∧
      next.rowField other field =
        if other = account then
          (lookup UserRow.userId other s.db.tables.users.rows).map fun row =>
            (profileOf (loadedUser (rowChange row))).value field
        else s.rowField other field := by
  unfold cachedField rowField getUserByID
  rw [cached, rows]
  by_cases same : other = account
  · subst same
    rw [if_pos rfl, if_pos rfl, lookup_modify_same keeps, lookup_modify_same rowKeeps,
      Option.map_map, Option.map_map]
    exact ⟨rfl, rfl⟩
  · rw [if_neg same, if_neg same, lookup_modify_other keeps same,
      lookup_modify_other rowKeeps same]
    exact ⟨rfl, rfl⟩

/-- `UpdateUserInfo` writes the whole profile of the record it is given to the
cache and to the row, or nothing. -/
theorem updateUserInfo_fields (account other : Int) (info : User) (field : ProfileField)
    (s : Store) :
    (s.updateUserInfo account info).2.cachedField other field =
        (if s.db.outcomes 0 = true ∧ other = account then
          (s.cachedField other field).map fun _ => (profileOf info).value field
        else s.cachedField other field) ∧
      (s.updateUserInfo account info).2.rowField other field =
        if s.db.outcomes 0 = true ∧ other = account then
          (s.rowField other field).map fun _ => (profileOf info).value field
        else s.rowField other field := by
  by_cases granted : s.db.outcomes 0 = true
  · obtain ⟨next, result, cached, rows⟩ : ∃ next, s.updateUserInfo account info = (true, next) ∧
        next.cachedUsers =
          modify User.userid account (withProfile (profileOf info)) s.cachedUsers ∧
        next.db.tables.users.rows =
          modify UserRow.userId account (·.withProfile (profileOf info))
            s.db.tables.users.rows := by
      unfold updateUserInfo
      rw [execute_granted granted rfl]
      exact ⟨_, rfl, rfl, rfl⟩
    have fields := modified_fields cached rows (fun _ => rfl) (fun _ => rfl) other field
    rw [result, fields.1, fields.2]
    by_cases same : other = account
    · rw [if_pos same, if_pos same, if_pos ⟨granted, same⟩, if_pos ⟨granted, same⟩, cachedField,
        rowField, Option.map_map, Option.map_map]
      exact ⟨rfl, rfl⟩
    · rw [if_neg same, if_neg same, if_neg (fun both => same both.2),
        if_neg (fun both => same both.2)]
      exact ⟨rfl, rfl⟩
  · unfold updateUserInfo
    rw [execute_denied (by simpa using granted), if_neg (fun both => granted both.1),
      if_neg (fun both => granted both.1)]
    exact ⟨rfl, rfl⟩

/-- `RenameGroup` writes no other profile field than the nickname, and only of
its account. -/
theorem renameGroup_fields (account other : Int) (newname : Bytes) (field : ProfileField)
    (untouched : field ≠ .nickname ∨ other ≠ account) (s : Store) :
    (s.renameGroup account newname).2.cachedField other field = s.cachedField other field ∧
      (s.renameGroup account newname).2.rowField other field = s.rowField other field := by
  by_cases granted : s.db.outcomes 0 = true
  · obtain ⟨next, result, cached, rows⟩ : ∃ next, s.renameGroup account newname = (true, next) ∧
        next.cachedUsers = modify User.userid account
          ({ · with nickname := newname, username := newname }) s.cachedUsers ∧
        next.db.tables.users.rows = modify UserRow.userId account
          ({ · with nickname := newname, username := newname }) s.db.tables.users.rows := by
      unfold renameGroup
      rw [execute_granted granted rfl]
      exact ⟨_, rfl, rfl, rfl⟩
    have fields := modified_fields cached rows (fun _ => rfl) (fun _ => rfl) other field
    rw [result, fields.1, fields.2]
    by_cases same : other = account
    · have notName := untouched.resolve_right (not_not_intro same)
      rw [if_pos same, if_pos same]
      cases field with
      | nickname => exact absurd rfl notName
      | _ => exact ⟨rfl, rfl⟩
    · rw [if_neg same, if_neg same]
      exact ⟨rfl, rfl⟩
  · unfold renameGroup
    rw [execute_denied (by simpa using granted)]
    exact ⟨rfl, rfl⟩

end Store

/-! ### Writes -/

/-- A write to an account: the fields the request is about, and the profile of
the copy the others are taken from, if it writes them at all. -/
structure ProfileWrite where
  account : Int
  meant : ProfileField → Bool
  copy : Option ProfileUpdate

namespace ProfileRace

/-- The write of a handler that is about to make one. -/
def taskWrite (user : User) : ProfileTask → Option ProfileWrite
  | .ownWrite _ => some ⟨user.userid, (· = .customface), some (Store.profileOf user)⟩
  | .groupWrite groupId group _ =>
      some ⟨groupId, (· = .customface), some (Store.profileOf group)⟩
  | .renameWrite req => some ⟨req.groupid, (· = .nickname), none⟩
  | _ => none

/-- The write a step makes, when its statement succeeds. -/
def plannedWrite (pb : ImProto) (race : ProfileRace) (label : ProfileStep) :
    Option ProfileWrite :=
  match label.action with
  | .updateUserInfo conn msg =>
      match race.world.session? conn, race.tasks conn, pb.updateUserInfoReq msg.payload with
      | some s, none, some req =>
          s.user.map fun user => ⟨user.userid, req.meant, some (Store.profileOf user)⟩
      | _, _, _ => none
  | .advance conn =>
      match race.world.session? conn, race.tasks conn with
      | some s, some task => s.user.bind fun user => taskWrite user task
      | _, _ => none
  | _ => none

/-- The step leaves the fields that its request is not about, in the cache and
in the row. -/
def LeavesOthers (pb : ImProto) (race : ProfileRace) (label : ProfileStep) : Prop :=
  ∀ write ∈ race.plannedWrite pb label, ∀ field, write.meant field = false →
    (race.step pb label).world.store.cachedField write.account field =
        race.world.store.cachedField write.account field ∧
      (race.step pb label).world.store.rowField write.account field =
        race.world.store.rowField write.account field

instance (pb : ImProto) (race : ProfileRace) (label : ProfileStep) :
    Decidable (race.LeavesOthers pb label) :=
  inferInstanceAs (Decidable (∀ write ∈ race.plannedWrite pb label, ∀ field,
    write.meant field = false → _ ∧ _))

/-- The copy a successful step writes from has the values of the cache and of
the row in the fields its request is not about. -/
def CopyIsCurrent (pb : ImProto) (race : ProfileRace) (label : ProfileStep) : Prop :=
  label.env.sql 0 = true → ∀ write ∈ race.plannedWrite pb label, ∀ copy ∈ write.copy,
    ∀ field, write.meant field = false →
      (∀ value ∈ race.world.store.cachedField write.account field, copy.value field = value) ∧
        ∀ value ∈ race.world.store.rowField write.account field, copy.value field = value

section Steps

variable {pb : ImProto} {race : ProfileRace}

/-- The write of the whole profile `info` from a copy leaves the other fields
exactly when the copy is current in them. -/
theorem leaves_iff_current {s : Store} {account : Int} {info : User} {copy : ProfileUpdate}
    {meant : ProfileField → Bool}
    (fills : ∀ field, meant field = false →
      (Store.profileOf info).value field = copy.value field) :
    (∀ field, meant field = false →
        (s.updateUserInfo account info).2.cachedField account field =
            s.cachedField account field ∧
          (s.updateUserInfo account info).2.rowField account field = s.rowField account field) ↔
      (s.db.outcomes 0 = true → ∀ field, meant field = false →
        (∀ value ∈ s.cachedField account field, copy.value field = value) ∧
          ∀ value ∈ s.rowField account field, copy.value field = value) := by
  have same : ∀ (current : Option (Int ⊕ Bytes)) (value : Int ⊕ Bytes),
      (current.map fun _ => value) = current ↔ ∀ old ∈ current, value = old := by
    intro current value
    cases current with
    | none => simp
    | some old => simp
  by_cases granted : s.db.outcomes 0 = true
  · simp only [granted, true_implies]
    refine forall_congr' fun field => forall_congr' fun other => ?_
    obtain ⟨cached, row⟩ := Store.updateUserInfo_fields account account info field s
    rw [cached, row, if_pos ⟨granted, rfl⟩, if_pos ⟨granted, rfl⟩, same, same, fills field other]
  · refine iff_of_true ?_ (fun granted' => absurd granted' granted)
    intro field _
    obtain ⟨cached, row⟩ := Store.updateUserInfo_fields account account info field s
    rw [cached, row, if_neg (fun both => granted both.1), if_neg (fun both => granted both.1)]
    exact ⟨rfl, rfl⟩

/-- A step that writes a whole profile. -/
theorem leavesOthers_of_write {label : ProfileStep} {account : Int} {info : User}
    {copy : ProfileUpdate} {meant : ProfileField → Bool}
    (planned : race.plannedWrite pb label = some ⟨account, meant, some copy⟩)
    (writes : (race.step pb label).world.store =
      ((race.world.withEnv label.env).store.updateUserInfo account info).2)
    (fills : ∀ field, meant field = false →
      (Store.profileOf info).value field = copy.value field) :
    race.LeavesOthers pb label ↔ race.CopyIsCurrent pb label := by
  unfold LeavesOthers CopyIsCurrent
  rw [planned, writes]
  simp only [Option.mem_def, Option.some.injEq, forall_eq']
  exact leaves_iff_current (s := (race.world.withEnv label.env).store) fills

/-- A step that writes nothing, or only what its request is about. -/
theorem leavesOthers_of_kept {label : ProfileStep}
    (kept : ∀ write ∈ race.plannedWrite pb label, write.copy = none ∧
      ∀ field, write.meant field = false →
        (race.step pb label).world.store.cachedField write.account field =
            race.world.store.cachedField write.account field ∧
          (race.step pb label).world.store.rowField write.account field =
            race.world.store.rowField write.account field) :
    race.LeavesOthers pb label ↔ race.CopyIsCurrent pb label := by
  refine iff_of_true (fun write planned => (kept write planned).2) ?_
  intro _ write planned copy isCopy
  rw [(kept write planned).1] at isCopy
  cases isCopy

theorem onUpdateUserInfo_store {s : ClientSession} {msg : MessageContainer} {w : World}
    {req : UpdateUserInfoReq} {user : User} (parsed : pb.updateUserInfoReq msg.payload = some req)
    (isUser : s.user = some user) :
    (w.onUpdateUserInfoResponse pb s msg).store =
      (w.store.updateUserInfo user.userid
        (Store.withProfile (World.requestedProfile req user) User.blank)).2 := by
  simp only [World.onUpdateUserInfoResponse, parsed, isUser]
  cases w.store.updateUserInfo user.userid
      (Store.withProfile (World.requestedProfile req user) User.blank) with
  | mk ok store => cases ok <;> rfl

theorem renameTask_store (env : Env) (s : ClientSession) (user : User) (req : RenameGroupReq)
    (w : World) :
    (w.advanceTask env s user (.renameWrite req)).1.store =
      ((w.withEnv env).store.renameGroup req.groupid req.newname).2 := by
  simp only [World.advanceTask]
  cases (w.withEnv env).store.renameGroup req.groupid req.newname with
  | mk ok store => cases ok <;> rfl

/-- A field other than the one an avatar upload is about. -/
theorem value_customface (copy : User) (url : Bytes) {field : ProfileField}
    (other : decide (field = .customface) = false) :
    (Store.profileOf { copy with customface := url }).value field =
      (Store.profileOf copy).value field := by
  cases field with
  | customface => cases other
  | _ => rfl

/-- The next call of a handler. -/
theorem leavesOthers_advance {conn : Nat} {env : Env} {s : ClientSession} {user : User}
    {task : ProfileTask} (session : race.world.session? conn = some s)
    (isTask : race.tasks conn = some task) (isUser : s.user = some user) :
    race.LeavesOthers pb ⟨.advance conn, env⟩ ↔ race.CopyIsCurrent pb ⟨.advance conn, env⟩ := by
  have moves : race.step pb ⟨.advance conn, env⟩ =
      race.put conn (race.world.advanceTask env s user task) :=
    step_advance session isUser isTask
  have planned : race.plannedWrite pb ⟨.advance conn, env⟩ = taskWrite user task := by
    simp [plannedWrite, session, isTask, isUser]
  cases task with
  | ownWrite url =>
      refine leavesOthers_of_write planned ?_ (fun field other => value_customface user url other)
      rw [moves]
      rfl
  | groupWrite groupId group url =>
      refine leavesOthers_of_write planned ?_
        (fun field other => value_customface group url other)
      rw [moves]
      rfl
  | renameWrite req =>
      apply leavesOthers_of_kept
      intro write isWrite
      rw [planned] at isWrite
      cases isWrite
      refine ⟨rfl, ?_⟩
      intro field other
      rw [moves, put_world, renameTask_store]
      exact Store.renameGroup_fields req.groupid req.groupid req.newname field
        (Or.inl (of_decide_eq_false other)) (race.world.withEnv env).store
  | _ =>
      apply leavesOthers_of_kept
      intro write isWrite
      rw [planned] at isWrite
      cases isWrite

/-- One step leaves the fields its request is not about exactly when the copy
it writes from is current in them. -/
theorem leavesOthers_iff (label : ProfileStep) :
    race.LeavesOthers pb label ↔ race.CopyIsCurrent pb label := by
  obtain ⟨action, env⟩ := label
  cases action with
  | login conn username => exact leavesOthers_of_kept (fun _ planned => nomatch planned)
  | avatarUpload conn msg => exact leavesOthers_of_kept (fun _ planned => nomatch planned)
  | renameGroup conn msg => exact leavesOthers_of_kept (fun _ planned => nomatch planned)
  | updateUserInfo conn msg =>
      cases session : race.world.session? conn with
      | none => exact leavesOthers_of_kept (by simp [plannedWrite, session])
      | some s =>
          cases task : race.tasks conn with
          | some busy => exact leavesOthers_of_kept (by simp [plannedWrite, session, task])
          | none =>
              cases parsed : pb.updateUserInfoReq msg.payload with
              | none => exact leavesOthers_of_kept (by simp [plannedWrite, session, task, parsed])
              | some req =>
                  cases isUser : s.user with
                  | none =>
                      exact leavesOthers_of_kept
                        (by simp [plannedWrite, session, task, parsed, isUser])
                  | some user =>
                      have planned : race.plannedWrite pb ⟨.updateUserInfo conn msg, env⟩ =
                          some ⟨user.userid, req.meant, some (Store.profileOf user)⟩ := by
                        simp [plannedWrite, session, task, parsed, isUser]
                      have writes : (race.step pb ⟨.updateUserInfo conn msg, env⟩).world.store =
                          ((race.world.withEnv env).store.updateUserInfo user.userid
                            (Store.withProfile (World.requestedProfile req user)
                              User.blank)).2 := by
                        simp only [step, session, task]
                        exact onUpdateUserInfo_store parsed isUser
                      exact leavesOthers_of_write planned writes
                        (fun field other => requestedProfile_value req user other)
  | advance conn =>
      cases session : race.world.session? conn with
      | none => exact leavesOthers_of_kept (by simp [plannedWrite, session])
      | some s =>
          cases isTask : race.tasks conn with
          | none => exact leavesOthers_of_kept (by simp [plannedWrite, session, isTask])
          | some task =>
              cases isUser : s.user with
              | none => exact leavesOthers_of_kept (by simp [plannedWrite, session, isTask, isUser])
              | some user => exact leavesOthers_advance session isTask isUser

/-! ### How a copy stays current -/

/-- The store has the same profile fields for an account. -/
def SameFields (account : Int) (s next : Store) : Prop :=
  ∀ field, next.cachedField account field = s.cachedField account field ∧
    next.rowField account field = s.rowField account field

theorem beginAvatar_store (pb : ImProto) (s : ClientSession) (msg : MessageContainer) (w : World) :
    (w.beginAvatar pb s msg).1.store = w.store := by
  unfold World.beginAvatar
  repeat' split
  all_goals rfl

theorem beginRename_store (pb : ImProto) (s : ClientSession) (msg : MessageContainer) (w : World) :
    (w.beginRename pb s msg).1.store = w.store := by
  unfold World.beginRename
  repeat' split
  all_goals rfl

theorem SameFields.updateUserInfo {account other : Int} (different : other ≠ account) (info : User)
    (s : Store) : SameFields other s (s.updateUserInfo account info).2 := by
  intro field
  obtain ⟨cached, row⟩ := Store.updateUserInfo_fields account other info field s
  rw [cached, row, if_neg (fun both => different both.2), if_neg (fun both => different both.2)]
  exact ⟨rfl, rfl⟩

theorem SameFields.advanceTask {env : Env} {s : ClientSession} {user : User} {task : ProfileTask}
    {w : World} {account : Int}
    (elsewhere : ∀ write ∈ taskWrite user task, write.account ≠ account) :
    SameFields account w.store (w.advanceTask env s user task).1.store := by
  cases task with
  | ownWrite url =>
      exact SameFields.updateUserInfo (elsewhere _ rfl).symm _ (w.withEnv env).store
  | groupWrite groupId group url =>
      exact SameFields.updateUserInfo (elsewhere _ rfl).symm _ (w.withEnv env).store
  | renameWrite req =>
      intro field
      rw [renameTask_store]
      exact Store.renameGroup_fields req.groupid account req.newname field
        (Or.inr (elsewhere _ rfl).symm) (w.withEnv env).store
  | ownUpload req =>
      unfold World.advanceTask
      dsimp only
      split <;> exact fun _ => ⟨rfl, rfl⟩
  | groupUpload req group =>
      unfold World.advanceTask
      dsimp only
      split <;> exact fun _ => ⟨rfl, rfl⟩
  | groupAdmin req group =>
      unfold World.advanceTask
      dsimp only
      split <;> exact fun _ => ⟨rfl, rfl⟩
  | renameAdmin req =>
      unfold World.advanceTask
      dsimp only
      split <;> exact fun _ => ⟨rfl, rfl⟩
  | ownNotice url => exact fun _ => ⟨rfl, rfl⟩
  | groupNotice groupId url => exact fun _ => ⟨rfl, rfl⟩
  | renameNotice req => exact fun _ => ⟨rfl, rfl⟩

/-- A step that does not write an account leaves its profile. -/
theorem SameFields.step {account : Int} {label : ProfileStep}
    (elsewhere : ∀ write ∈ race.plannedWrite pb label, write.account ≠ account) :
    SameFields account race.world.store (race.step pb label).world.store := by
  obtain ⟨action, env⟩ := label
  have unchanged : SameFields account race.world.store race.world.store := fun _ => ⟨rfl, rfl⟩
  cases action with
  | login conn username =>
      simp only [ProfileRace.step]
      split <;> exact unchanged
  | avatarUpload conn msg =>
      simp only [ProfileRace.step]
      split
      · intro field
        rw [put_world, beginAvatar_store]
        exact unchanged field
      · exact unchanged
  | renameGroup conn msg =>
      simp only [ProfileRace.step]
      split
      · intro field
        rw [put_world, beginRename_store]
        exact unchanged field
      · exact unchanged
  | updateUserInfo conn msg =>
      simp only [ProfileRace.step]
      split
      · rename_i s session free
        cases parsed : pb.updateUserInfoReq msg.payload with
        | none =>
            simp only [World.onUpdateUserInfoResponse, parsed]
            exact unchanged
        | some req =>
            cases isUser : s.user with
            | none =>
                simp only [World.onUpdateUserInfoResponse, parsed, isUser]
                exact unchanged
            | some user =>
                have planned : race.plannedWrite pb ⟨.updateUserInfo conn msg, env⟩ =
                    some ⟨user.userid, req.meant, some (Store.profileOf user)⟩ := by
                  simp [plannedWrite, session, free, parsed, isUser]
                intro field
                rw [onUpdateUserInfo_store parsed isUser]
                exact SameFields.updateUserInfo (elsewhere _ planned).symm _
                  (race.world.withEnv env).store field
      · exact unchanged
  | advance conn =>
      simp only [ProfileRace.step]
      split
      · rename_i s task session isTask
        split
        · exact unchanged
        · rename_i user isUser
          apply SameFields.advanceTask
          intro write isWrite
          apply elsewhere write
          simpa [plannedWrite, session, isTask, isUser] using isWrite
      · exact unchanged

end Steps

end ProfileRace

/-- An account that no step of a run writes keeps its profile, so a copy of it
that is current at the start is current at the end. -/
theorem profile_kept_elsewhere (pb : ImProto) (race : ProfileRace) (account : Int)
    (labels : List ProfileStep)
    (elsewhere : AllSteps (ProfileRace.step pb)
      (fun race label => ∀ write ∈ race.plannedWrite pb label, write.account ≠ account) race
      labels) :
    ProfileRace.SameFields account race.world.store
      (run (ProfileRace.step pb) race labels).world.store := by
  refine run_invariant (fun later : ProfileRace =>
    ProfileRace.SameFields account race.world.store later.world.store) ?_ ?_ elsewhere
  · intro later label same admitted field
    have kept := ProfileRace.SameFields.step admitted field
    exact ⟨kept.1.trans (same field).1, kept.2.trans (same field).2⟩
  · exact fun _ => ⟨rfl, rfl⟩

/-- In a run every write leaves the fields its request is not about exactly
when every write was made from a copy that was current in them. -/
theorem profile_writes_kept_iff (pb : ImProto) (race : ProfileRace) (labels : List ProfileStep) :
    (∀ past label rest, labels = past ++ label :: rest →
        (run (ProfileRace.step pb) race past).LeavesOthers pb label) ↔
      AllSteps (ProfileRace.step pb) (ProfileRace.CopyIsCurrent pb) race labels := by
  constructor
  · intro leaves
    apply allSteps_of_splits
    intro past label rest split
    exact (ProfileRace.leavesOthers_iff label).mp (leaves past label rest split)
  · intro current past label rest split
    exact (ProfileRace.leavesOthers_iff label).mpr (current.admitted split)

namespace ProfileRuns

/-- Alice is logged in on connections 0 and 1. -/
def start : ProfileRace where
  world := World.runFrom wireProto (.boot Sample.aliceAlone) (Sample.aliceLogsIn ++
    [Client.connect 1, Client.send 1 .login (Client.login (str "alice") (str "secret"))])
  tasks := fun _ => none

/-- A request that sets one text field. -/
def setText (conn : Nat) (field : Nat) (text : String) : ProfileStep :=
  ⟨.updateUserInfo conn (MsgType.updateUserInfo.container (Lib.Wire.writeBytes field (str text))),
    .plain⟩

/-- The first session sets the signature, the second the nickname. -/
def signature : ProfileStep := setText 0 6 "hi"

def nickname : ProfileStep := setText 1 1 "Al"

end ProfileRuns

/-- The second session writes its old signature back over the new one. -/
theorem signature_is_lost :
    let before := run (ProfileRace.step wireProto) ProfileRuns.start [ProfileRuns.signature]
    let after := before.step wireProto ProfileRuns.nickname
    before.world.store.cachedField 1 .signature = some (.inr (str "hi")) ∧
      before.world.store.rowField 1 .signature = some (.inr (str "hi")) ∧
      after.world.store.cachedField 1 .signature = some (.inr []) ∧
      after.world.store.rowField 1 .signature = some (.inr []) ∧
      ¬ before.LeavesOthers wireProto ProfileRuns.nickname := by
  decide

end AimServer
