import AimServer.Properties.Names
import AimServer.Properties.ProfileWrites

/-!
Contract: one account per mail address.

Owns: the ids and mails on the cache side and the table side, what each call does
to them, the theorem that mails stay unshared over a run of calls and restarts
exactly when no profile update takes the mail of another account, and the update
that does.

`AddUser` looks for the mail first. `UpdateUserInfo` writes whatever it is given:
the mail of the request or, when it is empty, the copy in the session.
-/

namespace AimServer

open AimServer.Lib
open AimServer.PasswordUtil

/-- Ids with their mails. -/
def mailbook (users : List User) : List (Int × Bytes) :=
  users.map fun user => (user.userid, user.mail)

/-- No two ids have one mail, the empty one apart. -/
def Unshared (book : List (Int × Bytes)) : Prop :=
  ∀ first ∈ book, ∀ second ∈ book, first.2 = second.2 → first.2 ≠ [] → first.1 = second.1

/-- No two accounts have one mail that is not empty, neither in the cache nor
among the records `LoadUserFromDB` would build now. -/
structure OneAccountPerMail (s : Store) : Prop where
  cached : Unshared (mailbook s.cachedUsers)
  loaded : Unshared (mailbook s.rowRecords)

/-- A profile update that takes effect on an account writes no mail that
another account has. -/
def TakesUnusedMail (s : Store) : Store.StoreStep → Prop
  | .call ⟨.updateUserInfo userid info, sql⟩ => sql 0 = true →
      userid ∈ s.cachedUsers.map User.userid → info.mail ≠ [] →
        ∀ user ∈ s.cachedUsers, user.mail = info.mail → user.userid = userid
  | _ => True

/-! ### Books -/

section Books

variable {book other : List (Int × Bytes)}

theorem Unshared.perm (unshared : Unshared book) (perm : book.Perm other) : Unshared other := by
  intro first isFirst second isSecond
  exact unshared first (perm.mem_iff.mpr isFirst) second (perm.mem_iff.mpr isSecond)

/-- An entry with a new mail. -/
theorem Unshared.append (unshared : Unshared book) {id : Int} {mail : Bytes}
    (unused : mail ≠ [] → mail ∉ book.map Prod.snd) : Unshared (book ++ [(id, mail)]) := by
  intro first isFirst second isSecond same notEmpty
  rcases List.mem_append.mp isFirst with before | last
  · rcases List.mem_append.mp isSecond with isBefore | isLast
    · exact unshared first before second isBefore same notEmpty
    · obtain rfl := List.mem_singleton.mp isLast
      exact absurd (List.mem_map.mpr ⟨first, before, same⟩) 
        (unused fun empty => notEmpty (same.trans empty))
  · obtain rfl := List.mem_singleton.mp last
    rcases List.mem_append.mp isSecond with isBefore | isLast
    · exact absurd (List.mem_map.mpr ⟨second, isBefore, same.symm⟩) (unused notEmpty)
    · obtain rfl := List.mem_singleton.mp isLast
      rfl

/-- One entry gets another mail: it stays its own exactly when no other entry
has it. -/
theorem unshared_modify_iff (unshared : Unshared book) (id : Int) (mail : Bytes) :
    Unshared (modify Prod.fst id (fun entry => (entry.1, mail)) book) ↔
      (id ∈ book.map Prod.fst → mail ≠ [] → ∀ entry ∈ book, entry.2 = mail → entry.1 = id) := by
  constructor
  · intro after known notEmpty entry member isMail
    obtain ⟨own, isOwn, isId⟩ := List.mem_map.mp known
    by_contra other
    have ownAfter : (own.1, mail) ∈ modify Prod.fst id (fun entry => (entry.1, mail)) book := by
      refine List.mem_map.mpr ⟨own, isOwn, ?_⟩
      rw [if_pos isId]
    have entryAfter : entry ∈ modify Prod.fst id (fun entry => (entry.1, mail)) book := by
      refine List.mem_map.mpr ⟨entry, member, ?_⟩
      rw [if_neg other]
    have same := after entry entryAfter (own.1, mail) ownAfter isMail (isMail ▸ notEmpty)
    exact other (same.trans isId)
  · intro unused first isFirst second isSecond same notEmpty
    obtain ⟨before, isBefore, rfl⟩ := List.mem_map.mp isFirst
    obtain ⟨later, isLater, rfl⟩ := List.mem_map.mp isSecond
    by_cases firstOwn : before.1 = id
    · by_cases secondOwn : later.1 = id
      · rw [if_pos firstOwn, if_pos secondOwn]
        exact firstOwn.trans secondOwn.symm
      · rw [if_pos firstOwn] at same notEmpty ⊢
        rw [if_neg secondOwn] at same ⊢
        have known := List.mem_map.mpr ⟨before, isBefore, firstOwn⟩
        exact firstOwn.trans (unused known notEmpty later isLater same.symm).symm
    · rw [if_neg firstOwn] at same notEmpty ⊢
      by_cases secondOwn : later.1 = id
      · rw [if_pos secondOwn] at same ⊢
        have known := List.mem_map.mpr ⟨later, isLater, secondOwn⟩
        have mailNotEmpty : mail ≠ [] := fun empty => notEmpty (same.trans empty)
        exact (unused known mailNotEmpty before isBefore same).trans secondOwn.symm
      · rw [if_neg secondOwn] at same ⊢
        exact unshared before isBefore later isLater same notEmpty

end Books

namespace Store

/-! ### Calls -/

/-- What a call does to the ids and mails on both sides. -/
inductive MailEffect (s : Store) (m : Mutation) (next : Store) : Prop
  | kept (idle : TakesUnusedMail s (.call m)) (cached : mailbook next.records = mailbook s.records)
      (loaded : mailbook next.rowRecords = mailbook s.rowRecords)
  | enrolled {id : Int} {mail : Bytes} (idle : TakesUnusedMail s (.call m))
      (unused : mail ≠ [] → mail ∉ s.cachedUsers.map User.mail)
      (cached : mailbook next.records = mailbook s.records ++ [(id, mail)])
      (loaded : mailbook next.rowRecords = mailbook s.rowRecords ++ [(id, mail)])
  | written {userid : Int} {info : User} (call : m.call = .updateUserInfo userid info)
      (granted : m.sql 0 = true)
      (cached : mailbook next.records =
        modify Prod.fst userid (fun entry => (entry.1, info.mail)) (mailbook s.records))
      (loaded : mailbook next.rowRecords =
        modify Prod.fst userid (fun entry => (entry.1, info.mail)) (mailbook s.rowRecords))

section Effects

variable {s next : Store} {m : Mutation}

theorem MailEffect.ofSame (same : SameRecords s next) (idle : TakesUnusedMail s (.call m)) :
    MailEffect s m next :=
  .kept idle (congrArg mailbook same.cached) (congrArg mailbook same.loaded)

/-- An edit that is not about the mail. -/
theorem MailEffect.ofEdited {id : Int} {change : User → User}
    (cached : next.records = modify User.userid id change s.records)
    (loaded : next.rowRecords = modify User.userid id change s.rowRecords)
    (keeps : ∀ user, (change user).userid = user.userid ∧ (change user).mail = user.mail)
    (idle : TakesUnusedMail s (.call m)) : MailEffect s m next := by
  have sameBook : ∀ users : List User, mailbook (modify User.userid id change users) =
      mailbook users := by
    intro users
    refine map_modify ?_
    intro user
    rw [(keeps user).1, (keeps user).2]
  exact .kept idle (by rw [cached, sameBook]) (by rw [loaded, sameBook])

/-- Whoever passed the duplicate scan of `AddUser` has a new mail or none. -/
theorem duplicateScan_unusedMail {user : User} {users : List User}
    (passed : duplicateScan user users = none) (notEmpty : user.mail ≠ []) :
    user.mail ∉ users.map User.mail := by
  induction users with
  | nil => simp
  | cons head tail inductionHypothesis =>
      unfold duplicateScan at passed
      split at passed
      · cases passed
      split at passed
      · cases passed
      rename_i other
      rw [List.map_cons, List.mem_cons, not_or]
      exact ⟨fun same => other ⟨notEmpty, same.symm⟩, inductionHypothesis passed⟩

theorem addUser_mails (salt : Bytes) (user : User) (sql : Nat → Bool) (s : Store) :
    MailEffect s ⟨.addUser salt user, sql⟩ (s.mutate ⟨.addUser salt user, sql⟩) := by
  rcases addUser_enrolled salt user sql s with ⟨-, same⟩ | ⟨enrols, joined⟩
  · exact .ofSame same trivial
  · refine .enrolled trivial (duplicateScan_unusedMail enrols.1)
      ((congrArg mailbook joined.cached).trans (List.map_append ..))
      ((congrArg mailbook joined.loaded).trans (List.map_append ..))

theorem addGroup_mails (groupname : Bytes) (ownerid : Int) (sql : Nat → Bool) (s : Store) :
    MailEffect s ⟨.addGroup groupname ownerid, sql⟩
      (s.mutate ⟨.addGroup groupname ownerid, sql⟩) := by
  rcases addGroup_enrolled groupname ownerid sql s with ⟨-, same⟩ | ⟨-, joined⟩
  · exact .ofSame same trivial
  · exact .enrolled trivial (fun notEmpty => absurd rfl notEmpty)
      ((congrArg mailbook joined.cached).trans (List.map_append ..))
      ((congrArg mailbook joined.loaded).trans (List.map_append ..))

/-- The mail of the record is the mail of the profile. -/
theorem mailbook_withProfile (userid : Int) (info : User) (users : List User) :
    mailbook (modify User.userid userid (withProfile (profileOf info)) users) =
      modify Prod.fst userid (fun entry => (entry.1, info.mail)) (mailbook users) := by
  refine map_modify_of_carries (fun _ => rfl) ?_
  intro user
  rfl

theorem updateUserInfo_mails (userid : Int) (info : User) (sql : Nat → Bool) (s : Store) :
    MailEffect s ⟨.updateUserInfo userid info, sql⟩
      (s.mutate ⟨.updateUserInfo userid info, sql⟩) := by
  cases granted : sql 0 with
  | false =>
      refine .ofSame ?_ fun isGranted => ?_
      · have same := updateUserInfo_denied (s := s.withOutcomes sql) userid info granted
        exact ⟨same.cached, same.loaded⟩
      · rw [granted] at isGranted
        cases isGranted
  | true =>
      have edited := updateUserInfo_granted (s := s.withOutcomes sql) userid info granted
      refine .written rfl granted ?_ ?_
      · exact (congrArg mailbook edited.cached).trans (mailbook_withProfile userid info s.records)
      · exact (congrArg mailbook edited.loaded).trans
          (mailbook_withProfile userid info s.rowRecords)

theorem mutate_mails (s : Store) (m : Mutation) : MailEffect s m (s.mutate m) := by
  obtain ⟨call, sql⟩ := m
  cases call with
  | addUser salt user => exact addUser_mails salt user sql s
  | addGroup groupname ownerid => exact addGroup_mails groupname ownerid sql s
  | updateUserInfo userid info => exact updateUserInfo_mails userid info sql s
  | renameGroup groupid newname =>
      rcases renameGroup_outcome groupid newname (s.withOutcomes sql) with same | edited
      · exact .ofSame ⟨same.cached, same.loaded⟩ trivial
      · exact .ofEdited edited.cached edited.loaded (fun _ => ⟨rfl, rfl⟩) trivial
  | modifyUserPassword salt userid newpassword =>
      rcases modifyUserPassword_outcome salt userid newpassword (s.withOutcomes sql) with
        same | edited
      · exact .ofSame ⟨same.cached, same.loaded⟩ trivial
      · exact .ofEdited edited.cached edited.loaded (fun _ => ⟨rfl, rfl⟩) trivial
  | makeFriendRelationship smallid greatid =>
      have same := makeFriendRelationship_records smallid greatid (s.withOutcomes sql)
      exact .ofSame ⟨same.cached, same.loaded⟩ trivial
  | releaseFriendRelationship smallid greatid =>
      have same := releaseFriendRelationship_records smallid greatid (s.withOutcomes sql)
      exact .ofSame ⟨same.cached, same.loaded⟩ trivial
  | deleteFriendToUser userid friendid =>
      have same := deleteFriendToUser_records userid friendid (s.withOutcomes sql)
      exact .ofSame ⟨same.cached, same.loaded⟩ trivial
  | setGroupAdmin groupid userid isAdmin =>
      have same := setGroupAdmin_records groupid userid isAdmin (s.withOutcomes sql)
      exact .ofSame ⟨same.cached, same.loaded⟩ trivial

/-! ### Both sides -/

/-- The cache and the tables have the same ids with the same mails. -/
def SameMails (s : Store) : Prop := (mailbook s.records).Perm (mailbook s.rowRecords)

theorem mailbook_records (s : Store) : mailbook s.records = mailbook s.cachedUsers := by
  rw [mailbook, mailbook, map_records fun _ => rfl]

theorem SameMails.onePerMail_iff (same : s.SameMails) :
    OneAccountPerMail s ↔ Unshared (mailbook s.records) := by
  constructor
  · intro one
    rw [mailbook_records]
    exact one.cached
  · intro unshared
    exact ⟨mailbook_records s ▸ unshared, unshared.perm same⟩

theorem sameMails_init (loads : LoadOutcome) (db : MySql) : (init loads db).SameMails :=
  (records_init_perm loads db).map _

theorem SameMails.mutate (same : s.SameMails) (m : Mutation) : (s.mutate m).SameMails := by
  unfold SameMails
  cases s.mutate_mails m with
  | kept idle cached loaded =>
      rw [cached, loaded]
      exact same
  | enrolled idle unused cached loaded =>
      rw [cached, loaded]
      exact same.append_right _
  | written call granted cached loaded =>
      rw [cached, loaded]
      exact same.map _

theorem SameMails.takes (same : s.SameMails) (step : StoreStep) : (s.takes step).SameMails := by
  cases step with
  | call m => exact same.mutate m
  | restart loads => exact sameMails_init loads s.db

/-- A call keeps mails unshared exactly when it takes no other account's mail. -/
theorem onePerMail_mutate_iff (same : s.SameMails) (one : OneAccountPerMail s) (m : Mutation) :
    OneAccountPerMail (s.mutate m) ↔ TakesUnusedMail s (.call m) := by
  have unshared := same.onePerMail_iff.mp one
  rw [(same.mutate m).onePerMail_iff]
  cases s.mutate_mails m with
  | kept idle cached loaded =>
      rw [cached]
      exact iff_of_true unshared idle
  | enrolled idle unused cached loaded =>
      rw [cached]
      refine iff_of_true (unshared.append ?_) idle
      rw [mailbook_records, mailbook, List.map_map]
      exact unused
  | @written userid info call granted cached loaded =>
      obtain ⟨name, sql⟩ := m
      cases call
      rw [cached, unshared_modify_iff unshared, mailbook_records, mailbook, List.map_map]
      constructor
      · intro unused _ known notEmpty user member isMail
        exact unused known notEmpty (user.userid, user.mail) (List.mem_map_of_mem member) isMail
      · intro unused known notEmpty entry member isMail
        obtain ⟨user, isUser, rfl⟩ := List.mem_map.mp member
        exact unused granted known notEmpty user isUser isMail

theorem onePerMail_takes_iff (same : s.SameMails) (one : OneAccountPerMail s) (step : StoreStep) :
    OneAccountPerMail (s.takes step) ↔ TakesUnusedMail s step := by
  cases step with
  | call m => exact onePerMail_mutate_iff same one m
  | restart loads =>
      refine iff_of_true ?_ trivial
      rw [takes, (sameMails_init loads s.db).onePerMail_iff]
      exact one.loaded.perm ((records_init_perm loads s.db).map _).symm

end Effects

end Store

/-! ### Runs -/

/-- From tables without a shared mail, in every state of a run each mail is that
of one account exactly when every profile update writes a mail that no other
account has. -/
theorem one_account_per_mail_iff (tables : Tables) (steps : List Store.StoreStep)
    (initial : Unshared (mailbook (tables.users.rows.map Store.loadedUser))) :
    (∀ past rest, steps = past ++ rest → OneAccountPerMail
        (run Store.takes (Store.init .allOk ⟨tables, fun _ => true, 0⟩) past)) ↔
      AllSteps Store.takes TakesUnusedMail (Store.init .allOk ⟨tables, fun _ => true, 0⟩)
        steps := by
  have same := Store.sameMails_init .allOk ⟨tables, fun _ => true, 0⟩
  have start : OneAccountPerMail (Store.init .allOk ⟨tables, fun _ => true, 0⟩) :=
    same.onePerMail_iff.mpr (initial.perm same.symm)
  exact always_iff_allSteps OneAccountPerMail Store.SameMails
    (fun _ step same => same.takes step)
    (fun _ step same one => Store.onePerMail_takes_iff same one step) start same

/-- `OnUpdateUserInfoResponse` is one such update, of the session's user and with
the mail of the request or the copy in the session. -/
theorem onUpdateUserInfoResponse_takes {pb : ImProto} {s : ClientSession} {msg : MessageContainer}
    {w : World} {req : UpdateUserInfoReq} {user : User}
    (parsed : pb.updateUserInfoReq msg.payload = some req) (isUser : s.user = some user) :
    ∃ info : User, info.mail = (if req.mail = [] then user.mail else req.mail) ∧
      (w.onUpdateUserInfoResponse pb s msg).store =
        w.store.takes (.call ⟨.updateUserInfo user.userid info, w.store.db.outcomes⟩) := by
  refine ⟨Store.withProfile (World.requestedProfile req user) User.blank, ?_, ?_⟩
  · rfl
  · exact ProfileRace.onUpdateUserInfo_store parsed isUser

namespace MailRuns

def mail : Bytes := str "a@b.c"

/-- Alice with a mail, and Bob. -/
def tables : Tables :=
  .ofUsers [.inserted 1 (str "alice") (str "Alice") (str "secret") (some mail) 0, Sample.bob]
    (by decide)

def setMail (userid : Int) (mail : Bytes) : Store.StoreStep :=
  .call ⟨.updateUserInfo userid { User.blank with mail }, fun _ => true⟩

/-- Alice gives her mail up, Bob takes it, and the server restarts. -/
def handedOver : List Store.StoreStep := [setMail 1 [], setMail 2 mail, .restart .allOk]

/-- Bob logs in and takes the mail of Alice. -/
def taken : List Step :=
  Sample.bothLogIn ++ [Client.send 1 .updateUserInfo (Lib.Wire.writeBytes 9 mail)]

theorem tables_unshared : Unshared (mailbook (tables.users.rows.map Store.loadedUser)) := by
  have book : mailbook (tables.users.rows.map Store.loadedUser) = [(1, mail), (2, [])] := by
    decide +kernel
  rw [book]
  unfold Unshared
  decide +kernel

end MailRuns

theorem one_account_per_mail_handedOver :
    OneAccountPerMail (run Store.takes (Store.init .allOk ⟨MailRuns.tables, fun _ => true, 0⟩)
      MailRuns.handedOver) := by
  have unused : AllSteps Store.takes TakesUnusedMail
      (Store.init .allOk ⟨MailRuns.tables, fun _ => true, 0⟩) MailRuns.handedOver := by
    refine ⟨fun _ _ => by decide +kernel, fun _ _ _ => by decide +kernel, trivial, trivial⟩
  exact (one_account_per_mail_iff MailRuns.tables MailRuns.handedOver
    MailRuns.tables_unshared).mpr unused MailRuns.handedOver [] (by simp)

/-- Bob's update of his profile gives him the mail of Alice. -/
theorem update_takes_mail :
    (¬ ∀ (tables : Tables) (steps : List Store.StoreStep),
      Unshared (mailbook (tables.users.rows.map Store.loadedUser)) →
      OneAccountPerMail (run Store.takes (Store.init .allOk ⟨tables, fun _ => true, 0⟩) steps)) ∧
    ¬ OneAccountPerMail (World.runFrom wireProto (.boot MailRuns.tables) MailRuns.taken).store := by
  constructor
  · intro always
    have one := always MailRuns.tables [MailRuns.setMail 2 MailRuns.mail]
      MailRuns.tables_unshared
    have same := one.cached (1, MailRuns.mail) (by decide +kernel) (2, MailRuns.mail)
      (by decide +kernel) rfl (by decide +kernel)
    exact absurd same (by decide)
  · intro one
    have same := one.cached (1, MailRuns.mail) (by decide +kernel) (2, MailRuns.mail)
      (by decide +kernel) rfl (by decide +kernel)
    exact absurd same (by decide)

end AimServer
