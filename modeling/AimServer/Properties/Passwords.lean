import AimServer.Graph.Coherence
import AimServer.Session.Answers
import AimServer.Store.Passwords
import AimServer.Properties.Client

/-!
Contract: the password of an account while its sessions change it.

Proves that every request to change it is judged by the stored password, and
that a change governs all logins and requests until the next one, exactly when
no request finds a copy in its session that judges differently.

`OnModifyPasswordResponse` compares with the copy the session took at its
login. `ModifyUserPassword` writes the row and the cached record, and nobody
writes the copy.
-/

namespace AimServer

open AimServer.Lib
open AimServer.PasswordUtil

namespace Store

/-- The password of an account, alike in the cache and in its row, accepts
`plain`. -/
def VerifiesStored (id : Int) (plain : Bytes) (s : Store) : Prop :=
  ∃ stored, s.storedPassword id = some stored ∧
    (s.getUserByID id).map User.password = some stored ∧ verifyPassword plain stored = true

/-! ### Calls -/

theorem SameRecords.trans {s middle next : Store} (first : SameRecords s middle)
    (second : SameRecords middle next) : SameRecords s next :=
  ⟨second.cached.trans first.cached, second.loaded.trans first.loaded⟩

theorem addFriendRequest_records (fromId toId reqType groupId : Int) (message : Bytes)
    (s : Store) : SameRecords s (s.addFriendRequest fromId toId reqType groupId message).2 := by
  have spares : ∀ row, SparesUsers (.insertFriendRequest row) := by
    intro row t next applied
    cases applied
    rfl
  refine addFriendRequest_relates SameRecords SameRecords.trans ?_ ?_ _ _ _ _ _ _
  · intro s
    exact ⟨rfl, rfl⟩
  · intro row s
    exact execute_spares (spares row) rfl

theorem fetchAndDeleteOfflineMsg_records (kind : OfflineKind) (userid : Int) (s : Store) :
    SameRecords s (s.fetchAndDeleteOfflineMsg kind userid).2 := by
  have spares : SparesUsers (.deleteOfflineMsg userid kind.code) := by
    intro t next applied
    cases applied
    rfl
  refine fetchAndDeleteOfflineMsg_relates SameRecords SameRecords.trans ?_ ?_ s
  · intro s
    exact ⟨rfl, rfl⟩
  · intro s
    exact execute_spares spares rfl

/-- What a call of a handler does to the passwords. -/
theorem afterCall_passwords (s : Store) (call : StoreCall) :
    (∃ mutator, call = .mutate mutator ∧
        PasswordEffect s ⟨mutator, s.db.outcomes⟩ (s.afterCall call)) ∨
      SameRecords s (s.afterCall call) := by
  cases call with
  | mutate mutator => exact Or.inl ⟨mutator, rfl, mutate_passwords s _⟩
  | setUserStatus userid status =>
      refine Or.inr ?_
      simp only [afterCall, setUserStatus]
      split
      · exact ⟨rfl, rfl⟩
      · exact SameRecords.modifyUser ⟨rfl, rfl⟩ userid _ fun _ => rfl
  | addFriendRequest fromId toId reqType groupId message =>
      exact Or.inr (addFriendRequest_records fromId toId reqType groupId message s)
  | updateRequestStatus reqId status =>
      exact Or.inr (execute_spares (fun _ _ applied => by cases applied; rfl) rfl)
  | saveChatMsgToDb senderid targetid msg =>
      exact Or.inr (execute_spares (fun _ _ applied => by cases applied; rfl) rfl)
  | addChatMsgCache userid cache =>
      exact Or.inr (execute_spares (fun _ _ applied => by cases applied; rfl) rfl)
  | fetchAndDeleteOfflineMsg kind userid =>
      exact Or.inr (fetchAndDeleteOfflineMsg_records kind userid s)
  | read => exact Or.inr ⟨rfl, rfl⟩

end Store

/-! ### Requests and their answers -/

/-- A `ModifyPassword` request with two non-empty strings reaches a session of
`user`, and its `UPDATE` would take effect. -/
structure World.AsksPassword (pb : ImProto) (w : World) (label : Step)
    (ask : Ask ModifyPasswordReq) (user : User) : Prop where
  asked : w.asks label .modifyPassword pb.modifyPasswordReq = some ask
  signedIn : ask.session.user = some user
  old : ask.req.oldpassword ≠ []
  new : ask.req.newpassword ≠ []
  granted : label.env.sql 0 = true

/-- A login request with two non-empty strings names the account `id`. -/
structure World.AsksLogin (pb : ImProto) (w : World) (label : Step) (ask : Ask LoginReq)
    (id : Int) : Prop where
  asked : w.asks label .login pb.loginReq = some ask
  username : ask.req.username ≠ []
  password : ask.req.password ≠ []
  named : ∃ found, w.store.getUserInfoUsername ask.req.username = some found ∧ found.userid = id

namespace World

/-- The request is answered with code 0. -/
def PasswordAccepted (pb : ImProto) (w : World) (label : Step) (ask : Ask ModifyPasswordReq) :
    Prop :=
  ∃ text, replyFrame ask.session .modifyPassword (.common 0 text) ∈ w.sent pb label

/-- The login is answered with code 0. -/
def LoginAccepted (pb : ImProto) (w : World) (label : Step) (ask : Ask LoginReq) : Prop :=
  ∃ text info isVip, replyFrame ask.session .login (.login 0 text info isVip) ∈ w.sent pb label

/-- The step changes the password of `id`. -/
def ChangesPassword (pb : ImProto) (id : Int) (w : World) (label : Step) : Prop :=
  ∃ ask user, w.AsksPassword pb label ask user ∧ user.userid = id ∧ w.PasswordAccepted pb label ask

/-- Logins and requests of the account are accepted with the passwords that
verify against `hashed`, and with no others. -/
structure Governs (pb : ImProto) (hashed : Bytes) (id : Int) (w : World) (label : Step) :
    Prop where
  login : ∀ ask, w.AsksLogin pb label ask id →
    (w.LoginAccepted pb label ask ↔ verifyPassword ask.req.password hashed = true)
  change : ∀ ask user, w.AsksPassword pb label ask user → user.userid = id →
    (w.PasswordAccepted pb label ask ↔ verifyPassword ask.req.oldpassword hashed = true)

/-- Every request of the run is judged by the stored password, and an accepted
one governs until the next accepted one. -/
structure PasswordsGoverned (pb : ImProto) (start : World) (steps : List Step) : Prop where
  judged : ∀ past label rest, steps = past ++ label :: rest → ∀ ask user,
    (runFrom pb start past).AsksPassword pb label ask user →
      ((runFrom pb start past).PasswordAccepted pb label ask ↔
        (runFrom pb start past).store.VerifiesStored user.userid ask.req.oldpassword)
  afterwards : ∀ past label between later rest,
    steps = past ++ label :: (between ++ later :: rest) → ∀ ask user,
      (runFrom pb start past).AsksPassword pb label ask user →
      (runFrom pb start past).PasswordAccepted pb label ask →
      AllSteps (step pb) (fun w label => ¬ w.ChangesPassword pb user.userid label)
        (runFrom pb start (past ++ [label])) between →
      (runFrom pb start (past ++ label :: between)).Governs pb
        (hashPassword label.env.salt ask.req.newpassword) user.userid later

/-- The copy in the session judges the old password like the stored one. -/
def CopyAgrees (pb : ImProto) (w : World) (label : Step) : Prop :=
  ∀ ask user, w.AsksPassword pb label ask user →
    (verifyPassword ask.req.oldpassword user.password = true ↔
      w.store.VerifiesStored user.userid ask.req.oldpassword)

section Answers

variable {pb : ImProto} {w : World} {label : Step} {user : User}

/-- A request that is not refused by the database is answered by what the copy
in the session says. -/
theorem AsksPassword.answered {ask : Ask ModifyPasswordReq}
    (asks : w.AsksPassword pb label ask user) :
    (verifyPassword ask.req.oldpassword user.password = true ∧
        w.sent pb label = [replyFrame ask.session .modifyPassword (.common 0 "ok")] ∧
        (w.step pb label).store = ((w.withEnv label.env).store.mutate
          ⟨.modifyUserPassword label.env.salt user.userid ask.req.newpassword, label.env.sql⟩)) ∨
      (verifyPassword ask.req.oldpassword user.password = false ∧
        w.sent pb label = [replyFrame ask.session .modifyPassword
          (.common 103 "old password is incorrect!")]) := by
  obtain ⟨reached, parsed⟩ := dispatched_of_asks asks.asked
  have filled : ¬ (ask.req.oldpassword = [] ∨ ask.req.newpassword = []) :=
    not_or.mpr ⟨asks.old, asks.new⟩
  have stepped := step_of_dispatched pb reached
  simp only [handle, onModifyPasswordResponse, parsed, if_neg filled, asks.signedIn] at stepped
  cases verified : verifyPassword ask.req.oldpassword user.password with
  | false =>
      simp only [verified, Bool.false_eq_true, not_false_eq_true, if_true] at stepped
      refine Or.inr ⟨rfl, sent_eq ?_⟩
      rw [stepped]
      rfl
  | true =>
      have executed : ((w.withEnv label.env).store.modifyUserPassword label.env.salt user.userid
          ask.req.newpassword).1 = true :=
        (Store.modifyUserPassword_granted _ _ _ asks.granted).1
      simp only [verified, not_true_eq_false, if_false] at stepped
      split at stepped
      · rename_i store result
        refine Or.inl ⟨rfl, sent_eq ?_, ?_⟩
        · rw [stepped]
          rfl
        · rw [stepped]
          exact (congrArg Prod.snd result).symm
      · rename_i store result
        rw [show (w.withEnv label.env).store.modifyUserPassword label.env.salt user.userid
          ask.req.newpassword = (false, store) from result] at executed
        cases executed

theorem AsksPassword.accepted_iff {ask : Ask ModifyPasswordReq}
    (asks : w.AsksPassword pb label ask user) :
    w.PasswordAccepted pb label ask ↔ verifyPassword ask.req.oldpassword user.password = true := by
  unfold PasswordAccepted
  rcases asks.answered with ⟨verified, sent, -⟩ | ⟨refused, sent⟩
  · rw [sent, verified]
    exact iff_of_true ⟨"ok", List.mem_singleton_self _⟩ rfl
  · rw [sent, refused]
    refine iff_of_false ?_ Bool.false_ne_true
    rintro ⟨text, member⟩
    cases List.mem_singleton.mp member

/-- A login that names an account is answered by what its cached record says. -/
theorem AsksLogin.accepted_iff {ask : Ask LoginReq} {found : User}
    (asks : w.AsksLogin pb label ask found.userid)
    (registered : w.store.getUserInfoUsername ask.req.username = some found) :
    w.LoginAccepted pb label ask ↔ verifyPassword ask.req.password found.password = true := by
  obtain ⟨reached, parsed⟩ := dispatched_of_asks asks.asked
  have filled : ¬ (ask.req.username = [] ∨ ask.req.password = []) :=
    not_or.mpr ⟨asks.username, asks.password⟩
  have sameStore : ((w.withEnv label.env).setSession ask.session).store.getUserInfoUsername
      ask.req.username = some found := registered
  have stepped := step_of_dispatched pb reached
  simp only [handle, onLoginResponse, parsed, if_neg filled, sameStore] at stepped
  unfold LoginAccepted
  cases verified : verifyPassword ask.req.password found.password with
  | true =>
      rw [if_pos verified] at stepped
      obtain ⟨isVip, online, -, outbox⟩ := completeLogin_frames pb
        { ask.session with user := some found } found
        (((w.withEnv label.env).setSession ask.session).setSession
          { ask.session with user := some found })
      rw [sent_eq ((congrArg World.outbox stepped).trans outbox)]
      exact iff_of_true ⟨"ok", _, isVip, List.mem_cons_self⟩ rfl
  | false =>
      rw [if_neg (by simp [verified])] at stepped
      have sent : w.sent pb label = [replyFrame ask.session .login
          (.login 104 "user is not exist or password is incorrect!" none false)] := by
        refine sent_eq ?_
        rw [stepped]
        rfl
      rw [sent]
      refine iff_of_false ?_ Bool.false_ne_true
      rintro ⟨text, info, isVip, member⟩
      cases List.mem_singleton.mp member

end Answers

/-! ### Steps -/

section Steps

variable {pb : ImProto} {w : World} {label : Step} {id : Int} {password : Bytes}

/-- Cache and rows keep agreeing. -/
theorem passwordsAgree_step (agree : w.store.PasswordsAgree) :
    (w.step pb label).store.PasswordsAgree := by
  rcases step_calls pb w label with
    ⟨loads, -, restarted⟩ | kept | ⟨_, _, _, -, calls, reached, made⟩
  · rw [restarted]
    exact Store.passwordsAgree_init loads _
  · rw [kept]
    exact agree
  · rw [reached]
    refine Store.afterCalls_keeps Store.PasswordsAgree ?_ made agree
    intro s call _ before
    rcases s.afterCall_passwords call with ⟨_, -, effect⟩ | same
    · exact effect.agree before
    · exact same.passwordsAgree before

/-- Only an accepted request of the account changes its password. -/
theorem storedPassword_step (stored : w.store.storedPassword id = some password)
    (unchanged : ¬ w.ChangesPassword pb id label) :
    (w.step pb label).store.storedPassword id = some password := by
  rcases step_calls pb w label with
    ⟨loads, -, restarted⟩ | kept | ⟨type, s, msg, reached, calls, after, made⟩
  · rw [restarted]
    exact stored
  · rw [kept]
    exact stored
  by_cases modifies : type = .modifyPassword
  · subst modifies
    rw [step_of_dispatched pb reached]
    rcases onModifyPasswordResponse_store pb s msg ((w.withEnv label.env).setSession s) with
      same | ⟨req, user, parsed, signedIn, old, new, verified, changed⟩
    · rw [handle, same]
      exact stored
    · rw [handle, changed]
      refine (Store.mutate_passwords _ _).stored stored ?_
      intro salt newpassword call
      cases granted : label.env.sql 0 with
      | false => exact granted
      | true =>
          have asks : w.AsksPassword pb label ⟨s, msg, req⟩ user :=
            ⟨asks_of_dispatched reached parsed, signedIn, old, new, granted⟩
          injection call with _ isAccount _
          exact absurd ⟨_, user, asks, isAccount, asks.accepted_iff.mpr verified⟩ unchanged
  · rw [after]
    refine Store.afterCalls_keeps (fun s => s.storedPassword id = some password) ?_ made stored
    intro store call makes before
    rcases store.afterCall_passwords call with ⟨mutator, rfl, effect⟩ | same
    · refine effect.stored before ?_
      rintro salt newpassword rfl
      cases makes with
      | password => exact absurd rfl modifies
    · exact (Store.storedPassword_of_same same.loaded id).trans before

/-- An accepted request stores the hash of its new password. -/
theorem storedPassword_changes {ask : Ask ModifyPasswordReq} {user : User}
    (asks : w.AsksPassword pb label ask user) (accepted : w.PasswordAccepted pb label ask)
    (known : w.store.storedPassword user.userid ≠ none) :
    (w.step pb label).store.storedPassword user.userid =
      some (hashPassword label.env.salt ask.req.newpassword) := by
  rcases asks.answered with ⟨-, -, changed⟩ | ⟨refused, -⟩
  · rw [changed]
    exact Store.storedPassword_modified label.env.salt _ asks.granted known
  · rw [asks.accepted_iff, refused] at accepted
    cases accepted

/-- The account of a session has one password on both sides. -/
theorem AsksPassword.stored {ask : Ask ModifyPasswordReq} {user : User} (sound : w.Sound)
    (agree : w.store.PasswordsAgree) (asks : w.AsksPassword pb label ask user) :
    ∃ stored, w.store.storedPassword user.userid = some stored ∧
      (w.store.getUserByID user.userid).map User.password = some stored := by
  obtain ⟨holds, sameUsers⟩ := holds_of_dispatched (dispatched_of_asks asks.asked).1
  have signedIn : w.userOn ask.session.conn = some user := by
    rw [← sameUsers, holds.userOn, asks.signedIn]
  have known := sound.registered _ user signedIn
  rw [Store.graph, Option.isSome_map] at known
  obtain ⟨cached, found⟩ := Option.isSome_iff_exists.mp known
  have stored := agree cached (mem_of_lookup found)
  rw [lookup_key found] at stored
  exact ⟨cached.password, stored, by rw [found]; rfl⟩

/-- What it means that a known password is the stored one. -/
theorem AsksPassword.verifiesStored_iff {ask : Ask ModifyPasswordReq} {user : User} {plain : Bytes}
    (sound : w.Sound) (agree : w.store.PasswordsAgree) (asks : w.AsksPassword pb label ask user)
    (isStored : w.store.storedPassword user.userid = some password) :
    w.store.VerifiesStored user.userid plain ↔ verifyPassword plain password = true := by
  obtain ⟨stored, inRow, cached⟩ := asks.stored sound agree
  obtain rfl : stored = password := Option.some.inj (inRow.symm.trans isStored)
  constructor
  · rintro ⟨other, isOther, -, verified⟩
    rwa [Option.some.inj (inRow.symm.trans isOther)]
  · intro verified
    exact ⟨stored, inRow, cached, verified⟩

end Steps

/-! ### Runs -/

section Runs

variable {pb : ImProto}

/-- What the two sides of a run keep. -/
structure PasswordsKept (w : World) : Prop where
  sound : w.Sound
  agree : w.store.PasswordsAgree

theorem passwordsKept_run (pb : ImProto) (tables : Tables) (steps : List Step) :
    (runFrom pb (boot tables) steps).PasswordsKept := by
  refine run_keeps PasswordsKept ?_ ⟨sound_boot tables, Store.passwordsAgree_init _ _⟩
  intro w label kept
  exact ⟨kept.sound.step, passwordsAgree_step kept.agree⟩

/-- As long as no request changes it, the password of an account stays. -/
theorem storedPassword_run {start : World} {id : Int} {password : Bytes} {steps : List Step}
    (stored : start.store.storedPassword id = some password)
    (unchanged : AllSteps (step pb) (fun w label => ¬ w.ChangesPassword pb id label) start steps) :
    (runFrom pb start steps).store.storedPassword id = some password :=
  run_invariant (fun w => w.store.storedPassword id = some password)
    (fun _ _ before quiet => storedPassword_step before quiet) stored unchanged

/-- A known stored password decides all logins, and all requests whose session
has a copy that agrees. -/
theorem governs_of_stored {w : World} {label : Step} {id : Int} {password : Bytes}
    (kept : w.PasswordsKept) (stored : w.store.storedPassword id = some password)
    (agrees : w.CopyAgrees pb label) :
    w.Governs pb password id label where
  login := by
    intro ask asks
    obtain ⟨found, registered, rfl⟩ := asks.named
    have cached := kept.agree found (List.mem_of_find?_eq_some registered)
    rw [asks.accepted_iff registered, Option.some.inj (cached.symm.trans stored)]
  change := by
    rintro ask user asks rfl
    rw [asks.accepted_iff, agrees ask user asks,
      asks.verifiesStored_iff kept.sound kept.agree stored]

/-- The stored password decides all along exactly when no request finds a copy
that judges differently. -/
theorem passwords_governed_iff (pb : ImProto) (tables : Tables) (steps : List Step) :
    PasswordsGoverned pb (boot tables) steps ↔
      AllSteps (step pb) (CopyAgrees pb) (boot tables) steps := by
  constructor
  · intro governed
    apply allSteps_of_splits
    intro past label rest split ask user asks
    rw [← asks.accepted_iff]
    exact governed.judged past label rest split ask user asks
  · intro agrees
    refine ⟨?_, ?_⟩
    · intro past label rest split ask user asks
      rw [asks.accepted_iff]
      exact agrees.admitted split ask user asks
    · intro past label between later rest split ask user asks accepted unchanged
      have kept := passwordsKept_run pb tables past
      obtain ⟨old, isStored, -⟩ := asks.stored kept.sound kept.agree
      have changed := storedPassword_changes asks accepted
        (isStored ▸ Option.some_ne_none old)
      rw [← runFrom_snoc] at changed
      have stored := storedPassword_run changed unchanged
      rw [runFrom, ← run_append, List.append_assoc, List.singleton_append] at stored
      refine governs_of_stored (passwordsKept_run pb tables _) stored ?_
      exact agrees.admitted (by rw [split, List.append_assoc, List.cons_append])

end Runs

/-! ### Two changes on one session -/

/-- Alice asks to change her password. -/
def changes (oldpassword newpassword : Bytes) : Step :=
  Client.send 0 .modifyPassword (Client.modifyPassword oldpassword newpassword)

/-- Alice changes her password twice. The second request has the right password,
but the session still has the first one. -/
theorem second_change_refused :
    ¬ PasswordsGoverned wireProto (boot Sample.aliceAlone) (Sample.aliceLogsIn ++
      [changes (str "secret") (str "first"), changes (str "first") (str "second")]) := by
  intro governed
  -- What her session holds at the first and at the second request.
  obtain ⟨session, user, asked, signedIn, isAlice, copy⟩ : ∃ session user,
      (runFrom wireProto (boot Sample.aliceAlone) Sample.aliceLogsIn).asks
        (changes (str "secret") (str "first")) .modifyPassword wireProto.modifyPasswordReq =
        some ⟨session, MsgType.modifyPassword.container
          (Client.modifyPassword (str "secret") (str "first")), ⟨str "secret", str "first"⟩⟩ ∧
      session.user = some user ∧ user.userid = 1 ∧ user.password = str "secret" :=
    ⟨_, _, rfl, rfl, rfl, rfl⟩
  obtain ⟨session', user', asked', signedIn', isAlice', copy'⟩ : ∃ session user,
      (runFrom wireProto (boot Sample.aliceAlone) (Sample.aliceLogsIn ++
        [changes (str "secret") (str "first")])).asks
        (changes (str "first") (str "second")) .modifyPassword wireProto.modifyPasswordReq =
        some ⟨session, MsgType.modifyPassword.container
          (Client.modifyPassword (str "first") (str "second")), ⟨str "first", str "second"⟩⟩ ∧
      session.user = some user ∧ user.userid = 1 ∧ user.password = str "secret" :=
    ⟨_, _, rfl, rfl, rfl, rfl⟩
  have secretFilled : str "secret" ≠ [] := by decide
  have firstFilled : str "first" ≠ [] := by decide
  have secondFilled : str "second" ≠ [] := by decide
  have secretMatches : verifyPassword (str "secret") (str "secret") = true := by decide
  have firstDiffers : verifyPassword (str "first") (str "secret") = false := by decide
  have first : AsksPassword wireProto _ _ _ user :=
    ⟨asked, signedIn, secretFilled, firstFilled, rfl⟩
  have second : AsksPassword wireProto _ _ _ user' :=
    ⟨asked', signedIn', firstFilled, secondFilled, rfl⟩
  have accepted := first.accepted_iff.mpr (by rw [copy]; exact secretMatches)
  have governs := governed.afterwards Sample.aliceLogsIn _ [] _ [] rfl _ user first accepted
    trivial
  have verifies := verifyPassword_hashPassword Env.plain.salt (str "first")
  have acceptedAgain := (governs.change _ user' second (isAlice'.trans isAlice.symm)).mpr verifies
  rw [second.accepted_iff, copy'] at acceptedAgain
  exact absurd (firstDiffers.symm.trans acceptedAgain) Bool.false_ne_true

end World

end AimServer
