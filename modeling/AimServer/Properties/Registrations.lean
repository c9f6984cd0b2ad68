import AimServer.System.Registration
import AimServer.Properties.MailCodes

/-!
Contract: registration across IMServer and GoMailServer.

Owns: the exact condition under which a step of the two processes adds an
account, and the theorem that over a run an address gets no more accounts than
codes were made for it.

Does not own: whether the mail with the code arrives.
-/

namespace AimServer

open AimServer.Lib
open AimServer.PasswordUtil

/-! ### The step of IMServer -/

namespace Store

theorem addUser_ok (salt : Bytes) {user : User} {s : Store}
    (unused : duplicateScan user s.cachedUsers = none) (granted : s.db.outcomes 0 = true)
    (fresh : s.baseUserID + 1 ∉ s.userRows.map UserRow.userId) :
    (s.addUser salt user).2.userRows = s.userRows ++ [s.newUserRow salt user] := by
  have absent : (s.newUserRow salt user).userId ∉ s.userRows.map UserRow.userId := fresh
  obtain ⟨users, inserted, -⟩ := KeyedTable.insert_of_absent absent
  have applied : Stmt.apply (.insertUser (s.baseUserID + 1) user.username user.nickname
      (hashPassword salt user.password) user.mail) s.db.tables =
      some { s.db.tables with users } := by
    show Option.map _ (s.db.tables.users.insert (s.newUserRow salt user)) = _
    rw [inserted]
    rfl
  have isOk : (s.addUser salt user).1 = .ok := by
    simp only [addUser, unused, execute_granted granted applied]
  rcases addUser_userRows salt user s with ⟨failed, -⟩ | ⟨-, -, -, -, added⟩
  · exact absurd isOk failed
  · exact added

end Store

namespace World

variable {pb : ImProto} {s : ClientSession} {msg : MessageContainer} {w : World} {label : Step}

/-- A registration the mail server is asked about. -/
theorem onRegisterResponse_asks {req : RegisterReq}
    (parsed : pb.registerReq msg.payload = some req) (asks : AsksMail w.env req) :
    (w.onRegisterResponse pb s msg).calls = w.calls ++ [.verifyCode req.email req.code] ∧
      (w.env.verify.ok = true → (w.onRegisterResponse pb s msg).store =
        (w.store.addUser w.env.salt (registeredUser req)).2) := by
  obtain ⟨username, nickname, password, email, code⟩ := asks.complete
  have short : ¬ req.nickname.length > 60 := Nat.not_lt.mpr asks.nickname
  have named : ¬ ¬ isValidUsername req.username = true := not_not.mpr asks.username
  unfold onRegisterResponse
  simp only [parsed, username, nickname, password, email, code, or_self, if_false, short, named,
    asks.ready]
  split
  · exact ⟨rfl, fun _ => rfl⟩
  · rename_i refused
    exact ⟨rfl, fun verified => absurd verified refused⟩

/-- What the insertion of a registration needs, and the row it leaves. -/
structure Inserts (w : World) (label : Step) (req : RegisterReq) (row : UserRow) : Prop where
  unused : Store.duplicateScan (registeredUser req) w.store.cachedUsers = none
  granted : label.env.sql 0 = true
  fresh : w.store.baseUserID + 1 ∉ w.store.userRows.map UserRow.userId
  isRow : row = w.store.newUserRow label.env.salt (registeredUser req)

theorem step_of_asked {ask : Ask RegisterReq}
    (asked : w.asks label .register pb.registerReq = some ask) :
    w.step pb label = ((w.withEnv label.env).setSession ask.session).onRegisterResponse pb
      ask.session ask.msg :=
  step_of_dispatched pb (dispatched_of_asks asked).1

/-- The call of such a registration, whatever the answer will be. -/
theorem mailCall?_of_asked {ask : Ask RegisterReq}
    (asked : w.asks label .register pb.registerReq = some ask)
    (asks : AsksMail label.env ask.req) :
    w.mailCall? pb label = some (.verifyCode ask.req.email ask.req.code) := by
  have called := (onRegisterResponse_asks (s := ask.session)
    (w := (w.withEnv label.env).setSession ask.session) (dispatched_of_asks asked).2 asks).1
  unfold mailCall?
  rw [step_of_asked asked, called]
  show (List.drop w.calls.length (w.calls ++ _)).find? _ = _
  rw [List.drop_left]
  rfl

theorem asks_congr {next : Step} (same : next.event = label.event) {Req : Type} (type : MsgType)
    (parse : Bytes → Option Req) : w.asks next type parse = w.asks label type parse := by
  unfold asks dispatched
  rw [same]

/-- A step adds a row with a mail exactly by a registration. -/
theorem step_adds_iff (pb : ImProto) (w : World) (label : Step) (row : UserRow) :
    (row ∈ (w.step pb label).store.userRows ∧ row.userId ∉ w.store.userRows.map UserRow.userId ∧
        row.mail ≠ none) ↔
      ∃ ask, w.asks label .register pb.registerReq = some ask ∧ Registers label.env ask.req ∧
        w.Inserts label ask.req row := by
  constructor
  · rintro ⟨member, fresh, mail⟩
    rcases step_rows pb w label with same | ⟨type, s, msg, reached, writes⟩
    · rw [same] at member
      exact absurd (List.mem_map_of_mem member) fresh
    generalize (w.step pb label).store.userRows = rows at writes member
    -- An edited row keeps its id.
    have edited : ∀ {id : Int} {change : UserRow → UserRow},
        row ∈ modify UserRow.userId id change w.store.userRows →
        (∀ row, (change row).userId = row.userId) → False := by
      intro id change isEdited keeps
      have isId := List.mem_map_of_mem (f := UserRow.userId) isEdited
      rw [map_modify keeps] at isId
      exact fresh isId
    cases writes with
    | kept => exact absurd (List.mem_map_of_mem member) fresh
    | registered parsed registers unused granted isFresh =>
        rcases List.mem_append.mp member with isOld | isNew
        · exact absurd (List.mem_map_of_mem isOld) fresh
        · exact ⟨_, asks_of_dispatched reached parsed, registers, unused, granted, isFresh,
            List.mem_singleton.mp isNew⟩
    | grouped signedIn parsed isFresh =>
        rcases List.mem_append.mp member with isOld | isNew
        · exact absurd (List.mem_map_of_mem isOld) fresh
        · rw [List.mem_singleton.mp isNew] at mail
          exact absurd rfl mail
    | profile signedIn edits entitled =>
        exact (edited member fun _ => rfl).elim
    | password signedIn parsed verified =>
        exact (edited member fun _ => rfl).elim
    | renamed signedIn entitled =>
        exact (edited member fun _ => rfl).elim
  · rintro ⟨ask, asked, registers, inserts⟩
    have added : (w.step pb label).store = (Store.addUser label.env.salt (registeredUser ask.req)
        ((w.withEnv label.env).setSession ask.session).store).2 := by
      rw [step_of_asked asked]
      exact (onRegisterResponse_asks (dispatched_of_asks asked).2 registers.toAsksMail).2
        registers.verified
    have rows := Store.addUser_ok label.env.salt
      (s := ((w.withEnv label.env).setSession ask.session).store) inserts.unused inserts.granted
      inserts.fresh
    rw [← added] at rows
    rw [inserts.isRow, rows]
    exact ⟨List.mem_append_right _ List.mem_cons_self, inserts.fresh, Option.some_ne_none _⟩

end World

/-! ### The history of the mail server -/

namespace CodeStore

theorem records_snoc (email : Bytes) (s : CodeStore) (labels : List CodeStep) (label : CodeStep) :
    s.records email (labels ++ [label]) =
      s.records email labels ++ (run step s labels).recordOf email label := by
  induction labels generalizing s with
  | nil => simp [records]
  | cons head tail inductionHypothesis =>
      rw [List.cons_append, records, records, inductionHypothesis, List.append_assoc]
      rfl

end CodeStore

namespace MailService

theorem sendCode_store (network : Network) (email : Bytes) (draw : Nat) (now : Int)
    (s : MailService) :
    (s.sendCode network email draw now).2.store =
      if emailPattern email then s.store.step ⟨.generate email draw, now⟩ else s.store := by
  unfold sendCode
  split
  · dsimp only
    split
    · split <;> rfl
    · rfl
  · rfl

end MailService

namespace Deployment

/-- What the calls for an address returned since the mail server started. -/
def history (email : Bytes) (d : Deployment) : List CodeRecord :=
  (CodeStore.new d.mail.store.ttl d.mail.store.cool d.mail.store.digits).records email d.handled

/-- The calls handled led to the codes that are stored. -/
structure Recorded (d : Deployment) : Prop where
  store : d.mail.store = run CodeStore.step
    (.new d.mail.store.ttl d.mail.store.cool d.mail.store.digits) d.handled
  tracks : ∀ email, d.mail.store.Tracks email d.now (d.history email)

variable {pb : ImProto} {d next : Deployment} {label : Step} {wire : Wire} {network : Network}
  {draw : Nat}

/-! ### A step of IMServer with its call -/

/-- What a step of IMServer comes to: it asks the mail server about a code, or it
does not. -/
inductive CallsMail (pb : ImProto) (d : Deployment) (label : Step) (wire : Wire)
    (network : Network) (draw : Nat) : Deployment → Prop
  | verified {email code : Bytes} (verify : VerifyResult)
      (calls : d.im.mailCall? pb label = some (.verifyCode email code))
      (accepted : verify.ok = true ↔
        wire = .answered ∧ (d.mail.store.verify email code d.now).1 = true) :
      CallsMail pb d label wire network draw
        ((d.verifyCode email code).2.stepIm pb (label.withVerify verify))
  | unreached {email code : Bytes} (verify : VerifyResult)
      (calls : d.im.mailCall? pb label = some (.verifyCode email code))
      (refused : verify.ok = false) (lost : wire ≠ .answered) :
      CallsMail pb d label wire network draw (d.stepIm pb (label.withVerify verify))
  | sent {email : Bytes} (sendCode : SendCodeResult)
      (others : ∀ email code, d.im.mailCall? pb label ≠ some (.verifyCode email code)) :
      CallsMail pb d label wire network draw
        ((d.sendCode network email draw).2.stepIm pb (label.withSendCode sendCode))
  | silent (next : Step) (sameEvent : next.event = label.event)
      (sameGrpc : next.env.grpc = label.env.grpc)
      (others : ∀ email code, d.im.mailCall? pb label ≠ some (.verifyCode email code)) :
      CallsMail pb d label wire network draw (d.stepIm pb next)

theorem verifyCode_ok (email code : Bytes) (d : Deployment) :
    (MailGrpcClient.verifyResult (d.verifyCode email code).1).ok = true ↔
      (d.mail.store.verify email code d.now).1 = true := by
  show (MailGrpcClient.verifyResult (d.mail.verifyCode email code d.now).1).ok = true ↔ _
  unfold MailService.verifyCode MailGrpcClient.verifyResult
  dsimp only
  split
  · rename_i accepted
    exact iff_of_true rfl accepted
  · rename_i refused
    exact iff_of_false Bool.false_ne_true refused

theorem callAndStep_cases (pb : ImProto) (d : Deployment) (label : Step) (wire : Wire)
    (network : Network) (draw : Nat) :
    CallsMail pb d label wire network draw (d.callAndStep pb label wire network draw) := by
  unfold callAndStep
  split
  · rename_i email code calls
    cases wire with
    | answered =>
        refine .verified (MailGrpcClient.verifyResult (d.verifyCode email code).1) calls ?_
        rw [verifyCode_ok]
        exact ⟨fun accepted => ⟨rfl, accepted⟩, And.right⟩
    | answerLost error =>
        refine .verified (MailGrpcClient.verifyFailed error) calls ?_
        refine iff_of_false Bool.false_ne_true fun answered => ?_
        cases answered.1
    | notReached error => exact .unreached _ calls rfl (by simp)
  · rename_i email calls
    have others : ∀ email code, d.im.mailCall? pb label ≠ some (.verifyCode email code) := by
      rw [calls]
      simp
    cases wire with
    | answered => exact .sent _ others
    | answerLost error => exact .sent _ others
    | notReached error => exact .silent _ rfl rfl others
  · rename_i others _
    exact .silent label rfl rfl others

/-! ### What the mail server sees -/

/-- What an event comes to at the code store. -/
inductive MailMove (d next : Deployment) : Prop
  | kept (store : next.mail.store = d.mail.store) (handled : next.handled = d.handled)
  | called (call : CodeCall) (store : next.mail.store = d.mail.store.step ⟨call, next.now⟩)
      (handled : next.handled = d.handled ++ [⟨call, next.now⟩])
  | restarted (store : next.mail.store =
        .new d.mail.store.ttl d.mail.store.cool d.mail.store.digits)
      (handled : next.handled = [])

theorem sendCode_moves (network : Network) (email : Bytes) (draw : Nat) (d : Deployment) :
    MailMove d (d.sendCode network email draw).2 := by
  have store : (d.sendCode network email draw).2.mail.store = _ :=
    d.mail.sendCode_store network email draw d.now
  have handled : (d.sendCode network email draw).2.handled =
    d.handled ++ if emailPattern email then [⟨.generate email draw, d.now⟩] else [] := rfl
  cases wellFormed : emailPattern email with
  | true =>
      rw [if_pos wellFormed] at store handled
      exact .called (.generate email draw) store handled
  | false =>
      have malformed : ¬ emailPattern email = true := by simp [wellFormed]
      rw [if_neg malformed] at store handled
      exact .kept store (handled.trans (List.append_nil _))

theorem verifyCode_moves (email code : Bytes) (d : Deployment) :
    MailMove d (d.verifyCode email code).2 :=
  .called (.verify email code) rfl rfl

/-- A step of IMServer is not seen by the mail server. -/
theorem MailMove.stepIm (moves : MailMove d next) (pb : ImProto) (label : Step) :
    MailMove d (next.stepIm pb label) := by
  cases moves with
  | kept store handled => exact .kept store handled
  | called call store handled => exact .called call store handled
  | restarted store handled => exact .restarted store handled

theorem callAndStep_moves (pb : ImProto) (d : Deployment) (label : Step) (wire : Wire)
    (network : Network) (draw : Nat) :
    MailMove d (d.callAndStep pb label wire network draw) := by
  have ends := callAndStep_cases pb d label wire network draw
  generalize d.callAndStep pb label wire network draw = next at ends ⊢
  cases ends with
  | verified verify calls accepted => exact (verifyCode_moves _ _ d).stepIm pb _
  | unreached verify calls refused lost => exact (MailMove.kept rfl rfl).stepIm pb _
  | sent sendCode others => exact (sendCode_moves network _ draw d).stepIm pb _
  | silent later sameEvent sameGrpc others => exact (MailMove.kept rfl rfl).stepIm pb _

/-- At the instant of the event. -/
theorem step_moves (pb : ImProto) (d : Deployment) (label : DeploymentStep) :
    MailMove { d with now := d.now + label.elapsed } (d.step pb label) := by
  unfold step
  dsimp only
  split
  · exact callAndStep_moves pb _ _ _ _ _
  · exact sendCode_moves _ _ _ _
  · exact verifyCode_moves _ _ _
  · exact .called .cleanupExpired rfl rfl
  · exact .restarted rfl rfl

theorem step_now (pb : ImProto) (d : Deployment) (label : DeploymentStep) :
    (d.step pb label).now = d.now + label.elapsed := by
  unfold step
  dsimp only
  split
  · rename_i event wire network draw _
    have ends := callAndStep_cases pb { d with now := d.now + label.elapsed } event wire network
      draw
    generalize callAndStep pb event wire network draw { d with now := d.now + label.elapsed } =
      next at ends ⊢
    cases ends <;> rfl
  all_goals rfl

/-! ### Along a run -/

theorem Recorded.tick (recorded : d.Recorded) (elapsed : Nat) :
    Recorded { d with now := d.now + elapsed } where
  store := recorded.store
  tracks := fun email => (recorded.tracks email).mono (Int.le_add_of_nonneg_right
    (Int.natCast_nonneg elapsed))

/-- An empty store has no history. -/
theorem recorded_of_new {ttl cooldown : Int} {digits : Nat}
    (store : d.mail.store = .new ttl cooldown digits) (handled : d.handled = []) : d.Recorded where
  store := by
    rw [handled, store]
    rfl
  tracks := fun email => by
    unfold history
    rw [handled, store]
    refine ⟨?_, ?_⟩
    · intro entry found
      cases found
    · intro _ status isStatus
      cases isStatus

theorem Recorded.moves (recorded : d.Recorded) (moves : MailMove d next)
    (sameNow : next.now = d.now) : next.Recorded := by
  cases moves with
  | kept store handled =>
      refine ⟨?_, ?_⟩
      · rw [store, handled]
        exact recorded.store
      · intro email
        rw [history, store, handled, sameNow]
        exact recorded.tracks email
  | called call store handled =>
      rw [sameNow] at store handled
      obtain ⟨ttl, cool, digits⟩ := CodeStore.step_settings d.mail.store ⟨call, d.now⟩
      rw [← store] at ttl cool digits
      refine ⟨?_, ?_⟩
      · rw [ttl, cool, digits, handled, run_append, ← recorded.store, store]
        rfl
      · intro email
        rw [history, ttl, cool, digits, handled, CodeStore.records_snoc, ← recorded.store, store,
          sameNow]
        exact CodeStore.tracks_step (recorded.tracks email) ⟨call, d.now⟩ (le_refl _)
  | restarted store handled => exact recorded_of_new store handled

theorem Recorded.step (recorded : d.Recorded) (pb : ImProto) (label : DeploymentStep) :
    (d.step pb label).Recorded :=
  (recorded.tick label.elapsed).moves (step_moves pb d label) (step_now pb d label)

theorem recorded_run (pb : ImProto) (im : World) (mailer : SmtpConfig) (ttl cooldown : Int)
    (digits : Nat) (labels : List DeploymentStep) :
    ((boot im mailer ttl cooldown digits).runFrom pb labels).Recorded :=
  run_keeps Recorded (fun _ label recorded => recorded.step pb label) (recorded_of_new rfl rfl)

/-- The settings of the mail server stay what they are. -/
theorem ttl_step (pb : ImProto) (d : Deployment) (label : DeploymentStep) :
    (d.step pb label).mail.store.ttl = d.mail.store.ttl := by
  cases step_moves pb d label with
  | kept store handled => rw [store]
  | called call store handled =>
      rw [store]
      exact (CodeStore.step_settings _ _).1
  | restarted store handled =>
      rw [store]
      rfl

/-! ### Accounts -/

/-- The step adds a row with a mail; the rows of groups have none. -/
def AddsAccount (pb : ImProto) (d : Deployment) (label : DeploymentStep) (row : UserRow) : Prop :=
  row ∈ (d.step pb label).im.store.userRows ∧
    row.userId ∉ d.im.store.userRows.map UserRow.userId ∧ row.mail ≠ none

/-- A step of IMServer adds an account: the mail server is asked about the code,
the answer arrives, and it is yes. -/
theorem callAndStep_adds_iff (pb : ImProto) (d : Deployment) (label : Step) (wire : Wire)
    (network : Network) (draw : Nat) (row : UserRow) :
    (row ∈ (d.callAndStep pb label wire network draw).im.store.userRows ∧
        row.userId ∉ d.im.store.userRows.map UserRow.userId ∧ row.mail ≠ none) ↔
      ∃ ask, d.im.asks label .register pb.registerReq = some ask ∧ AsksMail label.env ask.req ∧
        wire = .answered ∧ (d.mail.store.verify ask.req.email ask.req.code d.now).1 = true ∧
        d.im.Inserts label ask.req row := by
  have ends := callAndStep_cases pb d label wire network draw
  have asked : ∀ {ask}, d.im.asks label .register pb.registerReq = some ask →
      AsksMail label.env ask.req →
      d.im.mailCall? pb label = some (.verifyCode ask.req.email ask.req.code) :=
    fun asked asks => World.mailCall?_of_asked asked asks
  generalize d.callAndStep pb label wire network draw = next at ends ⊢
  cases ends with
  | @verified email code verify calls accepted =>
      refine Iff.trans (World.step_adds_iff pb d.im (label.withVerify verify) row) ?_
      constructor
      · rintro ⟨ask, isAsk, registers, inserts⟩
        have asks : AsksMail label.env ask.req := ⟨registers.complete, registers.username,
          registers.nickname, registers.ready⟩
        obtain ⟨answered, isCode⟩ := accepted.mp registers.verified
        obtain ⟨rfl, rfl⟩ : email = ask.req.email ∧ code = ask.req.code := by
          simpa using calls.symm.trans (asked isAsk asks)
        exact ⟨ask, isAsk, asks, answered, isCode, inserts.unused, inserts.granted, inserts.fresh,
          inserts.isRow⟩
      · rintro ⟨ask, isAsk, asks, answered, isCode, inserts⟩
        obtain ⟨rfl, rfl⟩ : email = ask.req.email ∧ code = ask.req.code := by
          simpa using calls.symm.trans (asked isAsk asks)
        refine ⟨ask, isAsk, ⟨⟨asks.complete, asks.username, asks.nickname, asks.ready⟩,
          accepted.mpr ⟨answered, isCode⟩⟩, inserts.unused, inserts.granted, inserts.fresh,
          inserts.isRow⟩
  | @unreached email code verify calls refused lost =>
      refine iff_of_false ?_ ?_
      · intro adds
        obtain ⟨ask, -, registers, -⟩ :=
          (World.step_adds_iff pb d.im (label.withVerify verify) row).mp adds
        exact Bool.false_ne_true (refused.symm.trans registers.verified)
      · rintro ⟨-, -, -, answered, -⟩
        exact lost answered
  | @sent email sendCode others =>
      refine iff_of_false ?_ ?_
      · intro adds
        obtain ⟨ask, isAsk, registers, -⟩ :=
          (World.step_adds_iff pb d.im (label.withSendCode sendCode) row).mp adds
        exact others _ _ (asked isAsk ⟨registers.complete, registers.username, registers.nickname,
          registers.ready⟩)
      · rintro ⟨ask, isAsk, asks, -⟩
        exact others _ _ (asked isAsk asks)
  | silent later sameEvent sameGrpc others =>
      refine iff_of_false ?_ ?_
      · intro adds
        obtain ⟨ask, isAsk, registers, -⟩ := (World.step_adds_iff pb d.im later row).mp adds
        rw [World.asks_congr sameEvent] at isAsk
        exact others _ _ (asked isAsk ⟨registers.complete, registers.username, registers.nickname,
          sameGrpc ▸ registers.ready⟩)
      · rintro ⟨ask, isAsk, asks, -⟩
        exact others _ _ (asked isAsk asks)

/-- In any state the two processes reach, a step adds an account exactly when a
complete registration reaches IMServer, the mail server answers, the code is the
one it made last for that address, in time, unused and with fewer than five wrong
tries since, name and address are free, and the insertion takes effect. -/
theorem account_added_iff (pb : ImProto) (im : World) (mailer : SmtpConfig) (ttl cooldown : Int)
    (digits : Nat) (labels : List DeploymentStep) (label : DeploymentStep) (row : UserRow) :
    ((boot im mailer ttl cooldown digits).runFrom pb labels).AddsAccount pb label row ↔
      ∃ event network draw ask, label.event = .im event .answered network draw ∧
        ((boot im mailer ttl cooldown digits).runFrom pb labels).im.asks event .register
          pb.registerReq = some ask ∧
        AsksMail event.env ask.req ∧
        AdmitsCode ttl (((boot im mailer ttl cooldown digits).runFrom pb labels).history
          ask.req.email) ask.req.code
          (((boot im mailer ttl cooldown digits).runFrom pb labels).now + label.elapsed) ∧
        ((boot im mailer ttl cooldown digits).runFrom pb labels).im.Inserts event ask.req row := by
  have recorded := recorded_run pb im mailer ttl cooldown digits labels
  have sameTtl : ((boot im mailer ttl cooldown digits).runFrom pb labels).mail.store.ttl = ttl :=
    run_keeps (fun d : Deployment => d.mail.store.ttl = ttl)
      (fun d label same => (ttl_step pb d label).trans same) rfl
  generalize (boot im mailer ttl cooldown digits).runFrom pb labels = d at recorded sameTtl ⊢
  have unchanged : ∀ {next : Deployment}, next.im = d.im →
      ¬ (row ∈ next.im.store.userRows ∧ row.userId ∉ d.im.store.userRows.map UserRow.userId ∧
        row.mail ≠ none) := by
    rintro next same ⟨member, fresh, -⟩
    rw [same] at member
    exact fresh (List.mem_map_of_mem member)
  have ticked := recorded.tick label.elapsed
  unfold AddsAccount step
  dsimp only
  cases label.event with
  | im event wire network draw =>
      refine Iff.trans (callAndStep_adds_iff pb { d with now := d.now + label.elapsed } event wire
        network draw row) ?_
      constructor
      · rintro ⟨ask, isAsk, asks, rfl, isCode, inserts⟩
        refine ⟨event, network, draw, ask, rfl, isAsk, asks, ?_, inserts⟩
        rw [← sameTtl]
        exact (CodeStore.verify_iff_admits (ticked.tracks ask.req.email) ask.req.code).mp isCode
      · rintro ⟨event', network', draw', ask, isEvent, isAsk, asks, admits, inserts⟩
        cases isEvent
        refine ⟨ask, isAsk, asks, rfl, ?_, inserts⟩
        rw [← sameTtl] at admits
        exact (CodeStore.verify_iff_admits (ticked.tracks ask.req.email) ask.req.code).mpr admits
  | sendCode email network draw =>
      refine iff_of_false (unchanged rfl) ?_
      rintro ⟨_, _, _, _, isEvent, -⟩
      cases isEvent
  | verifyCode email code =>
      refine iff_of_false (unchanged rfl) ?_
      rintro ⟨_, _, _, _, isEvent, -⟩
      cases isEvent
  | cleanup =>
      refine iff_of_false (unchanged rfl) ?_
      rintro ⟨_, _, _, _, isEvent, -⟩
      cases isEvent
  | restartMail =>
      refine iff_of_false (unchanged rfl) ?_
      rintro ⟨_, _, _, _, isEvent, -⟩
      cases isEvent

/-! ### How many accounts -/

/-- A row with this mail is added. -/
def addsAccountFor (pb : ImProto) (email : Bytes) (d : Deployment) (label : DeploymentStep) :
    Bool :=
  (d.step pb label).im.store.userRows.any fun row =>
    row.userId ∉ d.im.store.userRows.map UserRow.userId ∧ row.mail = some email

/-- A code for the address is made. -/
def makesCode (pb : ImProto) (email : Bytes) (d : Deployment) (label : DeploymentStep) : Bool :=
  ((d.step pb label).handled.drop d.handled.length).any fun call =>
    (d.mail.store.recordOf email call).any CodeRecord.isSent

/-- The codes of an address that can still be used up. -/
def waiting (email : Bytes) (d : Deployment) : Nat :=
  if (d.mail.store.codes.lookup email).isSome then 1 else 0

/-- A call leaves a code only if there was one or it makes one. -/
theorem waiting_call {store : CodeStore} {email : Bytes} (label : CodeStep)
    (left : ((store.step label).codes.lookup email).isSome) :
    (store.codes.lookup email).isSome ∨
      (store.recordOf email label).any CodeRecord.isSent = true := by
  obtain ⟨call, now⟩ := label
  cases call with
  | generate asked draw =>
      rw [CodeStore.step_generate] at left
      rcases CodeStore.generate_lookup store asked draw now with
        ⟨ok, isCode, -, entries⟩ | ⟨-, -, same⟩
      · rw [entries] at left
        by_cases own : email = asked
        · subst own
          right
          simp [CodeStore.recordOf, ok, CodeRecord.isSent]
        · rw [if_neg own] at left
          exact Or.inl left
      · rw [same] at left
        exact Or.inl left
  | verify asked code =>
      rw [CodeStore.step_verify] at left
      by_cases own : email = asked
      · subst own
        rcases CodeStore.verify_cases store email code now with ⟨-, same⟩ | ⟨entry, found, -⟩
        · rw [same] at left
          exact Or.inl left
        · exact Or.inl (by rw [found]; rfl)
      · rw [CodeStore.verify_lookup_other store code now own] at left
        exact Or.inl left
  | cleanupExpired =>
      rw [CodeStore.step_cleanup, CodeStore.cleanup_lookup] at left
      obtain ⟨entry, kept⟩ := Option.isSome_iff_exists.mp left
      exact Or.inl (by rw [(Option.filter_eq_some_iff.mp kept).1]; rfl)

/-- No event leaves more codes than it found and made. -/
theorem waiting_step (pb : ImProto) (email : Bytes) (d : Deployment) (label : DeploymentStep) :
    waiting email (d.step pb label) ≤
      waiting email d + if makesCode pb email d label then 1 else 0 := by
  unfold waiting
  by_cases left : ((d.step pb label).mail.store.codes.lookup email).isSome
  · rw [if_pos left]
    cases step_moves pb d label with
    | kept store handled =>
        rw [store] at left
        rw [if_pos left]
        exact Nat.le_add_right _ _
    | called call store handled =>
        rw [store] at left
        rcases waiting_call _ left with before | made
        · rw [if_pos before]
          exact Nat.le_add_right _ _
        · have makes : makesCode pb email d label = true := by
            unfold makesCode
            rw [handled, List.drop_left, List.any_cons, made]
            rfl
          rw [if_pos makes]
          exact Nat.le_add_left _ _
    | restarted store handled =>
        rw [store] at left
        cases left
  · rw [if_neg left]
    exact Nat.zero_le _

/-- A new account uses up the code of its address. -/
theorem waiting_of_adds {email : Bytes} {d : Deployment} {label : DeploymentStep}
    (adds : addsAccountFor pb email d label = true) :
    waiting email d = 1 ∧ waiting email (d.step pb label) = 0 := by
  unfold addsAccountFor at adds
  obtain ⟨row, member, isNew⟩ := List.any_eq_true.mp adds
  obtain ⟨fresh, mail⟩ := of_decide_eq_true isNew
  unfold step at member ⊢
  dsimp only at member ⊢
  cases isEvent : label.event with
  | im event wire network draw =>
      rw [isEvent] at member
      obtain ⟨ask, isAsk, asks, rfl, isCode, inserts⟩ := (callAndStep_adds_iff pb
        { d with now := d.now + label.elapsed } event wire network draw row).mp
          ⟨member, fresh, by rw [mail]; exact Option.some_ne_none _⟩
      have own : ask.req.email = email := by
        rw [inserts.isRow] at mail
        exact Option.some.inj mail
      have calls : d.im.mailCall? pb event = _ := World.mailCall?_of_asked isAsk asks
      subst own
      have found : (d.mail.store.codes.lookup ask.req.email).isSome ∧
          (d.mail.store.verify ask.req.email ask.req.code (d.now + label.elapsed)).2.codes.lookup
            ask.req.email = none := by
        have accepted : (d.mail.store.verify ask.req.email ask.req.code
          (d.now + label.elapsed)).1 = true := isCode
        rcases CodeStore.verify_cases d.mail.store ask.req.email ask.req.code
          (d.now + label.elapsed) with ⟨-, same⟩ | ⟨entry, isEntry, ends⟩
        · rw [same] at accepted
          cases accepted
        · refine ⟨by rw [isEntry]; rfl, ?_⟩
          rcases ends with ⟨-, refused, -⟩ | ⟨-, -, -, gone⟩ | ⟨-, -, refused, -⟩ |
            ⟨-, -, refused, -⟩
          · rw [refused] at accepted
            cases accepted
          · exact gone
          · rw [refused] at accepted
            cases accepted
          · rw [refused] at accepted
            cases accepted
      refine ⟨if_pos found.1, ?_⟩
      simp only [callAndStep, calls]
      refine if_neg ?_
      show ¬ ((d.mail.store.verify ask.req.email ask.req.code
        (d.now + label.elapsed)).2.codes.lookup ask.req.email).isSome = true
      rw [found.2]
      exact Bool.false_ne_true
  | sendCode email network draw =>
      rw [isEvent] at member
      exact absurd (List.mem_map_of_mem member) fresh
  | verifyCode email code =>
      rw [isEvent] at member
      exact absurd (List.mem_map_of_mem member) fresh
  | cleanup =>
      rw [isEvent] at member
      exact absurd (List.mem_map_of_mem member) fresh
  | restartMail =>
      rw [isEvent] at member
      exact absurd (List.mem_map_of_mem member) fresh

/-- Whatever clients, other callers of the mail server and restarts do, an address
gets no more accounts than codes were made for it. -/
theorem accounts_le_codes (pb : ImProto) (im : World) (mailer : SmtpConfig) (ttl cooldown : Int)
    (digits : Nat) (email : Bytes) (labels : List DeploymentStep) :
    countSteps (step pb) (addsAccountFor pb email) (boot im mailer ttl cooldown digits) labels ≤
      countSteps (step pb) (makesCode pb email) (boot im mailer ttl cooldown digits) labels := by
  have pays : ∀ (d : Deployment) (label : DeploymentStep),
      (if addsAccountFor pb email d label then 1 else 0) + waiting email (d.step pb label) ≤
        waiting email d + if makesCode pb email d label then 1 else 0 := ?_
  · have paid := countSteps_le_of_potential (waiting email) pays
      (boot im mailer ttl cooldown digits) labels
    have nothing : waiting email (boot im mailer ttl cooldown digits) = 0 := rfl
    omega
  · intro d label
    have left := waiting_step pb email d label
    cases adds : addsAccountFor pb email d label with
    | true =>
        obtain ⟨one, none⟩ := waiting_of_adds adds
        rw [one, none, if_pos rfl]
        exact Nat.le_add_right _ _
    | false =>
        rw [if_neg Bool.false_ne_true, Nat.zero_add]
        exact left

end Deployment

end AimServer
