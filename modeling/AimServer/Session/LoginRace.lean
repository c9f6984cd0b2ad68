import AimServer.Session.Identity
import AimServer.Store.OfflineQueue

/-!
Contract: the deliveries of `OnChatResponse` and one `OnLoginResponse` on
different IO threads.

Owns: a delivery as its two steps, the session lookup and then the push or the
store; a login as its steps from `m_user` to the online notice; their
interleavings; and the theorems that a delivery and a login which nobody
interrupts are the ones of the sequential model.

`MsgCacheManager` holds its lock over a fetch, so each of its calls is one
step here. Statements succeed when `World.store` grants them.
-/

namespace AimServer

open AimServer.Lib

namespace World

/-- The part of a login up to its response. -/
def answerLogin (s : ClientSession) (found : User) (w : World) : World :=
  let (isVip, w) :=
    match w.env.grpc with
    | .ready => (w.env.vipStatus.getD false, w.call (.queryVipStatus found.userid))
    | _ => (false, w)
  let s := { s with user := some { found with status := 1 } }
  let w := w.setSession s
  let w := w.withStore (w.store.setUserStatus found.userid 1).2
  w.reply s .login (.login 0 "ok" (some (infoOf found)) isVip)

/-- The online notice to all friends. -/
def announceLogin (found : User) (w : World) : World :=
  let friends := (w.store.getFriendInfoByUserID found.userid).getD []
  w.notifyAll (friends.map User.userid) found.userid 1 []

theorem completeLogin_eq (pb : ImProto) (s : ClientSession) (found : User) (w : World) :
    w.completeLogin pb s found =
      let answered := w.answerLogin s found
      let (notifies, store) := answered.store.getNotifyMsgCache found.userid
      let notified := (answered.withStore store).emit (replayFrames pb s.conn notifies)
      let (chats, store) := notified.store.getChatMsgCache found.userid
      ((notified.withStore store).emit (replayFrames pb s.conn chats)).announceLogin found := rfl

end World

/-- A chat handler that has come to its delivery: the container, the recipients
it has not looked up yet, and the one it has, with the connection of the
session it found. -/
structure Delivery where
  message : MessageContainer
  recipients : List Int
  found : Option (Int × Option Nat)
deriving DecidableEq

/-- Where a login is. The blobs are the fetched ones that are not sent yet. -/
inductive LoginPhase where
  | waiting
  | accepted
  | answered
  | notifying (blobs : List Bytes)
  | replaying (blobs : List Bytes)
  | finished
deriving DecidableEq

/-- The server with the handlers that are running, the chat frames written for
each recipient, and what was sent to whom. -/
structure LoginRace where
  world : World
  deliveries : List Delivery
  phase : LoginPhase
  writes : List (Int × Nat × Frame)
  sent : List (Int × MessageContainer)

inductive RaceLabel where
  /-- A chat handler comes to its delivery. -/
  | begin (message : MessageContainer) (recipients : List Int)
  /-- `GetSessionByID` of the next recipient. -/
  | lookUp (handler : Nat)
  /-- `SendContainer`, or `AddChatMsgCache` when no session was found. -/
  | hand (handler : Nat)
  /-- The next step of the login. -/
  | login
deriving DecidableEq

namespace LoginRace

section Machine

variable (pb : ImProto) (conn : Nat) (found : User)

def starting (w : World) : LoginRace := ⟨w, [], .waiting, [], []⟩

def lookUp (handler : Nat) (delivery : Delivery) (race : LoginRace) : LoginRace :=
  match delivery.found, delivery.recipients with
  | none, recipient :: rest =>
      { race with
        deliveries := race.deliveries.set handler
          { delivery with
            recipients := rest
            found := some (recipient,
              (race.world.getSessionByID recipient).map ClientSession.conn) } }
  | _, _ => race

def hand (handler : Nat) (delivery : Delivery) (race : LoginRace) : LoginRace :=
  match delivery.found with
  | none => race
  | some (recipient, some target) =>
      { race with
        world := race.world.emit [(target, delivery.message.frame)]
        deliveries := race.deliveries.set handler { delivery with found := none }
        writes := race.writes ++ [(recipient, target, delivery.message.frame)] }
  | some (recipient, none) =>
      { race with
        world := race.world.withStore
          (race.world.store.addChatMsgCache recipient (pb.serializeContainer delivery.message)).2
        deliveries := race.deliveries.set handler { delivery with found := none } }

/-- The next step of the login, whose user name and password were those of
`found`. -/
def login (race : LoginRace) : LoginRace :=
  match race.phase with
  | .waiting =>
      match race.world.session? conn with
      | none => race
      | some s =>
          { race with
            world := race.world.setSession { s with user := some found }
            phase := .accepted }
  | .accepted =>
      match race.world.session? conn with
      | none => race
      | some s => { race with world := race.world.answerLogin s found, phase := .answered }
  | .answered =>
      let (blobs, store) := race.world.store.getNotifyMsgCache found.userid
      { race with world := race.world.withStore store, phase := .notifying blobs }
  | .notifying (blob :: rest) =>
      { race with
        world := race.world.emit (World.replayFrames pb conn [blob])
        phase := .notifying rest }
  | .notifying [] =>
      let (blobs, store) := race.world.store.getChatMsgCache found.userid
      { race with world := race.world.withStore store, phase := .replaying blobs }
  | .replaying (blob :: rest) =>
      { race with
        world := race.world.emit (World.replayFrames pb conn [blob])
        phase := .replaying rest
        writes := race.writes ++
          (World.replayFrames pb conn [blob]).map fun written => (found.userid, written) }
  | .replaying [] => { race with world := race.world.announceLogin found, phase := .finished }
  | .finished => race

def step (race : LoginRace) : RaceLabel → LoginRace
  | .begin message recipients =>
      { race with
        deliveries := race.deliveries ++ [⟨message, recipients, none⟩]
        sent := race.sent ++ recipients.map fun recipient => (recipient, message) }
  | .lookUp handler =>
      match race.deliveries[handler]? with
      | none => race
      | some delivery => race.lookUp handler delivery
  | .hand handler =>
      match race.deliveries[handler]? with
      | none => race
      | some delivery => race.hand pb handler delivery
  | .login => race.login pb conn found

end Machine

/-! ### Handlers that nobody interrupts -/

section Alone

variable (pb : ImProto) (conn : Nat) (found : User) {race : LoginRace}

/-- A lookup and the push or store after it, without another step between
them. -/
theorem lookUp_hand {handler : Nat} {message : MessageContainer} {recipient : Int}
    {rest : List Int}
    (running : race.deliveries[handler]? = some ⟨message, recipient :: rest, none⟩) :
    (run (step pb conn found) race [.lookUp handler, .hand handler]).world =
        race.world.deliver pb message recipient ∧
      (run (step pb conn found) race [.lookUp handler, .hand handler]).deliveries[handler]? =
        some ⟨message, rest, none⟩ := by
  have inRange : handler < race.deliveries.length := (List.getElem?_eq_some_iff.mp running).1
  have looked : race.step pb conn found (.lookUp handler) =
      { race with
        deliveries := race.deliveries.set handler ⟨message, rest, some (recipient,
          (race.world.getSessionByID recipient).map ClientSession.conn)⟩ } := by
    simp only [step, running, lookUp]
  rw [run_cons, run_cons, run_nil, looked]
  simp only [step, List.getElem?_set_self inRange, hand, World.deliver]
  cases race.world.getSessionByID recipient with
  | none => simp [inRange]
  | some session => simp [inRange]

/-- A delivery that nobody interrupts is the one of the sequential model. -/
theorem deliver_alone {handler : Nat} {message : MessageContainer} (recipients : List Int)
    (running : race.deliveries[handler]? = some ⟨message, recipients, none⟩) :
    (run (step pb conn found) race
        (recipients.flatMap fun _ => [.lookUp handler, .hand handler])).world =
      recipients.foldl (World.deliver pb message) race.world := by
  induction recipients generalizing race with
  | nil => rfl
  | cons recipient rest inductionHypothesis =>
      obtain ⟨world, next⟩ := lookUp_hand pb conn found running
      rw [List.flatMap_cons, run_append, inductionHypothesis next, world]
      rfl

theorem run_notifying (blobs : List Bytes) (phase : race.phase = .notifying blobs) :
    run (step pb conn found) race (List.replicate blobs.length .login) =
      { race with
        world := race.world.emit (World.replayFrames pb conn blobs)
        phase := .notifying [] } := by
  induction blobs generalizing race with
  | nil =>
      obtain ⟨world, deliveries, _, writes, sent⟩ := race
      subst phase
      simp [World.replayFrames]
  | cons blob rest inductionHypothesis =>
      have first : race.step pb conn found .login =
          { race with
            world := race.world.emit (World.replayFrames pb conn [blob])
            phase := .notifying rest } := by
        simp only [step, login, phase]
      rw [List.length_cons, List.replicate_succ, run_cons, first, inductionHypothesis rfl]
      simp only [World.emit, World.replayFrames, List.append_assoc, ← List.filterMap_append,
        List.singleton_append]

theorem run_replaying (blobs : List Bytes) (phase : race.phase = .replaying blobs) :
    (run (step pb conn found) race (List.replicate (blobs.length + 1) .login)).world =
      (race.world.emit (World.replayFrames pb conn blobs)).announceLogin found := by
  induction blobs generalizing race with
  | nil =>
      rw [List.length_nil, List.replicate_one, run_cons, run_nil]
      simp only [step, login, phase]
      simp [World.replayFrames]
  | cons blob rest inductionHypothesis =>
      rw [List.length_cons, List.replicate_succ, run_cons, inductionHypothesis]
      · simp only [step, login, phase, World.emit, World.replayFrames, List.append_assoc,
          ← List.filterMap_append, List.singleton_append]
      · simp only [step, login, phase]

/-- From the first fetch on. -/
theorem run_answered (phase : race.phase = .answered) :
    ∃ steps, (run (step pb conn found) race (List.replicate steps .login)).world =
      let (notifies, store) := race.world.store.getNotifyMsgCache found.userid
      let notified := (race.world.withStore store).emit (World.replayFrames pb conn notifies)
      let (chats, store) := notified.store.getChatMsgCache found.userid
      ((notified.withStore store).emit (World.replayFrames pb conn chats)).announceLogin found := by
  generalize notify : race.world.store.getNotifyMsgCache found.userid = fetched
  obtain ⟨notifies, store⟩ := fetched
  generalize chat : ((race.world.withStore store).emit
    (World.replayFrames pb conn notifies)).store.getChatMsgCache found.userid = fetched
  obtain ⟨chats, store'⟩ := fetched
  refine ⟨1 + (notifies.length + (1 + (chats.length + 1))), ?_⟩
  have first : race.step pb conn found .login =
      { race with world := race.world.withStore store, phase := .notifying notifies } := by
    simp only [step, login, phase, notify]
  have second : LoginRace.step pb conn found
      { race with
        world := (race.world.withStore store).emit (World.replayFrames pb conn notifies)
        phase := .notifying [] } .login =
      { race with
        world := ((race.world.withStore store).emit
          (World.replayFrames pb conn notifies)).withStore store'
        phase := .replaying chats } := by
    simp only [step, login]
    rw [chat]
  rw [List.replicate_add, run_append, List.replicate_one, run_cons, run_nil, first,
    List.replicate_add, run_append, run_notifying pb conn found notifies rfl, List.replicate_add,
    run_append, List.replicate_one, run_cons, run_nil, second,
    run_replaying pb conn found chats rfl]
  dsimp only
  rw [chat]

/-- A login that nobody interrupts is the one of the sequential model. -/
theorem login_alone {s : ClientSession} (w : World) (session : w.session? conn = some s) :
    ∃ steps, (run (step pb conn found) (starting w) (List.replicate steps .login)).world =
      (w.setSession { s with user := some found }).completeLogin pb { s with user := some found }
        found := by
  have sameConn : s.conn = conn := lookup_key session
  have stillThere : (w.setSession { s with user := some found }).session? conn =
      some { s with user := some found } := by
    rw [World.session?_setSession, if_pos sameConn.symm, session]
    rfl
  have first : run (step pb conn found) (starting w) [.login, .login] =
      ⟨(w.setSession { s with user := some found }).answerLogin { s with user := some found }
        found, [], .answered, [], []⟩ := by
    rw [run_cons, run_cons, run_nil]
    simp only [step, login, starting, session]
    rw [stillThere]
  have answered : (run (step pb conn found) (starting w) [.login, .login]).phase = .answered := by
    rw [first]
  obtain ⟨steps, rest⟩ := run_answered pb conn found answered
  have twice : List.replicate 2 RaceLabel.login = [.login, .login] := rfl
  refine ⟨2 + steps, ?_⟩
  rw [List.replicate_add, run_append, twice, rest, first, World.completeLogin_eq]
  dsimp only
  rw [sameConn]

end Alone

end LoginRace

end AimServer
