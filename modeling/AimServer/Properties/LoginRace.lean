import AimServer.Session.LoginRace
import AimServer.Properties.Client
import Mathlib.Algebra.Order.Group.Multiset
import Mathlib.Tactic.Abel

/-!
Contract: chat messages to a user who is logging in.

Owns: the account of every chat message sent to the user during the race, the
exact condition on its steps under which all of them arrive once, and the
interleaving that leaves one behind.

A sender that found no session stores the container, however late. The login
fetches what is stored once, so a container stored after that fetch waits for
the next login although the user is online.
-/

namespace AimServer

open AimServer.Lib

/-- The frames `sendRaw` writes for stored containers. -/
def blobFrames (pb : ImProto) (blobs : List Bytes) : List Frame :=
  blobs.filterMap fun blob => (pb.parseContainer blob).map MessageContainer.frame

/-- The frames of a delivery that are still to come for a user. -/
def Delivery.pendingFor (userid : Int) (delivery : Delivery) : List Frame :=
  (match delivery.found with
    | some (recipient, _) => if recipient = userid then [delivery.message.frame] else []
    | none => []) ++
  (delivery.recipients.filter (· = userid)).map fun _ => delivery.message.frame

/-- The fetched chat containers that are not sent yet. -/
def LoginPhase.inHand : LoginPhase → List Bytes
  | .replaying blobs => blobs
  | _ => []

/-- `GetChatMsgCache` of the login has returned. -/
def LoginPhase.fetched : LoginPhase → Bool
  | .replaying _ => true
  | .finished => true
  | _ => false

namespace LoginRace

/-- The chat frames written for a user to a connection. -/
def writesTo (conn : Nat) (userid : Int) (race : LoginRace) : List Frame :=
  race.writes.filterMap fun write =>
    if write.1 = userid ∧ write.2.1 = conn then some write.2.2 else none

/-- The frames of the messages sent to a user. -/
def sentTo (userid : Int) (race : LoginRace) : List Frame :=
  race.sent.filterMap fun entry => if entry.1 = userid then some entry.2.frame else none

/-- Every handler has come to its end. -/
def Finished (race : LoginRace) : Prop :=
  race.phase = .finished ∧ ∀ delivery ∈ race.deliveries,
    delivery.recipients = [] ∧ delivery.found = none

instance (race : LoginRace) : Decidable race.Finished :=
  inferInstanceAs (Decidable (_ ∧ _))

/-- The exact condition on a step: a container is not stored for the user once
the login has fetched what was stored. -/
def StoresInTime (userid : Int) (race : LoginRace) : RaceLabel → Prop
  | .hand handler => ∀ delivery ∈ race.deliveries[handler]?,
      delivery.found = some (userid, none) → race.phase.fetched = false
  | _ => True

instance (userid : Int) (race : LoginRace) :
    ∀ label, Decidable (race.StoresInTime userid label)
  | .hand handler =>
      inferInstanceAs (Decidable (∀ delivery ∈ race.deliveries[handler]?,
        delivery.found = some (userid, none) → race.phase.fetched = false))
  | .begin _ _ => isTrue trivial
  | .lookUp _ => isTrue trivial
  | .login => isTrue trivial

/-- What holds all along: statements succeed, only the connection of the login
is the user's, and a container that is stored can be read back. -/
structure Orderly (pb : ImProto) (conn : Nat) (userid : Int) (race : LoginRace) : Prop where
  granting : race.world.store.Granting
  only : ∀ s ∈ race.world.sessions, s.userID = userid → s.conn = conn
  looked : ∀ delivery ∈ race.deliveries, ∀ target,
    delivery.found = some (userid, some target) → target = conn
  readable : ∀ delivery ∈ race.deliveries,
    pb.parseContainer (pb.serializeContainer delivery.message) = some delivery.message

/-- Everything on its way to the user: written, fetched, stored, or with a
handler. -/
def account (pb : ImProto) (conn : Nat) (userid : Int) (race : LoginRace) : Multiset Frame :=
  (race.writesTo conn userid : Multiset Frame) +
    (blobFrames pb race.phase.inHand : Multiset Frame) +
    (blobFrames pb (race.world.store.waiting .chat userid) : Multiset Frame) +
    (race.deliveries.flatMap (Delivery.pendingFor userid) : Multiset Frame)

section Steps

variable {pb : ImProto} {conn : Nat} {found : User} {race : LoginRace}

theorem blobFrames_append (first second : List Bytes) :
    blobFrames pb (first ++ second) = blobFrames pb first ++ blobFrames pb second := by
  simp [blobFrames]

/-- Exchanging one delivery changes what is pending by that delivery. -/
theorem pending_set (userid : Int) {deliveries : List Delivery} {handler : Nat}
    {delivery : Delivery} (running : deliveries[handler]? = some delivery) (next : Delivery) :
    ((deliveries.set handler next).flatMap (Delivery.pendingFor userid) : Multiset Frame) +
        (delivery.pendingFor userid : Multiset Frame) =
      (deliveries.flatMap (Delivery.pendingFor userid) : Multiset Frame) +
        (next.pendingFor userid : Multiset Frame) := by
  induction deliveries generalizing handler with
  | nil => cases running
  | cons head tail inductionHypothesis =>
      cases handler with
      | zero =>
          cases running
          simp only [List.set_cons_zero, List.flatMap_cons, ← Multiset.coe_add]
          abel
      | succ handler =>
          have rest := inductionHypothesis (show tail[handler]? = some delivery from running)
          simp only [List.set_cons_succ, List.flatMap_cons, ← Multiset.coe_add]
          rw [add_assoc, rest]
          abel

/-- A lookup moves a recipient from one list of the handler to the other. -/
theorem account_lookUp (userid : Int) {handler : Nat} {delivery : Delivery}
    (running : race.deliveries[handler]? = some delivery) :
    (race.lookUp handler delivery).account pb conn userid = race.account pb conn userid := by
  obtain ⟨message, recipients, looked⟩ := delivery
  cases looked with
  | some _ => rfl
  | none =>
      cases recipients with
      | nil => rfl
      | cons recipient rest =>
          have same : Delivery.pendingFor userid ⟨message, rest, some (recipient,
              (race.world.getSessionByID recipient).map ClientSession.conn)⟩ =
              Delivery.pendingFor userid ⟨message, recipient :: rest, none⟩ := by
            simp only [Delivery.pendingFor, List.filter_cons, decide_eq_true_eq]
            split <;> simp
          have moved := pending_set userid running ⟨message, rest, some (recipient,
            (race.world.getSessionByID recipient).map ClientSession.conn)⟩
          rw [same] at moved
          exact congrArg (_ + ·) (add_right_cancel moved)

/-- Handing on takes one frame from what is pending for the recipient. -/
theorem pending_hand (userid : Int) {handler : Nat} {message : MessageContainer}
    {rest : List Int} {recipient : Int} {target : Option Nat}
    (running : race.deliveries[handler]? = some ⟨message, rest, some (recipient, target)⟩) :
    (race.deliveries.flatMap (Delivery.pendingFor userid) : Multiset Frame) =
      ((race.deliveries.set handler ⟨message, rest, none⟩).flatMap
          (Delivery.pendingFor userid) : Multiset Frame) +
        ((if recipient = userid then [message.frame] else [] : List Frame) : Multiset Frame) := by
  have looked : (Delivery.pendingFor userid ⟨message, rest, some (recipient, target)⟩ :
      Multiset Frame) = (Delivery.pendingFor userid ⟨message, rest, none⟩ : Multiset Frame) +
        ((if recipient = userid then [message.frame] else [] : List Frame) : Multiset Frame) := by
    rw [Multiset.coe_add, Multiset.coe_eq_coe]
    exact List.perm_append_comm
  have moved := pending_set userid running ⟨message, rest, none⟩
  rw [looked, ← add_assoc, add_right_comm] at moved
  exact (add_right_cancel moved).symm

/-- A push of what was pending. -/
theorem account_push (userid : Int) {handler : Nat} {message : MessageContainer}
    {rest : List Int} {recipient : Int} {target : Nat}
    (running : race.deliveries[handler]? = some ⟨message, rest, some (recipient, some target)⟩)
    (ownConn : recipient = userid → target = conn) :
    (race.hand pb handler ⟨message, rest, some (recipient, some target)⟩).account pb conn userid =
      race.account pb conn userid := by
  have written : (hand pb handler ⟨message, rest, some (recipient, some target)⟩ race).writesTo
      conn userid = race.writesTo conn userid ++
        if recipient = userid then [message.frame] else [] := by
    simp only [hand, writesTo, List.filterMap_append]
    by_cases isUser : recipient = userid
    · simp [isUser, ownConn isUser]
    · simp [isUser]
  simp only [account, written, ← Multiset.coe_add, pending_hand userid running]
  simp only [hand, World.emit]
  abel

/-- A granted store puts the message behind what waits for its recipient. -/
theorem waiting_addChatMsgCache {store : Store} (granted : store.db.outcomes 0 = true)
    (recipient userid : Int) (cache : Bytes) :
    (store.addChatMsgCache recipient cache).2.waiting .chat userid =
      store.waiting .chat userid ++ if recipient = userid then [cache] else [] := by
  rw [Store.addChatMsgCache, Store.insertOfflineMsg_eq, Store.waiting_insert]
  by_cases isUser : recipient = userid
  · simp [granted, isUser]
  · simp [isUser, Ne.symm isUser]

/-- A store of what was pending. -/
theorem account_store (userid : Int) {handler : Nat} {message : MessageContainer}
    {rest : List Int} {recipient : Int}
    (running : race.deliveries[handler]? = some ⟨message, rest, some (recipient, none)⟩)
    (granted : race.world.store.db.outcomes 0 = true)
    (readable : pb.parseContainer (pb.serializeContainer message) = some message) :
    (race.hand pb handler ⟨message, rest, some (recipient, none)⟩).account pb conn userid =
      race.account pb conn userid := by
  have stored := waiting_addChatMsgCache granted recipient userid (pb.serializeContainer message)
  have frames : blobFrames pb (if recipient = userid then [pb.serializeContainer message] else []) =
      if recipient = userid then [message.frame] else [] := by
    split
    · simp [blobFrames, readable]
    · rfl
  simp only [account, pending_hand userid running]
  simp only [hand, World.withStore, stored, blobFrames_append, frames, ← Multiset.coe_add]
  simp only [writesTo]
  abel

/-! ### The login -/

theorem replayFrames_eq (blobs : List Bytes) :
    World.replayFrames pb conn blobs = (blobFrames pb blobs).map fun frame => (conn, frame) := by
  simp only [World.replayFrames, blobFrames, List.map_filterMap, Option.map_map]
  rfl

/-- The response of a login leaves the tables, and the session it writes back
is that of the connection. -/
theorem answerLogin_eq (s : ClientSession) (user : User) (w : World) :
    (w.answerLogin s user).store.db = w.store.db ∧
      (w.answerLogin s user).sessions = (w.setSession
        { s with user := some { user with status := 1 } }).sessions := by
  unfold World.answerLogin Store.setUserStatus
  cases w.env.grpc with
  | _ =>
      dsimp only [World.call, World.setSession, World.withStore, World.reply, World.emit]
      split <;> exact ⟨rfl, rfl⟩

/-- The phases of a login that neither fetch nor send chat messages. -/
theorem account_login (granting : race.world.store.Granting) :
    (race.login pb conn found).account pb conn found.userid =
      race.account pb conn found.userid := by
  obtain ⟨world, deliveries, phase, writes, sent⟩ := race
  cases phase with
  | waiting =>
      simp only [login]
      split <;> rfl
  | accepted =>
      simp only [login]
      split
      · rfl
      · rename_i s _
        have tables := (answerLogin_eq s found world).1
        simp only [account, writesTo, Store.waiting, tables, LoginPhase.inHand]
  | answered =>
      have waits := Store.waiting_fetch .notify .chat found.userid found.userid world.store
      simp only [login, account, writesTo, Store.getNotifyMsgCache, World.withStore, waits]
      simp [LoginPhase.inHand]
  | notifying blobs =>
      cases blobs with
      | cons blob rest => rfl
      | nil =>
          have waits := Store.waiting_fetch .chat .chat found.userid found.userid world.store
          have fetched := Store.fetchAndDeleteOfflineMsg_fst .chat found.userid world.store
          have first := granting 0
          have second := granting 1
          dsimp only at first second
          simp only [login, account, writesTo, Store.getChatMsgCache, World.withStore, waits,
            fetched, first, second]
          simp [LoginPhase.inHand, blobFrames]
  | replaying blobs =>
      cases blobs with
      | nil => rfl
      | cons blob rest =>
          have written : (writes ++ (World.replayFrames pb conn [blob]).map
              fun written => (found.userid, written)).filterMap
                (fun write => if write.1 = found.userid ∧ write.2.1 = conn then some write.2.2
                  else none) =
              writes.filterMap (fun write => if write.1 = found.userid ∧ write.2.1 = conn then
                some write.2.2 else none) ++ blobFrames pb [blob] := by
            rw [List.filterMap_append, replayFrames_eq, List.map_map, List.filterMap_map]
            congr 1
            refine Eq.trans (List.filterMap_congr ?_) List.filterMap_some
            intro frame _
            simp
          have split : blobFrames pb (blob :: rest) =
              blobFrames pb [blob] ++ blobFrames pb rest := blobFrames_append [blob] rest
          simp only [login, account, writesTo, written, LoginPhase.inHand, split,
            ← Multiset.coe_add]
          simp only [World.emit]
          abel
  | finished => rfl

theorem login_handlers (pb : ImProto) (conn : Nat) (found : User) (race : LoginRace) :
    (race.login pb conn found).deliveries = race.deliveries ∧
    (race.login pb conn found).sent = race.sent := by
  unfold login
  split
  · split <;> exact ⟨rfl, rfl⟩
  · split <;> exact ⟨rfl, rfl⟩
  all_goals exact ⟨rfl, rfl⟩

theorem login_granting (granting : race.world.store.Granting) :
    (race.login pb conn found).world.store.Granting := by
  unfold login
  split
  · split <;> exact granting
  · split
    · exact granting
    · rename_i s _
      intro n
      rw [(answerLogin_eq s found race.world).1]
      exact granting n
  · exact granting.fetch .notify found.userid
  · exact granting
  · exact granting.fetch .chat found.userid
  all_goals exact granting

/-- A session that is written back for its own connection. -/
theorem only_setSession {w : World} {userid : Int} {s : ClientSession}
    (only : ∀ old ∈ w.sessions, old.userID = userid → old.conn = conn) (own : s.conn = conn) :
    ∀ new ∈ (w.setSession s).sessions, new.userID = userid → new.conn = conn := by
  intro new member isUser
  obtain ⟨old, isOld, rfl⟩ := List.mem_map.mp member
  dsimp only at isUser ⊢
  split
  · exact own
  · rename_i other
    rw [if_neg other] at isUser
    exact only old isOld isUser

theorem login_only (only : ∀ s ∈ race.world.sessions, s.userID = found.userid → s.conn = conn) :
    ∀ s ∈ (race.login pb conn found).world.sessions, s.userID = found.userid → s.conn = conn := by
  unfold login
  split
  · split
    · exact only
    · rename_i s session
      exact only_setSession only (show s.conn = conn from lookup_key session)
  · split
    · exact only
    · rename_i s session
      rw [(answerLogin_eq s found race.world).2]
      exact only_setSession only (show s.conn = conn from lookup_key session)
  all_goals exact only

/-! ### Steps of all handlers -/

/-- A message in a `begin` label can be read back. -/
def Readable (pb : ImProto) : RaceLabel → Prop
  | .begin message _ => pb.parseContainer (pb.serializeContainer message) = some message
  | _ => True

instance (pb : ImProto) : ∀ label, Decidable (Readable pb label)
  | .begin message _ => inferInstanceAs (Decidable
      (pb.parseContainer (pb.serializeContainer message) = some message))
  | .lookUp _ => isTrue trivial
  | .hand _ => isTrue trivial
  | .login => isTrue trivial

theorem Orderly.set (orderly : race.Orderly pb conn found.userid) {world : World}
    (granting : world.store.Granting) (sessions : world.sessions = race.world.sessions)
    {handler : Nat} {delivery next : Delivery}
    (running : race.deliveries[handler]? = some delivery) (same : next.message = delivery.message)
    (looked : ∀ target, next.found = some (found.userid, some target) → target = conn)
    (writes : List (Int × Nat × Frame)) :
    Orderly pb conn found.userid
      { race with world, deliveries := race.deliveries.set handler next, writes } where
  granting := granting
  only := by
    dsimp only
    rw [sessions]
    exact orderly.only
  looked := by
    intro other member target isFound
    rcases List.mem_or_eq_of_mem_set member with old | rfl
    · exact orderly.looked other old target isFound
    · exact looked target isFound
  readable := by
    intro other member
    rcases List.mem_or_eq_of_mem_set member with old | rfl
    · exact orderly.readable other old
    · rw [same]
      exact orderly.readable delivery (List.mem_of_getElem? running)

theorem Orderly.step (orderly : race.Orderly pb conn found.userid) {label : RaceLabel}
    (readable : Readable pb label) :
    (race.step pb conn found label).Orderly pb conn found.userid := by
  cases label with
  | begin message recipients =>
      refine ⟨orderly.granting, orderly.only, ?_, ?_⟩
      · intro delivery member target isFound
        rcases List.mem_append.mp member with old | new
        · exact orderly.looked delivery old target isFound
        · rw [List.mem_singleton.mp new] at isFound
          cases isFound
      · intro delivery member
        rcases List.mem_append.mp member with old | new
        · exact orderly.readable delivery old
        · rw [List.mem_singleton.mp new]
          exact readable
  | lookUp handler =>
      simp only [LoginRace.step]
      split
      · exact orderly
      · rename_i delivery running
        unfold lookUp
        split
        · refine orderly.set orderly.granting ?_ running ?_ ?_ _
          · rfl
          · rfl
          intro target isFound
          obtain ⟨rfl, session⟩ := Prod.mk.inj (Option.some.inj isFound)
          obtain ⟨s, known, rfl⟩ := Option.map_eq_some_iff.mp session
          unfold World.getSessionByID at known
          have isUser := List.find?_some known
          exact orderly.only s (List.mem_of_find?_eq_some known) (of_decide_eq_true isUser)
        · exact orderly
  | hand handler =>
      simp only [LoginRace.step]
      split
      · exact orderly
      · rename_i delivery running
        unfold hand
        split
        · exact orderly
        · refine orderly.set ?_ ?_ running ?_ ?_ _
          · exact orderly.granting
          · rfl
          · rfl
          · intro target isFound
            cases isFound
        · refine orderly.set ?_ ?_ running ?_ ?_ _
          · exact orderly.granting.execute _
          · rfl
          · rfl
          · intro target isFound
            cases isFound
  | login =>
      have deliveries := (login_handlers pb conn found race).1
      refine ⟨login_granting orderly.granting, login_only orderly.only, ?_, ?_⟩
      · simp only [LoginRace.step, deliveries]
        exact orderly.looked
      · simp only [LoginRace.step, deliveries]
        exact orderly.readable

/-- A new delivery adds to what is sent what it has pending. -/
theorem account_begin (pb : ImProto) (conn : Nat) (found : User) (race : LoginRace)
    (userid : Int) (message : MessageContainer) (recipients : List Int) :
    (race.step pb conn found (.begin message recipients)).account pb conn userid +
        (race.sentTo userid : Multiset Frame) =
      race.account pb conn userid +
        ((race.step pb conn found (.begin message recipients)).sentTo userid : Multiset Frame) := by
  have pending : (recipients.map fun recipient => (recipient, message)).filterMap
      (fun entry => if entry.1 = userid then some entry.2.frame else none) =
        Delivery.pendingFor userid ⟨message, recipients, none⟩ := by
    induction recipients with
    | nil => rfl
    | cons recipient rest inductionHypothesis =>
        simp only [Delivery.pendingFor, List.nil_append] at inductionHypothesis ⊢
        rw [List.map_cons, List.filterMap_cons, List.filter_cons, inductionHypothesis]
        by_cases isUser : recipient = userid
        · simp only [isUser, if_true, decide_true, List.map_cons]
        · simp only [isUser, if_false, decide_false, Bool.false_eq_true]
  simp only [step, account, sentTo, writesTo, List.flatMap_append, List.filterMap_append, pending,
    List.flatMap_cons, List.flatMap_nil, List.append_nil, ← Multiset.coe_add]
  abel

/-- Every step keeps the account: what is on its way to the user is what
waited at the start and what was sent to it. -/
theorem account_step (orderly : race.Orderly pb conn found.userid) {start : Multiset Frame}
    (balanced : race.account pb conn found.userid =
      start + (race.sentTo found.userid : Multiset Frame)) (label : RaceLabel) :
    (race.step pb conn found label).account pb conn found.userid =
      start + ((race.step pb conn found label).sentTo found.userid : Multiset Frame) := by
  cases label with
  | begin message recipients =>
      have grown := account_begin pb conn found race found.userid message recipients
      rw [balanced, add_right_comm] at grown
      exact add_right_cancel grown
  | lookUp handler =>
      simp only [step]
      split
      · exact balanced
      · rename_i delivery running
        rw [account_lookUp found.userid running, balanced]
        unfold lookUp
        split <;> rfl
  | hand handler =>
      simp only [step]
      split
      · exact balanced
      · rename_i delivery running
        have member := List.mem_of_getElem? running
        obtain ⟨message, rest, looked⟩ := delivery
        cases looked with
        | none => exact balanced
        | some pair =>
            obtain ⟨recipient, target⟩ := pair
            cases target with
            | some target =>
                rw [account_push found.userid running, balanced]
                · rfl
                · intro isUser
                  exact orderly.looked _ member target (by rw [isUser])
            | none =>
                rw [account_store found.userid running (orderly.granting 0)
                  (orderly.readable _ member), balanced]
                rfl
  | login =>
      simp only [step]
      rw [account_login orderly.granting, balanced, sentTo, sentTo,
        (login_handlers pb conn found race).2]

/-- In every run what is on its way to the user is what waited at the start
and what was sent to it. -/
theorem account_run {w : World} {labels : List RaceLabel} (granting : w.store.Granting)
    (only : ∀ s ∈ w.sessions, s.userID = found.userid → s.conn = conn)
    (readable : ∀ label ∈ labels, Readable pb label) :
    (run (step pb conn found) (starting w) labels).account pb conn found.userid =
      (blobFrames pb (w.store.waiting .chat found.userid) : Multiset Frame) +
        ((run (step pb conn found) (starting w) labels).sentTo found.userid : Multiset Frame) := by
  have initial : (starting w).Orderly pb conn found.userid := by
    refine ⟨granting, only, ?_, ?_⟩
    · exact fun _ member => nomatch member
    · exact fun _ member => nomatch member
  have balanced : (starting w).account pb conn found.userid =
      (blobFrames pb (w.store.waiting .chat found.userid) : Multiset Frame) +
        ((starting w).sentTo found.userid : Multiset Frame) := by
    simp [account, starting, writesTo, sentTo, LoginPhase.inHand, blobFrames]
  refine (run_invariant (fun race : LoginRace => race.Orderly pb conn found.userid ∧
    race.account pb conn found.userid =
      (blobFrames pb (w.store.waiting .chat found.userid) : Multiset Frame) +
        (race.sentTo found.userid : Multiset Frame)) ?_ ⟨initial, balanced⟩
    (allSteps_of_forall_mem readable)).2
  intro race label holds isReadable
  exact ⟨holds.1.step isReadable, account_step holds.1 holds.2 label⟩

/-! ### Containers stored too late -/

/-- Nothing waits for the user once the login has fetched. -/
def Emptied (userid : Int) (race : LoginRace) : Prop :=
  race.phase.fetched = true → race.world.store.waiting .chat userid = []

/-- A login step fetches, or leaves the phase before or after the fetch and
what waits for the user. -/
theorem login_waiting (pb : ImProto) (conn : Nat) (found : User)
    (granting : race.world.store.Granting) :
    (race.phase.fetched = false ∧
        (race.login pb conn found).world.store.waiting .chat found.userid = []) ∨
      ((race.login pb conn found).phase.fetched = race.phase.fetched ∧
        (race.login pb conn found).world.store.waiting .chat found.userid =
          race.world.store.waiting .chat found.userid) := by
  obtain ⟨world, deliveries, phase, writes, sent⟩ := race
  cases phase with
  | waiting =>
      right
      simp only [login]
      split <;> exact ⟨rfl, rfl⟩
  | accepted =>
      right
      simp only [login]
      split
      · exact ⟨rfl, rfl⟩
      · rename_i s _
        exact ⟨rfl, by simp only [Store.waiting, (answerLogin_eq s found world).1]⟩
  | answered =>
      right
      refine ⟨rfl, ?_⟩
      simp only [login, Store.getNotifyMsgCache, World.withStore]
      rw [Store.waiting_fetch, if_neg]
      intro both
      cases both.2.2.1
  | notifying blobs =>
      cases blobs with
      | cons blob rest => exact Or.inr ⟨rfl, rfl⟩
      | nil =>
          refine Or.inl ⟨rfl, ?_⟩
          simp only [login, Store.getChatMsgCache, World.withStore]
          rw [Store.waiting_fetch, if_pos ⟨granting 0, granting 1, rfl, rfl⟩]
  | replaying blobs =>
      cases blobs with
      | cons blob rest => exact Or.inr ⟨rfl, rfl⟩
      | nil => exact Or.inr ⟨rfl, rfl⟩
  | finished => exact Or.inr ⟨rfl, rfl⟩

/-- What one handler step does to the containers that wait for a user. -/
theorem hand_waiting (pb : ImProto) (granting : race.world.store.Granting) (userid : Int)
    (handler : Nat) (delivery : Delivery) :
    (race.hand pb handler delivery).phase = race.phase ∧
      (race.hand pb handler delivery).world.store.waiting .chat userid =
        race.world.store.waiting .chat userid ++
          if delivery.found = some (userid, none) then [pb.serializeContainer delivery.message]
          else [] := by
  unfold hand
  split
  · rename_i isFree
    simp [isFree]
  · rename_i recipient target isFound
    simp [isFound]
  · rename_i recipient isFound
    refine ⟨rfl, ?_⟩
    simp only [World.withStore, isFound, waiting_addChatMsgCache (granting 0), Option.some.injEq,
      Prod.mk.injEq, and_true]

theorem lookUp_world (race : LoginRace) (handler : Nat) (delivery : Delivery) :
    (race.lookUp handler delivery).phase = race.phase ∧
      (race.lookUp handler delivery).world = race.world := by
  unfold lookUp
  split <;> exact ⟨rfl, rfl⟩

theorem step_granting (granting : race.world.store.Granting) (label : RaceLabel) :
    (race.step pb conn found label).world.store.Granting := by
  cases label with
  | begin message recipients => exact granting
  | lookUp handler =>
      simp only [step]
      split
      · exact granting
      · rw [(lookUp_world race handler _).2]
        exact granting
  | hand handler =>
      simp only [step]
      split
      · exact granting
      · unfold hand
        split
        · exact granting
        · exact granting
        · exact granting.execute _
  | login => exact login_granting granting

/-- One step keeps nothing waiting exactly when it stores in time. -/
theorem emptied_step_iff (granting : race.world.store.Granting)
    (emptied : race.Emptied found.userid) (label : RaceLabel) :
    (race.step pb conn found label).Emptied found.userid ↔
      race.StoresInTime found.userid label := by
  cases label with
  | begin message recipients => exact iff_of_true emptied trivial
  | lookUp handler =>
      refine iff_of_true ?_ trivial
      simp only [step]
      split
      · exact emptied
      · rename_i delivery _
        obtain ⟨phase, world⟩ := lookUp_world race handler delivery
        unfold Emptied
        rw [phase, world]
        exact emptied
  | hand handler =>
      simp only [step, StoresInTime]
      split
      · rename_i nobody
        exact iff_of_true emptied (by simp [nobody])
      · rename_i delivery running
        obtain ⟨phase, waits⟩ := hand_waiting pb granting found.userid handler delivery
        unfold Emptied
        rw [phase, waits]
        constructor
        · intro stays other isOther isFound
          rw [Option.mem_def.mp isOther] at running
          cases running
          by_contra fetched
          have nothing := stays (by simpa using fetched)
          rw [if_pos isFound] at nothing
          simp at nothing
        · intro inTime fetched
          rw [emptied fetched, if_neg]
          · rfl
          · intro isFound
            have early := inTime delivery running isFound
            rw [fetched] at early
            cases early
  | login =>
      refine iff_of_true ?_ trivial
      intro fetched
      rcases login_waiting pb conn found granting with ⟨-, empty⟩ | ⟨phase, same⟩
      · exact empty
      · exact same.trans (emptied (phase.symm.trans fetched))

/-- What was stored too late stays. -/
theorem late_step (granting : race.world.store.Granting)
    (late : ¬ race.Emptied found.userid) (label : RaceLabel) :
    ¬ (race.step pb conn found label).Emptied found.userid := by
  obtain ⟨fetched, waits⟩ := Classical.not_imp.mp late
  apply Classical.not_imp.mpr
  cases label with
  | begin message recipients => exact ⟨fetched, waits⟩
  | lookUp handler =>
      simp only [step]
      split
      · exact ⟨fetched, waits⟩
      · rename_i delivery _
        obtain ⟨phase, world⟩ := lookUp_world race handler delivery
        rw [phase, world]
        exact ⟨fetched, waits⟩
  | hand handler =>
      simp only [step]
      split
      · exact ⟨fetched, waits⟩
      · rename_i delivery _
        obtain ⟨phase, after⟩ := hand_waiting pb granting found.userid handler delivery
        rw [phase, after]
        refine ⟨fetched, ?_⟩
        intro empty
        exact waits (List.append_eq_nil_iff.mp empty).1
  | login =>
      rcases login_waiting pb conn found granting with ⟨early, -⟩ | ⟨phase, same⟩
      · rw [fetched] at early
        cases early
      · exact ⟨phase.trans fetched, fun empty => waits (same.symm.trans empty)⟩

end Steps

end LoginRace

/-- When every handler has finished, every chat message sent to the user was
written to its connection once and none waits for it, exactly when no sender
stored one after the login had fetched. What waited before counts as sent. -/
theorem chat_reaches_login_iff (pb : ImProto) (conn : Nat) (found : User) (w : World)
    (labels : List RaceLabel) (granting : w.store.Granting)
    (only : ∀ s ∈ w.sessions, s.userID = found.userid → s.conn = conn)
    (readable : ∀ label ∈ labels, LoginRace.Readable pb label)
    (finished : (run (LoginRace.step pb conn found) (.starting w) labels).Finished) :
    let race := run (LoginRace.step pb conn found) (.starting w) labels
    ((race.writesTo conn found.userid).Perm
        (blobFrames pb (w.store.waiting .chat found.userid) ++ race.sentTo found.userid) ∧
      race.world.store.waiting .chat found.userid = []) ↔
      AllSteps (LoginRace.step pb conn found) (LoginRace.StoresInTime found.userid)
        (.starting w) labels := by
  intro race
  have inTime : race.Emptied found.userid ↔
      AllSteps (LoginRace.step pb conn found) (LoginRace.StoresInTime found.userid) (.starting w)
        labels :=
    holds_iff_allSteps (LoginRace.Emptied found.userid) (fun race => race.world.store.Granting)
      (fun _ label granting => LoginRace.step_granting granting label)
      (fun _ label granting emptied => LoginRace.emptied_step_iff granting emptied label)
      (fun _ label granting late => LoginRace.late_step granting late label)
      (fun fetched => nomatch fetched) granting
  have balanced := LoginRace.account_run granting only readable
  have noPending : race.deliveries.flatMap (Delivery.pendingFor found.userid) = [] := by
    apply List.flatMap_eq_nil_iff.mpr
    intro delivery member
    obtain ⟨recipients, looked⟩ := finished.2 delivery member
    simp [Delivery.pendingFor, recipients, looked]
  have noneInHand : race.phase.inHand = [] := by
    rw [finished.1]
    rfl
  have fetched : race.phase.fetched = true := by
    rw [finished.1]
    rfl
  rw [← inTime]
  constructor
  · intro arrived _
    exact arrived.2
  · intro emptied
    have nothing := emptied fetched
    refine ⟨?_, nothing⟩
    have total : race.account pb conn found.userid =
        (race.writesTo conn found.userid : Multiset Frame) := by
      simp [LoginRace.account, noPending, noneInHand, nothing, blobFrames]
    rw [← Multiset.coe_eq_coe, ← Multiset.coe_add, ← total]
    exact balanced

namespace LoginRuns

/-- Bob has connected on connection 1 and is not logged in. -/
def world : World :=
  World.runFrom wireProto (.boot Sample.aliceAndBob) [Client.connect 1]

def bob : User := Store.initUser .allOk Sample.aliceAndBob Sample.bob

/-- What Alice sends to Bob. -/
def hi : MessageContainer := ⟨MsgType.chat.cmd, 5, 2, [], Client.chatMsg 1 2 (str "hi")⟩

/-- Alice's handler looks Bob up and stores the message, then Bob logs in. -/
def storedFirst : List RaceLabel :=
  [.begin hi [2], .lookUp 0, .hand 0] ++ List.replicate 6 .login

/-- Alice's handler looks Bob up before and stores the message after his
login. -/
def storedLast : List RaceLabel :=
  [.begin hi [2], .lookUp 0] ++ List.replicate 5 .login ++ [.hand 0]

end LoginRuns

/-- The message that waited arrives. -/
theorem chat_reaches_login_iff_storedFirst :
    let race := run (LoginRace.step wireProto 1 LoginRuns.bob) (.starting LoginRuns.world)
      LoginRuns.storedFirst
    race.Finished ∧ (race.writesTo 1 2).Perm [LoginRuns.hi.frame] := by
  have finished : (run (LoginRace.step wireProto 1 LoginRuns.bob) (.starting LoginRuns.world)
      LoginRuns.storedFirst).Finished := by decide
  have arrives := (chat_reaches_login_iff wireProto 1 LoginRuns.bob LoginRuns.world
    LoginRuns.storedFirst (fun _ => rfl) (by decide) (by decide) finished).mpr (by decide)
  exact ⟨finished, arrives.1⟩

/-- Both handlers have finished, Bob is online, and the message waits in the
table. -/
theorem chat_left_behind :
    let race := run (LoginRace.step wireProto 1 LoginRuns.bob) (.starting LoginRuns.world)
      LoginRuns.storedLast
    race.Finished ∧ (race.world.getSessionByID 2).isSome ∧
      race.sentTo 2 = [LoginRuns.hi.frame] ∧ race.writesTo 1 2 = [] ∧
      race.world.store.waiting .chat 2 = [wireProto.serializeContainer LoginRuns.hi] := by
  decide

end AimServer
