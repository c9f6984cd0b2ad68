import AimServer.Session.Lookups

/-!
Contract: what the chat handlers hand out.

Owns: the copies of one message that are pushed and the ones that are stored,
as an equation for the delivery loop, what is kept for the history, what stays
the same during both, and where every frame of a chat handler goes.
-/

namespace AimServer

open AimServer.Lib

/-- How many statements keeping a message for the history takes. -/
def Env.historyInserts (env : Env) : Nat :=
  if env.publishes then 0 else 1

namespace World

variable {pb : ImProto} {s : ClientSession} {msg : MessageContainer} {user : User} {w next : World}

/-! ### The delivery loop -/

/-- The pushed copies: one for each recipient that has a session. -/
def pushesTo (w : World) (forwarded : MessageContainer) (recipients : List Int) :
    List (Nat × Frame) :=
  recipients.filterMap fun id =>
    (w.getSessionByID id).map fun session => (session.conn, forwarded.frame)

/-- The recipients without a session. -/
def absent (w : World) (recipients : List Int) : List Int :=
  recipients.filter fun id => (w.getSessionByID id).isNone

/-- The calls that store a copy for each of `recipients`. -/
def storing (pb : ImProto) (forwarded : MessageContainer) (recipients : List Int) :
    List StoreCall :=
  recipients.map fun id => .addChatMsgCache id (pb.serializeContainer forwarded)

/-- The loop pushes and stores, and does nothing else. -/
theorem deliverAll_eq (forwarded : MessageContainer) (recipients : List Int) (w : World) :
    recipients.foldl (deliver pb forwarded) w =
      (w.withStore (w.store.afterCalls (storing pb forwarded (w.absent recipients)))).emit
        (w.pushesTo forwarded recipients) := by
  induction recipients generalizing w with
  | nil => simp [absent, storing, pushesTo, Store.afterCalls]
  | cons recipient rest inductionHypothesis =>
      rw [List.foldl_cons, inductionHypothesis]
      have sameLookups : ∀ id, (deliver pb forwarded w recipient).getSessionByID id =
          w.getSessionByID id := by
        intro id
        unfold deliver
        split <;> rfl
      have sameAbsent : (deliver pb forwarded w recipient).absent rest = w.absent rest := by
        simp only [absent, sameLookups]
      have samePushes : (deliver pb forwarded w recipient).pushesTo forwarded rest =
          w.pushesTo forwarded rest := by
        simp only [pushesTo, sameLookups]
      rw [sameAbsent, samePushes]
      cases found : w.getSessionByID recipient with
      | none =>
          simp only [deliver, found, absent, pushesTo, storing, List.filter_cons,
            List.filterMap_cons, Option.map_none, Option.isNone_none, if_true, List.map_cons]
          rfl
      | some session =>
          simp only [deliver, found, absent, pushesTo, storing, List.filter_cons,
            List.filterMap_cons, Option.map_some, Option.isNone_some, Bool.false_eq_true, if_false,
            emit, withStore, List.append_assoc, List.singleton_append]

/-- A pushed copy goes to a session that was found. -/
theorem mem_pushesTo {forwarded : MessageContainer} {recipients : List Int}
    {entry : Nat × Frame} (pushed : entry ∈ w.pushesTo forwarded recipients) :
    ∃ id ∈ recipients, ∃ session, w.getSessionByID id = some session ∧
      entry = (session.conn, forwarded.frame) := by
  obtain ⟨id, isRecipient, found⟩ := List.mem_filterMap.mp pushed
  obtain ⟨session, isSession, rfl⟩ := Option.map_eq_some_iff.mp found
  exact ⟨id, isRecipient, session, isSession, rfl⟩

/-! ### What a chat message leaves alone -/

/-- Nothing a lookup of recipients reads has changed. -/
structure Alike (w next : World) : Prop where
  cachedUsers : next.store.cachedUsers = w.store.cachedUsers
  faces : next.faces = w.faces

theorem Alike.refl (w : World) : Alike w w :=
  ⟨rfl, rfl⟩

theorem Alike.trans {middle : World} (first : Alike w middle) (second : Alike middle next) :
    Alike w next :=
  ⟨second.cachedUsers.trans first.cachedUsers, second.faces.trans first.faces⟩

theorem Alike.symm (alike : Alike w next) : Alike next w :=
  ⟨alike.cachedUsers.symm, alike.faces.symm⟩

theorem chatRecipients_of_cachedUsers {store other : Store} (user : User) (target : Int)
    (same : other.cachedUsers = store.cachedUsers) :
    chatRecipients user target other = chatRecipients user target store := by
  simp only [chatRecipients, Store.getFriendInfoByUserID, Store.getUserByID, same]

theorem storing_cachedUsers (forwarded : MessageContainer) (recipients : List Int)
    (store : Store) :
    (store.afterCalls (storing pb forwarded recipients)).cachedUsers = store.cachedUsers := by
  have keeps : ∀ (before : Store) (call : StoreCall),
      (∃ userid cache, call = .addChatMsgCache userid cache) →
        before.cachedUsers = store.cachedUsers →
          (before.afterCall call).cachedUsers = store.cachedUsers := by
    intro before call isStore kept
    obtain ⟨userid, cache, rfl⟩ := isStore
    exact kept
  refine Store.afterCalls_keeps (fun after => after.cachedUsers = store.cachedUsers) keeps ?_ rfl
  intro call member
  obtain ⟨id, -, rfl⟩ := List.mem_map.mp member
  exact ⟨id, _, rfl⟩

/-- Copies go by what lookups see. -/
theorem absent_of_faces (same : next.faces = w.faces) (recipients : List Int) :
    next.absent recipients = w.absent recipients := by
  refine List.filter_congr ?_
  intro id _
  rw [← Option.isNone_map, seen_of_faces same id, Option.isNone_map]

theorem pushesTo_of_faces (same : next.faces = w.faces) (forwarded : MessageContainer)
    (recipients : List Int) :
    next.pushesTo forwarded recipients = w.pushesTo forwarded recipients := by
  refine List.filterMap_congr ?_
  intro id _
  have seen := congrArg (Option.map fun face : Nat × Option User => (face.1, forwarded.frame))
    (seen_of_faces same id)
  rwa [Option.map_map, Option.map_map] at seen

/-! ### Stored copies -/

/-- The row of a stored copy. -/
def storedCopy (pb : ImProto) (forwarded : MessageContainer) (id : Int) : OfflineMsgRow :=
  ⟨id, OfflineKind.chat.code, pb.serializeContainer forwarded⟩

/-- The rows that are stored for `recipients` with these outcomes. -/
def storedCopies (pb : ImProto) (forwarded : MessageContainer) :
    List Int → (Nat → Bool) → List OfflineMsgRow
  | [], _ => []
  | id :: rest, outcomes =>
      (if outcomes 0 then [storedCopy pb forwarded id] else []) ++
        storedCopies pb forwarded rest fun n => outcomes (n + 1)

/-- Stored copies are copies of the message. -/
theorem mem_storedCopies {forwarded : MessageContainer} {recipients : List Int}
    {outcomes : Nat → Bool} {row : OfflineMsgRow}
    (member : row ∈ storedCopies pb forwarded recipients outcomes) :
    row.content = pb.serializeContainer forwarded := by
  induction recipients generalizing outcomes with
  | nil => cases member
  | cons recipient rest inductionHypothesis =>
      rw [storedCopies] at member
      rcases List.mem_append.mp member with first | later
      · split at first
        · rw [List.mem_singleton.mp first]
          rfl
        · cases first
      · exact inductionHypothesis later

theorem addChatMsgCache_eq (pb : ImProto) (forwarded : MessageContainer) (id : Int)
    (store : Store) :
    store.afterCall (.addChatMsgCache id (pb.serializeContainer forwarded)) =
      { store with db := { store.db.advance with tables := { store.db.tables with
        offlineMsgs := store.db.tables.offlineMsgs ++
          if store.db.outcomes 0 then [storedCopy pb forwarded id] else [] } } } := by
  simp only [Store.afterCall, Store.addChatMsgCache, Store.insertOfflineMsg, fromHex_toHex,
    storedCopy]
  cases granted : store.db.outcomes 0 with
  | false =>
      rw [Store.execute_denied granted]
      simp only [Bool.false_eq_true, if_false, List.append_nil]
      rfl
  | true =>
      rw [Store.execute_granted granted rfl]
      rfl

/-- Each call uses up one outcome and adds its row if it was granted. -/
theorem afterCalls_storing (pb : ImProto) (forwarded : MessageContainer) (recipients : List Int)
    (store : Store) :
    (store.afterCalls (storing pb forwarded recipients)).db.tables =
        { store.db.tables with
          offlineMsgs := store.db.tables.offlineMsgs ++
            storedCopies pb forwarded recipients store.db.outcomes } ∧
      ∀ n, (store.afterCalls (storing pb forwarded recipients)).db.outcomes n =
        store.db.outcomes (n + recipients.length) := by
  induction recipients generalizing store with
  | nil => exact ⟨by simp [storing, Store.afterCalls, storedCopies], fun n => rfl⟩
  | cons recipient rest inductionHypothesis =>
      have peeled : store.afterCalls (storing pb forwarded (recipient :: rest)) =
          (store.afterCall (.addChatMsgCache recipient
            (pb.serializeContainer forwarded))).afterCalls (storing pb forwarded rest) := rfl
      obtain ⟨tables, outcomes⟩ := inductionHypothesis
        (store.afterCall (.addChatMsgCache recipient (pb.serializeContainer forwarded)))
      rw [peeled, tables]
      refine ⟨?_, ?_⟩
      · rw [addChatMsgCache_eq, storedCopies]
        simp only [List.append_assoc]
        rfl
      · intro n
        rw [outcomes, addChatMsgCache_eq]
        rfl

/-! ### Keeping a message for the history -/

theorem saveChatMsgToDb_eq (senderid targetid : Int) (chatMsg : ChatMsg) (store : Store) :
    (store.saveChatMsgToDb senderid targetid chatMsg).2 =
      { store with db := { store.db.advance with tables := { store.db.tables with
        chatMsgs := store.db.tables.chatMsgs ++
          if store.db.outcomes 0 then [Store.chatRow senderid targetid chatMsg store.db.clock]
          else [] } } } := by
  unfold Store.saveChatMsgToDb
  cases granted : store.db.outcomes 0 with
  | false =>
      rw [Store.execute_denied granted]
      simp only [Bool.false_eq_true, if_false, List.append_nil]
      rfl
  | true =>
      rw [Store.execute_granted granted rfl]
      rfl

/-- The history row, and the outcomes that are left. -/
theorem persistChat_db (user : User) (target : Int) (chatMsg : ChatMsg) (w : World) :
    (w.persistChat user target chatMsg).store.db.tables =
        { w.store.db.tables with
          chatMsgs := w.store.db.tables.chatMsgs ++
            if w.env.publishes = false ∧ w.store.db.outcomes 0 = true then
              [Store.chatRow user.userid target chatMsg w.store.db.clock]
            else [] } ∧
      ∀ n, (w.persistChat user target chatMsg).store.db.outcomes n =
        w.store.db.outcomes (n + w.env.historyInserts) := by
  rw [persistChat_eq]
  unfold Env.historyInserts
  cases w.env.publishes with
  | true => simp
  | false => simp [saveChatMsgToDb_eq]

theorem persistChat_cachedUsers (user : User) (target : Int) (chatMsg : ChatMsg) (w : World) :
    (w.persistChat user target chatMsg).store.cachedUsers = w.store.cachedUsers := by
  rw [persistChat_eq]
  dsimp only
  split
  · rfl
  · rw [saveChatMsgToDb_eq]

/-! ### The frames of a chat message -/

/-- Where a frame of a chat handler goes: the notice that the agent is missing
to the sender, a copy to a recipient's session. -/
inductive ChatFrame (s : ClientSession) (user : User) (targets : List Int) (w : World)
    (entry : Nat × Frame) : Prop
  | notice (isConn : entry.1 = s.conn)
  | copy {target id : Int} {session : ClientSession} (isTarget : target ∈ targets)
      (notAgent : target ≠ agentUserId) (recipient : id ∈ chatRecipients user target w.store)
      (found : w.getSessionByID id = some session) (isConn : entry.1 = session.conn)

/-- The same frame seen from a state with the same users and sessions. -/
theorem ChatFrame.of_alike {targets : List Int} {entry : Nat × Frame} (alike : Alike w next)
    (frame : ChatFrame s user targets w entry) : ChatFrame s user targets next entry := by
  cases frame with
  | notice isConn => exact .notice isConn
  | copy isTarget notAgent recipient found isConn =>
      obtain ⟨other, isOther, conn, -⟩ := found_of_faces alike.faces found
      exact .copy isTarget notAgent
        (chatRecipients_of_cachedUsers user _ alike.cachedUsers ▸ recipient) isOther
        (isConn.trans conn.symm)

/-! ### One chat message -/

/-- What a step hands out and keeps, in the order of the lists it adds to. -/
structure Handout where
  pushed : List (Nat × Frame)
  stored : List OfflineMsgRow
  inserted : List ChatMsgRow
  published : List ChatEvent

/-- `next` is `w` with the handout added. -/
structure HandsOut (w next : World) (handout : Handout) : Prop where
  outbox : next.outbox = w.outbox ++ handout.pushed
  offlineMsgs : next.store.db.tables.offlineMsgs = w.store.db.tables.offlineMsgs ++ handout.stored
  chatMsgs : next.store.db.tables.chatMsgs = w.store.db.tables.chatMsgs ++ handout.inserted
  events : next.events = w.events ++ handout.published

/-- What a chat message to a user or a group hands out. -/
def chatHandout (pb : ImProto) (s : ClientSession) (user : User) (msg : MessageContainer)
    (w : World) : Handout where
  pushed := w.pushesTo (forwardMsg s msg) (chatRecipients user msg.targetId w.store)
  stored := storedCopies pb (forwardMsg s msg) (w.absent (chatRecipients user msg.targetId w.store))
    fun n => w.store.db.outcomes (n + w.env.historyInserts)
  inserted :=
    if w.env.publishes = false ∧ w.store.db.outcomes 0 = true then
      [Store.chatRow user.userid msg.targetId (pb.chatMsg msg.payload).2 w.store.db.clock]
    else []
  published :=
    if w.env.publishes then [chatEvent user.userid msg.targetId (pb.chatMsg msg.payload).2] else []

/-- What is left for the statements and events after a chat message. -/
structure UsesUp (w next : World) (inserts : Nat) : Prop where
  outcomes : ∀ n, next.store.db.outcomes n = w.store.db.outcomes (n + inserts)
  env : next.env = w.env.spent
  fault : next.fault = w.fault

theorem onChatResponse_hands (pb : ImProto) (msg : MessageContainer) (keyed : w.Keyed)
    (holds : Holds s w) (signedIn : s.user = some user) (notAgent : msg.targetId ≠ agentUserId) :
    Alike w (w.onChatResponse pb s msg) ∧
      HandsOut w (w.onChatResponse pb s msg) (chatHandout pb s user msg w) ∧
      UsesUp w (w.onChatResponse pb s msg) (w.env.historyInserts +
        (w.absent (chatRecipients user msg.targetId w.store)).length) := by
  have started : Alike w (w.setSession { s with target := msg.targetId }) :=
    ⟨rfl, faces_setSession keyed holds rfl rfl⟩
  have persistedAlike : Alike w ((w.setSession { s with target := msg.targetId }).persistChat user
      msg.targetId (pb.chatMsg msg.payload).2) :=
    started.trans ⟨persistChat_cachedUsers .., faces_of_sessions (persistChat_sessions ..)⟩
  have recipients := chatRecipients_of_cachedUsers user msg.targetId persistedAlike.cachedUsers
  have delivered : w.onChatResponse pb s msg = (chatRecipients user msg.targetId
      ((w.setSession { s with target := msg.targetId }).persistChat user msg.targetId
        (pb.chatMsg msg.payload).2).store).foldl (deliver pb (forwardMsg s msg))
      ((w.setSession { s with target := msg.targetId }).persistChat user msg.targetId
        (pb.chatMsg msg.payload).2) := by
    unfold onChatResponse
    simp only [signedIn, if_neg notAgent]
  rw [recipients, deliverAll_eq, absent_of_faces persistedAlike.faces,
    pushesTo_of_faces persistedAlike.faces] at delivered
  have isPersisted := persistChat_eq user msg.targetId (pb.chatMsg msg.payload).2
    (w.setSession { s with target := msg.targetId })
  obtain ⟨tables, outcomes⟩ := persistChat_db user msg.targetId (pb.chatMsg msg.payload).2
    (w.setSession { s with target := msg.targetId })
  generalize (w.setSession { s with target := msg.targetId }).persistChat user msg.targetId
    (pb.chatMsg msg.payload).2 = persisted at *
  obtain ⟨storedTables, storedOutcomes⟩ := afterCalls_storing pb (forwardMsg s msg)
    (w.absent (chatRecipients user msg.targetId w.store)) persisted.store
  have sameOutcomes : persisted.store.db.outcomes =
      fun n => w.store.db.outcomes (n + w.env.historyInserts) := funext outcomes
  rw [delivered]
  refine ⟨⟨?_, persistedAlike.faces⟩, ⟨?_, ?_, ?_, ?_⟩, ?_, ?_, ?_⟩
  · exact (storing_cachedUsers _ _ persisted.store).trans persistedAlike.cachedUsers
  · have outbox : persisted.outbox = w.outbox := by
      rw [isPersisted]
      rfl
    exact congrArg (· ++ _) outbox
  · have stored := congrArg Tables.offlineMsgs storedTables
    rw [tables, sameOutcomes] at stored
    exact stored
  · have stored := congrArg Tables.chatMsgs storedTables
    rw [tables] at stored
    exact stored
  · exact congrArg World.events isPersisted
  · intro n
    have left := storedOutcomes n
    rw [outcomes] at left
    rw [← Nat.add_assoc, Nat.add_right_comm]
    exact left
  · exact congrArg World.env isPersisted
  · have fault : persisted.fault = w.fault := by
      rw [isPersisted]
      rfl
    exact fault

theorem onChatResponse_frames (pb : ImProto) (msg : MessageContainer) (keyed : w.Keyed)
    (holds : Holds s w) (signedIn : s.user = some user) :
    Alike w (w.onChatResponse pb s msg) ∧
      ∃ frames, (w.onChatResponse pb s msg).outbox = w.outbox ++ frames ∧
        ∀ entry ∈ frames, ChatFrame s user [msg.targetId] w entry := by
  by_cases isAgent : msg.targetId = agentUserId
  · have started : Alike w (w.setSession { s with target := msg.targetId }) :=
      ⟨rfl, faces_setSession keyed holds rfl rfl⟩
    have routed : w.onChatResponse pb s msg =
        (w.setSession { s with target := msg.targetId }).routeToAgent s user
          (pb.chatMsg msg.payload).2 := by
      unfold onChatResponse
      simp only [signedIn, if_pos isAgent]
    rw [routed]
    unfold routeToAgent
    split
    · exact ⟨⟨rfl, started.faces⟩, [], by simp⟩
    · exact ⟨⟨rfl, started.faces⟩, [], by simp⟩
    · refine ⟨⟨rfl, started.faces⟩, [_], rfl, ?_⟩
      intro entry member
      rw [List.mem_singleton.mp member]
      exact .notice rfl
  · obtain ⟨alike, hands, -⟩ := onChatResponse_hands pb msg keyed holds signedIn isAgent
    refine ⟨alike, _, hands.outbox, ?_⟩
    intro entry pushed
    obtain ⟨id, isRecipient, session, found, rfl⟩ := mem_pushesTo pushed
    exact .copy List.mem_cons_self isAgent isRecipient found rfl

/-- Group sending: the frames of every target, and the state a lookup sees is
that of the start all along. -/
theorem chatToEach_frames (pb : ImProto) (content : Bytes) (targets : List Int) (keyed : w.Keyed)
    (holds : Holds s w) (signedIn : s.user = some user) :
    Alike w (w.chatToEach pb s content targets) ∧
      ∃ frames, (w.chatToEach pb s content targets).outbox = w.outbox ++ frames ∧
        ∀ entry ∈ frames, ChatFrame s user targets w entry := by
  unfold chatToEach
  induction targets generalizing w with
  | nil => exact ⟨.refl w, [], by simp⟩
  | cons target rest inductionHypothesis =>
      have later : ∀ {v : World} {entry : Nat × Frame}, ChatFrame s user rest v entry →
          ChatFrame s user (target :: rest) v entry := by
        intro v entry frame
        cases frame with
        | notice isConn => exact .notice isConn
        | copy isTarget notAgent recipient found isConn =>
            exact .copy (List.mem_cons_of_mem _ isTarget) notAgent recipient found isConn
      rw [List.foldl_cons]
      split
      · obtain ⟨alike, frames, outbox, all⟩ := inductionHypothesis keyed holds
        exact ⟨alike, frames, outbox, fun entry member => later (all entry member)⟩
      · obtain ⟨first, frames, outbox, all⟩ := onChatResponse_frames pb
          ⟨MsgType.chat.cmd, s.seq, target, [], content⟩ keyed holds signedIn
        have stillKeyed : (w.onChatResponse pb s ⟨MsgType.chat.cmd, s.seq, target, [],
            content⟩).Keyed := by
          rw [Keyed, conns_of_setSession onChatResponse_sessions]
          exact keyed
        obtain ⟨second, others, outboxNext, allNext⟩ := inductionHypothesis stillKeyed
          (onChatResponse_userOn pb _ holds).1
        refine ⟨first.trans second, frames ++ others, by rw [outboxNext, outbox, List.append_assoc],
          ?_⟩
        intro entry member
        rcases List.mem_append.mp member with early | late
        · cases all entry early with
          | notice isConn => exact .notice isConn
          | copy isTarget notAgent recipient found isConn =>
              rw [List.mem_singleton.mp isTarget] at recipient notAgent
              exact .copy List.mem_cons_self notAgent recipient found isConn
        · exact (later (allNext entry late)).of_alike first.symm

theorem onMultiChatResponse_frames (pb : ImProto) (msg : MessageContainer) (keyed : w.Keyed)
    (holds : Holds s w) (signedIn : s.user = some user) :
    Alike w (w.onMultiChatResponse pb s msg) ∧
      ∃ frames, (w.onMultiChatResponse pb s msg).outbox = w.outbox ++ frames ∧
        ∀ entry ∈ frames, ∃ multi, pb.multiChatTargets msg.payload = some multi ∧
          ChatFrame s user multi.targets w entry := by
  have started : Alike w (w.setSession { s with targets := msg.targets }) :=
    ⟨rfl, faces_setSession keyed holds rfl rfl⟩
  have stillKeyed := keyed_setSession { s with targets := msg.targets } keyed
  have stillHeld : Holds { s with targets := msg.targets }
      (w.setSession { s with targets := msg.targets }) := by
    have kept : Holds s (w.setSession { s with targets := msg.targets }) ∧
        ∀ k, (w.setSession { s with targets := msg.targets }).userOn k = w.userOn k :=
      holds.setSession rfl rfl
    exact kept.1
  have signedInStill : ({ s with targets := msg.targets } : ClientSession).user = some user :=
    signedIn
  have noDeref : ∀ v : World, v.derefUser { s with targets := msg.targets } = v := by
    intro v
    simp only [derefUser, signedIn]
  unfold onMultiChatResponse
  dsimp only
  split
  · rw [noDeref]
    exact ⟨started, [], by simp⟩
  · rename_i multi parsed
    obtain ⟨alike, frames, outbox, all⟩ := chatToEach_frames pb multi.content multi.targets
      stillKeyed stillHeld signedInStill
    rw [noDeref, ite_self]
    refine ⟨started.trans alike, frames, outbox, ?_⟩
    intro entry member
    refine ⟨multi, parsed, ?_⟩
    cases (all entry member).of_alike started.symm with
    | notice isConn => exact .notice isConn
    | copy isTarget notAgent recipient found isConn =>
        exact .copy isTarget notAgent recipient found isConn

/-! ### Without a login -/

theorem onChatResponse_anonymous (anonymous : s.user = none) :
    (w.onChatResponse pb s msg).outbox = w.outbox := by
  unfold onChatResponse
  simp only [anonymous]
  rfl

theorem onMultiChatResponse_anonymous (anonymous : s.user = none) :
    (w.onMultiChatResponse pb s msg).outbox = w.outbox := by
  have silent : ∀ (content : Bytes) (targets : List Int) (v : World),
      (v.chatToEach pb { s with targets := msg.targets } content targets).outbox = v.outbox := by
    intro content targets v
    unfold chatToEach
    induction targets generalizing v with
    | nil => rfl
    | cons target rest inductionHypothesis =>
        rw [List.foldl_cons, inductionHypothesis]
        split
        · rfl
        · exact onChatResponse_anonymous anonymous
  have deref : ∀ v : World, (v.derefUser { s with targets := msg.targets }).outbox = v.outbox := by
    intro v
    unfold derefUser
    split <;> rfl
  unfold onMultiChatResponse
  dsimp only
  split
  · exact deref _
  · split
    · exact silent ..
    · rw [deref]
      exact silent ..

end World

end AimServer
