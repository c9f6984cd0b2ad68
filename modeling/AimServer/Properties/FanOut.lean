import AimServer.Properties.Client
import AimServer.Session.Sentinel

/-!
Contract: who gets a copy of a chat message.

Proves that one chat step hands exactly one copy to the target user, or to
every existing member of the target group but the sender, pushed when the
recipient has a session and stored when it has none, and nothing to anybody
else.
-/

namespace AimServer

open AimServer.Lib

namespace World

variable {pb : ImProto} {w : World} {label : Step} {s : ClientSession} {msg : MessageContainer}
  {user : User}

/-! ### Recipients -/

/-- `id` is the target user, or an existing member of the target group other
than the sender. -/
def Receives (w : World) (sender target id : Int) : Prop :=
  if target < groupIdBoundary then id = target
  else id ≠ sender ∧ w.store.graph.friend target id ∧ (w.store.graph.cached id).isSome

theorem mem_chatRecipients {target id : Int} :
    id ∈ chatRecipients user target w.store ↔ w.Receives user.userid target id := by
  unfold chatRecipients Receives
  split
  · exact List.mem_singleton
  · rw [List.mem_filter, and_comm, decide_eq_true_iff]
    exact and_congr_right fun _ => Store.mem_friendIds

/-- Friends are listed once. -/
theorem nodup_friendIds (userid : Int) (store : Store) : (store.friendIds userid).Nodup := by
  unfold Store.friendIds Store.getFriendInfoByUserID
  cases store.getUserByID userid with
  | none => exact List.nodup_nil
  | some user =>
      rw [Option.map_some, Option.getD_some, List.map_filterMap]
      refine (nodup_ascending user.friends).filterMap ?_
      intro first second id isFirst isSecond
      obtain ⟨friend, found, rfl⟩ := Option.map_eq_some_iff.mp isFirst
      obtain ⟨other, foundOther, same⟩ := Option.map_eq_some_iff.mp isSecond
      rw [← lookup_key found, ← lookup_key foundOther, same]

theorem nodup_chatRecipients (user : User) (target : Int) (store : Store) :
    (chatRecipients user target store).Nodup := by
  unfold chatRecipients
  split
  · exact List.nodup_singleton target
  · exact (nodup_friendIds target store).filter _

/-- Every `INSERT` that is granted stores its copy. -/
theorem storedCopies_granted (forwarded : MessageContainer) {recipients : List Int}
    {outcomes : Nat → Bool} (granted : ∀ n < recipients.length, outcomes n = true) :
    storedCopies pb forwarded recipients outcomes = recipients.map (storedCopy pb forwarded) := by
  induction recipients generalizing outcomes with
  | nil => rfl
  | cons recipient rest inductionHypothesis =>
      have later := inductionHypothesis fun n bound =>
        granted (n + 1) (Nat.succ_lt_succ bound)
      rw [storedCopies, later, if_pos (granted 0 (Nat.succ_pos _))]
      rfl

/-! ### What one user gets -/

/-- The containers the step pushes to connections of the user. -/
def pushedTo (pb : ImProto) (w : World) (label : Step) (id : Int) : List (Nat × Frame) :=
  (w.sent pb label).filter fun entry => (w.userOn entry.1).map User.userid = some id

/-- The rows of the offline table that wait for the user. -/
def waitingFor (id : Int) (w : World) : List OfflineMsgRow :=
  w.store.db.tables.offlineMsgs.filter fun row => row.userid = id

/-- One copy, pushed to a session of the user, or stored last in his queue when
he has none. -/
inductive GetsOneCopy (pb : ImProto) (w : World) (label : Step) (forwarded : MessageContainer)
    (id : Int) : Prop
  | pushed {conn : Nat} {user : User} (session : w.userOn conn = some user)
      (isUser : user.userid = id)
      (frames : w.pushedTo pb label id = [(conn, forwarded.frame)])
      (queue : (w.step pb label).waitingFor id = w.waitingFor id)
  | stored (offline : ∀ conn user, w.userOn conn = some user → user.userid ≠ id)
      (frames : w.pushedTo pb label id = [])
      (queue : (w.step pb label).waitingFor id = w.waitingFor id ++ [storedCopy pb forwarded id])

/-- No container and no row. -/
structure GetsNothing (pb : ImProto) (w : World) (label : Step) (id : Int) : Prop where
  frames : w.pushedTo pb label id = []
  queue : (w.step pb label).waitingFor id = w.waitingFor id

/-- What the step does to the delivery state of everybody. -/
structure FansOut (pb : ImProto) (w : World) (label : Step) (sender target : Int)
    (forwarded : MessageContainer) : Prop where
  recipients : ∀ id, w.Receives sender target id → w.GetsOneCopy pb label forwarded id
  others : ∀ id, ¬ w.Receives sender target id → w.GetsNothing pb label id
  nobodyElse : ∀ entry ∈ w.sent pb label, (w.userOn entry.1).isSome

/-- What the step adds, seen from the state before it. -/
theorem chat_step_hands (pb : ImProto) (reached : w.dispatched label = some (.chat, s, msg))
    (keyed : w.Keyed) (signedIn : s.user = some user) (notAgent : msg.targetId ≠ agentUserId)
    (granted : ∀ n < (w.absent (chatRecipients user msg.targetId w.store)).length,
      label.env.sql (n + label.env.historyInserts) = true) :
    w.sent pb label = w.pushesTo (forwardMsg s msg)
        (chatRecipients user msg.targetId w.store) ∧
      (w.step pb label).store.db.tables.offlineMsgs = w.store.db.tables.offlineMsgs ++
        (w.absent (chatRecipients user msg.targetId w.store)).map
          (storedCopy pb (forwardMsg s msg)) := by
  have started := faces_of_dispatched keyed reached
  have startedKeyed : (w.withEnv label.env).Keyed := keyed
  obtain ⟨-, hands, -⟩ := onChatResponse_hands pb msg (keyed_setSession s startedKeyed)
    (holds_of_dispatched reached).1 signedIn notAgent
  have stepped : w.step pb label = ((w.withEnv label.env).setSession s).onChatResponse pb s msg :=
    step_of_dispatched pb reached
  rw [← stepped] at hands
  have recipients : chatRecipients user msg.targetId ((w.withEnv label.env).setSession s).store =
      chatRecipients user msg.targetId w.store := chatRecipients_of_cachedUsers _ _ rfl
  refine ⟨?_, ?_⟩
  · have sent : w.sent pb label = _ := sent_eq hands.outbox
    rw [sent, chatHandout, recipients, pushesTo_of_faces started]
  · have stored := hands.offlineMsgs
    rw [chatHandout, recipients, absent_of_faces started] at stored
    exact stored.trans (congrArg (w.store.db.tables.offlineMsgs ++ ·)
      (storedCopies_granted (forwardMsg s msg) granted))

/-- A recipient's session is logged in as him. -/
theorem userOn_of_recipient {session : ClientSession} {target id : Int}
    (searchable : w.Searchable) (notAgent : target ≠ agentUserId)
    (recipient : id ∈ chatRecipients user target w.store)
    (found : w.getSessionByID id = some session) :
    ∃ account, w.userOn session.conn = some account ∧ account.userid = id := by
  have real := real_of_recipient searchable.sound.coherent searchable.noSentinel notAgent recipient
  obtain ⟨account, signedIn, isUser⟩ := user_of_found real found
  refine ⟨account, ?_, isUser⟩
  rw [userOn_of_mem searchable.keyed (mem_of_found found).1, signedIn]

/-- The pushed copies and the stored copies of one id. -/
theorem share_of_id (pb : ImProto) (searchable : w.Searchable)
    (reached : w.dispatched label = some (.chat, s, msg)) (signedIn : s.user = some user)
    (notAgent : msg.targetId ≠ agentUserId)
    (granted : ∀ n < (w.absent (chatRecipients user msg.targetId w.store)).length,
      label.env.sql (n + label.env.historyInserts) = true) (id : Int) :
    w.pushedTo pb label id = (if id ∈ chatRecipients user msg.targetId w.store then
        ((w.getSessionByID id).map
          fun session => (session.conn, (forwardMsg s msg).frame)).toList else []) ∧
      (w.step pb label).waitingFor id = w.waitingFor id ++
        (if id ∈ w.absent (chatRecipients user msg.targetId w.store) then
          [storedCopy pb (forwardMsg s msg) id] else []) := by
  obtain ⟨sent, stored⟩ := chat_step_hands pb reached searchable.keyed signedIn notAgent granted
  have distinct := nodup_chatRecipients user msg.targetId w.store
  refine ⟨?_, ?_⟩
  · rw [pushedTo, sent]
    refine filter_filterMap_eq distinct ?_
    intro recipient isRecipient entry pushed
    obtain ⟨session, found, rfl⟩ := Option.map_eq_some_iff.mp pushed
    obtain ⟨account, isAccount, isUser⟩ :=
      userOn_of_recipient searchable notAgent isRecipient found
    simp [isAccount, isUser]
  · have distinctAbsent : (w.absent (chatRecipients user msg.targetId w.store)).Nodup :=
      distinct.filter _
    have share : ((w.absent (chatRecipients user msg.targetId w.store)).filterMap
        (some ∘ storedCopy pb (forwardMsg s msg))).filter (fun row => row.userid = id) =
          if id ∈ w.absent (chatRecipients user msg.targetId w.store) then
            [storedCopy pb (forwardMsg s msg) id] else [] := by
      refine filter_filterMap_eq distinctAbsent ?_
      intro recipient _ row isRow
      cases isRow
      exact decide_eq_true_iff
    rw [waitingFor, waitingFor, stored, List.filter_append, ← share, List.filterMap_eq_map]

theorem fansOut_of_searchable (searchable : w.Searchable)
    (reached : w.dispatched label = some (.chat, s, msg)) (signedIn : s.user = some user)
    (notAgent : msg.targetId ≠ agentUserId)
    (granted : ∀ n < (w.absent (chatRecipients user msg.targetId w.store)).length,
      label.env.sql (n + label.env.historyInserts) = true) :
    FansOut pb w label user.userid msg.targetId (forwardMsg s msg) := by
  refine ⟨?_, ?_, ?_⟩
  · intro id receives
    have recipient := mem_chatRecipients.mpr receives
    obtain ⟨frames, queue⟩ := share_of_id pb searchable reached signedIn notAgent granted id
    rw [if_pos recipient] at frames
    cases found : w.getSessionByID id with
    | some session =>
        obtain ⟨account, isAccount, isUser⟩ :=
          userOn_of_recipient searchable notAgent recipient found
        have present : id ∉ w.absent (chatRecipients user msg.targetId w.store) := by
          simp [absent, found]
        rw [found] at frames
        rw [if_neg present, List.append_nil] at queue
        exact .pushed isAccount isUser frames queue
    | none =>
        have isAbsent : id ∈ w.absent (chatRecipients user msg.targetId w.store) := by
          simp [absent, found, recipient]
        rw [found] at frames
        rw [if_pos isAbsent] at queue
        refine .stored ?_ frames queue
        intro conn account isAccount same
        have present := found_of_userOn isAccount
        rw [same, found] at present
        cases present
  · intro id outsider
    have notRecipient : id ∉ chatRecipients user msg.targetId w.store :=
      fun recipient => outsider (mem_chatRecipients.mp recipient)
    have notAbsent : id ∉ w.absent (chatRecipients user msg.targetId w.store) :=
      fun listed => notRecipient (List.mem_filter.mp listed).1
    obtain ⟨frames, queue⟩ := share_of_id pb searchable reached signedIn notAgent granted id
    rw [if_neg notRecipient] at frames
    rw [if_neg notAbsent, List.append_nil] at queue
    exact ⟨frames, queue⟩
  · intro entry member
    rw [(chat_step_hands pb reached searchable.keyed signedIn notAgent granted).1] at member
    obtain ⟨id, isRecipient, session, found, rfl⟩ := mem_pushesTo member
    obtain ⟨account, isAccount, -⟩ :=
      userOn_of_recipient searchable notAgent isRecipient found
    exact Option.isSome_of_eq_some isAccount

end World

/-- A chat message to a user or a group reaches exactly its recipients, each
once. -/
theorem chat_fans_out (pb : ImProto) {tables : Tables} (noSentinel : tables.NoSentinel)
    (steps : List Step) {label : Step} {s : ClientSession} {msg : MessageContainer} {user : User}
    (reached : (World.runFrom pb (.boot tables) steps).dispatched label = some (.chat, s, msg))
    (signedIn : s.user = some user) (notAgent : msg.targetId ≠ agentUserId)
    (granted : ∀ n < ((World.runFrom pb (.boot tables) steps).absent
      (World.chatRecipients user msg.targetId
        (World.runFrom pb (.boot tables) steps).store)).length,
      label.env.sql (n + label.env.historyInserts) = true) :
    World.FansOut pb (World.runFrom pb (.boot tables) steps) label user.userid msg.targetId
      (World.forwardMsg s msg) := by
  have searchable := World.searchable_run pb noSentinel steps
  generalize World.runFrom pb (.boot tables) steps = w at reached granted searchable ⊢
  exact World.fansOut_of_searchable searchable reached signedIn notAgent granted

namespace FanOutRuns

/-- Alice and Bob are members of the group, and Bob is not connected. -/
def tables : Tables := Sample.clubOf [1, 2]

def greeting : MessageContainer :=
  ⟨MsgType.chat.cmd, 2, 268435456, [], Client.chatMsg 1 268435456 (str "hi")⟩

def alice : User := { Store.initUser .allOk tables Sample.alice with status := 1 }

end FanOutRuns

open FanOutRuns in
theorem chat_fans_out_greeting :
    World.FansOut wireProto (World.runFrom wireProto (.boot tables) Sample.aliceLogsIn)
      ⟨.frame 0 greeting, .plain⟩ 1 268435456
      (World.forwardMsg ⟨0, 2, some alice, 0, []⟩ greeting) := by
  have noSentinel : tables.NoSentinel := by
    refine ⟨by decide, ?_⟩
    intro key row found
    cases found
  have reached : (World.runFrom wireProto (.boot tables) Sample.aliceLogsIn).dispatched
      ⟨.frame 0 greeting, .plain⟩ = some (.chat, ⟨0, 2, some alice, 0, []⟩, greeting) := by decide
  exact chat_fans_out wireProto noSentinel Sample.aliceLogsIn reached rfl (by decide)
    fun _ _ => rfl

end AimServer
