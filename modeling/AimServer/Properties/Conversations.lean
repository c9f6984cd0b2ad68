import AimServer.Agent.OpenAIProvider
import AimServer.Properties.HistoryAppends

/-!
Contract: the history that a model is shown is a conversation.

Owns: the roles of a stored history, what trimming leaves of them, what the
history of a user holds at each point of his chat while other users chat, the
messages a request is made of, and which chats leave the cache as it is.

Trimming at an odd point leaves a reply in front. The second message of a chat
trims once more, so a history that is cut is cut by whole rounds.
-/

namespace AimServer

open AimServer.Lib AimServer.Backends

/-- `encoding/json` keeps the number of messages and the two roles of a chat. -/
def MessageJson.KeepsRoles (json : MessageJson) : Prop :=
  ∀ msgs : List Message, (∀ m ∈ msgs, m.role = roleUser ∨ m.role = roleAssistant) →
    (json.unmarshalList (json.marshalList msgs)).map Message.role = msgs.map Message.role

/-- User and assistant take turns, the user first. -/
structure IsConversation (history : List Message) : Prop where
  even : history.length % 2 = 0
  short : history.length ≤ historyMessages
  alternates : ∀ index m, history[index]? = some m →
    m.role = if index % 2 = 0 then roleUser else roleAssistant

/-! ### Rounds -/

/-- The roles of so many chats. -/
def rounds : Nat → List Bytes
  | 0 => []
  | count + 1 => roleUser :: roleAssistant :: rounds count

@[simp] theorem length_rounds (count : Nat) : (rounds count).length = 2 * count := by
  induction count with
  | zero => rfl
  | succ count inductionHypothesis =>
      rw [rounds, List.length_cons, List.length_cons, inductionHypothesis]
      omega

theorem rounds_append (count : Nat) :
    rounds count ++ [roleUser, roleAssistant] = rounds (count + 1) := by
  induction count with
  | zero => rfl
  | succ count inductionHypothesis =>
      rw [rounds, List.cons_append, List.cons_append, inductionHypothesis, rounds.eq_2 (count + 1)]

theorem drop_rounds (cut count : Nat) : (rounds count).drop (2 * cut) = rounds (count - cut) := by
  induction cut generalizing count with
  | zero => rfl
  | succ cut inductionHypothesis =>
      cases count with
      | zero => rw [rounds, List.drop_nil, Nat.zero_sub, rounds]
      | succ count =>
          rw [rounds, Nat.mul_succ, List.drop_succ_cons, List.drop_succ_cons, inductionHypothesis,
            Nat.succ_sub_succ]

/-- The last messages, an even number of them, are whole rounds. -/
theorem lastOf_rounds (limit count : Nat) :
    lastOf (2 * limit) (rounds count) = rounds (min count limit) := by
  rw [lastOf, length_rounds, ← Nat.mul_sub, drop_rounds]
  congr 1
  omega

theorem role_of_rounds {count index : Nat} {role : Bytes}
    (isRole : (rounds count)[index]? = some role) :
    role = if index % 2 = 0 then roleUser else roleAssistant := by
  induction count generalizing index with
  | zero => cases isRole
  | succ count inductionHypothesis =>
      match index with
      | 0 => exact (Option.some.inj isRole).symm
      | 1 => exact (Option.some.inj isRole).symm
      | index + 2 =>
          rw [inductionHypothesis isRole, Nat.add_mod_right]

theorem mem_rounds {count : Nat} {role : Bytes} (member : role ∈ rounds count) :
    role = roleUser ∨ role = roleAssistant := by
  obtain ⟨index, isRole⟩ := List.mem_iff_getElem?.mp member
  rw [role_of_rounds isRole]
  split
  · exact Or.inl rfl
  · exact Or.inr rfl

/-! ### Whole and half histories -/

/-- The roles are those of whole rounds. -/
def Whole (history : List Message) : Prop :=
  ∃ count ≤ 50, history.map Message.role = rounds count

/-- The roles between the two messages of a chat. -/
def Half (history : List Message) : Prop :=
  ∃ count ≤ 50, history.map Message.role = lastOf historyMessages (rounds count ++ [roleUser])

theorem whole_nil : Whole [] := ⟨0, Nat.zero_le _, rfl⟩

theorem Whole.isConversation {history : List Message} (whole : Whole history) :
    IsConversation history := by
  obtain ⟨count, few, roles⟩ := whole
  have length : history.length = 2 * count := by
    rw [← length_rounds, ← roles, List.length_map]
  refine ⟨by omega, by rw [length, historyMessages]; omega, ?_⟩
  intro index m isMessage
  have isRole : (rounds count)[index]? = some m.role := by
    rw [← roles, List.getElem?_map, isMessage]
    rfl
  exact role_of_rounds isRole

theorem lastOf_min_length {α : Type} (limit : Nat) (items : List α) :
    lastOf (min limit items.length) items = lastOf limit items := by
  unfold lastOf
  congr 1
  omega

/-- What a request shows begins with a user. -/
theorem Whole.window_user {history : List Message} (whole : Whole history) :
    ∀ m ∈ (lastOf contextMessages history).head?, m.role = roleUser := by
  obtain ⟨count, -, roles⟩ := whole
  intro m isFirst
  have shown : (lastOf contextMessages history).map Message.role = rounds (min count 5) := by
    rw [map_lastOf, roles]
    exact lastOf_rounds 5 count
  have first : ((lastOf contextMessages history).map Message.role).head? = some m.role := by
    rw [List.head?_map, isFirst]
    rfl
  rw [shown] at first
  cases small : min count 5 with
  | zero =>
      rw [small] at first
      cases first
  | succ shownRounds =>
      rw [small] at first
      exact (Option.some.inj first).symm

section Appends

variable {json : MessageJson} {history : List Message} {m : Message}

/-- The roles that are stored for a message after a whole or half history. -/
theorem roles_appended (keeps : json.KeepsRoles)
    (known : ∀ role ∈ history.map Message.role, role = roleUser ∨ role = roleAssistant)
    (knownNew : m.role = roleUser ∨ m.role = roleAssistant) :
    (json.unmarshalList (json.marshalList
        (lastOf historyMessages (lastOf historyMessages history ++ [m])))).map Message.role =
      lastOf historyMessages (history.map Message.role ++ [m.role]) := by
  rw [lastOf_lastOf_append, keeps, map_lastOf, List.map_append]
  · rfl
  · intro other member
    rcases List.mem_append.mp (List.mem_of_mem_drop member) with old | new
    · exact known _ (List.mem_map_of_mem old)
    · rw [List.mem_singleton.mp new]
      exact knownNew

theorem Whole.append_user (whole : Whole history) (keeps : json.KeepsRoles)
    (isUser : m.role = roleUser) :
    Half (json.unmarshalList (json.marshalList
      (lastOf historyMessages (lastOf historyMessages history ++ [m])))) := by
  obtain ⟨count, few, roles⟩ := whole
  refine ⟨count, few, ?_⟩
  rw [roles_appended keeps _ (Or.inl isUser), roles, isUser]
  rw [roles]
  exact fun role member => mem_rounds member

theorem Half.known (half : Half history) :
    ∀ role ∈ history.map Message.role, role = roleUser ∨ role = roleAssistant := by
  obtain ⟨count, -, roles⟩ := half
  rw [roles]
  intro role member
  rcases List.mem_append.mp (List.mem_of_mem_drop member) with old | new
  · exact mem_rounds old
  · exact Or.inl (List.mem_singleton.mp new)

/-- The reply completes the round, and trims off the rest of a cut one. -/
theorem Half.append_reply (half : Half history) (keeps : json.KeepsRoles)
    (isReply : m.role = roleAssistant) :
    Whole (json.unmarshalList (json.marshalList
      (lastOf historyMessages (lastOf historyMessages history ++ [m])))) := by
  have known := half.known
  obtain ⟨count, few, roles⟩ := half
  refine ⟨min (count + 1) 50, Nat.min_le_right _ _, ?_⟩
  calc (json.unmarshalList (json.marshalList
        (lastOf historyMessages (lastOf historyMessages history ++ [m])))).map Message.role
      = lastOf historyMessages
          (lastOf historyMessages (rounds count ++ [roleUser]) ++ [roleAssistant]) := by
        rw [roles_appended keeps known (Or.inr isReply), roles, isReply]
    _ = lastOf historyMessages (rounds (count + 1)) := by
        rw [lastOf_lastOf_append, List.append_assoc, ← rounds_append]
        rfl
    _ = rounds (min (count + 1) 50) := lastOf_rounds 50 (count + 1)

end Appends

/-! ### Running chats -/

namespace Conversations

section Steps

variable {json : MessageJson} {p : OpenAIProvider MemoryCache} {s : Conversations} {userID : Int}

/-- What the history of a user holds at a point of his chat. -/
inductive Progress (history : List Message) : ChatPhase → Prop
  | asked (request : LlmRequest) (whole : Whole history) : Progress history (.asked request)
  | both (req : ChatRequest) (reply : Bytes) (whole : Whole history) :
      Progress history (.appending (OpenAIProvider.turn req reply))
  | readUser (m : Message) (isUser : m.role = roleUser) (reply : Bytes) (whole : Whole history) :
      Progress history (.read (lastOf historyMessages history) m [⟨roleAssistant, reply⟩])
  | one (reply : Bytes) (half : Half history) :
      Progress history (.appending [⟨roleAssistant, reply⟩])
  | readReply (m : Message) (isReply : m.role = roleAssistant) (half : Half history) :
      Progress history (.read (lastOf historyMessages history) m [])

theorem Progress.whole {history : List Message} {chat : RunningChat}
    (progress : Progress history chat.phase) (notHalf : chat.halfStored = false) :
    Whole history := by
  obtain ⟨req, phase⟩ := chat
  cases progress with
  | asked request whole => exact whole
  | both sent reply whole => exact whole
  | readUser m isUser reply whole => exact whole
  | one reply half => cases notHalf
  | readReply m isReply half => cases notHalf

/-- Without a chat the history is whole, and no history has a deadline. -/
structure Coherent (json : MessageJson) (s : Conversations) : Prop where
  keyed : ∀ userID chat, s.running.lookup userID = some chat → chat.req.userID = userID
  idle : ∀ userID, s.running.lookup userID = none → Whole (messagesOf json userID s.memory)
  progress : ∀ userID chat, s.running.lookup userID = some chat →
    Progress (messagesOf json userID s.memory) chat.phase
  lasting : ∀ userID entry, s.memory.store.lookup (historyKey userID) = some entry →
    entry.expire = none

theorem coherent_new (json : MessageJson) : Coherent json new where
  keyed _ _ found := by cases found
  idle _ _ := whole_nil
  progress _ _ found := by cases found
  lasting _ _ found := by cases found

/-- A section of one user's chat changes his history at most, and takes the chat
to a phase that fits it. -/
theorem Coherent.setPhase (coherent : Coherent json s) {chat : RunningChat} {phase : ChatPhase}
    {memory : MemoryCache}
    (others : ∀ other, other ≠ chat.req.userID →
      messagesOf json other memory = messagesOf json other s.memory)
    (lasting : ∀ userID entry, memory.store.lookup (historyKey userID) = some entry →
      entry.expire = none)
    (fits : Progress (messagesOf json chat.req.userID memory) phase) :
    Coherent json (Conversations.setPhase chat phase { s with memory }) where
  keyed := by
    intro userID found isFound
    rw [Conversations.setPhase, GoMap.lookup_insert] at isFound
    split at isFound
    · rename_i own
      rw [← Option.some.inj isFound, own]
    · exact coherent.keyed userID found isFound
  idle := by
    intro userID isIdle
    rw [Conversations.setPhase, GoMap.lookup_insert] at isIdle
    split at isIdle
    · cases isIdle
    · rename_i other
      show Whole (messagesOf json userID memory)
      rw [others userID other]
      exact coherent.idle userID isIdle
  progress := by
    intro userID found isFound
    rw [Conversations.setPhase, GoMap.lookup_insert] at isFound
    show Progress (messagesOf json userID memory) found.phase
    split at isFound
    · rename_i own
      rw [← Option.some.inj isFound, own]
      exact fits
    · rename_i other
      rw [others userID other]
      exact coherent.progress userID found isFound
  lasting := lasting

/-- The same where the chat ends. -/
theorem Coherent.finish (coherent : Coherent json s) {chat : RunningChat} {memory : MemoryCache}
    (others : ∀ other, other ≠ chat.req.userID →
      messagesOf json other memory = messagesOf json other s.memory)
    (lasting : ∀ userID entry, memory.store.lookup (historyKey userID) = some entry →
      entry.expire = none)
    (whole : Whole (messagesOf json chat.req.userID memory)) :
    Coherent json (Conversations.finish chat { s with memory }) where
  keyed := by
    intro userID found isFound
    rw [Conversations.finish, GoMap.lookup_erase] at isFound
    split at isFound
    · cases isFound
    · exact coherent.keyed userID found isFound
  idle := by
    intro userID isIdle
    rw [Conversations.finish, GoMap.lookup_erase] at isIdle
    show Whole (messagesOf json userID memory)
    split at isIdle
    · rename_i own
      rw [own]
      exact whole
    · rename_i other
      rw [others userID other]
      exact coherent.idle userID isIdle
  progress := by
    intro userID found isFound
    rw [Conversations.finish, GoMap.lookup_erase] at isFound
    show Progress (messagesOf json userID memory) found.phase
    split at isFound
    · cases isFound
    · rename_i other
      rw [others userID other]
      exact coherent.progress userID found isFound
  lasting := lasting

theorem Coherent.start (coherent : Coherent json s) (p : OpenAIProvider MemoryCache)
    (req : ChatRequest) (now : Int) : Coherent json (s.start p req now) := by
  unfold Conversations.start
  split
  · exact coherent
  · split
    · exact coherent
    · rename_i isIdle
      exact coherent.setPhase (fun _ _ => rfl) coherent.lasting
        (.asked _ (coherent.idle req.userID isIdle))

theorem Coherent.respond (coherent : Coherent json s) (p : OpenAIProvider MemoryCache)
    {chat : RunningChat} (outcome : LlmOutcome)
    (whole : Whole (messagesOf json chat.req.userID s.memory)) :
    Coherent json (s.respond p chat outcome) := by
  unfold Conversations.respond
  split
  · rename_i response cache _ _
    exact coherent.setPhase (fun _ _ => rfl) coherent.lasting (.both chat.req response.reply whole)
  · exact coherent.finish (fun _ _ => rfl) coherent.lasting whole

/-- What the second section of `AppendHistory` stores has no deadline. -/
theorem lasting_storeHistory (coherent : Coherent json s) (owner : Int) (history : List Message)
    (m : Message) : ∀ userID entry,
      (s.memory.storeHistory json owner history m historyMessages).store.lookup
        (historyKey userID) = some entry → entry.expire = none := by
  intro userID entry found
  by_cases own : historyKey userID = historyKey owner
  · rw [own, MemoryCache.storeHistory, lookup_put_self] at found
    rw [← Option.some.inj found]
  · rw [MemoryCache.storeHistory, lookup_put_ne _ _ own] at found
    exact coherent.lasting userID entry found

theorem Coherent.proceed (coherent : Coherent json s) (keeps : json.KeepsRoles)
    {chat : RunningChat} (now : Int)
    (progress : Progress (messagesOf json chat.req.userID s.memory) chat.phase) :
    Coherent json (s.proceed json chat now) := by
  have others : ∀ (history : List Message) (m : Message) (other : Int),
      other ≠ chat.req.userID →
        messagesOf json other
            (s.memory.storeHistory json chat.req.userID history m historyMessages) =
          messagesOf json other s.memory := fun history m other different =>
    HistoryCalls.messagesOf_storeHistory_ne (Ne.symm different) history m s.memory
  obtain ⟨req, phase⟩ := chat
  dsimp only at progress
  unfold Conversations.proceed
  cases progress with
  | asked request whole => exact coherent
  | both sent reply whole =>
      refine coherent.setPhase (fun _ _ => rfl) coherent.lasting ?_
      rw [memory_getHistory_eq]
      exact .readUser _ rfl reply whole
  | readUser m isUser reply whole =>
      dsimp only
      rw [if_neg (List.cons_ne_nil _ _)]
      refine coherent.setPhase (others _ m) (lasting_storeHistory coherent _ _ m) (.one reply ?_)
      rw [HistoryCalls.messagesOf_storeHistory_eq]
      exact whole.append_user keeps isUser
  | one reply half =>
      refine coherent.setPhase (fun _ _ => rfl) coherent.lasting ?_
      rw [memory_getHistory_eq]
      exact .readReply _ rfl half
  | readReply m isReply half =>
      dsimp only
      rw [if_pos rfl]
      refine coherent.finish (others _ m) (lasting_storeHistory coherent _ _ m) ?_
      rw [HistoryCalls.messagesOf_storeHistory_eq]
      exact half.append_reply keeps isReply

/-- The cleanup keeps the histories. -/
theorem messagesOf_cleanExpired (coherent : Coherent json s) (now : Int) (userID : Int) :
    (s.memory.cleanExpired now).store.lookup (historyKey userID) =
      s.memory.store.lookup (historyKey userID) := by
  rw [MemoryCache.cleanExpired, GoMap.lookup_keepIf]
  cases found : s.memory.store.lookup (historyKey userID) with
  | none => rfl
  | some entry =>
      rw [Option.filter_some, MemEntry.expired, coherent.lasting userID entry found]
      rfl

theorem Coherent.cleanExpired (coherent : Coherent json s) (now : Int) :
    Coherent json { s with memory := s.memory.cleanExpired now } := by
  have kept := messagesOf_cleanExpired coherent now
  have same : ∀ userID, messagesOf json userID (s.memory.cleanExpired now) =
      messagesOf json userID s.memory := by
    intro userID
    rw [messagesOf, messagesOf, kept]
  refine ⟨coherent.keyed, ?_, ?_, ?_⟩
  · intro userID isIdle
    dsimp only
    rw [same]
    exact coherent.idle userID isIdle
  · intro userID chat found
    dsimp only
    rw [same]
    exact coherent.progress userID chat found
  · intro userID entry found
    exact coherent.lasting userID entry ((kept userID).symm.trans found)

theorem Coherent.step (coherent : Coherent json s) (keeps : json.KeepsRoles)
    (p : OpenAIProvider MemoryCache) (label : ChatStep) : Coherent json (s.step json p label) := by
  obtain ⟨event, now⟩ := label
  unfold Conversations.step
  cases event with
  | start req => exact coherent.start p req now
  | respond userID outcome =>
      dsimp only
      split
      · rename_i req request found
        obtain rfl := coherent.keyed _ _ found
        cases coherent.progress _ _ found with
        | asked request whole => exact coherent.respond p outcome whole
      · exact coherent
  | proceed userID =>
      dsimp only
      split
      · rename_i chat found
        obtain rfl := coherent.keyed _ _ found
        exact coherent.proceed keeps now (coherent.progress _ _ found)
      · exact coherent
  | cleanExpired => exact coherent.cleanExpired now

theorem coherent_run (keeps : json.KeepsRoles) (p : OpenAIProvider MemoryCache)
    (steps : List ChatStep) : Coherent json (run (Conversations.step json p) new steps) :=
  run_keeps (Coherent json) (fun _ label coherent => coherent.step keeps p label)
    (coherent_new json)

/-! ### One chat by itself -/

@[simp] theorem lookup_setPhase (chat : RunningChat) (phase : ChatPhase) (s : Conversations) :
    (s.setPhase chat phase).running.lookup chat.req.userID = some { chat with phase } :=
  AList.lookup_insert _

@[simp] theorem lookup_finish (chat : RunningChat) (s : Conversations) :
    (s.finish chat).running.lookup chat.req.userID = none :=
  AList.lookup_erase _ _

theorem step_respond {req : ChatRequest} {request : LlmRequest}
    (found : s.running.lookup userID = some ⟨req, .asked request⟩) (outcome : LlmOutcome)
    (now : Int) :
    s.step json p ⟨.respond userID outcome, now⟩ = s.respond p ⟨req, .asked request⟩ outcome := by
  simp only [Conversations.step, found]

theorem step_proceed {chat : RunningChat} (found : s.running.lookup userID = some chat)
    (now : Int) : s.step json p ⟨.proceed userID, now⟩ = s.proceed json chat now := by
  simp only [Conversations.step, found]

/-- A user without a chat takes no section but the first. -/
theorem step_idle (isIdle : s.running.lookup userID = none) (outcome : LlmOutcome) (now : Int) :
    s.step json p ⟨.respond userID outcome, now⟩ = s ∧
      s.step json p ⟨.proceed userID, now⟩ = s := by
  simp only [Conversations.step, isIdle, and_self]

/-- The four sections of the two calls of `AppendHistory`. -/
def appendSteps (userID : Int) (clock : ChatClock) : List ChatStep :=
  [⟨.proceed userID, clock.userAt⟩, ⟨.proceed userID, clock.userAt⟩,
    ⟨.proceed userID, clock.replyAt⟩, ⟨.proceed userID, clock.replyAt⟩]

theorem run_append_idle (isIdle : s.running.lookup userID = none) (clock : ChatClock) :
    run (Conversations.step json p) s (appendSteps userID clock) = s := by
  have still : ∀ now, s.step json p ⟨.proceed userID, now⟩ = s := fun now =>
    (step_idle isIdle (.transport []) now).2
  simp only [appendSteps, run_cons, run_nil, still]

/-- Sections that no other chat comes between are the two calls. -/
theorem run_append {req : ChatRequest} {reply : Bytes} {chat : RunningChat} (own : chat.req = req)
    (clock : ChatClock) :
    let done := run (Conversations.step json p)
      (s.setPhase chat (.appending (OpenAIProvider.turn req reply)))
      (appendSteps req.userID clock)
    done.memory = OpenAIProvider.remember (MemoryCache.cache json) req reply clock s.memory ∧
      done.running.lookup req.userID = none := by
  subst own
  have first := lookup_setPhase chat (.appending (OpenAIProvider.turn chat.req reply)) s
  simp only [appendSteps, run_cons, run_nil]
  rw [step_proceed first]
  simp only [Conversations.proceed, OpenAIProvider.turn]
  rw [step_proceed (lookup_setPhase _ _ _)]
  simp only [Conversations.proceed, reduceCtorEq, if_false]
  rw [step_proceed (lookup_setPhase _ _ _)]
  simp only [Conversations.proceed]
  rw [step_proceed (lookup_setPhase _ _ _)]
  simp only [Conversations.proceed, if_true]
  exact ⟨rfl, lookup_finish _ _⟩

end Steps

/-- The cache of a chat whose skill keeps a history is the one of the provider. -/
theorem historyCache_provider (json : MessageJson) (apiKey baseURL model : Bytes)
    (req : ChatRequest) :
    (provider json apiKey baseURL model).historyCache req =
      if withHistory (normalizeSkill req.skill) then some (MemoryCache.cache json) else none := rfl

theorem shown_provider (json : MessageJson) (apiKey baseURL model : Bytes) (req : ChatRequest)
    (now : Int) (m : MemoryCache) :
    (provider json apiKey baseURL model).shown req now m =
      (if withHistory (normalizeSkill req.skill) then
          lastOf contextMessages (messagesOf json req.userID m)
        else [], m) := by
  rw [OpenAIProvider.shown, historyCache_provider, ← memory_getHistory_eq]
  cases withHistory (normalizeSkill req.skill) <;> rfl

/-- The steps of a chat that no other one comes between. -/
def chatSteps (req : ChatRequest) (outcome : LlmOutcome) (clock : ChatClock) : List ChatStep :=
  ⟨.start req, clock.readAt⟩ :: ⟨.respond req.userID outcome, clock.readAt⟩ ::
    appendSteps req.userID clock

/-- A chat by itself is `Chat`. -/
theorem chat_eq_run (json : MessageJson) (apiKey baseURL model : Bytes) {s : Conversations}
    {req : ChatRequest} (isIdle : s.running.lookup req.userID = none) (outcome : LlmOutcome)
    (clock : ChatClock) :
    let p := provider json apiKey baseURL model
    let done := run (step json p) s (chatSteps req outcome clock)
    done.memory = (p.chat req outcome clock s.memory).state ∧
      done.running.lookup req.userID = none := by
  intro p
  simp only [chatSteps, run_cons]
  by_cases noKey : p.apiKey = []
  · have notStarted : s.step json p ⟨.start req, clock.readAt⟩ = s := if_pos noKey
    rw [notStarted, (step_idle isIdle outcome clock.readAt).1, run_append_idle isIdle,
      OpenAIProvider.chat, if_pos noKey]
    exact ⟨rfl, isIdle⟩
  · have started : s.step json p ⟨.start req, clock.readAt⟩ = s.start p req clock.readAt := rfl
    rw [started, start, if_neg noKey, isIdle]
    dsimp only
    rw [step_respond (lookup_setPhase _ _ s), respond, OpenAIProvider.chat_state noKey]
    have ended : ∀ (phase : ChatPhase) (after : Conversations),
        (after.finish ⟨req, phase⟩).running.lookup req.userID = none := fun phase after =>
      lookup_finish ⟨req, phase⟩ after
    have unread : (p.shown req clock.readAt s.memory).2 = s.memory := by
      rw [shown_provider]
    cases p.reply outcome with
    | error message =>
        dsimp only
        rw [run_append_idle (ended _ _), unread]
        exact ⟨rfl, ended _ _⟩
    | ok response =>
        rw [unread, historyCache_provider]
        cases withHistory (normalizeSkill req.skill) with
        | false =>
            rw [if_neg Bool.false_ne_true]
            dsimp only
            rw [run_append_idle (ended _ _)]
            exact ⟨rfl, ended _ _⟩
        | true =>
            rw [if_pos rfl]
            exact run_append rfl clock

/-! ### Every run -/

/-- A chat that starts touches no history. -/
theorem start_memory (p : OpenAIProvider MemoryCache) (req : ChatRequest) (now : Int)
    (s : Conversations) : (s.start p req now).memory = s.memory := by
  unfold start
  split
  · rfl
  · split <;> rfl

/-- A request with history shows the system prompt, the last ten messages and the
new one. -/
theorem start_shows (json : MessageJson) {apiKey : Bytes} (hasKey : apiKey ≠ [])
    (baseURL model : Bytes) {s : Conversations} {req : ChatRequest}
    (isIdle : s.running.lookup req.userID = none)
    (isChat : normalizeSkill req.skill = skillChat ∨ normalizeSkill req.skill = skillSocialAction)
    (now : Int) :
    ∃ request, (s.start (provider json apiKey baseURL model) req now).running.lookup req.userID =
        some ⟨req, .asked request⟩ ∧
      request.body.messages = ⟨roleSystem, systemPrompt req.skill⟩ ::
        (lastOf 10 (messagesOf json req.userID s.memory)).map (fun m => ⟨m.role, m.content⟩) ++
          [⟨roleUser, req.content⟩] := by
  have shown := shown_provider json apiKey baseURL model req now s.memory
  rw [withHistory_of_chat isChat, if_pos rfl] at shown
  generalize isProvider : provider json apiKey baseURL model = p at shown ⊢
  have key : p.apiKey ≠ [] := isProvider ▸ hasKey
  refine ⟨p.request req (p.shown req now s.memory).1, ?_, ?_⟩
  · rw [start, if_neg key, isIdle]
    exact lookup_setPhase _ _ s
  · rw [shown]
    show OpenAIProvider.messages req _ = _
    rw [OpenAIProvider.messages, buildUserContent_of_chat isChat, systemPrompt_normalizeSkill]
    rfl

/-- A chat that fails or keeps no history ends with its answer. -/
theorem respond_unkept (json : MessageJson) (apiKey baseURL model : Bytes) {chat : RunningChat}
    {outcome : LlmOutcome}
    (unkept : ((provider json apiKey baseURL model).reply outcome).toOption = none ∨
      chat.req.skill ∈ [skillSummarize, skillSuggestReply, skillRagQa]) (s : Conversations) :
    s.respond (provider json apiKey baseURL model) chat outcome = s.finish chat := by
  rw [respond]
  rcases unkept with failed | oneShot
  · cases isReply : (provider json apiKey baseURL model).reply outcome with
    | error message => rfl
    | ok response =>
        rw [isReply] at failed
        cases failed
  · rw [historyCache_provider, withHistory_oneShot oneShot]
    cases (provider json apiKey baseURL model).reply outcome <;> rfl

/-- In every run the history of a user is a conversation, but between the two
messages of a chat. A request with history shows the end of it from a user on. A
chat that fails or keeps no history leaves the cache as it is. -/
theorem conversations_well_formed {json : MessageJson} (keeps : json.KeepsRoles)
    (apiKey baseURL model : Bytes) (steps : List ChatStep) :
    let p := provider json apiKey baseURL model
    let s := run (step json p) new steps
    (∀ userID, (∀ chat, s.running.lookup userID = some chat → chat.halfStored = false) →
        IsConversation (messagesOf json userID s.memory)) ∧
      (∀ req now, s.running.lookup req.userID = none → apiKey ≠ [] →
        (normalizeSkill req.skill = skillChat ∨ normalizeSkill req.skill = skillSocialAction) →
        let history := messagesOf json req.userID s.memory
        let window := lastOf (min 10 history.length) history
        ∃ request, (s.step json p ⟨.start req, now⟩).running.lookup req.userID =
            some ⟨req, .asked request⟩ ∧
          request.body.messages = ⟨roleSystem, systemPrompt req.skill⟩ ::
            window.map (fun m => ⟨m.role, m.content⟩) ++ [⟨roleUser, req.content⟩] ∧
          ∀ m ∈ window.head?, m.role = roleUser) ∧
      (∀ req now, (s.step json p ⟨.start req, now⟩).memory = s.memory) ∧
      (∀ userID req request outcome now,
        s.running.lookup userID = some ⟨req, .asked request⟩ →
        ((p.reply outcome).toOption = none ∨
          req.skill ∈ [skillSummarize, skillSuggestReply, skillRagQa]) →
        s.step json p ⟨.respond userID outcome, now⟩ =
          { s with running := s.running.erase userID }) := by
  intro p s
  have coherent : Coherent json s := coherent_run keeps p steps
  refine ⟨?_, ?_, ?_, ?_⟩
  · intro userID notHalf
    cases running : s.running.lookup userID with
    | none => exact (coherent.idle userID running).isConversation
    | some chat =>
        have progress := coherent.progress userID chat running
        exact (progress.whole (notHalf chat running)).isConversation
  · intro req now isIdle hasKey isChat
    obtain ⟨request, asked, isRequest⟩ := start_shows json hasKey baseURL model isIdle isChat now
    refine ⟨request, asked, ?_, ?_⟩
    · rw [isRequest, lastOf_min_length]
    · rw [lastOf_min_length]
      exact (coherent.idle req.userID isIdle).window_user
  · intro req now
    exact start_memory p req now s
  · intro userID req request outcome now found unkept
    obtain rfl := coherent.keyed _ _ found
    rw [step_respond found]
    exact respond_unkept json apiKey baseURL model unkept s

/-! ### One chat -/

namespace Sample

def hiText : Bytes := str "\x7b\"role\":\"user\",\"content\":\"hi\",\"time\":0\x7d"

def yoText : Bytes := str "\x7b\"role\":\"assistant\",\"content\":\"yo\",\"time\":0\x7d"

def messageText (m : Message) : Bytes :=
  if m.role = roleUser then hiText else yoText

def messageTexts : List Message → Bytes
  | [] => []
  | [m] => messageText m
  | m :: next :: rest => messageText m ++ 44 :: messageTexts (next :: rest)

/-- The message a byte tells of: there is a `u` in the one text and a `y` in the
other. -/
def messageAt (c : UInt8) : Option Message :=
  if c = 117 then some ⟨roleUser, str "hi", 0⟩
  else if c = 121 then some ⟨roleAssistant, str "yo", 0⟩
  else none

/-- The JSON of one message of a user and one reply; every other message is taken
for one of them. -/
def json : MessageJson where
  marshalMessage := messageText
  unmarshalMessage text := (text.filterMap messageAt).head?
  marshalList msgs := 91 :: messageTexts msgs ++ [93]
  unmarshalList text := text.filterMap messageAt

theorem roles_messageText {m : Message} (known : m.role = roleUser ∨ m.role = roleAssistant) :
    ((messageText m).filterMap messageAt).map Message.role = [m.role] := by
  rcases known with isUser | isReply
  · rw [messageText, if_pos isUser, isUser]
    decide +kernel
  · rw [messageText, if_neg (by rw [isReply]; decide +kernel), isReply]
    decide +kernel

theorem keepsRoles : json.KeepsRoles := by
  intro msgs known
  have brackets : ((91 :: messageTexts msgs ++ [93]).filterMap messageAt) =
      (messageTexts msgs).filterMap messageAt := by
    rw [List.cons_append, List.filterMap_cons_none (by decide), List.filterMap_append]
    exact List.append_nil _
  show ((91 :: messageTexts msgs ++ [93]).filterMap messageAt).map Message.role = _
  rw [brackets]
  clear brackets
  induction msgs with
  | nil => rfl
  | cons m rest inductionHypothesis =>
      have knownRest := fun other member => known other (List.mem_cons_of_mem m member)
      cases rest with
      | nil => exact roles_messageText (known m List.mem_cons_self)
      | cons next rest =>
          rw [messageTexts, List.filterMap_append, List.map_append,
            roles_messageText (known m List.mem_cons_self),
            List.filterMap_cons_none (by decide), inductionHypothesis knownRest]
          rfl

def hi : ChatRequest := ⟨7, 0, str "hi", 1, [], [], []⟩

def answered : LlmOutcome :=
  .response 200 [] (some ⟨str "m", [⟨roleAssistant, str "yo"⟩], none⟩)

def clock : ChatClock := ⟨0, 0, 0, le_rfl, le_rfl⟩

end Sample

theorem conversations_well_formed_hi :
    IsConversation (messagesOf Sample.json 7
      (run (step Sample.json (provider Sample.json (str "key") (str "url") (str "m"))) new
        (chatSteps Sample.hi Sample.answered Sample.clock)).memory) := by
  have ended := (chat_eq_run Sample.json (str "key") (str "url") (str "m")
    (show new.running.lookup Sample.hi.userID = none from rfl) Sample.answered Sample.clock).2
  have formed := conversations_well_formed Sample.keepsRoles (str "key") (str "url") (str "m")
    (chatSteps Sample.hi Sample.answered Sample.clock)
  apply formed.1 7
  intro chat running
  cases running.symm.trans ended

end Conversations

end AimServer
