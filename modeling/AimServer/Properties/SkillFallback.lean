import AimServer.Properties.Conversations

/-!
Contract: what a skill falls back to that is not registered.

Owns: the comparison of a chat with the same chat under `SkillChat`, when the two
send the same messages and leave the same history over either cache, and a skill
for which they do not.

The prompts of an unregistered skill are those of plain chat. The history is
decided by the name of the skill, which is neither `SkillChat` nor
`SkillSocialAction`, so such a chat neither shows nor keeps one.
-/

namespace AimServer

open AimServer.Lib AimServer.Backends

/-- `encoding/json` reads back a message of a chat. -/
def MessageJson.ReadsMessages (json : MessageJson) : Prop :=
  ∀ m : Message, m.role = roleUser ∨ m.role = roleAssistant →
    json.unmarshalMessage (json.marshalMessage m) ≠ none

namespace OpenAIProvider

variable {σ : Type}

/-- The messages a call of `GetHistory` returns. -/
def historyOf (cache : Cache σ) (userID : Int) (limit : Nat) (now : Int) (s : σ) : List Message :=
  (cache.getHistory userID limit now s).1.toOption.getD []

/-- Every call of `GetHistory` returns the same in two states. -/
def SameHistory (cache : Cache σ) (s next : σ) : Prop :=
  ∀ userID limit now, historyOf cache userID limit now s = historyOf cache userID limit now next

/-- The chat is the chat under `SkillChat`. -/
structure FallsBack (p : OpenAIProvider σ) (req : ChatRequest) (outcome : LlmOutcome)
    (clock : ChatClock) (s : σ) : Prop where
  messages : (p.chat req outcome clock s).sent.map (fun request => request.body.messages) =
    (p.chat { req with skill := skillChat } outcome clock s).sent.map
      fun request => request.body.messages
  history : ∀ cache ∈ p.cache, SameHistory cache (p.chat req outcome clock s).state
    (p.chat { req with skill := skillChat } outcome clock s).state

section Comparison

variable {p : OpenAIProvider σ} {req : ChatRequest} {outcome : LlmOutcome} {clock : ChatClock}
  {s : σ}

theorem FallsBack.of_eq (same : p.chat req outcome clock s =
    p.chat { req with skill := skillChat } outcome clock s) : p.FallsBack req outcome clock s := by
  constructor
  · rw [same]
  · intro cache _
    rw [same]
    exact fun _ _ _ => rfl

theorem fallsBack_of_noKey (noKey : p.apiKey = []) : p.FallsBack req outcome clock s := by
  apply FallsBack.of_eq
  rw [chat, if_pos noKey, chat, if_pos noKey]

theorem messages_of_unknown (unknown : skillRegistry req.skill = none) (history : List Message) :
    messages req history = messages { req with skill := skillChat } history := by
  rw [messages, messages, buildUserContent_of_unknown unknown, systemPrompt_normalizeSkill,
    systemPrompt_normalizeSkill, systemPrompt_of_unknown unknown]

/-- An empty skill is `SkillChat`. -/
theorem fallsBack_of_empty (empty : req.skill = []) : p.FallsBack req outcome clock s := by
  have sameSkill : normalizeSkill req.skill = normalizeSkill skillChat := by
    rw [empty]
    decide +kernel
  have unknown : skillRegistry req.skill = none := by
    rw [empty]
    decide +kernel
  have sameCache : p.historyCache req = p.historyCache { req with skill := skillChat } := by
    rw [historyCache, sameSkill]
    rfl
  have sameRequest : ∀ history,
      p.request req history = p.request { req with skill := skillChat } history := by
    intro history
    rw [request, request, sameSkill, messages_of_unknown unknown]
  apply FallsBack.of_eq
  unfold chat shown
  rw [sameCache]
  simp only [sameRequest]
  rfl

section Named

variable (named : req.skill ≠ []) (unknown : skillRegistry req.skill = none)

include named unknown

theorem historyCache_of_unknown : p.historyCache req = none := by
  have other := ne_of_unknown unknown
  have without : withHistory (normalizeSkill req.skill) = false := by
    rw [normalizeSkill_of_ne named, withHistory, decide_eq_false_iff_not]
    rintro (isChat | isSocial)
    · exact other.1 isChat
    · exact other.2 isSocial
  rw [historyCache, without, if_neg Bool.false_ne_true]

/-- The state after the chat, which shows and keeps no history. -/
theorem chat_state_of_unknown : (p.chat req outcome clock s).state = s := by
  by_cases noKey : p.apiKey = []
  · rw [chat, if_pos noKey]
  · have nothing : (p.shown req clock.readAt s).2 = s := by
      rw [shown, historyCache_of_unknown named unknown]
    rw [chat_state noKey, historyCache_of_unknown named unknown, nothing]
    cases p.reply outcome <;> rfl

end Named

theorem historyCache_chat (p : OpenAIProvider σ) (req : ChatRequest) :
    p.historyCache { req with skill := skillChat } = p.cache := by
  rw [historyCache, normalizeSkill_chat, withHistory_of_chat (Or.inl rfl), if_pos rfl]

/-- Without a cache there is no history to tell them apart. -/
theorem fallsBack_of_noCache (unknown : skillRegistry req.skill = none) (noCache : p.cache = none) :
    p.FallsBack req outcome clock s := by
  by_cases noKey : p.apiKey = []
  · exact fallsBack_of_noKey noKey
  have without : ∀ other, p.historyCache other = none := by
    intro other
    rw [historyCache, noCache]
    split <;> rfl
  constructor
  · cases notBuilt : outcome.isNotBuilt with
    | true => rw [chat_notBuilt noKey _ _ _ notBuilt, chat_notBuilt noKey _ _ _ notBuilt]
    | false =>
        rw [chat_sent noKey _ _ _ notBuilt, chat_sent noKey _ _ _ notBuilt, shown, shown, without,
          without]
        exact congrArg some (messages_of_unknown unknown [])
  · intro cache isCache
    rw [noCache] at isCache
    cases isCache

theorem readHistory_eq (cache : Cache σ) (req : ChatRequest) (now : Int) (s : σ) :
    readHistory cache req now s =
      (historyOf cache req.userID contextMessages now s,
        (cache.getHistory req.userID contextMessages now s).2) := by
  unfold readHistory historyOf
  split
  · rename_i isOk
    rw [isOk]
    rfl
  · rename_i isError
    rw [isError]
    rfl

section Unseen

variable {cache : Cache σ} (isCache : p.cache = some cache)
  (still : ∀ userID limit now s, (cache.getHistory userID limit now s).2 = s)
  (named : req.skill ≠ []) (unknown : skillRegistry req.skill = none)

include isCache still in
/-- Plain chat is shown the history. -/
theorem shown_chat : p.shown { req with skill := skillChat } clock.readAt s =
    (historyOf cache req.userID contextMessages clock.readAt s, s) := by
  rw [shown, historyCache_chat, isCache]
  dsimp only
  rw [readHistory_eq, still]

include named unknown in
theorem shown_of_unknown : p.shown req clock.readAt s = ([], s) := by
  rw [shown, historyCache_of_unknown named unknown]

variable (hasKey : p.apiKey ≠ [])

include isCache still hasKey named unknown

/-- The requests have the same messages exactly where there is no history to show. -/
theorem sameMessages_iff (built : outcome.isNotBuilt = false) :
    ((p.chat req outcome clock s).sent.map (fun request => request.body.messages) =
        (p.chat { req with skill := skillChat } outcome clock s).sent.map
          fun request => request.body.messages) ↔
      historyOf cache req.userID contextMessages clock.readAt s = [] := by
  rw [chat_sent hasKey _ _ _ built, chat_sent hasKey _ _ _ built, shown_of_unknown named unknown,
    shown_chat isCache still, Option.map_some, Option.map_some, Option.some.injEq]
  show messages req [] = messages _ _ ↔ _
  rw [messages_of_unknown unknown]
  constructor
  · intro same
    have lengths := congrArg List.length same
    simp only [messages, List.length_append, List.length_cons, List.length_map,
      List.length_nil] at lengths
    exact List.eq_nil_of_length_eq_zero (by omega)
  · intro empty
    rw [empty]

/-- The histories are the same afterwards exactly where storing an answer leaves them. -/
theorem sameHistory_iff :
    (∀ other ∈ p.cache, SameHistory other (p.chat req outcome clock s).state
        (p.chat { req with skill := skillChat } outcome clock s).state) ↔
      ∀ response, p.reply outcome = .ok response →
        SameHistory cache s (remember cache req response.reply clock s) := by
  rw [isCache, chat_state_of_unknown named unknown, chat_state hasKey, historyCache_chat, isCache,
    shown_chat isCache still]
  simp only [Option.mem_def, Option.some.injEq, forall_eq']
  cases p.reply outcome with
  | error message =>
      refine iff_of_true (fun _ _ _ => rfl) ?_
      intro response isOk
      cases isOk
  | ok response =>
      simp only [Except.ok.injEq, forall_eq']
      rfl

/-- A request that is built tells the history, and an answer is kept. -/
theorem fallsBack_iff_unseen :
    p.FallsBack req outcome clock s ↔
      outcome.isNotBuilt = true ∨
        (historyOf cache req.userID contextMessages clock.readAt s = [] ∧
          ∀ response, p.reply outcome = .ok response →
            SameHistory cache s (remember cache req response.reply clock s)) := by
  cases notBuilt : outcome.isNotBuilt with
  | true =>
      refine iff_of_true ⟨?_, ?_⟩ (Or.inl rfl)
      · rw [chat_notBuilt hasKey _ _ _ notBuilt, chat_notBuilt hasKey _ _ _ notBuilt]
      · rw [sameHistory_iff isCache still named unknown hasKey]
        intro response isOk
        cases outcome with
        | notBuilt message => cases isOk
        | transport message => cases notBuilt
        | response status raw parsed => cases notBuilt
  | false =>
      constructor
      · intro falls
        exact Or.inr
          ⟨(sameMessages_iff isCache still named unknown hasKey notBuilt).mp falls.messages,
            (sameHistory_iff isCache still named unknown hasKey).mp falls.history⟩
      · rintro (isTrue | ⟨empty, same⟩)
        · cases isTrue
        · exact ⟨(sameMessages_iff isCache still named unknown hasKey notBuilt).mpr empty,
            (sameHistory_iff isCache still named unknown hasKey).mpr same⟩

end Unseen

theorem fallsBack_iff {cache : Cache σ} (isCache : p.cache = some cache)
    (still : ∀ userID limit now s, (cache.getHistory userID limit now s).2 = s)
    (unknown : skillRegistry req.skill = none) :
    p.FallsBack req outcome clock s ↔
      p.apiKey = [] ∨ req.skill = [] ∨ outcome.isNotBuilt = true ∨
        (historyOf cache req.userID contextMessages clock.readAt s = [] ∧
          ∀ response, p.reply outcome = .ok response →
            SameHistory cache s (remember cache req response.reply clock s)) := by
  by_cases noKey : p.apiKey = []
  · exact iff_of_true (fallsBack_of_noKey noKey) (Or.inl noKey)
  by_cases empty : req.skill = []
  · exact iff_of_true (fallsBack_of_empty empty) (Or.inr (Or.inl empty))
  rw [fallsBack_iff_unseen isCache still empty unknown noKey, or_iff_right noKey,
    or_iff_right empty]

/-- What holds of an answer whatever its text. -/
theorem answers_iff {kept : ChatResponse → Prop} {always : Prop}
    (same : ∀ response, kept response ↔ always) :
    (∀ response, p.reply outcome = .ok response → kept response) ↔
      outcome.isAnswer = false ∨ always := by
  rw [← Bool.not_eq_true, p.reply_isAnswer]
  constructor
  · intro all
    by_cases answer : ∃ response, p.reply outcome = .ok response
    · obtain ⟨response, isOk⟩ := answer
      exact Or.inr ((same response).mp (all response isOk))
    · exact Or.inl answer
  · rintro (noAnswer | holds) response isOk
    · exact absurd ⟨response, isOk⟩ noAnswer
    · exact (same response).mpr holds

end Comparison

/-! ### Over either cache -/

section Caches

variable {json : MessageJson} {req : ChatRequest} {reply : Bytes} {clock : ChatClock}

theorem memory_historyOf (userID : Int) (limit : Nat) (now : Int) (m : MemoryCache) :
    historyOf (MemoryCache.cache json) userID limit now m =
      lastOf limit (messagesOf json userID m) :=
  memory_getHistory_eq userID limit m

theorem lastOf_eq_nil_iff {α : Type} {limit : Nat} (positive : 0 < limit) {items : List α} :
    lastOf limit items = [] ↔ items = [] := by
  constructor
  · intro empty
    have short := List.drop_eq_nil_iff.mp empty
    exact List.eq_nil_of_length_eq_zero (by omega)
  · rintro rfl
    exact List.drop_nil

theorem messagesOf_appendHistory (userID : Int) (msg : Message) (maxLen : Nat) (m : MemoryCache) :
    messagesOf json userID (m.appendHistory json userID msg maxLen) =
      json.unmarshalList (json.marshalList
        (lastOf maxLen (lastOf maxLen (messagesOf json userID m) ++ [msg]))) := by
  rw [← MemoryCache.storeHistory_getHistory, HistoryCalls.messagesOf_storeHistory_eq,
    memory_getHistory_eq]

/-- The memory cache shows what was kept. -/
theorem memory_remembers (keeps : json.KeepsRoles) (reply : Bytes) (clock : ChatClock)
    {m : MemoryCache} (empty : messagesOf json req.userID m = []) :
    ¬ SameHistory (MemoryCache.cache json) m
      (remember (MemoryCache.cache json) req reply clock m) := by
  intro same
  have shown := same req.userID contextMessages clock.replyAt
  rw [memory_historyOf, memory_historyOf, empty, lastOf, List.drop_nil, eq_comm,
    lastOf_eq_nil_iff (by decide)] at shown
  have half : Half (messagesOf json req.userID (m.appendHistory json req.userID
      (stamped ⟨roleUser, req.content⟩ clock.userAt) historyMessages)) := by
    rw [messagesOf_appendHistory, empty]
    exact whole_nil.append_user keeps rfl
  have roles := roles_appended keeps half.known
    (m := stamped ⟨roleAssistant, reply⟩ clock.replyAt) (Or.inr rfl)
  rw [← messagesOf_appendHistory] at roles
  have none : (messagesOf json req.userID
      (remember (MemoryCache.cache json) req reply clock m)).map Message.role = [] := by
    rw [shown, List.map_nil]
  exact lastOf_append_ne_nil (by decide) _ _ (roles.symm.trans none)

/-! ### Redis -/

theorem redis_getHistory_text {userID : Int} {now : Int} {db : Redis} {value : Bytes}
    {deadline : Option Int}
    (found : db.find (RedisCache.fullKey (historyKey userID)) now = some ⟨.text value, deadline⟩)
    (limit : Nat) : historyOf (RedisCache.cache json) userID limit now db = [] := by
  show (RedisCache.getHistory json userID limit now db).toOption.getD [] = []
  rw [RedisCache.getHistory, Redis.lrange, found]
  rfl

/-- The messages Redis shows are those of the list, or none. -/
theorem redis_historyOf {limit : Nat} (positive : 0 < limit) (userID : Int) (now : Int)
    (db : Redis) :
    historyOf (RedisCache.cache json) userID limit now db =
      (lastOf limit (RedisCache.listOf (RedisCache.fullKey (historyKey userID)) now db)).filterMap
        json.unmarshalMessage := by
  by_cases isText : ∃ value deadline,
      db.find (RedisCache.fullKey (historyKey userID)) now = some ⟨.text value, deadline⟩
  · obtain ⟨value, deadline, found⟩ := isText
    have noList : RedisCache.listOf (RedisCache.fullKey (historyKey userID)) now db = [] := by
      rw [RedisCache.listOf, found]
    rw [noList, lastOf, List.drop_nil, redis_getHistory_text found]
    rfl
  · show (RedisCache.getHistory json userID limit now db).toOption.getD [] = _
    rw [RedisCache.getHistory_eq json positive fun value deadline found =>
      isText ⟨value, deadline, found⟩]
    rfl

/-- A list that is there later was there before. -/
theorem redis_historyOf_mono {userID earlier later : Int} {limit : Nat} (positive : 0 < limit)
    (first : earlier ≤ later) {db : Redis}
    (empty : historyOf (RedisCache.cache json) userID limit earlier db = []) :
    historyOf (RedisCache.cache json) userID limit later db = [] := by
  cases found : db.find (RedisCache.fullKey (historyKey userID)) later with
  | none =>
      rw [redis_historyOf positive, RedisCache.listOf, found, lastOf, List.drop_nil]
      rfl
  | some entry =>
      obtain ⟨isEntry, alive⟩ := Redis.find_eq_some_iff.mp found
      have aliveBefore : entry.alive earlier = true := by
        unfold RedisEntry.alive at alive ⊢
        cases isDeadline : entry.deadline with
        | none => rfl
        | some deadline =>
            rw [isDeadline] at alive
            exact decide_eq_true (lt_of_le_of_lt first (of_decide_eq_true alive))
      have foundBefore := Redis.find_eq_some_iff.mpr ⟨isEntry, aliveBefore⟩
      rw [redis_historyOf positive, RedisCache.listOf, foundBefore] at empty
      rw [redis_historyOf positive, RedisCache.listOf, found]
      exact empty

/-- The key holds something else than a list. -/
def HoldsText (userID now : Int) (db : Redis) : Prop :=
  ∃ value deadline,
    db.find (RedisCache.fullKey (historyKey userID)) now = some ⟨.text value, deadline⟩

theorem lastOf_append_singleton {α : Type} {limit : Nat} (positive : 0 < limit) (items : List α)
    (last : α) : lastOf limit (items ++ [last]) = lastOf (limit - 1) items ++ [last] := by
  unfold lastOf
  rw [List.length_append, List.length_singleton, List.drop_append_of_le_length (by omega)]
  congr 2
  omega

/-- Where the key holds no text, the message that was appended is shown. -/
theorem redis_shows (reads : json.ReadsMessages) {userID now : Int} {db : Redis}
    (noText : ¬ HoldsText userID now db) {m : Message}
    (known : m.role = roleUser ∨ m.role = roleAssistant) :
    historyOf (RedisCache.cache json) userID contextMessages now
      (RedisCache.appendHistory json userID m historyMessages now db).2 ≠ [] := by
  obtain ⟨-, stored⟩ := RedisCache.appendHistory_eq json m
    (show 0 < historyMessages by decide) fun value deadline found => noText ⟨value, deadline, found⟩
  have isEntry := stored (RedisCache.fullKey (historyKey userID))
  rw [if_pos rfl] at isEntry
  have positive : (0 : Int) < RedisCache.historyTTL := by decide
  have found := Redis.find_eq_some_iff.mpr
    ⟨isEntry, decide_eq_true (show now < now + RedisCache.historyTTL by omega)⟩
  rw [redis_historyOf (by decide), RedisCache.listOf, found]
  dsimp only
  rw [lastOf_append_singleton (by decide), lastOf_append_singleton (by decide),
    List.filterMap_append]
  intro empty
  have unread := (List.append_eq_nil_iff.mp empty).2
  rw [List.filterMap_cons, List.filterMap_nil] at unread
  cases isRead : json.unmarshalMessage (json.marshalMessage m) with
  | none => exact reads m known isRead
  | some read =>
      rw [isRead] at unread
      cases unread

/-- On a text the commands of `AppendHistory` set a deadline and do no more. -/
theorem redis_append_text (json : MessageJson) {userID now : Int} {db : Redis} {value : Bytes}
    {deadline : Option Int}
    (found : db.find (RedisCache.fullKey (historyKey userID)) now = some ⟨.text value, deadline⟩)
    (m : Message) :
    (RedisCache.appendHistory json userID m historyMessages now db).2 =
      db.put (RedisCache.fullKey (historyKey userID))
        ⟨.text value, some (now + RedisCache.historyTTL)⟩ := by
  unfold RedisCache.appendHistory Redis.rpush
  simp only [found, Redis.ltrim, Redis.expire]

/-- Another deadline of a text is not seen in a history. -/
theorem redis_sameHistory_put (json : MessageJson) {userID : Int} {db : Redis} {value : Bytes}
    {deadline : Option Int} (later : Option Int)
    (isEntry : db.keys.lookup (RedisCache.fullKey (historyKey userID)) =
      some ⟨.text value, deadline⟩) :
    SameHistory (RedisCache.cache json) db
      (db.put (RedisCache.fullKey (historyKey userID)) ⟨.text value, later⟩) := by
  have textOnly : ∀ {db : Redis} {deadline : Option Int},
      db.keys.lookup (RedisCache.fullKey (historyKey userID)) = some ⟨.text value, deadline⟩ →
      ∀ limit now, historyOf (RedisCache.cache json) userID limit now db = [] := by
    intro db deadline isEntry limit now
    by_cases alive : (⟨.text value, deadline⟩ : RedisEntry).alive now = true
    · exact redis_getHistory_text (Redis.find_eq_some_iff.mpr ⟨isEntry, alive⟩) limit
    · have gone : db.find (RedisCache.fullKey (historyKey userID)) now = none := by
        rw [Redis.find, isEntry, Option.filter_some, if_neg alive]
      show (RedisCache.getHistory json userID limit now db).toOption.getD [] = []
      rw [RedisCache.getHistory, Redis.lrange, gone]
      rfl
  intro other limit now
  by_cases own : other = userID
  · rw [own, textOnly isEntry limit now, textOnly (by rw [Redis.lookup_put, if_pos rfl]) limit now]
  · have different : RedisCache.fullKey (historyKey other) ≠
        RedisCache.fullKey (historyKey userID) := fun same =>
      own (HistoryCalls.historyKey_injective (RedisCache.fullKey_injective same))
    have sameKey : (db.put (RedisCache.fullKey (historyKey userID)) ⟨.text value, later⟩).find
        (RedisCache.fullKey (historyKey other)) now =
          db.find (RedisCache.fullKey (historyKey other)) now := by
      rw [Redis.find, Redis.lookup_put, if_neg different, Redis.find]
    show (RedisCache.getHistory json other limit now db).toOption.getD [] =
      (RedisCache.getHistory json other limit now _).toOption.getD []
    rw [RedisCache.getHistory, Redis.lrange, RedisCache.getHistory, Redis.lrange, sameKey]

/-- Redis keeps nothing of a chat exactly where the key holds a text until the
reply. -/
theorem redis_sameHistory_iff (reads : json.ReadsMessages) (reply : Bytes) {db : Redis}
    (empty : historyOf (RedisCache.cache json) req.userID contextMessages clock.readAt db = []) :
    SameHistory (RedisCache.cache json) db
        (remember (RedisCache.cache json) req reply clock db) ↔
      HoldsText req.userID clock.userAt db ∧
        clock.replyAt < clock.userAt + RedisCache.historyTTL := by
  obtain ⟨between, isBetween⟩ : ∃ between, between = (RedisCache.appendHistory json req.userID
      (stamped ⟨roleUser, req.content⟩ clock.userAt) historyMessages clock.userAt db).2 :=
    ⟨_, rfl⟩
  have isRemember : remember (RedisCache.cache json) req reply clock db =
      (RedisCache.appendHistory json req.userID (stamped ⟨roleAssistant, reply⟩ clock.replyAt)
        historyMessages clock.replyAt between).2 := by
    rw [isBetween]
    rfl
  rw [isRemember]
  constructor
  · intro same
    by_contra notHeld
    have noText : ¬ HoldsText req.userID clock.replyAt between := by
      rintro ⟨value, deadline, found⟩
      obtain ⟨isEntry, alive⟩ := Redis.find_eq_some_iff.mp found
      rw [isBetween] at isEntry
      by_cases held : HoldsText req.userID clock.userAt db
      · obtain ⟨old, oldDeadline, isText⟩ := held
        rw [redis_append_text json isText, Redis.lookup_put, if_pos rfl] at isEntry
        have isDeadline : deadline = some (clock.userAt + RedisCache.historyTTL) := by
          cases isEntry
          rfl
        subst isDeadline
        exact notHeld ⟨⟨old, oldDeadline, isText⟩, of_decide_eq_true alive⟩
      · obtain ⟨-, stored⟩ := RedisCache.appendHistory_eq json
          (stamped ⟨roleUser, req.content⟩ clock.userAt) (show 0 < historyMessages by decide)
          fun value deadline found => held ⟨value, deadline, found⟩
        rw [stored, if_pos rfl] at isEntry
        cases isEntry
    apply redis_shows reads noText
      (m := stamped ⟨roleAssistant, reply⟩ clock.replyAt) (Or.inr rfl)
    rw [← same]
    exact redis_historyOf_mono (by decide) (clock.readFirst.trans clock.userFirst) empty
  · rintro ⟨⟨value, deadline, found⟩, soon⟩
    have first := redis_sameHistory_put json
      (some (clock.userAt + RedisCache.historyTTL)) (Redis.find_eq_some_iff.mp found).1
    rw [← redis_append_text json found (stamped ⟨roleUser, req.content⟩ clock.userAt),
      ← isBetween] at first
    have foundBetween : between.find (RedisCache.fullKey (historyKey req.userID)) clock.replyAt =
        some ⟨.text value, some (clock.userAt + RedisCache.historyTTL)⟩ := by
      rw [isBetween, redis_append_text json found]
      exact Redis.find_put_self (decide_eq_true soon)
    have second := redis_sameHistory_put json
      (some (clock.replyAt + RedisCache.historyTTL))
      (Redis.find_eq_some_iff.mp foundBetween).1
    rw [redis_append_text json foundBetween]
    exact fun userID limit now => (first userID limit now).trans (second userID limit now)

end Caches

/-- A chat with an unregistered skill is the plain chat exactly where no request is
sent, the skill is empty, there is no cache, or the user has no history and none is
kept: the chat fails, or Redis holds a text under the key until the reply. -/
theorem unknown_skill_falls_back_iff {json : MessageJson} (keeps : json.KeepsRoles)
    (reads : json.ReadsMessages) (apiKey baseURL model : Bytes) {req : ChatRequest}
    (unknown : skillRegistry req.skill = none) (outcome : LlmOutcome) (clock : ChatClock) :
    (∀ m : MemoryCache, (new apiKey baseURL model (some (MemoryCache.cache json))).FallsBack req
        outcome clock m ↔
      apiKey = [] ∨ req.skill = [] ∨ outcome.isNotBuilt = true ∨
        (messagesOf json req.userID m = [] ∧ outcome.isAnswer = false)) ∧
    (∀ db : Redis, (new apiKey baseURL model (some (RedisCache.cache json))).FallsBack req
        outcome clock db ↔
      apiKey = [] ∨ req.skill = [] ∨ outcome.isNotBuilt = true ∨
        (historyOf (RedisCache.cache json) req.userID contextMessages clock.readAt db = [] ∧
          (outcome.isAnswer = false ∨ (HoldsText req.userID clock.userAt db ∧
            clock.replyAt < clock.userAt + RedisCache.historyTTL)))) ∧
    ∀ s : σ, (new apiKey baseURL model none).FallsBack req outcome clock s := by
  refine ⟨fun m => ?_, fun db => ?_, fun s => fallsBack_of_noCache unknown rfl⟩
  · rw [fallsBack_iff rfl (fun _ _ _ _ => rfl) unknown, memory_historyOf,
      lastOf_eq_nil_iff (by decide)]
    show apiKey = [] ∨ _ ↔ _
    apply or_congr_right
    apply or_congr_right
    apply or_congr_right
    apply and_congr_right
    intro empty
    rw [answers_iff fun response => iff_false_intro (memory_remembers keeps response.reply clock
      empty), or_false]
  · rw [fallsBack_iff rfl (fun _ _ _ _ => rfl) unknown]
    show apiKey = [] ∨ _ ↔ _
    apply or_congr_right
    apply or_congr_right
    apply or_congr_right
    apply and_congr_right
    intro empty
    exact answers_iff fun response => redis_sameHistory_iff reads response.reply empty

/-! ### A skill that is not registered -/

namespace Sample

def translate : ChatRequest := { Conversations.Sample.hi with skill := str "translate" }

def provider : OpenAIProvider MemoryCache :=
  new (str "key") (str "url") (str "m") (some (MemoryCache.cache Conversations.Sample.json))

/-- After one chat. -/
def greeted : MemoryCache :=
  (provider.chat Conversations.Sample.hi Conversations.Sample.answered Conversations.Sample.clock
    MemoryCache.new).state

theorem readsMessages : Conversations.Sample.json.ReadsMessages := by
  intro m known isNone
  have roles := Conversations.Sample.roles_messageText known
  have nothing : (Conversations.Sample.messageText m).filterMap
      Conversations.Sample.messageAt = [] := List.head?_eq_none_iff.mp isNone
  rw [nothing] at roles
  cases roles

end Sample

/-- Before the first chat and without an answer, it is the plain chat. -/
theorem unknown_skill_falls_back_unanswered :
    Sample.provider.FallsBack Sample.translate (.transport []) Conversations.Sample.clock
      MemoryCache.new :=
  ((unknown_skill_falls_back_iff (σ := Unit) Conversations.Sample.keepsRoles Sample.readsMessages
    (str "key") (str "url") (str "m")
    (show skillRegistry Sample.translate.skill = none by decide +kernel) _ _).1 _).mpr
    (Or.inr (Or.inr (Or.inr ⟨rfl, rfl⟩)))

/-- After one chat, the model is not shown it. -/
theorem unknown_skill_shows_no_history :
    ¬ ∀ (p : OpenAIProvider MemoryCache) (req : ChatRequest) (outcome : LlmOutcome)
      (clock : ChatClock) (m : MemoryCache), skillRegistry req.skill = none →
        p.FallsBack req outcome clock m := by
  intro always
  have falls := always Sample.provider Sample.translate Conversations.Sample.answered
    Conversations.Sample.clock Sample.greeted (by decide +kernel)
  exact absurd falls.messages (by decide +kernel)

end OpenAIProvider

end AimServer
