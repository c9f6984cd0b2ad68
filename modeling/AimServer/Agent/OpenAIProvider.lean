import AimServer.Agent.HistorySections
import AimServer.Agent.Skill

/-!
Contract: the provider for services that speak the OpenAI protocol.

Owns: the request a chat is turned into, with the history of its user where the
skill keeps one, what a response of the service means, the two messages a chat
leaves in the history, and the machine in which chats of several users overlap
over one `MemoryCache`.

Does not own: the service and the JSON of its bodies: a request that cannot be
built, a failed transport, and a status with a body are inputs, the body together
with what it decodes to.

The chats of one user do not overlap. In the machine each of them takes its
sections one by one, and any sections of other users may come between them.
-/

namespace AimServer

open AimServer.Lib

structure ChatMessage where
  role : Bytes
  content : Bytes
deriving DecidableEq, Repr

/-- `chatCompletionReq`; `responseFormat` is the type in it. -/
structure ChatCompletionReq where
  model : Bytes
  messages : List ChatMessage
  responseFormat : Option Bytes
deriving DecidableEq, Repr

/-- The HTTP request without its constant parts. -/
structure LlmRequest where
  url : Bytes
  authorization : Bytes
  body : ChatCompletionReq
deriving DecidableEq, Repr

/-- `chatCompletionRsp`: the messages of the choices, and the message of an error. -/
structure ChatCompletionRsp where
  model : Bytes
  choices : List ChatMessage
  error : Option Bytes
deriving DecidableEq, Repr

/-- What comes of a request. -/
inductive LlmOutcome where
  | notBuilt (message : Bytes)
  | transport (message : Bytes)
  | response (status : Int) (raw : Bytes) (parsed : Option ChatCompletionRsp)
deriving DecidableEq, Repr

/-- A status, a decoded body and a first choice that make a reply. -/
def LlmOutcome.isAnswer : LlmOutcome → Bool
  | .response status _ (some ⟨_, _ :: _, none⟩) => status = 200
  | _ => false

def LlmOutcome.isNotBuilt : LlmOutcome → Bool
  | .notBuilt _ => true
  | _ => false

def roleSystem : Bytes := str "system"

def roleUser : Bytes := str "user"

def roleAssistant : Bytes := str "assistant"

/-- Whether a skill, after `NormalizeSkill`, reads and writes the history. -/
def withHistory (skill : Bytes) : Bool :=
  skill = skillChat ∨ skill = skillSocialAction

theorem withHistory_of_chat {skill : Bytes}
    (isChat : skill = skillChat ∨ skill = skillSocialAction) : withHistory skill = true :=
  decide_eq_true isChat

/-- The skills that answer once keep no history. -/
theorem withHistory_oneShot {skill : Bytes}
    (oneShot : skill ∈ [skillSummarize, skillSuggestReply, skillRagQa]) :
    withHistory (normalizeSkill skill) = false := by
  simp only [List.mem_cons, List.not_mem_nil, or_false] at oneShot
  rcases oneShot with rfl | rfl | rfl
  · decide +kernel
  · decide +kernel
  · decide +kernel

/-- The limits of `GetHistory` and `AppendHistory`. -/
def contextMessages : Nat := 10

def historyMessages : Nat := 100

structure OpenAIProvider (σ : Type) where
  apiKey : Bytes
  baseURL : Bytes
  model : Bytes
  cache : Option (Cache σ)

/-- When a chat reads the history and when it appends to it. -/
structure ChatClock where
  readAt : Int
  userAt : Int
  replyAt : Int
  readFirst : readAt ≤ userAt
  userFirst : userAt ≤ replyAt

structure Chatted (σ : Type) where
  sent : Option LlmRequest
  result : Except Bytes ChatResponse
  state : σ

namespace OpenAIProvider

variable {σ : Type}

/-- `NewOpenAIProvider`. -/
def new (apiKey baseURL model : Bytes) (cache : Option (Cache σ)) : OpenAIProvider σ :=
  ⟨apiKey, trimRight 47 baseURL, model, cache⟩

/-- `messages`: the system prompt, the history, and the user content. -/
def messages (req : ChatRequest) (history : List Message) : List ChatMessage :=
  ⟨roleSystem, systemPrompt (normalizeSkill req.skill)⟩ ::
    history.map (fun m => ⟨m.role, m.content⟩) ++ [⟨roleUser, buildUserContent req⟩]

/-- The request, with the history that was read. -/
def request (p : OpenAIProvider σ) (req : ChatRequest) (history : List Message) : LlmRequest where
  url := p.baseURL ++ str "/chat/completions"
  authorization := str "Bearer " ++ p.apiKey
  body :=
    { model := p.model
      messages := messages req history
      responseFormat :=
        if normalizeSkill req.skill = skillSocialAction then some (str "json_object") else none }

/-- What the outcome of a request means. -/
def reply (p : OpenAIProvider σ) : LlmOutcome → Except Bytes ChatResponse
  | .notBuilt message => .error (str "构造请求失败: " ++ message)
  | .transport message => .error (str "调用 LLM 失败: " ++ message)
  | .response status raw none =>
      .error (str "解析响应失败(status=" ++ intText status ++ str "): " ++ truncateRunes raw 200)
  | .response status raw (some parsed) =>
      match parsed.error, parsed.choices with
      | some message, _ => .error (str "LLM 返回错误: " ++ message)
      | none, [] =>
          .error (str "LLM 异常(status=" ++ intText status ++ str "): " ++ truncateRunes raw 200)
      | none, choice :: _ =>
          if status ≠ 200 then
            .error (str "LLM 异常(status=" ++ intText status ++ str "): " ++ truncateRunes raw 200)
          else .ok ⟨choice.content, if parsed.model = [] then p.model else parsed.model⟩

/-- The two messages of a chat in the history. -/
def turn (req : ChatRequest) (reply : Bytes) : List ChatMessage :=
  [⟨roleUser, req.content⟩, ⟨roleAssistant, reply⟩]

/-- A message of the history; its time is in seconds. -/
def stamped (m : ChatMessage) (now : Int) : Message :=
  ⟨m.role, m.content, now / second⟩

/-- The history a chat reads; an error of the cache is ignored. -/
def readHistory (cache : Cache σ) (req : ChatRequest) (now : Int) (s : σ) : List Message × σ :=
  match cache.getHistory req.userID contextMessages now s with
  | (.ok history, s) => (history, s)
  | (.error _, s) => ([], s)

/-- The two calls of `AppendHistory`, whose errors are ignored. -/
def remember (cache : Cache σ) (req : ChatRequest) (reply : Bytes) (clock : ChatClock) (s : σ) :
    σ :=
  let s := (cache.appendHistory req.userID (stamped ⟨roleUser, req.content⟩ clock.userAt)
    historyMessages clock.userAt s).2
  (cache.appendHistory req.userID (stamped ⟨roleAssistant, reply⟩ clock.replyAt)
    historyMessages clock.replyAt s).2

/-- The cache of a chat whose skill keeps a history. -/
def historyCache (p : OpenAIProvider σ) (req : ChatRequest) : Option (Cache σ) :=
  if withHistory (normalizeSkill req.skill) then p.cache else none

/-- What a chat has read when it builds its request. -/
def shown (p : OpenAIProvider σ) (req : ChatRequest) (now : Int) (s : σ) : List Message × σ :=
  match p.historyCache req with
  | none => ([], s)
  | some cache => readHistory cache req now s

/-- `Chat`. -/
def chat (p : OpenAIProvider σ) (req : ChatRequest) (outcome : LlmOutcome) (clock : ChatClock)
    (s : σ) : Chatted σ :=
  if p.apiKey = [] then ⟨none, .error (str "OpenAI APIKey 未配置"), s⟩
  else
    let (history, s) := p.shown req clock.readAt s
    match outcome, p.reply outcome with
    | .notBuilt _, result => ⟨none, result, s⟩
    | _, .error message => ⟨some (p.request req history), .error message, s⟩
    | _, .ok response =>
        ⟨some (p.request req history), .ok response,
          match p.historyCache req with
          | none => s
          | some cache => remember cache req response.reply clock s⟩

/-- The outcome alone decides whether a chat succeeds. -/
theorem reply_isAnswer (p : OpenAIProvider σ) (outcome : LlmOutcome) :
    outcome.isAnswer = true ↔ ∃ response, p.reply outcome = .ok response := by
  unfold LlmOutcome.isAnswer reply
  cases outcome with
  | notBuilt message => simp
  | transport message => simp
  | response status raw parsed =>
      cases parsed with
      | none => simp
      | some parsed =>
          obtain ⟨model, choices, error⟩ := parsed
          cases error with
          | some message => simp
          | none =>
              cases choices with
              | nil => simp
              | cons choice rest =>
                  dsimp only
                  split
                  · rename_i notOk
                    simp [notOk]
                  · rename_i isOk
                    simp [not_not.mp isOk]

section Chat

variable {p : OpenAIProvider σ} (hasKey : p.apiKey ≠ []) (req : ChatRequest) (clock : ChatClock)
  (s : σ)

include hasKey

/-- The request is sent whatever comes of it, if it can be built. -/
theorem chat_sent {outcome : LlmOutcome} (built : outcome.isNotBuilt = false) :
    (p.chat req outcome clock s).sent = some (p.request req (p.shown req clock.readAt s).1) := by
  rw [chat, if_neg hasKey]
  cases outcome with
  | notBuilt message => cases built
  | transport message => rfl
  | response status raw parsed =>
      dsimp only
      cases p.reply (.response status raw parsed) <;> rfl

theorem chat_notBuilt {outcome : LlmOutcome} (notBuilt : outcome.isNotBuilt = true) :
    (p.chat req outcome clock s).sent = none := by
  rw [chat, if_neg hasKey]
  cases outcome with
  | notBuilt message => rfl
  | transport message => cases notBuilt
  | response status raw parsed => cases notBuilt

/-- Only a chat that succeeds appends to the history. -/
theorem chat_state (outcome : LlmOutcome) :
    (p.chat req outcome clock s).state =
      match p.reply outcome, p.historyCache req with
      | .ok response, some cache =>
          remember cache req response.reply clock (p.shown req clock.readAt s).2
      | _, _ => (p.shown req clock.readAt s).2 := by
  rw [chat, if_neg hasKey]
  cases outcome with
  | notBuilt message => cases p.historyCache req <;> rfl
  | transport message => cases p.historyCache req <;> rfl
  | response status raw parsed =>
      dsimp only
      cases p.reply (.response status raw parsed) with
      | error message => cases p.historyCache req <;> rfl
      | ok response => cases p.historyCache req <;> rfl

end Chat

end OpenAIProvider

/-! ### Chats of several users -/

/-- A chat has built its request, or has messages left to append, the first of
them before or after `GetHistory` of `AppendHistory`. -/
inductive ChatPhase where
  | asked (request : LlmRequest)
  | appending (left : List ChatMessage)
  | read (history : List Message) (m : Message) (left : List ChatMessage)
deriving DecidableEq

structure RunningChat where
  req : ChatRequest
  phase : ChatPhase
deriving DecidableEq

/-- The user message is in the history and the reply is not. -/
def RunningChat.halfStored (chat : RunningChat) : Bool :=
  match chat.phase with
  | .asked _ => false
  | .appending left => left.length = 1
  | .read _ _ left => left = []

/-- The sections of a chat, and a tick of the cleanup of the cache. -/
inductive ConversationEvent where
  | start (req : ChatRequest)
  | respond (userID : Int) (outcome : LlmOutcome)
  | proceed (userID : Int)
  | cleanExpired
deriving DecidableEq, Repr

structure ChatStep where
  event : ConversationEvent
  now : Int
deriving DecidableEq, Repr

/-- The cache, and the running chat of each user. -/
structure Conversations where
  memory : MemoryCache
  running : GoMap Int RunningChat

namespace Conversations

def new : Conversations := ⟨MemoryCache.new, ∅⟩

variable (json : MessageJson) (p : OpenAIProvider MemoryCache)

/-- A provider with a memory cache. -/
def provider (apiKey baseURL model : Bytes) : OpenAIProvider MemoryCache :=
  .new apiKey baseURL model (some (MemoryCache.cache json))

def setPhase (chat : RunningChat) (phase : ChatPhase) (s : Conversations) : Conversations :=
  { s with running := s.running.insert chat.req.userID { chat with phase } }

def finish (chat : RunningChat) (s : Conversations) : Conversations :=
  { s with running := s.running.erase chat.req.userID }

/-- Up to the request. The chats of one user do not overlap. -/
def start (req : ChatRequest) (now : Int) (s : Conversations) : Conversations :=
  if p.apiKey = [] then s
  else
    match s.running.lookup req.userID with
    | some _ => s
    | none =>
        let phase := .asked (p.request req (p.shown req now s.memory).1)
        s.setPhase ⟨req, phase⟩ phase

/-- A chat that fails or keeps no history ends here. -/
def respond (chat : RunningChat) (outcome : LlmOutcome) (s : Conversations) : Conversations :=
  match p.reply outcome, p.historyCache chat.req with
  | .ok response, some _ =>
      s.setPhase chat (.appending (OpenAIProvider.turn chat.req response.reply))
  | _, _ => s.finish chat

/-- One section of `AppendHistory`. -/
def proceed (chat : RunningChat) (now : Int) (s : Conversations) : Conversations :=
  match chat.phase with
  | .asked _ => s
  | .appending [] => s.finish chat
  | .appending (m :: left) =>
      let history := s.memory.getHistory json chat.req.userID historyMessages
      s.setPhase chat (.read history (OpenAIProvider.stamped m now) left)
  | .read history m left =>
      let memory := s.memory.storeHistory json chat.req.userID history m historyMessages
      let s := { s with memory }
      if left = [] then s.finish chat else s.setPhase chat (.appending left)

def step (s : Conversations) (label : ChatStep) : Conversations :=
  match label.event with
  | .start req => s.start p req label.now
  | .respond userID outcome =>
      match s.running.lookup userID with
      | some ⟨req, .asked request⟩ => s.respond p ⟨req, .asked request⟩ outcome
      | _ => s
  | .proceed userID =>
      match s.running.lookup userID with
      | some chat => s.proceed json chat label.now
      | none => s
  | .cleanExpired => { s with memory := s.memory.cleanExpired label.now }

end Conversations

end AimServer
