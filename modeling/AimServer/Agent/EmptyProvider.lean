import AimServer.Agent.OpenAIProvider

/-!
Contract: the provider that stands in where no model is configured.

Owns: its placeholder replies, the preview of a prompt for a skill, and when it
touches the history.
-/

namespace AimServer

structure EmptyProvider (σ : Type) where
  cache : Cache σ

namespace EmptyProvider

variable {σ : Type}

/-- The reply to a skill other than `SkillChat`. -/
def preview (req : ChatRequest) : Bytes :=
  let skill := normalizeSkill req.skill
  str "[Agent未配置] 已识别技能: " ++ skill ++ str "\n" ++
    (if isKnownSkill skill then [] else str "（该技能未注册，已回退为普通对话）\n") ++
    (str "收到上下文 " ++ intText req.context.length ++ str " 条。\n") ++
    str "\n--- 将发送给 LLM 的 prompt 预览 ---\n" ++ buildPrompt req ++
    str "--- 配置 llm.provider 后即可返回真实结果 ---"

/-- The lines about the history, from two messages on. -/
def historyText (history : List Message) : Bytes :=
  if history.length ≤ 1 then []
  else
    str "\n对话历史 (" ++ intText history.length ++ str "条):\n" ++
      history.flatMap fun m =>
        str "  " ++ (if m.role = roleAssistant then str "🤖" else str "🧑") ++ str " " ++
          truncateRunes m.content 60 ++ str "\n"

/-- The reply to a message of a conversation. -/
def placeholder (req : ChatRequest) (history : List Message) : Bytes :=
  str "[Agent未配置]\n" ++ str "收到消息: \"" ++ req.content ++ str "\"\n" ++ historyText history ++
    str "\n当前LLM Provider未配置，请在配置中设置 llm.provider 以启用AI回复。\n" ++
    str "支持的Provider: openai, anthropic"

/-- `Chat`, which has no errors; both messages are stored with the time 0. -/
def chat (p : EmptyProvider σ) (req : ChatRequest) (clock : ChatClock) (s : σ) :
    ChatResponse × σ :=
  if normalizeSkill req.skill ≠ skillChat then (⟨preview req, str "none"⟩, s)
  else
    let (history, s) := OpenAIProvider.readHistory p.cache req clock.readAt s
    let s := (p.cache.appendHistory req.userID ⟨roleUser, req.content, 0⟩ historyMessages
      clock.userAt s).2
    let reply := placeholder req history
    let s := (p.cache.appendHistory req.userID ⟨roleAssistant, reply, 0⟩ historyMessages
      clock.replyAt s).2
    (⟨reply, str "none"⟩, s)

/-- A skill other than `SkillChat` leaves the history. -/
theorem chat_of_skill (p : EmptyProvider σ) {req : ChatRequest}
    (isSkill : normalizeSkill req.skill ≠ skillChat) (clock : ChatClock) (s : σ) :
    p.chat req clock s = (⟨preview req, str "none"⟩, s) := by
  rw [chat, if_pos isSkill]

/-- An unregistered skill is told so, and what would be sent is the prompt of plain
chat. -/
theorem preview_of_unknown {req : ChatRequest} (named : req.skill ≠ [])
    (unknown : skillRegistry req.skill = none) :
    preview req = str "[Agent未配置] 已识别技能: " ++ req.skill ++ str "\n" ++
      str "（该技能未注册，已回退为普通对话）\n" ++
      (str "收到上下文 " ++ intText req.context.length ++ str " 条。\n") ++
      str "\n--- 将发送给 LLM 的 prompt 预览 ---\n" ++
      buildPrompt { req with skill := skillChat } ++
      str "--- 配置 llm.provider 后即可返回真实结果 ---" := by
  have notKnown : isKnownSkill req.skill = false := by
    rw [isKnownSkill, normalizeSkill_of_ne named, unknown]
    rfl
  unfold preview
  dsimp only
  rw [normalizeSkill_of_ne named, notKnown, if_neg Bool.false_ne_true,
    buildPrompt_of_unknown unknown]

end EmptyProvider

end AimServer
