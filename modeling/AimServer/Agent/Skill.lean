import AimServer.Agent.Service

/-!
Contract: the skills of the agent service.

Owns: the registry of skills, the system prompt and the user content a skill
gives a request, the prompt of a provider without a model, and what a skill
falls back to that is not registered.

Does not own: which skills keep a history; that is decided where they are used.
-/

namespace AimServer

def skillSummarize : Bytes := str "summarize"

def skillSuggestReply : Bytes := str "suggest_reply"

def skillSocialAction : Bytes := str "social_action"

structure SkillSpec where
  system : Bytes
  needContext : Bool
deriving DecidableEq, Repr

namespace SkillSpec

def chat : SkillSpec where
  system := str "你是一个友好的即时通讯智能助手，用简洁自然的中文回答用户问题。"
  needContext := false

def summarize : SkillSpec where
  system := str <|
    "你是一个聊天记录总结助手。请阅读下面提供的聊天记录，" ++
    "用简体中文输出一段简明摘要，提炼出主要话题、关键结论和待办事项。" ++
    "如果聊天记录为空或无实质内容，请直接说明。"
  needContext := true

def suggestReply : SkillSpec where
  system := str <|
    "你是一个回复建议助手。请根据下面的聊天上下文，" ++
    "站在“我”的角度，给出 3 条简短、得体、风格各异的候选回复，" ++
    "每条单独成行，用“1. ”“2. ”“3. ”编号，不要额外解释。"
  needContext := true

def ragQa : SkillSpec where
  system := str <|
    "你是基于用户聊天记录的问答助手。下面【聊天记录】里是通过向量检索从该用户的历史消息中找出的、" ++
    "与问题最相关的若干片段。请【仅依据这些片段】用简体中文回答用户的问题：\n" ++
    "- 若片段中含答案，简明作答，并尽量点明是谁、大致什么时候说的；\n" ++
    "- 若片段不足以回答，直接说“在你的聊天记录里没找到相关信息”，不要编造、不要臆测。"
  needContext := true

def socialAction : SkillSpec where
  system := str <|
    "你是 IM 客户端的社交助手，既能闲聊，也能帮用户【加好友】或【申请加入群聊】。\n" ++
    "请分析用户这句话的意图，并【只】输出一个严格的 JSON 对象" ++
    "（不要包含任何额外文字、解释或 markdown 代码块），字段如下：\n" ++
    "\x7b\n" ++
    "  \"action\": \"add_friend\" 或 \"join_group\" 或 \"chat\",\n" ++
    "  \"target_id\": 要加为好友的用户数字ID（仅 add_friend 时填，否则填 0）,\n" ++
    "  \"group_id\": 要加入的群数字ID（仅 join_group 时填，否则填 0）,\n" ++
    "  \"reply\": 用简体中文对用户说的话\n" ++
    "\x7d\n" ++
    "判定规则：\n" ++
    "- 用户想加某人为好友且给出了对方的数字ID → action=\"add_friend\"，target_id=该ID，reply 自然语言确认。\n" ++
    "- 用户想加入/申请某个群且给出了群的数字ID → action=\"join_group\"，group_id=该ID，reply 确认。\n" ++
    "- 用户想加好友或加群但没有提供数字ID → action=\"chat\"，reply 友好地询问对方的用户ID或群号。\n" ++
    "- 其它任何情况（闲聊、提问等）→ action=\"chat\"，reply 为正常回答。\n" ++
    "再次强调：只输出 JSON，不要输出任何其它内容。"
  needContext := false

end SkillSpec

def skillRegistry (skill : Bytes) : Option SkillSpec :=
  if skill = skillChat then some .chat
  else if skill = skillSummarize then some .summarize
  else if skill = skillSuggestReply then some .suggestReply
  else if skill = skillRagQa then some .ragQa
  else if skill = skillSocialAction then some .socialAction
  else none

def isKnownSkill (skill : Bytes) : Bool :=
  (skillRegistry (normalizeSkill skill)).isSome

/-- The entry of a skill; one that is not registered has the entry of `SkillChat`. -/
def skillSpec (skill : Bytes) : SkillSpec :=
  (skillRegistry (normalizeSkill skill)).getD .chat

def systemPrompt (skill : Bytes) : Bytes :=
  (skillSpec skill).system

/-- The lines of the context under their heading. -/
def contextText (req : ChatRequest) : Bytes :=
  if (skillSpec req.skill).needContext ∧ req.context ≠ [] then
    str "【聊天记录】\n" ++ req.context.flatMap (fun line => line ++ str "\n") ++ str "\n"
  else []

def buildUserContent (req : ChatRequest) : Bytes :=
  contextText req ++ req.content

def buildPrompt (req : ChatRequest) : Bytes :=
  systemPrompt req.skill ++ str "\n\n" ++ contextText req ++
    if req.content = [] then [] else str "【用户指令】\n" ++ req.content ++ str "\n"

/-! ### Skills that are not registered -/

@[simp] theorem normalizeSkill_chat : normalizeSkill skillChat = skillChat := by decide +kernel

@[simp] theorem skillSpec_chat : skillSpec skillChat = .chat := by
  rw [skillSpec, normalizeSkill_chat, skillRegistry, if_pos rfl]
  rfl

theorem normalizeSkill_of_ne {skill : Bytes} (named : skill ≠ []) : normalizeSkill skill = skill :=
  if_neg named

@[simp] theorem normalizeSkill_normalizeSkill (skill : Bytes) :
    normalizeSkill (normalizeSkill skill) = normalizeSkill skill := by
  by_cases named : skill = []
  · rw [named]
    decide +kernel
  · rw [normalizeSkill_of_ne named, normalizeSkill_of_ne named]

@[simp] theorem systemPrompt_normalizeSkill (skill : Bytes) :
    systemPrompt (normalizeSkill skill) = systemPrompt skill := by
  rw [systemPrompt, skillSpec, normalizeSkill_normalizeSkill]
  rfl

/-- An unregistered skill has the prompts of plain chat. -/
theorem skillSpec_of_unknown {skill : Bytes} (unknown : skillRegistry skill = none) :
    skillSpec skill = .chat := by
  by_cases named : skill = []
  · rw [named]
    exact skillSpec_chat
  · rw [skillSpec, normalizeSkill_of_ne named, unknown]
    rfl

theorem systemPrompt_of_unknown {skill : Bytes} (unknown : skillRegistry skill = none) :
    systemPrompt skill = systemPrompt skillChat := by
  rw [systemPrompt, systemPrompt, skillSpec_of_unknown unknown, skillSpec_chat]

/-- Without context the user content is the content of the request. -/
theorem buildUserContent_of_plain {req : ChatRequest}
    (plain : (skillSpec req.skill).needContext = false) : buildUserContent req = req.content := by
  rw [buildUserContent, contextText, plain, if_neg (by simp), List.nil_append]

/-- Plain chat and social actions take no context. -/
theorem buildUserContent_of_chat {req : ChatRequest}
    (isChat : normalizeSkill req.skill = skillChat ∨ normalizeSkill req.skill = skillSocialAction) :
    buildUserContent req = req.content := by
  apply buildUserContent_of_plain
  rcases isChat with isChat | isSocial
  · rw [skillSpec, isChat]
    decide +kernel
  · rw [skillSpec, isSocial]
    decide +kernel

theorem buildUserContent_of_unknown {req : ChatRequest}
    (unknown : skillRegistry req.skill = none) :
    buildUserContent req = buildUserContent { req with skill := skillChat } := by
  rw [buildUserContent_of_plain (by rw [skillSpec_of_unknown unknown]; rfl),
    buildUserContent_of_plain (by rw [skillSpec_chat]; rfl)]

theorem buildPrompt_of_unknown {req : ChatRequest} (unknown : skillRegistry req.skill = none) :
    buildPrompt req = buildPrompt { req with skill := skillChat } := by
  unfold buildPrompt contextText
  dsimp only
  rw [systemPrompt_of_unknown unknown, skillSpec_of_unknown unknown, skillSpec_chat]

/-- An unregistered skill is none of the registered ones. -/
theorem ne_of_unknown {skill : Bytes} (unknown : skillRegistry skill = none) :
    skill ≠ skillChat ∧ skill ≠ skillSocialAction := by
  constructor
  · rintro rfl
    exact absurd unknown (by decide +kernel)
  · rintro rfl
    exact absurd unknown (by decide +kernel)

end AimServer
