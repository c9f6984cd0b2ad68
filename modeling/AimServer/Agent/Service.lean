import AimServer.Agent.Limiter

/-!
Contract: the two front ends of the agent service.

Owns: `ProcessMessage` and `UpgradeVip` of the gRPC service, the handlers of
`/api/chat` and `/api/vip/upgrade`, and the machine in which any requests of
both front ends are served over one cache, with every call of `provider.Chat`
on record.

Does not own: the answers of the model, the retrieval of chat snippets, and the
decoding of JSON bodies: these are inputs.

`ProcessMessage` takes two steps. The first ends with the quota check, the
second with the call of the provider; other requests may come between them.
-/

namespace AimServer

open AimServer.Lib

/-- `llm.ChatRequest`. -/
structure ChatRequest where
  userID : Int
  targetID : Int
  content : Bytes
  chatType : Int
  model : Bytes
  skill : Bytes
  context : List Bytes
deriving DecidableEq, Repr

/-- `llm.ChatResponse`. -/
structure ChatResponse where
  reply : Bytes
  model : Bytes
deriving DecidableEq, Repr

/-- `pb.ProcessMessageReq`. -/
structure ProcessMessageReq where
  userId : Int
  targetId : Int
  content : Bytes
  chatType : Int
  model : Bytes
  skill : Bytes
  context : List Bytes
deriving DecidableEq, Repr

/-- `pb.ProcessMessageRsp`, and the `chatResponse` of the HTTP server. -/
structure ProcessMessageRsp where
  code : Int
  msg : Bytes
  reply : Bytes
  model : Bytes
deriving DecidableEq, Repr

/-- The `chatRequest` of the HTTP server. -/
structure HttpChatRequest where
  userID : Int
  targetID : Int
  content : Bytes
  chatType : Int
  skill : Bytes
  context : List Bytes
deriving DecidableEq, Repr

/-- `pb.AgentUpgradeVipReq`, and the `vipRequest` of the HTTP server. -/
structure AgentUpgradeVipReq where
  userId : Int
  paymentToken : Bytes
  amountCents : Int
deriving DecidableEq, Repr

/-- `pb.VipStatusRsp`, and the `vipResponse` of the HTTP server. -/
structure VipStatusRsp where
  code : Int
  msg : Bytes
  isVip : Bool
deriving DecidableEq, Repr

/-- What the HTTP server writes: `http.Error`, or `writeJSON` of a response. -/
inductive HttpReply (ρ : Type) where
  | error (status : Nat) (text : Bytes)
  | json (status : Nat) (response : ρ)
deriving DecidableEq, Repr

def skillChat : Bytes := str "chat"

def skillRagQa : Bytes := str "rag_qa"

def normalizeSkill (skill : Bytes) : Bytes :=
  if skill = [] then skillChat else skill

def vipHint (isVIP : Bool) : Bytes :=
  if isVIP then str "请明日再试。" else str "升级 VIP 可享更高额度，或明日再试。"

def vipPriceCents : Int := 500

/-- `AgentService`: a limiter, or none, and whether a retriever is there. -/
structure AgentService (σ : Type) where
  limiter : Option (Limiter σ)
  retriever : Bool

namespace AgentService

variable {σ : Type}

/-! ### `ProcessMessage` -/

def chatRequest (req : ProcessMessageReq) : ChatRequest :=
  ⟨req.userId, req.targetId, req.content, req.chatType, req.model, req.skill, req.context⟩

def quotaMessage (r : QuotaResult) : Bytes :=
  str "今日 AI 额度已用完（" ++ (if r.isVIP then str "VIP用户" else str "普通用户") ++
    str "每日 " ++ intText r.limit ++ str " 条）。" ++ vipHint r.isVIP

/-- Up to the quota check. -/
def checkQuota (zone : Zone) (s : AgentService σ) (req : ProcessMessageReq) (now : Int)
    (store : σ) : Except ProcessMessageRsp ChatRequest × σ :=
  if req.content = [] ∧ req.context = [] then
    (.error ⟨1, str "消息内容不能为空", [], []⟩, store)
  else
    match s.limiter with
    | none => (.ok (chatRequest req), store)
    | some limiter =>
        let (r, store) := limiter.allow zone req.userId now store
        if r.allowed then (.ok (chatRequest req), store)
        else (.error ⟨4, quotaMessage r, [], []⟩, store)

/-- Up to the call of the provider. The snippets that were retrieved become the
context of a `rag_qa` request. -/
def retrieveContext (s : AgentService σ) (chatReq : ChatRequest)
    (retrieved : Except Bytes (List Bytes)) : Except ProcessMessageRsp ChatRequest :=
  if normalizeSkill chatReq.skill = skillRagQa then
    if s.retriever then
      match retrieved with
      | .error message => .error ⟨2, str "检索聊天记录失败: " ++ message, [], []⟩
      | .ok [] => .error ⟨0, str "成功", str "在你的聊天记录里没找到相关信息。", []⟩
      | .ok snippets => .ok { chatReq with context := snippets }
    else .error ⟨3, str "记忆问答未启用（服务端未配置 RAG）", [], []⟩
  else .ok chatReq

/-- After the call of the provider. -/
def chatReply : Except Bytes ChatResponse → ProcessMessageRsp
  | .error message => ⟨2, str "LLM调用失败: " ++ message, [], []⟩
  | .ok chatResp => ⟨0, str "成功", chatResp.reply, chatResp.model⟩

/-! ### `UpgradeVip` -/

/-- The simulated payment. -/
def checkPayment (req : AgentUpgradeVipReq) : Option VipStatusRsp :=
  if req.paymentToken = [] then some ⟨3, str "支付凭证缺失", false⟩
  else if req.amountCents < vipPriceCents then some ⟨4, str "支付金额不足（需 $5）", false⟩
  else none

/-- `IsVIP`, and `MarkVIP` for a user who is not. -/
def grantVip (failed : Bytes) (limiter : Limiter σ) (userID now : Int) (store : σ) :
    VipStatusRsp × σ :=
  let (isVIP, store) := limiter.isVIP userID now store
  if isVIP then (⟨0, str "您已是 VIP", true⟩, store)
  else
    match limiter.markVIP userID now store with
    | (.error _, store) => (⟨5, failed, false⟩, store)
    | (.ok _, store) => (⟨0, str "升级成功，已享 VIP 配额", true⟩, store)

def upgradeVip (s : AgentService σ) (req : AgentUpgradeVipReq) (now : Int) (store : σ) :
    VipStatusRsp × σ :=
  if req.userId ≤ 0 then (⟨1, str "无效用户", false⟩, store)
  else
    match s.limiter with
    | none => (⟨2, str "限流/会员服务不可用", false⟩, store)
    | some limiter =>
        match checkPayment req with
        | some refused => (refused, store)
        | none => grantVip (str "升级失败，请稍后重试") limiter req.userId now store

end AgentService

/-! ### The HTTP handlers -/

namespace HttpServer

variable {σ : Type}

def methodPost : Bytes := str "POST"

/-- `handleChat` up to the call of the provider. There is no quota check. -/
def checkChat (method : Bytes) (body : Option HttpChatRequest) :
    Except (HttpReply ProcessMessageRsp) ChatRequest :=
  if method ≠ methodPost then .error (.error 405 (str "Method not allowed"))
  else
    match body with
    | none => .error (.json 400 ⟨1, str "请求解析失败", [], []⟩)
    | some req =>
        if req.content = [] ∧ req.context = [] then
          .error (.json 400 ⟨1, str "消息内容不能为空", [], []⟩)
        else
          .ok ⟨req.userID, req.targetID, req.content, req.chatType, [], req.skill, req.context⟩

/-- `handleChat` after the call of the provider. -/
def chatReply : Except Bytes ChatResponse → HttpReply ProcessMessageRsp
  | .error message => .json 500 ⟨2, str "LLM调用失败: " ++ message, [], []⟩
  | .ok resp => .json 200 ⟨0, str "成功", resp.reply, resp.model⟩

def handleVipUpgrade (limiter : Option (Limiter σ)) (method : Bytes)
    (body : Option AgentUpgradeVipReq) (now : Int) (store : σ) : HttpReply VipStatusRsp × σ :=
  if method ≠ methodPost then (.error 405 (str "Method not allowed"), store)
  else
    match limiter with
    | none => (.json 200 ⟨2, str "会员服务不可用", false⟩, store)
    | some limiter =>
        match body with
        | none => (.json 400 ⟨1, str "请求解析失败", false⟩, store)
        | some req =>
            if req.userId ≤ 0 then (.json 400 ⟨1, str "无效用户", false⟩, store)
            else
              match AgentService.checkPayment req with
              | some refused => (.json 200 refused, store)
              | none =>
                  let (response, store) :=
                    AgentService.grantVip (str "升级失败") limiter req.userId now store
                  (.json 200 response, store)

end HttpServer

/-! ### Both front ends over one cache -/

/-- The cache calls of a provider. -/
inductive HistoryCall where
  | get (userID : Int) (limit : Nat)
  | append (userID : Int) (msg : Message) (maxLen : Nat)
deriving DecidableEq, Repr

inductive AgentCall where
  | processMessage (req : ProcessMessageReq)
  /-- The second step of a request that passed the quota check. -/
  | resume (index : Nat) (retrieved : Except Bytes (List Bytes))
  | handleChat (method : Bytes) (body : Option HttpChatRequest)
  | upgradeVip (req : AgentUpgradeVipReq)
  | handleVipUpgrade (method : Bytes) (body : Option AgentUpgradeVipReq)
  | history (call : HistoryCall)
  | cleanExpired

/-- A step and its instant. -/
structure AgentStep where
  call : AgentCall
  now : Int

/-- A request and the instant of its quota check, or of its call of the provider. -/
structure TimedRequest where
  instant : Int
  req : ChatRequest
deriving DecidableEq, Repr

/-- The cache, the requests between quota check and provider, and on record the
calls of the limiter and of `provider.Chat`. -/
structure AgentState (σ : Type) where
  store : σ
  inFlight : List TimedRequest
  calls : List QuotaStep
  chats : List TimedRequest

namespace AgentService

variable {σ : Type}

/-- A request for a VIP upgrade that is paid for and comes to `IsVIP`. -/
def paysFor (req : AgentUpgradeVipReq) : Bool :=
  0 < req.userId ∧ checkPayment req = none

/-- The calls of `Allow` and `MarkVIP` a step makes. -/
def limiterCalls (s : AgentService σ) (store : σ) (label : AgentStep) : List QuotaStep :=
  match s.limiter, label.call with
  | some _, .processMessage req =>
      if req.content = [] ∧ req.context = [] then [] else [⟨.allow req.userId, label.now⟩]
  | some limiter, .upgradeVip req =>
      if paysFor req ∧ (limiter.isVIP req.userId label.now store).1 = false then
        [⟨.markVIP req.userId, label.now⟩]
      else []
  | some limiter, .handleVipUpgrade method (some req) =>
      if method = HttpServer.methodPost ∧ paysFor req ∧
          (limiter.isVIP req.userId label.now store).1 = false then
        [⟨.markVIP req.userId, label.now⟩]
      else []
  | _, _ => []

/-- The request that a step passes to `provider.Chat`. -/
def chatOf (s : AgentService σ) (a : AgentState σ) : AgentCall → Option ChatRequest
  | .resume index retrieved =>
      a.inFlight[index]?.bind fun admitted => (s.retrieveContext admitted.req retrieved).toOption
  | .handleChat method body => (HttpServer.checkChat method body).toOption
  | _ => none

/-- One step; `cache` is the one the provider keeps its history in. -/
def step (zone : Zone) (cache : Cache σ) (clean : Int → σ → σ) (s : AgentService σ)
    (a : AgentState σ) (label : AgentStep) : AgentState σ :=
  let calls := a.calls ++ s.limiterCalls a.store label
  let chats := a.chats ++ ((s.chatOf a label.call).map (⟨label.now, ·⟩)).toList
  match label.call with
  | .processMessage req =>
      let (checked, store) := s.checkQuota zone req label.now a.store
      { store, inFlight := a.inFlight ++ (checked.toOption.map (⟨label.now, ·⟩)).toList, calls,
        chats }
  | .resume index _ => { a with inFlight := a.inFlight.eraseIdx index, calls, chats }
  | .handleChat _ _ => { a with calls, chats }
  | .upgradeVip req =>
      { a with store := (s.upgradeVip req label.now a.store).2, calls, chats }
  | .handleVipUpgrade method body =>
      { a with
        store := (HttpServer.handleVipUpgrade s.limiter method body label.now a.store).2, calls,
        chats }
  | .history (.get userID limit) =>
      { a with store := (cache.getHistory userID limit label.now a.store).2, calls, chats }
  | .history (.append userID msg maxLen) =>
      { a with store := (cache.appendHistory userID msg maxLen label.now a.store).2, calls, chats }
  | .cleanExpired => { a with store := clean label.now a.store, calls, chats }

end AgentService

/-- A service that has served no request. -/
def AgentState.new {σ : Type} (store : σ) : AgentState σ :=
  ⟨store, [], [], []⟩

end AimServer
