import AimServer.Agent.Service
import Mathlib.Data.List.Perm.Basic

/-!
Contract: how many calls of the provider the daily quota lets through.

Owns: the condition under which the calls of `provider.Chat` for a user on a
day stay within the quota, the account behind it, and the run in which the HTTP
server calls the provider more often.

The gRPC service asks the limiter before it calls the provider. The HTTP server
holds the same limiter and does not ask it. A request that is admitted before
midnight and reaches the provider after it counts for the day before.
-/

namespace AimServer

open AimServer.Lib

/-- For a user on the local day of an instant. -/
def TimedRequest.isOn (zone : Zone) (userID instant : Int) (r : TimedRequest) : Bool :=
  r.req.userID = userID ∧ zone.localDay r.instant = zone.localDay instant

/-- `freeDaily`, or `vipDaily` once the user is VIP. -/
def Limiter.dailyQuota {σ : Type} (l : Limiter σ) (userID : Int) (calls : List QuotaStep) : Int :=
  if l.isListed userID || calls.any (fun label => label.call = .markVIP userID) then l.vipDaily
  else l.freeDaily

namespace AgentService

variable {σ : Type}

/-- No HTTP chat of the user on the day, and a request that comes to the provider
on the day was admitted on it. -/
def Covers (zone : Zone) (userID instant : Int) (s : AgentService σ) (a : AgentState σ)
    (label : AgentStep) : Prop :=
  match label.call with
  | .handleChat method body => ∀ req, HttpServer.checkChat method body = .ok req →
      req.userID = userID → zone.localDay label.now ≠ zone.localDay instant
  | .resume index retrieved => ∀ admitted req, a.inFlight[index]? = some admitted →
      s.retrieveContext admitted.req retrieved = .ok req → req.userID = userID →
      zone.localDay label.now = zone.localDay instant →
      zone.localDay admitted.instant = zone.localDay instant
  | _ => True

section Steps

variable {zone : Zone} {l : Limiter σ} {clean : Int → σ → σ} {laws : TtlCache l.cache clean}
  {s : AgentService σ} {a : AgentState σ} {past : List QuotaStep} {userID instant before now : Int}
  {store : σ}

/-! ### The limiter's part of a step -/

theorem metered_grantVip (metered : Metered zone laws past now store) (failed : Bytes)
    (userID : Int) :
    Metered zone laws
      (past ++ if (l.isVIP userID now store).1 = false then [⟨.markVIP userID, now⟩] else [])
      now (grantVip failed l userID now store).2 := by
  obtain ⟨-, kept⟩ := metered.isVIP_eq userID
  unfold grantVip
  dsimp only
  cases (l.isVIP userID now store).1 with
  | true =>
      rw [if_neg (by decide), if_pos rfl, List.append_nil]
      exact kept
  | false =>
      rw [if_pos rfl, if_neg (by decide)]
      have marked := metered_markVIP kept userID
      split
      · rename_i isError
        rw [isError] at marked
        exact marked
      · rename_i isOk
        rw [isOk] at marked
        exact marked

theorem metered_upgradeVip (metered : Metered zone laws past now store)
    (isLimiter : s.limiter = some l) (req : AgentUpgradeVipReq) :
    Metered zone laws (past ++ s.limiterCalls store ⟨.upgradeVip req, now⟩) now
      (s.upgradeVip req now store).2 := by
  have granted := metered_grantVip metered (str "升级失败，请稍后重试") req.userId
  unfold upgradeVip limiterCalls paysFor
  rw [isLimiter]
  dsimp only
  by_cases valid : req.userId ≤ 0
  · rw [if_pos valid, if_neg (by simp [not_lt.mpr valid]), List.append_nil]
    exact metered
  · rw [if_neg valid]
    cases payment : checkPayment req with
    | some refused =>
        rw [if_neg (by simp), List.append_nil]
        exact metered
    | none => simpa [not_le.mp valid] using granted

theorem metered_handleVipUpgrade (metered : Metered zone laws past now store)
    (isLimiter : s.limiter = some l) (method : Bytes) (body : Option AgentUpgradeVipReq) :
    Metered zone laws (past ++ s.limiterCalls store ⟨.handleVipUpgrade method body, now⟩) now
      (HttpServer.handleVipUpgrade s.limiter method body now store).2 := by
  unfold HttpServer.handleVipUpgrade limiterCalls paysFor
  rw [isLimiter]
  dsimp only
  by_cases post : method = HttpServer.methodPost
  · rw [if_neg (not_not.mpr post)]
    cases body with
    | none =>
        rw [List.append_nil]
        exact metered
    | some req =>
        have granted := metered_grantVip metered (str "升级失败") req.userId
        dsimp only
        by_cases valid : req.userId ≤ 0
        · rw [if_pos valid, if_neg (by simp [not_lt.mpr valid]), List.append_nil]
          exact metered
        · rw [if_neg valid]
          cases payment : checkPayment req with
          | some refused =>
              rw [if_neg (by simp), List.append_nil]
              exact metered
          | none => simpa [not_le.mp valid, post] using granted
  · rw [if_pos post]
    cases body with
    | none =>
        rw [List.append_nil]
        exact metered
    | some req =>
        dsimp only
        rw [if_neg (fun all => post all.1), List.append_nil]
        exact metered

theorem metered_checkQuota (metered : Metered zone laws past now store)
    (isLimiter : s.limiter = some l) (enabled : l.enabled = true) (req : ProcessMessageReq) :
    Metered zone laws (past ++ s.limiterCalls store ⟨.processMessage req, now⟩) now
      (s.checkQuota zone req now store).2 := by
  have counted := metered_allow metered enabled req.userId
  unfold checkQuota limiterCalls
  rw [isLimiter]
  dsimp only
  by_cases empty : req.content = [] ∧ req.context = []
  · rw [if_pos empty, if_pos empty, List.append_nil]
    exact metered
  · rw [if_neg empty, if_neg empty]
    split
    · exact counted
    · exact counted

/-- Every step keeps the counters and the marks. -/
theorem metered_serve (metered : Metered zone laws a.calls before a.store)
    (isLimiter : s.limiter = some l) (enabled : l.enabled = true) (label : AgentStep)
    (later : before ≤ label.now) :
    Metered zone laws (s.step zone l.cache clean a label).calls label.now
      (s.step zone l.cache clean a label).store := by
  obtain ⟨call, now⟩ := label
  have current := metered.mono later
  cases call with
  | processMessage req => exact metered_checkQuota current isLimiter enabled req
  | resume index retrieved =>
      simp only [step, limiterCalls, isLimiter, List.append_nil]
      exact current
  | handleChat method body =>
      simp only [step, limiterCalls, isLimiter, List.append_nil]
      exact current
  | upgradeVip req => exact metered_upgradeVip current isLimiter req
  | handleVipUpgrade method body => exact metered_handleVipUpgrade current isLimiter method body
  | history call =>
      cases call with
      | get userID limit =>
          simp only [step, limiterCalls, isLimiter, List.append_nil]
          exact current.congr
            (fun _ instant le => laws.getHistory_find _ _ _ _ _ instant le)
            (fun _ instant le => laws.getHistory_find _ _ _ _ _ instant le)
      | append userID msg maxLen =>
          simp only [step, limiterCalls, isLimiter, List.append_nil]
          exact current.congr
            (fun _ instant le => laws.appendHistory_find _ _ _ _ _ _ instant le
              (quotaKey_ne_historyKey _ _ _))
            (fun _ instant le => laws.appendHistory_find _ _ _ _ _ _ instant le
              (vipKey_ne_historyKey _ _))
  | cleanExpired =>
      simp only [step, limiterCalls, isLimiter, List.append_nil]
      exact metered_clean current

/-! ### The account of a user and a day -/

/-- The calls of the provider and the requests on their way to it were admitted
on the day, and no more were admitted than the quota allows. -/
def Accounted (zone : Zone) (l : Limiter σ) (userID instant : Int) (a : AgentState σ) : Prop :=
  ∃ admitted : Nat,
    a.chats.countP (TimedRequest.isOn zone userID instant) +
        a.inFlight.countP (TimedRequest.isOn zone userID instant) ≤ admitted ∧
      admitted ≤ allowsOn zone userID instant a.calls ∧
      admitted ≤ (l.dailyQuota userID a.calls).toNat

/-- The limit of an `Allow` is at most the quota, which never gets smaller. -/
theorem limitAt_le_dailyQuota (alive : Int → Int → Bool) (ordered : l.freeDaily ≤ l.vipDaily)
    (userID now : Int) (past more : List QuotaStep) :
    l.limitAt alive userID now past ≤ l.dailyQuota userID (past ++ more) := by
  unfold Limiter.limitAt Limiter.dailyQuota
  by_cases isVIP : (l.isListed userID || markedAt alive userID now past) = true
  · rw [if_pos isVIP, if_pos]
    rw [Bool.or_eq_true] at isVIP ⊢
    apply isVIP.imp_right
    intro marked
    obtain ⟨label, member, isMark⟩ := List.any_eq_true.mp marked
    exact List.any_eq_true.mpr ⟨label, List.mem_append_left _ member,
      decide_eq_true (of_decide_eq_true isMark).1⟩
  · rw [if_neg isVIP]
    split
    · exact ordered
    · exact le_rfl

theorem dailyQuota_mono (ordered : l.freeDaily ≤ l.vipDaily) (userID : Int)
    (past more : List QuotaStep) :
    l.dailyQuota userID past ≤ l.dailyQuota userID (past ++ more) := by
  unfold Limiter.dailyQuota
  by_cases isVIP : (l.isListed userID ||
      past.any fun label => label.call = .markVIP userID) = true
  · rw [if_pos isVIP, if_pos]
    rw [List.any_append, ← Bool.or_assoc, isVIP]
    rfl
  · rw [if_neg isVIP]
    split
    · exact ordered
    · exact le_rfl

theorem allowsOn_append (past more : List QuotaStep) :
    allowsOn zone userID instant (past ++ more) =
      allowsOn zone userID instant past + allowsOn zone userID instant more :=
  List.countP_append

/-- A step after which no more requests are on their way or with the provider. -/
theorem Accounted.mono {next : AgentState σ} {more : List QuotaStep}
    (ordered : l.freeDaily ≤ l.vipDaily) (accounted : Accounted zone l userID instant a)
    (calls : next.calls = a.calls ++ more)
    (fewer : next.chats.countP (TimedRequest.isOn zone userID instant) +
        next.inFlight.countP (TimedRequest.isOn zone userID instant) ≤
      a.chats.countP (TimedRequest.isOn zone userID instant) +
        a.inFlight.countP (TimedRequest.isOn zone userID instant)) :
    Accounted zone l userID instant next := by
  obtain ⟨admitted, covers, counted, within⟩ := accounted
  refine ⟨admitted, le_trans fewer covers, ?_, ?_⟩
  · rw [calls, allowsOn_append]
    exact le_trans counted (Nat.le_add_right _ _)
  · rw [calls]
    exact le_trans within (Int.toNat_le_toNat (dailyQuota_mono ordered userID a.calls more))

/-- What an admitted request was told by the limiter. -/
theorem checkQuota_ok (metered : Metered zone laws past now store) (isLimiter : s.limiter = some l)
    (enabled : l.enabled = true) {req : ProcessMessageReq} {chatReq : ChatRequest}
    (admitted : (s.checkQuota zone req now store).1 = .ok chatReq) :
    chatReq = chatRequest req ∧
      s.limiterCalls store ⟨.processMessage req, now⟩ = [⟨.allow req.userId, now⟩] ∧
      ((allowsOn zone req.userId now past + 1 : Nat) : Int) ≤
        l.limitAt laws.alive req.userId now past := by
  have result := metered.allow_result enabled req.userId
  unfold checkQuota at admitted
  unfold limiterCalls
  rw [isLimiter] at admitted ⊢
  dsimp only at admitted ⊢
  by_cases empty : req.content = [] ∧ req.context = []
  · rw [if_pos empty] at admitted
    cases admitted
  · rw [if_neg empty] at admitted
    rw [if_neg empty]
    split at admitted
    · rename_i allowed
      rw [result] at allowed
      cases admitted
      exact ⟨rfl, rfl, of_decide_eq_true allowed⟩
    · cases admitted

theorem accounted_processMessage (metered : Metered zone laws a.calls now a.store)
    (isLimiter : s.limiter = some l) (enabled : l.enabled = true)
    (ordered : l.freeDaily ≤ l.vipDaily) (accounted : Accounted zone l userID instant a)
    (req : ProcessMessageReq) :
    Accounted zone l userID instant
      (s.step zone l.cache clean a ⟨.processMessage req, now⟩) := by
  have noChat : (s.step zone l.cache clean a ⟨.processMessage req, now⟩).chats = a.chats :=
    List.append_nil _
  cases checked : (s.checkQuota zone req now a.store).1 with
  | error refused =>
      apply accounted.mono ordered rfl
      rw [noChat]
      simp only [step, checked, Except.toOption, Option.map_none, Option.toList_none,
        List.append_nil, le_refl]
  | ok chatReq =>
      obtain ⟨rfl, isCall, withinLimit⟩ := checkQuota_ok metered isLimiter enabled checked
      have newFlight : (s.step zone l.cache clean a ⟨.processMessage req, now⟩).inFlight =
          a.inFlight ++ [⟨now, chatRequest req⟩] := by
        simp only [step, checked, Except.toOption, Option.map_some, Option.toList_some]
      have newCalls : (s.step zone l.cache clean a ⟨.processMessage req, now⟩).calls =
          a.calls ++ [⟨.allow req.userId, now⟩] := by
        simp only [step, isCall]
      by_cases own : req.userId = userID ∧ zone.localDay now = zone.localDay instant
      · obtain ⟨admitted, covers, counted, within⟩ := accounted
        obtain ⟨rfl, sameDay⟩ := own
        -- The call is the next one of the day, and the limit let it pass.
        have isNext : admitted + 1 ≤ allowsOn zone req.userId now a.calls + 1 := by
          rw [allowsOn_congr _ _ sameDay]
          omega
        have quota := limitAt_le_dailyQuota laws.alive ordered req.userId now a.calls
          [⟨.allow req.userId, now⟩]
        refine ⟨admitted + 1, ?_, ?_, ?_⟩
        · rw [noChat, newFlight, List.countP_append, List.countP_singleton]
          split
          · omega
          · omega
        · rw [newCalls, allowsOn_snoc, if_pos]
          · exact Nat.succ_le_succ counted
          · exact decide_eq_true ⟨rfl, sameDay⟩
        · rw [newCalls]
          omega
      · apply accounted.mono ordered newCalls
        rw [noChat, newFlight, List.countP_append, List.countP_singleton, if_neg]
        · exact le_rfl
        · intro isOn
          exact own (of_decide_eq_true isOn)

/-- The retrieval keeps the user of a request. -/
theorem retrieveContext_userID {chatReq req : ChatRequest} {retrieved : Except Bytes (List Bytes)}
    (isOk : s.retrieveContext chatReq retrieved = .ok req) : req.userID = chatReq.userID := by
  unfold retrieveContext at isOk
  split at isOk
  · split at isOk
    · split at isOk
      · cases isOk
      · cases isOk
      · cases isOk
        rfl
    · cases isOk
  · cases isOk
    rfl

theorem accounted_resume (ordered : l.freeDaily ≤ l.vipDaily)
    (accounted : Accounted zone l userID instant a) (index : Nat)
    (retrieved : Except Bytes (List Bytes))
    (covers : s.Covers zone userID instant a ⟨.resume index retrieved, now⟩) :
    Accounted zone l userID instant
      (s.step zone l.cache clean a ⟨.resume index retrieved, now⟩) := by
  apply accounted.mono ordered rfl
  have fewer : (a.inFlight.eraseIdx index).countP (TimedRequest.isOn zone userID instant) ≤
      a.inFlight.countP (TimedRequest.isOn zone userID instant) :=
    (List.eraseIdx_sublist _ _).countP_le
  simp only [step, chatOf, List.countP_append]
  cases found : a.inFlight[index]? with
  | none =>
      simp only [Option.bind_none, Option.map_none, Option.toList_none, List.countP_nil]
      omega
  | some admitted =>
      rw [Option.bind_some]
      cases isNext : s.retrieveContext admitted.req retrieved with
      | error refused =>
          simp only [Except.toOption, Option.map_none, Option.toList_none, List.countP_nil]
          omega
      | ok req =>
          simp only [Except.toOption, Option.map_some, Option.toList_some, List.countP_singleton]
          have sameUser := retrieveContext_userID isNext
          by_cases isOn : TimedRequest.isOn zone userID instant ⟨now, req⟩ = true
          · -- The request leaves the ones on their way and joins the calls.
            obtain ⟨isUser, onDay⟩ := of_decide_eq_true isOn
            have sameDay := covers admitted req found isNext isUser onDay
            have wasOn : TimedRequest.isOn zone userID instant admitted = true :=
              decide_eq_true ⟨sameUser.symm.trans isUser, sameDay⟩
            obtain ⟨inside, isAdmitted⟩ := List.getElem?_eq_some_iff.mp found
            have moved := (List.getElem_cons_eraseIdx_perm inside).countP_eq
              (TimedRequest.isOn zone userID instant)
            rw [List.countP_cons, isAdmitted, if_pos wasOn] at moved
            rw [if_pos isOn]
            omega
          · rw [if_neg isOn]
            omega

theorem accounted_handleChat (ordered : l.freeDaily ≤ l.vipDaily)
    (accounted : Accounted zone l userID instant a) (method : Bytes)
    (body : Option HttpChatRequest)
    (covers : s.Covers zone userID instant a ⟨.handleChat method body, now⟩) :
    Accounted zone l userID instant
      (s.step zone l.cache clean a ⟨.handleChat method body, now⟩) := by
  apply accounted.mono ordered rfl
  simp only [step, chatOf, List.countP_append]
  cases checked : HttpServer.checkChat method body with
  | error refused =>
      simp only [Except.toOption, Option.map_none, Option.toList_none, List.countP_nil]
      omega
  | ok req =>
      simp only [Except.toOption, Option.map_some, Option.toList_some, List.countP_singleton]
      rw [if_neg]
      · omega
      · intro isOn
        obtain ⟨isUser, onDay⟩ := of_decide_eq_true isOn
        exact covers req checked isUser onDay

theorem accounted_serve (metered : Metered zone laws a.calls before a.store)
    (isLimiter : s.limiter = some l) (enabled : l.enabled = true)
    (ordered : l.freeDaily ≤ l.vipDaily) (accounted : Accounted zone l userID instant a)
    (label : AgentStep) (later : before ≤ label.now)
    (covers : s.Covers zone userID instant a label) :
    Accounted zone l userID instant (s.step zone l.cache clean a label) := by
  obtain ⟨call, now⟩ := label
  have unchanged : ∀ {next : AgentState σ} {more : List QuotaStep},
      next.calls = a.calls ++ more → next.chats = a.chats ++ [] → next.inFlight = a.inFlight →
      Accounted zone l userID instant next := by
    intro next more calls chats inFlight
    apply accounted.mono ordered calls
    rw [chats, inFlight, List.append_nil]
  cases call with
  | processMessage req =>
      exact accounted_processMessage (metered.mono later) isLimiter enabled ordered accounted req
  | resume index retrieved => exact accounted_resume ordered accounted index retrieved covers
  | handleChat method body => exact accounted_handleChat ordered accounted method body covers
  | upgradeVip req => exact unchanged rfl rfl rfl
  | handleVipUpgrade method body => exact unchanged rfl rfl rfl
  | history call =>
      cases call with
      | get userID limit => exact unchanged rfl rfl rfl
      | append userID msg maxLen => exact unchanged rfl rfl rfl
  | cleanExpired => exact unchanged rfl rfl rfl

end Steps

/-- As long as no HTTP chat of the user comes on the day and none of the user's
requests goes over midnight, the provider is called within the quota. -/
theorem chats_within_quota {zone : Zone} {l : Limiter σ} {clean : Int → σ → σ}
    (laws : TtlCache l.cache clean) {s : AgentService σ} (isLimiter : s.limiter = some l)
    (enabled : l.enabled = true) (ordered : l.freeDaily ≤ l.vipDaily) {userID instant : Int}
    {labels past rest : List AgentStep} (clock : (labels.map AgentStep.now).Pairwise (· ≤ ·))
    (covers : AllSteps (s.step zone l.cache clean) (s.Covers zone userID instant)
      (AgentState.new laws.new) labels)
    (split : labels = past ++ rest) :
    let a := run (s.step zone l.cache clean) (AgentState.new laws.new) past
    a.chats.countP (TimedRequest.isOn zone userID instant) ≤
      (l.dailyQuota userID a.calls).toNat := by
  subst split
  rw [allSteps_append] at covers
  rw [List.map_append] at clock
  have pastClock := (List.pairwise_append.mp clock).1
  have held : ∀ (past : List AgentStep), (past.map AgentStep.now).Pairwise (· ≤ ·) →
      AllSteps (s.step zone l.cache clean) (s.Covers zone userID instant)
        (AgentState.new laws.new) past →
      let a := run (s.step zone l.cache clean) (AgentState.new laws.new) past
      (∀ now, (∀ label ∈ past, label.now ≤ now) → Metered zone laws a.calls now a.store) ∧
        Accounted zone l userID instant a := by
    intro past
    induction past using List.reverseRecOn with
    | nil =>
        intro _ _
        exact ⟨fun now _ => metered_new now, 0, le_rfl, Nat.zero_le _, Nat.zero_le _⟩
    | append_singleton past label inductionHypothesis =>
        intro clock covers
        rw [allSteps_append] at covers
        rw [List.map_append, List.map_singleton, List.pairwise_append] at clock
        obtain ⟨metered, accounted⟩ := inductionHypothesis clock.1 covers.1
        have atLabel := metered label.now fun earlier member =>
          clock.2.2 _ (List.mem_map_of_mem member) _ (List.mem_singleton_self _)
        rw [run_append]
        refine ⟨?_, accounted_serve atLabel isLimiter enabled ordered accounted label le_rfl
          covers.2.1⟩
        intro now latest
        exact (metered_serve atLabel isLimiter enabled label le_rfl).mono (latest label (by simp))
  obtain ⟨-, admitted, covered, -, within⟩ := held past pastClock covers.1
  dsimp only at covered within ⊢
  omega

/-! ### Two runs -/

namespace CoverSample

/-- No text of a message is written or read. -/
def json : MessageJson := ⟨fun _ => [], fun _ => none, fun _ => [], fun _ => []⟩

/-- One request a day for a user who is not VIP. -/
def limiter : Limiter MemoryCache := ⟨MemoryCache.cache json, true, 1, 5, ∅⟩

def service : AgentService MemoryCache := ⟨some limiter, false⟩

def zone : Zone := .fixed (8 * hour)

def request : ProcessMessageReq := ⟨7, 8, str "hello", 1, [], [], []⟩

/-- A request that is served, and a second one that is refused. -/
def grpcOnly : List AgentStep :=
  [⟨.processMessage request, 0⟩, ⟨.resume 0 (.ok []), 1⟩, ⟨.processMessage request, 2⟩]

def post : AgentCall := .handleChat (str "POST") (some ⟨7, 8, str "hello", 1, [], []⟩)

def twoPosts : List AgentStep := [⟨post, 0⟩, ⟨post, 1⟩]

end CoverSample

theorem chats_within_quota_grpc :
    let step := CoverSample.service.step CoverSample.zone CoverSample.limiter.cache
      MemoryCache.cleanExpired
    (run step (AgentState.new MemoryCache.new) CoverSample.grpcOnly).chats.countP
      (TimedRequest.isOn CoverSample.zone 7 0) ≤ 1 := by
  have covers : AllSteps (CoverSample.service.step CoverSample.zone CoverSample.limiter.cache
      MemoryCache.cleanExpired) (CoverSample.service.Covers CoverSample.zone 7 0)
      (AgentState.new MemoryCache.new) CoverSample.grpcOnly := by
    refine ⟨trivial, ?_, trivial, trivial⟩
    intro admitted req found _ _ _
    have isFirst : (CoverSample.service.step CoverSample.zone CoverSample.limiter.cache
        MemoryCache.cleanExpired (AgentState.new MemoryCache.new)
        ⟨.processMessage CoverSample.request, 0⟩).inFlight[0]? =
          some ⟨0, chatRequest CoverSample.request⟩ := by decide +kernel
    rw [isFirst] at found
    cases found
    rfl
  have clock : (CoverSample.grpcOnly.map AgentStep.now).Pairwise (· ≤ ·) := by decide
  have within := chats_within_quota (l := CoverSample.limiter) (s := CoverSample.service)
    (MemoryCache.ttlCache CoverSample.json) rfl rfl (by decide) clock covers
    (List.append_nil _).symm
  have quota : CoverSample.limiter.dailyQuota 7 (run (CoverSample.service.step CoverSample.zone
      CoverSample.limiter.cache MemoryCache.cleanExpired) (AgentState.new MemoryCache.new)
      CoverSample.grpcOnly).calls = 1 := by decide +kernel
  exact within.trans_eq (congrArg Int.toNat quota)

/-- Two HTTP requests of a user with a quota of one both reach the provider. -/
theorem chats_beyond_quota :
    ¬ ∀ (l : Limiter MemoryCache) (zone : Zone) (s : AgentService MemoryCache)
        (userID instant : Int) (labels : List AgentStep),
      s.limiter = some l → l.cache = MemoryCache.cache CoverSample.json → l.enabled = true →
      l.freeDaily ≤ l.vipDaily → (labels.map AgentStep.now).Pairwise (· ≤ ·) →
      let a := run (s.step zone l.cache MemoryCache.cleanExpired) (AgentState.new MemoryCache.new)
        labels
      a.chats.countP (TimedRequest.isOn zone userID instant) ≤
        (l.dailyQuota userID a.calls).toNat := by
  intro covered
  have within := covered CoverSample.limiter CoverSample.zone CoverSample.service 7 0
    CoverSample.twoPosts rfl rfl rfl (by decide) (by decide)
  exact absurd within (by decide +kernel)

end AgentService

end AimServer
