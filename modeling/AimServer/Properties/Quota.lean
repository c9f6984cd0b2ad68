import AimServer.Agent.Limiter

/-!
Contract: the daily quota over the memory cache.

Owns: which calls of `Allow` are admitted in a run of calls by any users, and
that a user's results depend on that user's own calls alone.

Does not own: the requests that are served without a call of `Allow`.
-/

namespace AimServer

open AimServer.Lib

namespace Limiter

/-- A limiter over the memory cache, with limiting enabled. -/
def overMemory (json : MessageJson) (freeDaily vipDaily : Int) (vipUsers : GoMap Int Bool) :
    Limiter MemoryCache :=
  ⟨MemoryCache.cache json, true, freeDaily, vipDaily, vipUsers⟩

/-- What `Allow` returns after some calls on a new memory cache. -/
def resultAfter (zone : Zone) (l : Limiter MemoryCache) (past : List QuotaStep)
    (userID now : Int) : QuotaResult :=
  (l.allow zone userID now
    (run (l.step zone MemoryCache.cleanExpired) MemoryCache.new past)).1

/-- The user is in the static list, or was marked within the last 3650 days. -/
def CountsAsVIP (l : Limiter MemoryCache) (past : List QuotaStep) (userID now : Int) : Prop :=
  l.isListed userID = true ∨
    ∃ label ∈ past, label.call = .markVIP userID ∧ now - label.now ≤ vipTTL

section Runs

variable {json : MessageJson} {zone : Zone} {freeDaily vipDaily : Int} {vipUsers : GoMap Int Bool}
  {past : List QuotaStep} {userID now : Int}

/-- After every run the memory cache shows the calls of the day and the marks. -/
theorem metered_run (clock : (past.map QuotaStep.now ++ [now]).Pairwise (· ≤ ·)) :
    Metered (l := overMemory json freeDaily vipDaily vipUsers) zone (MemoryCache.ttlCache json) past
      now (run ((overMemory json freeDaily vipDaily vipUsers).step zone MemoryCache.cleanExpired)
        MemoryCache.new past) := by
  induction past using List.reverseRecOn generalizing now with
  | nil => exact metered_new now
  | append_singleton past label inductionHypothesis =>
      rw [List.map_append, List.map_singleton] at clock
      have earlier := (List.pairwise_append.mp clock).1
      have last : label.now ≤ now :=
        (List.pairwise_append.mp clock).2.2 _ (by simp) _ (List.mem_singleton_self _)
      rw [run_append]
      exact (metered_step (inductionHypothesis earlier) rfl label le_rfl).mono last

theorem resultAfter_eq (clock : (past.map QuotaStep.now ++ [now]).Pairwise (· ≤ ·)) :
    resultAfter zone (overMemory json freeDaily vipDaily vipUsers) past userID now =
      let l := overMemory json freeDaily vipDaily vipUsers
      let alive := (MemoryCache.ttlCache json).alive
      ⟨((allowsOn zone userID now past + 1 : Nat) : Int) ≤ l.limitAt alive userID now past,
        (allowsOn zone userID now past + 1 : Nat), l.limitAt alive userID now past,
        l.isListed userID || markedAt alive userID now past⟩ :=
  (metered_run clock).allow_result rfl userID

theorem countsAsVIP_iff :
    (overMemory json freeDaily vipDaily vipUsers).CountsAsVIP past userID now ↔
      ((overMemory json freeDaily vipDaily vipUsers).isListed userID ||
        markedAt (MemoryCache.ttlCache json).alive userID now past) = true := by
  rw [CountsAsVIP, Bool.or_eq_true]
  apply or_congr_right
  rw [markedAt, List.any_eq_true]
  apply exists_congr
  intro label
  apply and_congr_right
  intro _
  simp only [QuotaStep.isMarkAt, MemoryCache.ttlCache, decide_eq_true_eq]
  apply and_congr_right
  intro _
  exact ⟨fun within => by omega, fun within => by omega⟩

end Runs

/-- The calls that count for a user are the user's own. -/
theorem allowsOn_filter (zone : Zone) (userID instant : Int) (past : List QuotaStep) :
    allowsOn zone userID instant (past.filter (QuotaStep.isOf userID)) =
      allowsOn zone userID instant past := by
  rw [allowsOn, List.countP_filter, allowsOn]
  apply List.countP_congr
  intro label _
  simp only [QuotaStep.isAllowOn, QuotaStep.isOf, Bool.and_eq_true, decide_eq_true_eq]
  exact ⟨fun both => both.1, fun isCall => ⟨isCall, Or.inl isCall.1⟩⟩

theorem markedAt_filter (alive : Int → Int → Bool) (userID instant : Int) (past : List QuotaStep) :
    markedAt alive userID instant (past.filter (QuotaStep.isOf userID)) =
      markedAt alive userID instant past := by
  rw [markedAt, List.any_filter, markedAt]
  apply congrArg
  funext label
  rw [Bool.and_eq_right_iff_imp]
  intro isMark
  exact decide_eq_true (Or.inr (of_decide_eq_true isMark).1)

/-- The n-th call of a user on a local day is admitted exactly up to the limit in
force, and only the user's own calls and VIP status matter. -/
theorem allow_admits_iff {json : MessageJson} {zone : Zone} {freeDaily vipDaily : Int}
    {vipUsers : GoMap Int Bool} {labels past rest : List QuotaStep} {userID now : Int}
    (clock : (labels.map QuotaStep.now).Pairwise (· ≤ ·))
    (split : labels = past ++ ⟨.allow userID, now⟩ :: rest) :
    let l := overMemory json freeDaily vipDaily vipUsers
    let n := past.countP (QuotaStep.isAllowOn zone userID now) + 1
    let result := resultAfter zone l past userID now
    (result.allowed = true ↔ (n : Int) ≤ result.limit) ∧ result.used = n ∧
      (l.CountsAsVIP past userID now → result.limit = vipDaily) ∧
      (¬ l.CountsAsVIP past userID now → result.limit = freeDaily) ∧
      ∀ (otherPast : List QuotaStep) (otherVipUsers : GoMap Int Bool),
        (otherPast.map QuotaStep.now ++ [now]).Pairwise (· ≤ ·) →
        otherPast.filter (QuotaStep.isOf userID) = past.filter (QuotaStep.isOf userID) →
        otherVipUsers.lookup userID = vipUsers.lookup userID →
        resultAfter zone (overMemory json freeDaily vipDaily otherVipUsers) otherPast userID now =
          result := by
  have clockToCall : (past.map QuotaStep.now ++ [now]).Pairwise (· ≤ ·) := by
    rw [split, List.map_append, List.map_cons] at clock
    refine clock.sublist ((List.Sublist.refl _).append ?_)
    exact List.singleton_sublist.mpr List.mem_cons_self
  dsimp only
  rw [resultAfter_eq clockToCall]
  dsimp only
  refine ⟨decide_eq_true_iff, rfl, ?_, ?_, ?_⟩
  · intro isVIP
    exact if_pos (countsAsVIP_iff.mp isVIP)
  · intro notVIP
    exact if_neg fun isVIP => notVIP (countsAsVIP_iff.mpr isVIP)
  · intro otherPast otherVipUsers otherClock sameCalls sameStatus
    rw [resultAfter_eq otherClock]
    have sameCount : allowsOn zone userID now otherPast = allowsOn zone userID now past := by
      rw [← allowsOn_filter, sameCalls, allowsOn_filter]
    have sameMark : markedAt (MemoryCache.ttlCache json).alive userID now otherPast =
        markedAt (MemoryCache.ttlCache json).alive userID now past := by
      rw [← markedAt_filter, sameCalls, markedAt_filter]
    have sameListed : (overMemory json freeDaily vipDaily otherVipUsers).isListed userID =
        (overMemory json freeDaily vipDaily vipUsers).isListed userID := by
      simp only [isListed, overMemory, sameStatus]
    have sameLimit :
        (overMemory json freeDaily vipDaily otherVipUsers).limitAt
            (MemoryCache.ttlCache json).alive userID now otherPast =
          (overMemory json freeDaily vipDaily vipUsers).limitAt
            (MemoryCache.ttlCache json).alive userID now past := by
      rw [limitAt, limitAt, sameMark, sameListed]
      rfl
    dsimp only
    rw [sameCount, sameMark, sameListed, sameLimit]

/-! ### One run -/

namespace QuotaSample

/-- No text of a message is written or read. -/
def json : MessageJson := ⟨fun _ => [], fun _ => none, fun _ => [], fun _ => []⟩

/-- Two calls of user 7, a mark of user 8 and a cleanup, on one day in Shanghai. -/
def calls : List QuotaStep :=
  [⟨.allow 7, 0⟩, ⟨.markVIP 8, 1⟩, ⟨.cleanExpired, 2⟩, ⟨.allow 7, 3⟩]

end QuotaSample

theorem allow_admits_iff_second :
    (resultAfter (.fixed (8 * hour)) (overMemory QuotaSample.json 1 5 ∅)
      (QuotaSample.calls.take 3) 7 3).allowed = false := by
  obtain ⟨admits, -, -, isFree, -⟩ := @allow_admits_iff QuotaSample.json (.fixed (8 * hour)) 1 5 ∅
    QuotaSample.calls (QuotaSample.calls.take 3) [] 7 3 (by decide) rfl
  have notVIP : ¬ (overMemory QuotaSample.json 1 5 ∅).CountsAsVIP
      (QuotaSample.calls.take 3) 7 3 := by
    rintro (listed | ⟨label, member, isMark, -⟩)
    · exact absurd listed (by decide)
    · exact absurd isMark (by revert label; decide)
  rw [isFree notVIP] at admits
  rw [← Bool.not_eq_true, admits]
  decide +kernel

end Limiter

end AimServer
