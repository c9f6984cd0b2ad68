import AimServer.Properties.Quota

/-!
Contract: the quota that is left after an upgrade.

Owns: how many calls of a user were admitted and refused on a day, and which
calls are admitted after `MarkVIP`.

`Allow` counts a call before it decides, so a refused call uses up quota as an
admitted one does.
-/

namespace AimServer

open AimServer.Lib

namespace Limiter

/-- How many calls of a user on the local day of an instant ended in a result
that `kind` accepts. -/
def resultsOn (zone : Zone) (l : Limiter MemoryCache) (userID instant : Int)
    (kind : QuotaResult → Bool) (past : List QuotaStep) : Nat :=
  countSteps (l.step zone MemoryCache.cleanExpired)
    (fun store label => QuotaStep.isAllowOn zone userID instant label &&
      kind (l.allow zone userID label.now store).1) MemoryCache.new past

def admittedOn (zone : Zone) (l : Limiter MemoryCache) (userID instant : Int)
    (past : List QuotaStep) : Nat :=
  resultsOn zone l userID instant (fun result => result.allowed) past

def refusedOn (zone : Zone) (l : Limiter MemoryCache) (userID instant : Int)
    (past : List QuotaStep) : Nat :=
  resultsOn zone l userID instant (fun result => !result.allowed) past

/-- Every call is admitted or refused. -/
theorem admittedOn_add_refusedOn (zone : Zone) (l : Limiter MemoryCache) (userID instant : Int)
    (past : List QuotaStep) :
    admittedOn zone l userID instant past + refusedOn zone l userID instant past =
      allowsOn zone userID instant past := by
  unfold admittedOn refusedOn resultsOn allowsOn
  rw [countSteps_and_add_not (fun _ label => QuotaStep.isAllowOn zone userID instant label)
    (fun store label => (l.allow zone userID label.now store).1.allowed), countSteps_label]

theorem allowsOn_snoc_mark (zone : Zone) (userID instant markedAt : Int)
    (past later : List QuotaStep) :
    allowsOn zone userID instant (past ++ ⟨.markVIP userID, markedAt⟩ :: later) =
      allowsOn zone userID instant past + allowsOn zone userID instant later := by
  have notCall : QuotaStep.isAllowOn zone userID instant ⟨.markVIP userID, markedAt⟩ = false := by
    simp [QuotaStep.isAllowOn]
  rw [allowsOn, List.countP_append, List.countP_cons, notCall]
  rfl

/-- After `MarkVIP`, which succeeds, the calls of that day are admitted up to the
quota of a VIP less all calls before it, admitted or refused. -/
theorem upgrade_admits_iff {json : MessageJson} {zone : Zone} {freeDaily vipDaily : Int}
    {vipUsers : GoMap Int Bool} {past later : List QuotaStep} {userID upgradedAt now : Int}
    (clock : ((past ++ ⟨.markVIP userID, upgradedAt⟩ :: later).map QuotaStep.now ++ [now]).Pairwise
      (· ≤ ·))
    (sameDay : zone.localDay upgradedAt = zone.localDay now) :
    let l := overMemory json freeDaily vipDaily vipUsers
    (l.markVIP userID upgradedAt
        (run (l.step zone MemoryCache.cleanExpired) MemoryCache.new past)).1 = .ok () ∧
      ((resultAfter zone l (past ++ ⟨.markVIP userID, upgradedAt⟩ :: later) userID now).allowed =
          true ↔
        (allowsOn zone userID now later : Int) <
          vipDaily - (admittedOn zone l userID now past + refusedOn zone l userID now past)) := by
  have inTime : now ≤ upgradedAt + vipTTL := by
    have within := zone.shortDays upgradedAt now sameDay
    have longer : 48 * hour ≤ vipTTL := by decide
    omega
  have marked : markedAt (MemoryCache.ttlCache json).alive userID now
      (past ++ ⟨.markVIP userID, upgradedAt⟩ :: later) = true := by
    rw [markedAt, List.any_eq_true]
    refine ⟨⟨.markVIP userID, upgradedAt⟩, by simp, ?_⟩
    rw [QuotaStep.isMarkAt, decide_eq_true_eq]
    exact ⟨rfl, decide_eq_true inTime⟩
  have counted := admittedOn_add_refusedOn zone (overMemory json freeDaily vipDaily vipUsers) userID
    now past
  refine ⟨rfl, ?_⟩
  rw [resultAfter_eq clock]
  dsimp only
  rw [limitAt, marked, Bool.or_true, if_pos rfl, allowsOn_snoc_mark, ← counted, decide_eq_true_iff]
  change ((admittedOn _ _ _ _ past + refusedOn _ _ _ _ past + allowsOn zone userID now later + 1 :
    Nat) : Int) ≤ vipDaily ↔ _
  omega

/-! ### Refused calls -/

namespace UpgradeSample

/-- Calls of user 7 in one second. -/
def calls (count : Nat) : List QuotaStep :=
  (List.range count).map fun at_ => ⟨.allow 7, at_⟩

end UpgradeSample

open QuotaSample UpgradeSample in
/-- Two calls with a quota of two, then an upgrade: the first of three is
admitted. -/
theorem upgrade_admits_iff_first :
    (resultAfter (.fixed 0) (overMemory json 2 5 ∅) (calls 2 ++ [⟨.markVIP 7, 20⟩]) 7 30).allowed =
      true := by
  have clock : ((calls 2 ++ (⟨.markVIP 7, 20⟩ : QuotaStep) :: []).map QuotaStep.now ++
      [(30 : Int)]).Pairwise (· ≤ ·) := by decide
  have sameDay : (Zone.fixed 0).localDay 20 = (Zone.fixed 0).localDay 30 := rfl
  have upgraded := @upgrade_admits_iff json _ 2 5 ∅ _ _ _ _ _ clock sameDay
  exact upgraded.2.mpr (by decide +kernel)

open QuotaSample UpgradeSample in
/-- After ten calls, two of them admitted, none of the three calls a VIP would
have left is. -/
theorem refused_calls_use_quota :
    admittedOn (.fixed 0) (overMemory json 2 5 ∅) 7 30 (calls 10) = 2 ∧
      ¬ ∀ (zone : Zone) (freeDaily vipDaily : Int) (past later : List QuotaStep)
        (userID upgradedAt now : Int), freeDaily < vipDaily →
        ((past ++ ⟨.markVIP userID, upgradedAt⟩ :: later).map QuotaStep.now ++ [now]).Pairwise
          (· ≤ ·) →
        zone.localDay upgradedAt = zone.localDay now →
        ¬ (overMemory json freeDaily vipDaily ∅).CountsAsVIP past userID upgradedAt →
        (allowsOn zone userID now later : Int) <
          vipDaily - admittedOn zone (overMemory json freeDaily vipDaily ∅) userID now past →
        (resultAfter zone (overMemory json freeDaily vipDaily ∅)
          (past ++ ⟨.markVIP userID, upgradedAt⟩ :: later) userID now).allowed = true := by
  have admitted : admittedOn (.fixed 0) (overMemory json 2 5 ∅) 7 30 (calls 10) = 2 := by
    decide +kernel
  refine ⟨admitted, ?_⟩
  intro always
  have notVIP : ¬ (overMemory json 2 5 ∅).CountsAsVIP (calls 10) 7 20 := by
    rintro (listed | ⟨label, member, isMark, -⟩)
    · exact absurd listed (by decide)
    · obtain ⟨at_, -, rfl⟩ := List.mem_map.mp member
      cases isMark
  have next := always (.fixed 0) 2 5 (calls 10) [] 7 20 30 (by decide) (by decide) rfl notVIP
    (by rw [admitted]; decide)
  exact absurd next (by decide +kernel)

end Limiter

end AimServer
