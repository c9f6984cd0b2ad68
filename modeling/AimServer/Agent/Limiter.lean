import AimServer.Agent.TtlCache
import AimServer.Lib.Run

/-!
Contract: the daily quota of the agent service.

Owns: `MarkVIP`, `IsVIP` and `Allow` of the limiter over any cache, the calls
of any users on one limiter as a machine, and what a working cache holds after
such calls: for each user the number of calls of the day and the VIP mark.

Does not own: who calls the limiter.

`Allow` reads the clock for the VIP mark, for the date and for the counter. It
is one event here, at one instant.
-/

namespace AimServer

open AimServer.Lib

/-- `ratelimit.Result`. -/
structure QuotaResult where
  allowed : Bool
  used : Int
  limit : Int
  isVIP : Bool
deriving DecidableEq, Repr

/-- `vip:%d`. -/
def vipKey (userID : Int) : Bytes :=
  str "vip:" ++ intText userID

/-- `ratelimit:agent:%d:%s`. -/
def quotaKey (userID : Int) (date : Bytes) : Bytes :=
  str "ratelimit:agent:" ++ (intText userID ++ 58 :: date)

def vipTTL : Int := 3650 * 24 * hour

def quotaTTL : Int := 48 * hour

structure Limiter (σ : Type) where
  cache : Cache σ
  enabled : Bool
  freeDaily : Int
  vipDaily : Int
  vipUsers : GoMap Int Bool

namespace Limiter

variable {σ : Type}

/-- The static list of the configuration. -/
def isListed (l : Limiter σ) (userID : Int) : Bool :=
  (l.vipUsers.lookup userID).getD false

def markVIP (l : Limiter σ) (userID now : Int) (store : σ) : Except String Unit × σ :=
  l.cache.set (vipKey userID) (str "1") vipTTL now store

def isVIP (l : Limiter σ) (userID now : Int) (store : σ) : Bool × σ :=
  if l.isListed userID then (true, store)
  else
    match l.cache.get (vipKey userID) now store with
    | (.ok value, store) => (value = str "1", store)
    | (.error _, store) => (false, store)

/-- `Allow`: a cache that fails lets the call pass. -/
def allow (zone : Zone) (l : Limiter σ) (userID now : Int) (store : σ) : QuotaResult × σ :=
  if l.enabled then
    let (isVIP, store) := l.isVIP userID now store
    let limit := if isVIP then l.vipDaily else l.freeDaily
    match l.cache.incrWithTTL (quotaKey userID (today zone now)) quotaTTL now store with
    | (.error _, store) => (⟨true, -1, limit, isVIP⟩, store)
    | (.ok n, store) => (⟨n ≤ limit, n, limit, isVIP⟩, store)
  else (⟨true, -1, -1, false⟩, store)

end Limiter

/-! ### Calls of any users -/

inductive QuotaCall where
  | allow (userID : Int)
  | markVIP (userID : Int)
  | cleanExpired
deriving DecidableEq, Repr

/-- A call and the instant it is made at. -/
structure QuotaStep where
  call : QuotaCall
  now : Int
deriving DecidableEq, Repr

namespace QuotaStep

/-- `Allow` for a user on the local day of an instant. -/
def isAllowOn (zone : Zone) (userID instant : Int) (label : QuotaStep) : Bool :=
  label.call = .allow userID ∧ zone.localDay label.now = zone.localDay instant

/-- `MarkVIP` for a user, with a mark that `alive` still sees. -/
def isMarkAt (alive : Int → Int → Bool) (userID instant : Int) (label : QuotaStep) : Bool :=
  label.call = .markVIP userID ∧ alive (label.now + vipTTL) instant

/-- A call of the user. -/
def isOf (userID : Int) (label : QuotaStep) : Bool :=
  label.call = .allow userID ∨ label.call = .markVIP userID

end QuotaStep

/-- How often a user has called `Allow` on the local day of an instant. -/
def allowsOn (zone : Zone) (userID instant : Int) (past : List QuotaStep) : Nat :=
  past.countP (QuotaStep.isAllowOn zone userID instant)

/-- Some mark of the user is seen. -/
def markedAt (alive : Int → Int → Bool) (userID instant : Int) (past : List QuotaStep) : Bool :=
  past.any (QuotaStep.isMarkAt alive userID instant)

namespace Limiter

variable {σ : Type}

def step (zone : Zone) (clean : Int → σ → σ) (l : Limiter σ) (store : σ) (label : QuotaStep) : σ :=
  match label.call with
  | .allow userID => (l.allow zone userID label.now store).2
  | .markVIP userID => (l.markVIP userID label.now store).2
  | .cleanExpired => clean label.now store

/-- The limit in force for a user after some calls. -/
def limitAt (alive : Int → Int → Bool) (l : Limiter σ) (userID instant : Int)
    (past : List QuotaStep) : Int :=
  if l.isListed userID || markedAt alive userID instant past then l.vipDaily else l.freeDaily

end Limiter

/-! ### The keys -/

theorem vipKey_injective : Function.Injective vipKey := by
  intro first second same
  exact intText_injective (List.append_cancel_left same)

theorem quotaKey_eq_iff {zone : Zone} {first second instant later : Int} :
    quotaKey first (today zone instant) = quotaKey second (today zone later) ↔
      first = second ∧ zone.localDay instant = zone.localDay later := by
  constructor
  · intro same
    obtain ⟨sameUser, sameDate⟩ := intText_colon_inj (List.append_cancel_left same)
    exact ⟨sameUser, today_eq_iff.mp sameDate⟩
  · rintro ⟨rfl, sameDay⟩
    rw [today_eq_iff.mpr sameDay]

private theorem key_ne_of_head {first second rest other : Bytes}
    (different : first.head? ≠ second.head?) (firstText : first ≠ []) (secondText : second ≠ []) :
    first ++ rest ≠ second ++ other := by
  intro same
  have heads := congrArg List.head? same
  rw [List.head?_append_of_ne_nil _ firstText, List.head?_append_of_ne_nil _ secondText] at heads
  exact different heads

theorem vipKey_ne_quotaKey (first second : Int) (date : Bytes) :
    vipKey first ≠ quotaKey second date :=
  key_ne_of_head (by decide +kernel) (by decide +kernel) (by decide +kernel)

theorem vipKey_ne_historyKey (first second : Int) : vipKey first ≠ historyKey second :=
  key_ne_of_head (by decide +kernel) (by decide +kernel) (by decide +kernel)

theorem quotaKey_ne_historyKey (first second : Int) (date : Bytes) :
    quotaKey first date ≠ historyKey second :=
  key_ne_of_head (by decide +kernel) (by decide +kernel) (by decide +kernel)

/-! ### What the cache holds -/

section Metered

variable {σ : Type} {zone : Zone} {l : Limiter σ} {clean : Int → σ → σ}
  {laws : TtlCache l.cache clean} {past : List QuotaStep} {userID before now : Int} {store : σ}

/-- From an instant on the cache shows the number of calls of each user on the
day that is asked for, and the VIP mark of each user. -/
structure Metered (zone : Zone) (laws : TtlCache l.cache clean) (past : List QuotaStep) (now : Int)
    (store : σ) : Prop where
  times : ∀ label ∈ past, label.now ≤ now
  count : ∀ userID instant, now ≤ instant →
    laws.find (quotaKey userID (today zone instant)) instant store =
      if allowsOn zone userID instant past = 0 then none
      else some (intText (allowsOn zone userID instant past))
  mark : ∀ userID instant, now ≤ instant →
    laws.find (vipKey userID) instant store =
      if markedAt laws.alive userID instant past then some (str "1") else none

theorem metered_new (now : Int) : Metered zone laws [] now laws.new := by
  refine ⟨?_, ?_, ?_⟩
  · intro label member
    cases member
  · intro userID instant _
    exact laws.new_find _ _
  · intro userID instant _
    exact laws.new_find _ _

theorem Metered.mono (metered : Metered zone laws past before store) (later : before ≤ now) :
    Metered zone laws past now store where
  times label member := le_trans (metered.times label member) later
  count userID instant le := metered.count userID instant (le_trans later le)
  mark userID instant le := metered.mark userID instant (le_trans later le)

/-- A call that shows the same texts from its instant on. -/
theorem Metered.congr {next : σ} (metered : Metered zone laws past now store)
    (count : ∀ userID instant, now ≤ instant →
      laws.find (quotaKey userID (today zone instant)) instant next =
        laws.find (quotaKey userID (today zone instant)) instant store)
    (mark : ∀ userID instant, now ≤ instant →
      laws.find (vipKey userID) instant next = laws.find (vipKey userID) instant store) :
    Metered zone laws past now next where
  times := metered.times
  count userID instant le := (count userID instant le).trans (metered.count userID instant le)
  mark userID instant le := (mark userID instant le).trans (metered.mark userID instant le)

/-- `IsVIP` is the static list or the mark, and changes nothing that is seen. -/
theorem Metered.isVIP_eq (metered : Metered zone laws past now store) (userID : Int) :
    (l.isVIP userID now store).1 =
        (l.isListed userID || markedAt laws.alive userID now past) ∧
      Metered zone laws past now (l.isVIP userID now store).2 := by
  unfold Limiter.isVIP
  by_cases listed : l.isListed userID = true
  · rw [if_pos listed, listed]
    exact ⟨rfl, metered⟩
  · rw [if_neg listed]
    have value := laws.get_value (vipKey userID) now store
    have kept : Metered zone laws past now (l.cache.get (vipKey userID) now store).2 :=
      metered.congr (fun _ instant le => laws.get_find _ now store _ instant le)
        (fun _ instant le => laws.get_find _ now store _ instant le)
    rw [metered.mark userID now le_rfl] at value
    generalize l.cache.get (vipKey userID) now store = got at value kept
    obtain ⟨result, next⟩ := got
    dsimp only at value kept
    rw [value]
    refine ⟨?_, kept⟩
    dsimp only
    rw [Bool.not_eq_true] at listed
    rw [listed, Bool.false_or]
    cases markedAt laws.alive userID now past with
    | true => rfl
    | false => decide +kernel

/-- The result of `Allow`. -/
theorem Metered.allow_result (metered : Metered zone laws past now store)
    (enabled : l.enabled = true) (userID : Int) :
    (l.allow zone userID now store).1 =
      ⟨((allowsOn zone userID now past + 1 : Nat) : Int) ≤ l.limitAt laws.alive userID now past,
        (allowsOn zone userID now past + 1 : Nat), l.limitAt laws.alive userID now past,
        l.isListed userID || markedAt laws.alive userID now past⟩ := by
  obtain ⟨isVIP, kept⟩ := metered.isVIP_eq userID
  have value := laws.incr_value (quotaKey userID (today zone now)) quotaTTL now
    (l.isVIP userID now store).2
  rw [kept.count userID now le_rfl] at value
  have number : ((if allowsOn zone userID now past = 0 then none
      else some (intText (allowsOn zone userID now past))).bind sscanfInt).getD 0 + 1 =
        ((allowsOn zone userID now past + 1 : Nat) : Int) := by
    split
    · rename_i zero
      rw [zero]
      rfl
    · rw [Option.bind_some, sscanfInt_intText]
      rfl
  rw [number] at value
  unfold Limiter.allow
  rw [if_pos enabled]
  dsimp only
  rw [isVIP]
  generalize l.cache.incrWithTTL (quotaKey userID (today zone now)) quotaTTL now
    (l.isVIP userID now store).2 = incremented at value
  obtain ⟨result, next⟩ := incremented
  dsimp only at value
  rw [value]
  rfl

/-- The store after `Allow`: what `IsVIP` left, with the counter of the day moved. -/
theorem allow_store (enabled : l.enabled = true) (userID now : Int) (store : σ) :
    (l.allow zone userID now store).2 =
      (l.cache.incrWithTTL (quotaKey userID (today zone now)) quotaTTL now
        (l.isVIP userID now store).2).2 := by
  unfold Limiter.allow
  rw [if_pos enabled]
  dsimp only
  split
  · rename_i isError
    rw [isError]
  · rename_i isOk
    rw [isOk]

theorem allowsOn_snoc (zone : Zone) (userID instant : Int) (past : List QuotaStep)
    (label : QuotaStep) :
    allowsOn zone userID instant (past ++ [label]) =
      allowsOn zone userID instant past +
        if QuotaStep.isAllowOn zone userID instant label then 1 else 0 := by
  rw [allowsOn, List.countP_append, List.countP_singleton]
  rfl

theorem allowsOn_congr {now instant : Int} (userID : Int) (past : List QuotaStep)
    (sameDay : zone.localDay now = zone.localDay instant) :
    allowsOn zone userID now past = allowsOn zone userID instant past := by
  have sameTest : QuotaStep.isAllowOn zone userID now =
      QuotaStep.isAllowOn zone userID instant := by
    funext label
    rw [QuotaStep.isAllowOn, sameDay, QuotaStep.isAllowOn]
  rw [allowsOn, sameTest, allowsOn]

theorem markedAt_snoc (alive : Int → Int → Bool) (userID instant : Int) (past : List QuotaStep)
    (label : QuotaStep) :
    markedAt alive userID instant (past ++ [label]) =
      (markedAt alive userID instant past || QuotaStep.isMarkAt alive userID instant label) := by
  rw [markedAt, List.any_append, List.any_cons, List.any_nil, Bool.or_false]
  rfl

theorem Metered.times_snoc (metered : Metered zone laws past now store) (call : QuotaCall) :
    ∀ label ∈ past ++ [⟨call, now⟩], label.now ≤ now := by
  intro label member
  rcases List.mem_append.mp member with earlier | isLast
  · exact metered.times label earlier
  · rw [List.mem_singleton.mp isLast]

/-- `Allow` counts the call for its user and its day, and for nobody else. -/
theorem metered_allow (metered : Metered zone laws past now store) (enabled : l.enabled = true)
    (userID : Int) :
    Metered zone laws (past ++ [⟨.allow userID, now⟩]) now (l.allow zone userID now store).2 := by
  rw [allow_store enabled]
  obtain ⟨-, kept⟩ := metered.isVIP_eq userID
  generalize (l.isVIP userID now store).2 = after at kept
  refine ⟨kept.times_snoc _, ?_, ?_⟩
  · intro other instant later
    rw [allowsOn_snoc]
    by_cases same : quotaKey other (today zone instant) = quotaKey userID (today zone now)
    · obtain ⟨rfl, sameDay⟩ := quotaKey_eq_iff.mp same
      have isCall : QuotaStep.isAllowOn zone other instant ⟨.allow other, now⟩ = true := by
        simp [QuotaStep.isAllowOn, sameDay]
      -- The counter of a day does not reach its deadline on that day.
      have inTime : laws.alive (now + quotaTTL) instant = true :=
        laws.alive_of_lt (zone.shortDays now instant sameDay.symm)
      have sameCount := allowsOn_congr other past sameDay.symm
      have current := kept.count other now le_rfl
      have future := kept.count other instant later
      rw [isCall, if_pos rfl, if_neg (Nat.succ_ne_zero _), same,
        laws.incr_find _ _ _ _ _ later inTime]
      · rw [current, sameCount]
        split
        · rename_i zero
          rw [zero]
          rfl
        · rw [Option.bind_some, sscanfInt_intText]
          rfl
      · rw [current, ← same, future, sameCount]
        split
        · exact Or.inl rfl
        · exact Or.inr (Option.some_ne_none _)
    · have notCall : QuotaStep.isAllowOn zone other instant ⟨.allow userID, now⟩ = false := by
        rw [QuotaStep.isAllowOn, decide_eq_false_iff_not]
        rintro ⟨isUser, sameDay⟩
        cases isUser
        exact same (quotaKey_eq_iff.mpr ⟨rfl, sameDay.symm⟩)
      rw [notCall, laws.incr_other _ _ _ _ _ _ later same]
      exact kept.count other instant later
  · intro other instant later
    rw [laws.incr_other _ _ _ _ _ _ later (vipKey_ne_quotaKey _ _ _), markedAt_snoc,
      kept.mark other instant later]
    simp [QuotaStep.isMarkAt]

/-- `MarkVIP` marks its user, with a deadline no earlier mark goes beyond. -/
theorem metered_markVIP (metered : Metered zone laws past now store) (userID : Int) :
    Metered zone laws (past ++ [⟨.markVIP userID, now⟩]) now (l.markVIP userID now store).2 := by
  unfold Limiter.markVIP
  refine ⟨metered.times_snoc _, ?_, ?_⟩
  · intro other instant later
    rw [laws.set_find _ _ _ _ _ _ _ later, if_neg (vipKey_ne_quotaKey _ _ _).symm, allowsOn_snoc]
    have notCall : QuotaStep.isAllowOn zone other instant ⟨.markVIP userID, now⟩ = false := by
      simp [QuotaStep.isAllowOn]
    rw [notCall]
    exact metered.count other instant later
  · intro other instant later
    rw [laws.set_find _ _ _ _ _ _ _ later, markedAt_snoc]
    by_cases own : other = userID
    · subst own
      have isLast : (markedAt laws.alive other instant past ||
          QuotaStep.isMarkAt laws.alive other instant ⟨.markVIP other, now⟩) =
            laws.alive (now + vipTTL) instant := by
        simp only [QuotaStep.isMarkAt, true_and, Bool.decide_eq_true]
        rw [Bool.or_eq_right_iff_imp]
        intro marked
        obtain ⟨label, member, isMark⟩ := List.any_eq_true.mp marked
        have earlier := metered.times label member
        exact laws.alive_mono (by omega) (of_decide_eq_true isMark).2
      rw [if_pos rfl, isLast]
    · have notMark : QuotaStep.isMarkAt laws.alive other instant ⟨.markVIP userID, now⟩ =
          false := by
        rw [QuotaStep.isMarkAt, decide_eq_false_iff_not]
        rintro ⟨isUser, -⟩
        cases isUser
        exact own rfl
      rw [if_neg (fun same => own (vipKey_injective same)), notMark, Bool.or_false]
      exact metered.mark other instant later

/-- A call that is neither counted nor a mark. -/
theorem Metered.skip (metered : Metered zone laws past now store) :
    Metered zone laws (past ++ [⟨.cleanExpired, now⟩]) now store := by
  refine ⟨metered.times_snoc _, ?_, ?_⟩
  · intro other instant later
    rw [allowsOn_snoc, metered.count other instant later]
    simp [QuotaStep.isAllowOn]
  · intro other instant later
    rw [markedAt_snoc, metered.mark other instant later]
    simp [QuotaStep.isMarkAt]

theorem metered_clean (metered : Metered zone laws past now store) :
    Metered zone laws past now (clean now store) :=
  metered.congr (fun _ instant le => laws.clean_find now store _ instant le)
    (fun _ instant le => laws.clean_find now store _ instant le)

theorem metered_step (metered : Metered zone laws past before store) (enabled : l.enabled = true)
    (label : QuotaStep) (later : before ≤ label.now) :
    Metered zone laws (past ++ [label]) label.now (l.step zone clean store label) := by
  obtain ⟨call, now⟩ := label
  have current := metered.mono later
  cases call with
  | allow userID => exact metered_allow current enabled userID
  | markVIP userID => exact metered_markVIP current userID
  | cleanExpired => exact (metered_clean current).skip

end Metered

end AimServer
