import AimServer.Agent.Cache

/-!
Contract: what the users of the agent cache rely on.

Owns: the values a cache shows at each instant, the laws a working cache keeps
them by, and the proof that `MemoryCache` with its cleanup keeps them.

Does not own: the history lists. For the other keys they are calls that change
nothing.

The laws compare what is found from the instant of a call on. An entry that is
deleted after its deadline is then the same as one that stays, and a counter
may keep its first deadline or move it with every call.
-/

namespace AimServer

open AimServer.Lib

/-- A cache that stores texts until a deadline and never fails. -/
structure TtlCache {σ : Type} (cache : Cache σ) (clean : Int → σ → σ) where
  new : σ
  find : Bytes → Int → σ → Option Bytes
  alive : Int → Int → Bool
  new_find : ∀ key instant, find key instant new = none
  alive_of_lt : ∀ {deadline now : Int}, now < deadline → alive deadline now = true
  alive_mono : ∀ {deadline later now : Int}, deadline ≤ later → alive deadline now = true →
    alive later now = true
  get_value : ∀ key now store,
    (cache.get key now store).1 = .ok ((find key now store).getD [])
  get_find : ∀ key now store other instant, now ≤ instant →
    find other instant (cache.get key now store).2 = find other instant store
  set_ok : ∀ key value ttl now store, (cache.set key value ttl now store).1 = .ok ()
  set_find : ∀ key value ttl now store other instant, now ≤ instant →
    find other instant (cache.set key value ttl now store).2 =
      if other = key then if alive (now + ttl) instant then some value else none
      else find other instant store
  incr_value : ∀ key ttl now store,
    (cache.incrWithTTL key ttl now store).1 =
      .ok (((find key now store).bind sscanfInt).getD 0 + 1)
  incr_other : ∀ key ttl now store other instant, now ≤ instant → other ≠ key →
    find other instant (cache.incrWithTTL key ttl now store).2 = find other instant store
  /-- A counter is found until the deadline it had and the one of the last call. -/
  incr_find : ∀ key ttl now store instant, now ≤ instant → alive (now + ttl) instant = true →
    (find key now store = none ∨ find key instant store ≠ none) →
    find key instant (cache.incrWithTTL key ttl now store).2 =
      some (intText (((find key now store).bind sscanfInt).getD 0 + 1))
  clean_find : ∀ now store other instant, now ≤ instant →
    find other instant (clean now store) = find other instant store
  getHistory_find : ∀ userID limit now store other instant, now ≤ instant →
    find other instant (cache.getHistory userID limit now store).2 = find other instant store
  appendHistory_find : ∀ userID msg maxLen now store other instant, now ≤ instant →
    other ≠ historyKey userID →
    find other instant (cache.appendHistory userID msg maxLen now store).2 =
      find other instant store

/-- The value of an entry that has not expired. -/
def MemEntry.seen (now : Int) (entry : MemEntry) : Option Bytes :=
  if entry.expired now then none else some entry.value

namespace MemoryCache

def find (key : Bytes) (now : Int) (m : MemoryCache) : Option Bytes :=
  (m.store.lookup key).bind (MemEntry.seen now)

/-- An entry that has expired stays so. -/
theorem expired_mono {entry : MemEntry} {now instant : Int} (later : now ≤ instant)
    (expired : entry.expired now = true) : entry.expired instant = true := by
  unfold MemEntry.expired at expired ⊢
  cases isExpire : entry.expire with
  | none =>
      rw [isExpire] at expired
      cases expired
  | some expire =>
      rw [isExpire] at expired
      rw [decide_eq_true_eq] at expired ⊢
      omega

theorem find_put (key : Bytes) (entry : MemEntry) (m : MemoryCache) (other : Bytes)
    (instant : Int) :
    (m.put key entry).find other instant =
      if other = key then MemEntry.seen instant entry else m.find other instant := by
  rw [find, find, put, GoMap.lookup_insert]
  split <;> rfl

theorem seen_deadline (value : Bytes) (deadline instant : Int) :
    MemEntry.seen instant ⟨value, some deadline⟩ =
      if instant ≤ deadline then some value else none := by
  simp only [MemEntry.seen, MemEntry.expired, decide_eq_true_eq]
  split
  · rw [if_neg (by omega)]
  · rw [if_pos (by omega)]

/-- Deleting an expired entry is not seen. -/
theorem find_remove_expired {key : Bytes} {entry : MemEntry} {now instant : Int} {m : MemoryCache}
    (found : m.store.lookup key = some entry) (expired : entry.expired now = true)
    (later : now ≤ instant) (other : Bytes) :
    (m.remove key).find other instant = m.find other instant := by
  rw [find, find, remove, GoMap.lookup_erase]
  split
  · rename_i same
    subst same
    rw [found, Option.bind_some, MemEntry.seen, if_pos (expired_mono later expired)]
    rfl
  · rfl

theorem get_cases (key : Bytes) (now : Int) (m : MemoryCache) :
    m.get key now = ((m.find key now).getD [], m) ∨
      ∃ entry, m.store.lookup key = some entry ∧ entry.expired now = true ∧
        m.get key now = ((m.find key now).getD [], m.remove key) := by
  rw [find]
  unfold get
  cases found : m.store.lookup key with
  | none => exact Or.inl rfl
  | some entry =>
      dsimp only [Option.bind_some, MemEntry.seen]
      by_cases expired : entry.expired now = true
      · rw [if_pos expired, if_pos expired]
        exact Or.inr ⟨entry, rfl, expired, rfl⟩
      · rw [if_neg expired, if_neg expired]
        exact Or.inl rfl

theorem incrWithTTL_eq (key : Bytes) (ttl now : Int) (m : MemoryCache) :
    m.incrWithTTL key ttl now =
      (((m.find key now).bind sscanfInt).getD 0 + 1,
        m.put key ⟨intText (((m.find key now).bind sscanfInt).getD 0 + 1), some (now + ttl)⟩) := by
  have first : intText (0 + 1) = str "1" := by decide +kernel
  rw [find]
  unfold incrWithTTL
  cases found : m.store.lookup key with
  | none =>
      dsimp only [Option.bind_none, Option.getD_none]
      rw [first]
      rfl
  | some entry =>
      dsimp only [Option.bind_some, MemEntry.seen]
      by_cases expired : entry.expired now = true
      · rw [if_pos expired, if_pos expired]
        dsimp only [Option.bind_none, Option.getD_none]
        rw [first]
        rfl
      · rw [if_neg expired, if_neg expired]
        rfl

theorem find_cleanExpired {now instant : Int} (later : now ≤ instant) (m : MemoryCache)
    (other : Bytes) : (m.cleanExpired now).find other instant = m.find other instant := by
  rw [find, find, cleanExpired, GoMap.lookup_keepIf]
  cases m.store.lookup other with
  | none => rfl
  | some entry =>
      rw [Option.filter_some]
      by_cases expired : entry.expired now = true
      · rw [expired, Option.bind_some, MemEntry.seen, if_pos (expired_mono later expired)]
        rfl
      · rw [Bool.not_eq_true] at expired
        rw [expired]
        rfl

/-- The memory cache is a working cache: an entry is found up to its deadline. -/
def ttlCache (json : MessageJson) : TtlCache (cache json) cleanExpired where
  new := new
  find := find
  alive deadline now := now ≤ deadline
  new_find := by
    intro key instant
    rfl
  alive_of_lt := by
    intro deadline now early
    exact decide_eq_true (le_of_lt early)
  alive_mono := by
    intro deadline later now le inTime
    exact decide_eq_true (le_trans (of_decide_eq_true inTime) le)
  get_value := by
    intro key now m
    show Except.ok (m.get key now).1 = _
    rcases get_cases key now m with isGet | ⟨entry, -, -, isGet⟩
    · rw [isGet]
    · rw [isGet]
  get_find := by
    intro key now m other instant later
    show (m.get key now).2.find other instant = _
    rcases get_cases key now m with isGet | ⟨entry, found, expired, isGet⟩
    · rw [isGet]
    · rw [isGet]
      exact find_remove_expired found expired later other
  set_ok := by
    intro key value ttl now m
    rfl
  set_find := by
    intro key value ttl now m other instant later
    show (m.put key ⟨value, some (now + ttl)⟩).find other instant = _
    rw [find_put, seen_deadline]
    simp only [decide_eq_true_eq]
  incr_value := by
    intro key ttl now m
    show Except.ok (m.incrWithTTL key ttl now).1 = _
    rw [incrWithTTL_eq]
  incr_other := by
    intro key ttl now m other instant later different
    show (m.incrWithTTL key ttl now).2.find other instant = _
    rw [incrWithTTL_eq, find_put, if_neg different]
  incr_find := by
    intro key ttl now m instant later inTime _
    show (m.incrWithTTL key ttl now).2.find key instant = _
    rw [incrWithTTL_eq, find_put, if_pos rfl, seen_deadline, if_pos (of_decide_eq_true inTime)]
  clean_find := by
    intro now m other instant later
    exact find_cleanExpired later m other
  getHistory_find := by
    intro userID limit now m other instant later
    rfl
  appendHistory_find := by
    intro userID msg maxLen now m other instant later different
    show (m.appendHistory json userID msg maxLen).find other instant = _
    rw [appendHistory, find_put, if_neg different]

end MemoryCache

end AimServer
