import AimServer.Agent.TtlCache
import AimServer.Lib.Run

/-!
Contract: the memory cache in the place of Redis.

Owns: the calls of the `Cache` interface as labels, both backends side by side,
the condition under which they return the same results, and the run in which a
counter starts again in Redis and goes on in memory.

The backends disagree on how long an entry lasts. `IncrWithTTL` moves the
deadline at every call in memory and sets it once in Redis; a history has a
deadline in Redis only; and at its deadline an entry is still there in memory.
Redis also tells lists, numbers and texts apart.
-/

namespace AimServer

open AimServer.Lib

inductive BackendCall where
  | getHistory (userID : Int) (limit : Nat)
  | appendHistory (userID : Int) (msg : Message) (maxLen : Nat)
  | clearHistory (userID : Int)
  | get (key : Bytes)
  | set (key value : Bytes) (ttl : Int)
  | del (key : Bytes)
  | incrWithTTL (key : Bytes) (ttl : Int)
deriving DecidableEq, Repr

inductive BackendResult where
  | history (result : Except String (List Message))
  | done (result : Except String Unit)
  | text (result : Except String Bytes)
  | count (result : Except String Int)
deriving DecidableEq

/-- Positive limits and lifetimes. -/
def BackendCall.Positive : BackendCall → Prop
  | .getHistory _ limit => 0 < limit
  | .appendHistory _ _ maxLen => 0 < maxLen
  | .set _ _ ttl => 0 < ttl
  | .incrWithTTL _ ttl => 0 < ttl
  | _ => True

def Cache.perform {σ : Type} (cache : Cache σ) (now : Int) (store : σ) :
    BackendCall → BackendResult × σ
  | .getHistory userID limit => (cache.getHistory userID limit now store).map .history id
  | .appendHistory userID msg maxLen =>
      (cache.appendHistory userID msg maxLen now store).map .done id
  | .clearHistory userID => (cache.clearHistory userID now store).map .done id
  | .get key => (cache.get key now store).map .text id
  | .set key value ttl => (cache.set key value ttl now store).map .done id
  | .del key => (cache.del key now store).map .done id
  | .incrWithTTL key ttl => (cache.incrWithTTL key ttl now store).map .count id

/-- A call on both backends, or a cleanup of the memory cache. -/
inductive BackendEvent where
  | call (call : BackendCall)
  | cleanExpired
deriving DecidableEq, Repr

structure BackendStep where
  event : BackendEvent
  now : Int
deriving DecidableEq, Repr

structure Backends where
  memory : MemoryCache
  redis : Redis

/-- `encoding/json` reads back what it wrote. Texts that are not UTF-8 come back
repaired, and a repaired text is not changed again. -/
structure JsonLaws (json : MessageJson) where
  clean : Message → Message
  clean_clean : ∀ msg, clean (clean msg) = clean msg
  message : ∀ msg, json.unmarshalMessage (json.marshalMessage msg) = some (clean msg)
  list : ∀ msgs, json.unmarshalList (json.marshalList msgs) = msgs.map clean

namespace RedisEntry

def isText (entry : RedisEntry) : Bool :=
  match entry.value with
  | .text _ => true
  | .list _ => false

def isList (entry : RedisEntry) : Bool :=
  match entry.value with
  | .text _ => false
  | .list _ => true

/-- `INCR` takes it. -/
def isCounter (entry : RedisEntry) : Bool :=
  match entry.value with
  | .text value => (Redis.integer value).any fun n => n + 1 < 2 ^ 63
  | .list _ => false

end RedisEntry

namespace Backends

def new : Backends := ⟨MemoryCache.new, Redis.empty⟩

def step (json : MessageJson) (b : Backends) (label : BackendStep) : Backends :=
  match label.event with
  | .call call =>
      ⟨((MemoryCache.cache json).perform label.now b.memory call).2,
        ((RedisCache.cache json).perform label.now b.redis call).2⟩
  | .cleanExpired => { b with memory := b.memory.cleanExpired label.now }

/-- A key that is to be read or counted is there in both backends or in none,
and in Redis it is a text, for a counter the text of a number below the last. A
history that is to be read or extended is there in both or in none, and in
Redis it is a list. -/
def alike (b : Backends) (label : BackendStep) : Bool :=
  match label.event with
  | .call (.get key) =>
      let inRedis := b.redis.find (RedisCache.fullKey key) label.now
      (b.memory.find key label.now).isSome = inRedis.isSome ∧ inRedis.all RedisEntry.isText
  | .call (.incrWithTTL key _) =>
      let inRedis := b.redis.find (RedisCache.fullKey key) label.now
      (b.memory.find key label.now).isSome = inRedis.isSome ∧ inRedis.all RedisEntry.isCounter
  | .call (.getHistory userID _) | .call (.appendHistory userID _ _) =>
      let inRedis := b.redis.find (RedisCache.fullKey (historyKey userID)) label.now
      (b.memory.store.lookup (historyKey userID)).isSome = inRedis.isSome ∧
        inRedis.all RedisEntry.isList
  | _ => true

end Backends

/-! ### Lists -/

theorem lastOf_of_length_le {α : Type} {limit : Nat} {items : List α}
    (short : items.length ≤ limit) : lastOf limit items = items := by
  rw [lastOf, Nat.sub_eq_zero_of_le short]
  rfl

/-- Cutting before an element is added is not seen after the next cut. -/
theorem lastOf_lastOf_append {α : Type} {limit : Nat} (items : List α) (last : α) :
    lastOf limit (lastOf limit items ++ [last]) = lastOf limit (items ++ [last]) := by
  by_cases short : items.length ≤ limit
  · rw [lastOf_of_length_le short]
  · have cut : items.length - limit ≤ items.length := Nat.sub_le _ _
    unfold lastOf
    rw [← List.drop_append_of_le_length cut, List.drop_drop]
    congr 1
    simp only [List.length_drop, List.length_append, List.length_singleton]
    omega

theorem map_lastOf {α β : Type} (f : α → β) (limit : Nat) (items : List α) :
    (lastOf limit items).map f = lastOf limit (items.map f) := by
  rw [lastOf, lastOf, List.map_drop, List.length_map]

/-- `LRANGE` and `LTRIM` from minus a limit to the end. -/
theorem range_last {α : Type} {limit : Nat} (positive : 0 < limit) (items : List α) :
    Redis.range (-limit) (-1) items = lastOf limit items := by
  unfold Redis.range lastOf
  dsimp only
  have negative : -(limit : Int) < 0 := by omega
  rw [if_pos negative, if_pos (show (-1 : Int) < 0 by decide)]
  have first : (max 0 ((items.length : Int) + -(limit : Int))).toNat = items.length - limit := by
    omega
  rw [first, List.take_of_length_le]
  rw [List.length_drop]
  omega

theorem lastOf_append_ne_nil {α : Type} {limit : Nat} (positive : 0 < limit) (items : List α)
    (last : α) : lastOf limit (items ++ [last]) ≠ [] := by
  intro empty
  have short := List.drop_eq_nil_iff.mp empty
  rw [List.length_append, List.length_singleton] at short
  omega

/-! ### Redis, key by key -/

namespace Redis

variable {db : Redis} {key : Bytes} {now : Int}

theorem lookup_put (key other : Bytes) (entry : RedisEntry) (db : Redis) :
    (db.put key entry).keys.lookup other =
      if other = key then some entry else db.keys.lookup other :=
  GoMap.lookup_insert _ _ _ _

theorem lookup_del (key other : Bytes) (db : Redis) :
    (db.del key).keys.lookup other = if other = key then none else db.keys.lookup other :=
  GoMap.lookup_erase _ _ _

theorem find_eq_some_iff {entry : RedisEntry} :
    db.find key now = some entry ↔ db.keys.lookup key = some entry ∧ entry.alive now = true :=
  Option.filter_eq_some_iff

theorem find_put_self {entry : RedisEntry} (alive : entry.alive now = true) :
    (db.put key entry).find key now = some entry :=
  find_eq_some_iff.mpr ⟨by rw [lookup_put, if_pos rfl], alive⟩

theorem lookup_put_put (first second : RedisEntry) (other : Bytes) :
    ((db.put key first).put key second).keys.lookup other =
      if other = key then some second else db.keys.lookup other := by
  rw [lookup_put, lookup_put]
  split <;> rfl

theorem integer_eq_some {value : Bytes} {n : Int} (isNumber : integer value = some n) :
    value = intText n ∧ -(2 ^ 63) ≤ n := by
  obtain ⟨-, isText⟩ := Option.filter_eq_some_iff.mp isNumber
  obtain ⟨written, low, -⟩ := of_decide_eq_true isText
  exact ⟨written.symm, low⟩

theorem integer_intText {n : Int} (low : -(2 ^ 63) ≤ n) (high : n < 2 ^ 63) :
    integer (intText n) = some n := by
  rw [integer, sscanfInt_intText, Option.filter_some, if_pos]
  exact decide_eq_true ⟨rfl, low, high⟩

end Redis

namespace RedisCache

variable {db : Redis} {now : Int}

theorem fullKey_injective : Function.Injective fullKey := by
  intro first second same
  exact List.append_cancel_left same

/-- The list a history has for Redis; a key that is gone has none. -/
def listOf (key : Bytes) (now : Int) (db : Redis) : List Bytes :=
  match db.find key now with
  | some ⟨.list items, _⟩ => items
  | _ => []

theorem getHistory_eq (json : MessageJson) {userID : Int} {limit : Nat} (positive : 0 < limit)
    (isList : ∀ value deadline, db.find (fullKey (historyKey userID)) now ≠
      some ⟨.text value, deadline⟩) :
    getHistory json userID limit now db =
      .ok ((lastOf limit (listOf (fullKey (historyKey userID)) now db)).filterMap
        json.unmarshalMessage) := by
  unfold getHistory Redis.lrange listOf
  cases found : db.find (fullKey (historyKey userID)) now with
  | none => simp only [lastOf, List.drop_nil, List.filterMap_nil]
  | some entry =>
      obtain ⟨value, deadline⟩ := entry
      cases value with
      | text value => exact absurd found (isList value deadline)
      | list items =>
          dsimp only
          rw [range_last positive]

/-- The three commands of `AppendHistory` on a list or a key that is gone. -/
theorem appendHistory_eq (json : MessageJson) {userID : Int} (msg : Message) {maxLen : Nat}
    (positive : 0 < maxLen)
    (isList : ∀ value deadline, db.find (fullKey (historyKey userID)) now ≠
      some ⟨.text value, deadline⟩) :
    (appendHistory json userID msg maxLen now db).1 = .ok () ∧
      ∀ other, (appendHistory json userID msg maxLen now db).2.keys.lookup other =
        if other = fullKey (historyKey userID) then
          some ⟨.list (lastOf maxLen (listOf (fullKey (historyKey userID)) now db ++
            [json.marshalMessage msg])), some (now + historyTTL)⟩
        else db.keys.lookup other := by
  generalize isKey : fullKey (historyKey userID) = key at isList
  have pushed : ∃ deadline, (∀ value, (⟨value, deadline⟩ : RedisEntry).alive now = true) ∧
      db.rpush key (json.marshalMessage msg) now =
        (.ok (), db.put key
          ⟨.list (listOf key now db ++ [json.marshalMessage msg]), deadline⟩) := by
    unfold Redis.rpush listOf
    cases found : db.find key now with
    | none => exact ⟨none, fun _ => rfl, rfl⟩
    | some entry =>
        obtain ⟨value, deadline⟩ := entry
        cases value with
        | text value => exact absurd found (isList value deadline)
        | list items => exact ⟨deadline, fun _ => (Redis.find_eq_some_iff.mp found).2, rfl⟩
  obtain ⟨deadline, alive, isPush⟩ := pushed
  have trimmed : (db.put key ⟨.list (listOf key now db ++ [json.marshalMessage msg]),
      deadline⟩).ltrim key (-maxLen) (-1) now =
        (.ok (), (db.put key ⟨.list (listOf key now db ++ [json.marshalMessage msg]),
          deadline⟩).put key ⟨.list (lastOf maxLen (listOf key now db ++
            [json.marshalMessage msg])), deadline⟩) := by
    unfold Redis.ltrim
    rw [Redis.find_put_self (alive _)]
    dsimp only
    rw [range_last positive, if_neg (lastOf_append_ne_nil positive _ _)]
  unfold appendHistory Redis.expire
  dsimp only
  rw [isKey, isPush]
  dsimp only
  rw [trimmed]
  dsimp only
  rw [Redis.find_put_self (alive _)]
  refine ⟨rfl, ?_⟩
  intro other
  dsimp only
  rw [Redis.lookup_put, Redis.lookup_put_put]
  split <;> rfl

end RedisCache

/-! ### The two backends side by side -/

namespace Backends

/-- The same messages, none of which the writer changes. -/
structure SameList {json : MessageJson} (laws : JsonLaws json) (items : List Bytes)
    (msgs : List Message) : Prop where
  read : items.map json.unmarshalMessage = msgs.map some
  kept : ∀ msg ∈ msgs, laws.clean msg = msg

/-- What an entry of the memory cache has to do with the one of Redis. Their
deadlines have nothing to do with each other. -/
inductive PairedEntry {json : MessageJson} (laws : JsonLaws json) :
    Option MemEntry → Option RedisEntry → Prop
  | noMemory (entry : Option RedisEntry) : PairedEntry laws none entry
  | noRedis (entry : Option MemEntry) : PairedEntry laws entry none
  | text (value : Bytes) (expire : Int) (deadline : Option Int) :
      PairedEntry laws (some ⟨value, some expire⟩) (some ⟨.text value, deadline⟩)
  | list (value : Bytes) (items : List Bytes) (deadline : Option Int)
      (same : SameList laws items (json.unmarshalList value)) :
      PairedEntry laws (some ⟨value, none⟩) (some ⟨.list items, deadline⟩)

def Paired {json : MessageJson} (laws : JsonLaws json) (b : Backends) : Prop :=
  ∀ key, PairedEntry laws (b.memory.store.lookup key)
    (b.redis.keys.lookup (RedisCache.fullKey key))

section Steps

variable {json : MessageJson} {laws : JsonLaws json} {b : Backends} {key : Bytes} {now : Int}

/-- A call on one key. -/
theorem Paired.update (paired : Paired laws b) (key : Bytes) {memory : MemoryCache} {redis : Redis}
    (inMemory : ∀ other, other ≠ key → memory.store.lookup other = b.memory.store.lookup other)
    (inRedis : ∀ other, other ≠ RedisCache.fullKey key →
      redis.keys.lookup other = b.redis.keys.lookup other)
    (own : PairedEntry laws (memory.store.lookup key)
      (redis.keys.lookup (RedisCache.fullKey key))) :
    Paired laws ⟨memory, redis⟩ := by
  intro other
  by_cases same : other = key
  · subst same
    exact own
  · show PairedEntry laws (memory.store.lookup other) _
    rw [inMemory other same, inRedis _ fun full => same (RedisCache.fullKey_injective full)]
    exact paired other

theorem lookup_put_self (entry : MemEntry) (m : MemoryCache) :
    (m.put key entry).store.lookup key = some entry :=
  AList.lookup_insert _

theorem lookup_put_ne {other : Bytes} (entry : MemEntry) (m : MemoryCache)
    (different : other ≠ key) : (m.put key entry).store.lookup other = m.store.lookup other :=
  AList.lookup_insert_ne different

/-- Dropping an entry of the memory cache. -/
theorem Paired.forget (paired : Paired laws b) {memory : MemoryCache}
    (fewer : ∀ key, memory.store.lookup key = none ∨
      memory.store.lookup key = b.memory.store.lookup key) :
    Paired laws { b with memory } := by
  intro key
  show PairedEntry laws (memory.store.lookup key) _
  rcases fewer key with gone | same
  · rw [gone]
    exact .noMemory _
  · rw [same]
    exact paired key

/-- A text that both backends show is the same. -/
theorem Paired.find_text (paired : Paired laws b) {value : Bytes} {deadline : Option Int}
    (inRedis : b.redis.find (RedisCache.fullKey key) now = some ⟨.text value, deadline⟩)
    (inMemory : b.memory.find key now ≠ none) : b.memory.find key now = some value := by
  have pair := paired key
  rw [(Redis.find_eq_some_iff.mp inRedis).1] at pair
  unfold MemoryCache.find at inMemory ⊢
  generalize b.memory.store.lookup key = entry at pair inMemory
  cases pair with
  | noMemory => exact absurd rfl inMemory
  | text value expire deadline =>
      rw [Option.bind_some, MemEntry.seen] at inMemory ⊢
      split at inMemory
      · exact absurd rfl inMemory
      · rename_i notExpired
        rw [if_neg notExpired]

/-- The messages of a history in the memory cache. -/
def messagesOf (json : MessageJson) (userID : Int) (m : MemoryCache) : List Message :=
  match m.store.lookup (historyKey userID) with
  | none => []
  | some entry => json.unmarshalList entry.value

theorem memory_getHistory_eq (userID : Int) (limit : Nat) (m : MemoryCache) :
    m.getHistory json userID limit = lastOf limit (messagesOf json userID m) := by
  unfold MemoryCache.getHistory messagesOf
  cases m.store.lookup (historyKey userID) with
  | none => simp only [lastOf, List.drop_nil]
  | some entry =>
      dsimp only
      split
      · rfl
      · rename_i short
        rw [lastOf_of_length_le (not_lt.mp short)]

/-- A history that both backends show, or none, is the same. -/
theorem Paired.sameList (paired : Paired laws b) {userID : Int}
    (there : b.memory.store.lookup (historyKey userID) = none ↔
      b.redis.find (RedisCache.fullKey (historyKey userID)) now = none)
    (isList : ∀ value deadline, b.redis.find (RedisCache.fullKey (historyKey userID)) now ≠
      some ⟨.text value, deadline⟩) :
    SameList laws (RedisCache.listOf (RedisCache.fullKey (historyKey userID)) now b.redis)
      (messagesOf json userID b.memory) := by
  have pair := paired (historyKey userID)
  unfold RedisCache.listOf messagesOf
  cases found : b.redis.find (RedisCache.fullKey (historyKey userID)) now with
  | none =>
      rw [there.mpr found]
      exact ⟨rfl, fun msg member => absurd member List.not_mem_nil⟩
  | some entry =>
      obtain ⟨value, deadline⟩ := entry
      cases value with
      | text value => exact absurd found (isList value deadline)
      | list items =>
          rw [(Redis.find_eq_some_iff.mp found).1] at pair
          generalize isEntry : b.memory.store.lookup (historyKey userID) = inMemory at pair
          cases pair with
          | noMemory =>
              rw [there.mp isEntry] at found
              cases found
          | list value items deadline same => exact same

/-- What is read from the last of two equal histories. -/
theorem SameList.read_last {items : List Bytes} {msgs : List Message}
    (same : SameList laws items msgs) (limit : Nat) :
    (lastOf limit items).filterMap json.unmarshalMessage = lastOf limit msgs := by
  have texts : (lastOf limit items).map json.unmarshalMessage = (lastOf limit msgs).map some := by
    rw [map_lastOf, same.read, ← map_lastOf]
  calc (lastOf limit items).filterMap json.unmarshalMessage
      = ((lastOf limit items).map json.unmarshalMessage).filterMap id := by
        rw [List.filterMap_map]
        rfl
    _ = ((lastOf limit msgs).map some).filterMap id := by rw [texts]
    _ = lastOf limit msgs := by
        rw [List.filterMap_map]
        exact List.filterMap_some

/-- One more message in both. -/
theorem SameList.append {items : List Bytes} {msgs : List Message}
    (same : SameList laws items msgs) (msg : Message) (maxLen : Nat) :
    SameList laws (lastOf maxLen (items ++ [json.marshalMessage msg]))
      (json.unmarshalList (json.marshalList (lastOf maxLen (lastOf maxLen msgs ++ [msg])))) := by
  have unchanged : msgs.map laws.clean = msgs :=
    (List.map_congr_left same.kept).trans (List.map_id _)
  constructor
  · rw [laws.list, lastOf_lastOf_append, map_lastOf, map_lastOf, map_lastOf, List.map_append,
      List.map_append, List.map_append, same.read, unchanged]
    simp only [List.map_cons, List.map_nil, laws.message]
  · intro read member
    rw [laws.list] at member
    obtain ⟨written, -, rfl⟩ := List.mem_map.mp member
    exact laws.clean_clean written

/-! ### Each call -/

theorem none_iff_of_isSome_eq {α β : Type} {first : Option α} {second : Option β}
    (same : first.isSome = second.isSome) : first = none ↔ second = none := by
  rw [← Option.isNone_iff_eq_none, ← Option.isNone_iff_eq_none, ← Option.not_isSome,
    ← Option.not_isSome, same]

theorem not_text_of_isList {found : Option RedisEntry}
    (allList : found.all RedisEntry.isList = true) (value : Bytes) (deadline : Option Int) :
    found ≠ some ⟨.text value, deadline⟩ := by
  rintro rfl
  cases allList

theorem counter_number {entry : RedisEntry} (isCounter : entry.isCounter = true) :
    ∃ n : Int, entry.value = .text (intText n) ∧ -(2 ^ 63) ≤ n ∧ n + 1 < 2 ^ 63 := by
  unfold RedisEntry.isCounter at isCounter
  split at isCounter
  · rename_i value isText
    cases isNumber : Redis.integer value with
    | none =>
        rw [isNumber] at isCounter
        cases isCounter
    | some n =>
        rw [isNumber] at isCounter
        obtain ⟨written, low⟩ := Redis.integer_eq_some isNumber
        exact ⟨n, by rw [isText, written], low, of_decide_eq_true isCounter⟩
  · cases isCounter

/-- The two results of a call. -/
def SameResult (json : MessageJson) (now : Int) (b : Backends) (call : BackendCall) : Prop :=
  ((MemoryCache.cache json).perform now b.memory call).1 =
    ((RedisCache.cache json).perform now b.redis call).1

theorem get_same (paired : Paired laws b) (alike : b.alike ⟨.call (.get key), now⟩ = true) :
    SameResult json now b (.get key) ∧ Paired laws (b.step json ⟨.call (.get key), now⟩) := by
  obtain ⟨sameThere, isText⟩ := of_decide_eq_true alike
  have there := none_iff_of_isSome_eq sameThere
  have inRedis : RedisCache.get key now b.redis = .ok ((b.memory.find key now).getD []) := by
    unfold RedisCache.get Redis.get
    cases found : b.redis.find (RedisCache.fullKey key) now with
    | none =>
        rw [there.mpr found]
        rfl
    | some entry =>
        obtain ⟨value, deadline⟩ := entry
        cases value with
        | list items =>
            rw [found] at isText
            cases isText
        | text value =>
            have shown : b.memory.find key now ≠ none := by
              intro absent
              rw [there.mp absent] at found
              cases found
            rw [paired.find_text found shown]
            rfl
  constructor
  · show BackendResult.text (.ok (b.memory.get key now).1) =
      BackendResult.text (RedisCache.get key now b.redis)
    rw [inRedis]
    rcases MemoryCache.get_cases key now b.memory with isGet | ⟨entry, -, -, isGet⟩
    · rw [isGet]
    · rw [isGet]
  · show Paired laws { b with memory := (b.memory.get key now).2 }
    apply paired.forget
    intro other
    rcases MemoryCache.get_cases key now b.memory with isGet | ⟨entry, -, -, isGet⟩
    · rw [isGet]
      exact Or.inr rfl
    · rw [isGet]
      show (b.memory.remove key).store.lookup other = none ∨ _
      rw [MemoryCache.remove, GoMap.lookup_erase]
      split
      · exact Or.inl rfl
      · exact Or.inr rfl

/-- `INCR` on a key that is gone or holds a number. -/
theorem redis_incr {db : Redis} {fullKey : Bytes} {count : Int}
    (counts : (db.find fullKey now = none ∧ count = 0) ∨ ∃ deadline,
      db.find fullKey now = some ⟨.text (intText count), deadline⟩ ∧ -(2 ^ 63) ≤ count ∧
        count + 1 < 2 ^ 63) :
    ∃ deadline, db.incr fullKey now =
      (.ok (count + 1), db.put fullKey ⟨.text (intText (count + 1)), deadline⟩) := by
  unfold Redis.incr
  rcases counts with ⟨absent, rfl⟩ | ⟨deadline, found, low, high⟩
  · rw [absent]
    exact ⟨none, rfl⟩
  · rw [found]
    dsimp only
    rw [Redis.integer_intText low (by omega)]
    dsimp only
    rw [if_neg (by omega)]
    exact ⟨deadline, rfl⟩

/-- `EXPIRE` changes a deadline and nothing else. -/
theorem redis_expire_put (fullKey : Bytes) (ttl now : Int) (value : RedisValue)
    (deadline : Option Int) (db : Redis) :
    ∃ later, ∀ other,
      ((db.put fullKey ⟨value, deadline⟩).expire fullKey ttl now).keys.lookup other =
        if other = fullKey then some ⟨value, later⟩ else db.keys.lookup other := by
  unfold Redis.expire
  split
  · exact ⟨deadline, fun other => Redis.lookup_put _ _ _ _⟩
  · rename_i entry found
    have isEntry := (Redis.find_eq_some_iff.mp found).1
    rw [Redis.lookup_put, if_pos rfl] at isEntry
    cases isEntry
    exact ⟨some (now + ttl), fun other => Redis.lookup_put_put _ _ _⟩

/-- `IncrWithTTL` of Redis: the next number, with some deadline. -/
theorem redis_incrWithTTL (ttl : Int) {db : Redis} {count : Int}
    (counts : (db.find (RedisCache.fullKey key) now = none ∧ count = 0) ∨ ∃ deadline,
      db.find (RedisCache.fullKey key) now = some ⟨.text (intText count), deadline⟩ ∧
        -(2 ^ 63) ≤ count ∧ count + 1 < 2 ^ 63) :
    (RedisCache.incrWithTTL key ttl now db).1 = .ok (count + 1) ∧
      ∃ deadline, ∀ other, (RedisCache.incrWithTTL key ttl now db).2.keys.lookup other =
        if other = RedisCache.fullKey key then some ⟨.text (intText (count + 1)), deadline⟩
        else db.keys.lookup other := by
  obtain ⟨deadline, isIncr⟩ := redis_incr counts
  unfold RedisCache.incrWithTTL
  rw [isIncr]
  refine ⟨rfl, ?_⟩
  dsimp only
  split
  · exact redis_expire_put _ _ _ _ _ _
  · exact ⟨deadline, fun other => Redis.lookup_put _ _ _ _⟩

theorem incr_same (paired : Paired laws b) {ttl : Int}
    (alike : b.alike ⟨.call (.incrWithTTL key ttl), now⟩ = true) :
    SameResult json now b (.incrWithTTL key ttl) ∧
      Paired laws (b.step json ⟨.call (.incrWithTTL key ttl), now⟩) := by
  obtain ⟨sameThere, isNumber⟩ := of_decide_eq_true alike
  have there := none_iff_of_isSome_eq sameThere
  have counts : (b.redis.find (RedisCache.fullKey key) now = none ∧
      ((b.memory.find key now).bind sscanfInt).getD 0 = 0) ∨ ∃ deadline,
        b.redis.find (RedisCache.fullKey key) now =
          some ⟨.text (intText (((b.memory.find key now).bind sscanfInt).getD 0)), deadline⟩ ∧
        -(2 ^ 63) ≤ ((b.memory.find key now).bind sscanfInt).getD 0 ∧
        ((b.memory.find key now).bind sscanfInt).getD 0 + 1 < 2 ^ 63 := by
    cases found : b.redis.find (RedisCache.fullKey key) now with
    | none =>
        rw [there.mpr found]
        exact Or.inl ⟨rfl, rfl⟩
    | some entry =>
        rw [found] at isNumber
        obtain ⟨n, isText, low, high⟩ := counter_number isNumber
        obtain ⟨value, deadline⟩ := entry
        cases isText
        have shown : b.memory.find key now ≠ none := by
          intro absent
          rw [there.mp absent] at found
          cases found
        rw [paired.find_text found shown, Option.bind_some, sscanfInt_intText]
        exact Or.inr ⟨deadline, rfl, low, high⟩
  obtain ⟨result, deadline, inRedis⟩ := redis_incrWithTTL ttl counts
  have inMemory := MemoryCache.incrWithTTL_eq key ttl now b.memory
  constructor
  · show BackendResult.count (.ok (b.memory.incrWithTTL key ttl now).1) =
      BackendResult.count (RedisCache.incrWithTTL key ttl now b.redis).1
    rw [result, inMemory]
  · show Paired laws ⟨(b.memory.incrWithTTL key ttl now).2,
      (RedisCache.incrWithTTL key ttl now b.redis).2⟩
    rw [inMemory]
    apply paired.update key
    · intro other different
      exact lookup_put_ne _ _ different
    · intro other different
      rw [inRedis, if_neg different]
    · rw [lookup_put_self, inRedis, if_pos rfl]
      exact .text _ _ _

theorem getHistory_same (paired : Paired laws b) {userID : Int} {limit : Nat}
    (positive : 0 < limit) (alike : b.alike ⟨.call (.getHistory userID limit), now⟩ = true) :
    SameResult json now b (.getHistory userID limit) ∧
      Paired laws (b.step json ⟨.call (.getHistory userID limit), now⟩) := by
  obtain ⟨sameThere, allList⟩ := of_decide_eq_true alike
  have there := none_iff_of_isSome_eq sameThere
  have isList := not_text_of_isList allList
  refine ⟨?_, paired⟩
  show BackendResult.history (.ok (b.memory.getHistory json userID limit)) =
    BackendResult.history (RedisCache.getHistory json userID limit now b.redis)
  rw [memory_getHistory_eq, RedisCache.getHistory_eq json positive isList,
    (paired.sameList there isList).read_last]

theorem appendHistory_same (paired : Paired laws b) {userID : Int} {msg : Message} {maxLen : Nat}
    (positive : 0 < maxLen)
    (alike : b.alike ⟨.call (.appendHistory userID msg maxLen), now⟩ = true) :
    SameResult json now b (.appendHistory userID msg maxLen) ∧
      Paired laws (b.step json ⟨.call (.appendHistory userID msg maxLen), now⟩) := by
  obtain ⟨sameThere, allList⟩ := of_decide_eq_true alike
  have there := none_iff_of_isSome_eq sameThere
  have isList := not_text_of_isList allList
  obtain ⟨result, inRedis⟩ := RedisCache.appendHistory_eq json msg positive isList
  have newList := (paired.sameList there isList).append msg maxLen
  have inMemory : b.memory.appendHistory json userID msg maxLen =
      b.memory.put (historyKey userID)
        ⟨json.marshalList
          (lastOf maxLen (lastOf maxLen (messagesOf json userID b.memory) ++ [msg])), none⟩ := by
    unfold MemoryCache.appendHistory
    dsimp only
    rw [memory_getHistory_eq]
    split
    · rfl
    · rename_i short
      rw [lastOf_of_length_le (not_lt.mp short)]
  constructor
  · show BackendResult.done (.ok ()) =
      BackendResult.done (RedisCache.appendHistory json userID msg maxLen now b.redis).1
    rw [result]
  · show Paired laws ⟨b.memory.appendHistory json userID msg maxLen,
      (RedisCache.appendHistory json userID msg maxLen now b.redis).2⟩
    rw [inMemory]
    apply paired.update (historyKey userID)
    · intro other different
      exact lookup_put_ne _ _ different
    · intro other different
      rw [inRedis, if_neg different]
    · rw [lookup_put_self, inRedis, if_pos rfl]
      exact .list _ _ _ newList

/-- Deleting a key from both. -/
theorem paired_remove (paired : Paired laws b) (key : Bytes) :
    Paired laws ⟨b.memory.remove key, b.redis.del (RedisCache.fullKey key)⟩ := by
  apply paired.update key
  · intro other different
    exact AList.lookup_erase_ne different
  · intro other different
    rw [Redis.lookup_del, if_neg different]
  · rw [Redis.lookup_del, if_pos rfl]
    exact .noRedis _

theorem paired_set (paired : Paired laws b) (key value : Bytes) (ttl now : Int) :
    Paired laws ⟨b.memory.set key value ttl now,
      b.redis.set (RedisCache.fullKey key) value ttl now⟩ := by
  unfold MemoryCache.set Redis.set
  apply paired.update key
  · intro other different
    exact lookup_put_ne _ _ different
  · intro other different
    rw [Redis.lookup_put, if_neg different]
  · rw [lookup_put_self, Redis.lookup_put, if_pos rfl]
    exact .text _ _ _

theorem paired_cleanExpired (paired : Paired laws b) (now : Int) :
    Paired laws { b with memory := b.memory.cleanExpired now } := by
  apply paired.forget
  intro key
  rw [MemoryCache.cleanExpired, GoMap.lookup_keepIf]
  cases b.memory.store.lookup key with
  | none => exact Or.inl rfl
  | some entry =>
      rw [Option.filter_some]
      split
      · exact Or.inr rfl
      · exact Or.inl rfl

/-- A call on backends that are alike gives the same result. -/
theorem call_same (paired : Paired laws b) {call : BackendCall} (positive : call.Positive)
    (alike : b.alike ⟨.call call, now⟩ = true) :
    SameResult json now b call ∧ Paired laws (b.step json ⟨.call call, now⟩) := by
  cases call with
  | getHistory userID limit => exact getHistory_same paired positive alike
  | appendHistory userID msg maxLen => exact appendHistory_same paired positive alike
  | clearHistory userID => exact ⟨rfl, paired_remove paired (historyKey userID)⟩
  | get key => exact get_same paired alike
  | set key value ttl => exact ⟨rfl, paired_set paired key value ttl now⟩
  | del key => exact ⟨rfl, paired_remove paired key⟩
  | incrWithTTL key ttl => exact incr_same paired alike

theorem paired_step (paired : Paired laws b) (label : BackendStep)
    (positive : ∀ call, label.event = .call call → call.Positive) (alike : b.alike label = true) :
    Paired laws (b.step json label) := by
  obtain ⟨event, now⟩ := label
  cases event with
  | call call => exact (call_same paired (positive call rfl) alike).2
  | cleanExpired => exact paired_cleanExpired paired now

end Steps

/-- In a run in which every call finds the backends alike, every call returns the
same from both. -/
theorem backends_same_results {json : MessageJson} (laws : JsonLaws json)
    {labels past rest : List BackendStep} {call : BackendCall} {now : Int}
    (positive : ∀ label ∈ labels, ∀ call, label.event = .call call → call.Positive)
    (alike : AllSteps (step json) (fun b label => b.alike label = true) new labels)
    (split : labels = past ++ ⟨.call call, now⟩ :: rest) :
    SameResult json now (run (step json) new past) call := by
  subst split
  have admitted := alike.admitted rfl
  rw [allSteps_append] at alike
  have admitted' : AllSteps (step json) (fun b label => b.alike label = true ∧
      ∀ call, label.event = .call call → call.Positive) new past := by
    apply allSteps_of_splits
    intro earlier label later isPast
    refine ⟨alike.1.admitted isPast, positive label ?_⟩
    rw [isPast]
    simp
  have paired : Paired laws (run (step json) new past) := by
    refine run_invariant (Paired laws) ?_ (fun key => .noMemory _) admitted'
    intro b label paired holds
    exact paired_step paired label holds.2 holds.1
  exact (call_same paired (positive ⟨.call call, now⟩ (by simp) call rfl) admitted).1

/-! ### Two runs -/

namespace Sample

def hello : Message := ⟨str "user", str "hello", 0⟩

def helloText : Bytes := str "\x7b\"role\":\"user\",\"content\":\"hello\",\"time\":0\x7d"

def helloTexts : Nat → Bytes
  | 0 => []
  | 1 => helloText
  | count + 2 => helloText ++ 44 :: helloTexts (count + 1)

/-- The JSON of lists of one message; every other message is taken for it. -/
def json : MessageJson where
  marshalMessage _ := helloText
  unmarshalMessage _ := some hello
  marshalList msgs := 91 :: helloTexts msgs.length ++ [93]
  unmarshalList text := List.replicate (text.count 123) hello

theorem count_helloTexts (count : Nat) : (helloTexts count).count 123 = count := by
  have once : helloText.count 123 = 1 := by decide +kernel
  induction count with
  | zero => rfl
  | succ count inductionHypothesis =>
      cases count with
      | zero => exact once
      | succ count =>
          rw [helloTexts, List.count_append, once, List.count_cons, inductionHypothesis]
          simp
          omega

def laws : JsonLaws json where
  clean _ := hello
  clean_clean _ := rfl
  message _ := rfl
  list msgs := by
    show List.replicate ((91 :: helloTexts msgs.length ++ [93]).count 123) hello = _
    rw [List.map_const', List.cons_append, List.count_cons, List.count_append, count_helloTexts]
    rfl

/-- A history of two messages, a counter and a text, each read within its time. -/
def inTime : List BackendStep :=
  [⟨.call (.appendHistory 7 hello 100), 0⟩, ⟨.call (.appendHistory 7 hello 100), 1⟩,
    ⟨.call (.incrWithTTL (str "n") 10), 2⟩, ⟨.call (.set (str "k") (str "v") 10), 3⟩,
    ⟨.call (.incrWithTTL (str "n") 10), 4⟩, ⟨.call (.get (str "k")), 5⟩,
    ⟨.call (.getHistory 7 10), 6⟩]

/-- The third call comes after the deadline of the first. -/
def counter : List BackendStep :=
  [⟨.call (.incrWithTTL (str "n") 10), 0⟩, ⟨.call (.incrWithTTL (str "n") 10), 5⟩,
    ⟨.call (.incrWithTTL (str "n") 10), 12⟩]

end Sample

theorem backends_same_results_inTime :
    SameResult Sample.json 6 (run (step Sample.json) new (Sample.inTime.take 6))
      (.getHistory 7 10) := by
  have positive : ∀ label ∈ Sample.inTime, ∀ call, label.event = .call call → call.Positive := by
    intro label member call isCall
    simp only [Sample.inTime, List.mem_cons, List.not_mem_nil, or_false] at member
    rcases member with rfl | rfl | rfl | rfl | rfl | rfl | rfl
    all_goals
      cases isCall
      simp [BackendCall.Positive]
  have alike : AllSteps (step Sample.json) (fun b label => b.alike label = true) new
      Sample.inTime := by decide +kernel
  exact backends_same_results Sample.laws positive alike rfl

/-- Twelve after its first call with a lifetime of ten, a counter is at three in
memory and at one in Redis. -/
theorem backends_other_results :
    ¬ ∀ (json : MessageJson) (labels past rest : List BackendStep) (call : BackendCall) (now : Int),
      (∀ label ∈ labels, ∀ call, label.event = .call call → call.Positive) →
      (labels.map BackendStep.now).Pairwise (· ≤ ·) →
      labels = past ++ ⟨.call call, now⟩ :: rest →
      SameResult json now (run (step json) new past) call := by
  intro same
  have positive : ∀ label ∈ Sample.counter, ∀ call, label.event = .call call → call.Positive := by
    intro label member call isCall
    simp only [Sample.counter, List.mem_cons, List.not_mem_nil, or_false] at member
    rcases member with rfl | rfl | rfl
    all_goals
      cases isCall
      simp [BackendCall.Positive]
  have third := same Sample.json Sample.counter (Sample.counter.take 2) []
    (.incrWithTTL (str "n") 10) 12 positive (by decide) rfl
  have inMemory : ((MemoryCache.cache Sample.json).perform 12
      (run (step Sample.json) new (Sample.counter.take 2)).memory
      (.incrWithTTL (str "n") 10)).1 = .count (.ok 3) := by
    decide +kernel
  have inRedis : ((RedisCache.cache Sample.json).perform 12
      (run (step Sample.json) new (Sample.counter.take 2)).redis
      (.incrWithTTL (str "n") 10)).1 = .count (.ok 1) := by
    decide +kernel
  unfold SameResult at third
  rw [inMemory, inRedis] at third
  cases third

end Backends

end AimServer
