import AimServer.Agent.Clock
import AimServer.Lib.GoMap

/-!
Contract: the cache of the agent service and its two backends.

Owns: the `Cache` interface as a record of operations on a backend's state,
`MemoryCache` with its cleanup, and `RedisCache` over the commands of a Redis
server.

Does not own: connection failures of Redis, and the JSON text of messages:
the writers and readers of `encoding/json` are parameters.

A key of Redis is gone from its deadline on. No counter of the memory cache gets
near the end of an `int64`, so its numbers have none here; `INCR` checks for it.
-/

namespace AimServer

open AimServer.Lib

structure Message where
  role : Bytes
  content : Bytes
  time : Int
deriving DecidableEq, Repr

/-- `MarshalMessage`, `UnmarshalMessage`, `MarshalList`, and what `UnmarshalList`
leaves in an empty slice. -/
structure MessageJson where
  marshalMessage : Message → Bytes
  unmarshalMessage : Bytes → Option Message
  marshalList : List Message → Bytes
  unmarshalList : Bytes → List Message

/-- `interface Cache` without `Ping` and `Name`. Every operation takes the
instant it is called at. -/
structure Cache (σ : Type) where
  getHistory : Int → Nat → Int → σ → Except String (List Message) × σ
  appendHistory : Int → Message → Nat → Int → σ → Except String Unit × σ
  clearHistory : Int → Int → σ → Except String Unit × σ
  get : Bytes → Int → σ → Except String Bytes × σ
  set : Bytes → Bytes → Int → Int → σ → Except String Unit × σ
  del : Bytes → Int → σ → Except String Unit × σ
  incrWithTTL : Bytes → Int → Int → σ → Except String Int × σ

/-- `chat:history:%d`. -/
def historyKey (userID : Int) : Bytes :=
  str "chat:history:" ++ intText userID

/-- The last so many elements. -/
def lastOf {α : Type} (limit : Nat) (items : List α) : List α :=
  items.drop (items.length - limit)

/-! ### `MemoryCache` -/

/-- `memEntry`; the zero `time.Time` is `none`. -/
structure MemEntry where
  value : Bytes
  expire : Option Int
deriving DecidableEq, Repr

/-- `!entry.expire.IsZero() && entry.expire.Before(now)`. -/
def MemEntry.expired (entry : MemEntry) (now : Int) : Bool :=
  match entry.expire with
  | none => false
  | some expire => expire < now

structure MemoryCache where
  store : GoMap Bytes MemEntry

namespace MemoryCache

/-- `NewMemoryCache`. -/
def new : MemoryCache := ⟨∅⟩

def put (key : Bytes) (entry : MemEntry) (m : MemoryCache) : MemoryCache :=
  ⟨m.store.insert key entry⟩

def remove (key : Bytes) (m : MemoryCache) : MemoryCache :=
  ⟨m.store.erase key⟩

/-- One tick of `cleanExpired`. -/
def cleanExpired (now : Int) (m : MemoryCache) : MemoryCache :=
  ⟨GoMap.keepIf (fun _ entry => !entry.expired now) m.store⟩

variable (json : MessageJson)

/-- `GetHistory`: the deadline of the entry is not looked at. -/
def getHistory (userID : Int) (limit : Nat) (m : MemoryCache) : List Message :=
  match m.store.lookup (historyKey userID) with
  | none => []
  | some entry =>
      let msgs := json.unmarshalList entry.value
      if msgs.length > limit then lastOf limit msgs else msgs

/-- `AppendHistory`: the new entry has no deadline. -/
def appendHistory (userID : Int) (msg : Message) (maxLen : Nat) (m : MemoryCache) : MemoryCache :=
  let msgs := m.getHistory json userID maxLen ++ [msg]
  let msgs := if msgs.length > maxLen then lastOf maxLen msgs else msgs
  m.put (historyKey userID) ⟨json.marshalList msgs, none⟩

/-- `Get`: an expired entry is deleted. -/
def get (key : Bytes) (now : Int) (m : MemoryCache) : Bytes × MemoryCache :=
  match m.store.lookup key with
  | none => ([], m)
  | some entry => if entry.expired now then ([], m.remove key) else (entry.value, m)

def set (key value : Bytes) (ttl now : Int) (m : MemoryCache) : MemoryCache :=
  m.put key ⟨value, some (now + ttl)⟩

/-- `IncrWithTTL`: the deadline is moved at every call. -/
def incrWithTTL (key : Bytes) (ttl now : Int) (m : MemoryCache) : Int × MemoryCache :=
  match m.store.lookup key with
  | none => (1, m.put key ⟨str "1", some (now + ttl)⟩)
  | some entry =>
      if entry.expired now then (1, m.put key ⟨str "1", some (now + ttl)⟩)
      else
        let count := (sscanfInt entry.value).getD 0 + 1
        (count, m.put key ⟨intText count, some (now + ttl)⟩)

/-- `MemoryCache` as a `Cache`. -/
def cache : Cache MemoryCache where
  getHistory userID limit _ m := (.ok (m.getHistory json userID limit), m)
  appendHistory userID msg maxLen _ m := (.ok (), m.appendHistory json userID msg maxLen)
  clearHistory userID _ m := (.ok (), m.remove (historyKey userID))
  get key now m := ((m.get key now).map .ok id)
  set key value ttl now m := (.ok (), m.set key value ttl now)
  del key _ m := (.ok (), m.remove key)
  incrWithTTL key ttl now m := ((m.incrWithTTL key ttl now).map .ok id)

end MemoryCache

/-! ### Redis -/

inductive RedisValue where
  | text (value : Bytes)
  | list (items : List Bytes)
deriving DecidableEq, Repr

structure RedisEntry where
  value : RedisValue
  deadline : Option Int
deriving DecidableEq, Repr

def RedisEntry.alive (entry : RedisEntry) (now : Int) : Bool :=
  match entry.deadline with
  | none => true
  | some deadline => now < deadline

/-- The keys of a server. -/
structure Redis where
  keys : GoMap Bytes RedisEntry

namespace Redis

def empty : Redis := ⟨∅⟩

def wrongType : String := "WRONGTYPE Operation against a key holding the wrong kind of value"

def notInteger : String := "ERR value is not an integer or out of range"

def wouldOverflow : String := "ERR increment or decrement would overflow"

/-- A key that has not reached its deadline. -/
def find (key : Bytes) (now : Int) (db : Redis) : Option RedisEntry :=
  (db.keys.lookup key).filter fun entry => entry.alive now

def put (key : Bytes) (entry : RedisEntry) (db : Redis) : Redis :=
  ⟨db.keys.insert key entry⟩

/-- `DEL`. -/
def del (key : Bytes) (db : Redis) : Redis :=
  ⟨db.keys.erase key⟩

/-- The elements from `start` to `stop`, both counted from the end when they are
negative. -/
def range {α : Type} (start stop : Int) (items : List α) : List α :=
  let index := fun position : Int => if position < 0 then items.length + position else position
  let first := max 0 (index start)
  (items.drop first.toNat).take (index stop + 1 - first).toNat

def lrange (key : Bytes) (start stop now : Int) (db : Redis) : Except String (List Bytes) :=
  match db.find key now with
  | none => .ok []
  | some ⟨.list items, _⟩ => .ok (range start stop items)
  | some ⟨.text _, _⟩ => .error wrongType

def rpush (key data : Bytes) (now : Int) (db : Redis) : Except String Unit × Redis :=
  match db.find key now with
  | none => (.ok (), db.put key ⟨.list [data], none⟩)
  | some ⟨.list items, deadline⟩ => (.ok (), db.put key ⟨.list (items ++ [data]), deadline⟩)
  | some ⟨.text _, _⟩ => (.error wrongType, db)

/-- `LTRIM`: a list that gets empty is removed. -/
def ltrim (key : Bytes) (start stop now : Int) (db : Redis) : Except String Unit × Redis :=
  match db.find key now with
  | none => (.ok (), db)
  | some ⟨.list items, deadline⟩ =>
      let kept := range start stop items
      (.ok (), if kept = [] then db.del key else db.put key ⟨.list kept, deadline⟩)
  | some ⟨.text _, _⟩ => (.error wrongType, db)

/-- `EXPIRE`. -/
def expire (key : Bytes) (ttl now : Int) (db : Redis) : Redis :=
  match db.find key now with
  | none => db
  | some entry => db.put key { entry with deadline := some (now + ttl) }

/-- `GET`; `none` is a nil reply. -/
def get (key : Bytes) (now : Int) (db : Redis) : Except String (Option Bytes) :=
  match db.find key now with
  | none => .ok none
  | some ⟨.text value, _⟩ => .ok (some value)
  | some ⟨.list _, _⟩ => .error wrongType

/-- `SET` with an expiry, or without one when it is not positive. -/
def set (key value : Bytes) (ttl now : Int) (db : Redis) : Redis :=
  db.put key ⟨.text value, if 0 < ttl then some (now + ttl) else none⟩

/-- The number of 64 bits a string stands for: its decimal text without blanks,
leading zeros or a plus sign. -/
def integer (value : Bytes) : Option Int :=
  (sscanfInt value).filter fun n => intText n = value ∧ -(2 ^ 63) ≤ n ∧ n < 2 ^ 63

/-- `INCR`: a deadline stays. -/
def incr (key : Bytes) (now : Int) (db : Redis) : Except String Int × Redis :=
  match db.find key now with
  | none => (.ok 1, db.put key ⟨.text (intText 1), none⟩)
  | some ⟨.text value, deadline⟩ =>
      match integer value with
      | none => (.error notInteger, db)
      | some n =>
          if n + 1 = 2 ^ 63 then (.error wouldOverflow, db)
          else (.ok (n + 1), db.put key ⟨.text (intText (n + 1)), deadline⟩)
  | some ⟨.list _, _⟩ => (.error wrongType, db)

end Redis

/-! ### `RedisCache` -/

namespace RedisCache

def keyPrefix : Bytes := str "goagent:"

def fullKey (key : Bytes) : Bytes := keyPrefix ++ key

/-- Seven days without activity. -/
def historyTTL : Int := 7 * 24 * hour

variable (json : MessageJson)

def getHistory (userID : Int) (limit : Nat) (now : Int) (db : Redis) :
    Except String (List Message) :=
  match db.lrange (fullKey (historyKey userID)) (-limit) (-1) now with
  | .error message => .error ("redis lrange: " ++ message)
  | .ok texts => .ok (texts.filterMap json.unmarshalMessage)

/-- `AppendHistory`: one transaction of three commands; the first error is
returned. -/
def appendHistory (userID : Int) (msg : Message) (maxLen : Nat) (now : Int) (db : Redis) :
    Except String Unit × Redis :=
  let key := fullKey (historyKey userID)
  let (pushed, db) := db.rpush key (json.marshalMessage msg) now
  let (trimmed, db) := db.ltrim key (-maxLen) (-1) now
  let db := db.expire key historyTTL now
  match pushed, trimmed with
  | .error message, _ => (.error ("redis append history: " ++ message), db)
  | .ok _, .error message => (.error ("redis append history: " ++ message), db)
  | .ok _, .ok _ => (.ok (), db)

def get (key : Bytes) (now : Int) (db : Redis) : Except String Bytes :=
  (db.get (fullKey key) now).map fun value => value.getD []

/-- `IncrWithTTL`: the deadline is set when the counter starts. -/
def incrWithTTL (key : Bytes) (ttl now : Int) (db : Redis) : Except String Int × Redis :=
  match db.incr (fullKey key) now with
  | (.error message, db) => (.error message, db)
  | (.ok val, db) => (.ok val, if val = 1 then db.expire (fullKey key) ttl now else db)

/-- `RedisCache` as a `Cache`. -/
def cache : Cache Redis where
  getHistory userID limit now db := (getHistory json userID limit now db, db)
  appendHistory userID msg maxLen now db := appendHistory json userID msg maxLen now db
  clearHistory userID _ db := (.ok (), db.del (fullKey (historyKey userID)))
  get key now db := (get key now db, db)
  set key value ttl now db := (.ok (), db.set (fullKey key) value ttl now)
  del key _ db := (.ok (), db.del (fullKey key))
  incrWithTTL key ttl now db := incrWithTTL key ttl now db

end RedisCache

end AimServer
