import AimServer.Agent.TtlCache
import AimServer.Lib.Run
import Mathlib.Logic.Function.Basic

/-!
Contract: concurrent `Get`, `Set`, `Del` and `IncrWithTTL` calls on one
`MemoryCache`, and its cleanup.

Owns: the `memEntry` objects and the map of pointers to them, the two sections of
`Get` with what it does between them, the step of one section at its instant, and
the theorem that the calls are those of `MemoryCache` when none comes between
the sections of another.

Does not own: the history calls, which use other keys.

`IncrWithTTL` writes to the object that is in the map, and `Get` reads the object
after it has left its first section. What it does there is one step.
-/

namespace AimServer

open AimServer.Lib

/-- A thread, as far as its `Get` calls go. -/
inductive GetThread where
  | idle
  | found (key : Bytes) (address : Nat)
  | expired (key : Bytes) (address : Nat)
  | returned (value : Bytes)
deriving DecidableEq, Repr

def GetThread.free : GetThread → Bool
  | .idle | .returned _ => true
  | .found _ _ | .expired _ _ => false

inductive CacheEvent where
  | lookup (thread : Nat) (key : Bytes)
  | check (thread : Nat)
  | delete (thread : Nat)
  | set (key value : Bytes) (ttl : Int)
  | del (key : Bytes)
  | incrWithTTL (key : Bytes) (ttl : Int)
  | cleanExpired
deriving DecidableEq, Repr

structure CacheSection where
  event : CacheEvent
  now : Int
deriving DecidableEq, Repr

/-- `allocated` objects exist, at the addresses below it. -/
structure SharedCache where
  objects : Nat → MemEntry
  allocated : Nat
  store : GoMap Bytes Nat
  gets : Nat → GetThread
  /-- `time.Now()`. -/
  clock : Int

namespace SharedCache

def new (clock : Int) : SharedCache := ⟨fun _ => ⟨[], none⟩, 0, ∅, fun _ => .idle, clock⟩

/-- What a lookup in the map finds. -/
def entry (key : Bytes) (s : SharedCache) : Option MemEntry :=
  (s.store.lookup key).map s.objects

/-- `m.store[key] = &memEntry{...}`. -/
def put (key : Bytes) (entry : MemEntry) (s : SharedCache) : SharedCache :=
  { s with
    objects := Function.update s.objects s.allocated entry
    allocated := s.allocated + 1
    store := s.store.insert key s.allocated }

def remove (key : Bytes) (s : SharedCache) : SharedCache :=
  { s with store := s.store.erase key }

def setThread (thread : Nat) (get : GetThread) (s : SharedCache) : SharedCache :=
  { s with gets := Function.update s.gets thread get }

/-- The first section of `Get`. -/
def lookup (thread : Nat) (key : Bytes) (s : SharedCache) : SharedCache :=
  match s.store.lookup key with
  | none => s.setThread thread (.returned [])
  | some address => s.setThread thread (.found key address)

/-- `Get` between its sections, or its end. -/
def check (thread : Nat) (s : SharedCache) : SharedCache :=
  match s.gets thread with
  | .found key address =>
      if (s.objects address).expired s.clock then s.setThread thread (.expired key address)
      else s.setThread thread (.returned (s.objects address).value)
  | _ => s

/-- The second section of `Get`. -/
def delete (thread : Nat) (s : SharedCache) : SharedCache :=
  match s.gets thread with
  | .expired key _ => (s.remove key).setThread thread (.returned [])
  | _ => s

def set (key value : Bytes) (ttl : Int) (s : SharedCache) : SharedCache :=
  s.put key ⟨value, some (s.clock + ttl)⟩

def incrWithTTL (key : Bytes) (ttl : Int) (s : SharedCache) : Int × SharedCache :=
  match s.store.lookup key with
  | none => (1, s.put key ⟨str "1", some (s.clock + ttl)⟩)
  | some address =>
      let entry := s.objects address
      if entry.expired s.clock then (1, s.put key ⟨str "1", some (s.clock + ttl)⟩)
      else
        let count := (sscanfInt entry.value).getD 0 + 1
        (count, { s with
          objects := Function.update s.objects address ⟨intText count, some (s.clock + ttl)⟩ })

/-- One tick of `cleanExpired`. -/
def cleanExpired (s : SharedCache) : SharedCache :=
  { s with store := GoMap.keepIf (fun _ address => !(s.objects address).expired s.clock) s.store }

/-- A thread starts a `Get` when it has none running. -/
def perform (s : SharedCache) : CacheEvent → SharedCache
  | .lookup thread key => if (s.gets thread).free then s.lookup thread key else s
  | .check thread => s.check thread
  | .delete thread => s.delete thread
  | .set key value ttl => s.set key value ttl
  | .del key => s.remove key
  | .incrWithTTL key ttl => (s.incrWithTTL key ttl).2
  | .cleanExpired => s.cleanExpired

def step (s : SharedCache) (label : CacheSection) : SharedCache :=
  ({ s with clock := label.now } : SharedCache).perform label.event

/-! ### What the map shows -/

/-- Pointers lead to objects, those of two keys to two objects, and an object
that a `Get` has found expired stays expired. -/
structure Sound (s : SharedCache) : Prop where
  stored : ∀ {key address}, s.store.lookup key = some address → address < s.allocated
  apart : ∀ {key other address}, s.store.lookup key = some address →
    s.store.lookup other = some address → key = other
  found : ∀ {thread key address}, s.gets thread = .found key address → address < s.allocated
  expired : ∀ {thread key address}, s.gets thread = .expired key address →
    address < s.allocated ∧ (s.objects address).expired s.clock = true

section Entries

variable {s : SharedCache}

theorem entry_put (sound : Sound s) (key other : Bytes) (fresh : MemEntry) :
    (s.put key fresh).entry other = if other = key then some fresh else s.entry other := by
  unfold entry put
  dsimp only
  rw [GoMap.lookup_insert]
  split
  · rw [Option.map_some, Function.update_self]
  · cases isThere : s.store.lookup other with
    | none => rfl
    | some address =>
        have below := sound.stored isThere
        rw [Option.map_some, Option.map_some, Function.update_of_ne (by omega)]

theorem entry_remove (key other : Bytes) :
    (s.remove key).entry other = if other = key then none else s.entry other := by
  unfold entry remove
  dsimp only
  rw [GoMap.lookup_erase]
  split <;> rfl

@[simp] theorem entry_setThread (thread : Nat) (get : GetThread) (key : Bytes) :
    (s.setThread thread get).entry key = s.entry key := rfl

@[simp] theorem entry_lookup (thread : Nat) (key other : Bytes) :
    (s.lookup thread key).entry other = s.entry other := by
  unfold lookup
  split <;> rfl

@[simp] theorem entry_check (thread : Nat) (key : Bytes) :
    (s.check thread).entry key = s.entry key := by
  unfold check
  split
  · split <;> rfl
  · rfl

theorem entry_cleanExpired (key : Bytes) :
    s.cleanExpired.entry key = (s.entry key).filter fun entry => !entry.expired s.clock := by
  unfold entry cleanExpired
  dsimp only
  rw [GoMap.lookup_keepIf]
  cases s.store.lookup key with
  | none => rfl
  | some address =>
      rw [Option.filter_some, Option.map_some, Option.filter_some]
      split <;> rfl

/-- `IncrWithTTL` shows like a `Set` of the number it returns. -/
theorem entry_incrWithTTL (sound : Sound s) (key other : Bytes) (ttl : Int) :
    (s.incrWithTTL key ttl).2.entry other =
      if other = key then some ⟨intText (s.incrWithTTL key ttl).1, some (s.clock + ttl)⟩
      else s.entry other := by
  have first : intText 1 = str "1" := by decide +kernel
  unfold incrWithTTL
  cases isThere : s.store.lookup key with
  | none =>
      dsimp only
      rw [entry_put sound, first]
  | some address =>
      dsimp only
      by_cases expired : (s.objects address).expired s.clock = true
      · rw [if_pos expired, entry_put sound, first]
      · rw [if_neg expired]
        unfold entry
        dsimp only
        by_cases same : other = key
        · subst same
          rw [if_pos rfl, isThere, Option.map_some, Function.update_self]
        · rw [if_neg same]
          cases isOther : s.store.lookup other with
          | none => rfl
          | some pointer =>
              have different : pointer ≠ address := by
                intro shared
                subst shared
                exact same (sound.apart isOther isThere)
              rw [Option.map_some, Option.map_some, Function.update_of_ne different]

end Entries

/-! ### Pointers -/

theorem sound_new (clock : Int) : Sound (new clock) := by
  constructor
  all_goals
    intros
    simp_all [new]

namespace Sound

variable {s : SharedCache}

theorem setClock (sound : Sound s) {now : Int} (later : s.clock ≤ now) :
    Sound { s with clock := now } where
  stored := sound.stored
  apart := sound.apart
  found := sound.found
  expired := by
    intro thread key address isExpired
    obtain ⟨below, expired⟩ := sound.expired isExpired
    exact ⟨below, MemoryCache.expired_mono later expired⟩

theorem setThread (sound : Sound s) (thread : Nat) {get : GetThread}
    (found : ∀ key address, get = .found key address → address < s.allocated)
    (expired : ∀ key address, get = .expired key address →
      address < s.allocated ∧ (s.objects address).expired s.clock = true) :
    Sound (s.setThread thread get) where
  stored := sound.stored
  apart := sound.apart
  found := by
    intro other key address isFound
    unfold SharedCache.setThread at isFound
    dsimp only at isFound
    rw [Function.update_apply] at isFound
    split at isFound
    · exact found key address isFound
    · exact sound.found isFound
  expired := by
    intro other key address isExpired
    unfold SharedCache.setThread at isExpired
    dsimp only at isExpired
    rw [Function.update_apply] at isExpired
    split at isExpired
    · exact expired key address isExpired
    · exact sound.expired isExpired

theorem returned (sound : Sound s) (thread : Nat) (value : Bytes) :
    Sound (s.setThread thread (.returned value)) := by
  apply sound.setThread thread
  · intro key address isFound
    cases isFound
  · intro key address isExpired
    cases isExpired

theorem fewer (sound : Sound s) {store : GoMap Bytes Nat}
    (kept : ∀ {key address}, store.lookup key = some address →
      s.store.lookup key = some address) : Sound { s with store } where
  stored := fun isThere => sound.stored (kept isThere)
  apart := fun isThere isOther => sound.apart (kept isThere) (kept isOther)
  found := sound.found
  expired := sound.expired

theorem remove (sound : Sound s) (key : Bytes) : Sound (s.remove key) := by
  apply sound.fewer
  intro other address isThere
  rw [GoMap.lookup_erase] at isThere
  split at isThere
  · cases isThere
  · exact isThere

theorem put (sound : Sound s) (key : Bytes) (fresh : MemEntry) : Sound (s.put key fresh) := by
  have pointer : ∀ {other address}, (s.put key fresh).store.lookup other = some address →
      (other = key ∧ address = s.allocated) ∨
        (other ≠ key ∧ s.store.lookup other = some address) := by
    intro other address isThere
    unfold SharedCache.put at isThere
    dsimp only at isThere
    rw [GoMap.lookup_insert] at isThere
    split at isThere
    · rename_i same
      exact Or.inl ⟨same, (Option.some.inj isThere).symm⟩
    · rename_i different
      exact Or.inr ⟨different, isThere⟩
  constructor
  · intro other address isThere
    show address < s.allocated + 1
    rcases pointer isThere with ⟨-, rfl⟩ | ⟨-, before⟩
    · exact Nat.lt_succ_self _
    · exact Nat.lt_succ_of_lt (sound.stored before)
  · intro first second address isFirst isSecond
    rcases pointer isFirst with ⟨rfl, rfl⟩ | ⟨-, before⟩
    · rcases pointer isSecond with ⟨rfl, -⟩ | ⟨-, before⟩
      · rfl
      · exact absurd (sound.stored before) (lt_irrefl _)
    · rcases pointer isSecond with ⟨-, rfl⟩ | ⟨-, other⟩
      · exact absurd (sound.stored before) (lt_irrefl _)
      · exact sound.apart before other
  · intro thread other address isFound
    exact Nat.lt_succ_of_lt (sound.found isFound)
  · intro thread other address isExpired
    obtain ⟨below, expired⟩ := sound.expired isExpired
    refine ⟨Nat.lt_succ_of_lt below, ?_⟩
    unfold SharedCache.put
    dsimp only
    rw [Function.update_of_ne (Nat.ne_of_lt below)]
    exact expired

theorem incrWithTTL (sound : Sound s) (key : Bytes) (ttl : Int) :
    Sound (s.incrWithTTL key ttl).2 := by
  unfold SharedCache.incrWithTTL
  split
  · exact sound.put key _
  · rename_i address isThere
    dsimp only
    split
    · exact sound.put key _
    · rename_i alive
      refine ⟨sound.stored, sound.apart, sound.found, ?_⟩
      intro thread other found isExpired
      obtain ⟨below, expired⟩ := sound.expired isExpired
      have different : found ≠ address := by
        intro same
        subst same
        exact alive expired
      refine ⟨below, ?_⟩
      dsimp only
      rw [Function.update_of_ne different]
      exact expired

theorem perform (sound : Sound s) (event : CacheEvent) : Sound (s.perform event) := by
  cases event with
  | lookup thread key =>
      unfold SharedCache.perform SharedCache.lookup
      dsimp only
      split
      · split
        · exact sound.returned thread _
        · rename_i address isThere
          apply sound.setThread thread
          · intro other pointer isFound
            cases isFound
            exact sound.stored isThere
          · intro other pointer isExpired
            cases isExpired
      · exact sound
  | check thread =>
      unfold SharedCache.perform SharedCache.check
      dsimp only
      split
      · rename_i key address isFound
        split
        · rename_i expired
          apply sound.setThread thread
          · intro other pointer isFound
            cases isFound
          · intro other pointer isExpired
            cases isExpired
            exact ⟨sound.found isFound, expired⟩
        · exact sound.returned thread _
      · exact sound
  | delete thread =>
      unfold SharedCache.perform SharedCache.delete
      dsimp only
      split
      · exact (sound.remove _).returned thread _
      · exact sound
  | set key value ttl => exact sound.put key _
  | del key => exact sound.remove key
  | incrWithTTL key ttl => exact sound.incrWithTTL key ttl
  | cleanExpired =>
      apply sound.fewer
      intro key address isThere
      rw [GoMap.lookup_keepIf] at isThere
      exact (Option.filter_eq_some_iff.mp isThere).1

theorem step (sound : Sound s) {label : CacheSection} (later : s.clock ≤ label.now) :
    Sound (s.step label) :=
  (sound.setClock later).perform label.event

end Sound

/-! ### One call at a time -/

/-- The map shows what a `MemoryCache` holds. -/
def Shows (s : SharedCache) (m : MemoryCache) : Prop :=
  ∀ key, s.entry key = m.store.lookup key

section Shows

variable {s : SharedCache} {m : MemoryCache} (shows : Shows s m)

include shows

theorem Shows.put (sound : Sound s) (key : Bytes) (entry : MemEntry) :
    Shows (s.put key entry) (m.put key entry) := by
  intro other
  rw [entry_put sound, MemoryCache.put, GoMap.lookup_insert, shows other]

theorem Shows.set (sound : Sound s) (key value : Bytes) (ttl : Int) :
    Shows (s.set key value ttl) (m.set key value ttl s.clock) :=
  shows.put sound key _

theorem Shows.remove (key : Bytes) : Shows (s.remove key) (m.remove key) := by
  intro other
  rw [entry_remove, MemoryCache.remove, GoMap.lookup_erase, shows other]

theorem Shows.cleanExpired : Shows s.cleanExpired (m.cleanExpired s.clock) := by
  intro key
  rw [entry_cleanExpired, MemoryCache.cleanExpired, GoMap.lookup_keepIf, shows key]

theorem incrWithTTL_fst (key : Bytes) (ttl : Int) :
    (s.incrWithTTL key ttl).1 = (m.incrWithTTL key ttl s.clock).1 := by
  have same := shows key
  unfold SharedCache.incrWithTTL MemoryCache.incrWithTTL
  cases isThere : s.store.lookup key with
  | none =>
      rw [entry, isThere, Option.map_none] at same
      rw [← same]
  | some address =>
      rw [entry, isThere, Option.map_some] at same
      rw [← same]
      dsimp only
      split <;> rfl

theorem Shows.incrWithTTL (sound : Sound s) (key : Bytes) (ttl : Int) :
    Shows (s.incrWithTTL key ttl).2 (m.incrWithTTL key ttl s.clock).2 := by
  intro other
  have stores : (m.incrWithTTL key ttl s.clock).2 =
      m.put key ⟨intText (m.incrWithTTL key ttl s.clock).1, some (s.clock + ttl)⟩ := by
    rw [MemoryCache.incrWithTTL_eq]
  rw [entry_incrWithTTL sound, stores, MemoryCache.put, GoMap.lookup_insert,
    incrWithTTL_fst shows, shows other]

/-- The two sections of `Get` and what is between them. -/
theorem Shows.get (thread : Nat) (key : Bytes) :
    (((s.lookup thread key).check thread).delete thread).gets thread =
        .returned (m.get key s.clock).1 ∧
      Shows (((s.lookup thread key).check thread).delete thread) (m.get key s.clock).2 := by
  have same := shows key
  unfold SharedCache.lookup MemoryCache.get
  cases isThere : s.store.lookup key with
  | none =>
      rw [entry, isThere, Option.map_none] at same
      rw [← same]
      dsimp only [SharedCache.check, SharedCache.delete, setThread]
      simp only [Function.update_self]
      exact ⟨trivial, shows⟩
  | some address =>
      rw [entry, isThere, Option.map_some] at same
      rw [← same]
      dsimp only [SharedCache.check, setThread]
      simp only [Function.update_self]
      split
      · dsimp only [SharedCache.delete, setThread, SharedCache.remove]
        simp only [Function.update_self]
        exact ⟨trivial, shows.remove key⟩
      · dsimp only [SharedCache.delete, setThread]
        simp only [Function.update_self]
        exact ⟨trivial, shows⟩

end Shows

end SharedCache

end AimServer
