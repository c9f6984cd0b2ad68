import AimServer.Properties.Indexing
import AimServer.Rag.Qdrant
import AimServer.Rag.Retrieve

/-!
Contract: the hits of a query and their order.

Owns: what the items of an owner are, that `TopK` returns the best of them, that
`Retrieve` shows exactly these hits in the order of their times, and both over
every store that writes can make.
-/

namespace AimServer

open AimServer.Lib

variable {φ α : Type} [LinearOrder α]

namespace MemoryStore

/-! ### Items under their ids -/

/-- Every item is stored under its own id. -/
def Keyed (s : MemoryStore φ) : Prop :=
  ∀ owner id item, s.find owner id = some item → item.id = id

theorem keyed_upsert {s : MemoryStore φ} (keyed : s.Keyed) (owner : Int) (items : List (Item φ)) :
    (s.upsert owner items).Keyed := by
  intro other id item found
  rw [find_upsert] at found
  split at found
  · rcases Option.or_eq_some_iff.mp found with isLast | ⟨-, old⟩
    · exact (mem_of_lastWithId isLast).2
    · exact keyed owner id item old
  · exact keyed other id item found

/-- The store after writes from an empty one. -/
def written (past : List (Int × List (Item φ))) : MemoryStore φ :=
  past.foldl (fun s call => s.upsert call.1 call.2) new

theorem keyed_written (past : List (Int × List (Item φ))) : (written past).Keyed := by
  refine List.foldlRecOn past _ ?_ ?_
  · intro owner id item found
    cases found
  · intro s keyed call _
    exact keyed_upsert keyed call.1 call.2

theorem mem_items {s : MemoryStore φ} {owner : Int} {item : Item φ} :
    item ∈ s.items owner ↔ ∃ id, s.find owner id = some item := by
  unfold items find
  rw [List.mem_map]
  constructor
  · rintro ⟨⟨id, item⟩, member, rfl⟩
    exact ⟨id, GoMap.mem_entries_iff.mp member⟩
  · rintro ⟨id, found⟩
    exact ⟨⟨id, item⟩, GoMap.mem_entries_iff.mpr found, rfl⟩

theorem nodup_items {s : MemoryStore φ} (keyed : s.Keyed) (owner : Int) :
    ((s.items owner).map Item.id).Nodup := by
  have keys : (s.items owner).map Item.id = (s.bucket owner).keys := by
    unfold items
    rw [List.map_map]
    apply List.map_congr_left
    intro entry member
    exact keyed owner entry.1 entry.2 (GoMap.mem_entries_iff.mp member)
  rw [keys]
  exact (s.bucket owner).keys_nodup

/-! ### `TopK` -/

variable {score : List φ → List φ → α}

theorem topK_isTopK (ranking : Ranking score) (owner : Int) (query : List φ) (k : Nat)
    (s : MemoryStore φ) :
    IsTopK (fun item : Item φ => score query item.vec) k (s.items owner)
      (s.topK ranking owner query k) := by
  refine ⟨_, ranking.perm query _, ranking.falling query _, ?_⟩
  unfold topK
  dsimp only
  split
  · rename_i more
    rw [List.take_of_length_le le_rfl, List.take_of_length_le more.le]
  · rfl

/-- The hits are what the other search over the same store may return. -/
theorem topK_hits (ranking : Ranking score) (owner : Int) (query : List φ) (k : Nat)
    (s : MemoryStore φ) :
    s.TopK score owner query k
      ((s.topK ranking owner query k).map fun item => (hitOf item, score query item.vec)) := by
  have hits : IsTopK Prod.snd k _ _ := (s.topK_isTopK ranking owner query k).map
    (fun item => (hitOf item, score query item.vec)) fun _ => rfl
  unfold TopK scored
  rw [items, List.map_map] at hits
  exact hits

/-- The best hits: as many as asked for or as there are, different ones, of the
owner, and none that was left out scores higher. -/
structure BestHits (score : List φ → List φ → α) (owner : Int) (query : List φ) (k : Nat)
    (s : MemoryStore φ) (hits : List (Item φ)) : Prop where
  length : hits.length = min k (s.bucket owner).entries.length
  distinct : (hits.map Item.id).Nodup
  own : ∀ item ∈ hits, s.find owner item.id = some item
  best : ∀ id other, s.find owner id = some other → other ∉ hits →
    ∀ item ∈ hits, ¬ score query item.vec < score query other.vec

theorem topK_best {s : MemoryStore φ} (keyed : s.Keyed) (ranking : Ranking score) (owner : Int)
    (query : List φ) (k : Nat) :
    BestHits score owner query k s (s.topK ranking owner query k) where
  length := by
    rw [(s.topK_isTopK ranking owner query k).length_eq, items, List.length_map]
  distinct := by
    obtain ⟨rest, isAll⟩ := (s.topK_isTopK ranking owner query k).exists_rest
    have all := (isAll.map Item.id).nodup_iff.mpr (nodup_items keyed owner)
    rw [List.map_append] at all
    exact (List.nodup_append'.mp all).1
  own := by
    intro item returned
    obtain ⟨rest, isAll⟩ := (s.topK_isTopK ranking owner query k).exists_rest
    obtain ⟨id, found⟩ := mem_items.mp (isAll.mem_iff.mp (List.mem_append_left _ returned))
    rw [keyed owner id item found]
    exact found
  best := by
    intro id other found omitted item returned
    exact not_lt.mpr ((s.topK_isTopK ranking owner query k).best (mem_items.mpr ⟨id, found⟩)
      omitted returned)

end MemoryStore

/-! ### `Retrieve` -/

theorem sortByTime_isStableSort (items : List (Item φ)) :
    IsStableSort Item.ts items (sortByTime items) :=
  swapSort_isStableSort Item.ts items

namespace Retriever

variable {score : List φ → List φ → α} {r : Retriever} {zone : Zone} {ranking : Ranking score}
  {outcomes : IndexOutcomes φ} {embed : List Bytes → Except Bytes (List (List φ))} {owner : Int}
  {query : Bytes} {table : ChatTable} {store : MemoryStore φ}

theorem keyed_ensureIndexed (keyed : store.Keyed) :
    (r.ensureIndexed outcomes owner table store).store.Keyed := by
  have indexes := r.ensureIndexed_indexes outcomes owner table store
  intro other id item found
  by_cases own : other = owner
  · subst own
    rcases indexes.origin id item found with old | ⟨m, -, isId, vec, rfl⟩
    · exact keyed other id item old
    · exact isId
  · rw [indexes.others other id own] at found
    exact keyed other id item found

/-- When and which lines are returned. -/
theorem retrieve_ok_iff {lines : List Bytes} :
    (r.retrieve zone ranking outcomes embed owner query table store).1 = .ok lines ↔
      (r.ensureIndexed outcomes owner table store).result = .ok () ∧
        ∃ vec rest, embed [query] = .ok (vec :: rest) ∧ vec ≠ [] ∧
          lines = (sortByTime ((r.ensureIndexed outcomes owner table store).store.topK ranking owner
            vec r.topK)).map (lineOf zone) := by
  unfold retrieve
  dsimp only
  cases (r.ensureIndexed outcomes owner table store).result with
  | error message => simp
  | ok _ =>
      cases embed [query] with
      | error message => simp
      | ok qv =>
          match qv with
          | [] => simp
          | [] :: rest => simp
          | (x :: vec) :: rest => simp [eq_comm]

/-- Over every store that writes made, `TopK` returns the best hits. `Retrieve`
returns lines exactly when the index and the vector of the query are there, and they
are those of the best hits, sorted by time with equal times as `TopK` had them. -/
theorem retrieve_best_in_time_order (score : List φ → List φ → α)
    (past : List (Int × List (Item φ))) :
    let s := MemoryStore.written past
    (∀ (ranking : Ranking score) owner query k,
      MemoryStore.BestHits score owner query k s (s.topK ranking owner query k)) ∧
      ∀ (r : Retriever) (zone : Zone) (ranking : Ranking score) (outcomes : IndexOutcomes φ)
        (embed : List Bytes → Except Bytes (List (List φ))) (owner : Int) (query : Bytes)
        (table : ChatTable),
        let indexed := r.ensureIndexed outcomes owner table s
        let hits := fun vec => indexed.store.topK ranking owner vec r.topK
        (∀ vec, MemoryStore.BestHits score owner vec r.topK indexed.store (hits vec) ∧
          IsStableSort Item.ts (hits vec) (sortByTime (hits vec))) ∧
          ∀ lines, (r.retrieve zone ranking outcomes embed owner query table s).1 = .ok lines ↔
            indexed.result = .ok () ∧ ∃ vec rest, embed [query] = .ok (vec :: rest) ∧ vec ≠ [] ∧
              lines = (sortByTime (hits vec)).map fun h =>
                str "[" ++ minuteText zone (h.ts * second) ++ str "] " ++
                  (if h.mine then str "我" else str "对方") ++ str ": " ++ h.text := by
  have keyed := MemoryStore.keyed_written past
  refine ⟨fun ranking owner query k => MemoryStore.topK_best keyed ranking owner query k, ?_⟩
  intro r zone ranking outcomes embed owner query table
  refine ⟨?_, fun lines => retrieve_ok_iff⟩
  intro vec
  exact ⟨MemoryStore.topK_best (keyed_ensureIndexed keyed) ranking owner vec r.topK,
    sortByTime_isStableSort _⟩

/-! ### Equal scores and equal times -/

namespace Sample

def item (id : Int) (text : String) (ts : Int) (mine : Bool) : Item Nat :=
  ⟨id, str text, [], ts, mine⟩

def stored : MemoryStore Nat :=
  MemoryStore.written [(7, [item 1 "late" 120 true, item 2 "early" 60 false, item 3 "too" 60 true]),
    (8, [item 1 "other" 0 true])]

end Sample

example : (sortByTime (Sample.stored.topK (.keeping fun _ _ => 0) 7 [] 5)).map
      (lineOf (Zone.fixed 0)) =
    [str "[1970-01-01 00:01] 我: too", str "[1970-01-01 00:01] 对方: early",
      str "[1970-01-01 00:02] 我: late"] := by
  decide +kernel

end Retriever

end AimServer
