import AimServer.Agent.Clock
import AimServer.Lib.InsertionSort
import AimServer.Lib.TopK
import AimServer.Rag.Retriever

/-!
Contract: what the retriever finds for a query.

Owns: `TopK` of the memory store, the order of the hits, their lines, and
`Retrieve`.

Does not own: `cosine`, which is any score into a linear order, and the embedder.
`TopK` ranges over a map and `sort.Slice` keeps no order among equal scores, so
how they are ordered in one call is a parameter.
-/

namespace AimServer

open AimServer.Lib

variable {φ α : Type} [LinearOrder α]

/-- How `sort.Slice` orders items by falling score in one call. -/
structure Ranking (score : List φ → List φ → α) where
  sort : List φ → List (Item φ) → List (Item φ)
  perm : ∀ query items, (sort query items).Perm items
  falling : ∀ query items, (sort query items).Pairwise fun first second =>
    score query second.vec ≤ score query first.vec

/-- The ranking that keeps the order of equal scores. -/
def Ranking.keeping (score : List φ → List φ → α) : Ranking score where
  sort query items := items.insertionSort fun first second =>
    score query second.vec ≤ score query first.vec
  perm _ _ := List.perm_insertionSort _ _
  falling _ _ := List.pairwise_insertionSort _ _

namespace MemoryStore

variable {score : List φ → List φ → α}

/-- The items of an owner. -/
def items (owner : Int) (s : MemoryStore φ) : List (Item φ) :=
  (s.bucket owner).entries.map fun entry => entry.2

/-- `TopK`. -/
def topK (ranking : Ranking score) (owner : Int) (query : List φ) (k : Nat) (s : MemoryStore φ) :
    List (Item φ) :=
  let list := ranking.sort query (s.items owner)
  list.take (if k > list.length then list.length else k)

end MemoryStore

/-- `sortByTime`. -/
def sortByTime (items : List (Item φ)) : List (Item φ) :=
  swapSort Item.ts items

def minute : Int := 60 * second

/-- `Format("2006-01-02 15:04")` of the local time of an instant. -/
def minuteText (zone : Zone) (instant : Int) : Bytes :=
  let date := CivilDate.ofDay (zone.localDay instant)
  let ofDay := (instant + zone.offset instant) % (24 * hour)
  (if date.year < 0 then [45] else []) ++ paddedText 4 date.year.natAbs ++
    45 :: (paddedText 2 date.month ++ 45 :: (paddedText 2 date.day ++
      32 :: (paddedText 2 (ofDay / hour).toNat ++
        58 :: paddedText 2 (ofDay % hour / minute).toNat)))

example : minuteText (.fixed (8 * hour)) (100000 * second) = str "1970-01-02 11:46" := by
  decide +kernel

/-- The line of a hit. -/
def lineOf (zone : Zone) (h : Item φ) : Bytes :=
  let who := if h.mine then str "我" else str "对方"
  str "[" ++ minuteText zone (h.ts * second) ++ str "] " ++ who ++ str ": " ++ h.text

/-- `Retrieve`, and the store after it. -/
def Retriever.retrieve {score : List φ → List φ → α} (r : Retriever) (zone : Zone)
    (ranking : Ranking score) (outcomes : IndexOutcomes φ)
    (embed : List Bytes → Except Bytes (List (List φ))) (owner : Int) (query : Bytes)
    (table : ChatTable) (store : MemoryStore φ) : Except Bytes (List Bytes) × MemoryStore φ :=
  let indexed := r.ensureIndexed outcomes owner table store
  match indexed.result with
  | .error message => (.error message, indexed.store)
  | .ok _ =>
      match embed [query] with
      | .error message => (.error (str "查询 embedding 失败: " ++ message), indexed.store)
      | .ok qv =>
          match qv.head? with
          | none | some [] => (.error (str "查询向量为空"), indexed.store)
          | some (x :: vec) =>
              let hits := indexed.store.topK ranking owner (x :: vec) r.topK
              (.ok ((sortByTime hits).map (lineOf zone)), indexed.store)

end AimServer
