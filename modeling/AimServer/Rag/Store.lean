import AimServer.Bytes
import AimServer.Lib.GoMap

/-!
Contract: the vector store of the retriever in memory.

Owns: `Item`, `HasIDs`, `Upsert` and `TopK` of `MemoryStore`, and what each of
them finds for an owner and a message id.

Does not own: `cosine`. The score of a vector against a query is a parameter,
into any order; the components of a vector are any type.

`TopK` ranges over a map and sorts with `sort.Slice`, which keeps no order among
equal scores, so it has several results.
-/

namespace AimServer

open AimServer.Lib

variable {φ : Type}

structure Item (φ : Type) where
  id : Int
  text : Bytes
  vec : List φ
  ts : Int
  mine : Bool
deriving DecidableEq, Repr

/-- Writing items one after the other under their ids. -/
def upsertAll (items : List (Item φ)) (bucket : GoMap Int (Item φ)) : GoMap Int (Item φ) :=
  items.foldl (fun bucket item => bucket.insert item.id item) bucket

/-- The last item with an id. -/
def lastWithId (id : Int) (items : List (Item φ)) : Option (Item φ) :=
  items.reverse.find? fun item => item.id = id

theorem lookup_upsertAll (items : List (Item φ)) (bucket : GoMap Int (Item φ)) (id : Int) :
    (upsertAll items bucket).lookup id = (lastWithId id items).or (bucket.lookup id) := by
  have written := GoMap.lookup_insertAll Item.id (fun item => item) items bucket id
  rw [Option.map_id'] at written
  exact written

/-- Some item of the list has the id exactly when a last one is found. -/
theorem lastWithId_eq_none_iff {id : Int} {items : List (Item φ)} :
    lastWithId id items = none ↔ ∀ item ∈ items, item.id ≠ id := by
  rw [lastWithId, List.find?_eq_none]
  simp

theorem mem_of_lastWithId {id : Int} {items : List (Item φ)} {item : Item φ}
    (found : lastWithId id items = some item) : item ∈ items ∧ item.id = id := by
  have isItem := List.find?_some found
  exact ⟨List.mem_reverse.mp (List.mem_of_find?_eq_some found), of_decide_eq_true isItem⟩

structure MemoryStore (φ : Type) where
  data : GoMap Int (GoMap Int (Item φ))

namespace MemoryStore

/-- `NewMemoryStore`. -/
def new : MemoryStore φ := ⟨∅⟩

/-- `data[owner]`, which is empty where it is missing. -/
def bucket (owner : Int) (s : MemoryStore φ) : GoMap Int (Item φ) :=
  (s.data.lookup owner).getD ∅

/-- `HasIDs`. -/
def hasIDs (owner : Int) (ids : List Int) (s : MemoryStore φ) : GoMap Int Bool :=
  match s.data.lookup owner with
  | none => ∅
  | some bucket =>
      ids.foldl (fun out id => if (bucket.lookup id).isSome then out.insert id true else out) ∅

/-- `Upsert`. -/
def upsert (owner : Int) (items : List (Item φ)) (s : MemoryStore φ) : MemoryStore φ :=
  match items with
  | [] => s
  | _ :: _ => ⟨s.data.insert owner (upsertAll items (s.bucket owner))⟩

/-- The item stored for an owner under an id. -/
def find (owner id : Int) (s : MemoryStore φ) : Option (Item φ) :=
  (s.bucket owner).lookup id

theorem find_upsert (owner : Int) (items : List (Item φ)) (s : MemoryStore φ) (other id : Int) :
    (s.upsert owner items).find other id =
      if other = owner then (lastWithId id items).or (s.find owner id) else s.find other id := by
  cases items with
  | nil =>
      show s.find other id = _
      split
      · rename_i same
        rw [same]
        rfl
      · rfl
  | cons item rest =>
      show ((AList.lookup other (AList.insert owner _ s.data)).getD ∅).lookup id = _
      rw [GoMap.lookup_insert]
      split
      · exact lookup_upsertAll _ _ _
      · rfl

private theorem lookup_marks (isKnown : Int → Bool) (ids : List Int) (out : GoMap Int Bool)
    (id : Int) :
    (ids.foldl (fun out id => if isKnown id then out.insert id true else out) out).lookup id =
      if id ∈ ids ∧ isKnown id then some true else out.lookup id := by
  induction ids generalizing out with
  | nil => simp
  | cons first rest inductionHypothesis =>
      rw [List.foldl_cons, inductionHypothesis]
      by_cases inRest : id ∈ rest ∧ isKnown id = true
      · rw [if_pos inRest, if_pos ⟨List.mem_cons_of_mem _ inRest.1, inRest.2⟩]
      · rw [if_neg inRest]
        by_cases same : id = first
        · subst same
          by_cases known : isKnown id = true
          · rw [if_pos known, if_pos ⟨List.mem_cons_self, known⟩, GoMap.lookup_insert, if_pos rfl]
          · rw [if_neg known, if_neg fun both => known both.2]
        · have notFirst : ¬ (id ∈ first :: rest ∧ isKnown id = true) := by
            rintro ⟨member, known⟩
            rcases List.mem_cons.mp member with isFirst | later
            · exact same isFirst
            · exact inRest ⟨later, known⟩
          rw [if_neg notFirst]
          split
          · rw [GoMap.lookup_insert, if_neg same]
          · rfl

/-- `HasIDs` tells of each id it was asked for whether an item is stored. -/
theorem hasIDs_lookup (owner : Int) (ids : List Int) (s : MemoryStore φ) (id : Int) :
    (s.hasIDs owner ids).lookup id =
      if id ∈ ids ∧ (s.find owner id).isSome then some true else none := by
  unfold hasIDs find bucket
  cases s.data.lookup owner with
  | none => simp
  | some bucket => exact lookup_marks (fun id => (bucket.lookup id).isSome) ids ∅ id

end MemoryStore

end AimServer
