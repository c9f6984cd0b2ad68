import Mathlib.Data.List.AList

/-!
Contract: the built-in maps of Go.

Owns: maps with decidable keys, a loop that writes one entry for each item of a
list, deletion of the entries a condition does not keep, and what a lookup
finds after each operation.

Does not own: an iteration order. A program that ranges over a map sees its
entries in any order, and nothing here depends on the one of the list.
-/

namespace AimServer.Lib

universe u v

/-- `map[κ]α`. -/
abbrev GoMap (κ : Type u) (α : Type v) := AList fun _ : κ => α

namespace GoMap

variable {κ : Type u} {α : Type v} [DecidableEq κ]

/-- `for k, v := range m { if !keep { delete(m, k) } }`. -/
def keepIf (keep : κ → α → Bool) (map : GoMap κ α) : GoMap κ α where
  entries := map.entries.filter fun entry => keep entry.1 entry.2
  nodupKeys := map.nodupKeys.sublist List.filter_sublist

/-- `for _, item := range items { m[key(item)] = value(item) }`. -/
def insertAll {ι : Type*} (key : ι → κ) (value : ι → α) (items : List ι) (map : GoMap κ α) :
    GoMap κ α :=
  items.foldl (fun map item => map.insert (key item) (value item)) map

theorem lookup_insert (map : GoMap κ α) (key other : κ) (value : α) :
    AList.lookup other (AList.insert key value map) =
      if other = key then some value else AList.lookup other map := by
  by_cases same : other = key
  · subst same
    rw [if_pos rfl, AList.lookup_insert]
  · rw [if_neg same, AList.lookup_insert_ne same]

theorem lookup_erase (map : GoMap κ α) (key other : κ) :
    AList.lookup other (AList.erase key map) =
      if other = key then none else AList.lookup other map := by
  by_cases same : other = key
  · subst same
    rw [if_pos rfl, AList.lookup_erase]
  · rw [if_neg same, AList.lookup_erase_ne same]

/-- The last item with the key decides. -/
theorem lookup_insertAll {ι : Type*} (key : ι → κ) (value : ι → α) (items : List ι)
    (map : GoMap κ α) (k : κ) :
    AList.lookup k (insertAll key value items map) =
      ((items.reverse.find? fun item => key item = k).map value).or (AList.lookup k map) := by
  induction items generalizing map with
  | nil => rfl
  | cons item rest inductionHypothesis =>
      show AList.lookup k (insertAll key value rest (AList.insert (key item) (value item) map)) = _
      rw [inductionHypothesis, lookup_insert, List.reverse_cons, List.find?_append,
        List.find?_singleton]
      simp only [decide_eq_true_eq]
      cases rest.reverse.find? fun item => key item = k with
      | some last => rfl
      | none =>
          by_cases same : k = key item
          · rw [if_pos same, if_pos same.symm]
            rfl
          · rw [if_neg same, if_neg (Ne.symm same)]
            rfl

/-- `for _, key := range keys { if drop { delete(m, key) } }`. -/
theorem lookup_eraseAll (drop : κ → Prop) [DecidablePred drop] (keys : List κ) (map : GoMap κ α)
    (k : κ) :
    AList.lookup k (keys.foldl (fun map key => if drop key then AList.erase key map else map) map) =
      if k ∈ keys ∧ drop k then none else AList.lookup k map := by
  induction keys generalizing map with
  | nil => simp
  | cons key rest inductionHypothesis =>
      rw [List.foldl_cons, inductionHypothesis]
      by_cases dropped : drop key
      · rw [if_pos dropped, lookup_erase]
        by_cases same : k = key
        · subst same
          simp [dropped]
        · simp [same]
      · rw [if_neg dropped]
        by_cases same : k = key
        · subst same
          simp [dropped]
        · simp [same]

theorem mem_entries_iff {map : GoMap κ α} {key : κ} {value : α} :
    (⟨key, value⟩ : (_ : κ) × α) ∈ map.entries ↔ AList.lookup key map = some value :=
  (List.mem_dlookup_iff map.nodupKeys).symm

theorem lookup_keepIf (keep : κ → α → Bool) (map : GoMap κ α) (key : κ) :
    AList.lookup key (keepIf keep map) = (AList.lookup key map).filter (keep key) := by
  ext value
  rw [← mem_entries_iff, Option.filter_eq_some_iff, ← mem_entries_iff]
  exact List.mem_filter

end GoMap

end AimServer.Lib
