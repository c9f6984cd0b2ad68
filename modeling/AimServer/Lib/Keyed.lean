import Mathlib.Data.List.Basic
import Mathlib.Data.Finset.Insert
import Mathlib.Data.List.Sort
import Mathlib.Data.Finset.Sort

/-!
Contract: lists of records addressed by a key, as a table with a key column or
a map from keys to shared records is used.

Owns: lookup, update at a key, the frame laws of both, tables whose key is
assigned by the table, tables whose key is unique, the iteration order of an
ordered set, and the share of one key in items made one for each key.

Does not own: what a record is.
-/

namespace AimServer.Lib

universe u v

/-! ### Lookup and update at a key -/

section Keyed

variable {ρ : Type u} {κ : Type v} [DecidableEq κ] (key : ρ → κ)

/-- The first record with key `k`. -/
def lookup (k : κ) (rows : List ρ) : Option ρ :=
  rows.find? fun row => key row = k

/-- Apply `change` to every record with key `k`. -/
def modify (k : κ) (change : ρ → ρ) (rows : List ρ) : List ρ :=
  rows.map fun row => if key row = k then change row else row

variable {key}

theorem lookup_key {k : κ} {rows : List ρ} {row : ρ} (found : lookup key k rows = some row) :
    key row = k := by
  simpa using List.find?_some found

theorem mem_of_lookup {k : κ} {rows : List ρ} {row : ρ} (found : lookup key k rows = some row) :
    row ∈ rows :=
  List.mem_of_find?_eq_some found

theorem lookup_isSome_iff {k : κ} {rows : List ρ} :
    (lookup key k rows).isSome ↔ k ∈ rows.map key := by
  simp [lookup, List.find?_isSome]

theorem lookup_eq_none_iff {k : κ} {rows : List ρ} :
    lookup key k rows = none ↔ k ∉ rows.map key := by
  simp [lookup, List.find?_eq_none]

/-- With distinct keys a record is found under its own key. -/
theorem lookup_of_mem {rows : List ρ} {row : ρ} (distinct : (rows.map key).Nodup)
    (member : row ∈ rows) : lookup key (key row) rows = some row := by
  induction rows with
  | nil => simp at member
  | cons head tail inductionHypothesis =>
      simp only [List.map_cons, List.nodup_cons] at distinct
      rcases List.mem_cons.mp member with same | inTail
      · subst same
        simp [lookup]
      · have different : key head ≠ key row := by
          intro equal
          exact distinct.1 (equal ▸ List.mem_map_of_mem inTail)
        simpa [lookup, different] using inductionHypothesis distinct.2 inTail

/-- With distinct keys the order of the rows does not matter. -/
theorem lookup_perm {k : κ} {rows other : List ρ} (distinct : (rows.map key).Nodup)
    (permutation : rows.Perm other) : lookup key k other = lookup key k rows := by
  cases found : lookup key k rows with
  | none =>
      rw [lookup_eq_none_iff] at found ⊢
      exact fun member => found ((permutation.map key).mem_iff.mpr member)
  | some row =>
      rw [← lookup_key found]
      exact lookup_of_mem ((permutation.map key).nodup_iff.mp distinct)
        (permutation.mem_iff.mp (mem_of_lookup found))

theorem lookup_append (k : κ) (first second : List ρ) :
    lookup key k (first ++ second) = (lookup key k first).or (lookup key k second) := by
  simp [lookup, List.find?_append]

/-- A view that carries keys commutes with lookup. -/
theorem lookup_map {σ : Type*} {k : κ} {rows : List ρ} {view : ρ → σ} {viewKey : σ → κ}
    (carries : ∀ row, viewKey (view row) = key row) :
    lookup viewKey k (rows.map view) = (lookup key k rows).map view := by
  simp [lookup, List.find?_map, Function.comp_def, carries]

theorem key_changed {k : κ} {change : ρ → ρ} (keeps : ∀ row, key (change row) = key row)
    (row : ρ) : key (if key row = k then change row else row) = key row := by
  split
  · exact keeps row
  · rfl

theorem lookup_modify_same {k : κ} {rows : List ρ} {change : ρ → ρ}
    (keeps : ∀ row, key (change row) = key row) :
    lookup key k (modify key k change rows) = (lookup key k rows).map change := by
  unfold modify
  rw [lookup_map (key_changed keeps)]
  cases found : lookup key k rows with
  | none => rfl
  | some row => simp [lookup_key found]

theorem lookup_modify_other {k other : κ} {rows : List ρ} {change : ρ → ρ}
    (keeps : ∀ row, key (change row) = key row) (different : other ≠ k) :
    lookup key other (modify key k change rows) = lookup key other rows := by
  unfold modify
  rw [lookup_map (key_changed keeps)]
  cases found : lookup key other rows with
  | none => rfl
  | some row => simp [lookup_key found, different]

/-- Inserting a record under a new key into an ordered list. -/
theorem lookup_orderedInsert {k : κ} {rows : List ρ} {row : ρ} (before : ρ → ρ → Prop)
    [DecidableRel before] (absent : lookup key (key row) rows = none) :
    lookup key k (rows.orderedInsert before row) =
      if k = key row then some row else lookup key k rows := by
  induction rows with
  | nil =>
      by_cases same : k = key row
      · simp [lookup, same]
      · simp [lookup, same, Ne.symm same]
  | cons head tail inductionHypothesis =>
      have different : key head ≠ key row := by
        intro equal
        simp [lookup, equal] at absent
      have absentTail : lookup key (key row) tail = none := by
        simpa [lookup, different] using absent
      rw [List.orderedInsert_cons]
      split
      · by_cases same : k = key row
        · simp [lookup, same]
        · simp [lookup, same, Ne.symm same]
      · by_cases isHead : key head = k
        · subst isHead
          simp [lookup, different]
        · have skip : ∀ rest : List ρ, lookup key k (head :: rest) = lookup key k rest := by
            intro rest
            simp [lookup, isHead]
          rw [skip, skip, inductionHypothesis absentTail]

/-- Deleting the records of one key. -/
theorem lookup_filter_ne {k removed : κ} {rows : List ρ} :
    lookup key k (rows.filter fun row => key row ≠ removed) =
      if k = removed then none else lookup key k rows := by
  split
  · rename_i same
    subst same
    rw [lookup_eq_none_iff]
    simp
  · rename_i different
    induction rows with
    | nil => rfl
    | cons head tail inductionHypothesis =>
        by_cases isRemoved : key head = removed
        · have other : key head ≠ k := fun equal => different (equal.symm.trans isRemoved)
          simpa [lookup, isRemoved, other, Ne.symm different] using inductionHypothesis
        · by_cases isKey : key head = k
          · simp [lookup, isKey, different]
          · simpa [lookup, isRemoved, isKey] using inductionHypothesis

/-- An update at a key leaves every view that ignores the change unchanged. -/
theorem map_modify {β : Type*} {k : κ} {rows : List ρ} {change : ρ → ρ} {view : ρ → β}
    (ignores : ∀ row, view (change row) = view row) :
    (modify key k change rows).map view = rows.map view := by
  simp only [modify, List.map_map]
  apply List.map_congr_left
  intro row _
  simp only [Function.comp]
  split
  · exact ignores row
  · rfl

/-- A view that carries the key and the change along sees the update. -/
theorem map_modify_of_carries {σ : Type*} {k : κ} {rows : List ρ} {change : ρ → ρ} {view : ρ → σ}
    {viewKey : σ → κ} {viewChange : σ → σ} (carriesKey : ∀ row, viewKey (view row) = key row)
    (carries : ∀ row, view (change row) = viewChange (view row)) :
    (modify key k change rows).map view = modify viewKey k viewChange (rows.map view) := by
  simp only [modify, List.map_map]
  apply List.map_congr_left
  intro row _
  simp only [Function.comp, carriesKey]
  split
  · exact carries row
  · rfl

theorem modify_of_not_mem {k : κ} {rows : List ρ} {change : ρ → ρ}
    (absent : k ∉ rows.map key) : modify key k change rows = rows := by
  unfold modify
  conv_rhs => rw [← List.map_id rows]
  apply List.map_congr_left
  intro row member
  rw [if_neg]
  · rfl
  · intro equal
    exact absent (equal ▸ List.mem_map_of_mem member)

/-- Giving one record a name no other has keeps names distinct. -/
theorem nodup_map_modify {β : Type*} {k : κ} {rows : List ρ} {change : ρ → ρ} {name : ρ → β}
    {new : β} (keys : (rows.map key).Nodup) (names : (rows.map name).Nodup)
    (renames : ∀ row, name (change row) = new)
    (unused : ∀ row ∈ rows, name row = new → key row = k) :
    ((modify key k change rows).map name).Nodup := by
  induction rows with
  | nil => exact List.nodup_nil
  | cons head tail inductionHypothesis =>
      rw [List.map_cons, List.nodup_cons] at keys names
      have unusedTail : ∀ row ∈ tail, name row = new → key row = k := fun row member =>
        unused row (List.mem_cons_of_mem _ member)
      have split : modify key k change (head :: tail) =
          (if key head = k then change head else head) :: modify key k change tail := rfl
      rw [split, List.map_cons, List.nodup_cons]
      refine ⟨?_, inductionHypothesis keys.2 names.2 unusedTail⟩
      intro repeated
      by_cases isHead : key head = k
      · have others : modify key k change tail = tail := modify_of_not_mem (isHead ▸ keys.1)
        rw [if_pos isHead, renames, others] at repeated
        obtain ⟨row, member, isNew⟩ := List.mem_map.mp repeated
        have sameKey := (unusedTail row member isNew).trans isHead.symm
        exact keys.1 (sameKey ▸ List.mem_map_of_mem member)
      · rw [if_neg isHead] at repeated
        obtain ⟨row, member, sameName⟩ := List.mem_map.mp repeated
        obtain ⟨old, isOld, rfl⟩ := List.mem_map.mp member
        split at sameName
        · -- The renamed record has the new name, and `head` would need its key.
          rw [renames] at sameName
          exact isHead (unused head List.mem_cons_self sameName.symm)
        · exact names.1 (sameName ▸ List.mem_map_of_mem isOld)

end Keyed

/-! ### Tables with a unique key -/

/-- Rows with pairwise distinct keys. -/
structure KeyedTable (ρ : Type u) {κ : Type v} (key : ρ → κ) where
  rows : List ρ
  distinct : (rows.map key).Nodup

namespace KeyedTable

variable {ρ : Type u} {κ : Type v} {key : ρ → κ}

def empty : KeyedTable ρ key := ⟨[], by simp⟩

variable [DecidableEq κ]

/-- Insert a row; a row with the same key makes the insertion fail. -/
def insert (row : ρ) (table : KeyedTable ρ key) : Option (KeyedTable ρ key) :=
  if absent : key row ∉ table.rows.map key then
    some ⟨table.rows ++ [row], by
      rw [List.map_append, List.nodup_append']
      refine ⟨table.distinct, by simp, ?_⟩
      intro k member new
      rw [List.map_singleton, List.mem_singleton] at new
      exact absent (new ▸ member)⟩
  else none

/-- Update the row with key `k` by a change that keeps keys. -/
def update (k : κ) (change : ρ → ρ) (keeps : ∀ row, key (change row) = key row)
    (table : KeyedTable ρ key) : KeyedTable ρ key :=
  ⟨modify key k change table.rows, by rw [map_modify keeps]; exact table.distinct⟩

theorem insert_eq_some {row : ρ} {table next : KeyedTable ρ key}
    (inserted : table.insert row = some next) :
    key row ∉ table.rows.map key ∧ next.rows = table.rows ++ [row] := by
  unfold insert at inserted
  split at inserted
  · rename_i absent
    cases inserted
    exact ⟨absent, rfl⟩
  · cases inserted

theorem insert_of_absent {row : ρ} {table : KeyedTable ρ key}
    (absent : key row ∉ table.rows.map key) :
    ∃ next, table.insert row = some next ∧ next.rows = table.rows ++ [row] := by
  unfold insert
  rw [dif_pos absent]
  exact ⟨_, rfl, rfl⟩

@[simp] theorem update_rows (k : κ) (change : ρ → ρ)
    (keeps : ∀ row, key (change row) = key row) (table : KeyedTable ρ key) :
    (table.update k change keeps).rows = modify key k change table.rows := rfl

end KeyedTable

/-! ### Tables that assign their key -/

/-- Rows under keys the table hands out in increasing order. -/
structure AutoTable (ρ : Type u) where
  rows : List (Int × ρ)
  next : Int
  below : ∀ entry ∈ rows, entry.1 < next
  distinct : (rows.map Prod.fst).Nodup

namespace AutoTable

variable {ρ : Type u}

def empty : AutoTable ρ := ⟨[], 1, by simp, by simp⟩

/-- The row stored under `k`. -/
def find (k : Int) (table : AutoTable ρ) : Option ρ :=
  (lookup Prod.fst k table.rows).map Prod.snd

/-- Append a row under the next key. -/
def insert (row : ρ) (table : AutoTable ρ) : AutoTable ρ where
  rows := table.rows ++ [(table.next, row)]
  next := table.next + 1
  below := by
    intro entry member
    rcases List.mem_append.mp member with old | new
    · exact lt_trans (table.below entry old) (Int.lt_succ _)
    · rw [List.mem_singleton.mp new]
      exact Int.lt_succ _
  distinct := by
    rw [List.map_append, List.nodup_append']
    refine ⟨table.distinct, by simp, ?_⟩
    intro k member new
    rw [List.map_singleton, List.mem_singleton] at new
    obtain ⟨entry, entryMember, rfl⟩ := List.mem_map.mp member
    exact absurd new (ne_of_lt (table.below entry entryMember))

/-- Change the row stored under `k`. -/
def update (k : Int) (change : ρ → ρ) (table : AutoTable ρ) : AutoTable ρ where
  rows := modify Prod.fst k (fun entry => (entry.1, change entry.2)) table.rows
  next := table.next
  below := by
    intro entry member
    obtain ⟨old, oldMember, rfl⟩ := List.mem_map.mp member
    have bound := table.below old oldMember
    dsimp only
    split <;> exact bound
  distinct := by
    rw [map_modify (by intro entry; rfl)]
    exact table.distinct

/-- Remove the rows that `gone` selects. -/
def deleteWhere (gone : ρ → Bool) (table : AutoTable ρ) : AutoTable ρ where
  rows := table.rows.filter fun entry => !gone entry.2
  next := table.next
  below := by
    intro entry member
    exact table.below entry (List.mem_of_mem_filter member)
  distinct := table.distinct.sublist (List.filter_sublist.map _)

theorem find_eq_some_iff {k : Int} {row : ρ} {table : AutoTable ρ} :
    table.find k = some row ↔ (k, row) ∈ table.rows := by
  constructor
  · intro found
    obtain ⟨entry, isEntry, rfl⟩ := Option.map_eq_some_iff.mp found
    have key : entry.1 = k := lookup_key isEntry
    rw [← key]
    exact mem_of_lookup isEntry
  · intro member
    have stored := lookup_of_mem table.distinct member
    rw [find, stored]
    rfl

theorem find_next (table : AutoTable ρ) : table.find table.next = none := by
  unfold find
  rw [lookup_eq_none_iff.mpr]
  · rfl
  · intro member
    obtain ⟨entry, entryMember, equal⟩ := List.mem_map.mp member
    exact absurd equal (ne_of_lt (table.below entry entryMember))

theorem find_insert (k : Int) (row : ρ) (table : AutoTable ρ) :
    (table.insert row).find k = if k = table.next then some row else table.find k := by
  by_cases isNext : k = table.next
  · subst isNext
    rw [if_pos rfl]
    have missing := table.find_next
    unfold find at missing ⊢
    rw [Option.map_eq_none_iff] at missing
    have appended : lookup Prod.fst table.next [(table.next, row)] = some (table.next, row) := by
      simp [lookup]
    simp only [insert, lookup_append, missing, appended]
    rfl
  · rw [if_neg isNext]
    unfold find
    simp only [insert, lookup_append]
    have other : lookup Prod.fst k [(table.next, row)] = none := by
      simp [lookup, Ne.symm isNext]
    simp [other]

theorem find_update (k other : Int) (change : ρ → ρ) (table : AutoTable ρ) :
    (table.update k change).find other =
      if other = k then (table.find k).map change else table.find other := by
  unfold find update
  by_cases same : other = k
  · subst same
    rw [if_pos rfl, lookup_modify_same (by intro entry; rfl)]
    cases lookup Prod.fst other table.rows <;> rfl
  · rw [if_neg same, lookup_modify_other (by intro entry; rfl) same]

end AutoTable

/-! ### Iteration order of an ordered set -/

/-- The elements of a finite set from least to greatest. -/
def ascending {α : Type u} [LinearOrder α] (set : Finset α) : List α :=
  Quot.liftOn set.val (fun elements => elements.insertionSort (· ≤ ·)) (by
    intro first second permutation
    rw [← List.mergeSort_eq_insertionSort, ← List.mergeSort_eq_insertionSort]
    exact List.Perm.eq_of_pairwise' (List.pairwise_mergeSort' _ _) (List.pairwise_mergeSort' _ _)
      (((List.mergeSort_perm first _).trans permutation).trans (List.mergeSort_perm second _).symm))

/-- It lists every element once. -/
theorem coe_ascending {α : Type u} [LinearOrder α] (set : Finset α) :
    ((ascending set : List α) : Multiset α) = set.val := by
  obtain ⟨val, nodup⟩ := set
  induction val using Quot.ind with
  | mk elements => exact Quot.sound (List.perm_insertionSort (· ≤ ·) elements)

@[simp] theorem mem_ascending {α : Type u} [LinearOrder α] {set : Finset α} {element : α} :
    element ∈ ascending set ↔ element ∈ set := by
  rw [← Multiset.mem_coe, coe_ascending, Finset.mem_val]

theorem nodup_ascending {α : Type u} [LinearOrder α] (set : Finset α) : (ascending set).Nodup := by
  rw [← Multiset.coe_nodup, coe_ascending]
  exact set.nodup

/-! ### One item for each key -/

/-- When every key of a list without duplicates gives at most one item, the
items that belong to `k` are the one `k` gives. -/
theorem filter_filterMap_eq {α : Type u} {β : Type v} [DecidableEq α] {keys : List α}
    {item : α → Option β} {belongs : β → Bool} {k : α} (distinct : keys.Nodup)
    (tagged : ∀ key ∈ keys, ∀ b, item key = some b → (belongs b = true ↔ key = k)) :
    (keys.filterMap item).filter belongs = if k ∈ keys then (item k).toList else [] := by
  induction keys with
  | nil => rfl
  | cons key rest inductionHypothesis =>
      obtain ⟨new, distinctRest⟩ := List.nodup_cons.mp distinct
      have later := inductionHypothesis distinctRest fun other member =>
        tagged other (List.mem_cons_of_mem key member)
      by_cases same : key = k
      · subst same
        rw [if_neg new] at later
        rw [if_pos List.mem_cons_self, List.filterMap_cons]
        cases given : item key with
        | none => exact later
        | some b =>
            have itsOwn := (tagged key List.mem_cons_self b given).mpr rfl
            rw [List.filter_cons_of_pos itsOwn, later]
            rfl
      · have memberIff : k ∈ key :: rest ↔ k ∈ rest := by
          rw [List.mem_cons, or_iff_right (Ne.symm same)]
        rw [List.filterMap_cons]
        simp only [memberIff]
        cases given : item key with
        | none => exact later
        | some b =>
            have another : ¬ belongs b = true := fun belongs =>
              same ((tagged key List.mem_cons_self b given).mp belongs)
            rw [List.filter_cons_of_neg another]
            exact later

end AimServer.Lib
