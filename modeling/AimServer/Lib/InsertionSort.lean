import Mathlib.Data.List.Induction
import Mathlib.Data.List.Sort

/-!
Contract: insertion sort by swaps, and that it is stable.

Owns: the two loops of the sort over indices, what the inner loop does to a
sorted front, and that the outcome is the stable sort of the list.

Does not own: keys. They are any function into a linear order.
-/

namespace AimServer.Lib

universe u v

variable {α : Type u} {β : Type v} [LinearOrder β] {key : α → β}

/-- The items in rising order of their keys, and those with one key in the order
they had. -/
structure IsStableSort (key : α → β) (items out : List α) : Prop where
  perm : out.Perm items
  rising : out.Pairwise fun first second => key first ≤ key second
  stable : ∀ k, out.filter (fun item => key item = k) = items.filter (fun item => key item = k)

/-- `for j := i; j > 0 && key(items[j-1]) > key(items[j]); j-- { swap }`. -/
def sink (key : α → β) : Nat → List α → List α
  | 0, items => items
  | j + 1, items =>
      match items[j]?, items[j + 1]? with
      | some before, some item =>
          if key item < key before then sink key j ((items.set j item).set (j + 1) before)
          else items
      | _, _ => items

/-- `for i := 1; i < len(items); i++`. -/
def swapSort (key : α → β) (items : List α) : List α :=
  (List.range' 1 (items.length - 1)).foldl (fun items i => sink key i items) items

example : swapSort Prod.fst [(3, 0), (1, 1), (3, 2), (1, 3)] =
    [(1, 1), (1, 3), (3, 0), (3, 2)] := by
  decide

/-! ### The inner loop -/

/-- One step over an item before and the sinking item. -/
theorem sink_step (front back : List α) (before item : α) :
    sink key (front.length + 1) (front ++ before :: item :: back) =
      if key item < key before then sink key front.length (front ++ item :: before :: back)
      else front ++ before :: item :: back := by
  have isBefore : (front ++ before :: item :: back)[front.length]? = some before := by
    rw [List.getElem?_append_right le_rfl, Nat.sub_self]
    rfl
  have isItem : (front ++ before :: item :: back)[front.length + 1]? = some item := by
    rw [List.getElem?_append_right (Nat.le_add_right _ 1), Nat.add_sub_cancel_left]
    rfl
  have swapped : ((front ++ before :: item :: back).set front.length item).set
      (front.length + 1) before = front ++ item :: before :: back := by
    rw [List.set_append_right _ _ le_rfl, Nat.sub_self, List.set_cons_zero,
      List.set_append_right _ _ (Nat.le_add_right _ 1), Nat.add_sub_cancel_left]
    rfl
  rw [sink, isBefore, isItem]
  dsimp only
  rw [swapped]

/-- An item sinks below the items of a larger key before it, and no further. -/
theorem sink_splits (front : List α) (item : α) (back : List α) :
    ∃ low high, front = low ++ high ∧
      sink key front.length (front ++ item :: back) = low ++ item :: (high ++ back) ∧
      (∀ other ∈ high, key item < key other) ∧ ∀ last ∈ low.getLast?, key last ≤ key item := by
  induction front using List.reverseRecOn generalizing back with
  | nil => exact ⟨[], [], rfl, rfl, by simp, by simp⟩
  | append_singleton front before inductionHypothesis =>
      have shape : front ++ [before] ++ item :: back = front ++ before :: item :: back := by
        rw [List.append_assoc]
        rfl
      rw [List.length_append, List.length_singleton, shape, sink_step]
      split
      · rename_i larger
        obtain ⟨low, high, isFront, isSunk, above, below⟩ := inductionHypothesis (before :: back)
        refine ⟨low, high ++ [before], ?_, ?_, ?_, below⟩
        · rw [isFront, List.append_assoc]
        · rw [isSunk, List.append_assoc]
          rfl
        · intro other member
          rcases List.mem_append.mp member with inHigh | isBefore
          · exact above other inHigh
          · rw [List.mem_singleton.mp isBefore]
            exact larger
      · rename_i notLarger
        refine ⟨front ++ [before], [], (List.append_nil _).symm, ?_, by simp, ?_⟩
        · exact shape.symm
        · intro last isLast
          rw [List.getLast?_concat, Option.mem_some_iff] at isLast
          rw [← isLast]
          exact not_lt.mp notLarger

/-- In a rising list the last key is the largest. -/
theorem le_of_last {low : List α} {bound : β}
    (rising : low.Pairwise fun first second => key first ≤ key second)
    (below : ∀ last ∈ low.getLast?, key last ≤ bound) : ∀ item ∈ low, key item ≤ bound := by
  induction low using List.reverseRecOn with
  | nil => simp
  | append_singleton low last _ =>
      have isBelow := below last (by rw [List.getLast?_concat]; rfl)
      intro item member
      rcases List.mem_append.mp member with inLow | isLast
      · have le := (List.pairwise_append.mp rising).2.2 item inLow last (List.mem_singleton_self _)
        exact le.trans isBelow
      · rw [List.mem_singleton.mp isLast]
        exact isBelow

/-- The inner loop puts the next item into a front that is sorted. -/
theorem IsStableSort.sunk {items front : List α} (sorted : IsStableSort key items front) (item : α)
    (back : List α) : ∃ next, IsStableSort key (items ++ [item]) next ∧
      sink key front.length (front ++ item :: back) = next ++ back := by
  obtain ⟨low, high, rfl, isSunk, above, below⟩ := @sink_splits _ _ _ key front item back
  obtain ⟨lowRising, highRising, across⟩ := List.pairwise_append.mp sorted.rising
  have lowBelow := le_of_last lowRising below
  refine ⟨low ++ item :: high, ⟨?_, ?_, ?_⟩, ?_⟩
  · have first := List.perm_middle.trans (sorted.perm.cons item)
    exact first.trans (List.perm_append_singleton _ _).symm
  · refine List.pairwise_append.mpr ⟨lowRising, List.pairwise_cons.mpr ⟨?_, highRising⟩, ?_⟩
    · intro other inHigh
      exact (above other inHigh).le
    · intro first inLow other member
      rcases List.mem_cons.mp member with isItem | inHigh
      · rw [isItem]
        exact lowBelow first inLow
      · exact across first inLow other inHigh
  · intro k
    have before := sorted.stable k
    rw [List.filter_append] at before
    rw [List.filter_append, List.filter_append, ← before, List.filter_cons]
    by_cases isKey : key item = k
    · -- No item that was passed has the key.
      have none : high.filter (fun other => key other = k) = [] := by
        rw [List.filter_eq_nil_iff]
        intro other inHigh
        rw [decide_eq_true_eq, ← isKey]
        exact (above other inHigh).ne'
      simp [none, isKey]
    · simp [isKey]
  · rw [isSunk, List.append_assoc]
    rfl

/-! ### The outer loop -/

theorem isStableSort_loop (rest : List α) {items front : List α}
    (sorted : IsStableSort key items front) :
    IsStableSort key (items ++ rest)
      ((List.range' front.length rest.length).foldl (fun items i => sink key i items)
        (front ++ rest)) := by
  induction rest generalizing items front with
  | nil =>
      rw [List.append_nil, List.append_nil]
      exact sorted
  | cons item rest inductionHypothesis =>
      obtain ⟨next, nextSorted, isSunk⟩ := sorted.sunk item rest
      have length : next.length = front.length + 1 := by
        rw [nextSorted.perm.length_eq, List.length_append, sorted.perm.length_eq]
        rfl
      have later := inductionHypothesis nextSorted
      rw [List.append_assoc, length] at later
      rw [List.length_cons, List.range'_succ, List.foldl_cons, isSunk]
      exact later

theorem swapSort_isStableSort (key : α → β) (items : List α) :
    IsStableSort key items (swapSort key items) := by
  cases items with
  | nil => exact ⟨List.Perm.refl _, List.Pairwise.nil, fun _ => rfl⟩
  | cons first rest =>
      have single : IsStableSort key [first] [first] :=
        ⟨List.Perm.refl _, List.pairwise_singleton _ _, fun _ => rfl⟩
      exact isStableSort_loop rest single

end AimServer.Lib
