import Mathlib.Data.List.Sort

/-!
Contract: the best so many elements of a pool.

Owns: what a search for the best elements may return when nothing is said about
the order of equal scores, and how two such results compare.

Does not own: scores. They are any function into a linear order.
-/

namespace AimServer.Lib

universe u v

variable {α : Type u} {β : Type v} [LinearOrder β] {score : α → β} {k : Nat}
  {pool out other : List α}

/-- The first elements of the pool in some order of falling scores. -/
def IsTopK (score : α → β) (k : Nat) (pool out : List α) : Prop :=
  ∃ sorted : List α, sorted.Perm pool ∧
    sorted.Pairwise (fun first second => score second ≤ score first) ∧ out = sorted.take k

theorem exists_isTopK (score : α → β) (k : Nat) (pool : List α) :
    ∃ out, IsTopK score k pool out :=
  ⟨_, pool.insertionSort fun first second => score second ≤ score first,
    List.perm_insertionSort _ _, List.pairwise_insertionSort _ _, rfl⟩

/-- The order of the pool does not matter. -/
theorem isTopK_congr {pool' : List α} (same : pool.Perm pool') :
    IsTopK score k pool out ↔ IsTopK score k pool' out := by
  constructor
  · rintro ⟨sorted, isPool, falling, isOut⟩
    exact ⟨sorted, isPool.trans same, falling, isOut⟩
  · rintro ⟨sorted, isPool, falling, isOut⟩
    exact ⟨sorted, isPool.trans same.symm, falling, isOut⟩

/-! ### One result -/

theorem IsTopK.length_eq (result : IsTopK score k pool out) : out.length = min k pool.length := by
  obtain ⟨sorted, isPool, -, rfl⟩ := result
  rw [List.length_take, isPool.length_eq]

theorem IsTopK.exists_rest (result : IsTopK score k pool out) :
    ∃ rest, (out ++ rest).Perm pool := by
  obtain ⟨sorted, isPool, -, rfl⟩ := result
  refine ⟨sorted.drop k, ?_⟩
  rw [List.take_append_drop]
  exact isPool

/-- No omitted element beats a returned one. -/
theorem IsTopK.best (result : IsTopK score k pool out) {element low : α} (isThere : element ∈ pool)
    (omitted : element ∉ out) (returned : low ∈ out) : score element ≤ score low := by
  obtain ⟨sorted, isPool, falling, rfl⟩ := result
  rw [← isPool.mem_iff, ← List.take_append_drop k sorted] at isThere
  rw [← List.take_append_drop k sorted] at falling
  rcases List.mem_append.mp isThere with taken | later
  · exact absurd taken omitted
  · exact (List.pairwise_append.mp falling).2.2 low returned element later

/-- The same search over other data for the elements. -/
theorem IsTopK.map {γ : Type*} (result : IsTopK score k pool out) (f : α → γ) {other : γ → β}
    (sameScore : ∀ element, other (f element) = score element) :
    IsTopK other k (pool.map f) (out.map f) := by
  obtain ⟨sorted, isPool, falling, rfl⟩ := result
  refine ⟨sorted.map f, isPool.map f, ?_, List.map_take⟩
  refine List.pairwise_map.mpr (falling.imp ?_)
  intro first second le
  rw [sameScore, sameScore]
  exact le

/-! ### Two results -/

/-- Two results have the same scores in the same places. -/
theorem IsTopK.scores_eq (first : IsTopK score k pool out) (second : IsTopK score k pool other) :
    out.map score = other.map score := by
  obtain ⟨sorted, isPool, falling, rfl⟩ := first
  obtain ⟨sorted', isPool', falling', rfl⟩ := second
  have sameScores : sorted.map score = sorted'.map score := by
    apply List.Perm.eq_of_pairwise' (r := (· ≥ ·))
    · exact List.pairwise_map.mpr falling
    · exact List.pairwise_map.mpr falling'
    · exact (isPool.trans isPool'.symm).map score
  rw [List.map_take, List.map_take, sameScores]

/-- An element that beats a returned one is returned as often as it is there. -/
theorem IsTopK.count_eq [BEq α] [LawfulBEq α] (result : IsTopK score k pool out) {element low : α}
    (returned : low ∈ out) (beats : score low < score element) :
    out.count element = pool.count element := by
  obtain ⟨sorted, isPool, falling, rfl⟩ := result
  have notLater : element ∉ sorted.drop k := by
    intro later
    rw [← List.take_append_drop k sorted] at falling
    have below := (List.pairwise_append.mp falling).2.2 low returned element later
    exact absurd beats (not_lt.mpr below)
  rw [← isPool.count_eq, ← List.take_append_drop k sorted, List.count_append,
    List.count_eq_zero_of_not_mem notLater, Nat.add_zero, List.take_append_drop]

/-- Two results agree on every element that beats one of them. -/
theorem IsTopK.count_congr [BEq α] [LawfulBEq α] (first : IsTopK score k pool out)
    (second : IsTopK score k pool other) {element low : α} (returned : low ∈ out)
    (beats : score low < score element) : out.count element = other.count element := by
  have scored : score low ∈ other.map score := by
    rw [← first.scores_eq second]
    exact List.mem_map_of_mem returned
  obtain ⟨low', returned', sameScore⟩ := List.mem_map.mp scored
  rw [first.count_eq returned beats, second.count_eq returned' (sameScore.trans_lt beats)]

end AimServer.Lib
