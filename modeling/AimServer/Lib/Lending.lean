import Mathlib.Data.List.Perm.Basic
import Mathlib.Data.List.Dedup

/-!
Contract: resources that borrowers take from a common stock and give back.

Owns: the stock with the idle resources and the ones in somebody's hands, the
two moves that change it, and the theorem that no sequence of moves loses or
doubles a resource.

Does not own: what a borrower does with a resource, and who may take one.
-/

namespace AimServer.Lib

universe u v

/-- Idle resources, and what each borrower holds. -/
structure Lending (ρ : Type u) (τ : Type v) where
  idle : List ρ
  held : τ → Option ρ

namespace Lending

variable {ρ : Type u} {τ : Type v}

/-- What a step can do to the stock. -/
inductive Moves [DecidableEq τ] (stock : Lending ρ τ) : Lending ρ τ → Prop
  | kept : Moves stock stock
  | taken {borrower : τ} {resource : ρ} {rest : List ρ} (free : stock.held borrower = none)
      (isIdle : stock.idle = resource :: rest) :
      Moves stock ⟨rest, Function.update stock.held borrower (some resource)⟩
  | returned {borrower : τ} {resource : ρ} (holds : stock.held borrower = some resource) :
      Moves stock ⟨resource :: stock.idle, Function.update stock.held borrower none⟩

/-- A resource is idle once, or in one pair of hands. -/
structure Exclusive (stock : Lending ρ τ) : Prop where
  idleOnce : stock.idle.Nodup
  notIdle : ∀ borrower resource, stock.held borrower = some resource → resource ∉ stock.idle
  single : ∀ first second resource, stock.held first = some resource →
    stock.held second = some resource → first = second

/-- Moreover `all` are the resources there are. -/
structure Owns (all : List ρ) (stock : Lending ρ τ) : Prop extends Exclusive stock where
  accounted : ∀ resource,
    resource ∈ all ↔ resource ∈ stock.idle ∨ ∃ borrower, stock.held borrower = some resource

/-- At first everything is idle. -/
theorem owns_of_idle {all : List ρ} (distinct : all.Nodup) :
    Owns all (⟨all, fun _ => none⟩ : Lending ρ τ) := by
  refine ⟨⟨distinct, ?_, ?_⟩, ?_⟩
  · intro borrower resource held
    cases held
  · intro first second resource held
    cases held
  · intro resource
    simp

section Moves

variable [DecidableEq τ] {all : List ρ} {stock next : Lending ρ τ}

theorem Exclusive.taken (exclusive : Exclusive stock) (borrower : τ) {resource : ρ}
    {rest : List ρ} (isIdle : stock.idle = resource :: rest) :
    Exclusive ⟨rest, Function.update stock.held borrower (some resource)⟩ := by
  have idleOnce := exclusive.idleOnce
  rw [isIdle, List.nodup_cons] at idleOnce
  -- Nobody held it, since it was idle.
  have unheld : ∀ other, stock.held other ≠ some resource := by
    intro other held
    apply exclusive.notIdle other resource held
    rw [isIdle]
    exact List.mem_cons_self
  refine ⟨idleOnce.2, ?_, ?_⟩
  · intro other taken held
    dsimp only at held
    rw [Function.update_apply] at held
    split at held
    · cases held
      exact idleOnce.1
    · intro member
      apply exclusive.notIdle other taken held
      rw [isIdle]
      exact List.mem_cons_of_mem resource member
  · intro first second taken firstHeld secondHeld
    dsimp only at firstHeld secondHeld
    rw [Function.update_apply] at firstHeld secondHeld
    split at firstHeld
    · rename_i isFirst
      cases firstHeld
      split at secondHeld
      · rename_i isSecond
        exact isFirst.trans isSecond.symm
      · exact absurd secondHeld (unheld second)
    · split at secondHeld
      · cases secondHeld
        exact absurd firstHeld (unheld first)
      · exact exclusive.single first second taken firstHeld secondHeld

/-- Who still holds something after a return held it before. -/
theorem held_of_returned {borrower other : τ} {taken : ρ}
    (holds : Function.update stock.held borrower none other = some taken) :
    other ≠ borrower ∧ stock.held other = some taken := by
  rw [Function.update_apply] at holds
  split at holds
  · cases holds
  · rename_i different
    exact ⟨different, holds⟩

theorem Exclusive.returned (exclusive : Exclusive stock) {borrower : τ} {resource : ρ}
    (holds : stock.held borrower = some resource) :
    Exclusive ⟨resource :: stock.idle, Function.update stock.held borrower none⟩ := by
  refine ⟨List.nodup_cons.mpr ⟨exclusive.notIdle borrower resource holds, exclusive.idleOnce⟩,
    ?_, ?_⟩
  · intro other taken isTaken member
    obtain ⟨different, before⟩ := held_of_returned isTaken
    rcases List.mem_cons.mp member with rfl | isIdle
    · exact different (exclusive.single other borrower taken before holds)
    · exact exclusive.notIdle other taken before isIdle
  · intro first second taken firstHeld secondHeld
    exact exclusive.single first second taken (held_of_returned firstHeld).2
      (held_of_returned secondHeld).2

/-- No move gives a resource to two. -/
theorem Exclusive.moves (exclusive : Exclusive stock) (moves : Moves stock next) :
    Exclusive next := by
  cases moves with
  | kept => exact exclusive
  | taken free isIdle => exact exclusive.taken _ isIdle
  | returned holds => exact exclusive.returned holds

theorem Owns.taken (owns : Owns all stock) {borrower : τ} {resource : ρ} {rest : List ρ}
    (free : stock.held borrower = none) (isIdle : stock.idle = resource :: rest) :
    Owns all ⟨rest, Function.update stock.held borrower (some resource)⟩ := by
  refine ⟨owns.toExclusive.taken borrower isIdle, ?_⟩
  intro other
  rw [owns.accounted other, isIdle, List.mem_cons]
  constructor
  · intro known
    rcases known with (rfl | stillIdle) | ⟨holder, isHeld⟩
    · exact Or.inr ⟨borrower, Function.update_self ..⟩
    · exact Or.inl stillIdle
    · refine Or.inr ⟨holder, ?_⟩
      have different : holder ≠ borrower := by
        rintro rfl
        rw [free] at isHeld
        cases isHeld
      exact (Function.update_of_ne different ..).trans isHeld
  · intro known
    rcases known with stillIdle | ⟨holder, isHeld⟩
    · exact Or.inl (Or.inr stillIdle)
    · dsimp only at isHeld
      rw [Function.update_apply] at isHeld
      split at isHeld
      · exact Or.inl (Or.inl (Option.some.inj isHeld).symm)
      · exact Or.inr ⟨holder, isHeld⟩

theorem Owns.returned (owns : Owns all stock) {borrower : τ} {resource : ρ}
    (holds : stock.held borrower = some resource) :
    Owns all ⟨resource :: stock.idle, Function.update stock.held borrower none⟩ := by
  refine ⟨owns.toExclusive.returned holds, ?_⟩
  intro other
  rw [owns.accounted other, List.mem_cons]
  constructor
  · intro known
    rcases known with wasIdle | ⟨holder, wasHeld⟩
    · exact Or.inl (Or.inr wasIdle)
    · by_cases same : holder = borrower
      · subst same
        rw [holds] at wasHeld
        exact Or.inl (Or.inl (Option.some.inj wasHeld).symm)
      · exact Or.inr ⟨holder, (Function.update_of_ne same ..).trans wasHeld⟩
  · intro known
    rcases known with (rfl | wasIdle) | ⟨holder, stillHeld⟩
    · exact Or.inr ⟨borrower, holds⟩
    · exact Or.inl wasIdle
    · exact Or.inr ⟨holder, (held_of_returned stillHeld).2⟩

/-- No move loses or doubles a resource. -/
theorem Owns.moves (owns : Owns all stock) (moves : Moves stock next) : Owns all next := by
  cases moves with
  | kept => exact owns
  | taken free isIdle => exact owns.taken free isIdle
  | returned holds => exact owns.returned holds

end Moves

/-- The idle resources together with what the borrowers hold, each borrower
asked once, are all resources, each once. -/
theorem Owns.perm {all : List ρ} {stock : Lending ρ τ} (owns : Owns all stock)
    (distinct : all.Nodup) {borrowers : List τ} (once : borrowers.Nodup)
    (covers : ∀ borrower resource, stock.held borrower = some resource → borrower ∈ borrowers) :
    (stock.idle ++ borrowers.filterMap stock.held).Perm all := by
  have heldOnce : (borrowers.filterMap stock.held).Nodup := by
    refine once.filterMap ?_
    intro first second resource firstHeld secondHeld
    exact owns.single first second resource firstHeld secondHeld
  have apart : (stock.idle ++ borrowers.filterMap stock.held).Nodup := by
    refine List.nodup_append.mpr ⟨owns.idleOnce, heldOnce, ?_⟩
    rintro resource isIdle other isHeld rfl
    obtain ⟨borrower, -, holds⟩ := List.mem_filterMap.mp isHeld
    exact owns.notIdle borrower resource holds isIdle
  refine (List.perm_ext_iff_of_nodup apart distinct).mpr ?_
  intro resource
  rw [owns.accounted resource, List.mem_append, List.mem_filterMap]
  refine or_congr_right ?_
  constructor
  · intro held
    obtain ⟨borrower, -, holds⟩ := held
    exact ⟨borrower, holds⟩
  · intro held
    obtain ⟨borrower, holds⟩ := held
    exact ⟨borrower, covers borrower resource holds, holds⟩

end Lending

end AimServer.Lib
