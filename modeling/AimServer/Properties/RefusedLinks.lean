import AimServer.Graph.Refinement
import AimServer.Properties.Client

/-!
Contract: what a refused `MakeFriendRelationship` leaves behind.

Proves that a refusal leaves the relationship rows and all friend sets as they
were exactly when the pair was not ordered, the `INSERT` was denied, or both
ids have a record.

The row is written before either id is looked up, and neither of the two later
exits takes it back.
-/

namespace AimServer

open AimServer.Lib

namespace Store

/-- The friend sets of all cached users. -/
def friendSets (s : Store) : List (Int × Finset Int) :=
  s.cachedUsers.map fun user => (user.userid, user.friends)

/-- If the call returns false, rows and friend sets are as before it. -/
def RefusalTraceless (smallid greatid : Int) (s : Store) : Prop :=
  (s.makeFriendRelationship smallid greatid).1 = false →
    (s.makeFriendRelationship smallid greatid).2.db.tables.relationships =
        s.db.tables.relationships ∧
      (s.makeFriendRelationship smallid greatid).2.friendSets = s.friendSets

/-- The two early exits touch neither tables nor cache. -/
theorem traceless_of_refused {smallid greatid : Int} {s : Store}
    (refused : ¬ (smallid < greatid ∧ s.db.outcomes 0 = true)) :
    s.RefusalTraceless smallid greatid := by
  intro _
  obtain ⟨-, same | advanced⟩ := makeFriendRelationship_refused refused
  · rw [same]
    exact ⟨rfl, rfl⟩
  · rw [advanced]
    exact ⟨rfl, rfl⟩

/-- After the `INSERT` took effect its row stays, whatever the call returns. -/
theorem relationships_of_granted {smallid greatid : Int} {s : Store} (ordered : smallid < greatid)
    (granted : s.db.outcomes 0 = true) :
    (s.makeFriendRelationship smallid greatid).2.db.tables.relationships =
      s.db.tables.relationships ++ [(smallid, greatid)] := by
  obtain ⟨-, -, db⟩ :=
    makeFriendRelationship_granted ordered (execute_insertRelationship granted) rfl
  rw [db]

/-- A refusal leaves no trace exactly when the `INSERT` did not run or both ids
have a record. -/
theorem refusal_traceless_iff (smallid greatid : Int) (s : Store) :
    s.RefusalTraceless smallid greatid ↔
      smallid ≥ greatid ∨ s.db.outcomes 0 = false ∨
        ((s.getUserByID smallid).isSome = true ∧ (s.getUserByID greatid).isSome = true) := by
  by_cases effective : smallid < greatid ∧ s.db.outcomes 0 = true
  · obtain ⟨ordered, granted⟩ := effective
    obtain ⟨result, -, -⟩ :=
      makeFriendRelationship_granted ordered (execute_insertRelationship granted) rfl
    have onlyRecords : (smallid ≥ greatid ∨ s.db.outcomes 0 = false ∨
        ((s.getUserByID smallid).isSome = true ∧ (s.getUserByID greatid).isSome = true)) ↔
          ((s.getUserByID smallid).isSome = true ∧ (s.getUserByID greatid).isSome = true) := by
      simp [granted, not_le.mpr ordered]
    rw [onlyRecords, ← result]
    constructor
    · intro traceless
      by_contra refused
      have kept := (traceless (Bool.not_eq_true _ ▸ refused)).1
      rw [relationships_of_granted ordered granted] at kept
      exact absurd kept (by simp)
    · intro accepted isRefused
      rw [accepted] at isRefused
      cases isRefused
  · refine iff_of_true (traceless_of_refused effective) ?_
    rcases not_and_or.mp effective with unordered | denied
    · exact Or.inl (not_lt.mp unordered)
    · exact Or.inr (Or.inl (Bool.not_eq_true _ ▸ denied))

/-- Alice adds an id nobody has: the call fails and the row stays. -/
theorem refusal_leaves_row :
    ¬ (Store.init .allOk ⟨Sample.aliceAlone, fun _ => true, 0⟩).RefusalTraceless 1 5 := by
  intro traceless
  have kept := (traceless (by decide)).1
  revert kept
  decide

end Store

end AimServer
