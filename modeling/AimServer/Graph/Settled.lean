import AimServer.Graph.Model

/-!
Contract: when the sets in the cache are those a reload would build.

Owns: the settled graph, settled friend sets, and for each operation the exact
condition under which they stay settled.

A link whose smaller id has no record, an unlink next to a row of the other
column order and an appointment below the group ids are the operations that
do not keep it.
-/

namespace AimServer

namespace Graph

/-- The friend sets are those of the tables. -/
def FriendsSettled (g : Graph) : Prop :=
  ∀ a b, g.friend a b ↔ (g.account a).isSome ∧ g.Related a b

/-- The friend and administrator sets are those of the tables. -/
structure Settled (g : Graph) : Prop where
  friend : ∀ a b, g.friend a b ↔ (g.account a).isSome ∧ g.Related a b
  admin : ∀ a b, g.admin a b ↔ (g.account a).isSome ∧ a ≥ groupIdBoundary ∧ g.appointed a b

/-- Every account has a record, and every record an account. -/
def SameIds (g : Graph) : Prop :=
  ∀ id, (g.cached id).isSome = (g.account id).isSome

variable {g : Graph} {small great : Int}

/-- A link keeps the friend sets settled unless its smaller id is unknown and
the greater one, known, misses it. -/
theorem friendsSettled_link_iff (settled : g.FriendsSettled) (sameIds : g.SameIds) :
    (g.link small great).FriendsSettled ↔
      ((g.cached small).isSome = false → (g.account great).isSome → g.friend great small) := by
  constructor
  · intro linked unknown known
    have related : (g.link small great).Related great small :=
      related_link.mpr (Or.inr (Or.inr ⟨rfl, rfl⟩))
    rcases (linked great small).mpr ⟨known, related⟩ with old | ⟨knownSmall, -⟩
    · exact old
    · rw [unknown] at knownSmall
      cases knownSmall
  · intro keeps x y
    constructor
    · intro isFriend
      rcases isFriend with old | ⟨-, known, pair⟩
      · obtain ⟨known, related⟩ := (settled x y).mp old
        exact ⟨known, related_link.mpr (Or.inl related)⟩
      · exact ⟨sameIds x ▸ known, related_link.mpr (Or.inr pair)⟩
    · intro isLoaded
      obtain ⟨known, related⟩ := isLoaded
      have knownRecord : (g.cached x).isSome := (sameIds x).symm ▸ known
      rcases related_link.mp related with old | pair
      · exact Or.inl ((settled x y).mpr ⟨known, old⟩)
      · cases knownSmall : (g.cached small).isSome with
        | true => exact Or.inr ⟨knownSmall, knownRecord, pair⟩
        | false =>
            rcases pair with ⟨rfl, rfl⟩ | ⟨rfl, rfl⟩
            · rw [knownSmall] at knownRecord
              cases knownRecord
            · exact Or.inl (keeps knownSmall known)

/-- A link keeps the graph settled under the same condition. -/
theorem settled_link_iff (settled : g.Settled) (sameIds : g.SameIds) :
    (g.link small great).Settled ↔
      ((g.cached small).isSome = false → (g.account great).isSome → g.friend great small) := by
  rw [← friendsSettled_link_iff settled.friend sameIds]
  exact ⟨Settled.friend, fun friends => ⟨friends, settled.admin⟩⟩

/-- What is left of a relation after an unlink of the same pair. -/
theorem related_unlink_same {a b : Int} (pair : SamePair small great a b) :
    (g.unlink small great).Related a b ↔ small ≠ great ∧ (great, small) ∈ g.links := by
  have reversed : (great, small) ≠ (small, great) ↔ small ≠ great := by
    rw [ne_eq, Prod.mk.injEq, ne_eq]
    omega
  rcases pair with ⟨rfl, rfl⟩ | ⟨rfl, rfl⟩
  · simp only [Related, unlink, List.mem_filter, decide_eq_true_eq, reversed]
    tauto
  · simp only [Related, unlink, List.mem_filter, decide_eq_true_eq, reversed]
    tauto

/-- An unlink keeps the friend sets settled unless a row of the other column
order still relates the two. -/
theorem friendsSettled_unlink_iff (settled : g.FriendsSettled) :
    (g.unlink small great).FriendsSettled ↔
      (small ≠ great → (g.account small).isSome ∨ (g.account great).isSome →
        (great, small) ∉ g.links) := by
  constructor
  · intro unlinked different known reversed
    have left : ∀ {a b : Int}, SamePair small great a b → ¬ (g.account a).isSome := by
      intro a b pair isKnown
      have related := (related_unlink_same pair).mpr ⟨different, reversed⟩
      exact ((unlinked a b).mpr ⟨isKnown, related⟩).2 pair
    rcases known with knownSmall | knownGreat
    · exact left (Or.inl ⟨rfl, rfl⟩) knownSmall
    · exact left (Or.inr ⟨rfl, rfl⟩) knownGreat
  · intro keeps x y
    constructor
    · intro isFriend
      obtain ⟨old, other⟩ := isFriend
      obtain ⟨known, related⟩ := (settled x y).mp old
      exact ⟨known, related_unlink other related⟩
    · intro isLoaded
      obtain ⟨known, related⟩ := isLoaded
      refine ⟨(settled x y).mpr ⟨known, related_of_unlink related⟩, ?_⟩
      intro pair
      obtain ⟨different, reversed⟩ := (related_unlink_same pair).mp related
      rcases pair with ⟨rfl, rfl⟩ | ⟨rfl, rfl⟩
      · exact keeps different (Or.inl known) reversed
      · exact keeps different (Or.inr known) reversed

/-- An unlink keeps the graph settled under the same condition. -/
theorem settled_unlink_iff (settled : g.Settled) :
    (g.unlink small great).Settled ↔
      (small ≠ great → (g.account small).isSome ∨ (g.account great).isSome →
        (great, small) ∉ g.links) := by
  rw [← friendsSettled_unlink_iff settled.friend]
  exact ⟨Settled.friend, fun friends => ⟨friends, settled.admin⟩⟩

/-- A new account keeps the friend sets settled when no row has its id yet. -/
theorem FriendsSettled.enrol {id owner : Int} (settled : g.FriendsSettled)
    (unlinked : ∀ b, ¬ g.Related id b) : (g.enrol id owner).FriendsSettled := by
  intro x y
  constructor
  · intro isFriend
    obtain ⟨known, related⟩ := (settled x y).mp isFriend
    exact ⟨by simp [Graph.enrol, known], related⟩
  · intro isLoaded
    obtain ⟨known, related⟩ := isLoaded
    refine (settled x y).mpr ⟨?_, related⟩
    have other : x ≠ id := by
      rintro rfl
      exact unlinked y related
    simpa [Graph.enrol, other] using known

/-- A link between known ids keeps the friend sets settled. -/
theorem FriendsSettled.link (settled : g.FriendsSettled) (sameIds : g.SameIds)
    (known : (g.account small).isSome) : (g.link small great).FriendsSettled := by
  refine (friendsSettled_link_iff settled sameIds).mpr ?_
  intro unknown
  rw [sameIds small, known] at unknown
  cases unknown

/-- Accounts and records are only added together. -/
theorem SameIds.perform (sameIds : g.SameIds) (ops : List GraphOp) : (g.perform ops).SameIds := by
  induction ops generalizing g with
  | nil => exact sameIds
  | cons op rest inductionHypothesis =>
      refine inductionHypothesis ?_
      cases op with
      | enrol id owner =>
          intro x
          simp only [GraphOp.apply, Graph.enrol, Option.isSome_or, sameIds x]
      | _ => exact sameIds

/-- An appointment keeps the graph settled unless it is made in an account
below the group ids. -/
theorem settled_appoint_iff {group member : Int} (settled : g.Settled) (sameIds : g.SameIds) :
    (g.appoint group member).Settled ↔ ((g.cached group).isSome → group ≥ groupIdBoundary) := by
  constructor
  · intro appointed known
    have isAdmin : (g.appoint group member).admin group member := Or.inr ⟨known, rfl, rfl⟩
    exact ((appointed.admin group member).mp isAdmin).2.1
  · intro keeps
    refine ⟨settled.friend, ?_⟩
    intro x y
    constructor
    · intro isAdmin
      rcases isAdmin with old | ⟨known, rfl, rfl⟩
      · obtain ⟨known, isGroup, appointed⟩ := (settled.admin x y).mp old
        exact ⟨known, isGroup, Or.inl appointed⟩
      · exact ⟨sameIds x ▸ known, keeps known, Or.inr ⟨rfl, rfl⟩⟩
    · intro isLoaded
      obtain ⟨known, isGroup, old | ⟨rfl, rfl⟩⟩ := isLoaded
      · exact Or.inl ((settled.admin x y).mpr ⟨known, isGroup, old⟩)
      · exact Or.inr ⟨(sameIds x).symm ▸ known, rfl, rfl⟩

/-- A dismissal keeps the graph settled. -/
theorem Settled.dismiss (settled : g.Settled) (group member : Int) :
    (g.dismiss group member).Settled := by
  refine ⟨settled.friend, ?_⟩
  intro x y
  constructor
  · intro isAdmin
    obtain ⟨old, other⟩ := isAdmin
    obtain ⟨known, isGroup, appointed⟩ := (settled.admin x y).mp old
    exact ⟨known, isGroup, appointed, other⟩
  · intro isLoaded
    obtain ⟨known, isGroup, appointed, other⟩ := isLoaded
    exact ⟨(settled.admin x y).mpr ⟨known, isGroup, appointed⟩, other⟩

end Graph

end AimServer
