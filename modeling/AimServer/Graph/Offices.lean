import AimServer.Graph.Causes

/-!
Contract: who holds an office in a group, and how one comes to hold it.

Owns: the offices of owner and administrator on the table side and on the
cache side, the two causes of a new office, and the account a new group starts
with.

An owner column of 0 names nobody: `AddUser` writes it for every user.

Does not own: the rights an office gives.
-/

namespace AimServer

open AimServer.Lib

namespace Graph

/-- The tables name `b` as owner or administrator of the group `a`. -/
def Office (g : Graph) (a b : Int) : Prop :=
  a ≥ groupIdBoundary ∧ (g.appointed a b ∨ (g.account a = some b ∧ b ≠ 0))

/-- The cache names `b` as owner or administrator of the group `a`. -/
def CachedOffice (g : Graph) (a b : Int) : Prop :=
  a ≥ groupIdBoundary ∧ (g.admin a b ∨ (g.cached a = some b ∧ b ≠ 0))

instance (s : Store) (a b : Int) : Decidable (s.graph.Office a b) :=
  inferInstanceAs (Decidable (a ≥ groupIdBoundary ∧ ((a, b) ∈ s.db.tables.groupAdmins ∨
    ((lookup UserRow.userId a s.db.tables.users.rows).map UserRow.ownerId = some b ∧ b ≠ 0))))

variable {g : Graph} {a b : Int}

/-- Whoever holds an office in the cache holds it in the tables. -/
theorem CachedOffice.office (office : g.CachedOffice a b) (coherent : g.Coherent) :
    g.Office a b := by
  obtain ⟨isGroup, isAdmin | ⟨isOwner, somebody⟩⟩ := office
  · exact ⟨isGroup, Or.inl (coherent.admin a b isAdmin)⟩
  · exact ⟨isGroup, Or.inr ⟨coherent.cached a b isOwner, somebody⟩⟩

/-- An owner after `enrol` is the old one or the new one. -/
theorem owner_of_enrol {old : Option Int} {id owner : Int}
    (known : old.or (if a = id then some owner else none) = some b) :
    old = some b ∨ (a = id ∧ b = owner) := by
  rcases Option.or_eq_some_iff.mp known with before | ⟨-, new⟩
  · exact Or.inl before
  · split at new
    · rename_i isNew
      exact Or.inr ⟨isNew, (Option.some.inj new).symm⟩
    · cases new

/-- Only enrolling gives an id an owner. -/
theorem account_of_perform {ops : List GraphOp} (known : (g.perform ops).account a = some b) :
    g.account a = some b ∨ GraphOp.enrol a b ∈ ops := by
  induction ops generalizing g with
  | nil => exact Or.inl known
  | cons op rest inductionHypothesis =>
      rcases inductionHypothesis known with before | later
      · cases op with
        | enrol id owner =>
            rcases owner_of_enrol before with old | ⟨isNew, isOwner⟩
            · exact Or.inl old
            · rw [isNew, isOwner]
              exact Or.inr List.mem_cons_self
        | _ => exact Or.inl before
      · exact Or.inr (List.mem_cons_of_mem _ later)

/-- Only enrolling gives a record an owner. -/
theorem cached_of_perform {ops : List GraphOp} (known : (g.perform ops).cached a = some b) :
    g.cached a = some b ∨ GraphOp.enrol a b ∈ ops := by
  induction ops generalizing g with
  | nil => exact Or.inl known
  | cons op rest inductionHypothesis =>
      rcases inductionHypothesis known with before | later
      · cases op with
        | enrol id owner =>
            rcases owner_of_enrol before with old | ⟨isNew, isOwner⟩
            · exact Or.inl old
            · rw [isNew, isOwner]
              exact Or.inr List.mem_cons_self
        | _ => exact Or.inl before
      · exact Or.inr (List.mem_cons_of_mem _ later)

/-- Only appointing makes an administrator, in the tables and in the cache. -/
theorem appointed_of_perform {ops : List GraphOp} (appointed : (g.perform ops).appointed a b) :
    g.appointed a b ∨ GraphOp.appoint a b ∈ ops := by
  induction ops generalizing g with
  | nil => exact Or.inl appointed
  | cons op rest inductionHypothesis =>
      rcases inductionHypothesis appointed with before | later
      · cases op with
        | appoint group member =>
            rcases before with old | ⟨isGroup, isMember⟩
            · exact Or.inl old
            · rw [isGroup, isMember]
              exact Or.inr List.mem_cons_self
        | dismiss group member => exact Or.inl before.1
        | _ => exact Or.inl before
      · exact Or.inr (List.mem_cons_of_mem _ later)

theorem admin_of_perform {ops : List GraphOp} (isAdmin : (g.perform ops).admin a b) :
    g.admin a b ∨ GraphOp.appoint a b ∈ ops := by
  induction ops generalizing g with
  | nil => exact Or.inl isAdmin
  | cons op rest inductionHypothesis =>
      rcases inductionHypothesis isAdmin with before | later
      · cases op with
        | appoint group member =>
            rcases before with old | ⟨-, isGroup, isMember⟩
            · exact Or.inl old
            · rw [isGroup, isMember]
              exact Or.inr List.mem_cons_self
        | dismiss group member => exact Or.inl before.1
        | _ => exact Or.inl before
      · exact Or.inr (List.mem_cons_of_mem _ later)

end Graph

/-! ### Causes -/

/-- Why a step makes `b` an officer of the group `a`. -/
inductive OfficeCause (pb : ImProto) (w : World) (label : Step) (a b : Int) : Prop
  /-- A user creates the group; the second `INSERT` makes him its first
  member. -/
  | founded {ask : Ask CreateGroupReq} {user : User}
      (asked : w.asks label .createGroup pb.createGroupReq = some ask)
      (signedIn : ask.session.user = some user) (named : ask.req.groupname ≠ [])
      (granted : label.env.sql 0 = true)
      (fresh : w.store.graph.account (w.store.baseGroupID + 1) = none)
      (isGroup : a = w.store.baseGroupID + 1) (isOwner : b = user.userid)
      (joined : label.env.sql 1 = true →
        (w.step pb label).store.graph.Related a b ∧ (w.step pb label).store.graph.friend a b)
  /-- The owner appoints an administrator. -/
  | appointed {ask : Ask SetGroupAdminReq} {user : User}
      (asked : w.asks label .setGroupAdmin pb.setGroupAdminReq = some ask)
      (signedIn : ask.session.user = some user)
      (isGroup : ask.req.groupid ≥ groupIdBoundary)
      (owned : w.store.graph.cached ask.req.groupid = some user.userid)
      (member : w.store.graph.friend ask.req.memberid ask.req.groupid)
      (isAdmin : ask.req.isAdmin = true)
      (granted : (label.env.sql 0 = true ∧
        w.store.graph.appointed ask.req.groupid ask.req.memberid) ∨ label.env.sql 1 = true)
      (inGroup : a = ask.req.groupid) (isMember : b = ask.req.memberid)

section Step

variable {pb : ImProto} {w : World} {label : Step} {a b : Int} {ops : List GraphOp}

/-- The user of a session that reached a handler has a record. -/
theorem World.Sound.cached_of_asks {Req : Type} {type : MsgType} {parse : Bytes → Option Req}
    {ask : Ask Req} {user : User} (sound : w.Sound)
    (asked : w.asks label type parse = some ask) (signedIn : ask.session.user = some user) :
    (w.store.graph.cached user.userid).isSome := by
  obtain ⟨holds, same⟩ := World.holds_of_dispatched (World.dispatched_of_asks asked).1
  have onSession : w.userOn ask.session.conn = some user := by
    rw [← same, holds.userOn, signedIn]
  exact sound.registered _ _ onSession

/-- The founder is no group that does not exist yet. -/
theorem founder_ne {user : User} (sound : w.Sound)
    (registered : (w.store.graph.cached user.userid).isSome)
    (fresh : w.store.graph.account (w.store.baseGroupID + 1) = none) :
    user.userid ≠ w.store.baseGroupID + 1 := by
  intro same
  obtain ⟨owner, isOwner⟩ := Option.isSome_iff_exists.mp registered
  have known := sound.coherent.cached _ _ isOwner
  rw [same, fresh] at known
  cases known

/-- A group that is founded with its first member has him in both places. -/
theorem founded_joined {user : User} {gid : Int}
    (registered : (w.store.graph.cached user.userid).isSome) :
    (w.store.graph.perform [.enrol gid user.userid,
      .link (smallId user.userid gid) (greatId user.userid gid)]).Related gid user.userid ∧
    (w.store.graph.perform [.enrol gid user.userid,
      .link (smallId user.userid gid) (greatId user.userid gid)]).friend gid user.userid := by
  have pair : Graph.SamePair (smallId user.userid gid) (greatId user.userid gid) gid user.userid :=
    samePair_ordered.mpr (Or.inr ⟨rfl, rfl⟩)
  have known : ∀ id, id = user.userid ∨ id = gid →
      ((w.store.graph.enrol gid user.userid).cached id).isSome := by
    intro id party
    rcases party with rfl | rfl
    · simp [Graph.enrol, registered]
    · simp [Graph.enrol]
  have smallKnown : smallId user.userid gid = user.userid ∨ smallId user.userid gid = gid := by
    unfold smallId
    split
    · exact Or.inl rfl
    · exact Or.inr rfl
  exact ⟨Graph.related_link.mpr (Or.inr pair),
    Or.inr ⟨known _ smallKnown, known gid (Or.inr rfl), pair⟩⟩

/-- Who is enrolled is a user that registers or a group that is founded. -/
theorem StepEffect.founded (effect : StepEffect pb w label ops)
    (follows : Store.Follows ops w.store (w.step pb label).store) (sound : w.Sound)
    (enrolled : GraphOp.enrol a b ∈ ops) :
    (b = 0 ∧ ∃ s msg, w.dispatched label = some (.register, s, msg)) ∨
      OfficeCause pb w label a b := by
  have graph := follows.graph
  cases effect with
  | idle => simp at enrolled
  | handled reached effect =>
      cases effect with
      | register =>
          cases List.mem_singleton.mp enrolled
          exact Or.inl ⟨rfl, _, _, reached⟩
      | createGroupAlone signedIn parsed named granted fresh alone =>
          have asked := World.asks_of_dispatched reached parsed
          cases List.mem_singleton.mp enrolled
          refine Or.inr (.founded asked signedIn named granted fresh rfl rfl ?_)
          intro secondGranted
          have ordered := smallId_lt_greatId_iff.mpr
            (founder_ne sound (sound.cached_of_asks asked signedIn) fresh)
          exact absurd ⟨ordered, secondGranted⟩ alone
      | createGroup signedIn parsed named granted fresh =>
          have asked := World.asks_of_dispatched reached parsed
          obtain ⟨rfl, rfl⟩ : a = _ ∧ b = _ := by simpa using enrolled
          refine Or.inr (.founded asked signedIn named granted fresh rfl rfl ?_)
          intro _
          rw [graph]
          exact founded_joined (sound.cached_of_asks asked signedIn)
      | _ => simp at enrolled

/-- Who is appointed is appointed by the owner. -/
theorem StepEffect.appointed (effect : StepEffect pb w label ops)
    (appoints : GraphOp.appoint a b ∈ ops) : OfficeCause pb w label a b := by
  cases effect with
  | idle => simp at appoints
  | handled reached effect =>
      cases effect with
      | appoint signedIn parsed isGroup owned member isAdmin granted =>
          cases List.mem_singleton.mp appoints
          exact .appointed (World.asks_of_dispatched reached parsed) signedIn isGroup owned member
            isAdmin granted rfl rfl
      | _ => simp at appoints

/-- An office in the tables was there before the step, or has a cause. -/
theorem office_step (sound : w.Sound) (office : (w.step pb label).store.graph.Office a b) :
    w.store.graph.Office a b ∨ OfficeCause pb w label a b := by
  obtain ⟨isGroup, held⟩ := office
  rcases World.step_effect pb w label with ⟨loads, -, restarted⟩ | ⟨ops, effect, follows⟩
  · rw [World.graph_restart restarted] at held
    exact Or.inl ⟨isGroup, held⟩
  rw [follows.graph] at held
  rcases held with isAdmin | ⟨isOwner, somebody⟩
  · rcases Graph.appointed_of_perform isAdmin with before | new
    · exact Or.inl ⟨isGroup, Or.inl before⟩
    · exact Or.inr (effect.appointed new)
  · rcases Graph.account_of_perform isOwner with before | new
    · exact Or.inl ⟨isGroup, Or.inr ⟨before, somebody⟩⟩
    · rcases effect.founded follows sound new with ⟨isZero, -⟩ | cause
      · exact absurd isZero somebody
      · exact Or.inr cause

/-- An office in the cache was there before a step that is no restart, or has
a cause. -/
theorem cachedOffice_step (sound : w.Sound) (running : ∀ loads, label.event ≠ .restart loads)
    (office : (w.step pb label).store.graph.CachedOffice a b) :
    w.store.graph.CachedOffice a b ∨ OfficeCause pb w label a b := by
  obtain ⟨isGroup, held⟩ := office
  rcases World.step_effect pb w label with ⟨loads, event, -⟩ | ⟨ops, effect, follows⟩
  · exact absurd event (running loads)
  rw [follows.graph] at held
  rcases held with isAdmin | ⟨isOwner, somebody⟩
  · rcases Graph.admin_of_perform isAdmin with before | new
    · exact Or.inl ⟨isGroup, Or.inl before⟩
    · exact Or.inr (effect.appointed new)
  · rcases Graph.cached_of_perform isOwner with before | new
    · exact Or.inl ⟨isGroup, Or.inr ⟨before, somebody⟩⟩
    · rcases effect.founded follows sound new with ⟨isZero, -⟩ | cause
      · exact absurd isZero somebody
      · exact Or.inr cause

end Step

/-! ### No account is nobody -/

/-- Ids that are handed out are positive. -/
theorem account_unassigned_step {pb : ImProto} {w : World} {label : Step} {id : Int}
    (sound : w.Sound) (notPositive : id ≤ 0) (nobody : w.store.graph.account id = none) :
    (w.step pb label).store.graph.account id = none := by
  rcases World.step_effect pb w label with ⟨loads, -, restarted⟩ | ⟨ops, effect, follows⟩
  · rw [World.graph_restart restarted]
    exact nobody
  rw [follows.graph, ← Option.not_isSome_iff_eq_none, Option.isSome_iff_exists]
  intro enrolledNow
  obtain ⟨owner, known⟩ := enrolledNow
  rcases Graph.account_of_perform known with before | enrolled
  · rw [nobody] at before
    cases before
  have userBase := sound.userBase
  have groupBase := sound.groupBase
  have positive : 0 < groupIdBoundary := by decide
  have newUser : id ≠ w.store.baseUserID + 1 := by omega
  have newGroup : id ≠ w.store.baseGroupID + 1 := by omega
  cases effect with
  | idle => simp at enrolled
  | handled reached effect =>
      cases effect with
      | register => simp [newUser] at enrolled
      | createGroupAlone => simp [newGroup] at enrolled
      | createGroup => simp [newGroup] at enrolled
      | _ => simp at enrolled

end AimServer
