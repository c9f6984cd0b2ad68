import AimServer.Graph.Calls
import AimServer.Graph.Offices
import AimServer.Graph.Settled

/-!
Contract: what stands at the two ends of a relationship.

Owns: users and groups of a graph, the pairs a relationship may join, the
requests that would join such a pair, the exact condition under which a step
keeps all pairs typed, and the friend sets of a run whose pairs are typed.

Only `OperateFriend` takes an id that nobody looked up.
-/

namespace AimServer

open AimServer.Lib

namespace Graph

/-- A registered account below the group ids. -/
def IsUser (g : Graph) (id : Int) : Prop :=
  id < groupIdBoundary ∧ (g.account id).isSome

/-- A registered account from the group ids on. -/
def IsGroup (g : Graph) (id : Int) : Prop :=
  groupIdBoundary ≤ id ∧ (g.account id).isSome

instance (g : Graph) (id : Int) : Decidable (g.IsUser id) :=
  inferInstanceAs (Decidable (_ ∧ _))

instance (g : Graph) (id : Int) : Decidable (g.IsGroup id) :=
  inferInstanceAs (Decidable (_ ∧ _))

/-- Two different users, or a user and a group. -/
def TypedPair (g : Graph) (a b : Int) : Prop :=
  (a ≠ b ∧ g.IsUser a ∧ g.IsUser b) ∨ (g.IsUser a ∧ g.IsGroup b) ∨ (g.IsGroup a ∧ g.IsUser b)

instance (g : Graph) (a b : Int) : Decidable (g.TypedPair a b) :=
  inferInstanceAs (Decidable (_ ∨ _))

/-- Every row of the relationship table joins a typed pair, and every friend
set of the cache holds only partners of such a pair. -/
structure EdgesTyped (g : Graph) : Prop where
  rows : ∀ row ∈ g.links, g.TypedPair row.1 row.2
  friends : ∀ a b, g.friend a b → g.TypedPair a b

/-- Every request would join a typed pair. -/
def RequestsTyped (g : Graph) : Prop :=
  ∀ key row first second, g.request key = some row →
    World.requestParties row = some (first, second) → g.TypedPair first second

/-- The smaller id stands first in every row. -/
def RowsOrdered (g : Graph) : Prop :=
  ∀ row ∈ g.links, row.1 ≤ row.2

section Pairs

variable {g next : Graph} {a b : Int}

theorem TypedPair.symm (typed : g.TypedPair a b) : g.TypedPair b a := by
  rcases typed with ⟨different, first, second⟩ | ⟨user, group⟩ | ⟨group, user⟩
  · exact Or.inl ⟨different.symm, second, first⟩
  · exact Or.inr (Or.inr ⟨group, user⟩)
  · exact Or.inr (Or.inl ⟨user, group⟩)

theorem TypedPair.known (typed : g.TypedPair a b) : (g.account a).isSome := by
  rcases typed with ⟨-, first, -⟩ | ⟨user, -⟩ | ⟨group, -⟩
  · exact first.2
  · exact user.2
  · exact group.2

theorem TypedPair.ofSamePair {x y : Int} (pair : SamePair x y a b) :
    g.TypedPair a b ↔ g.TypedPair x y := by
  rcases pair with ⟨rfl, rfl⟩ | ⟨rfl, rfl⟩
  · exact Iff.rfl
  · exact ⟨TypedPair.symm, TypedPair.symm⟩

/-- Accounts that stay keep a pair typed. -/
theorem TypedPair.mono (kept : ∀ id, (g.account id).isSome → (next.account id).isSome)
    (typed : g.TypedPair a b) : next.TypedPair a b := by
  rcases typed with ⟨different, first, second⟩ | ⟨user, group⟩ | ⟨group, user⟩
  · exact Or.inl ⟨different, ⟨first.1, kept a first.2⟩, ⟨second.1, kept b second.2⟩⟩
  · exact Or.inr (Or.inl ⟨⟨user.1, kept a user.2⟩, ⟨group.1, kept b group.2⟩⟩)
  · exact Or.inr (Or.inr ⟨⟨group.1, kept a group.2⟩, ⟨user.1, kept b user.2⟩⟩)

theorem EdgesTyped.related (typed : g.EdgesTyped) (related : g.Related a b) : g.TypedPair a b := by
  rcases related with row | row
  · exact typed.rows _ row
  · exact (typed.rows _ row).symm

theorem Coherent.known {id : Int} (coherent : g.Coherent) (cached : (g.cached id).isSome) :
    (g.account id).isSome := by
  obtain ⟨owner, isOwner⟩ := Option.isSome_iff_exists.mp cached
  rw [coherent.cached id owner isOwner]
  rfl

/-- The friend sets follow the rows. -/
theorem Coherent.edgesTyped (coherent : g.Coherent)
    (rows : ∀ row ∈ g.links, g.TypedPair row.1 row.2) : g.EdgesTyped := by
  refine ⟨rows, ?_⟩
  intro a b friend
  rcases (coherent.friend a b friend).2 with row | row
  · exact rows _ row
  · exact (rows _ row).symm

end Pairs

end Graph

namespace World

variable {pb : ImProto} {w : World} {label : Step}

/-- A client acts as a user account, and a restart reads all it asks for. -/
structure ClientStep (w : World) (label : Step) : Prop where
  user : ∀ target ∈ w.dispatched label, ∀ user ∈ target.2.1.user, user.userid < groupIdBoundary
  loads : ∀ loads ∈ label.loads?, ∀ id, loads.relationshipOk id = true

/-- `OperateFriend` adds only registered users as friends, and only to groups
that exist, when its `INSERT` takes effect and the two ids differ. -/
def OperatesOnAccounts (pb : ImProto) (w : World) (label : Step) : Prop :=
  ∀ ask ∈ w.asks label .operateFriend pb.operateFriendReq, label.env.sql 0 = true →
    (ask.req.type = 1 → ask.req.friendid < groupIdBoundary →
      ∀ user ∈ ask.session.user, user.userid ≠ ask.req.friendid →
        w.store.graph.IsUser ask.req.friendid) ∧
    (ask.req.type = 3 → ask.msg.targetId ≥ groupIdBoundary →
      ask.req.friendid ≠ ask.msg.targetId →
        w.store.graph.IsUser ask.req.friendid ∧ w.store.graph.IsGroup ask.msg.targetId)

instance (pb : ImProto) (w : World) (label : Step) : Decidable (OperatesOnAccounts pb w label) :=
  inferInstanceAs (Decidable (∀ ask ∈ w.asks label .operateFriend pb.operateFriendReq, _))

/-- What a step needs to keep the pairs typed. -/
structure Typable (w : World) : Prop where
  sound : w.Sound
  requests : w.store.graph.RequestsTyped
  ordered : w.store.graph.RowsOrdered

/-! ### The links of `OperateFriend` -/

theorem graph_ofMakeFriendRelationship {small great : Int} {store : Store} :
    (store.makeFriendRelationship small great).2.graph =
      if small < great ∧ store.db.outcomes 0 = true then store.graph.link small great
      else store.graph :=
  Store.graph_makeFriendRelationship small great store.db.outcomes

theorem operateAdd_graph {ask : Ask OperateFriendReq} {user : User}
    (asked : w.asks label .operateFriend pb.operateFriendReq = some ask) (isAdd : ask.req.type = 1)
    (isUser : ask.req.friendid < groupIdBoundary) (signedIn : ask.session.user = some user) :
    (w.step pb label).store.graph =
      if user.userid ≠ ask.req.friendid ∧ label.env.sql 0 = true then
        w.store.graph.link (smallId user.userid ask.req.friendid)
          (greatId user.userid ask.req.friendid)
      else w.store.graph := by
  obtain ⟨reached, parsed⟩ := dispatched_of_asks asked
  have made : (w.step pb label).store = ((w.withEnv label.env).store.makeFriendRelationship
      (smallId user.userid ask.req.friendid) (greatId user.userid ask.req.friendid)).2 := by
    rw [step_of_dispatched pb reached]
    simp only [handle, onOperateFriendResponse, parsed, isAdd, if_true, operateAdd, signedIn,
      if_neg (not_le.mpr isUser)]
    split
    all_goals
      rename_i result
      exact (congrArg Prod.snd result).symm
  rw [made]
  simp only [graph_ofMakeFriendRelationship, smallId_lt_greatId_iff, withEnv_graph,
    withEnv_outcomes]

theorem operateInvite_graph {ask : Ask OperateFriendReq}
    (asked : w.asks label .operateFriend pb.operateFriendReq = some ask)
    (isInvite : ask.req.type = 3) (isGroup : ask.msg.targetId ≥ groupIdBoundary) :
    (w.step pb label).store.graph =
      if ask.req.friendid ≠ ask.msg.targetId ∧ label.env.sql 0 = true then
        w.store.graph.link (smallId ask.req.friendid ask.msg.targetId)
          (greatId ask.req.friendid ask.msg.targetId)
      else w.store.graph := by
  obtain ⟨reached, parsed⟩ := dispatched_of_asks asked
  have made : (w.step pb label).store = ((w.withEnv label.env).store.makeFriendRelationship
      (smallId ask.req.friendid ask.msg.targetId)
      (greatId ask.req.friendid ask.msg.targetId)).2 := by
    have notAdd : ¬ ask.req.type = 1 := by omega
    have notDelete : ¬ ask.req.type = 2 := by omega
    rw [step_of_dispatched pb reached]
    simp only [handle, onOperateFriendResponse, parsed, if_neg notAdd, if_neg notDelete,
      if_pos isInvite, operateInvite, if_pos isGroup]
    split
    all_goals
      rename_i result
      exact (congrArg Prod.snd result).symm
  rw [made]
  simp only [graph_ofMakeFriendRelationship, smallId_lt_greatId_iff, withEnv_graph,
    withEnv_outcomes]

/-! ### What a step keeps -/

theorem account_isSome_step {id : Int} (known : (w.store.graph.account id).isSome) :
    ((w.step pb label).store.graph.account id).isSome := by
  obtain ⟨owner, isOwner⟩ := Option.isSome_iff_exists.mp known
  rw [account_step isOwner]
  rfl

theorem smallId_le_greatId (a b : Int) : smallId a b ≤ greatId a b := by
  unfold smallId greatId
  split <;> omega

/-- Every handler puts the smaller id first. -/
theorem link_ordered {ops : List GraphOp} (effect : StepEffect pb w label ops) {small great : Int}
    (linked : GraphOp.link small great ∈ ops) : small ≤ great := by
  have form : ∀ {x y : Int}, GraphOp.link small great = .link (smallId x y) (greatId x y) →
      small ≤ great := by
    intro x y same
    cases same
    exact smallId_le_greatId x y
  cases effect with
  | idle => simp at linked
  | handled reached effect =>
      cases effect with
      | createGroup => exact form (by simpa using linked)
      | operateAdd => exact form (List.mem_singleton.mp linked)
      | operateInvite => exact form (List.mem_singleton.mp linked)
      | acceptUnrecorded => exact form (List.mem_singleton.mp linked)
      | accept => exact form (by simpa using linked)
      | _ => simp at linked

theorem rowsOrdered_step (ordered : w.store.graph.RowsOrdered) :
    (w.step pb label).store.graph.RowsOrdered := by
  intro row listed
  rcases step_effect pb w label with ⟨loads, -, restarted⟩ | ⟨ops, effect, follows⟩
  · rw [graph_restart restarted] at listed
    exact ordered row listed
  · rw [follows.graph] at listed
    rcases Graph.links_of_perform listed with before | linked
    · exact ordered row before
    · exact link_ordered effect linked

/-- The user of a session that reached a handler is a registered user. -/
theorem ClientStep.isUser {Req : Type} {type : MsgType} {parse : Bytes → Option Req}
    {ask : Ask Req} {user : User} (client : ClientStep w label) (sound : w.Sound)
    (asked : w.asks label type parse = some ask) (signedIn : ask.session.user = some user) :
    w.store.graph.IsUser user.userid := by
  refine ⟨client.user _ (dispatched_of_asks asked).1 user signedIn, ?_⟩
  exact sound.coherent.known (sound.cached_of_asks asked signedIn)

/-- A request joins accounts that were looked up when it was sent. -/
theorem requestsTyped_step (client : ClientStep w label) (sound : w.Sound)
    (requests : w.store.graph.RequestsTyped) : (w.step pb label).store.graph.RequestsTyped := by
  intro key row first second found parties
  refine Graph.TypedPair.mono (g := w.store.graph) (fun _ known => account_isSome_step known) ?_
  rcases request_origin_step found with ⟨old, before, same⟩ | ⟨-, cause⟩
  · refine requests key old first second before ?_
    rwa [requestParties, ← same.fromId, ← same.toId, ← same.reqtype, ← same.groupId]
  · cases cause with
    | friend asked signedIn _ other isUser knownTarget _ _ _ isRow =>
        subst isRow
        cases parties
        exact Or.inl ⟨other.symm, client.isUser sound asked signedIn, isUser,
          sound.coherent.known knownTarget⟩
    | invitation asked signedIn _ isGroup known isUser knownTarget _ _ _ isRow =>
        subst isRow
        cases parties
        exact Or.inr (Or.inl ⟨⟨isUser, sound.coherent.known knownTarget⟩, isGroup,
          sound.coherent.known known⟩)
    | application asked signedIn _ isGroup known isRow =>
        subst isRow
        cases parties
        exact Or.inr (Or.inl ⟨client.isUser sound asked signedIn, isGroup,
          sound.coherent.known (Option.isSome_of_eq_some known)⟩)

theorem Typable.step (typable : w.Typable) (client : ClientStep w label) :
    (w.step pb label).Typable :=
  ⟨typable.sound.step, requestsTyped_step client typable.sound typable.requests,
    rowsOrdered_step typable.ordered⟩

/-! ### When the pairs stay typed -/

/-- What a link of a step joins. -/
theorem link_typed {ops : List GraphOp} {small great : Int} (typable : w.Typable)
    (client : ClientStep w label) (accounts : OperatesOnAccounts pb w label)
    (effect : StepEffect pb w label ops)
    (graph : (w.step pb label).store.graph = w.store.graph.perform ops)
    (linked : GraphOp.link small great ∈ ops) :
    (w.step pb label).store.graph.TypedPair small great := by
  have ordered : ∀ {x y : Int}, GraphOp.link small great = .link (smallId x y) (greatId x y) →
      (w.step pb label).store.graph.TypedPair x y →
        (w.step pb label).store.graph.TypedPair small great := by
    intro x y same typed
    cases same
    exact (Graph.TypedPair.ofSamePair (samePair_ordered.mp (Or.inl ⟨rfl, rfl⟩))).mpr typed
  have later : ∀ {x y : Int}, w.store.graph.TypedPair x y →
      (w.step pb label).store.graph.TypedPair x y :=
    fun typed => typed.mono fun _ known => account_isSome_step known
  cases effect with
  | idle => simp at linked
  | handled reached effect =>
      cases effect with
      | createGroup signedIn parsed =>
          have asked := asks_of_dispatched reached parsed
          have founder := client.isUser typable.sound asked signedIn
          have known : ((w.step pb label).store.graph.account
              (w.store.baseGroupID + 1)).isSome := by
            rw [graph]
            simp [GraphOp.apply, Graph.enrol, Graph.link]
          refine ordered (by simpa using linked) (Or.inr (Or.inl ⟨?_, ?_, known⟩))
          · exact ⟨founder.1, account_isSome_step founder.2⟩
          · exact le_trans typable.sound.groupBase (Int.le_of_lt (Int.lt_succ _))
      | operateAdd signedIn parsed isAdd isUser different granted =>
          have asked := asks_of_dispatched reached parsed
          have other := smallId_lt_greatId_iff.mp different
          refine ordered (List.mem_singleton.mp linked) (later (Or.inl ⟨other, ?_, ?_⟩))
          · exact client.isUser typable.sound asked signedIn
          · exact (accounts _ asked granted).1 isAdd isUser _ signedIn other
      | operateInvite parsed isInvite isGroup =>
          have asked := asks_of_dispatched reached parsed
          have after := operateInvite_graph asked isInvite isGroup
          split at after
          · rename_i effective
            have pair := (accounts _ asked effective.2).2 isInvite isGroup effective.1
            exact ordered (List.mem_singleton.mp linked) (later (Or.inr (Or.inl pair)))
          · -- Without the `INSERT` there is no link.
            rw [graph] at after
            have rows := congrArg Graph.links after
            simp [GraphOp.apply, Graph.link] at rows
      | acceptUnrecorded signedIn parsed read found addressee isAccept parties =>
          exact ordered (List.mem_singleton.mp linked)
            (later (typable.requests _ _ _ _ found parties))
      | accept signedIn parsed read found addressee isAccept parties =>
          exact ordered (by simpa using linked) (later (typable.requests _ _ _ _ found parties))
      | _ => simp at linked

/-- What `OperateFriend` joined was registered if the pair is typed. -/
theorem accounts_of_typed (typed : (w.step pb label).store.graph.EdgesTyped) :
    OperatesOnAccounts pb w label := by
  have joined : ∀ {x y : Int}, (w.step pb label).store.graph =
      w.store.graph.link (smallId x y) (greatId x y) → w.store.graph.TypedPair x y := by
    intro x y linked
    have row : (smallId x y, greatId x y) ∈ (w.step pb label).store.graph.links := by
      rw [linked]
      exact List.mem_append_right _ (List.mem_singleton_self _)
    have pair := typed.rows _ row
    rw [linked] at pair
    exact (Graph.TypedPair.ofSamePair (samePair_ordered.mp (Or.inl ⟨rfl, rfl⟩))).mp pair
  intro ask asked granted
  refine ⟨?_, ?_⟩
  · intro isAdd isUser user signedIn different
    have linked := operateAdd_graph asked isAdd isUser signedIn
    rw [if_pos ⟨different, granted⟩] at linked
    rcases joined linked with ⟨-, -, friend⟩ | ⟨-, group⟩ | ⟨-, friend⟩
    · exact friend
    · exact absurd isUser (not_lt.mpr group.1)
    · exact friend
  · intro isInvite isGroup different
    have linked := operateInvite_graph asked isInvite isGroup
    rw [if_pos ⟨different, granted⟩] at linked
    rcases joined linked with ⟨-, -, user⟩ | pair | ⟨-, user⟩
    · exact absurd isGroup (not_le.mpr user.1)
    · exact pair
    · exact absurd isGroup (not_le.mpr user.1)

/-- A step keeps the pairs typed exactly when `OperateFriend` joins accounts. -/
theorem edgesTyped_step_iff (typable : w.Typable) (client : ClientStep w label)
    (typed : w.store.graph.EdgesTyped) :
    (w.step pb label).store.graph.EdgesTyped ↔ OperatesOnAccounts pb w label := by
  constructor
  · exact accounts_of_typed
  · intro accounts
    have sound : (w.step pb label).Sound := typable.sound.step
    refine sound.coherent.edgesTyped ?_
    intro row listed
    have before : row ∈ w.store.graph.links →
        (w.step pb label).store.graph.TypedPair row.1 row.2 := fun old =>
      (typed.rows row old).mono fun _ known => account_isSome_step known
    rcases step_effect pb w label with ⟨loads, -, restarted⟩ | ⟨ops, effect, follows⟩
    · rw [graph_restart restarted] at listed
      exact before listed
    · rw [follows.graph] at listed
      rcases Graph.links_of_perform listed with old | linked
      · exact before old
      · exact link_typed typable client accounts effect follows.graph linked

/-! ### The friend sets -/

/-- The pairs are typed, and the friend sets are those of the rows. -/
structure Regular (w : World) : Prop where
  typable : w.Typable
  typed : w.store.graph.EdgesTyped
  sameIds : w.store.graph.SameIds
  settled : w.store.graph.FriendsSettled

theorem sameIds_step (sameIds : w.store.graph.SameIds) :
    (w.step pb label).store.graph.SameIds := by
  rcases step_effect pb w label with ⟨loads, -, restarted⟩ | ⟨ops, -, follows⟩
  · rw [graph_restart restarted]
    exact fun _ => rfl
  · rw [follows.graph]
    exact sameIds.perform ops

/-- The first id of a row is registered, so its record is there to be linked. -/
theorem known_of_row {g : Graph} {small : Int} (great : Int)
    (typed : (w.step pb label).store.graph.EdgesTyped)
    (row : (small, great) ∈ (w.step pb label).store.graph.links)
    (sameAccounts : (w.step pb label).store.graph.account = g.account) :
    (g.account small).isSome := by
  rw [← sameAccounts]
  exact (typed.rows _ row).known

/-- While the pairs are typed, cache and rows agree on them. -/
theorem friendsSettled_step (regular : w.Regular) (client : ClientStep w label)
    (typed : (w.step pb label).store.graph.EdgesTyped) :
    (w.step pb label).store.graph.FriendsSettled := by
  have settled := regular.settled
  -- A new id is in no row, since all ids there are registered.
  have unlinked : ∀ {id : Int}, w.store.graph.account id = none →
      ∀ b, ¬ w.store.graph.Related id b := by
    intro id fresh b related
    have known := (regular.typed.related related).known
    rw [fresh] at known
    cases known
  have unlinks : ∀ {small great : Int}, small ≤ great →
      (w.store.graph.unlink small great).FriendsSettled := by
    intro small great ordered
    refine (Graph.friendsSettled_unlink_iff settled).mpr ?_
    intro different _ reversed
    exact different (le_antisymm ordered (regular.typable.ordered _ reversed))
  have links : ∀ {small great : Int},
      (w.step pb label).store.graph.links = w.store.graph.links ++ [(small, great)] →
      (w.step pb label).store.graph.account = w.store.graph.account →
        (w.store.graph.link small great).FriendsSettled := by
    intro small great rows sameAccounts
    refine settled.link regular.sameIds (known_of_row great typed ?_ sameAccounts)
    rw [rows]
    exact List.mem_append_right _ (List.mem_singleton_self _)
  rcases step_effect pb w label with ⟨loads, event, restarted⟩ | ⟨ops, effect, follows⟩
  · have complete := client.loads loads (by simp [Step.loads?, event])
    rw [graph_restart restarted]
    intro a b
    simp only [Graph.reload, complete, true_and]
    exact Iff.rfl
  have graph := follows.graph
  cases effect with
  | idle =>
      rw [graph]
      exact settled
  | handled reached effect =>
      cases effect with
      | register fresh =>
          rw [graph]
          exact settled.enrol (unlinked fresh)
      | createGroupAlone _ _ _ _ fresh =>
          rw [graph]
          exact settled.enrol (unlinked fresh)
      | @createGroup user req signedIn parsed named granted fresh =>
          have row : (smallId user.userid (w.store.baseGroupID + 1),
              greatId user.userid (w.store.baseGroupID + 1)) ∈
                (w.step pb label).store.graph.links := by
            rw [graph]
            exact List.mem_append_right _ (List.mem_singleton_self _)
          have known := known_of_row (g := w.store.graph.enrol (w.store.baseGroupID + 1)
            user.userid) _ typed row (by rw [graph]; rfl)
          rw [graph]
          exact (settled.enrol (unlinked fresh)).link
            (regular.sameIds.perform [.enrol (w.store.baseGroupID + 1) user.userid]) known
      | operateAdd =>
          have linked := links (congrArg Graph.links graph) (by rw [graph]; rfl)
          rw [graph]
          exact linked
      | operateDelete =>
          rw [graph]
          exact unlinks (smallId_le_greatId _ _)
      | kick _ _ _ _ _ _ ordered =>
          rw [graph]
          exact unlinks ordered.le
      | operateInvite =>
          have linked := links (congrArg Graph.links graph) (by rw [graph]; rfl)
          rw [graph]
          exact linked
      | acceptUnrecorded =>
          have linked := links (congrArg Graph.links graph) (by rw [graph]; rfl)
          rw [graph]
          exact linked
      | accept =>
          have linked := links (congrArg Graph.links graph) (by rw [graph]; rfl)
          rw [graph]
          exact linked
      | _ =>
          rw [graph]
          exact settled

theorem Regular.step (regular : w.Regular) (client : ClientStep w label)
    (accounts : OperatesOnAccounts pb w label) : (w.step pb label).Regular := by
  have typed := (edgesTyped_step_iff regular.typable client regular.typed).mpr accounts
  exact ⟨regular.typable.step client, typed, sameIds_step regular.sameIds,
    friendsSettled_step regular client typed⟩

/-- A listed member of a group is a user, and his friend set has the group. -/
theorem Regular.member (regular : w.Regular) {groupid memberid : Int}
    (isGroup : groupid ≥ groupIdBoundary) (listed : w.store.graph.friend groupid memberid) :
    memberid < groupIdBoundary ∧ w.store.graph.friend memberid groupid := by
  have pair := (regular.typed.friends groupid memberid listed).symm
  refine ⟨?_, (regular.settled memberid groupid).mpr ⟨pair.known, ?_⟩⟩
  · rcases pair with ⟨-, member, -⟩ | ⟨member, -⟩ | ⟨-, group⟩
    · exact member.1
    · exact member.1
    · exact absurd isGroup (not_le.mpr group.1)
  · exact ((regular.settled groupid memberid).mp listed).2.symm

end World

end AimServer
