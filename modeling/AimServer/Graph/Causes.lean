import AimServer.Graph.Coherence

/-!
Contract: why two ids become related or are parted, and where a request comes
from.

Owns: the four causes of a link, the two causes of its removal and the three
causes of a request row in one step, and the theorems that a step which
relates two ids, parts them or shows a request row has one of them.
-/

namespace AimServer

open AimServer.Lib

/-- Why a step links `a` and `b`, in either order. -/
inductive LinkCause (pb : ImProto) (w : World) (label : Step) (a b : Int) : Prop
  /-- A user creates the group. -/
  | created {ask : Ask CreateGroupReq} {user : User}
      (asked : w.asks label .createGroup pb.createGroupReq = some ask)
      (signedIn : ask.session.user = some user)
      (pair : Graph.SamePair user.userid (w.store.baseGroupID + 1) a b)
  /-- `OperateFriend` type 1. -/
  | added {ask : Ask OperateFriendReq} {user : User}
      (asked : w.asks label .operateFriend pb.operateFriendReq = some ask)
      (signedIn : ask.session.user = some user) (isAdd : ask.req.type = 1)
      (isUser : ask.req.friendid < groupIdBoundary) (different : user.userid ≠ ask.req.friendid)
      (granted : label.env.sql 0 = true)
      (pair : Graph.SamePair user.userid ask.req.friendid a b)
  /-- `OperateFriend` type 3. -/
  | invited {ask : Ask OperateFriendReq}
      (asked : w.asks label .operateFriend pb.operateFriendReq = some ask)
      (isInvite : ask.req.type = 3) (isGroup : ask.msg.targetId ≥ groupIdBoundary)
      (pair : Graph.SamePair ask.req.friendid ask.msg.targetId a b)
  /-- The addressee of a request accepts it. -/
  | accepted {ask : Ask HandleRequestReq} {user : User} {row : FriendRequestRow}
      {first second : Int}
      (asked : w.asks label .handleRequest pb.handleRequestReq = some ask)
      (signedIn : ask.session.user = some user) (isAccept : ask.req.action ≠ 2)
      (read : label.env.sql 0 = true) (granted : label.env.sql 1 = true)
      (found : w.store.graph.request ask.req.reqid = some row)
      (addressee : row.toId = user.userid)
      (parties : World.requestParties row = some (first, second))
      (pair : Graph.SamePair first second a b)

section Step

variable {pb : ImProto} {w : World} {label : Step} {a b : Int}

/-- The order of the two ids does not matter to the pair. -/
theorem samePair_ordered {x y : Int} :
    Graph.SamePair (smallId x y) (greatId x y) a b ↔ Graph.SamePair x y a b := by
  unfold smallId greatId
  split
  · exact Iff.rfl
  · exact or_comm

/-- Every link of a step has a cause. -/
theorem StepEffect.link_cause {ops : List GraphOp} (effect : StepEffect pb w label ops)
    {small great : Int} (linked : GraphOp.link small great ∈ ops)
    (same : Graph.SamePair small great a b) : LinkCause pb w label a b := by
  cases effect with
  | idle => simp at linked
  | handled reached effect =>
      have pairOf : ∀ {x y : Int}, GraphOp.link small great = .link (smallId x y) (greatId x y) →
          Graph.SamePair x y a b := by
        intro x y isLink
        cases isLink
        exact samePair_ordered.mp same
      cases effect with
      | createGroup signedIn parsed =>
          exact .created (World.asks_of_dispatched reached parsed) signedIn
            (pairOf (by simpa using linked))
      | operateAdd signedIn parsed isAdd isUser ordered granted =>
          exact .added (World.asks_of_dispatched reached parsed) signedIn isAdd isUser
            (smallId_lt_greatId_iff.mp ordered) granted (pairOf (List.mem_singleton.mp linked))
      | operateInvite parsed isInvite isGroup =>
          exact .invited (World.asks_of_dispatched reached parsed) isInvite isGroup
            (pairOf (List.mem_singleton.mp linked))
      | acceptUnrecorded signedIn parsed read found addressee isAccept parties _ granted =>
          exact .accepted (World.asks_of_dispatched reached parsed) signedIn isAccept read granted
            found addressee parties (pairOf (List.mem_singleton.mp linked))
      | accept signedIn parsed read found addressee isAccept parties _ granted =>
          exact .accepted (World.asks_of_dispatched reached parsed) signedIn isAccept read granted
            found addressee parties (pairOf (by simpa using linked))
      | _ => simp at linked

/-- Two ids are related after a step because they were before, or for a
cause. -/
theorem related_step (related : (w.step pb label).store.graph.Related a b) :
    w.store.graph.Related a b ∨ LinkCause pb w label a b := by
  rcases World.step_effect pb w label with ⟨loads, -, restarted⟩ | ⟨ops, effect, follows⟩
  · rw [World.graph_restart restarted] at related
    exact Or.inl related
  · rw [follows.graph] at related
    rcases Graph.related_of_perform related with before | ⟨small, great, linked, same⟩
    · exact Or.inl before
    · exact Or.inr (effect.link_cause linked same)

/-- An id is in a friend set after a step that is no restart because it was
before, or for a cause. -/
theorem friend_step (running : ∀ loads, label.event ≠ .restart loads)
    (friend : (w.step pb label).store.graph.friend a b) :
    w.store.graph.friend a b ∨ LinkCause pb w label a b := by
  rcases World.step_effect pb w label with ⟨loads, event, -⟩ | ⟨ops, effect, follows⟩
  · exact absurd event (running loads)
  · rw [follows.graph] at friend
    rcases Graph.friend_of_perform friend with before | ⟨small, great, linked, same⟩
    · exact Or.inl before
    · exact Or.inr (effect.link_cause linked same)

end Step

/-! ### Removals -/

/-- Why a step parts `a` and `b`, in either order. -/
inductive UnlinkCause (pb : ImProto) (w : World) (label : Step) (a b : Int) : Prop
  /-- `OperateFriend` type 2. -/
  | deleted {ask : Ask OperateFriendReq} {user : User}
      (asked : w.asks label .operateFriend pb.operateFriendReq = some ask)
      (signedIn : ask.session.user = some user) (isDelete : ask.req.type = 2)
      (granted : label.env.sql 0 = true)
      (pair : Graph.SamePair user.userid ask.req.friendid a b)
  /-- The owner removes a member. -/
  | kicked {ask : Ask KickGroupMemberReq} {user : User}
      (asked : w.asks label .kickGroupMember pb.kickGroupMemberReq = some ask)
      (signedIn : ask.session.user = some user) (isGroup : ask.req.groupid ≥ groupIdBoundary)
      (owned : w.store.graph.cached ask.req.groupid = some user.userid)
      (other : ask.req.memberid ≠ user.userid)
      (member : w.store.graph.friend ask.req.memberid ask.req.groupid)
      (ordered : ask.req.memberid < ask.req.groupid) (granted : label.env.sql 0 = true)
      (pair : Graph.SamePair ask.req.memberid ask.req.groupid a b)

section Step

variable {pb : ImProto} {w : World} {label : Step} {a b : Int}

/-- Every unlink of a step has a cause. -/
theorem StepEffect.unlink_cause {ops : List GraphOp} (effect : StepEffect pb w label ops)
    {small great : Int} (unlinked : GraphOp.unlink small great ∈ ops)
    (same : Graph.SamePair small great a b) : UnlinkCause pb w label a b := by
  cases effect with
  | idle => simp at unlinked
  | handled reached effect =>
      cases effect with
      | operateDelete signedIn parsed isDelete granted =>
          cases List.mem_singleton.mp unlinked
          exact .deleted (World.asks_of_dispatched reached parsed) signedIn isDelete granted
            (samePair_ordered.mp same)
      | kick signedIn parsed isGroup owned other member ordered granted =>
          cases List.mem_singleton.mp unlinked
          exact .kicked (World.asks_of_dispatched reached parsed) signedIn isGroup owned other
            member ordered granted same
      | _ => simp at unlinked

/-- Two ids stay related in the tables, unless the step parts them. -/
theorem related_kept_step (together : ¬ UnlinkCause pb w label a b)
    (related : w.store.graph.Related a b) : (w.step pb label).store.graph.Related a b := by
  rcases World.step_effect pb w label with ⟨loads, -, restarted⟩ | ⟨ops, effect, follows⟩
  · rw [World.graph_restart restarted]
    exact related
  · rw [follows.graph]
    refine Graph.related_perform ?_ related
    intro small great unlinked same
    exact together (effect.unlink_cause unlinked same)

/-- Outside a restart an id stays in a friend set, unless the step parts the
two. -/
theorem friend_kept_step (running : ∀ loads, label.event ≠ .restart loads)
    (together : ¬ UnlinkCause pb w label a b) (friend : w.store.graph.friend a b) :
    (w.step pb label).store.graph.friend a b := by
  rcases World.step_effect pb w label with ⟨loads, event, -⟩ | ⟨ops, effect, follows⟩
  · exact absurd event (running loads)
  · rw [follows.graph]
    refine Graph.friend_perform ?_ friend
    intro small great unlinked same
    exact together (effect.unlink_cause unlinked same)

end Step

/-! ### Requests -/

/-- Why a step stores a request row. -/
inductive RequestCause (pb : ImProto) (w : World) (label : Step) (row : FriendRequestRow) : Prop
  | friend {ask : Ask SendRequestReq} {user : User} {clock : Int}
      (asked : w.asks label .sendRequest pb.sendRequestReq = some ask)
      (signedIn : ask.session.user = some user) (isFriend : ask.req.reqtype = 1)
      (other : ask.req.targetid ≠ user.userid) (isUser : ask.req.targetid < groupIdBoundary)
      (knownTarget : (w.store.graph.cached ask.req.targetid).isSome)
      (stranger : ¬ w.store.graph.friend user.userid ask.req.targetid)
      (granted : label.env.sql 1 = true)
      (unasked : ¬ (label.env.sql 0 = true ∧ Store.pendingDuplicate user.userid ask.req.targetid
        1 0 w.store.db.tables = true))
      (isRow : row = ⟨user.userid, ask.req.targetid, 1, 0, ask.req.message, 0, clock⟩)
  | invitation {ask : Ask SendRequestReq} {user : User} {clock : Int}
      (asked : w.asks label .sendRequest pb.sendRequestReq = some ask)
      (signedIn : ask.session.user = some user) (isInvitation : ask.req.reqtype = 2)
      (isGroup : ask.req.groupid ≥ groupIdBoundary)
      (known : (w.store.graph.cached ask.req.groupid).isSome)
      (isUser : ask.req.targetid < groupIdBoundary)
      (knownTarget : (w.store.graph.cached ask.req.targetid).isSome)
      (stranger : ¬ w.store.graph.friend ask.req.targetid ask.req.groupid)
      (granted : label.env.sql 1 = true)
      (unasked : ¬ (label.env.sql 0 = true ∧ Store.pendingDuplicate user.userid ask.req.targetid
        2 ask.req.groupid w.store.db.tables = true))
      (isRow : row = ⟨user.userid, ask.req.targetid, 2, ask.req.groupid, ask.req.message, 0, clock⟩)
  | application {ask : Ask SendRequestReq} {user : User} {clock owner : Int}
      (asked : w.asks label .sendRequest pb.sendRequestReq = some ask)
      (signedIn : ask.session.user = some user) (isApplication : ask.req.reqtype = 3)
      (isGroup : ask.req.groupid ≥ groupIdBoundary)
      (known : w.store.graph.cached ask.req.groupid = some owner)
      (isRow : row = ⟨user.userid, owner, 3, ask.req.groupid, ask.req.message, 0, clock⟩)

/-- Two request rows differ at most in their status. -/
structure SameRequest (row other : FriendRequestRow) : Prop where
  fromId : row.fromId = other.fromId
  toId : row.toId = other.toId
  reqtype : row.reqtype = other.reqtype
  groupId : row.groupId = other.groupId

section Step

variable {pb : ImProto} {w : World} {label : Step} {reqid : Int} {row : FriendRequestRow}

theorem request_of_decide {g : Graph} {key status : Int}
    (found : (g.decide key status).request reqid = some row) :
    ∃ old, g.request reqid = some old ∧ SameRequest row old := by
  simp only [Graph.decide] at found
  split at found
  · obtain ⟨old, isOld, rfl⟩ := Option.map_eq_some_iff.mp found
    exact ⟨old, isOld, rfl, rfl, rfl, rfl⟩
  · exact ⟨row, found, rfl, rfl, rfl, rfl⟩

/-- A request row after a step was there before, up to its status, or is
stored by it. -/
theorem request_origin_step (found : (w.step pb label).store.graph.request reqid = some row) :
    (∃ old, w.store.graph.request reqid = some old ∧ SameRequest row old) ∨
      (w.store.graph.request reqid = none ∧ RequestCause pb w label row) := by
  have kept : w.store.graph.request reqid = some row →
      (∃ old, w.store.graph.request reqid = some old ∧ SameRequest row old) :=
    fun same => ⟨row, same, rfl, rfl, rfl, rfl⟩
  rcases World.step_effect pb w label with ⟨loads, -, restarted⟩ | ⟨ops, effect, follows⟩
  · rw [World.graph_restart restarted] at found
    exact Or.inl (kept found)
  rw [follows.graph] at found
  have stored : ∀ {key : Int} {new : FriendRequestRow}, w.store.graph.request key = none →
      (w.store.graph.ask key new).request reqid = some row → RequestCause pb w label new →
      (∃ old, w.store.graph.request reqid = some old ∧ SameRequest row old) ∨
        (w.store.graph.request reqid = none ∧ RequestCause pb w label row) := by
    intro key new fresh isRow cause
    by_cases isKey : reqid = key
    · subst isKey
      simp only [Graph.ask, if_true, Option.some.injEq] at isRow
      exact Or.inr ⟨fresh, isRow ▸ cause⟩
    · simp only [Graph.ask, if_neg isKey] at isRow
      exact Or.inl (kept isRow)
  cases effect with
  | idle => exact Or.inl (kept found)
  | handled reached effect =>
      cases effect with
      | sendFriendRequest signedIn parsed isFriend other isUser knownTarget stranger granted
          unasked fresh =>
          exact stored fresh found (.friend (World.asks_of_dispatched reached parsed) signedIn
            isFriend other isUser knownTarget stranger granted unasked rfl)
      | sendInvitation signedIn parsed isInvitation isGroup known isUser knownTarget stranger
          granted unasked fresh =>
          exact stored fresh found (.invitation (World.asks_of_dispatched reached parsed) signedIn
            isInvitation isGroup known isUser knownTarget stranger granted unasked rfl)
      | sendApplication signedIn parsed isApplication isGroup known fresh =>
          exact stored fresh found (.application (World.asks_of_dispatched reached parsed) signedIn
            isApplication isGroup known rfl)
      | reject => exact Or.inl (request_of_decide found)
      | accept => exact Or.inl (request_of_decide found)
      | _ => exact Or.inl (kept found)

end Step

end AimServer
