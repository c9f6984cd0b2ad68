import AimServer.Properties.GroupAdmins

/-!
Contract: the owner of a group is one of its members.

Owns: the groups a client was told were created, the bond between such a group
and its owner, the condition on steps under which every run keeps it, and the
run in which the owner leaves.

`OnCreateGroupResponse` answers 0 once the group row is there, whatever became
of the relationship row. `OnKickGroupMemberResponse` refuses to remove the
owner, `OperateFriend` type 2 does not.
-/

namespace AimServer

open AimServer.Lib

/-- In every state after the step that answered 0 to a `CreateGroup`, the
group has its owner among its members. -/
def OwnersAreMembers (pb : ImProto) (start : World) (steps : List Step) : Prop :=
  ∀ past label middle rest, steps = past ++ label :: (middle ++ rest) → ∀ ask,
    (World.runFrom pb start past).asks label .createGroup pb.createGroupReq = some ask →
    ∀ conn frame text groupid name, (conn, frame) ∈ (World.runFrom pb start past).sent pb label →
      frame.body = .createGroup 0 text groupid name →
        ∃ group, (World.runFrom pb start (past ++ label :: middle)).store.getUserByID groupid =
            some group ∧ group.ownerid ∈ group.friends

/-- Neither of two ids is a group that the other owns, as the tables have it. -/
def Unowned (w : World) (a b : Int) : Prop :=
  ¬ (a ≥ groupIdBoundary ∧ w.store.graph.account a = some b) ∧
    ¬ (b ≥ groupIdBoundary ∧ w.store.graph.account b = some a)

/-- No group is parted from its owner. -/
def PartsNoOwner (pb : ImProto) (w : World) (label : Step) : Prop :=
  (∀ ask ∈ w.asks label .operateFriend pb.operateFriendReq, ∀ user ∈ ask.session.user,
    ask.req.type = 2 → label.env.sql 0 = true → Unowned w user.userid ask.req.friendid) ∧
  (∀ ask ∈ w.asks label .kickGroupMember pb.kickGroupMemberReq, ∀ user ∈ ask.session.user,
    Kicks w label user ask.req → Unowned w ask.req.memberid ask.req.groupid)

/-- What the server would have to see to for owners. -/
def KeepsOwners (pb : ImProto) (w : World) (label : Step) : Prop :=
  PartsNoOwner pb w label ∧ FoundsWithOwner pb w label ∧ ReloadsMembers w label

instance (w : World) (a b : Int) : Decidable (Unowned w a b) :=
  inferInstanceAs (Decidable (_ ∧ _))

instance (pb : ImProto) (w : World) (label : Step) : Decidable (PartsNoOwner pb w label) :=
  inferInstanceAs (Decidable (
    (∀ ask ∈ w.asks label .operateFriend pb.operateFriendReq, _) ∧
    (∀ ask ∈ w.asks label .kickGroupMember pb.kickGroupMemberReq, _)))

instance (pb : ImProto) (w : World) (label : Step) : Decidable (KeepsOwners pb w label) :=
  inferInstanceAs (Decidable (_ ∧ _))

/-! ### A new group -/

section Handler

variable {pb : ImProto} {s : ClientSession} {msg : MessageContainer} {w : World}

/-- The account `AddGroup` enrols is still there after `OnAddGroupResponse`. -/
theorem onAddGroupResponse_account {user : User} {groupid owner : Int}
    (known : w.store.graph.account groupid = some owner) :
    (w.onAddGroupResponse user groupid).store.graph.account groupid = some owner := by
  have store : (w.onAddGroupResponse user groupid).store =
      (w.store.makeFriendRelationship (smallId user.userid groupid)
        (greatId user.userid groupid)).2 := rfl
  rw [store]
  rcases Store.makeFriendRelationship_cases (smallId user.userid groupid)
      (greatId user.userid groupid) w.store with ⟨-, -, follows⟩ | ⟨-, -, -, follows, -⟩
  · rw [follows.graph]
    exact known
  · rw [follows.graph]
    exact Graph.account_perform known

/-- A `CreateGroup` is answered with a code other than 0 or not at all, or the
next group id is enrolled and is the one in the answer. -/
theorem onCreateGroupResponse_cases :
    (∃ code text groupid name, code ≠ 0 ∧ (w.onCreateGroupResponse pb s msg).outbox =
        w.outbox ++ [(s.conn, ⟨MsgType.createGroup.cmd, s.seq, 0,
          .createGroup code text groupid name⟩)]) ∨
      (w.onCreateGroupResponse pb s msg).outbox = w.outbox ∨
      ∃ user name, s.user = some user ∧
        w.store.graph.account (w.store.baseGroupID + 1) = none ∧
        (w.onCreateGroupResponse pb s msg).store.graph.account (w.store.baseGroupID + 1) =
          some user.userid ∧
        (w.onCreateGroupResponse pb s msg).outbox =
          w.outbox ++ [(s.conn, ⟨MsgType.createGroup.cmd, s.seq, 0,
            .createGroup 0 "ok" (w.store.baseGroupID + 1) name⟩)] := by
  unfold World.onCreateGroupResponse
  split
  · exact Or.inl ⟨101, _, _, _, by decide, rfl⟩
  rename_i req parsed
  split
  · exact Or.inl ⟨102, _, _, _, by decide, rfl⟩
  split
  · exact Or.inr (Or.inl rfl)
  rename_i user signedIn
  split
  · rename_i groupid store added
    rcases Store.addGroup_cases req.groupname user.userid w.store with
      ⟨refused, -⟩ | ⟨isNext, -, fresh, enrolled, -⟩
    · rw [added] at refused
      cases refused
    · rw [added] at isNext enrolled
      cases isNext
      have known : store.graph.account (w.store.baseGroupID + 1) = some user.userid := by
        rw [enrolled.graph]
        simp [GraphOp.apply, Graph.enrol, fresh]
      exact Or.inr (Or.inr ⟨user, req.groupname, signedIn, fresh,
        onAddGroupResponse_account (w := w.withStore store) known, rfl⟩)
  · exact Or.inl ⟨100, _, _, _, by decide, rfl⟩

end Handler

section Step

variable {pb : ImProto} {w : World} {label : Step} {groupid owner : Int}

/-- The group has that owner, and has him in its member set. -/
structure Bonded (groupid owner : Int) (w : World) : Prop where
  account : w.store.graph.account groupid = some owner
  member : w.store.graph.friend groupid owner

/-- A step that enrols the next group id with the `INSERT` for its owner puts
the owner into its member set. -/
theorem bonded_of_enrolled {ask : Ask CreateGroupReq} (sound : w.Sound)
    (founds : FoundsWithOwner pb w label)
    (asked : w.asks label .createGroup pb.createGroupReq = some ask)
    (fresh : w.store.graph.account groupid = none)
    (account : (w.step pb label).store.graph.account groupid = some owner) :
    Bonded groupid owner (w.step pb label) := by
  have reached := (World.dispatched_of_asks asked).1
  refine ⟨account, ?_⟩
  rcases World.step_effect pb w label with ⟨loads, event, -⟩ | ⟨ops, effect, follows⟩
  · rw [(World.dispatched_session reached).2.1] at event
    cases event
  have enrolled : GraphOp.enrol groupid owner ∈ ops := by
    rw [follows.graph] at account
    rcases Graph.account_of_perform account with before | new
    · rw [fresh] at before
      cases before
    · exact new
  rcases effect.founded follows sound enrolled with ⟨-, s, msg, register⟩ | cause
  · rw [reached] at register
    cases register
  cases cause with
  | founded askedHere signedIn named granted unused isGroup isOwner joined =>
      have signed := Option.isSome_iff_exists.mpr ⟨_, signedIn⟩
      exact (joined (founds _ askedHere signed named granted unused)).2
  | appointed askedOther => cases World.asks_type_unique asked askedOther

/-- A `CreateGroup` that is answered 0 bonds the next group id to an owner. -/
theorem bonded_of_answer {ask : Ask CreateGroupReq} {conn : Nat} {frame : Frame} {text : String}
    {name : Bytes} (sound : w.Sound) (founds : FoundsWithOwner pb w label)
    (asked : w.asks label .createGroup pb.createGroupReq = some ask)
    (sent : (conn, frame) ∈ w.sent pb label)
    (body : frame.body = .createGroup 0 text groupid name) :
    groupid ≥ groupIdBoundary ∧ ∃ owner, Bonded groupid owner (w.step pb label) := by
  have step := World.step_of_dispatched pb (World.dispatched_of_asks asked).1
  rcases onCreateGroupResponse_cases (w := (w.withEnv label.env).setSession ask.session) with
    ⟨code, refusal, answered, other, refused, outbox⟩ | silent |
      ⟨user, given, signedIn, fresh, enrolled, outbox⟩
  · rw [World.sent_eq (by rw [step]; exact outbox), List.mem_singleton] at sent
    cases sent
    cases body
    exact absurd rfl refused
  · have nothing : w.sent pb label = [] :=
      World.sent_eq (by rw [step, List.append_nil]; exact silent)
    rw [nothing] at sent
    cases sent
  · rw [World.sent_eq (by rw [step]; exact outbox), List.mem_singleton] at sent
    cases sent
    cases body
    have above : w.store.baseGroupID ≤ w.store.baseGroupID + 1 := by omega
    refine ⟨sound.groupBase.trans above, user.userid, ?_⟩
    exact bonded_of_enrolled sound founds asked fresh (by rw [step]; exact enrolled)

/-! ### Later steps -/

/-- A group and its owner are not parted. -/
theorem PartsNoOwner.not_unlinked (parts : PartsNoOwner pb w label)
    (isGroup : groupid ≥ groupIdBoundary)
    (account : w.store.graph.account groupid = some owner) :
    ¬ UnlinkCause pb w label groupid owner := by
  have owned : ∀ {x y : Int}, Graph.SamePair x y groupid owner → ¬ Unowned w x y := by
    intro x y pair unowned
    rcases pair with ⟨rfl, rfl⟩ | ⟨rfl, rfl⟩
    · exact unowned.1 ⟨isGroup, account⟩
    · exact unowned.2 ⟨isGroup, account⟩
  intro cause
  cases cause with
  | deleted asked signedIn isDelete granted pair =>
      exact owned pair (parts.1 _ asked _ signedIn isDelete granted)
  | kicked asked signedIn isGroup isOwner other member ordered granted pair =>
      exact owned pair (parts.2 _ asked _ signedIn
        ⟨isGroup, isOwner, other, member, ordered, granted⟩)

/-- A bond survives every step that parts no owner and reloads the members. -/
theorem Bonded.step (bonded : Bonded groupid owner w) (sound : w.Sound)
    (isGroup : groupid ≥ groupIdBoundary) (keeps : KeepsOwners pb w label) :
    Bonded groupid owner (w.step pb label) := by
  have together := keeps.1.not_unlinked isGroup bonded.account
  refine ⟨World.account_step bonded.account, ?_⟩
  by_cases restarts : ∃ loads, label.event = .restart loads
  · obtain ⟨loads, event⟩ := restarts
    have known : (w.store.graph.account groupid).isSome :=
      Option.isSome_iff_exists.mpr ⟨owner, bonded.account⟩
    have related := (sound.coherent.friend groupid owner bonded.member).2
    rw [World.graph_of_restart_event event]
    exact ⟨known, keeps.2.2.reads event isGroup known, related⟩
  · exact friend_kept_step (fun loads event => restarts ⟨loads, event⟩) together bonded.member

/-- The record of a bonded group has its owner among its friends. -/
theorem Bonded.record (bonded : Bonded groupid owner w) (sound : w.Sound) :
    ∃ group, w.store.getUserByID groupid = some group ∧ group.ownerid ∈ group.friends := by
  obtain ⟨group, found, member⟩ := Store.isFriend_iff.mp bonded.member
  have account := sound.coherent.cached groupid _ (Store.cached_of_getUserByID found)
  rw [bonded.account, Option.some.injEq] at account
  exact ⟨group, found, account ▸ member⟩

end Step

/-- As long as no group is parted from its owner and no relationship row of a
new group is lost, owners are members. -/
theorem group_owners_are_members (pb : ImProto) (tables : Tables) (steps : List Step)
    (keeps : AllSteps (World.step pb) (KeepsOwners pb) (World.boot tables) steps) :
    OwnersAreMembers pb (World.boot tables) steps := by
  intro past label middle rest split ask asked conn frame text groupid name sent body
  subst split
  rw [allSteps_append] at keeps
  obtain ⟨-, here, later⟩ := keeps
  rw [allSteps_append] at later
  have sound := World.sound_run pb past (World.sound_boot tables)
  obtain ⟨isGroup, owner, bonded⟩ := bonded_of_answer sound here.2.1 asked sent body
  -- The bond goes through the steps after the creation.
  have kept := run_invariant (fun w => w.Sound ∧ Bonded groupid owner w)
    (fun _ _ before keepsNow => ⟨before.1.step, before.2.step before.1 isGroup keepsNow⟩)
    ⟨sound.step, bonded⟩ later.1
  rw [World.runFrom, run_append, run_cons]
  exact kept.2.record kept.1

namespace OwnerRuns

/-- Alice creates a group. -/
def creates : Step := Client.send 0 .createGroup (Client.createGroup (str "club"))

def created : List Step :=
  Sample.aliceLogsIn ++ [creates]

/-- Alice leaves it. -/
def left : List Step :=
  [Client.send 0 .operateFriend (Client.operateFriend 2 268435456)]

end OwnerRuns

theorem group_owners_are_members_created :
    (World.runFrom wireProto (World.boot Sample.aliceAlone)
        OwnerRuns.created).store.isFriend 268435456 1 = true ∧
      OwnersAreMembers wireProto (World.boot Sample.aliceAlone) OwnerRuns.created :=
  ⟨by decide, group_owners_are_members _ _ _ (by decide)⟩

/-- The owner of a group leaves it and stays its owner. -/
theorem owner_leaves_group :
    ¬ OwnersAreMembers wireProto (World.boot Sample.aliceAlone)
      (OwnerRuns.created ++ OwnerRuns.left) := by
  intro areMembers
  have answers : ((World.runFrom wireProto (World.boot Sample.aliceAlone)
      Sample.aliceLogsIn).asks OwnerRuns.creates .createGroup
        wireProto.createGroupReq).isSome := by decide
  obtain ⟨ask, asked⟩ := Option.isSome_iff_exists.mp answers
  obtain ⟨group, found, member⟩ := areMembers Sample.aliceLogsIn OwnerRuns.creates
    OwnerRuns.left [] rfl ask asked 0
    ⟨MsgType.createGroup.cmd, 1, 0, .createGroup 0 "ok" 268435456 (str "club")⟩ "ok" 268435456
    (str "club") (by decide) rfl
  have left : ((World.runFrom wireProto (World.boot Sample.aliceAlone)
      (Sample.aliceLogsIn ++ OwnerRuns.creates :: OwnerRuns.left)).store.getUserByID
        268435456).map (fun group => decide (group.ownerid ∈ group.friends)) = some false := by
    decide
  rw [found] at left
  simp [member] at left

end AimServer
