import AimServer.Graph.Edges
import AimServer.Session.Answers
import AimServer.Properties.Client

/-!
Contract: the relationships of a run join accounts.

Proves that every relationship row and every friend set joins two users or a
user and a group, and that an owner can remove every listed member, exactly
when `OperateFriend` is only used on registered accounts.

`OnSendRequestResponse` looks its ids up, and `OnOperateFriendResponse` does
not.
-/

namespace AimServer

open AimServer.Lib

/-- Rows and requests to start from. -/
structure Graph.WellFormed (g : Graph) : Prop where
  rows : ∀ row ∈ g.links, g.TypedPair row.1 row.2
  ordered : g.RowsOrdered
  requests : g.RequestsTyped

namespace World

/-- The owner asks to remove a listed member other than himself, and the
`DELETE` would take effect. -/
structure AsksKick (pb : ImProto) (w : World) (label : Step) (ask : Ask KickGroupMemberReq)
    (owner group : User) : Prop where
  asked : w.asks label .kickGroupMember pb.kickGroupMemberReq = some ask
  signedIn : ask.session.user = some owner
  found : w.store.getUserByID ask.req.groupid = some group
  isGroup : ask.req.groupid ≥ groupIdBoundary
  owned : group.ownerid = owner.userid
  other : ask.req.memberid ≠ owner.userid
  listed : w.store.isFriend ask.req.groupid ask.req.memberid = true
  granted : label.env.sql 0 = true

/-- The request is answered with code 0. -/
def KickAccepted (pb : ImProto) (w : World) (label : Step) (ask : Ask KickGroupMemberReq) : Prop :=
  ∃ text, replyFrame ask.session .kickGroupMember
    (.kickGroupMember 0 text ask.req.groupid ask.req.memberid) ∈ w.sent pb label

/-- In every state of the run the pairs are typed, and every such request is
accepted. -/
structure RelationshipsTyped (pb : ImProto) (start : World) (steps : List Step) : Prop where
  edges : ∀ past rest, steps = past ++ rest → (runFrom pb start past).store.graph.EdgesTyped
  kicks : ∀ past label rest, steps = past ++ label :: rest → ∀ ask owner group,
    (runFrom pb start past).AsksKick pb label ask owner group →
      (runFrom pb start past).KickAccepted pb label ask

section Runs

variable {pb : ImProto} {w : World} {label : Step}

/-- Where the pairs are typed, the member id is below the group id. -/
theorem AsksKick.accepted {ask : Ask KickGroupMemberReq} {owner group : User}
    (regular : w.Regular) (asks : w.AsksKick pb label ask owner group) :
    w.KickAccepted pb label ask := by
  obtain ⟨isUser, isMember⟩ := regular.member asks.isGroup asks.listed
  have ordered : ask.req.memberid < ask.req.groupid := lt_of_lt_of_le isUser asks.isGroup
  have removed : ((w.withEnv label.env).store.releaseFriendRelationship ask.req.memberid
      ask.req.groupid).1 = true :=
    Store.releaseFriendRelationship_granted ordered asks.granted
  obtain ⟨reached, parsed⟩ := dispatched_of_asks asks.asked
  have found : ((w.withEnv label.env).setSession ask.session).store.getUserByID
      ask.req.groupid = some group := asks.found
  have member : ((w.withEnv label.env).setSession ask.session).store.isFriend
      ask.req.memberid ask.req.groupid = true := isMember
  have other : ¬ ask.req.memberid = group.ownerid := fun same => asks.other (same.trans asks.owned)
  have stepped := step_of_dispatched pb reached
  simp only [handle, onKickGroupMemberResponse, asks.signedIn, parsed, found, member,
    if_neg (not_lt.mpr asks.isGroup), asks.owned, ne_eq, not_true_eq_false, if_false] at stepped
  rw [if_neg (asks.owned ▸ other)] at stepped
  split at stepped
  · rename_i store result
    have sent : w.sent pb label = _ := sent_eq (congrArg World.outbox stepped |>.trans
      (List.append_assoc _ _ _))
    rw [KickAccepted, sent]
    exact ⟨"已移出该成员", List.mem_append_right _ (List.mem_singleton_self _)⟩
  · rename_i store result
    rw [show (w.withEnv label.env).store.releaseFriendRelationship ask.req.memberid
      ask.req.groupid = (false, store) from result] at removed
    cases removed

/-- A new process on such tables. -/
theorem regular_boot {tables : Tables} (start : (boot tables).store.graph.WellFormed) :
    (boot tables).Regular := by
  have sound := sound_boot tables
  have loaded : (boot tables).store.graph =
      (boot tables).store.graph.reload (fun _ => true) (fun _ => true) :=
    Store.graph_init .allOk (boot tables).store
  refine ⟨⟨sound, start.requests, start.ordered⟩, sound.coherent.edgesTyped start.rows, ?_, ?_⟩
  · rw [loaded]
    exact fun _ => rfl
  · rw [loaded]
    intro a b
    simp only [Graph.reload, true_and]
    exact Iff.rfl

theorem regular_run {start : World} {steps : List Step} (regular : start.Regular)
    (client : AllSteps (step pb) ClientStep start steps)
    (accounts : AllSteps (step pb) (OperatesOnAccounts pb) start steps) :
    (runFrom pb start steps).Regular := by
  induction steps generalizing start with
  | nil => exact regular
  | cons label rest inductionHypothesis =>
      exact inductionHypothesis (regular.step client.1 accounts.1) client.2 accounts.2

/-- In a run of clients the relationships are typed and owners can remove their
members exactly when `OperateFriend` joins accounts only. -/
theorem relationships_typed_iff (pb : ImProto) {tables : Tables} {steps : List Step}
    (start : (boot tables).store.graph.WellFormed)
    (client : AllSteps (step pb) ClientStep (boot tables) steps) :
    RelationshipsTyped pb (boot tables) steps ↔
      AllSteps (step pb) (OperatesOnAccounts pb) (boot tables) steps := by
  have regular := regular_boot start
  have edges : (∀ past rest, steps = past ++ rest →
      (runFrom pb (boot tables) past).store.graph.EdgesTyped) ↔
        AllSteps (step pb) (OperatesOnAccounts pb) (boot tables) steps :=
    always_iff_allSteps_within (fun w => w.store.graph.EdgesTyped) Typable
      (fun _ _ typable client => typable.step client)
      (fun _ _ typable client typed => edgesTyped_step_iff typable client typed)
      regular.typed regular.typable client
  constructor
  · intro typed
    exact edges.mp typed.edges
  · intro accounts
    refine ⟨edges.mpr accounts, ?_⟩
    intro past label rest split ask owner group asks
    subst split
    rw [allSteps_append] at client accounts
    exact asks.accepted (regular_run regular client.1 accounts.1)

end Runs

/-! ### Sample runs -/

theorem wellFormed_ofUsers (rows : List UserRow) (distinct : (rows.map UserRow.userId).Nodup) :
    (boot (Tables.ofUsers rows distinct)).store.graph.WellFormed where
  rows := fun _ member => nomatch member
  ordered := fun _ member => nomatch member
  requests := fun _ _ _ _ found => nomatch found

/-- A run without a restart. -/
theorem clientSteps_of_users {pb : ImProto} {start : World} {steps : List Step}
    (users : AllSteps (step pb) (fun w label => ∀ target ∈ w.dispatched label,
      ∀ user ∈ target.2.1.user, user.userid < groupIdBoundary) start steps)
    (running : ∀ label ∈ steps, label.loads? = none) :
    AllSteps (step pb) ClientStep start steps := by
  apply allSteps_of_splits
  intro past label rest split
  refine ⟨users.admitted split, ?_⟩
  intro loads restarts
  rw [running label (by simp [split])] at restarts
  cases restarts

/-- Alice logs in and adds an id as her friend. -/
def aliceAdds (friendid : Int) : List Step :=
  Sample.aliceLogsIn ++ [Client.send 0 .operateFriend (Client.operateFriend 1 friendid)]

theorem relationships_typed_aliceAddsBob :
    RelationshipsTyped wireProto (boot Sample.aliceAndBob) (aliceAdds 2) :=
  (relationships_typed_iff wireProto (wellFormed_ofUsers _ _)
    (clientSteps_of_users (by decide) (by decide))).mpr (by decide)

/-- Alice adds an id nobody has, and the row is written. -/
theorem row_of_nobody :
    ¬ RelationshipsTyped wireProto (boot Sample.aliceAlone) (aliceAdds 5) := by
  intro typed
  have pair := (typed.edges (aliceAdds 5) [] (by rw [List.append_nil])).rows (1, 5) (by decide)
  revert pair
  decide

end World

end AimServer
