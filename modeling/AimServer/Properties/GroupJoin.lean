import AimServer.Graph.Causes
import AimServer.Properties.Client

/-!
Contract: a user joins a group through a request only with the agreement of
the group's side.

Owns: what an invitation from inside the group is, the condition on
`SendRequest` steps under which every join through a request was agreed, and
the run in which a stranger invites.

An application is addressed to the owner, so the owner's acceptance is the
agreement. An invitation is accepted by the invited user, so the agreement has
to lie with its sender, whose relation to the group `OnSendRequestResponse`
does not look at.
-/

namespace AimServer

open AimServer.Lib

/-- The account owns the group, as the cache has it. -/
def World.owns (w : World) (userid groupid : Int) : Prop :=
  (w.store.getUserByID groupid).map User.ownerid = some userid

instance (w : World) (userid groupid : Int) : Decidable (w.owns userid groupid) :=
  inferInstanceAs (Decidable (_ = _))

/-- The step is an invitation of `toId` into `groupId`, sent by the group's
owner or one of its members. -/
def InvitedFromInside (pb : ImProto) (fromId toId groupId : Int) (w : World) (label : Step) :
    Prop :=
  ∃ ask user, w.asks label .sendRequest pb.sendRequestReq = some ask ∧
    ask.session.user = some user ∧ user.userid = fromId ∧ ask.req.reqtype = 2 ∧
    ask.req.targetid = toId ∧ ask.req.groupid = groupId ∧
    (w.owns fromId groupId ∨ w.store.isFriend groupId fromId = true)

/-- A `HandleRequest` step that makes a user a member of a group accepts an
application as the owner, or an invitation that came from inside. -/
def JoinsAgreed (pb : ImProto) (start : World) (steps : List Step) : Prop :=
  ∀ past label rest, steps = past ++ label :: rest → ∀ ask,
    (World.runFrom pb start past).asks label .handleRequest pb.handleRequestReq = some ask →
    ∀ u g, u < groupIdBoundary → g ≥ groupIdBoundary →
      (World.runFrom pb start past).store.isFriend g u = false →
      (World.runFrom pb start (past ++ [label])).store.isFriend g u = true →
        ∃ user row, ask.session.user = some user ∧
          (World.runFrom pb start past).request ask.req.reqid = some row ∧ row.groupId = g ∧
          ((row.reqtype = 3 ∧ row.fromId = u ∧
              (World.runFrom pb start past).owns user.userid g) ∨
            (row.reqtype = 2 ∧ row.toId = u ∧
              Occurs (World.step pb) (InvitedFromInside pb row.fromId u g) start past))

/-- The invitation passes every check and its row is written. -/
def StoresInvitation (w : World) (label : Step) (user : User) (req : SendRequestReq) : Prop :=
  req.reqtype = 2 ∧ req.groupid ≥ groupIdBoundary ∧ (w.store.getUserByID req.groupid).isSome ∧
    req.targetid < groupIdBoundary ∧ (w.store.getUserByID req.targetid).isSome ∧
    w.store.isFriend req.targetid req.groupid = false ∧ label.env.sql 1 = true ∧
    ¬ (label.env.sql 0 = true ∧ Store.pendingDuplicate user.userid req.targetid 2 req.groupid
      w.store.db.tables = true)

/-- The friend request passes every check and its row is written. -/
def StoresFriendRequest (w : World) (label : Step) (user : User) (req : SendRequestReq) : Prop :=
  req.reqtype = 1 ∧ req.targetid ≠ user.userid ∧ req.targetid < groupIdBoundary ∧
    (w.store.getUserByID req.targetid).isSome ∧
    w.store.isFriend user.userid req.targetid = false ∧ label.env.sql 1 = true ∧
    ¬ (label.env.sql 0 = true ∧ Store.pendingDuplicate user.userid req.targetid 1 0
      w.store.db.tables = true)

/-- Invitations come from the owner or a member of the group, and friend
requests from users. -/
def AsksFromInside (pb : ImProto) (w : World) (label : Step) : Prop :=
  ∀ ask ∈ w.asks label .sendRequest pb.sendRequestReq, ∀ user ∈ ask.session.user,
    (StoresInvitation w label user ask.req →
      w.owns user.userid ask.req.groupid ∨
        w.store.isFriend ask.req.groupid user.userid = true) ∧
    (StoresFriendRequest w label user ask.req → user.userid < groupIdBoundary)

instance (w : World) (label : Step) (user : User) (req : SendRequestReq) :
    Decidable (StoresInvitation w label user req) :=
  inferInstanceAs (Decidable (_ ∧ _))

instance (w : World) (label : Step) (user : User) (req : SendRequestReq) :
    Decidable (StoresFriendRequest w label user req) :=
  inferInstanceAs (Decidable (_ ∧ _))

instance (pb : ImProto) (w : World) (label : Step) : Decidable (AsksFromInside pb w label) :=
  inferInstanceAs (Decidable (∀ ask ∈ w.asks label .sendRequest pb.sendRequestReq, _))

/-! ### The requests of a run -/

/-- What every stored request satisfies: friend requests are between users, an
invitation of a user into a group came from inside it, an application went to
the group's owner. -/
structure RequestAgreed (pb : ImProto) (start : World) (past : List Step) (g : Graph)
    (row : FriendRequestRow) : Prop where
  friend : row.reqtype = 1 → row.fromId < groupIdBoundary ∧ row.toId < groupIdBoundary
  invitation : row.reqtype = 2 → row.groupId ≥ groupIdBoundary ∧ row.toId < groupIdBoundary ∧
    Occurs (World.step pb) (InvitedFromInside pb row.fromId row.toId row.groupId) start past
  application : row.reqtype = 3 → row.groupId ≥ groupIdBoundary ∧
    g.account row.groupId = some row.toId

section Step

variable {pb : ImProto} {start : World} {w : World} {label : Step}

/-- What was agreed stays agreed after one more step. -/
theorem RequestAgreed.snoc {past : List Step} {row next : FriendRequestRow}
    (agreed : RequestAgreed pb start past (World.runFrom pb start past).store.graph row)
    (same : SameRequest next row) (label : Step) :
    RequestAgreed pb start (past ++ [label])
      (World.runFrom pb start (past ++ [label])).store.graph next := by
  obtain ⟨friend, invitation, application⟩ := agreed
  obtain ⟨fromId, toId, reqtype, groupId⟩ := same
  rw [World.runFrom_snoc]
  refine ⟨?_, ?_, ?_⟩
  · rw [reqtype, fromId, toId]
    exact friend
  · rw [reqtype, fromId, toId, groupId]
    intro isInvitation
    obtain ⟨isGroup, isUser, occurs⟩ := invitation isInvitation
    exact ⟨isGroup, isUser, occurs.snoc label⟩
  · rw [reqtype, toId, groupId]
    intro isApplication
    obtain ⟨isGroup, owner⟩ := application isApplication
    exact ⟨isGroup, World.account_step owner⟩

/-- A request that is stored from inside is agreed. -/
theorem RequestCause.agreed {past : List Step} {row : FriendRequestRow}
    (cause : RequestCause pb (World.runFrom pb start past) label row)
    (inside : AsksFromInside pb (World.runFrom pb start past) label)
    (sound : (World.runFrom pb start past).Sound) :
    RequestAgreed pb start (past ++ [label])
      (World.runFrom pb start (past ++ [label])).store.graph row := by
  cases cause with
  | friend asked signedIn isFriend other isUser knownTarget stranger granted unasked isRow =>
      subst isRow
      rw [Store.cached_isSome] at knownTarget
      have isUserToo := (inside _ asked _ signedIn).2
        ⟨isFriend, other, isUser, knownTarget, Bool.eq_false_iff.mpr stranger, granted, unasked⟩
      exact ⟨fun _ => ⟨isUserToo, isUser⟩, by simp, by simp⟩
  | invitation asked signedIn isInvitation isGroup known isUser knownTarget stranger granted
      unasked isRow =>
      subst isRow
      rw [Store.cached_isSome] at known knownTarget
      have fromInside := (inside _ asked _ signedIn).1
        ⟨isInvitation, isGroup, known, isUser, knownTarget, Bool.eq_false_iff.mpr stranger,
          granted, unasked⟩
      refine ⟨by simp, fun _ => ⟨isGroup, isUser, ?_⟩, by simp⟩
      exact .last ⟨_, _, asked, signedIn, rfl, isInvitation, rfl, rfl, fromInside⟩
  | application asked signedIn isApplication isGroup known isRow =>
      subst isRow
      rw [World.runFrom_snoc]
      exact ⟨by simp, by simp,
        fun _ => ⟨isGroup, World.account_step (sound.coherent.cached _ _ known)⟩⟩

/-- Every request of a run from an empty request table is agreed. -/
theorem requests_agreed {steps : List Step} (sound : start.Sound)
    (unasked : ∀ reqid, start.store.graph.request reqid = none)
    (inside : AllSteps (World.step pb) (AsksFromInside pb) start steps) :
    (World.runFrom pb start steps).Sound ∧
      ∀ reqid row, (World.runFrom pb start steps).store.graph.request reqid = some row →
        RequestAgreed pb start steps (World.runFrom pb start steps).store.graph row := by
  refine run_history_invariant (fun steps w => w.Sound ∧ ∀ reqid row,
    w.store.graph.request reqid = some row →
      RequestAgreed pb start steps (World.runFrom pb start steps).store.graph row) ?_ ?_ inside
  · refine ⟨sound, ?_⟩
    intro reqid row found
    rw [unasked reqid] at found
    cases found
  · intro past label invariant insideNow
    obtain ⟨soundNow, agreed⟩ := invariant
    refine ⟨soundNow.step, ?_⟩
    intro reqid row found
    rcases request_origin_step found with ⟨old, isOld, same⟩ | ⟨-, cause⟩
    · exact (agreed reqid old isOld).snoc same label
    · exact cause.agreed insideNow soundNow

/-- Deciding a request enrols nobody. -/
theorem cached_of_handle_step {ask : Ask HandleRequestReq} {id owner : Int}
    (asked : w.asks label .handleRequest pb.handleRequestReq = some ask)
    (known : (w.step pb label).store.graph.cached id = some owner) :
    w.store.graph.cached id = some owner := by
  have isHandle := (World.dispatched_of_asks asked).1
  rcases World.step_effect pb w label with ⟨loads, event, -⟩ | ⟨ops, effect, follows⟩
  · rw [(World.dispatched_session isHandle).2.1] at event
    cases event
  rw [follows.graph] at known
  cases effect with
  | idle => exact known
  | handled reached effect =>
      rw [isHandle] at reached
      cases reached
      cases effect <;> exact known

/-- Whoever owns the account of a cached group owns the cached group. -/
theorem owns_of_account {ask : Ask HandleRequestReq} {u g owner : Int} (sound : w.Sound)
    (asked : w.asks label .handleRequest pb.handleRequestReq = some ask)
    (friend : (w.step pb label).store.graph.friend g u)
    (account : w.store.graph.account g = some owner) : w.owns owner g := by
  have soundNext : (w.step pb label).Sound := sound.step
  obtain ⟨other, isOther⟩ := Option.isSome_iff_exists.mp (soundNext.coherent.friend g u friend).1
  have before := cached_of_handle_step asked isOther
  have same := sound.coherent.cached g other before
  rw [account] at same
  cases same
  exact before

/-- The pair of a user and a group, in whichever order it was accepted. -/
theorem group_of_samePair {x y u g : Int} (pair : Graph.SamePair x y g u)
    (isUser : u < groupIdBoundary) (isGroup : y ≥ groupIdBoundary) : y = g ∧ x = u := by
  rcases pair with ⟨rfl, rfl⟩ | ⟨rfl, rfl⟩
  · exact absurd isUser (not_lt.mpr isGroup)
  · exact ⟨rfl, rfl⟩

/-- An accepted request that makes a user a member of a group was agreed. -/
theorem join_agreed {past : List Step} {ask : Ask HandleRequestReq} {u g : Int}
    (sound : (World.runFrom pb start past).Sound)
    (agreed : ∀ reqid row, (World.runFrom pb start past).store.graph.request reqid = some row →
      RequestAgreed pb start past (World.runFrom pb start past).store.graph row)
    (asked : (World.runFrom pb start past).asks label .handleRequest pb.handleRequestReq =
      some ask)
    (isUser : u < groupIdBoundary) (isGroup : g ≥ groupIdBoundary)
    (before : ¬ (World.runFrom pb start past).store.graph.friend g u)
    (after : ((World.runFrom pb start past).step pb label).store.graph.friend g u) :
    ∃ user row, ask.session.user = some user ∧
      (World.runFrom pb start past).request ask.req.reqid = some row ∧ row.groupId = g ∧
      ((row.reqtype = 3 ∧ row.fromId = u ∧ (World.runFrom pb start past).owns user.userid g) ∨
        (row.reqtype = 2 ∧ row.toId = u ∧
          Occurs (World.step pb) (InvitedFromInside pb row.fromId u g) start past)) := by
  have running : ∀ loads, label.event ≠ .restart loads := by
    intro loads event
    rw [(World.dispatched_session (World.dispatched_of_asks asked).1).2.1] at event
    cases event
  rcases friend_step running after with old | cause
  · exact absurd old before
  cases cause with
  | created askedOther => cases World.asks_type_unique asked askedOther
  | added askedOther => cases World.asks_type_unique asked askedOther
  | invited askedOther => cases World.asks_type_unique asked askedOther
  | accepted askedHere signedIn isAccept read granted found addressee parties pair =>
      rename_i user row first second
      cases asked.symm.trans askedHere
      have legit := agreed _ _ found
      refine ⟨user, row, signedIn, found, ?_⟩
      rcases World.requestParties_cases parties with
        ⟨isFriend, rfl, rfl⟩ | ⟨isInvitation, rfl, rfl⟩ | ⟨isApplication, rfl, rfl⟩
      · -- A friend request is between users, and `g` is none.
        obtain ⟨fromUser, toUser⟩ := legit.friend isFriend
        rcases pair with ⟨rfl, rfl⟩ | ⟨rfl, rfl⟩
        · omega
        · omega
      · obtain ⟨isGroupRow, -, invited⟩ := legit.invitation isInvitation
        obtain ⟨rfl, rfl⟩ := group_of_samePair pair isUser isGroupRow
        exact ⟨rfl, Or.inr ⟨isInvitation, rfl, invited⟩⟩
      · obtain ⟨isGroupRow, owner⟩ := legit.application isApplication
        obtain ⟨rfl, rfl⟩ := group_of_samePair pair isUser isGroupRow
        rw [addressee] at owner
        exact ⟨rfl, Or.inl ⟨isApplication, rfl, owns_of_account sound asked after owner⟩⟩

end Step

/-- As long as invitations come from inside the group and friend requests from
users, every join through a request was agreed by the group's side. -/
theorem group_joins_agreed (pb : ImProto) (tables : Tables) (steps : List Step)
    (unasked : tables.friendRequests.rows = [])
    (inside : AllSteps (World.step pb) (AsksFromInside pb) (World.boot tables) steps) :
    JoinsAgreed pb (World.boot tables) steps := by
  intro past label rest split ask asked u g isUser isGroup before after
  subst split
  rw [allSteps_append] at inside
  have nothing : ∀ reqid, (World.boot tables).store.graph.request reqid = none := by
    intro reqid
    simp [Store.graph, World.boot, Store.init, AutoTable.find, unasked, lookup]
  obtain ⟨sound, agreed⟩ := requests_agreed (World.sound_boot tables) nothing inside.1
  rw [World.runFrom_snoc] at after
  exact join_agreed sound agreed asked isUser isGroup (Bool.eq_false_iff.mp before) after

namespace JoinRuns

/-- Somebody invites Bob into the group. -/
def invitedBy (conn : Nat) : List Step :=
  Sample.bothLogIn ++ [Client.send conn .sendRequest (Client.sendRequest 2 2 268435456)]

/-- Bob accepts. -/
def accepts : Step := Client.send 1 .handleRequest (Client.handleRequest 1 1)

end JoinRuns

theorem group_joins_agreed_invited :
    (World.runFrom wireProto (World.boot (Sample.clubOf [1]))
        (JoinRuns.invitedBy 0 ++ [JoinRuns.accepts])).store.isFriend 268435456 2 = true ∧
      JoinsAgreed wireProto (World.boot (Sample.clubOf [1]))
        (JoinRuns.invitedBy 0 ++ [JoinRuns.accepts]) :=
  ⟨by decide, group_joins_agreed _ _ _ rfl (by decide)⟩

/-- Bob, who is no member, invites himself. -/
theorem stranger_invites_himself :
    ¬ JoinsAgreed wireProto (World.boot (Sample.clubOf [1]))
      (JoinRuns.invitedBy 1 ++ [JoinRuns.accepts]) := by
  intro agreed
  have answers : (((World.runFrom wireProto (World.boot (Sample.clubOf [1]))
      (JoinRuns.invitedBy 1)).asks JoinRuns.accepts .handleRequest
        wireProto.handleRequestReq).map fun ask => ask.req.reqid) = some 1 := by decide
  obtain ⟨ask, asked, isFirst⟩ := Option.map_eq_some_iff.mp answers
  obtain ⟨user, row, -, found, -, application | ⟨-, -, invited⟩⟩ := agreed (JoinRuns.invitedBy 1)
    JoinRuns.accepts [] rfl ask asked 2 268435456 (by decide) (by decide) (by decide) (by decide)
  · have stored : (World.runFrom wireProto (World.boot (Sample.clubOf [1]))
        (JoinRuns.invitedBy 1)).request 1 = some ⟨2, 2, 2, 268435456, [], 0, 0⟩ := by decide
    rw [isFirst, stored] at found
    cases found
    exact absurd application.1 (by decide)
  · have outside : AllSteps (World.step wireProto)
        (fun w label => ∀ ask ∈ w.asks label .sendRequest wireProto.sendRequestReq,
          ∀ user ∈ ask.session.user, ¬ w.owns user.userid ask.req.groupid ∧
            ¬ w.store.isFriend ask.req.groupid user.userid = true)
        (World.boot (Sample.clubOf [1])) (JoinRuns.invitedBy 1) := by decide
    refine not_occurs outside ?_ invited
    intro w label notInside invites
    obtain ⟨sent, sender, isSent, signedIn, isSender, -, -, isGroup, inside⟩ := invites
    obtain ⟨notOwner, notMember⟩ := notInside sent isSent sender signedIn
    rw [isGroup, isSender] at notOwner notMember
    exact inside.elim notOwner notMember

end AimServer
