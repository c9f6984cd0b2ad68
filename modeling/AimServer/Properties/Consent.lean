import AimServer.Graph.Causes
import AimServer.Properties.Client

/-!
Contract: two users become friends because one asked and the other accepted.

Owns: what an accepted friend request is, the condition under which every
cached friendship goes back to one, and the run in which none does.

The request flow ends in `MakeFriendRelationship` after the addressee
accepted. `OperateFriend` type 1 ends there too, at the word of one side.
-/

namespace AimServer

open AimServer.Lib

/-- The step accepts a friend request between `a` and `b`, on a session of its
addressee, and its `INSERT` takes effect. -/
def AcceptsFriendRequest (pb : ImProto) (a b : Int) (w : World) (label : Step) : Prop :=
  ∃ ask user row, w.asks label .handleRequest pb.handleRequestReq = some ask ∧
    ask.session.user = some user ∧ ask.req.action ≠ 2 ∧
    w.request ask.req.reqid = some row ∧ row.reqtype = 1 ∧ row.toId = user.userid ∧
    Graph.SamePair row.fromId row.toId a b ∧ label.env.sql 0 = true ∧ label.env.sql 1 = true

/-- Every cached friendship between users goes back to an accepted friend
request between them. -/
def Consensual (pb : ImProto) (start : World) (steps : List Step) : Prop :=
  ∀ past rest, steps = past ++ rest → ∀ a b, a < groupIdBoundary → b < groupIdBoundary →
    (World.runFrom pb start past).store.isFriend a b = true →
      Occurs (World.step pb) (AcceptsFriendRequest pb a b) start past

/-- `OperateFriend` type 1 by a user for another user has no effect. -/
def AddsNobody (pb : ImProto) (w : World) (label : Step) : Prop :=
  ∀ ask ∈ w.asks label .operateFriend pb.operateFriendReq, ∀ user ∈ ask.session.user,
    ask.req.type = 1 → user.userid < groupIdBoundary → ask.req.friendid < groupIdBoundary →
      user.userid ≠ ask.req.friendid → label.env.sql 0 = false

instance (pb : ImProto) (w : World) (label : Step) : Decidable (AddsNobody pb w label) :=
  inferInstanceAs (Decidable (∀ ask ∈ w.asks label .operateFriend pb.operateFriendReq, _))

/-- Group requests are about groups, as `OnSendRequestResponse` writes them. -/
def GroupRequests (request : Int → Option FriendRequestRow) : Prop :=
  ∀ reqid row, request reqid = some row → row.reqtype = 2 ∨ row.reqtype = 3 →
    row.groupId ≥ groupIdBoundary

section Step

variable {pb : ImProto} {w : World} {label : Step}

/-- Every step keeps group requests about groups. -/
theorem groupRequests_step (requests : GroupRequests w.store.graph.request) :
    GroupRequests (w.step pb label).store.graph.request := by
  intro reqid row found type
  rcases request_origin_step found with ⟨old, isOld, same⟩ | ⟨-, cause⟩
  · rw [same.groupId]
    exact requests reqid old isOld (same.reqtype ▸ type)
  · cases cause with
    | friend _ _ _ _ _ _ _ _ _ isRow => simp [isRow] at type
    | invitation _ _ _ isGroup _ _ _ _ _ _ isRow => rw [isRow]; exact isGroup
    | application _ _ _ isGroup _ isRow => rw [isRow]; exact isGroup

/-- A pair of users contains no group. -/
theorem users_of_samePair {x y a b : Int} (pair : Graph.SamePair x y a b)
    (isUser : a < groupIdBoundary) (isUserToo : b < groupIdBoundary) :
    x < groupIdBoundary ∧ y < groupIdBoundary := by
  rcases pair with ⟨rfl, rfl⟩ | ⟨rfl, rfl⟩
  · exact ⟨isUser, isUserToo⟩
  · exact ⟨isUserToo, isUser⟩

/-- The only cause left for a link between two users is an accepted friend
request. -/
theorem accepts_of_cause (adds : AddsNobody pb w label) (sound : w.Sound)
    (requests : GroupRequests w.store.graph.request) {a b : Int}
    (isUser : a < groupIdBoundary) (isUserToo : b < groupIdBoundary)
    (cause : LinkCause pb w label a b) : AcceptsFriendRequest pb a b w label := by
  cases cause with
  | created asked signedIn pair =>
      have groupBase := sound.groupBase
      have := (users_of_samePair pair isUser isUserToo).2
      omega
  | added asked signedIn isAdd isFriend different granted pair =>
      have failed := adds _ asked _ signedIn isAdd (users_of_samePair pair isUser isUserToo).1
        isFriend different
      rw [granted] at failed
      cases failed
  | invited asked isInvite isGroup pair =>
      exact absurd (users_of_samePair pair isUser isUserToo).2 (not_lt.mpr isGroup)
  | accepted asked signedIn isAccept read granted found addressee parties pair =>
      have notGroup := (users_of_samePair pair isUser isUserToo).2
      refine ⟨_, _, _, asked, signedIn, isAccept, found, ?_⟩
      rcases World.requestParties_cases parties with
        ⟨isFriend, rfl, rfl⟩ | ⟨isInvitation, rfl, rfl⟩ | ⟨isApplication, rfl, rfl⟩
      · exact ⟨isFriend, addressee, pair, read, granted⟩
      · exact absurd notGroup (not_lt.mpr (requests _ _ found (Or.inl isInvitation)))
      · exact absurd notGroup (not_lt.mpr (requests _ _ found (Or.inr isApplication)))

/-- The tables relate two users only after an accepted friend request. -/
theorem related_users_consented {start : World} {steps : List Step} (sound : start.Sound)
    (requests : GroupRequests start.store.graph.request)
    (strangers : start.store.db.tables.relationships = [])
    (adds : AllSteps (World.step pb) (AddsNobody pb) start steps) :
    (World.runFrom pb start steps).Sound ∧
      GroupRequests (World.runFrom pb start steps).store.graph.request ∧
      ∀ a b, a < groupIdBoundary → b < groupIdBoundary →
        (World.runFrom pb start steps).store.graph.Related a b →
          Occurs (World.step pb) (AcceptsFriendRequest pb a b) start steps := by
  refine run_history_invariant (fun steps w => w.Sound ∧ GroupRequests w.store.graph.request ∧
    ∀ a b, a < groupIdBoundary → b < groupIdBoundary → w.store.graph.Related a b →
      Occurs (World.step pb) (AcceptsFriendRequest pb a b) start steps) ?_ ?_ adds
  · refine ⟨sound, requests, ?_⟩
    intro a b _ _ related
    simp [Graph.Related, Store.graph, strangers] at related
  · intro past label invariant addsNow
    obtain ⟨soundNow, requestsNow, consented⟩ := invariant
    refine ⟨soundNow.step, groupRequests_step requestsNow, ?_⟩
    intro a b isUser isUserToo related
    rcases related_step related with before | cause
    · exact (consented a b isUser isUserToo before).snoc label
    · exact .last (accepts_of_cause addsNow soundNow requestsNow isUser isUserToo cause)

end Step

/-- Without `OperateFriend` type 1 between users, friendship needs consent. -/
theorem friendships_consensual (pb : ImProto) (tables : Tables) (steps : List Step)
    (strangers : tables.relationships = [])
    (requests : GroupRequests fun reqid => tables.friendRequests.find reqid)
    (adds : AllSteps (World.step pb) (AddsNobody pb) (World.boot tables) steps) :
    Consensual pb (World.boot tables) steps := by
  intro past rest split a b isUser isUserToo friend
  subst split
  rw [allSteps_append] at adds
  obtain ⟨sound, -, consented⟩ :=
    related_users_consented (World.sound_boot tables) requests strangers adds.1
  exact consented a b isUser isUserToo (sound.coherent.friend a b friend).2

namespace ConsentRuns

/-- Alice asks and Bob accepts. -/
def asked : List Step :=
  Sample.bothLogIn ++ [Client.send 0 .sendRequest (Client.sendRequest 1 2 0),
    Client.send 1 .handleRequest (Client.handleRequest 1 1)]

/-- Alice adds Bob. -/
def added : List Step :=
  Sample.bothLogIn ++ [Client.send 0 .operateFriend (Client.operateFriend 1 2)]

end ConsentRuns

theorem friendships_consensual_asked :
    (World.runFrom wireProto (World.boot Sample.aliceAndBob)
        ConsentRuns.asked).store.isFriend 1 2 = true ∧
      Consensual wireProto (World.boot Sample.aliceAndBob) ConsentRuns.asked :=
  ⟨by decide, friendships_consensual _ _ _ rfl (by intro _ _ found; cases found) (by decide)⟩

/-- Alice becomes Bob's friend without asking him. -/
theorem operateFriend_adds_unasked :
    ¬ Consensual wireProto (World.boot Sample.aliceAndBob) ConsentRuns.added := by
  intro consensual
  have consented := consensual ConsentRuns.added [] (by simp) 1 2 (by decide) (by decide)
    (by decide)
  have noAnswer : AllSteps (World.step wireProto)
      (fun w label => (w.asks label .handleRequest wireProto.handleRequestReq).isNone)
      (World.boot Sample.aliceAndBob) ConsentRuns.added := by decide
  refine not_occurs noAnswer ?_ consented
  intro w label none accepts
  obtain ⟨ask, user, row, asked, -⟩ := accepts
  simp [asked] at none

end AimServer
