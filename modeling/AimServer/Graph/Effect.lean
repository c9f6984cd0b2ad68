import AimServer.Graph.Refinement
import AimServer.Session.Dispatch

/-!
Contract: what a handler can do to the social graph.

Owns: which handler a step reaches, and the list of graph operations each
handler can perform, with the guards it has passed by then.

Does not own: the proof that the list is complete.
-/

namespace AimServer

open AimServer.Lib

/-! ### Which handler a step reaches -/

/-- A request as its handler sees it. -/
structure Ask (Req : Type) where
  session : ClientSession
  msg : MessageContainer
  req : Req

namespace World

/-- The command, session and message `OnMessageReceived` dispatches on. -/
def dispatched (w : World) (label : Step) :
    Option (MsgType × ClientSession × MessageContainer) :=
  match label.event with
  | .frame conn msg =>
      if w.fault.isSome then none
      else
        match w.session? conn, MsgType.ofCmd msg.cmd with
        | some s, some type => some (type, { s with seq := msg.seq }, msg)
        | _, _ => none
  | _ => none

/-- The parsed request of a step that reaches the handler of `type`. -/
def asks {Req : Type} (w : World) (label : Step) (type : MsgType) (parse : Bytes → Option Req) :
    Option (Ask Req) :=
  match w.dispatched label with
  | none => none
  | some (reached, s, msg) =>
      if reached = type then (parse msg.payload).map fun req => ⟨s, msg, req⟩ else none

theorem asks_of_dispatched {Req : Type} {w : World} {label : Step} {type : MsgType}
    {s : ClientSession} {msg : MessageContainer} {parse : Bytes → Option Req} {req : Req}
    (reached : w.dispatched label = some (type, s, msg)) (parsed : parse msg.payload = some req) :
    w.asks label type parse = some ⟨s, msg, req⟩ := by
  simp [asks, reached, parsed]

theorem dispatched_of_asks {Req : Type} {w : World} {label : Step} {type : MsgType}
    {parse : Bytes → Option Req} {ask : Ask Req} (asked : w.asks label type parse = some ask) :
    w.dispatched label = some (type, ask.session, ask.msg) ∧
      parse ask.msg.payload = some ask.req := by
  unfold asks at asked
  split at asked
  · cases asked
  · rename_i reached s msg dispatch
    split at asked
    · rename_i same
      obtain ⟨req, parsed, rfl⟩ := Option.map_eq_some_iff.mp asked
      exact ⟨by rw [dispatch, same], parsed⟩
    · cases asked

/-- A step reaches one handler. -/
theorem asks_type_unique {Req Other : Type} {w : World} {label : Step} {type other : MsgType}
    {parse : Bytes → Option Req} {parseOther : Bytes → Option Other} {ask : Ask Req}
    {askOther : Ask Other} (asked : w.asks label type parse = some ask)
    (askedOther : w.asks label other parseOther = some askOther) : type = other := by
  have reached := (dispatched_of_asks asked).1
  rw [(dispatched_of_asks askedOther).1] at reached
  exact (Prod.mk.inj (Option.some.inj reached)).1.symm

end World

/-! ### What a handler can do -/

/-- The graph operations of one handler run on session `s`, with the guards
that were passed on the way. -/
inductive Effect (pb : ImProto) (s : ClientSession) (msg : MessageContainer) (store : Store) :
    MsgType → List GraphOp → Prop
  | quiet {type : MsgType} : Effect pb s msg store type []
  | register (fresh : store.graph.account (store.baseUserID + 1) = none) :
      Effect pb s msg store .register [.enrol (store.baseUserID + 1) 0]
  | createGroupAlone {user : User} {req : CreateGroupReq} (signedIn : s.user = some user)
      (parsed : pb.createGroupReq msg.payload = some req) (named : req.groupname ≠ [])
      (granted : store.db.outcomes 0 = true)
      (fresh : store.graph.account (store.baseGroupID + 1) = none)
      (alone : ¬ (smallId user.userid (store.baseGroupID + 1) <
        greatId user.userid (store.baseGroupID + 1) ∧ store.db.outcomes 1 = true)) :
      Effect pb s msg store .createGroup [.enrol (store.baseGroupID + 1) user.userid]
  | createGroup {user : User} {req : CreateGroupReq} (signedIn : s.user = some user)
      (parsed : pb.createGroupReq msg.payload = some req) (named : req.groupname ≠ [])
      (granted : store.db.outcomes 0 = true)
      (fresh : store.graph.account (store.baseGroupID + 1) = none) :
      Effect pb s msg store .createGroup
        [.enrol (store.baseGroupID + 1) user.userid,
         .link (smallId user.userid (store.baseGroupID + 1))
          (greatId user.userid (store.baseGroupID + 1))]
  | operateAdd {user : User} {req : OperateFriendReq} (signedIn : s.user = some user)
      (parsed : pb.operateFriendReq msg.payload = some req) (isAdd : req.type = 1)
      (isUser : req.friendid < groupIdBoundary)
      (ordered : smallId user.userid req.friendid < greatId user.userid req.friendid)
      (granted : store.db.outcomes 0 = true) :
      Effect pb s msg store .operateFriend
        [.link (smallId user.userid req.friendid) (greatId user.userid req.friendid)]
  | operateDelete {user : User} {req : OperateFriendReq} (signedIn : s.user = some user)
      (parsed : pb.operateFriendReq msg.payload = some req) (isDelete : req.type = 2)
      (granted : store.db.outcomes 0 = true) :
      Effect pb s msg store .operateFriend
        [.unlink (smallId user.userid req.friendid) (greatId user.userid req.friendid)]
  | operateInvite {req : OperateFriendReq}
      (parsed : pb.operateFriendReq msg.payload = some req) (isInvite : req.type = 3)
      (isGroup : msg.targetId ≥ groupIdBoundary) :
      Effect pb s msg store .operateFriend
        [.link (smallId req.friendid msg.targetId) (greatId req.friendid msg.targetId)]
  | sendFriendRequest {user : User} {req : SendRequestReq} {key clock : Int}
      (signedIn : s.user = some user) (parsed : pb.sendRequestReq msg.payload = some req)
      (isFriend : req.reqtype = 1) (other : req.targetid ≠ user.userid)
      (isUser : req.targetid < groupIdBoundary)
      (knownTarget : (store.graph.cached req.targetid).isSome)
      (stranger : ¬ store.graph.friend user.userid req.targetid)
      (granted : store.db.outcomes 1 = true)
      (unasked : ¬ (store.db.outcomes 0 = true ∧ Store.pendingDuplicate user.userid req.targetid
        1 0 store.db.tables = true))
      (fresh : store.graph.request key = none) :
      Effect pb s msg store .sendRequest
        [.ask key ⟨user.userid, req.targetid, 1, 0, req.message, 0, clock⟩]
  | sendInvitation {user : User} {req : SendRequestReq} {key clock : Int}
      (signedIn : s.user = some user) (parsed : pb.sendRequestReq msg.payload = some req)
      (isInvitation : req.reqtype = 2) (isGroup : req.groupid ≥ groupIdBoundary)
      (known : (store.graph.cached req.groupid).isSome)
      (isUser : req.targetid < groupIdBoundary)
      (knownTarget : (store.graph.cached req.targetid).isSome)
      (stranger : ¬ store.graph.friend req.targetid req.groupid)
      (granted : store.db.outcomes 1 = true)
      (unasked : ¬ (store.db.outcomes 0 = true ∧ Store.pendingDuplicate user.userid req.targetid
        2 req.groupid store.db.tables = true))
      (fresh : store.graph.request key = none) :
      Effect pb s msg store .sendRequest
        [.ask key ⟨user.userid, req.targetid, 2, req.groupid, req.message, 0, clock⟩]
  | sendApplication {user : User} {req : SendRequestReq} {key clock owner : Int}
      (signedIn : s.user = some user) (parsed : pb.sendRequestReq msg.payload = some req)
      (isApplication : req.reqtype = 3) (isGroup : req.groupid ≥ groupIdBoundary)
      (known : store.graph.cached req.groupid = some owner)
      (fresh : store.graph.request key = none) :
      Effect pb s msg store .sendRequest
        [.ask key ⟨user.userid, owner, 3, req.groupid, req.message, 0, clock⟩]
  | reject {user : User} {req : HandleRequestReq} {row : FriendRequestRow}
      (signedIn : s.user = some user) (parsed : pb.handleRequestReq msg.payload = some req)
      (read : store.db.outcomes 0 = true) (found : store.graph.request req.reqid = some row)
      (addressee : row.toId = user.userid) (isReject : req.action = 2)
      (granted : store.db.outcomes 1 = true) :
      Effect pb s msg store .handleRequest [.decide req.reqid 2]
  | acceptUnrecorded {user : User} {req : HandleRequestReq} {row : FriendRequestRow}
      {first second : Int}
      (signedIn : s.user = some user) (parsed : pb.handleRequestReq msg.payload = some req)
      (read : store.db.outcomes 0 = true) (found : store.graph.request req.reqid = some row)
      (addressee : row.toId = user.userid) (isAccept : req.action ≠ 2)
      (parties : World.requestParties row = some (first, second))
      (ordered : smallId first second < greatId first second)
      (granted : store.db.outcomes 1 = true)
      (unrecorded : ¬ ((store.graph.cached (smallId first second)).isSome ∧
        (store.graph.cached (greatId first second)).isSome ∧ store.db.outcomes 2 = true)) :
      Effect pb s msg store .handleRequest
        [.link (smallId first second) (greatId first second)]
  | accept {user : User} {req : HandleRequestReq} {row : FriendRequestRow} {first second : Int}
      (signedIn : s.user = some user) (parsed : pb.handleRequestReq msg.payload = some req)
      (read : store.db.outcomes 0 = true) (found : store.graph.request req.reqid = some row)
      (addressee : row.toId = user.userid) (isAccept : req.action ≠ 2)
      (parties : World.requestParties row = some (first, second))
      (ordered : smallId first second < greatId first second)
      (granted : store.db.outcomes 1 = true) :
      Effect pb s msg store .handleRequest
        [.link (smallId first second) (greatId first second), .decide req.reqid 1]
  | kick {user : User} {req : KickGroupMemberReq}
      (signedIn : s.user = some user) (parsed : pb.kickGroupMemberReq msg.payload = some req)
      (isGroup : req.groupid ≥ groupIdBoundary)
      (owned : store.graph.cached req.groupid = some user.userid)
      (other : req.memberid ≠ user.userid)
      (member : store.graph.friend req.memberid req.groupid)
      (ordered : req.memberid < req.groupid) (granted : store.db.outcomes 0 = true) :
      Effect pb s msg store .kickGroupMember [.unlink req.memberid req.groupid]
  | appoint {user : User} {req : SetGroupAdminReq}
      (signedIn : s.user = some user) (parsed : pb.setGroupAdminReq msg.payload = some req)
      (isGroup : req.groupid ≥ groupIdBoundary)
      (owned : store.graph.cached req.groupid = some user.userid)
      (member : store.graph.friend req.memberid req.groupid) (isAdmin : req.isAdmin = true)
      (granted : (store.db.outcomes 0 = true ∧ store.graph.appointed req.groupid req.memberid) ∨
        store.db.outcomes 1 = true) :
      Effect pb s msg store .setGroupAdmin [.appoint req.groupid req.memberid]
  | dismiss {req : SetGroupAdminReq} :
      Effect pb s msg store .setGroupAdmin [.dismiss req.groupid req.memberid]

end AimServer
