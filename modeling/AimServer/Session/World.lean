import AimServer.Store.MsgCache

/-!
Contract: the running server as its handlers see it.

Owns: sessions in the order of the session map, the frames sent, the calls
made to the other services, the broker events, what the environment answers
during one step, and the faults that end the process.

Does not own: the handlers.
-/

namespace AimServer

open AimServer.Lib

/-- How a handler can end the process. -/
inductive Fault where
  /-- `m_user->` on a session that is not logged in. -/
  | nullUser
  /-- `std::stoi` throws and nobody catches. -/
  | badNumber
  /-- An agent callback uses its session after the session was destroyed. -/
  | danglingSession
deriving DecidableEq, Repr

/-- `ClientSession`. Sessions are keyed by the text of the connection pointer;
`conn` is its position in the key order of the map. -/
structure ClientSession where
  conn : Nat
  seq : Int
  user : Option User
  target : Int
  targets : Bytes
deriving DecidableEq

/-- A session for a new connection. -/
def ClientSession.fresh (conn : Nat) : ClientSession :=
  ⟨conn, 0, none, 0, []⟩

/-- `UserID()`: -1 without a user. -/
def ClientSession.userID (s : ClientSession) : Int :=
  match s.user with
  | none => -1
  | some user => user.userid

/-! ### Other services -/

/-- Calls to goagent, the avatar service and the mail service, in the order
they are made. -/
inductive RpcCall where
  | queryVipStatus (userId : Int)
  | upgradeVip (userId : Int) (paymentToken : Bytes) (amountCents : Int)
  | processMessage (userId targetId : Int) (content : Bytes) (chatType : Int) (skill : Bytes)
      (context : List Bytes)
  | uploadAvatar (userId : Int) (imageData format : Bytes)
  | verifyCode (email code : Bytes)
  | sendCode (email : Bytes)
deriving DecidableEq, Repr

structure UploadResult where
  ok : Bool
  url : Bytes
  errMsg : String

structure VerifyResult where
  ok : Bool
  msg : String

structure SendCodeResult where
  code : Int
  msg : String
  cooldownSeconds : Int

structure UpgradeResult where
  ok : Bool
  msg : String
  isVip : Bool

/-- The gRPC clients: compiled out (no `HAVE_AGENT_GRPC`), not created yet, or
usable. -/
inductive GrpcClients where
  | notBuilt
  | notConfigured
  | ready
deriving DecidableEq, Repr

/-- What the environment decides about one step: statement outcomes, the
clock, the salt, the state of the gRPC clients and what the services answer,
and the outcomes of publishing when a publisher exists. -/
structure Env where
  sql : Nat → Bool
  now : Int
  salt : Bytes
  grpc : GrpcClients
  vipStatus : Option Bool
  upgrade : UpgradeResult
  upload : UploadResult
  verify : VerifyResult
  sendCode : SendCodeResult
  publish : Option (Nat → Bool)

/-- Every statement takes effect and no other service is configured. -/
def Env.plain : Env where
  sql := fun _ => true
  now := 0
  salt := List.replicate 16 0
  grpc := .notBuilt
  vipStatus := none
  upgrade := ⟨false, "", false⟩
  upload := ⟨false, [], ""⟩
  verify := ⟨false, ""⟩
  sendCode := ⟨3, "", 0⟩
  publish := none

/-- The event `OnChatResponse` publishes for the persister. -/
structure ChatEvent where
  senderid : Int
  targetid : Int
  content : Bytes
  msgtype : Int
  mediaUrl : Bytes
  duration : Int
  thumbUrl : Bytes
  filesize : Int
  filename : Bytes
  timestamp : Int
deriving DecidableEq, Repr

/-! ### The world -/

structure World where
  store : Store
  sessions : List ClientSession
  outbox : List (Nat × Frame)
  calls : List RpcCall
  events : List ChatEvent
  /-- Connections whose agent call has not been answered yet. -/
  agentPending : List Nat
  env : Env
  fault : Option Fault

namespace World

/-- The session of a connection. -/
def session? (conn : Nat) (w : World) : Option ClientSession :=
  lookup ClientSession.conn conn w.sessions

/-- Write a session object back. -/
@[simp] def setSession (s : ClientSession) (w : World) : World :=
  { w with sessions := modify ClientSession.conn s.conn (fun _ => s) w.sessions }

@[simp] def withStore (store : Store) (w : World) : World :=
  { w with store }

@[simp] def raise (fault : Fault) (w : World) : World :=
  { w with fault := some fault }

@[simp] def call (rpc : RpcCall) (w : World) : World :=
  { w with calls := w.calls ++ [rpc] }

/-- Containers handed to `m_codec->send`, in order. -/
@[simp] def emit (frames : List (Nat × Frame)) (w : World) : World :=
  { w with outbox := w.outbox ++ frames }

/-- An access `m_user->` whose value only goes to the log. -/
def derefUser (s : ClientSession) (w : World) : World :=
  match s.user with
  | none => w.raise .nullUser
  | some _ => w

@[simp] theorem derefUser_store {s : ClientSession} {w : World} :
    (w.derefUser s).store = w.store := by
  unfold derefUser
  split <;> rfl

@[simp] theorem derefUser_sessions {s : ClientSession} {w : World} :
    (w.derefUser s).sessions = w.sessions := by
  unfold derefUser
  split <;> rfl

/-- The response container every handler ends with. -/
@[simp] def reply (s : ClientSession) (type : MsgType) (body : Body) (w : World) : World :=
  w.emit [(s.conn, ⟨type.cmd, s.seq, 0, body⟩)]

/-- `GetSessionByID`: the first session in map order with that `UserID()`. -/
def getSessionByID (userid : Int) (w : World) : Option ClientSession :=
  w.sessions.find? fun s => s.userID = userid

/-- The frame of `SendUserStatusChangeMsg` on the session of `target`, when it
has one. -/
def statusFrames (w : World) (userid type : Int) (customface : Bytes) (target : Int) :
    List (Nat × Frame) :=
  match w.getSessionByID target with
  | none => []
  | some session =>
      [(session.conn, ⟨cmdUserStatusChange, 0, 0, .statusChange type userid customface⟩)]

/-- Notify each of `targets` in order. -/
@[simp] def notifyAll (targets : List Int) (userid type : Int) (customface : Bytes) (w : World) :
    World :=
  w.emit (targets.flatMap (w.statusFrames userid type customface))

@[simp] def notifyStatus (target userid type : Int) (customface : Bytes) (w : World) : World :=
  w.notifyAll [target] userid type customface

/-- The frame of `PushNewRequest` on the session of `target`, when it has one. -/
def newRequestFrames (w : World) (target : Int) (request : FriendRequest) : List (Nat × Frame) :=
  match w.getSessionByID target with
  | none => []
  | some session =>
      [(session.conn, ⟨cmdNewRequestPush, 0, 0,
        .newRequest { request with
          toid := match session.user with
            | none => 0
            | some user => user.userid }⟩)]

@[simp] def pushNewRequest (target : Int) (request : FriendRequest) (w : World) : World :=
  w.emit (w.newRequestFrames target request)

/-- The frames of `sendRaw` on cached blobs: a blob that is no container is
logged and dropped. -/
def replayFrames (pb : ImProto) (conn : Nat) (blobs : List Bytes) : List (Nat × Frame) :=
  blobs.filterMap fun blob => (pb.parseContainer blob).map fun container => (conn, container.frame)

end World

end AimServer
