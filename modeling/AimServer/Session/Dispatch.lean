import AimServer.Session.Chat
import AimServer.Lib.Run

/-!
Contract: the server as a machine.

Owns: the dispatch of `OnMessageReceived`, connections, agent answers,
restarts, and the step function whose runs the results are about.

A fault ends the process. What it held stays readable, but no later event but
a restart has an effect; a restart loads the cache from the tables and has no
session.
-/

namespace AimServer

open AimServer.Lib

namespace World

/-- The handler of a command. -/
def handle (pb : ImProto) (type : MsgType) (s : ClientSession) (msg : MessageContainer)
    (w : World) : World :=
  match type with
  | .heartbeat => w.onHeartbeatResponse s
  | .register => w.onRegisterResponse pb s msg
  | .login => w.onLoginResponse pb s msg
  | .getFriendList => w.onGetFriendListResponse s
  | .findUser => w.onFindUserResponse pb s msg
  | .operateFriend => w.onOperateFriendResponse pb s msg
  | .updateUserInfo => w.onUpdateUserInfoResponse pb s msg
  | .modifyPassword => w.onModifyPasswordResponse pb s msg
  | .createGroup => w.onCreateGroupResponse pb s msg
  | .getGroupMembers => w.onGetGroupMembersResponse pb s msg
  | .getChatHistory => w.onGetChatHistoryResponse pb s msg
  | .avatarUpload => w.onAvatarUploadResponse pb s msg
  | .sendEmailCode => w.onSendEmailCodeResponse pb s msg
  | .upgradeVip => w.onUpgradeVipResponse pb s msg
  | .sendRequest => w.onSendRequestResponse pb s msg
  | .pendingRequests => w.onPendingRequestsResponse s
  | .handleRequest => w.onHandleRequestResponse pb s msg
  | .kickGroupMember => w.onKickGroupMemberResponse pb s msg
  | .renameGroup => w.onRenameGroupResponse pb s msg
  | .setGroupAdmin => w.onSetGroupAdminResponse pb s msg
  | .chat => w.onChatResponse pb s msg
  | .multiChat => w.onMultiChatResponse pb s msg

/-- `OnMessageReceived` on the session of `conn`: the sequence number is
remembered first; an unknown command is only logged. -/
def onMessageReceived (pb : ImProto) (conn : Nat) (msg : MessageContainer) (w : World) : World :=
  match w.session? conn with
  | none => w
  | some s =>
      let s := { s with seq := msg.seq }
      let w := w.setSession s
      match MsgType.ofCmd msg.cmd with
      | none => w
      | some type => w.handle pb type s msg

/-- `OnConnection`: a session under a new key; an existing key keeps its
session. -/
def onConnection (conn : Nat) (w : World) : World :=
  match w.session? conn with
  | some _ => w
  | none =>
      { w with
        sessions := w.sessions.orderedInsert (fun first second => first.conn ≤ second.conn)
          (.fresh conn) }

def onClose (conn : Nat) (w : World) : World :=
  { w with sessions := w.sessions.filter fun s => s.conn ≠ conn }

/-- A new process on the same tables. -/
def restart (loads : Store.LoadOutcome) (w : World) : World :=
  { w with
    store := Store.init loads w.store.db
    sessions := []
    agentPending := []
    fault := none }

/-- A server that has just started on `tables`. -/
def boot (tables : Tables) : World where
  store := Store.init .allOk ⟨tables, fun _ => true, 0⟩
  sessions := []
  outbox := []
  calls := []
  events := []
  agentPending := []
  env := .plain
  fault := none

/-- The environment of the next step. -/
def withEnv (env : Env) (w : World) : World :=
  { w with
    env
    store := { w.store with db := { w.store.db with outcomes := env.sql, clock := env.now } } }

end World

inductive Event where
  | connect (conn : Nat)
  | close (conn : Nat)
  | frame (conn : Nat) (msg : MessageContainer)
  | agentReply (conn : Nat) (ok : Bool) (reply : Bytes)
  | restart (loads : Store.LoadOutcome)

structure Step where
  event : Event
  env : Env

/-- What a step that restarts the server manages to load. -/
def Step.loads? (label : Step) : Option Store.LoadOutcome :=
  match label.event with
  | .restart loads => some loads
  | _ => none

namespace World

/-- The effect of an event on a live process. -/
def perform (pb : ImProto) (event : Event) (w : World) : World :=
  match event with
  | .connect conn => w.onConnection conn
  | .close conn => w.onClose conn
  | .frame conn msg => w.onMessageReceived pb conn msg
  | .agentReply conn ok reply => w.onAgentReply conn ok reply
  | .restart loads => w.restart loads

def step (pb : ImProto) (w : World) (label : Step) : World :=
  let w := w.withEnv label.env
  match label.event with
  | .restart loads => w.restart loads
  | event => if w.fault.isSome then w else w.perform pb event

/-- The state after a sequence of steps. -/
abbrev runFrom (pb : ImProto) (w : World) (steps : List Step) : World :=
  run (step pb) w steps

theorem runFrom_snoc (pb : ImProto) (w : World) (past : List Step) (label : Step) :
    runFrom pb w (past ++ [label]) = (runFrom pb w past).step pb label := by
  rw [runFrom, run_append]
  rfl

end World

end AimServer
