import AimServer.Session.Identity
import AimServer.ProtoWire

/-!
Contract: the client side of a run.

Owns: the payloads a client writes for each request, the steps that carry
them, what the server sent in one step, and the accounts of the sample runs.

Does not own: any result.
-/

namespace AimServer

open AimServer.Lib
open AimServer.Lib.Wire

/-- The frames a step sends. -/
def World.sent (pb : ImProto) (w : World) (label : Step) : List (Nat × Frame) :=
  (w.step pb label).outbox.drop w.outbox.length

theorem World.sent_eq {pb : ImProto} {w : World} {label : Step} {frames : List (Nat × Frame)}
    (outbox : (w.step pb label).outbox = w.outbox ++ frames) : w.sent pb label = frames := by
  rw [World.sent, outbox, List.drop_left]

theorem World.sent_nil {pb : ImProto} {w : World} {label : Step}
    (same : (w.step pb label).outbox = w.outbox) : w.sent pb label = [] := by
  rw [World.sent, same, List.drop_length]

/-- The request row under a key. -/
def World.request (w : World) (reqid : Int) : Option FriendRequestRow :=
  w.store.db.tables.friendRequests.find reqid

/-- Tables with accounts and nothing else. -/
def Tables.ofUsers (rows : List UserRow) (distinct : (rows.map UserRow.userId).Nodup) : Tables :=
  { Tables.empty with users := ⟨rows, distinct⟩ }

namespace Client

/-! ### Payloads -/

def login (username password : Bytes) : Bytes := writeBytes 1 username ++ writeBytes 2 password

def findUser (type keyword : Bytes) : Bytes := writeBytes 1 type ++ writeBytes 2 keyword

def operateFriend (type friendid : Int) : Bytes := writeInt 1 type ++ writeInt 2 friendid

def modifyPassword (oldpassword newpassword : Bytes) : Bytes :=
  writeBytes 1 oldpassword ++ writeBytes 2 newpassword

def createGroup (groupname : Bytes) : Bytes := writeBytes 1 groupname

def sendRequest (reqtype targetid groupid : Int) : Bytes :=
  writeInt 1 reqtype ++ writeInt 2 targetid ++ writeInt 3 groupid

def handleRequest (reqid action : Int) : Bytes := writeInt 1 reqid ++ writeInt 2 action

def kickGroupMember (groupid memberid : Int) : Bytes := writeInt 1 groupid ++ writeInt 2 memberid

def renameGroup (groupid : Int) (newname : Bytes) : Bytes :=
  writeInt 1 groupid ++ writeBytes 2 newname

def setGroupAdmin (groupid memberid : Int) (isAdmin : Bool) : Bytes :=
  writeInt 1 groupid ++ writeInt 2 memberid ++ writeInt 3 (if isAdmin then 1 else 0)

def chatMsg (senderid targetid : Int) (content : Bytes) : Bytes :=
  writeInt 1 senderid ++ writeInt 2 targetid ++ writeBytes 3 content

def multiChat (targets : List Int) (content : Bytes) : Bytes :=
  targets.flatMap (writeInt 1) ++ writeBytes 2 content

/-! ### Steps -/

def connect (conn : Nat) : Step := ⟨.connect conn, .plain⟩

/-- A request in an environment where every statement takes effect. -/
def send (conn : Nat) (type : MsgType) (payload : Bytes) : Step :=
  ⟨.frame conn (type.container payload), .plain⟩

end Client

/-! ### Accounts of the sample runs -/

namespace Sample

/-- A user whose password was stored before hashing was introduced. -/
def alice : UserRow := .inserted 1 (str "alice") (str "Alice") (str "secret") none 0

def bob : UserRow := .inserted 2 (str "bob") (str "Bob") (str "secret") none 0

/-- A group of Alice. -/
def club : UserRow := .inserted 268435456 (str "club") (str "club") [] none 1

def aliceAlone : Tables := .ofUsers [alice] (by decide)

/-- Alice and Bob, who do not know each other. -/
def aliceAndBob : Tables := .ofUsers [alice, bob] (by decide)

/-- Alice, Bob and the group, with these members. -/
def clubOf (members : List Int) : Tables :=
  { Tables.ofUsers [alice, bob, club] (by decide) with
    relationships := members.map fun member => (member, 268435456) }

/-- Alice logs in on connection 0. -/
def aliceLogsIn : List Step :=
  [Client.connect 0, Client.send 0 .login (Client.login (str "alice") (str "secret"))]

/-- Alice logs in on connection 0 and Bob on connection 1. -/
def bothLogIn : List Step :=
  aliceLogsIn ++
    [Client.connect 1, Client.send 1 .login (Client.login (str "bob") (str "secret"))]

end Sample

end AimServer
