import AimServer.Bytes
import AimServer.Lib.Keyed

/-!
Contract: the tables `MySqlManager` declares and the statements the server
runs on them.

Owns: the columns the server reads or writes, the column defaults of omitted
columns, the effect of every `INSERT`, `UPDATE` and `DELETE`, and the outcome
of a statement: it takes effect as written, or it fails and changes nothing.

Does not own: SQL text and its escaping, the connection pool, and the columns
no query of the server reads (`f_customfacefmt`, `f_register_time`,
`f_remark`, `f_update_time`).
-/

namespace AimServer

open AimServer.Lib

/-! ### Rows -/

/-- `t_user`. A nullable text column is an `Option`. -/
structure UserRow where
  userId : Int
  username : Bytes
  nickname : Bytes
  password : Bytes
  facetype : Int
  customface : Option Bytes
  gender : Int
  birthday : Int
  signature : Option Bytes
  address : Option Bytes
  phonenumber : Option Bytes
  mail : Option Bytes
  ownerId : Int
deriving DecidableEq, Repr

/-- `t_friend_request`, without its key. -/
structure FriendRequestRow where
  fromId : Int
  toId : Int
  reqtype : Int
  groupId : Int
  message : Bytes
  status : Int
  createTime : Int
deriving DecidableEq, Repr

/-- `t_chatmsg`; `createTime` is the value `UNIX_TIMESTAMP` reads back. -/
structure ChatMsgRow where
  senderid : Int
  targetid : Int
  msgcontent : Bytes
  msgtype : Int
  mediaUrl : Bytes
  duration : Int
  thumbUrl : Bytes
  filesize : Int
  filename : Bytes
  createTime : Int
deriving DecidableEq, Repr

/-- `t_offline_msg`; its key only orders the rows, which stay in insertion
order here. -/
structure OfflineMsgRow where
  userid : Int
  msgtype : Int
  content : Bytes
deriving DecidableEq, Repr

/-- The database. `t_user_relationship` holds pairs of ids, `t_group_admin`
pairs of a group and a user. -/
structure Tables where
  users : KeyedTable UserRow UserRow.userId
  relationships : List (Int × Int)
  groupAdmins : List (Int × Int)
  friendRequests : AutoTable FriendRequestRow
  chatMsgs : List ChatMsgRow
  offlineMsgs : List OfflineMsgRow

def Tables.empty : Tables :=
  ⟨.empty, [], [], .empty, [], []⟩

/-- The profile columns `UpdateUserInfo` writes. -/
structure ProfileUpdate where
  nickname : Bytes
  facetype : Int
  customface : Bytes
  gender : Int
  birthday : Int
  signature : Bytes
  address : Bytes
  phonenumber : Bytes
  mail : Bytes
deriving DecidableEq, Repr

/-! ### Statements -/

inductive Stmt where
  | insertUser (userId : Int) (username nickname password mail : Bytes)
  | insertGroup (userId : Int) (username nickname password : Bytes) (ownerId : Int)
  | updateUserInfo (userId : Int) (profile : ProfileUpdate)
  | updatePassword (userId : Int) (password : Bytes)
  | renameUser (userId : Int) (name : Bytes)
  | insertRelationship (userId1 userId2 : Int)
  | deleteRelationship (userId1 userId2 : Int)
  | insertGroupAdmin (groupId userId : Int)
  | deleteGroupAdmin (groupId userId : Int)
  | insertFriendRequest (row : FriendRequestRow)
  | updateRequestStatus (reqId status : Int)
  | insertChatMsg (row : ChatMsgRow)
  | insertOfflineMsg (row : OfflineMsgRow)
  | deleteOfflineMsg (userid msgtype : Int)
deriving Repr

/-- A `t_user` row with only the columns an `INSERT` names; the others take
the defaults of the table declaration, `f_birthday` being 19900101. -/
def UserRow.inserted (userId : Int) (username nickname password : Bytes) (mail : Option Bytes)
    (ownerId : Int) : UserRow where
  userId := userId
  username := username
  nickname := nickname
  password := password
  facetype := 0
  customface := none
  gender := 0
  birthday := 19900101
  signature := none
  address := none
  phonenumber := none
  mail := mail
  ownerId := ownerId

def UserRow.withProfile (profile : ProfileUpdate) (row : UserRow) : UserRow :=
  { row with
    nickname := profile.nickname
    facetype := profile.facetype
    customface := some profile.customface
    gender := profile.gender
    birthday := profile.birthday
    signature := some profile.signature
    address := some profile.address
    phonenumber := some profile.phonenumber
    mail := some profile.mail }

/-- The effect of a statement that the server accepts. `none` is a violated
primary key. -/
def Stmt.apply : Stmt → Tables → Option Tables
  | .insertUser userId username nickname password mail, t =>
      (t.users.insert (.inserted userId username nickname password (some mail) 0)).map
        fun users => { t with users }
  | .insertGroup userId username nickname password ownerId, t =>
      (t.users.insert (.inserted userId username nickname password none ownerId)).map
        fun users => { t with users }
  | .updateUserInfo userId profile, t =>
      some { t with users := t.users.update userId (·.withProfile profile) (fun _ => rfl) }
  | .updatePassword userId password, t =>
      some { t with users := t.users.update userId ({ · with password }) (fun _ => rfl) }
  | .renameUser userId name, t =>
      some { t with
        users := t.users.update userId ({ · with nickname := name, username := name })
          (fun _ => rfl) }
  | .insertRelationship userId1 userId2, t =>
      some { t with relationships := t.relationships ++ [(userId1, userId2)] }
  | .deleteRelationship userId1 userId2, t =>
      some { t with relationships := t.relationships.filter (· ≠ (userId1, userId2)) }
  | .insertGroupAdmin groupId userId, t =>
      some { t with groupAdmins := t.groupAdmins ++ [(groupId, userId)] }
  | .deleteGroupAdmin groupId userId, t =>
      some { t with groupAdmins := t.groupAdmins.filter (· ≠ (groupId, userId)) }
  | .insertFriendRequest row, t =>
      some { t with friendRequests := t.friendRequests.insert row }
  | .updateRequestStatus reqId status, t =>
      some { t with friendRequests := t.friendRequests.update reqId ({ · with status }) }
  | .insertChatMsg row, t =>
      some { t with chatMsgs := t.chatMsgs ++ [row] }
  | .insertOfflineMsg row, t =>
      some { t with offlineMsgs := t.offlineMsgs ++ [row] }
  | .deleteOfflineMsg userid msgtype, t =>
      some { t with
        offlineMsgs := t.offlineMsgs.filter
          fun row => ¬ (row.userid = userid ∧ row.msgtype = msgtype) }

/-- `MySqlManager` between two statements: the tables, the outcomes the next
statements will have, and the clock `NOW()` reads. -/
structure MySql where
  tables : Tables
  outcomes : Nat → Bool
  clock : Int

namespace MySql

/-- The outcome of one statement is used up. -/
def advance (db : MySql) : MySql :=
  { db with outcomes := fun n => db.outcomes (n + 1) }

/-- `Execute`: the statement takes effect, or fails without one. -/
def execute (stmt : Stmt) (db : MySql) : Bool × MySql :=
  match db.outcomes 0, stmt.apply db.tables with
  | true, some tables => (true, { db.advance with tables })
  | _, _ => (false, db.advance)

/-- `Query`: the rows the server reads, or `none` for a null result. -/
def query {α : Type} (select : Tables → α) (db : MySql) : Option α × MySql :=
  if db.outcomes 0 then (some (select db.tables), db.advance) else (none, db.advance)

@[simp] theorem advance_tables (db : MySql) : db.advance.tables = db.tables := rfl

@[simp] theorem advance_outcomes (db : MySql) (n : Nat) :
    db.advance.outcomes n = db.outcomes (n + 1) := rfl

@[simp] theorem advance_clock (db : MySql) : db.advance.clock = db.clock := rfl

/-- A statement that failed changed no table. -/
theorem execute_failed {stmt : Stmt} {db next : MySql}
    (failed : db.execute stmt = (false, next)) : next = db.advance := by
  unfold execute at failed
  split at failed
  · simp at failed
  · exact (Prod.mk.inj failed).2.symm

/-- A statement that succeeded was granted and took effect as written. -/
theorem execute_succeeded {stmt : Stmt} {db next : MySql}
    (succeeded : db.execute stmt = (true, next)) :
    db.outcomes 0 = true ∧ ∃ tables, stmt.apply db.tables = some tables ∧
      next = { db.advance with tables } := by
  unfold execute at succeeded
  split at succeeded
  · rename_i tables granted applied
    exact ⟨granted, tables, applied, (Prod.mk.inj succeeded).2.symm⟩
  · simp at succeeded

@[simp] theorem query_snd {α : Type} (select : Tables → α) (db : MySql) :
    (db.query select).2 = db.advance := by
  unfold query
  split <;> rfl

@[simp] theorem query_fst {α : Type} (select : Tables → α) (db : MySql) :
    (db.query select).1 = if db.outcomes 0 then some (select db.tables) else none := by
  unfold query
  split <;> rfl

end MySql

end AimServer
