import AimServer.Proto
import AimServer.PasswordUtil
import AimServer.Store.MySql

/-!
Contract: `UserManager`, the account cache over the tables.

Owns: loading at start, every lookup, every mutator with its statement and its
cache update in the order of the source, and the request and chat tables it
reads and writes.

The list `m_cachedUsers` and the map `m_mapUsers` share one record per id, and
every record enters both after its row entered `t_user`, whose primary key is
the id. So one list stands for both: the list order is that of
`m_cachedUsers`, and the map is lookup by id.

Every method runs under `m_mutex` or is one statement plus one locked section;
here each is one step.
-/

namespace AimServer

open AimServer.Lib
open AimServer.PasswordUtil

/-- `class User`. -/
structure User where
  userid : Int
  username : Bytes
  nickname : Bytes
  password : Bytes
  facetype : Int
  customface : Bytes
  gender : Int
  birthday : Int
  signature : Bytes
  address : Bytes
  phonenumber : Bytes
  mail : Bytes
  status : Int
  ownerid : Int
  friends : Finset Int
  admins : Finset Int
deriving DecidableEq

/-- A default-constructed `User`. -/
def User.blank : User where
  userid := -1
  username := []
  nickname := []
  password := []
  facetype := -1
  customface := []
  gender := -1
  birthday := -1
  signature := []
  address := []
  phonenumber := []
  mail := []
  status := 0
  ownerid := -1
  friends := ∅
  admins := ∅

/-- The account cache and the database it writes through to. -/
structure Store where
  db : MySql
  cachedUsers : List User
  baseUserID : Int
  baseGroupID : Int

namespace Store

/-! ### Lookups -/

/-- `m_mapUsers.find(userid)`. -/
def getUserByID (userid : Int) (s : Store) : Option User :=
  lookup User.userid userid s.cachedUsers

/-- Assignment through the record that `m_mapUsers` holds for `userid`. -/
def modifyUser (userid : Int) (change : User → User) (s : Store) : Store :=
  { s with cachedUsers := modify User.userid userid change s.cachedUsers }

def getUserInfoUsername (name : Bytes) (s : Store) : Option User :=
  s.cachedUsers.find? fun user => user.username = name

/-- The cached records of the friends of `userid`, in id order; `none` when
`userid` has no record. -/
def getFriendInfoByUserID (userid : Int) (s : Store) : Option (List User) :=
  (s.getUserByID userid).map fun user =>
    (ascending user.friends).filterMap fun friendid => s.getUserByID friendid

def isFriend (userid friendid : Int) (s : Store) : Bool :=
  match s.getUserByID userid with
  | none => false
  | some user => decide (friendid ∈ user.friends)

def isGroupAdmin (groupid userid : Int) (s : Store) : Bool :=
  match s.getUserByID groupid with
  | none => false
  | some group => decide (userid ∈ group.admins)

/-! ### Statements -/

def execute (stmt : Stmt) (s : Store) : Bool × Store :=
  let (ok, db) := s.db.execute stmt
  (ok, { s with db })

def query {α : Type} (select : Tables → α) (s : Store) : Option α × Store :=
  let (result, db) := s.db.query select
  (result, { s with db })

/-! ### Accounts -/

def setUserStatus (userid status : Int) (s : Store) : Bool × Store :=
  match s.getUserByID userid with
  | none => (false, s)
  | some _ => (true, s.modifyUser userid ({ · with status }))

/-- Results of `AddUser`, in the order of its codes 0 to 3. -/
inductive AddUserResult where
  | ok
  | usernameTaken
  | mailTaken
  | databaseError
deriving DecidableEq, Repr

/-- The duplicate scan of `AddUser` over `m_cachedUsers`: per record first the
user name, then a non-empty mail. -/
def duplicateScan (user : User) : List User → Option AddUserResult
  | [] => none
  | cached :: rest =>
      if cached.username = user.username then some .usernameTaken
      else if user.mail ≠ [] ∧ cached.mail = user.mail then some .mailTaken
      else duplicateScan user rest

/-- The record `AddUser` caches for a new row. -/
def addedUser (newid : Int) (hashed : Bytes) (user : User) : User :=
  { user with
    userid := newid
    password := hashed
    facetype := 0
    birthday := 20000101
    gender := 0
    ownerid := 0 }

def addUser (salt : Bytes) (user : User) (s : Store) : AddUserResult × Store :=
  match duplicateScan user s.cachedUsers with
  | some refused => (refused, s)
  | none =>
      let hashed := hashPassword salt user.password
      let newid := s.baseUserID + 1
      match s.execute (.insertUser newid user.username user.nickname hashed user.mail) with
      | (false, s) => (.databaseError, s)
      | (true, s) =>
          (.ok, { s with
            baseUserID := newid
            cachedUsers := s.cachedUsers ++ [addedUser newid hashed user] })

/-- The record `AddGroup` caches; `groupname` is the C string it was given. -/
def addedGroup (groupid : Int) (groupname : Bytes) (ownerid : Int) : User :=
  { User.blank with
    userid := groupid
    username := groupname
    nickname := groupname
    ownerid := ownerid
    facetype := 0
    gender := 0
    birthday := 20000101 }

/-- `AddGroup`: the id counter advances even when the statement fails. The
result is the new group id. -/
def addGroup (groupname : Bytes) (ownerid : Int) (s : Store) : Option Int × Store :=
  let name := cStr groupname
  let groupid := s.baseGroupID + 1
  let s := { s with baseGroupID := groupid }
  match s.execute (.insertGroup groupid name name [] ownerid) with
  | (false, s) => (none, s)
  | (true, s) =>
      (some groupid, { s with cachedUsers := s.cachedUsers ++ [addedGroup groupid name ownerid] })

def renameGroup (groupid : Int) (newname : Bytes) (s : Store) : Bool × Store :=
  match s.execute (.renameUser groupid newname) with
  | (false, s) => (false, s)
  | (true, s) => (true, s.modifyUser groupid ({ · with nickname := newname, username := newname }))

/-- The profile fields of a record. -/
def profileOf (user : User) : ProfileUpdate where
  nickname := user.nickname
  facetype := user.facetype
  customface := user.customface
  gender := user.gender
  birthday := user.birthday
  signature := user.signature
  address := user.address
  phonenumber := user.phonenumber
  mail := user.mail

/-- Assign the profile fields of `profile` to a record. -/
def withProfile (profile : ProfileUpdate) (user : User) : User :=
  { user with
    nickname := profile.nickname
    facetype := profile.facetype
    customface := profile.customface
    gender := profile.gender
    birthday := profile.birthday
    signature := profile.signature
    address := profile.address
    phonenumber := profile.phonenumber
    mail := profile.mail }

def updateUserInfo (userid : Int) (newuserinfo : User) (s : Store) : Bool × Store :=
  match s.execute (.updateUserInfo userid (profileOf newuserinfo)) with
  | (false, s) => (false, s)
  | (true, s) => (true, s.modifyUser userid (withProfile (profileOf newuserinfo)))

def modifyUserPassword (salt : Bytes) (userid : Int) (newpassword : Bytes) (s : Store) :
    Bool × Store :=
  let hashed := hashPassword salt newpassword
  match s.execute (.updatePassword userid hashed) with
  | (false, s) => (false, s)
  | (true, s) => (true, s.modifyUser userid ({ · with password := hashed }))

/-! ### Relationships -/

def addFriend (friendid : Int) (user : User) : User :=
  { user with friends := insert friendid user.friends }

def eraseFriend (friendid : Int) (user : User) : User :=
  { user with friends := user.friends.erase friendid }

/-- `MakeFriendRelationship`: after the `INSERT`, an id without a record ends
the function before the remaining cache updates. -/
def makeFriendRelationship (smallid greatid : Int) (s : Store) : Bool × Store :=
  if smallid ≥ greatid then (false, s)
  else
    match s.execute (.insertRelationship smallid greatid) with
    | (false, s) => (false, s)
    | (true, s) =>
        match s.getUserByID smallid with
        | none => (false, s)
        | some _ =>
            let s := s.modifyUser smallid (addFriend greatid)
            match s.getUserByID greatid with
            | none => (false, s)
            | some _ => (true, s.modifyUser greatid (addFriend smallid))

/-- The cache part of both deletions. -/
def unlinkCached (first second : Int) (s : Store) : Store :=
  (s.modifyUser first (eraseFriend second)).modifyUser second (eraseFriend first)

def releaseFriendRelationship (smallid greatid : Int) (s : Store) : Bool × Store :=
  if smallid ≥ greatid then (false, s)
  else
    match s.execute (.deleteRelationship smallid greatid) with
    | (false, s) => (false, s)
    | (true, s) => (true, s.unlinkCached smallid greatid)

def deleteFriendToUser (userid friendid : Int) (s : Store) : Bool × Store :=
  let smallid := if userid < friendid then userid else friendid
  let greatid := if userid < friendid then friendid else userid
  match s.execute (.deleteRelationship smallid greatid) with
  | (false, s) => (false, s)
  | (true, s) => (true, s.unlinkCached userid friendid)

/-! ### Group administrators -/

def setGroupAdmin (groupid userid : Int) (isAdmin : Bool) (s : Store) : Bool × Store :=
  if isAdmin then
    match s.query fun t => decide ((groupid, userid) ∈ t.groupAdmins) with
    | (some true, s) =>
        (true, s.modifyUser groupid fun group =>
          { group with admins := insert userid group.admins })
    | (_, s) =>
        match s.execute (.insertGroupAdmin groupid userid) with
        | (false, s) => (false, s)
        | (true, s) =>
            (true, s.modifyUser groupid fun group =>
              { group with admins := insert userid group.admins })
  else
    match s.execute (.deleteGroupAdmin groupid userid) with
    | (false, s) => (false, s)
    | (true, s) =>
        (true, s.modifyUser groupid fun group =>
          { group with admins := group.admins.erase userid })

/-! ### Requests -/

/-- `WHERE f_from_id = .. AND f_to_id = .. AND f_reqtype = .. AND f_group_id = ..
AND f_status = 0`. -/
def pendingMatch (fromId toId reqType groupId : Int) (row : FriendRequestRow) : Bool :=
  row.fromId = fromId ∧ row.toId = toId ∧ row.reqtype = reqType ∧ row.groupId = groupId ∧
    row.status = 0

/-- `AddFriendRequest`: the id of a pending duplicate, else of the new row. A
null duplicate query is taken for an empty one. When handlers run one after
the other the idle stack hands out the connection that ran the `INSERT`, so
`LAST_INSERT_ID()` is the key just assigned. -/
def addFriendRequest (fromId toId reqType groupId : Int) (message : Bytes) (s : Store) :
    Option Int × Store :=
  match s.query fun t =>
      t.friendRequests.rows.find? fun entry =>
        pendingMatch fromId toId reqType groupId entry.2 with
  | (some (some entry), s) => (some entry.1, s)
  | (_, s) =>
      match s.execute (.insertFriendRequest
          ⟨fromId, toId, reqType, groupId, message, 0, s.db.clock⟩) with
      | (false, s) => (none, s)
      | (true, s) =>
          match s.query fun t => t.friendRequests.next - 1 with
          | (some reqId, s) => (some reqId, s)
          | (none, s) => (some 0, s)

/-- `GetPendingRequests`: pending rows for `toId` with a positive sender,
newest first. -/
def getPendingRequests (toId : Int) (s : Store) : Option (List (Int × FriendRequestRow)) × Store :=
  s.query fun t =>
    (t.friendRequests.rows.filter fun entry =>
      entry.2.toId = toId ∧ entry.2.status = 0 ∧ entry.2.fromId > 0).reverse

/-- `GetFriendRequestById`: the status column is not among those it reads. -/
def getFriendRequestById (reqId : Int) (s : Store) : Option FriendRequestRow × Store :=
  match s.query fun t => t.friendRequests.find reqId with
  | (some (some row), s) => (some row, s)
  | (_, s) => (none, s)

def updateRequestStatus (reqId status : Int) (s : Store) : Bool × Store :=
  s.execute (.updateRequestStatus reqId status)

/-! ### Chat messages -/

/-- The row `SaveChatMsgToDb` builds; `now` is `NOW()`. -/
def chatRow (senderid targetid : Int) (msg : ChatMsg) (now : Int) : ChatMsgRow where
  senderid := senderid
  targetid := targetid
  msgcontent := msg.content
  msgtype := msg.msgType
  mediaUrl := msg.mediaUrl
  duration := msg.duration
  thumbUrl := msg.thumbUrl
  filesize := msg.fileSize
  filename := msg.fileName
  createTime := if msg.timestamp > 0 then msg.timestamp else now

def saveChatMsgToDb (senderid targetid : Int) (msg : ChatMsg) (s : Store) : Bool × Store :=
  s.execute (.insertChatMsg (chatRow senderid targetid msg s.db.clock))

/-- The `ChatMsg` that `GetChatHistory` rebuilds from a row. -/
def historyMsg (row : ChatMsgRow) : ChatMsg :=
  { ChatMsg.empty with
    senderid := row.senderid
    targetid := row.targetid
    content := row.msgcontent
    timestamp := row.createTime
    msgType := row.msgtype
    mediaUrl := row.mediaUrl
    duration := row.duration
    thumbUrl := row.thumbUrl
    fileSize := row.filesize
    fileName := row.filename }

/-- The `WHERE` clause of `GetChatHistory`. -/
def inHistory (userid targetid : Int) (row : ChatMsgRow) : Bool :=
  if targetid ≥ groupIdBoundary then row.targetid = targetid
  else (row.senderid = userid ∧ row.targetid = targetid) ∨
    (row.senderid = targetid ∧ row.targetid = userid)

def getChatHistory (userid targetid : Int) (limit : Nat) (s : Store) :
    Option (List ChatMsg) × Store :=
  s.query fun t =>
    (((t.chatMsgs.filter (inHistory userid targetid)).insertionSort
      fun first second => second.createTime ≤ first.createTime).take limit).map historyMsg

/-! ### Loading -/

/-- A nullable text column reads as the empty string when it is `NULL`. -/
def textColumn (column : Option Bytes) : Bytes := column.getD []

/-- The record `LoadUserFromDB` builds from a row. -/
def loadedUser (row : UserRow) : User :=
  { User.blank with
    userid := row.userId
    username := row.username
    nickname := row.nickname
    password := row.password
    facetype := row.facetype
    customface := textColumn row.customface
    gender := row.gender
    birthday := row.birthday
    signature := textColumn row.signature
    address := textColumn row.address
    phonenumber := textColumn row.phonenumber
    mail := textColumn row.mail
    ownerid := row.ownerId }

/-- `LoadRelationshipFromDB` on the rows its `WHERE` clause selects. -/
def loadRelationship (userid : Int) (relationships : List (Int × Int)) : Finset Int :=
  relationships.foldl
    (fun friends row =>
      if row.1 = userid then insert row.2 friends
      else if row.2 = userid then insert row.1 friends
      else friends) ∅

def loadGroupAdmins (groupid : Int) (groupAdmins : List (Int × Int)) : Finset Int :=
  groupAdmins.foldl (fun admins row => if row.1 = groupid then insert row.2 admins else admins) ∅

/-- Outcomes of the per-account queries of one `init()`. A failed one is
logged and leaves the set empty. -/
structure LoadOutcome where
  relationshipOk : Int → Bool
  adminsOk : Int → Bool

def LoadOutcome.allOk : LoadOutcome := ⟨fun _ => true, fun _ => true⟩

/-- The record `init()` leaves in the cache for a row. -/
def initUser (loads : LoadOutcome) (t : Tables) (row : UserRow) : User :=
  { loadedUser row with
    friends :=
      if loads.relationshipOk row.userId then loadRelationship row.userId t.relationships else ∅
    admins :=
      if row.userId ≥ groupIdBoundary ∧ loads.adminsOk row.userId then
        loadGroupAdmins row.userId t.groupAdmins
      else ∅ }

/-- `init()` of a fresh process on the tables, its user query succeeding (when
it fails the process exits and there is no cache). Rows arrive by descending
id. -/
def init (loads : LoadOutcome) (db : MySql) : Store :=
  let rows := db.tables.users.rows.insertionSort fun first second => second.userId ≤ first.userId
  { db := db
    cachedUsers := rows.map (initUser loads db.tables)
    baseUserID := rows.foldl
      (fun base row =>
        if row.userId < groupIdBoundary ∧ row.userId > base then row.userId else base) 0
    baseGroupID := rows.foldl
      (fun base row =>
        if row.userId ≥ groupIdBoundary ∧ row.userId > base then row.userId else base)
      groupIdBoundary }

end Store

end AimServer
