import AimServer.Persist.Statement

/-!
Contract: the seven methods of `UserManager` that write strings into SQL text.

Owns: the text each of them hands to `Execute`, in the pieces of its
`stringstream`, the statement it is meant to be, and the effect on the tables
that the account store gives it.

Does not own: the statements that hold only numbers.
-/

namespace AimServer

open AimServer.Lib
open AimServer.Lib.Sql (Fragment)

/-! ### The texts -/

/-- `AddUser`; `hashed` is the result of `HashPassword`. -/
def addUserSql (newid : Int) (username nickname hashed mail : Bytes) : Bytes :=
  str ("INSERT INTO t_user (f_user_id, f_username, f_nickname, f_password, " ++
    "f_mail, f_register_time)") ++ str "VALUES (" ++ intText newid ++ str ", '" ++
    escapeSqlString username ++ str "', '" ++ escapeSqlString nickname ++ str "', '" ++
    escapeSqlString hashed ++ str "', '" ++ escapeSqlString mail ++ str "', NOW())"

def updateUserInfoSql (userid : Int) (newuserinfo : ProfileUpdate) : Bytes :=
  str "UPDATE t_user SET " ++
    str "f_nickname = '" ++ escapeSqlString newuserinfo.nickname ++ str "', " ++
    str "f_facetype = " ++ intText newuserinfo.facetype ++ str ", " ++
    str "f_customface = '" ++ escapeSqlString newuserinfo.customface ++ str "', " ++
    str "f_gender = " ++ intText newuserinfo.gender ++ str ", " ++
    str "f_birthday = " ++ intText newuserinfo.birthday ++ str ", " ++
    str "f_signature = '" ++ escapeSqlString newuserinfo.signature ++ str "', " ++
    str "f_address = '" ++ escapeSqlString newuserinfo.address ++ str "', " ++
    str "f_phonenumber = '" ++ escapeSqlString newuserinfo.phonenumber ++ str "', " ++
    str "f_mail = '" ++ escapeSqlString newuserinfo.mail ++ str "' " ++
    str "WHERE f_user_id = " ++ intText userid

def modifyUserPasswordSql (userid : Int) (hashed : Bytes) : Bytes :=
  str "UPDATE t_user SET f_password = '" ++ escapeSqlString hashed ++
    str "' WHERE f_user_id = " ++ intText userid

/-- `AddGroup`; its name is a `const char*`. -/
def addGroupSql (groupid : Int) (groupname : Bytes) (ownerid : Int) : Bytes :=
  str ("INSERT INTO t_user (f_user_id, f_username, f_nickname, f_password, " ++
    "f_owner_id, f_register_time) VALUES (") ++ intText groupid ++ str ", '" ++
    escapeSqlString (cStr groupname) ++ str "', '" ++ escapeSqlString (cStr groupname) ++
    str "', '', " ++ intText ownerid ++ str ", NOW())"

def renameGroupSql (groupid : Int) (newname : Bytes) : Bytes :=
  str "UPDATE t_user SET f_nickname = '" ++ escapeSqlString newname ++
    str "', f_username = '" ++ escapeSqlString newname ++
    str "' WHERE f_user_id = " ++ intText groupid

def addFriendRequestSql (fromId toId reqType groupId : Int) (msg : Bytes) : Bytes :=
  str ("INSERT INTO t_friend_request (f_from_id, f_to_id, f_reqtype, f_group_id, " ++
    "f_message, f_status, f_create_time) VALUES (") ++ intText fromId ++ str ", " ++ intText toId ++
    str ", " ++ intText reqType ++ str ", " ++ intText groupId ++ str ", '" ++
    escapeSqlString msg ++ str "', 0, NOW())"

/-- A call that reaches `Execute` with strings in its text. -/
inductive WriteCall where
  | addUser (newid : Int) (username nickname hashed mail : Bytes)
  | updateUserInfo (userid : Int) (newuserinfo : ProfileUpdate)
  | modifyUserPassword (userid : Int) (hashed : Bytes)
  | addGroup (groupid : Int) (groupname : Bytes) (ownerid : Int)
  | renameGroup (groupid : Int) (newname : Bytes)
  | saveChatMsgToDb (senderid targetid : Int) (msg : ChatMsg)
  | addFriendRequest (fromId toId reqType groupId : Int) (msg : Bytes)

/-! ### The statements -/

def userColumns : List String :=
  ["f_user_id", "f_username", "f_nickname", "f_password", "f_mail", "f_register_time"]

def groupColumns : List String :=
  ["f_user_id", "f_username", "f_nickname", "f_password", "f_owner_id", "f_register_time"]

def profileColumns : List String :=
  ["f_nickname", "f_facetype", "f_customface", "f_gender", "f_birthday", "f_signature",
    "f_address", "f_phonenumber", "f_mail"]

def requestColumns : List String :=
  ["f_from_id", "f_to_id", "f_reqtype", "f_group_id", "f_message", "f_status", "f_create_time"]

/-- The assignments of `UpdateUserInfo`. -/
def profileAssignments (profile : ProfileUpdate) : List (Bytes × SqlValue) :=
  (profileColumns.map str).zip
    [.text profile.nickname, .int profile.facetype, .text profile.customface, .int profile.gender,
      .int profile.birthday, .text profile.signature, .text profile.address,
      .text profile.phonenumber, .text profile.mail]

/-- The values of `SaveChatMsgToDb`. -/
def chatMsgValues (senderid targetid : Int) (msg : ChatMsg) : List SqlValue :=
  [.int senderid, .int targetid, .text msg.content, .int msg.msgType, .text msg.mediaUrl,
    .int msg.duration, .text msg.thumbUrl, .int msg.fileSize, .text msg.fileName,
    if msg.timestamp > 0 then .fromUnixTime msg.timestamp else .now]

namespace WriteCall

/-- The text of the call's `stringstream`. -/
def sql : WriteCall → Bytes
  | addUser newid username nickname hashed mail => addUserSql newid username nickname hashed mail
  | updateUserInfo userid newuserinfo => updateUserInfoSql userid newuserinfo
  | modifyUserPassword userid hashed => modifyUserPasswordSql userid hashed
  | addGroup groupid groupname ownerid => addGroupSql groupid groupname ownerid
  | renameGroup groupid newname => renameGroupSql groupid newname
  | saveChatMsgToDb senderid targetid msg => saveChatMsgSql senderid targetid msg
  | addFriendRequest fromId toId reqType groupId msg =>
      addFriendRequestSql fromId toId reqType groupId msg

/-- The statement the call is meant to run: every string column holds the
string that was escaped, every numeric column the number. -/
def statement : WriteCall → SqlStatement
  | addUser newid username nickname hashed mail =>
      .insert (str "t_user") (userColumns.map str)
        [.int newid, .text username, .text nickname, .text hashed, .text mail, .now]
  | updateUserInfo userid newuserinfo =>
      .update (str "t_user") (profileAssignments newuserinfo) (str "f_user_id", .int userid)
  | modifyUserPassword userid hashed =>
      .update (str "t_user") [(str "f_password", .text hashed)] (str "f_user_id", .int userid)
  | addGroup groupid groupname ownerid =>
      .insert (str "t_user") (groupColumns.map str)
        [.int groupid, .text (cStr groupname), .text (cStr groupname), .text [], .int ownerid, .now]
  | renameGroup groupid newname =>
      .update (str "t_user") [(str "f_nickname", .text newname), (str "f_username", .text newname)]
        (str "f_user_id", .int groupid)
  | saveChatMsgToDb senderid targetid msg =>
      .insert (str "t_chatmsg") (chatMsgColumns.map str) (chatMsgValues senderid targetid msg)
  | addFriendRequest fromId toId reqType groupId msg =>
      .insert (str "t_friend_request") (requestColumns.map str)
        [.int fromId, .int toId, .int reqType, .int groupId, .text msg, .int 0, .now]

/-- The statement of the account store for the call. -/
def stmt (now : Int) : WriteCall → Stmt
  | addUser newid username nickname hashed mail => .insertUser newid username nickname hashed mail
  | updateUserInfo userid newuserinfo => .updateUserInfo userid newuserinfo
  | modifyUserPassword userid hashed => .updatePassword userid hashed
  | addGroup groupid groupname ownerid =>
      .insertGroup groupid (cStr groupname) (cStr groupname) [] ownerid
  | renameGroup groupid newname => .renameUser groupid newname
  | saveChatMsgToDb senderid targetid msg =>
      .insertChatMsg (Store.chatRow senderid targetid msg now)
  | addFriendRequest fromId toId reqType groupId msg =>
      .insertFriendRequest ⟨fromId, toId, reqType, groupId, msg, 0, now⟩

end WriteCall

/-! ### What a statement that was read does -/

/-- An `INSERT` into one of the three tables with the columns the server names. -/
def insertStmt (now : Int) (table : Bytes) (columns : List Bytes) : List SqlValue → Option Stmt
  | [.int userId, .text username, .text nickname, .text password, .text mail, .now] =>
      if table = str "t_user" ∧ columns = userColumns.map str then
        some (.insertUser userId username nickname password mail)
      else none
  | [.int userId, .text username, .text nickname, .text password, .int ownerId, .now] =>
      if table = str "t_user" ∧ columns = groupColumns.map str then
        some (.insertGroup userId username nickname password ownerId)
      else none
  | [.int fromId, .int toId, .int reqtype, .int groupId, .text message, .int status, .now] =>
      if table = str "t_friend_request" ∧ columns = requestColumns.map str then
        some (.insertFriendRequest ⟨fromId, toId, reqtype, groupId, message, status, now⟩)
      else none
  | values =>
      if table = str "t_chatmsg" ∧ columns = chatMsgColumns.map str then
        (chatMsgRow now values).map .insertChatMsg
      else none

/-- An `UPDATE` of the account with an id. -/
def updateStmt (userId : Int) (columns : List Bytes) : List SqlValue → Option Stmt
  | [.text password] =>
      if columns = [str "f_password"] then some (.updatePassword userId password) else none
  | [.text nickname, .text username] =>
      if columns = [str "f_nickname", str "f_username"] ∧ nickname = username then
        some (.renameUser userId nickname)
      else none
  | [.text nickname, .int facetype, .text customface, .int gender, .int birthday, .text signature,
      .text address, .text phonenumber, .text mail] =>
      if columns = profileColumns.map str then
        some (.updateUserInfo userId
          ⟨nickname, facetype, customface, gender, birthday, signature, address, phonenumber, mail⟩)
      else none
  | _ => none

def SqlStatement.stmt (now : Int) : SqlStatement → Option Stmt
  | .insert table columns values => insertStmt now table columns values
  | .update table assignments (column, .int userId) =>
      if table = str "t_user" ∧ column = str "f_user_id" then
        updateStmt userId (assignments.map Prod.fst) (assignments.map Prod.snd)
      else none
  | .update _ _ _ => none

/-- `Execute` of a text: what `mysql_query` reads up to the first NUL takes
effect, or the text is rejected. -/
def MySql.executeText (sql : Bytes) (db : MySql) : Bool × MySql :=
  match ((Sql.scan (cStr sql)).bind readStatement).bind (SqlStatement.stmt db.clock) with
  | some stmt => db.execute stmt
  | none => (false, db.advance)

/-- The ten values are the row of the message. -/
theorem chatMsgRow_chatMsgValues (senderid targetid now : Int) (msg : ChatMsg) :
    chatMsgRow now (chatMsgValues senderid targetid msg) =
      some (Store.chatRow senderid targetid msg now) := by
  unfold chatMsgValues Store.chatRow
  split
  · rfl
  · rfl

/-- The statement of a call is the one the account store executes. -/
theorem WriteCall.statement_stmt (now : Int) (call : WriteCall) :
    call.statement.stmt now = some (call.stmt now) := by
  cases call with
  | addUser => simp [statement, SqlStatement.stmt, insertStmt, stmt]
  | updateUserInfo =>
      simp [statement, SqlStatement.stmt, updateStmt, stmt, profileAssignments, profileColumns]
  | modifyUserPassword => simp [statement, SqlStatement.stmt, updateStmt, stmt]
  | addGroup => simp [statement, SqlStatement.stmt, insertStmt, stmt]
  | renameGroup => simp [statement, SqlStatement.stmt, updateStmt, stmt]
  | saveChatMsgToDb senderid targetid msg =>
      have inserted : insertStmt now (str "t_chatmsg") (chatMsgColumns.map str)
          (chatMsgValues senderid targetid msg) =
            (chatMsgRow now (chatMsgValues senderid targetid msg)).map .insertChatMsg := by
        simp [insertStmt, chatMsgValues]
      simp only [statement, SqlStatement.stmt, inserted, chatMsgRow_chatMsgValues]
      rfl
  | addFriendRequest => simp [statement, SqlStatement.stmt, insertStmt, stmt]

/-! ### The texts as the writer writes them -/

/-- An `INSERT` up to its first value. -/
def insertHead (table : Bytes) (columns : List Bytes) (gap : Bytes) : Bytes :=
  str "INSERT" ++ 32 :: (str "INTO" ++ 32 :: (table ++ 32 :: 40 :: (listText columns ++
    41 :: (gap ++ (str "VALUES" ++ [32, 40])))))

theorem insertText_head (table : Bytes) (columns : List Bytes) (gap : Bytes)
    (values : List SqlValue) :
    insertText table columns gap values =
      insertHead table columns gap ++ (listText (values.map SqlValue.sqlText) ++ [41]) := by
  simp [insertText, insertHead]

theorem str_separator : str ", " = [44, 32] := by
  rw [str_eq_bytes]
  rfl

theorem str_opening : str ", '" = [44, 32, 39] := by
  rw [str_eq_bytes]
  rfl

theorem str_closing : str "', " = [39, 44, 32] := by
  rw [str_eq_bytes]
  rfl

theorem str_between : str "', '" = [39, 44, 32, 39] := by
  rw [str_eq_bytes]
  rfl

theorem str_lastNow : str ", NOW())" = [44, 32] ++ str "NOW" ++ [40, 41, 41] := by
  simp only [str_eq_bytes]
  rfl

theorem addUserSql_eq (newid : Int) (username nickname hashed mail : Bytes) :
    addUserSql newid username nickname hashed mail =
      insertText (str "t_user") (userColumns.map str) []
        [.int newid, .text username, .text nickname, .text hashed, .text mail, .now] := by
  have head : str ("INSERT INTO t_user (f_user_id, f_username, f_nickname, f_password, " ++
      "f_mail, f_register_time)") ++ str "VALUES (" =
        insertHead (str "t_user") (userColumns.map str) [] := by
    simp only [insertHead, userColumns, List.map, str_eq_bytes]
    rfl
  have last : str "', NOW())" = [39, 44, 32] ++ str "NOW" ++ [40, 41, 41] := by
    simp only [str_eq_bytes]
    rfl
  unfold addUserSql
  rw [insertText_head, head, last]
  simp [listText, SqlValue.sqlText, str_opening, str_between]

theorem addGroupSql_eq (groupid : Int) (groupname : Bytes) (ownerid : Int) :
    addGroupSql groupid groupname ownerid =
      insertText (str "t_user") (groupColumns.map str) [32]
        [.int groupid, .text (cStr groupname), .text (cStr groupname), .text [], .int ownerid,
          .now] := by
  have head : str ("INSERT INTO t_user (f_user_id, f_username, f_nickname, f_password, " ++
      "f_owner_id, f_register_time) VALUES (") =
        insertHead (str "t_user") (groupColumns.map str) [32] := by
    simp only [insertHead, groupColumns, List.map, str_eq_bytes]
    rfl
  have empty : str "', '', " = [39, 44, 32, 39, 39, 44, 32] := by
    rw [str_eq_bytes]
    rfl
  unfold addGroupSql
  rw [insertText_head, head, empty, str_lastNow]
  simp [listText, SqlValue.sqlText, str_opening, str_between, escapeSqlString]

theorem saveChatMsgSql_eq (senderid targetid : Int) (msg : ChatMsg) :
    saveChatMsgSql senderid targetid msg =
      insertText (str "t_chatmsg") (chatMsgColumns.map str) [32]
        (chatMsgValues senderid targetid msg) := by
  have head : chatMsgHead = insertHead (str "t_chatmsg") (chatMsgColumns.map str) [32] := by
    simp only [chatMsgHead, insertHead, chatMsgColumns, List.map, str_eq_bytes]
    rfl
  have time : createTimeSql msg.timestamp =
      (if msg.timestamp > 0 then SqlValue.fromUnixTime msg.timestamp else .now).sqlText ++
        [41] := by
    have texts : str "FROM_UNIXTIME(" = str "FROM_UNIXTIME" ++ [40] ∧ str "))" = [41, 41] ∧
        str "NOW())" = str "NOW" ++ [40, 41, 41] := by
      simp only [str_eq_bytes]
      exact ⟨rfl, rfl, rfl⟩
    obtain ⟨function, brackets, now⟩ := texts
    unfold createTimeSql
    split
    · simp [function, brackets, SqlValue.sqlText]
    · simp [now, SqlValue.sqlText]
  unfold saveChatMsgSql partiesSql columnPairSql
  rw [insertText_head, head, time]
  simp [listText, chatMsgValues, SqlValue.sqlText, str_separator, str_opening, str_closing]

theorem addFriendRequestSql_eq (fromId toId reqType groupId : Int) (msg : Bytes) :
    addFriendRequestSql fromId toId reqType groupId msg =
      insertText (str "t_friend_request") (requestColumns.map str) [32]
        [.int fromId, .int toId, .int reqType, .int groupId, .text msg, .int 0, .now] := by
  have head : str ("INSERT INTO t_friend_request (f_from_id, f_to_id, f_reqtype, f_group_id, " ++
      "f_message, f_status, f_create_time) VALUES (") =
        insertHead (str "t_friend_request") (requestColumns.map str) [32] := by
    simp only [insertHead, requestColumns, List.map, str_eq_bytes]
    rfl
  have last : str "', 0, NOW())" = [39, 44, 32] ++ intText 0 ++ [44, 32] ++ str "NOW" ++
      [40, 41, 41] := by
    simp only [str_eq_bytes]
    rfl
  unfold addFriendRequestSql
  rw [insertText_head, head, last]
  simp [listText, SqlValue.sqlText, str_opening, str_separator]

/-- The text in front of the account id of an `UPDATE`. -/
theorem str_whereUser : str "' WHERE f_user_id = " =
    39 :: 32 :: (str "WHERE" ++ 32 :: (str "f_user_id" ++ [32, 61, 32])) := by
  simp only [str_eq_bytes]
  rfl

theorem modifyUserPasswordSql_eq (userid : Int) (hashed : Bytes) :
    modifyUserPasswordSql userid hashed =
      updateText (str "t_user") [(str "f_password", .text hashed)]
        (str "f_user_id", .int userid) := by
  have head : str "UPDATE t_user SET f_password = '" = str "UPDATE" ++ 32 :: (str "t_user" ++
      32 :: (str "SET" ++ 32 :: (str "f_password" ++ [32, 61, 32, 39]))) := by
    simp only [str_eq_bytes]
    rfl
  unfold modifyUserPasswordSql updateText
  rw [head, str_whereUser]
  simp [listText, assignmentText, SqlValue.sqlText]

theorem renameGroupSql_eq (groupid : Int) (newname : Bytes) :
    renameGroupSql groupid newname =
      updateText (str "t_user")
        [(str "f_nickname", .text newname), (str "f_username", .text newname)]
        (str "f_user_id", .int groupid) := by
  have head : str "UPDATE t_user SET f_nickname = '" = str "UPDATE" ++ 32 :: (str "t_user" ++
      32 :: (str "SET" ++ 32 :: (str "f_nickname" ++ [32, 61, 32, 39]))) := by
    simp only [str_eq_bytes]
    rfl
  have username : str "', f_username = '" =
      39 :: 44 :: 32 :: (str "f_username" ++ [32, 61, 32, 39]) := by
    simp only [str_eq_bytes]
    rfl
  unfold renameGroupSql updateText
  rw [head, username, str_whereUser]
  simp [listText, assignmentText, SqlValue.sqlText]

/-- The column names of `UpdateUserInfo` with what stands behind them. -/
theorem str_profileColumns :
    (str "f_nickname = '" = str "f_nickname" ++ [32, 61, 32, 39] ∧
      str "f_facetype = " = str "f_facetype" ++ [32, 61, 32] ∧
      str "f_customface = '" = str "f_customface" ++ [32, 61, 32, 39]) ∧
    (str "f_gender = " = str "f_gender" ++ [32, 61, 32] ∧
      str "f_birthday = " = str "f_birthday" ++ [32, 61, 32] ∧
      str "f_signature = '" = str "f_signature" ++ [32, 61, 32, 39]) ∧
    (str "f_address = '" = str "f_address" ++ [32, 61, 32, 39] ∧
      str "f_phonenumber = '" = str "f_phonenumber" ++ [32, 61, 32, 39] ∧
      str "f_mail = '" = str "f_mail" ++ [32, 61, 32, 39]) := by
  simp only [str_eq_bytes]
  exact ⟨⟨rfl, rfl, rfl⟩, ⟨rfl, rfl, rfl⟩, rfl, rfl, rfl⟩

theorem updateUserInfoSql_eq (userid : Int) (newuserinfo : ProfileUpdate) :
    updateUserInfoSql userid newuserinfo =
      updateText (str "t_user") (profileAssignments newuserinfo)
        (str "f_user_id", .int userid) := by
  obtain ⟨⟨nickname, facetype, customface⟩, ⟨gender, birthday, signature⟩,
    ⟨address, phonenumber, mail⟩⟩ := str_profileColumns
  have texts : str "UPDATE t_user SET " = str "UPDATE" ++ 32 :: (str "t_user" ++
        32 :: (str "SET" ++ [32])) ∧ str "' " = [39, 32] ∧
      str "WHERE f_user_id = " = str "WHERE" ++ 32 :: (str "f_user_id" ++ [32, 61, 32]) := by
    simp only [str_eq_bytes]
    exact ⟨rfl, rfl, rfl⟩
  obtain ⟨head, closing, filter⟩ := texts
  unfold updateUserInfoSql updateText
  rw [head, closing, filter, nickname, facetype, customface, gender, birthday, signature, address,
    phonenumber, mail]
  simp [listText, profileAssignments, profileColumns, assignmentText, SqlValue.sqlText,
    str_separator, str_closing]

/-! ### The tokens of the texts -/

namespace WriteCall

/-- The tables and columns the calls name. -/
theorem isName_tables :
    IsName (str "t_user") ∧ IsName (str "t_chatmsg") ∧ IsName (str "t_friend_request") := by
  simp only [str_eq_bytes]
  decide +kernel

theorem isName_columns :
    (∀ column ∈ userColumns.map str, IsName column) ∧
      (∀ column ∈ groupColumns.map str, IsName column) ∧
      (∀ column ∈ profileColumns.map str, IsName column) ∧
      (∀ column ∈ chatMsgColumns.map str, IsName column) ∧
      ∀ column ∈ requestColumns.map str, IsName column := by
  simp only [userColumns, groupColumns, profileColumns, chatMsgColumns, requestColumns, List.map,
    str_eq_bytes]
  decide +kernel

/-- The text of a call stands for the tokens of its statement. -/
theorem fragment (call : WriteCall) : Fragment call.sql call.statement.tokens := by
  obtain ⟨userTable, chatTable, requestTable⟩ := isName_tables
  obtain ⟨userNames, groupNames, profileNames, chatNames, requestNames⟩ := isName_columns
  have oneBlank : ∀ c ∈ [(32 : UInt8)], c = 32 := by simp
  have userId : IsName (str "f_user_id") := userNames _ (by simp [userColumns])
  have nickname : IsName (str "f_nickname") := userNames _ (by simp [userColumns])
  have username : IsName (str "f_username") := userNames _ (by simp [userColumns])
  have password : IsName (str "f_password") := userNames _ (by simp [userColumns])
  cases call with
  | addUser =>
      rw [sql, addUserSql_eq]
      exact fragment_insertText userTable userNames (by simp)
  | updateUserInfo =>
      rw [sql, updateUserInfoSql_eq]
      exact fragment_updateText userTable profileNames userId
  | modifyUserPassword =>
      rw [sql, modifyUserPasswordSql_eq]
      exact fragment_updateText userTable (by simpa using password) userId
  | addGroup =>
      rw [sql, addGroupSql_eq]
      exact fragment_insertText userTable groupNames oneBlank
  | renameGroup =>
      rw [sql, renameGroupSql_eq]
      exact fragment_updateText userTable (by simpa using And.intro nickname username) userId
  | saveChatMsgToDb =>
      rw [sql, saveChatMsgSql_eq]
      exact fragment_insertText chatTable chatNames oneBlank
  | addFriendRequest =>
      rw [sql, addFriendRequestSql_eq]
      exact fragment_insertText requestTable requestNames oneBlank

/-- These tokens read as that statement and no other. -/
theorem readStatement_tokens (call : WriteCall) :
    readStatement call.statement.tokens = some call.statement := by
  cases call with
  | addUser => exact readStatement_insert (List.cons_ne_nil _ _) rfl
  | updateUserInfo => exact readStatement_update (List.cons_ne_nil _ _)
  | modifyUserPassword => exact readStatement_update (List.cons_ne_nil _ _)
  | addGroup => exact readStatement_insert (List.cons_ne_nil _ _) rfl
  | renameGroup => exact readStatement_update (List.cons_ne_nil _ _)
  | saveChatMsgToDb => exact readStatement_insert (List.cons_ne_nil _ _) rfl
  | addFriendRequest => exact readStatement_insert (List.cons_ne_nil _ _) rfl

/-- Some string of the statement holds a NUL byte. -/
def HoldsNul (call : WriteCall) : Prop :=
  ∃ content, SqlValue.text content ∈ call.statement.values ∧ 0 ∈ content

theorem holdsNul {call : WriteCall} (nul : 0 ∈ call.sql) : call.HoldsNul := by
  obtain ⟨content, isToken, held⟩ := call.fragment.nul nul
  exact ⟨content, SqlStatement.text_mem_tokens isToken, held⟩

/-- What MySQL is given is the statement, or a text that ends inside a literal. -/
theorem scan_sql (call : WriteCall) :
    Sql.scan (cStr call.sql) = if 0 ∈ call.sql then none else some call.statement.tokens :=
  call.fragment.scan_cStr

end WriteCall

end AimServer
