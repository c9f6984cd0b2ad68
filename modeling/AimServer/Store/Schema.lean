import AimServer.Store.OfflineQueue

/-!
Contract: the tables the server declares and brings up to date when it starts.

Owns: `sFieldInfo` and `sTableInfo`, the tables of `MySqlManager`, the loop over
the rows of `desc`, the statements of `CheckTable` and `CreateTable` in the order
they are issued in, and which of them are issued when one is refused.

Does not own: the connection. Its answer to `desc` and to each statement is an
argument.

A `std::map` runs in the order of its keys, byte by byte.
-/

namespace AimServer

/-- `sFieldInfo`: the text of a column in a statement is `sType`; `sDesc` is its
type as `desc` lists it. -/
structure FieldInfo where
  sName : Bytes
  sType : Bytes
  sDesc : Bytes
deriving DecidableEq, Repr

/-- `map<string, sFieldInfo>`. -/
abbrev FieldMap := Std.ExtTreeMap Bytes FieldInfo

/-- `sTableInfo`. -/
structure TableInfo where
  sName : Bytes
  mapField : FieldMap
  sKey : Bytes

/-- `sFieldInfo(name, tp, desc)` under its name. -/
def fieldInfo (name tp desc : String) : Bytes × FieldInfo :=
  (str name, ⟨str name, str tp, str desc⟩)

def tableInfo (name : String) (fields : List (Bytes × FieldInfo)) (key : String) : TableInfo :=
  ⟨str name, Std.ExtTreeMap.ofList fields, str key⟩

/-- A row of `desc`, as far as it is read. -/
structure DescRow where
  name : Bytes
  type : Bytes
deriving DecidableEq, Repr

/-- A statement with the key and the field it is made from. -/
inductive SchemaStmt where
  | addColumn (column : Bytes × FieldInfo)
  | modifyColumn (column : Bytes × FieldInfo)
  | createTable
deriving DecidableEq, Repr

namespace TableInfo

/-- The SQL of a statement. -/
def text (info : TableInfo) : SchemaStmt → Bytes
  | .addColumn column =>
      str "alter table " ++ info.sName ++ str " add column " ++ column.2.sName ++ str " " ++
        column.2.sType ++ str ";"
  | .modifyColumn column =>
      str "alter table " ++ info.sName ++ str " modify column " ++ column.2.sName ++ str " " ++
        column.2.sType ++ str ";"
  | .createTable =>
      str "create table if not exists " ++ info.sName ++ str "(" ++
        (str ",").intercalate (info.mapField.toList.map fun column =>
          column.2.sName ++ str " " ++ column.2.sType) ++
        (if info.sKey = [] then [] else str "," ++ info.sKey) ++
        str ") default charset=utf8mb4,ENGINE=InnoDB;"

end TableInfo

/-- What the connection says to `desc`, and to the statements one after another. -/
structure SchemaAnswers where
  desc : Option (List DescRow)
  granted : Nat → Bool

/-- Statements up to the first one that is refused. -/
def executeAll (granted : Nat → Bool) : List SchemaStmt → Bool × List SchemaStmt
  | [] => (true, [])
  | stmt :: rest =>
      if granted 0 then (executeAll (fun i => granted (i + 1)) rest).map id (stmt :: ·)
      else (false, [stmt])

namespace QueryResult

variable {ρ β : Type}

/-- A loop over the rows: it ends when `Fetch` gives no row or `NextRow` finds
none. -/
def foldRows (body : β → ρ → β) (state : β) (result : QueryResult ρ) : β :=
  match result.fetch with
  | none => state
  | some row =>
      match _moved : result.nextRow with
      | (false, _) => body state row
      | (true, next) => foldRows body (body state row) next
termination_by result.unread.length
decreasing_by
  exact nextRow_shrinks _moved

theorem foldRows_ofRows (body : β → ρ → β) (rows : List ρ) (state : β) :
    foldRows body state (ofRows rows) = rows.foldl body state := by
  induction rows generalizing state with
  | nil =>
      unfold foldRows
      rfl
  | cons row rest inductionHypothesis =>
      unfold foldRows
      cases rest with
      | nil => rfl
      | cons second others => exact inductionHypothesis (body state row)

end QueryResult

/-- `rest` and `mapChange`. -/
structure SchemaCheck where
  rest : FieldMap
  mapChange : FieldMap

/-- One row of `desc`. -/
def SchemaCheck.readRow (mapField : FieldMap) (check : SchemaCheck) (row : DescRow) :
    SchemaCheck :=
  match mapField[row.name]? with
  | none => check
  | some field =>
      { rest := check.rest.erase row.name
        mapChange :=
          if field.sType ≠ row.type then check.mapChange.insertIfNew row.name field
          else check.mapChange }

namespace TableInfo

variable (info : TableInfo)

def createTable (granted : Nat → Bool) : Bool × List SchemaStmt :=
  if info.mapField.size = 0 then (false, []) else executeAll granted [.createTable]

/-- `CheckTable`; without an answer there is no connection. The outcome of a
`CreateTable` is its own. -/
def checkTable : Option SchemaAnswers → Bool × List SchemaStmt
  | none => (false, [])
  | some ⟨none, granted⟩ => info.createTable granted
  | some ⟨some rows, granted⟩ =>
      let check := (QueryResult.ofRows rows).foldRows
        (SchemaCheck.readRow info.mapField) ⟨info.mapField, ∅⟩
      let (added, adds) := executeAll granted (check.rest.toList.map .addColumn)
      if added then
        (executeAll (fun i => granted (i + adds.length))
          (check.mapChange.toList.map .modifyColumn)).map id (adds ++ ·)
      else (false, adds)

end TableInfo

/-! ### The tables of `MySqlManager` -/

namespace MySqlManager

def user : TableInfo :=
  tableInfo "t_user" [
    fieldInfo "f_id" "bigint(20) NOT NULL AUTO_INCREMENT COMMENT '自增ID'" "bigint(20)",
    fieldInfo "f_user_id" "bigint(20) NOT NULL COMMENT '用户ID'" "bigint(20)",
    fieldInfo "f_username" "varchar(64) NOT NULL COMMENT '用户名'" "varchar(64)",
    fieldInfo "f_nickname" "varchar(64) NOT NULL COMMENT '用户昵称'" "varchar(64)",
    fieldInfo "f_password" "varchar(128) NOT NULL COMMENT '用户密码'" "varchar(128)",
    fieldInfo "f_facetype" "int(10) DEFAULT 0 COMMENT '用户头像类型'" "int(10)",
    fieldInfo "f_customface" "varchar(255) DEFAULT NULL COMMENT '自定义头像URL'" "varchar(255)",
    fieldInfo "f_customfacefmt" "varchar(6) DEFAULT NULL COMMENT '自定义头像格式'" "varchar(6)",
    fieldInfo "f_gender" "int(2)  DEFAULT 0 COMMENT '性别'" "int(2)",
    fieldInfo "f_birthday" "bigint(20)  DEFAULT 19900101 COMMENT '生日'" "bigint(20)",
    fieldInfo "f_signature" "varchar(256) DEFAULT NULL COMMENT '地址'" "varchar(256)",
    fieldInfo "f_address" "varchar(256) DEFAULT NULL COMMENT '地址'" "varchar(256)",
    fieldInfo "f_phonenumber" "varchar(64) DEFAULT NULL COMMENT '电话'" "varchar(64)",
    fieldInfo "f_mail" "varchar(256) DEFAULT NULL COMMENT '邮箱'" "varchar(256)",
    fieldInfo "f_owner_id" "bigint(20) DEFAULT 0 COMMENT '群账号群主userid'" "bigint(20)",
    fieldInfo "f_register_time" "datetime NOT NULL COMMENT '注册时间'" "datetime",
    fieldInfo "f_remark" "varchar(64) NULL COMMENT '备注'" "varchar(64)",
    fieldInfo "f_update_time"
      "timestamp NOT NULL DEFAULT CURRENT_TIMESTAMP ON UPDATE CURRENT_TIMESTAMP COMMENT '更新时间'"
      "timestamp"]
    "PRIMARY KEY (f_user_id), INDEX f_user_id (f_user_id), KEY  f_id  ( f_id )"

def chatmsg : TableInfo :=
  tableInfo "t_chatmsg" [
    fieldInfo "f_id" "bigint(20) NOT NULL AUTO_INCREMENT COMMENT '自增ID'" "bigint(20)",
    fieldInfo "f_senderid" "bigint(20) NOT NULL COMMENT '发送者id'" "bigint(20)",
    fieldInfo "f_targetid" "bigint(20) NOT NULL COMMENT '接收者id'" "bigint(20)",
    fieldInfo "f_msgcontent" "blob NOT NULL COMMENT '聊天内容/媒体附带文字'" "blob",
    fieldInfo "f_msgtype" "int(2) NOT NULL DEFAULT 0 COMMENT '0文本 1语音 2视频 3图片 4文件'" "int(2)",
    fieldInfo "f_media_url" "varchar(512) DEFAULT NULL COMMENT '媒体文件URL'" "varchar(512)",
    fieldInfo "f_duration" "int(11) NOT NULL DEFAULT 0 COMMENT '语音/视频时长(秒)'" "int(11)",
    fieldInfo "f_thumb_url" "varchar(512) DEFAULT NULL COMMENT '视频缩略图URL'" "varchar(512)",
    fieldInfo "f_filesize" "bigint(20) NOT NULL DEFAULT 0 COMMENT '文件字节数'" "bigint(20)",
    fieldInfo "f_filename" "varchar(256) DEFAULT NULL COMMENT '原始文件名'" "varchar(256)",
    fieldInfo "f_create_time"
      "timestamp NOT NULL DEFAULT CURRENT_TIMESTAMP ON UPDATE CURRENT_TIMESTAMP COMMENT '更新时间'"
      "timestamp",
    fieldInfo "f_remark" "varchar(64) NULL COMMENT '备注'" "varchar(64)"]
    "PRIMARY KEY (f_id), INDEX f_id (f_id)"

def userRelationship : TableInfo :=
  tableInfo "t_user_relationship" [
    fieldInfo "f_id" "bigint(20) NOT NULL AUTO_INCREMENT COMMENT '自增ID'" "bigint(20)",
    fieldInfo "f_user_id1" "bigint(20) NOT NULL COMMENT '用户ID'" "bigint(20)",
    fieldInfo "f_user_id2" "bigint(20) NOT NULL COMMENT '用户ID'" "bigint(20)",
    fieldInfo "f_remark" "varchar(64) NULL COMMENT '备注'" "varchar(64)",
    fieldInfo "f_create_time"
      "timestamp NOT NULL DEFAULT CURRENT_TIMESTAMP ON UPDATE CURRENT_TIMESTAMP COMMENT '更新时间'"
      "timestamp"]
    "PRIMARY KEY (f_id), INDEX f_id (f_id)"

def offlineMsg : TableInfo :=
  tableInfo "t_offline_msg" [
    fieldInfo "f_id" "bigint(20) NOT NULL AUTO_INCREMENT COMMENT '自增ID'" "bigint(20)",
    fieldInfo "f_userid" "bigint(20) NOT NULL COMMENT '接收者id'" "bigint(20)",
    fieldInfo "f_msgtype" "int(2) NOT NULL DEFAULT 1 COMMENT '0=通知 1=聊天'" "int(2)",
    fieldInfo "f_content" "blob NOT NULL COMMENT '序列化的MessageContainer'" "blob",
    fieldInfo "f_create_time"
      "timestamp NOT NULL DEFAULT CURRENT_TIMESTAMP COMMENT '创建时间'" "timestamp"]
    "PRIMARY KEY (f_id), INDEX f_userid (f_userid)"

def friendRequest : TableInfo :=
  tableInfo "t_friend_request" [
    fieldInfo "f_id" "bigint(20) NOT NULL AUTO_INCREMENT COMMENT '请求ID'" "bigint(20)",
    fieldInfo "f_from_id" "bigint(20) NOT NULL COMMENT '发起者id'" "bigint(20)",
    fieldInfo "f_to_id" "bigint(20) NOT NULL COMMENT '接收者id'" "bigint(20)",
    fieldInfo "f_reqtype" "int(2) NOT NULL DEFAULT 1 COMMENT '1=好友 2=入群'" "int(2)",
    fieldInfo "f_group_id" "bigint(20) DEFAULT 0 COMMENT '入群请求的群ID'" "bigint(20)",
    fieldInfo "f_message" "varchar(256) DEFAULT NULL COMMENT '验证留言'" "varchar(256)",
    fieldInfo "f_status" "int(2) NOT NULL DEFAULT 0 COMMENT '0=待处理 1=接受 2=拒绝'" "int(2)",
    fieldInfo "f_create_time"
      "timestamp NOT NULL DEFAULT CURRENT_TIMESTAMP COMMENT '创建时间'" "timestamp"]
    "PRIMARY KEY (f_id), INDEX f_to_id (f_to_id)"

def groupAdmin : TableInfo :=
  tableInfo "t_group_admin" [
    fieldInfo "f_id" "bigint(20) NOT NULL AUTO_INCREMENT COMMENT '自增ID'" "bigint(20)",
    fieldInfo "f_group_id" "bigint(20) NOT NULL COMMENT '群ID'" "bigint(20)",
    fieldInfo "f_user_id" "bigint(20) NOT NULL COMMENT '管理员用户ID'" "bigint(20)",
    fieldInfo "f_create_time"
      "timestamp NOT NULL DEFAULT CURRENT_TIMESTAMP COMMENT '创建时间'" "timestamp"]
    "PRIMARY KEY (f_id), INDEX f_group_id (f_group_id)"

/-- `m_mapTable`. -/
def mapTable : List TableInfo :=
  [user, chatmsg, userRelationship, offlineMsg, friendRequest, groupAdmin]

end MySqlManager

end AimServer
