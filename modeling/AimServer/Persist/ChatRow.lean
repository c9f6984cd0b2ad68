import AimServer.Session.Chat
import AimServer.Lib.SqlText

/-!
Contract: the two ways in which a chat message becomes a row of `t_chatmsg`.

Owns: the SQL text of `SaveChatMsgToDb` and how MySQL reads it, the JSON
object `OnChatResponse` publishes, and the `ChatEvent` the persister decodes
from it.

Does not own: the JSON libraries. Their writer and reader are parameters.

`Execute` passes the text to `mysql_query` as a C string.
-/

namespace AimServer

open AimServer.Lib
open AimServer.Lib.Sql (Token Scanner)

/-! ### The statement of `SaveChatMsgToDb` -/

/-- `EscapeSqlString`: backslashes and quotes are doubled. -/
def escapeSqlString (text : Bytes) : Bytes :=
  text.flatMap fun c => if c = 92 then [92, 92] else if c = 39 then [39, 39] else [c]

def chatMsgColumns : List String :=
  ["f_senderid", "f_targetid", "f_msgcontent", "f_msgtype", "f_media_url", "f_duration",
    "f_thumb_url", "f_filesize", "f_filename", "f_create_time"]

/-- The text of `SaveChatMsgToDb` up to the values. -/
def chatMsgHead : Bytes :=
  str "INSERT INTO t_chatmsg (f_senderid, f_targetid, f_msgcontent, f_msgtype, " ++
    str "f_media_url, f_duration, f_thumb_url, f_filesize, f_filename, f_create_time) VALUES ("

/-- The text of `f_create_time` with the two closing brackets. -/
def createTimeSql (timestamp : Int) : Bytes :=
  if timestamp > 0 then str "FROM_UNIXTIME(" ++ intText timestamp ++ str "))" else str "NOW())"

/-- The values up to the quote that opens `f_msgcontent`. -/
def partiesSql (senderid targetid : Int) : Bytes :=
  chatMsgHead ++ intText senderid ++ str ", " ++ intText targetid ++ str ", '"

/-- A string column, the integer column behind it, and the next opening quote. -/
def columnPairSql (text : Bytes) (number : Int) : Bytes :=
  escapeSqlString text ++ str "', " ++ intText number ++ str ", '"

def saveChatMsgSql (senderid targetid : Int) (msg : ChatMsg) : Bytes :=
  partiesSql senderid targetid ++ columnPairSql msg.content msg.msgType ++
    columnPairSql msg.mediaUrl msg.duration ++ columnPairSql msg.thumbUrl msg.fileSize ++
    escapeSqlString msg.fileName ++ str "', " ++ createTimeSql msg.timestamp

/-! ### How MySQL reads it -/

inductive SqlValue where
  | int (value : Int)
  | text (content : Bytes)
  | fromUnixTime (seconds : Int)
  | now
deriving DecidableEq, Repr

def isNumeral (word : Bytes) : Bool :=
  word ≠ [] ∧ word.all isDigit

/-- A number with an optional sign. -/
def readNumber : List Token → Option (Int × List Token)
  | .word digits :: rest => if isNumeral digits then some (decimalValue digits, rest) else none
  | .symbol 45 :: .word digits :: rest =>
      if isNumeral digits then some (-(decimalValue digits : Int), rest) else none
  | _ => none

def readValue : List Token → Option (SqlValue × List Token)
  | .text content :: rest => some (.text content, rest)
  | .word name :: .symbol 40 :: rest =>
      if name = str "NOW" then
        match rest with
        | .symbol 41 :: rest => some (.now, rest)
        | _ => none
      else if name = str "FROM_UNIXTIME" then
        match readNumber rest with
        | some (seconds, .symbol 41 :: rest) => some (.fromUnixTime seconds, rest)
        | _ => none
      else none
  | tokens => (readNumber tokens).map fun (value, rest) => (.int value, rest)

/-- The values of a row with this many columns, up to the closing bracket. -/
def readValues : Nat → List Token → Option (List SqlValue)
  | 0, _ => none
  | columns + 1, tokens =>
      match readValue tokens with
      | some (value, .symbol 44 :: rest) => (readValues columns rest).map (value :: ·)
      | some (value, [.symbol 41]) => if columns = 0 then some [value] else none
      | _ => none

/-- `INSERT INTO t_chatmsg (..) VALUES (`. -/
def chatMsgHeadTokens : List Token :=
  [.word (str "INSERT"), .word (str "INTO"), .word (str "t_chatmsg"), .symbol 40] ++
    (chatMsgColumns.map fun column => Token.word (str column)).intersperse (.symbol 44) ++
    [.symbol 41, .word (str "VALUES"), .symbol 40]

def readInsertChatMsg (tokens : List Token) : Option (List SqlValue) :=
  if chatMsgHeadTokens <+: tokens then
    readValues chatMsgColumns.length (tokens.drop chatMsgHeadTokens.length)
  else none

/-- The time `UNIX_TIMESTAMP` reads back from `f_create_time`. -/
def SqlValue.unixTime (now : Int) : SqlValue → Option Int
  | .fromUnixTime seconds => some seconds
  | .now => some now
  | _ => none

/-- The row of ten values. -/
def chatMsgRow (now : Int) : List SqlValue → Option ChatMsgRow
  | [.int senderid, .int targetid, .text content, .int msgtype, .text mediaUrl, .int duration,
      .text thumbUrl, .int filesize, .text filename, time] =>
      (time.unixTime now).map fun createTime =>
        ⟨senderid, targetid, content, msgtype, mediaUrl, duration, thumbUrl, filesize, filename,
          createTime⟩
  | _ => none

/-- `mysql_query`: the row an `INSERT INTO t_chatmsg` writes, or `none` when the
text up to its first NUL is no such statement. -/
def mysqlQuery (sql : Bytes) (now : Int) : Option ChatMsgRow :=
  (Sql.scan (cStr sql)).bind fun tokens => (readInsertChatMsg tokens).bind (chatMsgRow now)

/-- The row of the synchronous path. -/
def syncRow (senderid targetid : Int) (msg : ChatMsg) (now : Int) : Option ChatMsgRow :=
  mysqlQuery (saveChatMsgSql senderid targetid msg) now

/-! ### The published event -/

inductive JsonValue where
  | int (value : Int)
  | string (text : Bytes)
deriving DecidableEq, Repr

abbrev JsonObject := List (String × JsonValue)

/-- The object `OnChatResponse` builds. -/
def chatJson (senderid targetid : Int) (msg : ChatMsg) : JsonObject :=
  [("senderid", .int senderid), ("targetid", .int targetid), ("msgtype", .int msg.msgType),
    ("duration", .int msg.duration), ("filesize", .int msg.fileSize),
    ("timestamp", .int msg.timestamp), ("content", .string msg.content),
    ("media_url", .string msg.mediaUrl), ("thumb_url", .string msg.thumbUrl),
    ("filename", .string msg.fileName)]

/-- `Json::writeString` and the parser of `json.Unmarshal`. -/
structure JsonText where
  writeString : JsonObject → Bytes
  parse : Bytes → Option JsonObject

/-- `json.Unmarshal` of a member into an integer field of this width. A missing
member leaves the field zero; a number out of range is an error. -/
def intMember (width : Nat) (key : String) (object : JsonObject) : Option Int :=
  match object.lookup key with
  | none => some 0
  | some (.int value) =>
      if -(2 ^ (width - 1)) ≤ value ∧ value < 2 ^ (width - 1) then some value else none
  | some (.string _) => none

def stringMember (key : String) (object : JsonObject) : Option Bytes :=
  match object.lookup key with
  | none => some []
  | some (.string text) => some text
  | some (.int _) => none

/-- `json.Unmarshal` into a `ChatEvent`. -/
def ChatEvent.ofJson (object : JsonObject) : Option ChatEvent := do
  let senderid ← intMember 32 "senderid" object
  let targetid ← intMember 32 "targetid" object
  let content ← stringMember "content" object
  let msgtype ← intMember 32 "msgtype" object
  let mediaUrl ← stringMember "media_url" object
  let duration ← intMember 32 "duration" object
  let thumbUrl ← stringMember "thumb_url" object
  let filesize ← intMember 64 "filesize" object
  let filename ← stringMember "filename" object
  let timestamp ← intMember 64 "timestamp" object
  return ⟨senderid, targetid, content, msgtype, mediaUrl, duration, thumbUrl, filesize, filename,
    timestamp⟩

/-- The row of the asynchronous path: publish, decode, `save`. -/
def asyncRow (json : JsonText) (senderid targetid : Int) (msg : ChatMsg) (now : Int) :
    Option ChatMsgRow :=
  ((json.parse (json.writeString (chatJson senderid targetid msg))).bind ChatEvent.ofJson).map
    fun event => event.savedRow now

end AimServer
