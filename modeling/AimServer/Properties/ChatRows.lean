import AimServer.Persist.WriteCalls

/-!
Contract: the asynchronous and the synchronous row of a chat message.

Owns: the theorem that the two agree exactly on the messages without NUL
bytes, and what the SQL text reads as on both sides of that condition.

The escaped text reads back as the message, whatever its quotes and
backslashes. A NUL byte ends the C string inside a literal, so MySQL sees a
literal that is never closed.
-/

namespace AimServer

open AimServer.Lib
open AimServer.Lib.Sql (Token)

/-- None of the four strings holds a NUL byte. -/
def ChatMsg.NulFree (msg : ChatMsg) : Prop :=
  0 ∉ msg.content ∧ 0 ∉ msg.mediaUrl ∧ 0 ∉ msg.thumbUrl ∧ 0 ∉ msg.fileName

/-- The values fit the C++ types of the fields. -/
structure ChatMsg.Fits (senderid targetid : Int) (msg : ChatMsg) : Prop where
  senderid : -(2 ^ 31) ≤ senderid ∧ senderid < 2 ^ 31
  targetid : -(2 ^ 31) ≤ targetid ∧ targetid < 2 ^ 31
  msgType : -(2 ^ 31) ≤ msg.msgType ∧ msg.msgType < 2 ^ 31
  duration : -(2 ^ 31) ≤ msg.duration ∧ msg.duration < 2 ^ 31
  fileSize : -(2 ^ 63) ≤ msg.fileSize ∧ msg.fileSize < 2 ^ 63
  timestamp : -(2 ^ 63) ≤ msg.timestamp ∧ msg.timestamp < 2 ^ 63

/-! ### What the SQL text reads as -/

/-- The values of a row are read one by one up to the closing bracket. -/
theorem readValues_tokens {values : List SqlValue} (nonempty : values ≠ []) :
    readValues values.length (listTokens (values.map SqlValue.tokens) ++ [.symbol 41]) =
      some values := by
  induction values with
  | nil => exact absurd rfl nonempty
  | cons value values inductionHypothesis =>
      cases values with
      | nil =>
          have last : listTokens ([value].map SqlValue.tokens) ++ [.symbol 41] =
              value.tokens ++ [.symbol 41] := by
            simp [listTokens]
          rw [last, List.length_singleton, readValues,
            readValue_tokens value (endsList_close []).noBracket]
          rfl
      | cons next more =>
          have comma : listTokens ((value :: next :: more).map SqlValue.tokens) ++ [.symbol 41] =
              value.tokens ++ .symbol 44 ::
                (listTokens ((next :: more).map SqlValue.tokens) ++ [.symbol 41]) := by
            simp [listTokens]
          have noBracket : NoBracket (.symbol 44 ::
              (listTokens ((next :: more).map SqlValue.tokens) ++ [.symbol 41])) := by
            intro after same
            cases same
          have others := inductionHypothesis (List.cons_ne_nil next more)
          rw [comma, List.length_cons, readValues, readValue_tokens value noBracket]
          simp only [others, Option.map_some]

theorem readInsertChatMsg_head (rest : List Token) :
    readInsertChatMsg (chatMsgHeadTokens ++ rest) = readValues 10 rest := by
  rw [readInsertChatMsg, if_pos (List.prefix_append _ _), List.drop_left]
  rfl

section Rows

variable {json : JsonText} {senderid targetid now : Int} {msg : ChatMsg}

/-- The statement of the call reads as the row of the message. -/
theorem readInsertChatMsg_statement :
    (readInsertChatMsg (WriteCall.saveChatMsgToDb senderid targetid msg).statement.tokens).bind
      (chatMsgRow now) = some (Store.chatRow senderid targetid msg now) := by
  have head : (WriteCall.saveChatMsgToDb senderid targetid msg).statement.tokens =
      chatMsgHeadTokens ++
        (listTokens ((chatMsgValues senderid targetid msg).map SqlValue.tokens) ++
          [.symbol 41]) := rfl
  have values : readValues 10
      (listTokens ((chatMsgValues senderid targetid msg).map SqlValue.tokens) ++ [.symbol 41]) =
        some (chatMsgValues senderid targetid msg) :=
    readValues_tokens (List.cons_ne_nil _ _)
  rw [head, readInsertChatMsg_head, values, Option.bind_some, chatMsgRow_chatMsgValues]

/-- A NUL byte of the text is one of the message. -/
theorem nul_mem_saveChatMsgSql :
    0 ∈ (WriteCall.saveChatMsgToDb senderid targetid msg).sql ↔ ¬ msg.NulFree := by
  constructor
  · intro member nulFree
    obtain ⟨content, isValue, held⟩ := WriteCall.holdsNul member
    have oneOfFour : content = msg.content ∨ content = msg.mediaUrl ∨ content = msg.thumbUrl ∨
        content = msg.fileName := by
      simp only [WriteCall.statement, SqlStatement.values, chatMsgValues] at isValue
      split at isValue <;> simpa using isValue
    obtain ⟨inContent, inMediaUrl, inThumbUrl, inFileName⟩ := nulFree
    rcases oneOfFour with rfl | rfl | rfl | rfl
    · exact inContent held
    · exact inMediaUrl held
    · exact inThumbUrl held
    · exact inFileName held
  · intro nul
    by_contra absent
    have kept : ∀ text, 0 ∉ escapeSqlString text → 0 ∉ text := by
      intro text noNul inText
      exact noNul (Sql.nul_mem_flatMap_escapeByte.mpr inText)
    simp only [WriteCall.sql, saveChatMsgSql, columnPairSql, List.mem_append, not_or] at absent
    apply nul
    refine ⟨kept _ ?_, kept _ ?_, kept _ ?_, kept _ ?_⟩
    all_goals tauto

/-- Without NUL bytes the synchronous path writes the message as it is. -/
theorem syncRow_of_nulFree (nulFree : msg.NulFree) :
    syncRow senderid targetid msg now = some (Store.chatRow senderid targetid msg now) := by
  have scanned := (WriteCall.saveChatMsgToDb senderid targetid msg).scan_sql
  rw [if_neg fun member => nul_mem_saveChatMsgSql.mp member nulFree] at scanned
  unfold syncRow mysqlQuery
  rw [← WriteCall.sql, scanned, Option.bind_some, readInsertChatMsg_statement]

/-- With a NUL byte the synchronous path writes nothing. -/
theorem syncRow_of_nul (nul : ¬ msg.NulFree) : syncRow senderid targetid msg now = none := by
  have scanned := (WriteCall.saveChatMsgToDb senderid targetid msg).scan_sql
  rw [if_pos (nul_mem_saveChatMsgSql.mpr nul)] at scanned
  unfold syncRow mysqlQuery
  rw [← WriteCall.sql, scanned]
  rfl

/-- The decoded event is the published one. -/
theorem ofJson_chatJson (fits : msg.Fits senderid targetid) :
    ChatEvent.ofJson (chatJson senderid targetid msg) = some (chatEvent senderid targetid msg) := by
  have sender : intMember 32 "senderid" (chatJson senderid targetid msg) = some senderid :=
    if_pos fits.senderid
  have target : intMember 32 "targetid" (chatJson senderid targetid msg) = some targetid :=
    if_pos fits.targetid
  have msgType : intMember 32 "msgtype" (chatJson senderid targetid msg) = some msg.msgType :=
    if_pos fits.msgType
  have duration : intMember 32 "duration" (chatJson senderid targetid msg) = some msg.duration :=
    if_pos fits.duration
  have fileSize : intMember 64 "filesize" (chatJson senderid targetid msg) = some msg.fileSize :=
    if_pos fits.fileSize
  have timestamp : intMember 64 "timestamp" (chatJson senderid targetid msg) =
      some msg.timestamp := if_pos fits.timestamp
  unfold ChatEvent.ofJson
  rw [sender, target, msgType, duration, fileSize, timestamp]
  rfl

/-- Where the JSON libraries carry the event over, the asynchronous path writes
the message as it is. -/
theorem asyncRow_eq (fits : msg.Fits senderid targetid)
    (roundTrip : json.parse (json.writeString (chatJson senderid targetid msg)) =
      some (chatJson senderid targetid msg)) :
    asyncRow json senderid targetid msg now = some (Store.chatRow senderid targetid msg now) := by
  unfold asyncRow
  rw [roundTrip, Option.bind_some, ofJson_chatJson fits]
  rfl

/-- The two paths write the same row exactly when no string of the message holds
a NUL byte. -/
theorem persisted_rows_agree_iff (fits : msg.Fits senderid targetid)
    (roundTrip : json.parse (json.writeString (chatJson senderid targetid msg)) =
      some (chatJson senderid targetid msg)) :
    asyncRow json senderid targetid msg now = syncRow senderid targetid msg now ↔ msg.NulFree := by
  rw [asyncRow_eq fits roundTrip]
  by_cases nulFree : msg.NulFree
  · rw [syncRow_of_nulFree nulFree]
    exact iff_of_true rfl nulFree
  · rw [syncRow_of_nul nulFree]
    exact iff_of_false (by simp) nulFree

end Rows

/-! ### Two messages -/

namespace ChatSample

/-- A member as jsoncpp writes it, for strings that need no other escape than
that of NUL. -/
def memberText (entry : String × JsonValue) : Bytes :=
  [34] ++ str entry.1 ++ [34, 58] ++
    match entry.2 with
    | .int value => intText value
    | .string text =>
        [34] ++ text.flatMap (fun c => if c = 0 then str "\\u0000" else [c]) ++ [34]

/-- The object without indentation, its members sorted by name. -/
def objectText (object : JsonObject) : Bytes :=
  [123] ++ [44].intercalate
    ((object.insertionSort fun first second => first.1 ≤ second.1).map memberText) ++ [125]

/-- The libraries on the text of one object. -/
def json (object : JsonObject) : JsonText where
  writeString := objectText
  parse text := if text = objectText object then some object else none

theorem json_roundTrip (object : JsonObject) :
    (json object).parse ((json object).writeString object) = some object :=
  if_pos rfl

def quoted : ChatMsg :=
  { ChatMsg.empty with content := str "it's", timestamp := 1700000000, duration := -1 }

def withNul : ChatMsg :=
  { ChatMsg.empty with content := [65, 0, 66], timestamp := 1700000000 }

theorem fits_quoted : quoted.Fits 1 2 := by
  constructor <;> decide

theorem fits_withNul : withNul.Fits 1 2 := by
  constructor <;> decide

end ChatSample

/-- A quote is no obstacle. -/
theorem persisted_rows_agree_quoted :
    ChatSample.quoted.Fits 1 2 ∧ ChatSample.quoted.NulFree ∧
      asyncRow (ChatSample.json (chatJson 1 2 ChatSample.quoted)) 1 2 ChatSample.quoted 0 =
        syncRow 1 2 ChatSample.quoted 0 := by
  have nulFree : ChatSample.quoted.NulFree := by
    refine ⟨?_, ?_, ?_, ?_⟩ <;> decide
  exact ⟨ChatSample.fits_quoted, nulFree,
    (persisted_rows_agree_iff ChatSample.fits_quoted (ChatSample.json_roundTrip _)).mpr nulFree⟩

/-- A NUL byte is: the synchronous path writes no row. -/
theorem persisted_rows_differ :
    ¬ ∀ (json : JsonText) (senderid targetid : Int) (msg : ChatMsg) (now : Int),
      msg.Fits senderid targetid →
      json.parse (json.writeString (chatJson senderid targetid msg)) =
        some (chatJson senderid targetid msg) →
      asyncRow json senderid targetid msg now = syncRow senderid targetid msg now := by
  intro agree
  have nul : ¬ ChatSample.withNul.NulFree := by
    intro nulFree
    exact absurd nulFree.1 (by decide)
  have same := agree (ChatSample.json (chatJson 1 2 ChatSample.withNul)) 1 2 ChatSample.withNul 0
    ChatSample.fits_withNul (ChatSample.json_roundTrip _)
  rw [asyncRow_eq ChatSample.fits_withNul (ChatSample.json_roundTrip _), syncRow_of_nul nul] at same
  cases same

end AimServer
