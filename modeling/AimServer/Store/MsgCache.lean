import AimServer.Store.UserManager

/-!
Contract: `MsgCacheManager`, the offline message table.

Owns: storing one serialised container per call and the fetch that returns a
user's containers of one kind in insertion order and deletes them.

A blob is written as an `X'..'` literal of `ToHex` and read back through
`HEX(f_content)` and `FromHex`; MySQL stores the bytes themselves.
-/

namespace AimServer

open AimServer.Lib

/-- `f_msgtype` of `t_offline_msg`. -/
inductive OfflineKind where
  | notify
  | chat
deriving DecidableEq, Repr

def OfflineKind.code : OfflineKind → Int
  | .notify => 0
  | .chat => 1

namespace Store

/-- `InsertOfflineMsg`, for both `AddNotifyMsgCache` and `AddChatMsgCache`. -/
def insertOfflineMsg (kind : OfflineKind) (userid : Int) (blob : Bytes) (s : Store) :
    Bool × Store :=
  s.execute (.insertOfflineMsg ⟨userid, kind.code, fromHex (toHex blob)⟩)

def addNotifyMsgCache (userid : Int) (cache : Bytes) (s : Store) : Bool × Store :=
  s.insertOfflineMsg .notify userid cache

def addChatMsgCache (userid : Int) (cache : Bytes) (s : Store) : Bool × Store :=
  s.insertOfflineMsg .chat userid cache

/-- `FetchAndDeleteOfflineMsg`: the blobs, and a `DELETE` whose outcome is
ignored when there was any. -/
def fetchAndDeleteOfflineMsg (kind : OfflineKind) (userid : Int) (s : Store) :
    List Bytes × Store :=
  match s.query fun t =>
      (t.offlineMsgs.filter fun row => row.userid = userid ∧ row.msgtype = kind.code).map
        fun row => fromHex (toHex row.content) with
  | (none, s) => ([], s)
  | (some [], s) => ([], s)
  | (some (blob :: rest), s) =>
      (blob :: rest, (s.execute (.deleteOfflineMsg userid kind.code)).2)

/-- A transitive relation that every query and this `DELETE` keep to holds over the
fetch. -/
theorem fetchAndDeleteOfflineMsg_relates (related : Store → Store → Prop)
    (trans : ∀ {s middle next}, related s middle → related middle next → related s next)
    (queries : ∀ s : Store, related s { s with db := s.db.advance })
    {kind : OfflineKind} {userid : Int}
    (deletes : ∀ s : Store, related s (s.execute (.deleteOfflineMsg userid kind.code)).2)
    (s : Store) : related s (s.fetchAndDeleteOfflineMsg kind userid).2 := by
  have queried : ∀ {select : Tables → List Bytes} {answer : Option (List Bytes)} {after : Store},
      s.query select = (answer, after) → related s after := by
    intro select answer after isQuery
    have advanced := congrArg Prod.snd isQuery
    simp only [query, MySql.query_snd] at advanced
    rw [← advanced]
    exact queries s
  unfold fetchAndDeleteOfflineMsg
  split
  · rename_i looked
    exact queried looked
  · rename_i looked
    exact queried looked
  · rename_i looked
    exact trans (queried looked) (deletes _)

def getNotifyMsgCache (userid : Int) (s : Store) : List Bytes × Store :=
  s.fetchAndDeleteOfflineMsg .notify userid

def getChatMsgCache (userid : Int) (s : Store) : List Bytes × Store :=
  s.fetchAndDeleteOfflineMsg .chat userid

end Store

end AimServer
