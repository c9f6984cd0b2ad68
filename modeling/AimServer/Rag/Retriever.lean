import AimServer.GoText
import AimServer.Rag.Store
import AimServer.Store.MySql
import Mathlib.Data.List.Sort

/-!
Contract: the incremental index of the retriever.

Owns: the query for the text messages of a user, `EnsureIndexed` with its
batches over the memory store, every call of the embedder on record, and the
machine in which chat rows arrive between calls for any owners.

Does not own: the embedder, and the failures of database and store. Their
outcomes are inputs of a call; a store that fails at a batch writes nothing of
it.
-/

namespace AimServer

open AimServer.Lib

variable {φ : Type}

/-- `t_chatmsg` under `f_id`. -/
abbrev ChatTable := KeyedTable (Int × ChatMsgRow) Prod.fst

structure DbMessage where
  id : Int
  senderID : Int
  targetID : Int
  content : Bytes
  ts : Int
deriving DecidableEq, Repr

/-- `(f_senderid = ? OR f_targetid = ?) AND f_msgtype = 0`. -/
def isTextOf (owner : Int) (row : ChatMsgRow) : Bool :=
  (row.senderid = owner ∨ row.targetid = owner) ∧ row.msgtype = 0

def dbMessage (entry : Int × ChatMsgRow) : DbMessage :=
  ⟨entry.1, entry.2.senderid, entry.2.targetid, entry.2.msgcontent, entry.2.createTime⟩

/-- `ORDER BY f_id DESC`. -/
def latestFirst (rows : List (Int × ChatMsgRow)) : List (Int × ChatMsgRow) :=
  rows.insertionSort fun first second => second.1 ≤ first.1

def loadUserTextMessages (owner : Int) (limit : Nat) (table : ChatTable) : List DbMessage :=
  ((latestFirst (table.rows.filter fun entry => isTextOf owner entry.2)).take limit).map dbMessage

/-- `Retriever` without its database, embedder and store. -/
structure Retriever where
  topK : Nat
  maxCorpus : Nat

/-- `NewRetriever`. -/
def Retriever.new (topK maxCorpus : Int) : Retriever :=
  ⟨if topK ≤ 0 then 8 else topK.toNat, if maxCorpus ≤ 0 then 1000 else maxCorpus.toNat⟩

def embedBatch : Nat := 32

/-- What the outside does in one call: the query, `HasIDs`, and for each batch
the embedder and the store. -/
structure IndexOutcomes (φ : Type) where
  load : Except Bytes Unit
  hasIDs : Except Bytes Unit
  embed : Nat → List Bytes → Except Bytes (List (List φ))
  upsert : Nat → Except Bytes Unit

/-- A call of the embedder, with the store as it is then. -/
structure EmbedCall (φ : Type) where
  ids : List Int
  texts : List Bytes
  store : MemoryStore φ

structure Indexed (φ : Type) where
  result : Except Bytes Unit
  calls : List (EmbedCall φ)
  store : MemoryStore φ

namespace Retriever

def itemOf (owner : Int) (m : DbMessage) (vec : List φ) : Item φ :=
  ⟨m.id, m.content, vec, m.ts, m.senderID = owner⟩

/-- The items of a batch; a message without a vector is skipped. -/
def itemsOf (owner : Int) : List DbMessage → List (List φ) → List (Item φ)
  | [], _ => []
  | _ :: _, [] => []
  | m :: batch, vec :: vecs =>
      if vec.isEmpty then itemsOf owner batch vecs
      else itemOf owner m vec :: itemsOf owner batch vecs

/-- `pending[start:end]` for `start` from 0 in steps of `embedBatch`. -/
def batchesOf : Nat → List DbMessage → List (List DbMessage)
  | 0, _ => []
  | _ + 1, [] => []
  | fuel + 1, m :: pending =>
      (m :: pending).take embedBatch :: batchesOf fuel ((m :: pending).drop embedBatch)

/-- The loop over the batches. -/
def indexBatches (outcomes : IndexOutcomes φ) (owner : Int) :
    Nat → List (List DbMessage) → MemoryStore φ → Indexed φ
  | _, [], store => ⟨.ok (), [], store⟩
  | number, batch :: rest, store =>
      let call : EmbedCall φ := ⟨batch.map DbMessage.id, batch.map DbMessage.content, store⟩
      match outcomes.embed number call.texts with
      | .error message => ⟨.error (str "索引 embedding 失败: " ++ message), [call], store⟩
      | .ok vecs =>
          match outcomes.upsert number with
          | .error message => ⟨.error message, [call], store⟩
          | .ok _ =>
              let later := indexBatches outcomes owner (number + 1) rest
                (store.upsert owner (itemsOf owner batch vecs))
              ⟨later.result, call :: later.calls, later.store⟩

/-- The messages that are asked for with `HasIDs`. -/
def candidates (msgs : List DbMessage) : List DbMessage :=
  msgs.filter fun m => !isBlank m.content

/-- `msgByID`. -/
def byID (msgs : List DbMessage) : GoMap Int DbMessage :=
  msgs.foldl (fun map m => map.insert m.id m) ∅

/-- The candidates that are not there yet, in order, read back from `msgByID`. -/
def pendingOf (msgs : List DbMessage) (existing : GoMap Int Bool) : List DbMessage :=
  (((candidates msgs).map DbMessage.id).filter fun id => !(existing.lookup id).getD false).map
    fun id => ((byID (candidates msgs)).lookup id).getD ⟨0, 0, 0, [], 0⟩

def ensureIndexed (r : Retriever) (outcomes : IndexOutcomes φ) (owner : Int) (table : ChatTable)
    (store : MemoryStore φ) : Indexed φ :=
  match outcomes.load with
  | .error message => ⟨.error message, [], store⟩
  | .ok _ =>
      let msgs := loadUserTextMessages owner r.maxCorpus table
      let candIDs := (candidates msgs).map DbMessage.id
      if candIDs = [] then ⟨.ok (), [], store⟩
      else
        match outcomes.hasIDs with
        | .error message => ⟨.error message, [], store⟩
        | .ok _ =>
            let pending := pendingOf msgs (store.hasIDs owner candIDs)
            if pending = [] then ⟨.ok (), [], store⟩
            else indexBatches outcomes owner 0 (batchesOf pending.length pending) store

end Retriever

/-! ### Rows and calls -/

inductive IndexLabel (φ : Type) where
  | insert (entry : Int × ChatMsgRow)
  | ensureIndexed (owner : Int) (outcomes : IndexOutcomes φ)

structure IndexState (φ : Type) where
  table : ChatTable
  store : MemoryStore φ

namespace IndexState

/-- A row whose id is taken does not get in. -/
def step (r : Retriever) (s : IndexState φ) : IndexLabel φ → IndexState φ
  | .insert entry => { s with table := (s.table.insert entry).getD s.table }
  | .ensureIndexed owner outcomes =>
      { s with store := (r.ensureIndexed outcomes owner s.table s.store).store }

end IndexState

end AimServer
