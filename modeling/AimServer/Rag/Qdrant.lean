import AimServer.Lib.Md5
import AimServer.Lib.TopK
import AimServer.Rag.Store

/-!
Contract: the vector store of the retriever over a Qdrant server.

Owns: `pointID`, the requests of `QdrantStore`, an idealised server that
answers them, and `TopK` of both stores as the results they may return.

Does not own: HTTP. A request reaches the server and its JSON body and answer
come through unchanged, so an answer is a value here.

The server keeps one collection. It is not there before the first write, and
it takes vectors of the size it was created with.
-/

namespace AimServer

open AimServer.Lib

variable {φ : Type}

/-! ### Point ids -/

/-- `fmt.Sprintf("%d:%d", owner, msgID)`. -/
def pointKey (owner msgID : Int) : Bytes :=
  intText owner ++ 58 :: intText msgID

/-- `hex.EncodeToString`. -/
def encodeToString (data : Bytes) : Bytes :=
  hexText (str "0123456789abcdef") data

/-- The text of a UUID with these digits. -/
def uuidText (h : Bytes) : Bytes :=
  h.take 8 ++ 45 :: ((h.drop 8).take 4 ++ 45 :: ((h.drop 12).take 4 ++
    45 :: ((h.drop 16).take 4 ++ 45 :: (h.drop 20).take 12)))

def pointID (owner msgID : Int) : Bytes :=
  uuidText (encodeToString (Md5.sum (pointKey owner msgID)))

example : pointID 7 1 = str "6dd6c9f6-fa7d-73bb-35d7-64d11d49ad65" := by decide +kernel

/-! ### The server -/

structure Payload where
  owner : Int
  msgid : Int
  text : Bytes
  ts : Int
  mine : Bool
deriving DecidableEq, Repr

structure Point (φ : Type) where
  vector : List φ
  payload : Payload
deriving DecidableEq, Repr

structure Collection (φ : Type) where
  size : Nat
  points : GoMap Bytes (Point φ)

/-- The collection of the store, which may not be there. -/
abbrev Qdrant (φ : Type) := Option (Collection φ)

namespace Qdrant

/-- `PUT /collections/{name}/points?wait=true`: all points or, when one vector has
another size, none. -/
def putPoints (points : List (Bytes × Point φ)) (server : Qdrant φ) : Nat × Qdrant φ :=
  match server with
  | none => (404, server)
  | some collection =>
      if points.all fun point => point.2.vector.length = collection.size then
        (200, some { collection with
          points := points.foldl (fun all point => all.insert point.1 point.2) collection.points })
      else (400, server)

/-- `POST /collections/{name}/points`: the ids that are there. -/
def getPoints (ids : List Bytes) (server : Qdrant φ) : Nat × List Bytes :=
  match server with
  | none => (404, [])
  | some collection => (200, ids.filter fun id => (collection.points.lookup id).isSome)

/-- The points that pass the owner filter of a search. -/
def ownedPoints (owner : Int) (collection : Collection φ) : List (Point φ) :=
  (collection.points.entries.map fun entry => entry.2).filter fun point =>
    point.payload.owner = owner

end Qdrant

/-! ### `QdrantStore` -/

/-- What `TopK` fills in of an item. -/
structure Hit where
  id : Int
  text : Bytes
  ts : Int
  mine : Bool
deriving DecidableEq, Repr

structure QdrantStore (φ : Type) where
  ensured : Bool
  server : Qdrant φ

namespace QdrantStore

/-- A store for a server without the collection. -/
def new : QdrantStore φ := ⟨false, none⟩

/-- `ensureCollection`. -/
def ensureCollection (dim : Nat) (q : QdrantStore φ) : QdrantStore φ :=
  if q.ensured then q
  else
    match q.server with
    | some _ => { q with ensured := true }
    | none => ⟨true, some ⟨dim, ∅⟩⟩

/-- `code/100 != 2` is an error. -/
def checkStatus (code : Nat) : Except Nat Unit :=
  if code / 100 ≠ 2 then .error code else .ok ()

/-- `HasIDs`: the ids that are there, read back through `uuidToID`. -/
def hasIDs (owner : Int) (ids : List Int) (q : QdrantStore φ) : Except Nat (GoMap Int Bool) :=
  if ids = [] then .ok ∅
  else
    let uuidToID : GoMap Bytes Int :=
      ids.foldl (fun map id => map.insert (pointID owner id) id) ∅
    let (code, found) := Qdrant.getPoints (ids.map (pointID owner)) q.server
    if code = 404 then .ok ∅
    else
      (checkStatus code).map fun _ => found.foldl (fun out uuid =>
        match uuidToID.lookup uuid with
        | some id => out.insert id true
        | none => out) ∅

def pointOf (owner : Int) (item : Item φ) : Point φ :=
  ⟨item.vec, owner, item.id, item.text, item.ts, item.mine⟩

/-- `Upsert`; an error is the status of the server. -/
def upsert (owner : Int) (items : List (Item φ)) (q : QdrantStore φ) :
    Except Nat Unit × QdrantStore φ :=
  match items with
  | [] => (.ok (), q)
  | first :: _ =>
      let q := q.ensureCollection first.vec.length
      let points := items.map fun item => (pointID owner item.id, pointOf owner item)
      let (code, server) := Qdrant.putPoints points q.server
      (checkStatus code, { q with server })

end QdrantStore

/-! ### `TopK` -/

section TopK

variable {α : Type} [LinearOrder α]

def hitOf (item : Item φ) : Hit := ⟨item.id, item.text, item.ts, item.mine⟩

def Payload.hit (payload : Payload) : Hit :=
  ⟨payload.msgid, payload.text, payload.ts, payload.mine⟩

/-- The items of an owner with their scores. -/
def MemoryStore.scored (score : List φ → List φ → α) (owner : Int) (query : List φ)
    (s : MemoryStore φ) : List (Hit × α) :=
  (s.bucket owner).entries.map fun entry => (hitOf entry.2, score query entry.2.vec)

/-- What `TopK` may return, with the scores. -/
def MemoryStore.TopK (score : List φ → List φ → α) (owner : Int) (query : List φ) (k : Nat)
    (s : MemoryStore φ) (hits : List (Hit × α)) : Prop :=
  IsTopK Prod.snd k (s.scored score owner query) hits

/-- The points of an owner with their scores. -/
def QdrantStore.scored (score : List φ → List φ → α) (owner : Int) (query : List φ)
    (q : QdrantStore φ) : List (Hit × α) :=
  match q.server with
  | none => []
  | some collection =>
      (Qdrant.ownedPoints owner collection).map fun point =>
        (point.payload.hit, score query point.vector)

/-- What `TopK` may return, with the scores: the hits of the server, which are none
without the collection, or its refusal of a query of another size. -/
def QdrantStore.TopK (score : List φ → List φ → α) (owner : Int) (query : List φ) (k : Nat)
    (q : QdrantStore φ) : Except Nat (List (Hit × α)) → Prop
  | .ok hits =>
      (∀ collection, q.server = some collection → query.length = collection.size) ∧
        IsTopK Prod.snd k (q.scored score owner query) hits
  | .error code =>
      code = 400 ∧ ∃ collection, q.server = some collection ∧ query.length ≠ collection.size

end TopK

/-! ### Both stores side by side -/

inductive VectorCall (φ : Type) where
  | upsert (owner : Int) (items : List (Item φ))
  | hasIDs (owner : Int) (ids : List Int)
  | topK (owner : Int) (query : List φ) (k : Nat)

namespace VectorCall

/-- Every vector of the call has the size. -/
def HasSize (dim : Nat) : VectorCall φ → Prop
  | .upsert _ items => ∀ item ∈ items, item.vec.length = dim
  | .hasIDs _ _ => True
  | .topK _ query _ => query.length = dim

/-- The owners and ids a call asks for point ids of. -/
def pairs : VectorCall φ → List (Int × Int)
  | .upsert owner items => items.map fun item => (owner, item.id)
  | .hasIDs owner ids => ids.map fun id => (owner, id)
  | .topK _ _ _ => []

end VectorCall

structure VectorStores (φ : Type) where
  memory : MemoryStore φ
  qdrant : QdrantStore φ

namespace VectorStores

def new : VectorStores φ := ⟨MemoryStore.new, QdrantStore.new⟩

def step (s : VectorStores φ) : VectorCall φ → VectorStores φ
  | .upsert owner items => ⟨s.memory.upsert owner items, (s.qdrant.upsert owner items).2⟩
  | _ => s

end VectorStores

end AimServer
