import AimServer.Rag.Retriever

/-!
Contract: the embedder for services that speak the OpenAI protocol.

Owns: the request a batch of texts is turned into, what a response of the
service means, the order in which its vectors are returned, and the retriever
with this embedder.

Does not own: the service and the JSON of its bodies: a request that cannot be
built, a failed transport, and a status with a body are inputs, the body together
with what it decodes to.
-/

namespace AimServer

variable {φ : Type}

/-- The HTTP request without its constant parts. -/
structure EmbedRequest where
  url : Bytes
  authorization : Bytes
  model : Bytes
  input : List Bytes
deriving DecidableEq, Repr

/-- One element of `data`. -/
structure LabelledVector (φ : Type) where
  embedding : List φ
  index : Int
deriving DecidableEq, Repr

/-- `embedRsp`; `error` is the message in it. -/
structure EmbedRsp (φ : Type) where
  data : List (LabelledVector φ)
  error : Option Bytes
deriving DecidableEq, Repr

/-- What comes of a request. -/
inductive EmbedOutcome (φ : Type) where
  | notBuilt (message : Bytes)
  | transport (message : Bytes)
  | response (status : Int) (raw : Bytes) (parsed : Option (EmbedRsp φ))
deriving DecidableEq, Repr

namespace EmbedOutcome

/-- The vectors a response has. -/
def data : EmbedOutcome φ → List (LabelledVector φ)
  | .response _ _ (some rsp) => rsp.data
  | _ => []

/-- A response with so many vectors and without an error. -/
def accepted (count : Nat) : EmbedOutcome φ → Bool
  | .response status _ (some rsp) =>
      status = 200 ∧ rsp.error = none ∧ rsp.data.length = count
  | _ => false

end EmbedOutcome

/-- The first so many bytes of a longer text, and three dots. -/
def truncateBytes (text : Bytes) (n : Nat) : Bytes :=
  if text.length ≤ n then text else text.take n ++ str "..."

structure OpenAIEmbedder where
  apiKey : Bytes
  baseURL : Bytes
  model : Bytes
deriving DecidableEq, Repr

namespace OpenAIEmbedder

/-- `NewOpenAIEmbedder`. -/
def new (apiKey baseURL model : Bytes) : OpenAIEmbedder :=
  ⟨apiKey, trimRight 47 baseURL, model⟩

def request (e : OpenAIEmbedder) (texts : List Bytes) : EmbedRequest :=
  ⟨e.baseURL ++ str "/embeddings", str "Bearer " ++ e.apiKey, e.model, texts⟩

/-- `out[d.Index] = d.Embedding` where the index is one. -/
def place (out : List (List φ)) (d : LabelledVector φ) : List (List φ) :=
  if 0 ≤ d.index ∧ d.index < out.length then out.set d.index.toNat d.embedding else out

/-- The vectors in the order of their indices; a missing one is nil. -/
def arrange (count : Nat) (data : List (LabelledVector φ)) : List (List φ) :=
  data.foldl place (List.replicate count [])

/-- What the outcome of a request for so many texts means. -/
def decode (count : Nat) : EmbedOutcome φ → Except Bytes (List (List φ))
  | .notBuilt message => .error (str "构造 embedding 请求失败: " ++ message)
  | .transport message => .error (str "调用 embedding 失败: " ++ message)
  | .response status raw none =>
      .error (str "解析 embedding 响应失败(status=" ++ intText status ++ str "): " ++
        truncateBytes raw 200)
  | .response status raw (some rsp) =>
      match rsp.error with
      | some message => .error (str "embedding 返回错误: " ++ message)
      | none =>
          if status ≠ 200 ∨ rsp.data.length ≠ count then
            .error (str "embedding 异常(status=" ++ intText status ++ str ", got=" ++
              intText rsp.data.length ++ str " want=" ++ intText count ++ str "): " ++
              truncateBytes raw 200)
          else .ok (arrange count rsp.data)

/-- `Embed`. -/
def embed (e : OpenAIEmbedder) (service : EmbedRequest → EmbedOutcome φ) (texts : List Bytes) :
    Except Bytes (List (List φ)) :=
  if texts = [] then .ok []
  else if e.apiKey = [] then .error (str "embedding APIKey 未配置")
  else decode texts.length (service (e.request texts))

/-- What the outside does in one call of `EnsureIndexed` with this embedder. -/
def outcomes (e : OpenAIEmbedder) (load hasIDs : Except Bytes Unit)
    (service : Nat → EmbedRequest → EmbedOutcome φ) (upsert : Nat → Except Bytes Unit) :
    IndexOutcomes φ :=
  ⟨load, hasIDs, fun number texts => e.embed (service number) texts, upsert⟩

end OpenAIEmbedder

/-- The batches a call of `EnsureIndexed` has to embed. -/
def Retriever.batches (r : Retriever) (owner : Int) (table : ChatTable) (store : MemoryStore φ) :
    List (List DbMessage) :=
  let msgs := loadUserTextMessages owner r.maxCorpus table
  let pending := pendingOf msgs (store.hasIDs owner ((candidates msgs).map DbMessage.id))
  batchesOf pending.length pending

end AimServer
