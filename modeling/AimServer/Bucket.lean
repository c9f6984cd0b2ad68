import AimServer.GoText
import AimServer.Lib.GoMap
import Mathlib.Data.List.Sort

/-!
Contract: a bucket of an S3 service as the two object stores use it.

Owns: objects with their content types, listing by the start of the key,
`PutObject`, the deletion of all that is listed, and the public address that
`NewObjectStore` settles on.

Does not own: failures of a listing or of `RemoveObject`, which the stores pass
over as the file stores do. Keys are listed in the order of their bytes.
-/

namespace AimServer

open AimServer.Lib

structure StoredObject where
  data : Bytes
  contentType : Bytes
deriving DecidableEq, Repr

/-- The objects of a bucket by their keys. -/
abbrev Bucket := GoMap Bytes StoredObject

/-- What comes of `PutObject`. An upload that fails leaves no object. -/
inductive PutOutcome where
  | ok
  | fails (message : Bytes)
deriving DecidableEq, Repr

namespace Bucket

/-- `ListObjects` with a prefix, recursively. -/
def listObjects (start : Bytes) (bucket : Bucket) : List Bytes :=
  (bucket.keys.insertionSort fun first second => first ≤ second).filter fun key => start <+: key

def putObject (key : Bytes) (object : StoredObject) (bucket : Bucket) :
    PutOutcome → Except Bytes Unit × Bucket
  | .ok => (.ok (), bucket.insert key object)
  | .fails message => (.error message, bucket)

/-- `RemoveObject` of all that is listed. -/
def removeListed (start : Bytes) (bucket : Bucket) : Bucket :=
  (bucket.listObjects start).foldl (fun bucket key => AList.erase key bucket) bucket

theorem mem_listObjects {start key : Bytes} {bucket : Bucket} :
    key ∈ bucket.listObjects start ↔ key ∈ bucket ∧ start <+: key := by
  rw [listObjects, List.mem_filter, (List.perm_insertionSort _ _).mem_iff, decide_eq_true_eq]
  rfl

theorem lookup_removeListed (start : Bytes) (bucket : Bucket) (key : Bytes) :
    (bucket.removeListed start).lookup key =
      if start <+: key then none else bucket.lookup key := by
  have erased := GoMap.lookup_eraseAll (fun _ => True) (bucket.listObjects start) bucket key
  simp only [if_true, and_true] at erased
  rw [removeListed, erased]
  by_cases listed : start <+: key
  · rw [if_pos listed]
    by_cases there : key ∈ bucket
    · rw [if_pos (mem_listObjects.mpr ⟨there, listed⟩)]
    · rw [AList.lookup_eq_none.mpr there, ite_self]
  · rw [if_neg listed, if_neg]
    exact fun member => listed (mem_listObjects.mp member).2

/-- The only listed key is the first. -/
theorem listObjects_head? {start key : Bytes} {bucket : Bucket} (there : key ∈ bucket)
    (listed : start <+: key) (only : ∀ other ∈ bucket, start <+: other → other = key) :
    (bucket.listObjects start).head? = some key := by
  cases isList : bucket.listObjects start with
  | nil =>
      have member := mem_listObjects.mpr ⟨there, listed⟩
      rw [isList] at member
      exact absurd member List.not_mem_nil
  | cons first rest =>
      have member : first ∈ bucket.listObjects start := isList ▸ List.mem_cons_self
      obtain ⟨isThere, isListed⟩ := mem_listObjects.mp member
      rw [List.head?_cons, only first isThere isListed]

theorem listObjects_eq_nil {start : Bytes} {bucket : Bucket}
    (noneListed : ∀ key ∈ bucket, ¬ start <+: key) : bucket.listObjects start = [] := by
  rw [List.eq_nil_iff_forall_not_mem]
  intro key member
  obtain ⟨there, listed⟩ := mem_listObjects.mp member
  exact noneListed key there listed

end Bucket

/-- `NewObjectStore` of either server: the address that URLs start with. What
`minio.New` says is an input. -/
def objectStoreBase (endpoint bucket accessKey secretKey publicBase : Bytes) (useSSL : Bool)
    (client : Except Bytes Unit) : Except Bytes Bytes :=
  if endpoint = [] ∨ bucket = [] ∨ accessKey = [] ∨ secretKey = [] then
    .error (str "对象存储配置不完整(需 S3_ENDPOINT/S3_BUCKET/S3_ACCESS_KEY/S3_SECRET_KEY)")
  else
    match client with
    | .error message => .error (str "初始化对象存储客户端失败: " ++ message)
    | .ok _ =>
        let scheme := if useSSL then str "https" else str "http"
        .ok (trimRight 47
          (if publicBase = [] then scheme ++ str "://" ++ endpoint ++ 47 :: bucket else publicBase))

end AimServer
