import AimServer.Avatar.FileStore
import AimServer.Bucket
import AimServer.GoPath

/-!
Contract: the avatar store on object storage.

Owns: the keys of avatar objects, `Save`, `Delete` and `Find` of `ObjectStore`.

Does not own: the build without object storage, where every call is an error.
-/

namespace AimServer

open AimServer.Lib

variable {ι : Type}

/-- `ObjectStore` without its client and bucket. -/
structure ObjectStore where
  publicBase : Bytes
  maxSize : Int
  maxW : Nat
  maxH : Nat
deriving DecidableEq, Repr

namespace ObjectStore

/-- `NewObjectStore`. -/
def new (endpoint bucket accessKey secretKey publicBase : Bytes) (useSSL : Bool)
    (client : Except Bytes Unit) (maxSizeMB : Int) (maxW maxH : Nat) :
    Except Bytes ObjectStore :=
  (objectStoreBase endpoint bucket accessKey secretKey publicBase useSSL client).map
    fun base => ⟨base, maxSizeMB * 1024 * 1024, maxW, maxH⟩

/-- The keys start with the field `prefix`, which is always `avatars`. -/
def key (filename : Bytes) : Bytes :=
  str "avatars" ++ 47 :: filename

def url (s : ObjectStore) (filename : Bytes) : Bytes :=
  s.publicBase ++ 47 :: key filename

def deleteByPrefix (id : Int) (bucket : Bucket) : Bucket :=
  bucket.removeListed (key (avatarPrefix id))

/-- `Save` at a time: the name and the URL. -/
def save (s : ObjectStore) (lib : ImageLibrary ι) (unix : Int) (put : PutOutcome) (id : Int)
    (data : Bytes) (bucket : Bucket) : Except Bytes (Bytes × Bytes) × Bucket :=
  match processImage lib data s.maxW s.maxH s.maxSize with
  | .error message => (.error message, bucket)
  | .ok pngData =>
      let filename := avatarFilename id unix
      match (deleteByPrefix id bucket).putObject (key filename) ⟨pngData, str "image/png"⟩ put with
      | (.error message, bucket) => (.error (str "上传对象失败: " ++ message), bucket)
      | (.ok _, bucket) => (.ok (filename, s.url filename), bucket)

/-- `Delete`. -/
def delete (id : Int) (bucket : Bucket) : Bucket :=
  deleteByPrefix id bucket

/-- `Find`: the name and the URL. -/
def find (s : ObjectStore) (id : Int) (bucket : Bucket) : Bytes × Bytes :=
  match (bucket.listObjects (key (avatarPrefix id))).head? with
  | some listed => (pathBase listed, s.url (pathBase listed))
  | none => ([], [])

/-! ### Keys -/

theorem key_injective : Function.Injective key := by
  intro first second same
  exact List.cons_injective (List.append_cancel_left same)

theorem key_prefix_iff {id : Int} {name : Bytes} :
    key (avatarPrefix id) <+: key name ↔ avatarPrefix id <+: name := by
  rw [key, key, List.prefix_append_right_inj, List.cons_prefix_cons]
  exact and_iff_right rfl

/-- A key of the avatars is the key of a name. -/
theorem exists_name {listed : Bytes} {id : Int} (isAvatar : key (avatarPrefix id) <+: listed) :
    ∃ name, listed = key name := by
  obtain ⟨rest, rfl⟩ := isAvatar
  refine ⟨avatarPrefix id ++ rest, ?_⟩
  rw [key, key, List.append_assoc]
  rfl

end ObjectStore

end AimServer
