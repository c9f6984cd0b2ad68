import AimServer.Avatar.Image
import AimServer.GoText
import AimServer.Lib.GoMap
import Mathlib.Data.List.Sort

/-!
Contract: the avatar store on local files and its service.

Owns: the names of avatar files, the directory with the files in it, `Save`,
`Delete` and `Find` of `FileStore`, and the answers of `Upload`.

Does not own: failures of `ReadDir` and `Remove`. The time of a call and what
comes of its `WriteFile` are inputs; a write that fails leaves the file as it
was or with the first bytes of the new data.
-/

namespace AimServer

open AimServer.Lib

variable {ι : Type}

/-- `fmt.Sprintf("%d_", id)`. -/
def avatarPrefix (id : Int) : Bytes :=
  intText id ++ [95]

/-- `fmt.Sprintf("%d_%d.png", id, unix)`. -/
def avatarFilename (id unix : Int) : Bytes :=
  intText id ++ 95 :: (intText unix ++ str ".png")

/-- The files of a directory with their contents. -/
abbrev Directory := GoMap Bytes Bytes

/-- `os.ReadDir`: the names in their order. -/
def readDir (dir : Directory) : List Bytes :=
  dir.keys.insertionSort fun first second => first ≤ second

/-- What comes of `os.WriteFile`. -/
inductive WriteOutcome where
  | ok
  | openFails (message : Bytes)
  | writeFails (message : Bytes) (count : Nat)
deriving DecidableEq, Repr

/-- `os.WriteFile`. -/
def writeFile (name data : Bytes) (dir : Directory) : WriteOutcome → Except Bytes Unit × Directory
  | .ok => (.ok (), dir.insert name data)
  | .openFails message => (.error message, dir)
  | .writeFails message count => (.error message, dir.insert name (data.take count))

/-- `FileStore` without its directory. -/
structure FileStore where
  httpURL : Bytes
  maxSize : Int
  maxW : Nat
  maxH : Nat
deriving DecidableEq, Repr

namespace FileStore

/-- `NewFileStore`. -/
def new (httpURL : Bytes) (maxSizeMB : Int) (maxW maxH : Nat) : FileStore :=
  ⟨trimRight 47 httpURL, maxSizeMB * 1024 * 1024, maxW, maxH⟩

def url (s : FileStore) (filename : Bytes) : Bytes :=
  s.httpURL ++ str "/avatars/" ++ filename

def deleteFiles (id : Int) (dir : Directory) : Directory :=
  (readDir dir).foldl
    (fun dir name => if avatarPrefix id <+: name then AList.erase name dir else dir) dir

/-- The first file of an id. -/
def findFile (id : Int) (dir : Directory) : Option Bytes :=
  (readDir dir).find? fun name => avatarPrefix id <+: name

/-- `Find`: the name and the URL. -/
def find (s : FileStore) (id : Int) (dir : Directory) : Bytes × Bytes :=
  match findFile id dir with
  | some name => (name, s.url name)
  | none => ([], [])

/-- `Save` at a time: the name and the URL. -/
def save (s : FileStore) (lib : ImageLibrary ι) (unix : Int) (write : WriteOutcome) (id : Int)
    (data : Bytes) (dir : Directory) : Except Bytes (Bytes × Bytes) × Directory :=
  match processImage lib data s.maxW s.maxH s.maxSize with
  | .error message => (.error message, dir)
  | .ok pngData =>
      let filename := avatarFilename id unix
      match writeFile filename pngData (deleteFiles id dir) write with
      | (.error message, dir) => (.error (str "写入文件失败: " ++ message), dir)
      | (.ok _, dir) => (.ok (filename, s.url filename), dir)

/-- `Delete`. -/
def delete (id : Int) (dir : Directory) : Directory :=
  deleteFiles id dir

end FileStore

/-! ### The service -/

structure UploadReq where
  userId : Int
  imageData : Bytes
deriving DecidableEq, Repr

structure UploadRsp where
  code : Int
  msg : Bytes
  filename : Bytes
  url : Bytes
deriving DecidableEq, Repr

/-- `AvatarService.Upload` over the file store. -/
def FileStore.upload (s : FileStore) (lib : ImageLibrary ι) (unix : Int) (write : WriteOutcome)
    (req : UploadReq) (dir : Directory) : UploadRsp × Directory :=
  if req.imageData = [] then (⟨1, str "图片数据为空", [], []⟩, dir)
  else
    match s.save lib unix write req.userId req.imageData dir with
    | (.error message, dir) => (⟨2, str "保存失败: " ++ message, [], []⟩, dir)
    | (.ok (filename, url), dir) => (⟨0, str "上传成功", filename, url⟩, dir)

/-! ### Sequences of calls -/

/-- A call whose file operations succeed. -/
inductive AvatarCall where
  | save (id unix : Int) (data : Bytes)
  | delete (id : Int)
deriving DecidableEq, Repr

namespace AvatarCall

def id : AvatarCall → Int
  | .save id _ _ => id
  | .delete id => id

end AvatarCall

namespace FileStore

/-- What a call returns: the names of `Save`, and none from `Delete`. -/
def answer (s : FileStore) (lib : ImageLibrary ι) (dir : Directory) :
    AvatarCall → Except Bytes (Bytes × Bytes)
  | .save id unix data => (s.save lib unix .ok id data dir).1
  | .delete _ => .ok ([], [])

def step (s : FileStore) (lib : ImageLibrary ι) (dir : Directory) : AvatarCall → Directory
  | .save id unix data => (s.save lib unix .ok id data dir).2
  | .delete id => delete id dir

/-- The calls of a sequence with their answers. -/
def answers (s : FileStore) (lib : ImageLibrary ι) :
    Directory → List AvatarCall → List (AvatarCall × Except Bytes (Bytes × Bytes))
  | _, [] => []
  | dir, call :: rest => (call, s.answer lib dir call) :: s.answers lib (s.step lib dir call) rest

end FileStore

end AimServer
