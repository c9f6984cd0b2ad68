import AimServer.Agent.Service
import AimServer.Avatar.ObjectStore
import AimServer.Multipart

/-!
Contract: the avatar service over whichever store is configured.

Owns: `Storage` as a record of operations on a state with its two
implementations, `AvatarService` without its health check, the upload handler of
the HTTP server, and the requests of both front ends.

Does not own: routing, CORS headers and the static files. What the multipart
reader makes of a body is an input; `strings.ToLower` is a parameter. The image
format is passed to `Save`, which never reads it.
-/

namespace AimServer

variable {ι σ ω : Type}

/-- `Storage`: `ω` is what may come of the write in `Save`. -/
structure Storage (σ ω : Type) where
  save : (unix : Int) → ω → (id : Int) → (data : Bytes) → σ → Except Bytes (Bytes × Bytes) × σ
  delete : (id : Int) → σ → σ
  find : (id : Int) → σ → Bytes × Bytes

def FileStore.storage (s : FileStore) (lib : ImageLibrary ι) : Storage Directory WriteOutcome where
  save unix write id data dir := s.save lib unix write id data dir
  delete := FileStore.delete
  find := s.find

def ObjectStore.storage (s : ObjectStore) (lib : ImageLibrary ι) : Storage Bucket PutOutcome where
  save unix put id data bucket := s.save lib unix put id data bucket
  delete := ObjectStore.delete
  find := s.find

/-- `pb.CommonRsp`. -/
structure AvatarCommonRsp where
  code : Int
  msg : Bytes
deriving DecidableEq, Repr

/-- `pb.GetUrlRsp`. -/
structure GetUrlRsp where
  code : Int
  msg : Bytes
  filename : Bytes
  url : Bytes
deriving DecidableEq, Repr

namespace AvatarService

def upload (store : Storage σ ω) (unix : Int) (write : ω) (req : UploadReq) (state : σ) :
    UploadRsp × σ :=
  if req.imageData = [] then (⟨1, str "图片数据为空", [], []⟩, state)
  else
    match store.save unix write req.userId req.imageData state with
    | (.error message, state) => (⟨2, str "保存失败: " ++ message, [], []⟩, state)
    | (.ok (filename, url), state) => (⟨0, str "上传成功", filename, url⟩, state)

def delete (store : Storage σ ω) (userId : Int) (state : σ) : AvatarCommonRsp × σ :=
  (⟨0, str "已删除"⟩, store.delete userId state)

def getUrl (store : Storage σ ω) (userId : Int) (state : σ) : GetUrlRsp :=
  let (filename, url) := store.find userId state
  if filename = [] then ⟨1, str "未找到头像", [], []⟩ else ⟨0, [], filename, url⟩

/-- The service over files is the one of the file store. -/
theorem upload_files (s : FileStore) (lib : ImageLibrary ι) (unix : Int) (write : WriteOutcome)
    (req : UploadReq) (dir : Directory) :
    upload (s.storage lib) unix write req dir = s.upload lib unix write req dir := by
  have sameSave : (s.storage lib).save unix write req.userId req.imageData dir =
      s.save lib unix write req.userId req.imageData dir := rfl
  unfold upload FileStore.upload
  rw [sameSave]
  by_cases empty : req.imageData = []
  · rw [if_pos empty, if_pos empty]
  · rw [if_neg empty, if_neg empty]
    obtain ⟨result, after⟩ := s.save lib unix write req.userId req.imageData dir
    cases result <;> rfl

end AvatarService

/-! ### The HTTP server -/

/-- The JSON of an upload; the last two are there after a success only. -/
structure UploadBody where
  code : Int
  msg : Bytes
  stored : Option (Bytes × Bytes)
deriving DecidableEq, Repr

namespace AvatarHttp

/-- The formats that `handleUpload` lets pass. -/
def formats : List Bytes :=
  [str "png", str "jpg", str "jpeg", str "gif", str "webp"]

def refuse (status : Nat) (code : Int) (msg : Bytes) : HttpReply UploadBody :=
  .json status ⟨code, msg, none⟩

/-- `handleUpload`. The picture becomes that of the user 0. -/
def handleUpload (toLower : Bytes → Bytes) (store : Storage σ ω) (unix : Int) (write : ω)
    (request : HttpUpload) (state : σ) : HttpReply UploadBody × σ :=
  if request.method ≠ HttpServer.methodPost then (.error 405 (str "Method not allowed"), state)
  else
    match request.form with
    | .malformed => (refuse 400 1 (str "请求太大或格式错误"), state)
    | .noFile => (refuse 400 1 (str "未找到文件字段"), state)
    | .file file =>
        let format := trimStart (str ".") (toLower (pathExt file.filename))
        if !formats.contains format then (refuse 400 1 (str "不支持的格式: " ++ format), state)
        else
          match file.content with
          | .error _ => (refuse 500 2 (str "读取失败"), state)
          | .ok data =>
              match store.save unix write 0 data state with
              | (.error message, state) => (refuse 400 2 message, state)
              | (.ok (filename, url), state) =>
                  (.json 200 ⟨0, str "上传成功", some (filename, url)⟩, state)

end AvatarHttp

/-! ### The requests of both front ends -/

inductive AvatarRequest (ω : Type) where
  | upload (unix : Int) (write : ω) (req : UploadReq)
  | delete (userId : Int)
  | getUrl (userId : Int)
  | httpUpload (unix : Int) (write : ω) (request : HttpUpload)

inductive AvatarAnswer where
  | upload (rsp : UploadRsp)
  | common (rsp : AvatarCommonRsp)
  | getUrl (rsp : GetUrlRsp)
  | http (reply : HttpReply UploadBody)
deriving DecidableEq, Repr

/-- The same request with another outcome of its write. -/
def AvatarRequest.mapWrite {ω' : Type} (image : ω → ω') : AvatarRequest ω → AvatarRequest ω'
  | .upload unix write req => .upload unix (image write) req
  | .delete userId => .delete userId
  | .getUrl userId => .getUrl userId
  | .httpUpload unix write request => .httpUpload unix (image write) request

def serveAvatar (toLower : Bytes → Bytes) (store : Storage σ ω) :
    AvatarRequest ω → σ → AvatarAnswer × σ
  | .upload unix write req, state =>
      let (rsp, state) := AvatarService.upload store unix write req state
      (.upload rsp, state)
  | .delete userId, state =>
      let (rsp, state) := AvatarService.delete store userId state
      (.common rsp, state)
  | .getUrl userId, state => (.getUrl (AvatarService.getUrl store userId state), state)
  | .httpUpload unix write request, state =>
      let (reply, state) := AvatarHttp.handleUpload toLower store unix write request state
      (.http reply, state)

end AimServer
