import AimServer.Agent.Service
import AimServer.Media.Storage
import AimServer.Multipart

/-!
Contract: the media server over whichever store is configured.

Owns: the upload handler, and the uploads it can be given.

Does not own: routing, CORS headers and the health check.
-/

namespace AimServer.Media

variable {σ ω : Type}

/-- What a successful upload tells. -/
structure Stored where
  filename : Bytes
  url : Bytes
  fileSize : Nat
deriving DecidableEq, Repr

/-- The JSON of an upload; `stored` is there after a success only. -/
structure UploadBody where
  code : Int
  msg : Bytes
  stored : Option Stored
deriving DecidableEq, Repr

/-- A request with what its name is drawn from and what comes of its write. -/
structure UploadRequest (ω : Type) where
  draw : Draw
  write : ω
  upload : HttpUpload

def UploadRequest.mapWrite {ω' : Type} (image : ω → ω') (request : UploadRequest ω) :
    UploadRequest ω' :=
  ⟨request.draw, image request.write, request.upload⟩

/-- The extension in the name of a form's file. -/
def formExt (toLower : Bytes → Bytes) (filename : Bytes) : Bytes :=
  trimStart (str ".") (toLower (pathExt filename))

def refuse (status : Nat) (code : Int) (msg : Bytes) : HttpReply UploadBody :=
  .json status ⟨code, msg, none⟩

def handleUpload (toLower : Bytes → Bytes) (store : Storage σ ω) (maxBytes : Int)
    (request : UploadRequest ω) (state : σ) : HttpReply UploadBody × σ :=
  if request.upload.method ≠ HttpServer.methodPost then
    (.error 405 (str "Method not allowed"), state)
  else
    match request.upload.form with
    | .malformed => (refuse 400 1 (str "请求过大或格式错误"), state)
    | .noFile => (refuse 400 1 (str "未找到文件字段 file"), state)
    | .file file =>
        match file.content with
        | .error _ => (refuse 500 2 (str "读取失败"), state)
        | .ok data =>
            if maxBytes < data.length then (refuse 400 1 (str "文件超过大小上限"), state)
            else
              match store.save request.draw request.write data (formExt toLower file.filename)
                  state with
              | (.error message, state) => (refuse 500 2 message, state)
              | (.ok (filename, url), state) =>
                  (.json 200 ⟨0, str "上传成功", some ⟨filename, url, data.length⟩⟩, state)

end AimServer.Media
