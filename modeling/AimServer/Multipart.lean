import AimServer.Bytes

/-!
Contract: uploads of a form with one file.

Owns: what a handler sees of such a request.

Does not own: the multipart reader. What it makes of a body is an input.
-/

namespace AimServer

/-- The field `file` of a form: its name, and what reading it gives. -/
structure FormFile where
  filename : Bytes
  content : Except Bytes Bytes

/-- What the reader makes of a body within the limit. -/
inductive MultipartForm where
  | malformed
  | noFile
  | file (file : FormFile)

structure HttpUpload where
  method : Bytes
  form : MultipartForm

end AimServer
