import AimServer.Avatar.FileStore
import AimServer.Bucket
import AimServer.GoPath

/-!
Contract: the two media stores.

Owns: the names of media files with their extensions, the content types, and
`Save` of `FileStore` and of `ObjectStore`.

Does not own: `strings.ToLower`, a parameter. The clock and the random bytes of a
name and what comes of the write are inputs.
-/

namespace AimServer.Media

open AimServer.Lib

/-- The extensions that are kept. -/
def extensions : List Bytes :=
  [str "m4a", str "aac", str "mp3", str "ogg", str "opus", str "wav", str "amr",
    str "mp4", str "webm", str "mov", str "m4v",
    str "png", str "jpg", str "jpeg", str "gif", str "webp",
    str "pdf", str "txt", str "zip", str "doc", str "docx"]

def sanitizeExt (toLower : Bytes → Bytes) (ext : Bytes) : Bytes :=
  let ext := toLower (trimStart (str ".") (trimSpace ext))
  if ext ∈ extensions then ext else str "bin"

/-- `contentTypeOf` of an extension that was sanitized. -/
def contentTypeOf (ext : Bytes) : Bytes :=
  if ext ∈ [str "m4a", str "aac"] then str "audio/mp4"
  else if ext = str "mp3" then str "audio/mpeg"
  else if ext ∈ [str "ogg", str "opus"] then str "audio/ogg"
  else if ext = str "wav" then str "audio/wav"
  else if ext = str "amr" then str "audio/amr"
  else if ext ∈ [str "mp4", str "m4v"] then str "video/mp4"
  else if ext = str "webm" then str "video/webm"
  else if ext = str "mov" then str "video/quicktime"
  else if ext = str "png" then str "image/png"
  else if ext ∈ [str "jpg", str "jpeg"] then str "image/jpeg"
  else if ext = str "gif" then str "image/gif"
  else if ext = str "webp" then str "image/webp"
  else str "application/octet-stream"

/-- The nanoseconds of the clock and the six bytes of `rand.Read`. -/
structure Draw where
  nanos : Int
  random : Bytes
deriving DecidableEq, Repr

/-- `hex.EncodeToString`. -/
def hexEncode (raw : Bytes) : Bytes :=
  hexText (str "0123456789abcdef") raw

/-- `uniqueFilename`. -/
def uniqueFilename (toLower : Bytes → Bytes) (draw : Draw) (ext : Bytes) : Bytes :=
  intText draw.nanos ++ 95 :: (hexEncode draw.random ++ 46 :: sanitizeExt toLower ext)

/-- `FileStore` without its directory. -/
structure FileStore where
  httpURL : Bytes
deriving DecidableEq, Repr

/-- `ObjectStore` without its client and bucket. -/
structure ObjectStore where
  publicBase : Bytes
deriving DecidableEq, Repr

/-- `Storage`: `ω` is what may come of the write in `Save`. -/
structure Storage (σ ω : Type) where
  save : Draw → ω → (data ext : Bytes) → σ → Except Bytes (Bytes × Bytes) × σ

namespace FileStore

/-- `NewFileStore`. -/
def new (httpURL : Bytes) : FileStore :=
  ⟨trimRight 47 httpURL⟩

def url (s : FileStore) (filename : Bytes) : Bytes :=
  s.httpURL ++ str "/media/" ++ filename

def save (s : FileStore) (toLower : Bytes → Bytes) (draw : Draw) (write : WriteOutcome)
    (data ext : Bytes) (dir : Directory) : Except Bytes (Bytes × Bytes) × Directory :=
  let filename := uniqueFilename toLower draw ext
  match writeFile filename data dir write with
  | (.error message, dir) => (.error (str "写入文件失败: " ++ message), dir)
  | (.ok _, dir) => (.ok (filename, s.url filename), dir)

def storage (s : FileStore) (toLower : Bytes → Bytes) : Storage Directory WriteOutcome where
  save := s.save toLower

/-- What the static file server gives under an address. -/
def fetch (s : FileStore) (address : Bytes) (dir : Directory) : Option Bytes :=
  if s.url [] <+: address then dir.lookup (address.drop (s.url []).length) else none

end FileStore

namespace ObjectStore

/-- `NewObjectStore`. -/
def new (endpoint bucket accessKey secretKey publicBase : Bytes) (useSSL : Bool)
    (client : Except Bytes Unit) : Except Bytes ObjectStore :=
  (objectStoreBase endpoint bucket accessKey secretKey publicBase useSSL client).map
    ObjectStore.mk

/-- The keys start with the field `prefix`, which is always `media`. -/
def key (filename : Bytes) : Bytes :=
  str "media" ++ 47 :: filename

def save (s : ObjectStore) (toLower : Bytes → Bytes) (draw : Draw) (put : PutOutcome)
    (data ext : Bytes) (bucket : Bucket) : Except Bytes (Bytes × Bytes) × Bucket :=
  let filename := uniqueFilename toLower draw ext
  let object : StoredObject := ⟨data, contentTypeOf (sanitizeExt toLower ext)⟩
  match bucket.putObject (key filename) object put with
  | (.error message, bucket) => (.error (str "上传对象失败: " ++ message), bucket)
  | (.ok _, bucket) => (.ok (filename, s.publicBase ++ 47 :: key filename), bucket)

def storage (s : ObjectStore) (toLower : Bytes → Bytes) : Storage Bucket PutOutcome where
  save := s.save toLower

/-- What stands in the bucket under an address. -/
def fetch (s : ObjectStore) (address : Bytes) (bucket : Bucket) : Option Bytes :=
  if s.publicBase ++ [47] <+: address then
    (bucket.lookup (address.drop (s.publicBase ++ [47]).length)).map StoredObject.data
  else none

end ObjectStore

/-! ### Names -/

private theorem hexPair_lower :
    ∀ byte : UInt8,
      ((hexVal ((str "0123456789abcdef").getD (byte >>> 4).toNat 0) <<< 4) |||
        hexVal ((str "0123456789abcdef").getD (byte &&& 0x0F).toNat 0)) = byte := by
  intro byte
  obtain ⟨bits⟩ := byte
  revert bits
  decide +kernel

theorem fromHex_hexEncode (raw : Bytes) : fromHex (hexEncode raw) = raw := by
  induction raw with
  | nil => rfl
  | cons byte rest inductionHypothesis =>
      unfold hexEncode hexText at inductionHypothesis ⊢
      simp only [List.flatMap_cons, List.cons_append, List.nil_append, fromHex,
        inductionHypothesis, hexPair_lower]

/-- Neither a dot nor a slash is a hexadecimal digit. -/
theorem notMem_hexEncode {c : UInt8} (separates : c = 46 ∨ c = 47) (raw : Bytes) :
    c ∉ hexEncode raw := by
  intro member
  rcases mem_hexText member with none | digit
  · rcases separates with rfl | rfl
    · exact absurd none (by decide)
    · exact absurd none (by decide)
  · rcases separates with rfl | rfl
    · exact absurd digit (by decide +kernel)
    · exact absurd digit (by decide +kernel)

/-- Two names are the same when all their parts are. -/
theorem uniqueFilename_inj {toLower : Bytes → Bytes} {first second : Draw} {ext other : Bytes}
    (same : uniqueFilename toLower first ext = uniqueFilename toLower second other) :
    first = second ∧ sanitizeExt toLower ext = sanitizeExt toLower other := by
  obtain ⟨sameNanos, rest⟩ := intText_separated_inj (by decide) same
  have beforeDot : ∀ (raw tail : Bytes),
      (hexEncode raw ++ 46 :: tail).takeWhile (· ≠ 46) = hexEncode raw := by
    intro raw tail
    have noDot : ∀ c ∈ hexEncode raw, decide (c ≠ 46) = true := by
      intro c member
      refine decide_eq_true ?_
      rintro rfl
      exact notMem_hexEncode (Or.inl rfl) raw member
    rw [List.takeWhile_append_of_pos noDot]
    simp
  have sameHex := congrArg (List.takeWhile (· ≠ 46)) rest
  rw [beforeDot, beforeDot] at sameHex
  have sameRandom : first.random = second.random := by
    rw [← fromHex_hexEncode first.random, sameHex, fromHex_hexEncode]
  rw [sameHex] at rest
  obtain ⟨nanos, random⟩ := first
  obtain ⟨nanos', random'⟩ := second
  cases sameNanos
  cases sameRandom
  exact ⟨rfl, List.cons_injective (List.append_cancel_left rest)⟩

/-- A listed extension, or the one for all others. -/
theorem sanitizeExt_mem (toLower : Bytes → Bytes) (ext : Bytes) :
    sanitizeExt toLower ext ∈ str "bin" :: extensions := by
  unfold sanitizeExt
  dsimp only
  split
  · exact List.mem_cons_of_mem _ ‹_›
  · exact List.mem_cons_self

private theorem slash_notMem_extension : ∀ ext ∈ str "bin" :: extensions, (47 : UInt8) ∉ ext := by
  decide +kernel

/-- Names of media files have no slash. -/
theorem slash_notMem_uniqueFilename (toLower : Bytes → Bytes) (draw : Draw) (ext : Bytes) :
    (47 : UInt8) ∉ uniqueFilename toLower draw ext := by
  intro member
  rcases List.mem_append.mp member with time | later
  · rcases mem_intText time with sign | digit
    · exact absurd sign (by decide)
    · exact absurd digit (by decide)
  · rcases List.mem_cons.mp later with separator | rest
    · exact absurd separator (by decide)
    · rcases List.mem_append.mp rest with hex | ending
      · exact notMem_hexEncode (Or.inr rfl) draw.random hex
      · rcases List.mem_cons.mp ending with dot | inExt
        · exact absurd dot (by decide)
        · exact slash_notMem_extension _ (sanitizeExt_mem toLower ext) inExt

end AimServer.Media
