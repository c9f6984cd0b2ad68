import AimServer.Avatar.Service
import AimServer.Lib.Machine
import AimServer.Properties.Avatars

/-!
Contract: one picture for each id, over either avatar store.

Owns: the gallery that the avatar service is meant to be, what a write comes to
there, and that the service over files and the service over a bucket answer any
requests as the gallery does and hold its pictures.

Does not own: how an image is checked and scaled.
-/

namespace AimServer

open AimServer.Lib

variable {ι σ ω : Type}

/-! ### The gallery -/

/-- The picture of each id with the time of its upload. -/
abbrev Gallery := Int → Option (Int × Bytes)

/-- What a write comes to: the error, if any, and what is stored of the picture. -/
structure WriteEffect where
  error : Option Bytes
  left : Bytes → Option Bytes

namespace Gallery

def empty : Gallery := fun _ => none

def set (id : Int) (picture : Option (Int × Bytes)) (g : Gallery) : Gallery :=
  fun other => if other = id then picture else g other

theorem set_self (id : Int) (picture : Option (Int × Bytes)) (g : Gallery) :
    g.set id picture id = picture :=
  if_pos rfl

theorem set_of_ne {id other : Int} (different : other ≠ id) (picture : Option (Int × Bytes))
    (g : Gallery) : g.set id picture other = g other :=
  if_neg different

theorem set_set (id : Int) (first second : Option (Int × Bytes)) (g : Gallery) :
    (g.set id first).set id second = g.set id second := by
  funext other
  unfold set
  split <;> rfl

/-- The gallery as a store: `check` says what is stored of an image. -/
def storage (check : Bytes → Except Bytes Bytes) (url : Bytes → Bytes) :
    Storage Gallery WriteEffect where
  save unix write id data g :=
    match check data with
    | .error message => (.error message, g)
    | .ok png =>
        let picture := (write.left png).map fun stored => (unix, stored)
        match write.error with
        | some message => (.error message, g.set id picture)
        | none => (.ok (avatarFilename id unix, url (avatarFilename id unix)), g.set id picture)
  delete id g := g.set id none
  find id g :=
    match g id with
    | some (unix, _) => (avatarFilename id unix, url (avatarFilename id unix))
    | none => ([], [])

section Save

variable {check : Bytes → Except Bytes Bytes} {url : Bytes → Bytes} {unix : Int}
  {write : WriteEffect} {id : Int} {data : Bytes} {g : Gallery}

theorem save_of_error {message : Bytes} (refused : check data = .error message) :
    (storage check url).save unix write id data g = (.error message, g) := by
  unfold storage
  dsimp only
  rw [refused]

theorem save_of_ok {png : Bytes} (accepted : check data = .ok png) :
    (storage check url).save unix write id data g =
      (match write.error with
        | some message => .error message
        | none => .ok (avatarFilename id unix, url (avatarFilename id unix)),
        g.set id ((write.left png).map fun stored => (unix, stored))) := by
  unfold storage
  dsimp only
  rw [accepted]
  cases write.error <;> rfl

end Save

end Gallery

def WriteOutcome.effect : WriteOutcome → WriteEffect
  | .ok => ⟨none, some⟩
  | .openFails message => ⟨some (str "写入文件失败: " ++ message), fun _ => none⟩
  | .writeFails message count =>
      ⟨some (str "写入文件失败: " ++ message), fun png => some (png.take count)⟩

def PutOutcome.effect : PutOutcome → WriteEffect
  | .ok => ⟨none, some⟩
  | .fails message => ⟨some (str "上传对象失败: " ++ message), fun _ => none⟩

/-! ### Stores that refine the gallery -/

/-- The operations of a store do what those of the gallery do. -/
structure Storage.Refines (store : Storage σ ω) (effect : ω → WriteEffect)
    (spec : Storage Gallery WriteEffect) (shows : σ → Gallery → Prop) : Prop where
  save : ∀ (unix : Int) (write : ω) (id : Int) (data : Bytes) {s : σ} {g : Gallery}, shows s g →
    (store.save unix write id data s).1 = (spec.save unix (effect write) id data g).1 ∧
      shows (store.save unix write id data s).2 (spec.save unix (effect write) id data g).2
  delete : ∀ (id : Int) {s : σ} {g : Gallery}, shows s g →
    shows (store.delete id s) (spec.delete id g)
  find : ∀ (id : Int) {s : σ} {g : Gallery}, shows s g → store.find id s = spec.find id g

namespace Storage.Refines

variable {store : Storage σ ω} {effect : ω → WriteEffect} {spec : Storage Gallery WriteEffect}
  {shows : σ → Gallery → Prop} {s : σ} {g : Gallery}

theorem upload (refines : store.Refines effect spec shows) (unix : Int) (write : ω)
    (req : UploadReq) (related : shows s g) :
    (AvatarService.upload store unix write req s).1 =
        (AvatarService.upload spec unix (effect write) req g).1 ∧
      shows (AvatarService.upload store unix write req s).2
        (AvatarService.upload spec unix (effect write) req g).2 := by
  obtain ⟨same, next⟩ := refines.save unix write req.userId req.imageData related
  unfold AvatarService.upload
  by_cases empty : req.imageData = []
  · rw [if_pos empty, if_pos empty]
    exact ⟨rfl, related⟩
  · rw [if_neg empty, if_neg empty]
    generalize store.save unix write req.userId req.imageData s = first at same next
    generalize spec.save unix (effect write) req.userId req.imageData g = second at same next
    obtain ⟨result, after⟩ := first
    obtain ⟨result', after'⟩ := second
    cases same
    cases result with
    | error message => exact ⟨rfl, next⟩
    | ok stored => exact ⟨rfl, next⟩

theorem handleUpload (refines : store.Refines effect spec shows) (toLower : Bytes → Bytes)
    (unix : Int) (write : ω) (request : HttpUpload) (related : shows s g) :
    (AvatarHttp.handleUpload toLower store unix write request s).1 =
        (AvatarHttp.handleUpload toLower spec unix (effect write) request g).1 ∧
      shows (AvatarHttp.handleUpload toLower store unix write request s).2
        (AvatarHttp.handleUpload toLower spec unix (effect write) request g).2 := by
  unfold AvatarHttp.handleUpload
  by_cases posted : request.method ≠ HttpServer.methodPost
  · rw [if_pos posted, if_pos posted]
    exact ⟨rfl, related⟩
  · rw [if_neg posted, if_neg posted]
    cases request.form with
    | malformed => exact ⟨rfl, related⟩
    | noFile => exact ⟨rfl, related⟩
    | file file =>
        dsimp only
        by_cases refused :
            (!AvatarHttp.formats.contains
              (trimStart (str ".") (toLower (pathExt file.filename)))) = true
        · rw [if_pos refused, if_pos refused]
          exact ⟨rfl, related⟩
        · rw [if_neg refused, if_neg refused]
          cases file.content with
          | error message => exact ⟨rfl, related⟩
          | ok data =>
              obtain ⟨same, next⟩ := refines.save unix write 0 data related
              dsimp only
              generalize store.save unix write 0 data s = first at same next ⊢
              generalize spec.save unix (effect write) 0 data g = second at same next ⊢
              obtain ⟨result, after⟩ := first
              obtain ⟨result', after'⟩ := second
              cases same
              cases result with
              | error message => exact ⟨rfl, next⟩
              | ok stored => exact ⟨rfl, next⟩

/-- The service over the store is the service over the gallery. -/
theorem simulates (refines : store.Refines effect spec shows) (toLower : Bytes → Bytes) :
    Simulates (serveAvatar toLower store) (AvatarRequest.mapWrite effect)
      (serveAvatar toLower spec) shows where
  answer request {s g} related := by
    cases request with
    | upload unix write req =>
        exact congrArg AvatarAnswer.upload (refines.upload unix write req related).1
    | delete userId => rfl
    | getUrl userId =>
        show AvatarAnswer.getUrl (AvatarService.getUrl store userId s) =
          .getUrl (AvatarService.getUrl spec userId g)
        rw [AvatarService.getUrl, AvatarService.getUrl, refines.find userId related]
    | httpUpload unix write request =>
        exact congrArg AvatarAnswer.http
          (refines.handleUpload toLower unix write request related).1
  next request {s g} related := by
    cases request with
    | upload unix write req => exact (refines.upload unix write req related).2
    | delete userId => exact refines.delete userId related
    | getUrl userId => exact related
    | httpUpload unix write request =>
        exact (refines.handleUpload toLower unix write request related).2

end Storage.Refines

/-! ### Named contents that are a gallery -/

/-- What stands under each name are the pictures of the gallery. -/
def ShowsGallery (content : Bytes → Option Bytes) (g : Gallery) : Prop :=
  ∀ name data, content name = some data ↔
    ∃ id unix, name = avatarFilename id unix ∧ g id = some (unix, data)

namespace ShowsGallery

variable {content after : Bytes → Option Bytes} {g : Gallery} {id unix : Int} {name data : Bytes}

theorem of_empty (noneThere : ∀ name, content name = none) : ShowsGallery content .empty := by
  intro name data
  rw [noneThere]
  refine iff_of_false (Option.some_ne_none data).symm ?_
  rintro ⟨id, unix, -, found⟩
  exact Option.some_ne_none _ found.symm

/-- A name with the prefix of an id is that of its picture. -/
theorem of_hasPrefix (shown : ShowsGallery content g) (there : content name = some data)
    (isFile : avatarPrefix id <+: name) :
    ∃ unix, name = avatarFilename id unix ∧ g id = some (unix, data) := by
  obtain ⟨owner, unix, rfl, found⟩ := (shown name data).mp there
  obtain rfl := hasPrefix_iff.mp isFile
  exact ⟨unix, rfl, found⟩

theorem cleared (shown : ShowsGallery content g)
    (isAfter : ∀ name, after name = if avatarPrefix id <+: name then none else content name) :
    ShowsGallery after (g.set id none) := by
  intro name data
  rw [isAfter]
  by_cases isFile : avatarPrefix id <+: name
  · rw [if_pos isFile]
    refine iff_of_false (Option.some_ne_none data).symm ?_
    rintro ⟨owner, unix, rfl, found⟩
    obtain rfl := hasPrefix_iff.mp isFile
    rw [Gallery.set_self] at found
    exact Option.some_ne_none _ found.symm
  · rw [if_neg isFile, shown name data]
    refine exists_congr fun owner => exists_congr fun unix => and_congr_right ?_
    rintro rfl
    rw [Gallery.set_of_ne fun same => isFile (hasPrefix_iff.mpr same)]

theorem written (shown : ShowsGallery content g) (vacant : g id = none)
    (isAfter : ∀ name, after name =
      if name = avatarFilename id unix then some data else content name) :
    ShowsGallery after (g.set id (some (unix, data))) := by
  intro name stored
  rw [isAfter]
  by_cases isNew : name = avatarFilename id unix
  · rw [if_pos isNew]
    subst isNew
    constructor
    · intro same
      cases same
      exact ⟨id, unix, rfl, Gallery.set_self _ _ _⟩
    · rintro ⟨owner, time, isName, found⟩
      have own : avatarPrefix id <+: avatarFilename owner time :=
        isName ▸ hasPrefix_iff.mpr rfl
      obtain rfl := hasPrefix_iff.mp own
      rw [Gallery.set_self] at found
      cases found
      rfl
  · rw [if_neg isNew, shown name stored]
    refine exists_congr fun owner => exists_congr fun time => and_congr_right ?_
    rintro rfl
    by_cases same : owner = id
    · subst same
      rw [Gallery.set_self, vacant]
      refine iff_of_false (Option.some_ne_none _).symm ?_
      intro isSome
      cases isSome
      exact isNew rfl
    · rw [Gallery.set_of_ne same]

/-- The picture of an id after its old one was deleted and another was written. -/
theorem replaced (shown : ShowsGallery content g)
    (isAfter : ∀ name, after name =
      if name = avatarFilename id unix then some data
      else if avatarPrefix id <+: name then none else content name) :
    ShowsGallery after (g.set id (some (unix, data))) := by
  have empty : ShowsGallery (fun name => if avatarPrefix id <+: name then none else content name)
      (g.set id none) := shown.cleared fun _ => rfl
  have full := empty.written (Gallery.set_self id none g) isAfter
  rwa [Gallery.set_set] at full

end ShowsGallery

/-! ### Files -/

namespace FileStore

variable {dir : Directory} {g : Gallery} {id unix : Int}

/-- The gallery of the store's limits and addresses. -/
def gallery (s : FileStore) (lib : ImageLibrary ι) : Storage Gallery WriteEffect :=
  Gallery.storage (fun data => processImage lib data s.maxW s.maxH s.maxSize) s.url

theorem lookup_written (name data : Bytes) :
    ((deleteFiles id dir).insert (avatarFilename id unix) data).lookup name =
      if name = avatarFilename id unix then some data
      else if avatarPrefix id <+: name then none else dir.lookup name := by
  rw [GoMap.lookup_insert, lookup_deleteFiles]

theorem find_of_shows (s : FileStore) (lib : ImageLibrary ι)
    (shown : ShowsGallery (fun name => dir.lookup name) g) (id : Int) :
    s.find id dir = (s.gallery lib).find id g := by
  have named : ∀ name ∈ dir, avatarPrefix id <+: name →
      ∃ unix data, name = avatarFilename id unix ∧ g id = some (unix, data) := by
    intro name there isFile
    obtain ⟨data, isData⟩ := Option.isSome_iff_exists.mp (AList.lookup_isSome.mpr there)
    obtain ⟨unix, isName, found⟩ := shown.of_hasPrefix isData isFile
    exact ⟨unix, data, isName, found⟩
  show _ = match g id with
    | some (unix, _) => (avatarFilename id unix, s.url (avatarFilename id unix))
    | none => ([], [])
  cases current : g id with
  | none =>
      refine find_of_none (findFile_eq_none_iff.mpr ?_)
      intro name there isFile
      obtain ⟨unix, data, -, found⟩ := named name there isFile
      rw [current] at found
      exact Option.some_ne_none _ found.symm
  | some picture =>
      obtain ⟨unix, data⟩ := picture
      have there : dir.lookup (avatarFilename id unix) = some data :=
        (shown _ _).mpr ⟨id, unix, rfl, current⟩
      refine find_of_findFile (findFile_eq_some ?_ (hasPrefix_iff.mpr rfl) ?_)
      · rw [← AList.lookup_isSome, there]
        rfl
      · intro other otherThere isFile
        obtain ⟨time, stored, isName, found⟩ := named other otherThere isFile
        rw [current] at found
        cases found
        exact isName

/-- The files are the pictures of the gallery, whatever comes of the writes. -/
theorem refines_gallery (s : FileStore) (lib : ImageLibrary ι) :
    (s.storage lib).Refines WriteOutcome.effect (s.gallery lib)
      fun dir g => ShowsGallery (fun name => dir.lookup name) g where
  save unix write id data {dir g} shown := by
    show (s.save lib unix write id data dir).1 = _ ∧
      ShowsGallery (fun name => (s.save lib unix write id data dir).2.lookup name) _
    unfold gallery
    cases checked : processImage lib data s.maxW s.maxH s.maxSize with
    | error message =>
        rw [save_of_error checked, Gallery.save_of_error checked]
        exact ⟨rfl, shown⟩
    | ok png =>
        rw [save_of_ok checked, Gallery.save_of_ok checked]
        cases write with
        | ok => exact ⟨rfl, shown.replaced fun name => lookup_written name png⟩
        | openFails message => exact ⟨rfl, shown.cleared fun name => lookup_deleteFiles id dir name⟩
        | writeFails message count =>
            exact ⟨rfl, shown.replaced fun name => lookup_written name (png.take count)⟩
  delete id {dir g} shown := shown.cleared fun name => lookup_deleteFiles id dir name
  find id {dir g} shown := s.find_of_shows lib shown id

end FileStore

/-! ### Objects -/

namespace ObjectStore

variable {base bucket : Bucket} {g : Gallery} {id unix : Int}

/-- The data under the key of each name. -/
def contents (bucket : Bucket) (name : Bytes) : Option Bytes :=
  (bucket.lookup (key name)).map StoredObject.data

/-- The avatars are the pictures of the gallery, typed as such, and all other
objects are those of `base`. -/
structure Shows (base bucket : Bucket) (g : Gallery) : Prop where
  pictures : ShowsGallery (contents bucket) g
  types : ∀ name object, bucket.lookup (key name) = some object →
    object.contentType = str "image/png"
  others : ∀ other, ¬ key [] <+: other → bucket.lookup other = base.lookup other

/-- The gallery of the store's limits and addresses. -/
def gallery (s : ObjectStore) (lib : ImageLibrary ι) : Storage Gallery WriteEffect :=
  Gallery.storage (fun data => processImage lib data s.maxW s.maxH s.maxSize) s.url

theorem lookup_deleteByPrefix (id : Int) (bucket : Bucket) (name : Bytes) :
    (deleteByPrefix id bucket).lookup (key name) =
      if avatarPrefix id <+: name then none else bucket.lookup (key name) := by
  rw [deleteByPrefix, Bucket.lookup_removeListed]
  simp only [key_prefix_iff]

theorem contents_deleteByPrefix (id : Int) (bucket : Bucket) (name : Bytes) :
    contents (deleteByPrefix id bucket) name =
      if avatarPrefix id <+: name then none else contents bucket name := by
  rw [contents, lookup_deleteByPrefix]
  split <;> rfl

theorem lookup_insert_key (bucket : Bucket) (written name : Bytes) (object : StoredObject) :
    (bucket.insert (key written) object).lookup (key name) =
      if name = written then some object else bucket.lookup (key name) := by
  rw [GoMap.lookup_insert]
  simp only [key_injective.eq_iff]

theorem contents_put (name data : Bytes) :
    contents ((deleteByPrefix id bucket).insert (key (avatarFilename id unix))
        ⟨data, str "image/png"⟩) name =
      if name = avatarFilename id unix then some data
      else if avatarPrefix id <+: name then none else contents bucket name := by
  rw [contents, lookup_insert_key, ← contents_deleteByPrefix]
  split <;> rfl

/-- Every key of the store starts alike. -/
theorem key_of_nil (name : Bytes) : key [] <+: key name :=
  ⟨name, by rw [key, key, List.append_assoc]; rfl⟩

theorem Shows.cleared (shown : Shows base bucket g) (id : Int) :
    Shows base (deleteByPrefix id bucket) (g.set id none) where
  pictures := shown.pictures.cleared (contents_deleteByPrefix id bucket)
  types name object there := by
    rw [lookup_deleteByPrefix] at there
    split at there
    · cases there
    · exact shown.types name object there
  others other outside := by
    have unlisted : ¬ key (avatarPrefix id) <+: other :=
      fun listed => outside ((key_of_nil _).trans listed)
    rw [deleteByPrefix, Bucket.lookup_removeListed, if_neg unlisted]
    exact shown.others other outside

theorem Shows.replaced (shown : Shows base bucket g) (id unix : Int) (data : Bytes) :
    Shows base ((deleteByPrefix id bucket).insert (key (avatarFilename id unix))
      ⟨data, str "image/png"⟩) (g.set id (some (unix, data))) where
  pictures := shown.pictures.replaced fun name => contents_put name data
  types name object there := by
    rw [lookup_insert_key] at there
    split at there
    · cases there
      rfl
    · exact (shown.cleared id).types name object there
  others other outside := by
    have different : other ≠ key (avatarFilename id unix) := by
      rintro rfl
      exact outside (key_of_nil _)
    rw [GoMap.lookup_insert, if_neg different]
    exact (shown.cleared id).others other outside

/-- Names of avatars have no slash. -/
theorem slash_notMem_avatarFilename (id unix : Int) : (47 : UInt8) ∉ avatarFilename id unix := by
  have number : ∀ n : Int, (47 : UInt8) ∉ intText n := by
    intro n member
    rcases mem_intText member with sign | digit
    · exact absurd sign (by decide)
    · exact absurd digit (by decide)
  intro member
  rcases List.mem_append.mp member with first | later
  · exact number id first
  · rcases List.mem_cons.mp later with separator | rest
    · exact absurd separator (by decide)
    · rcases List.mem_append.mp rest with second | ending
      · exact number unix second
      · exact absurd ending (by decide +kernel)

theorem pathBase_key (id unix : Int) :
    pathBase (key (avatarFilename id unix)) = avatarFilename id unix :=
  pathBase_append (slash_notMem_avatarFilename id unix)
    (ne_nil_of_hasPrefix (hasPrefix_iff.mpr (Eq.refl id)))

theorem find_of_shows (s : ObjectStore) (lib : ImageLibrary ι)
    (shown : ShowsGallery (contents bucket) g) (id : Int) :
    s.find id bucket = (s.gallery lib).find id g := by
  have named : ∀ listed ∈ bucket, key (avatarPrefix id) <+: listed →
      ∃ unix data, listed = key (avatarFilename id unix) ∧ g id = some (unix, data) := by
    intro listed there isAvatar
    obtain ⟨name, rfl⟩ := exists_name isAvatar
    obtain ⟨object, isObject⟩ := Option.isSome_iff_exists.mp (AList.lookup_isSome.mpr there)
    have isData : contents bucket name = some object.data := by
      rw [contents, isObject]
      rfl
    obtain ⟨unix, rfl, found⟩ := shown.of_hasPrefix isData (key_prefix_iff.mp isAvatar)
    exact ⟨unix, object.data, rfl, found⟩
  show s.find id bucket = match g id with
    | some (unix, _) => (avatarFilename id unix, s.url (avatarFilename id unix))
    | none => ([], [])
  cases current : g id with
  | none =>
      have nothing : bucket.listObjects (key (avatarPrefix id)) = [] := by
        refine Bucket.listObjects_eq_nil ?_
        intro listed there isAvatar
        obtain ⟨unix, data, -, found⟩ := named listed there isAvatar
        rw [current] at found
        exact Option.some_ne_none _ found.symm
      rw [find, nothing]
      rfl
  | some picture =>
      obtain ⟨unix, data⟩ := picture
      have there : contents bucket (avatarFilename id unix) = some data :=
        (shown _ _).mpr ⟨id, unix, rfl, current⟩
      have first : (bucket.listObjects (key (avatarPrefix id))).head? =
          some (key (avatarFilename id unix)) := by
        refine Bucket.listObjects_head? ?_ (key_prefix_iff.mpr (hasPrefix_iff.mpr rfl)) ?_
        · rw [← AList.lookup_isSome, ← Option.isSome_map, ← contents, there]
          rfl
        · intro other otherThere isAvatar
          obtain ⟨time, stored, isKey, found⟩ := named other otherThere isAvatar
          rw [current] at found
          cases found
          exact isKey
      rw [find, first]
      dsimp only
      rw [pathBase_key]

theorem save_of_error {s : ObjectStore} {lib : ImageLibrary ι} {put : PutOutcome}
    {data message : Bytes}
    (refused : processImage lib data s.maxW s.maxH s.maxSize = .error message) :
    s.save lib unix put id data bucket = (.error message, bucket) := by
  rw [save, refused]

theorem save_of_ok {s : ObjectStore} {lib : ImageLibrary ι} {put : PutOutcome} {data png : Bytes}
    (accepted : processImage lib data s.maxW s.maxH s.maxSize = .ok png) :
    s.save lib unix put id data bucket =
      match put with
      | .ok => (.ok (avatarFilename id unix, s.url (avatarFilename id unix)),
          (deleteByPrefix id bucket).insert (key (avatarFilename id unix)) ⟨png, str "image/png"⟩)
      | .fails message => (.error (str "上传对象失败: " ++ message), deleteByPrefix id bucket) := by
  unfold save
  rw [accepted]
  cases put with
  | ok => rfl
  | fails message => rfl

/-- The avatars are the pictures of the gallery, whatever comes of the uploads. -/
theorem refines_gallery (s : ObjectStore) (lib : ImageLibrary ι) (base : Bucket) :
    (s.storage lib).Refines PutOutcome.effect (s.gallery lib) (Shows base) where
  save unix put id data {bucket g} shown := by
    show (s.save lib unix put id data bucket).1 = _ ∧
      Shows base (s.save lib unix put id data bucket).2 _
    unfold gallery
    cases checked : processImage lib data s.maxW s.maxH s.maxSize with
    | error message =>
        rw [save_of_error checked, Gallery.save_of_error checked]
        exact ⟨rfl, shown⟩
    | ok png =>
        rw [save_of_ok checked, Gallery.save_of_ok checked]
        cases put with
        | ok => exact ⟨rfl, shown.replaced id unix png⟩
        | fails message => exact ⟨rfl, shown.cleared id⟩
  delete id {bucket g} shown := shown.cleared id
  find id {bucket g} shown := s.find_of_shows lib shown.pictures id

end ObjectStore

/-! ### The service over either store -/

/-- An answer but for the address of the picture. -/
def AvatarAnswer.withoutUrl : AvatarAnswer → AvatarAnswer
  | .upload rsp => .upload { rsp with url := [] }
  | .common rsp => .common rsp
  | .getUrl rsp => .getUrl { rsp with url := [] }
  | .http (.error status text) => .http (.error status text)
  | .http (.json status body) =>
      .http (.json status { body with stored := body.stored.map fun stored => (stored.1, []) })

namespace Gallery

variable {check : Bytes → Except Bytes Bytes} {toLower : Bytes → Bytes}

/-- The addresses of a gallery show in its answers only. -/
theorem serve_withoutUrl (first second : Bytes → Bytes) (request : AvatarRequest WriteEffect)
    (g : Gallery) :
    Prod.map AvatarAnswer.withoutUrl id
        (serveAvatar toLower (Gallery.storage check first) request g) =
      Prod.map AvatarAnswer.withoutUrl id
        (serveAvatar toLower (Gallery.storage check second) request g) := by
  cases request with
  | upload unix write req =>
      unfold serveAvatar AvatarService.upload
      by_cases empty : req.imageData = []
      · simp only [if_pos empty]
      · simp only [if_neg empty]
        cases checked : check req.imageData with
        | error message => rw [save_of_error checked, save_of_error checked]
        | ok png =>
            rw [save_of_ok checked, save_of_ok checked]
            cases write.error <;> rfl
  | delete userId => rfl
  | getUrl userId =>
      unfold serveAvatar AvatarService.getUrl storage
      dsimp only
      cases g userId with
      | none => rfl
      | some picture =>
          have named : avatarFilename userId picture.1 ≠ [] :=
            ne_nil_of_hasPrefix (hasPrefix_iff.mpr (Eq.refl userId))
          dsimp only
          rw [if_neg named, if_neg named]
          rfl
  | httpUpload unix write request =>
      unfold serveAvatar AvatarHttp.handleUpload
      dsimp only
      by_cases posted : request.method ≠ HttpServer.methodPost
      · rw [if_pos posted, if_pos posted]
      · rw [if_neg posted, if_neg posted]
        cases request.form with
        | malformed => rfl
        | noFile => rfl
        | file file =>
            dsimp only
            by_cases refused :
                (!AvatarHttp.formats.contains
                  (trimStart (str ".") (toLower (pathExt file.filename)))) = true
            · rw [if_pos refused, if_pos refused]
            · rw [if_neg refused, if_neg refused]
              cases file.content with
              | error message => rfl
              | ok data =>
                  cases checked : check data with
                  | error message => simp only [save_of_error checked]
                  | ok png =>
                      simp only [save_of_ok checked]
                      cases write.error <;> rfl

variable (check toLower) in
theorem serveAll_withoutUrl (first second : Bytes → Bytes)
    (requests : List (AvatarRequest WriteEffect)) (g : Gallery) :
    Prod.map (List.map AvatarAnswer.withoutUrl) id
        (serveAll (serveAvatar toLower (Gallery.storage check first)) requests g) =
      Prod.map (List.map AvatarAnswer.withoutUrl) id
        (serveAll (serveAvatar toLower (Gallery.storage check second)) requests g) := by
  rw [← serveAll_map, ← serveAll_map]
  congr 1
  funext request g
  exact serve_withoutUrl first second request g

end Gallery

namespace FileStore

/-- From an empty directory, the service over files is the one over the gallery. -/
theorem serves_gallery (s : FileStore) (lib : ImageLibrary ι) (toLower : Bytes → Bytes)
    (requests : List (AvatarRequest WriteOutcome)) :
    let served := serveAll (serveAvatar toLower (s.storage lib)) requests ∅
    let meant := serveAll (serveAvatar toLower (s.gallery lib))
      (requests.map (AvatarRequest.mapWrite WriteOutcome.effect)) Gallery.empty
    served.1 = meant.1 ∧ ShowsGallery (fun name => served.2.lookup name) meant.2 := by
  have noFiles : ShowsGallery (fun name => (∅ : Directory).lookup name) Gallery.empty :=
    .of_empty fun name => AList.lookup_empty name
  exact ((s.refines_gallery lib).simulates toLower).run requests noFiles

end FileStore

namespace ObjectStore

/-- The same for the service over a bucket without avatars. -/
theorem serves_gallery (s : ObjectStore) (lib : ImageLibrary ι) (toLower : Bytes → Bytes)
    {base : Bucket} (vacant : ∀ listed ∈ base, ¬ key [] <+: listed)
    (requests : List (AvatarRequest PutOutcome)) :
    let served := serveAll (serveAvatar toLower (s.storage lib)) requests base
    let meant := serveAll (serveAvatar toLower (s.gallery lib))
      (requests.map (AvatarRequest.mapWrite PutOutcome.effect)) Gallery.empty
    served.1 = meant.1 ∧ Shows base served.2 meant.2 := by
  have unkeyed : ∀ name, base.lookup (key name) = none := by
    intro name
    rw [AList.lookup_eq_none]
    exact fun there => vacant _ there (key_of_nil name)
  have noObjects : Shows base base Gallery.empty :=
    { pictures := .of_empty fun name => by
        rw [contents, unkeyed]
        rfl
      types := fun name object there => by
        rw [unkeyed] at there
        cases there
      others := fun _ _ => rfl }
  exact ((s.refines_gallery lib base).simulates toLower).run requests noObjects

end ObjectStore

theorem AvatarRequest.mapWrite_mapWrite {ω' ω'' : Type} (first : ω → ω') (second : ω' → ω'')
    (request : AvatarRequest ω) :
    (request.mapWrite first).mapWrite second = request.mapWrite (second ∘ first) := by
  cases request <;> rfl

theorem ShowsGallery.ext {first second : Bytes → Option Bytes} {g : Gallery}
    (isFirst : ShowsGallery first g) (isSecond : ShowsGallery second g) : first = second := by
  funext name
  ext data
  rw [isFirst name data, isSecond name data]

/-- With the same limits and writes that succeed, the two stores give the same answers
but for the addresses, and hold the same pictures under the same names. -/
theorem avatar_backends_agree (toLower : Bytes → Bytes) (lib : ImageLibrary ι)
    (httpURL publicBase : Bytes) (maxSize : Int) (maxW maxH : Nat)
    (requests : List (AvatarRequest Unit)) :
    let onFiles := serveAll
      (serveAvatar toLower (FileStore.storage ⟨httpURL, maxSize, maxW, maxH⟩ lib))
      (requests.map (AvatarRequest.mapWrite fun _ => .ok)) ∅
    let onObjects := serveAll
      (serveAvatar toLower (ObjectStore.storage ⟨publicBase, maxSize, maxW, maxH⟩ lib))
      (requests.map (AvatarRequest.mapWrite fun _ => .ok)) ∅
    onFiles.1.map AvatarAnswer.withoutUrl = onObjects.1.map AvatarAnswer.withoutUrl ∧
      ∀ name, onFiles.2.lookup name = ObjectStore.contents onObjects.2 name := by
  intro onFiles onObjects
  let files : FileStore := ⟨httpURL, maxSize, maxW, maxH⟩
  let objects : ObjectStore := ⟨publicBase, maxSize, maxW, maxH⟩
  let meant := requests.map (AvatarRequest.mapWrite fun _ => (⟨none, some⟩ : WriteEffect))
  have vacant : ∀ listed ∈ (∅ : Bucket), ¬ ObjectStore.key [] <+: listed :=
    fun listed there => absurd there (AList.notMem_empty listed)
  obtain ⟨fileAnswers, fileShows⟩ := files.serves_gallery lib toLower
    (requests.map (AvatarRequest.mapWrite fun _ => .ok))
  obtain ⟨objectAnswers, objectShows⟩ := objects.serves_gallery lib toLower vacant
    (requests.map (AvatarRequest.mapWrite fun _ => .ok))
  have fileRequests : (requests.map (AvatarRequest.mapWrite fun _ => WriteOutcome.ok)).map
      (AvatarRequest.mapWrite WriteOutcome.effect) = meant := by
    rw [List.map_map]
    exact List.map_congr_left fun request _ => request.mapWrite_mapWrite _ _
  have objectRequests : (requests.map (AvatarRequest.mapWrite fun _ => PutOutcome.ok)).map
      (AvatarRequest.mapWrite PutOutcome.effect) = meant := by
    rw [List.map_map]
    exact List.map_congr_left fun request _ => request.mapWrite_mapWrite _ _
  rw [fileRequests] at fileAnswers fileShows
  rw [objectRequests] at objectAnswers objectShows
  -- Both galleries have the same limits and differ in their addresses.
  have alike := Gallery.serveAll_withoutUrl
    (fun data => processImage lib data maxW maxH maxSize) toLower files.url objects.url meant
    Gallery.empty
  have sameAnswers := congrArg Prod.fst alike
  have sameGallery := congrArg Prod.snd alike
  refine ⟨?_, fun name => ?_⟩
  · exact (congrArg _ fileAnswers).trans (sameAnswers.trans (congrArg _ objectAnswers).symm)
  · have shown : ShowsGallery (fun name => onFiles.2.lookup name)
        (serveAll (serveAvatar toLower (objects.gallery lib)) meant Gallery.empty).2 :=
      sameGallery ▸ fileShows
    exact congrFun (shown.ext objectShows.pictures) name

end AimServer
