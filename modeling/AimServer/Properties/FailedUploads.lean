import AimServer.Properties.Avatars

/-!
Contract: the old avatar after an upload that fails.

Owns: what a `Save` with an error leaves of the file of its id, when that is the
file there was before with its content, and the same for `Upload`.

`Save` deletes the old files before it writes the new one. An image that is
refused stops it before that; a write that fails comes too late.
-/

namespace AimServer

open AimServer.Lib

variable {ι : Type}

/-- The same file is found for an id, with the same content. -/
structure KeepsFile (s : FileStore) (id : Int) (dir after : Directory) : Prop where
  shown : s.find id after = s.find id dir
  content : ∀ name, FileStore.findFile id dir = some name → after.lookup name = dir.lookup name

/-- The old files of an id are none that a write of the data under a name loses: it
succeeds, or there is no file and it leaves none, or the only file there is has the
name and the bytes that it leaves. -/
def WriteOutcome.Spares (write : WriteOutcome) (id : Int) (name data : Bytes) (dir : Directory) :
    Prop :=
  match write with
  | .ok => True
  | .openFails _ => FileStore.findFile id dir = none
  | .writeFails _ count =>
      FileStore.findFile id dir = some name ∧ dir.lookup name = some (data.take count)

namespace FileStore

variable {s : FileStore} {lib : ImageLibrary ι} {unix id : Int} {write : WriteOutcome}
  {data : Bytes} {dir after : Directory}

theorem keeps_refl : KeepsFile s id dir dir := ⟨rfl, fun _ _ => rfl⟩

/-- `Find` shows the same exactly when it finds the same file. -/
theorem find_eq_iff : s.find id after = s.find id dir ↔ findFile id after = findFile id dir := by
  constructor
  · intro same
    cases found : findFile id after with
    | none =>
        cases before : findFile id dir with
        | none => rfl
        | some name =>
            rw [find_of_none found, find_of_findFile before] at same
            exact absurd (Prod.mk.inj same).1.symm (ne_nil_of_hasPrefix (mem_of_findFile before).2)
    | some name =>
        cases before : findFile id dir with
        | none =>
            rw [find_of_none before, find_of_findFile found] at same
            exact absurd (Prod.mk.inj same).1 (ne_nil_of_hasPrefix (mem_of_findFile found).2)
        | some other =>
            rw [find_of_findFile before, find_of_findFile found] at same
            rw [(Prod.mk.inj same).1]
  · intro same
    rw [find, same, find]

/-- Nothing is found after the deletion. -/
theorem keeps_deleted_iff :
    KeepsFile s id dir (deleteFiles id dir) ↔ findFile id dir = none := by
  constructor
  · intro keeps
    have same := find_eq_iff.mp keeps.shown
    rw [← same, findFile_deleteFiles]
  · intro nothing
    refine ⟨find_eq_iff.mpr ?_, ?_⟩
    · rw [findFile_deleteFiles, nothing]
    · intro name found
      rw [nothing] at found
      cases found

/-- After the deletion the file that is written is the only one. -/
theorem keeps_written_iff {content : Bytes} :
    KeepsFile s id dir ((deleteFiles id dir).insert (avatarFilename id unix) content) ↔
      findFile id dir = some (avatarFilename id unix) ∧
        dir.lookup (avatarFilename id unix) = some content := by
  constructor
  · intro keeps
    have same := find_eq_iff.mp keeps.shown
    rw [findFile_written] at same
    refine ⟨same.symm, ?_⟩
    rw [← keeps.content _ same.symm, AList.lookup_insert]
  · rintro ⟨found, isContent⟩
    refine ⟨find_eq_iff.mpr ?_, ?_⟩
    · rw [findFile_written, found]
    · intro name isFile
      rw [found] at isFile
      obtain rfl := Option.some.inj isFile
      rw [AList.lookup_insert, isContent]

/-- A `Save` with an error keeps the file of its id exactly when the image is refused
or the write spares it. -/
theorem save_keeps_iff :
    (∀ message, (s.save lib unix write id data dir).1 = .error message →
        KeepsFile s id dir (s.save lib unix write id data dir).2) ↔
      ∀ png, processImage lib data s.maxW s.maxH s.maxSize = .ok png →
        write.Spares id (avatarFilename id unix) png dir := by
  cases image : processImage lib data s.maxW s.maxH s.maxSize with
  | error message =>
      rw [save_of_error image]
      exact iff_of_true (fun _ _ => keeps_refl) (fun png isPng => by cases isPng)
  | ok png =>
      rw [save_of_ok image]
      simp only [Except.ok.injEq, forall_eq']
      cases write with
      | ok => simp [writeFile, WriteOutcome.Spares]
      | openFails message =>
          simp only [writeFile, Except.error.injEq, forall_eq']
          exact keeps_deleted_iff
      | writeFails message count =>
          simp only [writeFile, Except.error.injEq, forall_eq']
          exact keeps_written_iff

/-- With data, `Upload` is `Save` and fails where it does. -/
theorem upload_eq {req : UploadReq} (full : req.imageData ≠ []) :
    (s.upload lib unix write req dir).2 = (s.save lib unix write req.userId req.imageData dir).2 ∧
      ((s.upload lib unix write req dir).1.code ≠ 0 ↔
        ∃ message, (s.save lib unix write req.userId req.imageData dir).1 = .error message) := by
  unfold upload
  rw [if_neg full]
  rcases s.save lib unix write req.userId req.imageData dir with ⟨message | ⟨filename, url⟩, after⟩
  · simp
  · simp

/-- A `Save` with an error, and an `Upload` that is not answered with 0, keep the
file of the id exactly when there is no data, the image is refused, or the write
spares the file. -/
theorem failed_upload_keeps_iff (s : FileStore) (lib : ImageLibrary ι) (unix : Int)
    (write : WriteOutcome) (dir : Directory) :
    (∀ id data,
      (∀ message, (s.save lib unix write id data dir).1 = .error message →
          KeepsFile s id dir (s.save lib unix write id data dir).2) ↔
        ∀ png, processImage lib data s.maxW s.maxH s.maxSize = .ok png →
          write.Spares id (avatarFilename id unix) png dir) ∧
      ∀ req : UploadReq,
        ((s.upload lib unix write req dir).1.code ≠ 0 →
            KeepsFile s req.userId dir (s.upload lib unix write req dir).2) ↔
          req.imageData = [] ∨
            ∀ png, processImage lib req.imageData s.maxW s.maxH s.maxSize = .ok png →
              write.Spares req.userId (avatarFilename req.userId unix) png dir := by
  refine ⟨fun id data => save_keeps_iff, ?_⟩
  intro req
  by_cases noData : req.imageData = []
  · refine iff_of_true (fun _ => ?_) (Or.inl noData)
    rw [upload, if_pos noData]
    exact keeps_refl
  · rw [(upload_eq noData).1, (upload_eq noData).2, or_iff_right noData,
      ← save_keeps_iff, forall_exists_index]

/-! ### A full disk -/

namespace Sample

def store : FileStore := .new (str "http://localhost:8080/") 5 256 256

/-- The avatar of the id 7. -/
def directory : Directory := (∅ : Directory).insert (avatarFilename 7 100) (str "20x20")

/-- A `Save` at 200 whose file cannot be opened. -/
def failed : Except Bytes (Bytes × Bytes) × Directory :=
  store.save .sizes 200 (.openFails (str "no space left on device")) 7 (str "20") directory

end Sample

theorem full_disk_loses_avatar :
    Sample.failed.1 = .error (str "写入文件失败: no space left on device") ∧
      Sample.store.find 7 Sample.directory =
        (str "7_100.png", str "http://localhost:8080/avatars/7_100.png") ∧
      Sample.store.find 7 Sample.failed.2 = ([], []) := by
  decide +kernel

end FileStore

end AimServer
