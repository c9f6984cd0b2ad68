import AimServer.Avatar.FileStore
import AimServer.Lib.Run

/-!
Contract: one avatar file for each id.

Owns: that the prefix of an id fits its own files only, what deleting and writing
do to the files of each id, and what `Find` shows after any sequence of calls.
-/

namespace AimServer

open AimServer.Lib

variable {ι : Type}

/-! ### Names -/

/-- No name has the prefixes of two ids. -/
theorem hasPrefix_unique {id other : Int} {name : Bytes} (isFile : avatarPrefix id <+: name)
    (isOther : avatarPrefix other <+: name) : id = other := by
  obtain ⟨rest, isName⟩ := isFile
  obtain ⟨rest', isName'⟩ := isOther
  rw [← isName', avatarPrefix, avatarPrefix, List.append_assoc, List.append_assoc] at isName
  exact (intText_separated_inj (by decide) isName).1

/-- The prefix of an id fits the files of this id. -/
theorem hasPrefix_iff {id owner unix : Int} :
    avatarPrefix id <+: avatarFilename owner unix ↔ owner = id := by
  have own : avatarPrefix owner <+: avatarFilename owner unix := by
    refine ⟨intText unix ++ str ".png", ?_⟩
    rw [avatarPrefix, List.append_assoc]
    rfl
  constructor
  · intro isFile
    exact hasPrefix_unique own isFile
  · rintro rfl
    exact own

theorem ne_nil_of_hasPrefix {id : Int} {name : Bytes} (isFile : avatarPrefix id <+: name) :
    name ≠ [] := by
  rintro rfl
  have empty := List.prefix_nil.mp isFile
  rw [avatarPrefix] at empty
  exact List.append_ne_nil_of_right_ne_nil _ (List.cons_ne_nil _ _) empty

theorem mem_readDir {dir : Directory} {name : Bytes} : name ∈ readDir dir ↔ name ∈ dir := by
  rw [readDir, (List.perm_insertionSort _ _).mem_iff]
  exact AList.mem_keys.symm

namespace FileStore

variable {dir : Directory} {id : Int} {name : Bytes}

/-! ### Deleting and finding -/

theorem lookup_deleteFiles (id : Int) (dir : Directory) (name : Bytes) :
    (deleteFiles id dir).lookup name =
      if avatarPrefix id <+: name then none else dir.lookup name := by
  rw [deleteFiles, GoMap.lookup_eraseAll]
  simp only [mem_readDir]
  by_cases isFile : avatarPrefix id <+: name
  · by_cases there : name ∈ dir
    · simp [isFile, there]
    · simp [isFile, AList.lookup_eq_none.mpr there]
  · simp [isFile]

theorem mem_deleteFiles :
    name ∈ deleteFiles id dir ↔ ¬ avatarPrefix id <+: name ∧ name ∈ dir := by
  rw [← AList.lookup_isSome, ← AList.lookup_isSome, lookup_deleteFiles]
  split <;> simp [*]

theorem findFile_eq_none_iff :
    findFile id dir = none ↔ ∀ name ∈ dir, ¬ avatarPrefix id <+: name := by
  rw [findFile, List.find?_eq_none]
  simp only [mem_readDir, decide_eq_true_eq]

theorem mem_of_findFile (found : findFile id dir = some name) :
    name ∈ dir ∧ avatarPrefix id <+: name :=
  ⟨mem_readDir.mp (List.mem_of_find?_eq_some found),
    of_decide_eq_true (List.find?_some (p := fun name => decide (avatarPrefix id <+: name)) found)⟩

/-- The only file of an id is found. -/
theorem findFile_eq_some (there : name ∈ dir) (isFile : avatarPrefix id <+: name)
    (only : ∀ other ∈ dir, avatarPrefix id <+: other → other = name) :
    findFile id dir = some name := by
  cases found : findFile id dir with
  | none => exact absurd isFile (findFile_eq_none_iff.mp found name there)
  | some other =>
      obtain ⟨otherThere, isOther⟩ := mem_of_findFile found
      rw [only other otherThere isOther]

theorem findFile_deleteFiles : findFile id (deleteFiles id dir) = none := by
  rw [findFile_eq_none_iff]
  intro name there
  exact (mem_deleteFiles.mp there).1

/-- After the deletion a new file of the id is the only one. -/
theorem findFile_written (unix : Int) (data : Bytes) :
    findFile id ((deleteFiles id dir).insert (avatarFilename id unix) data) =
      some (avatarFilename id unix) := by
  apply findFile_eq_some
  · exact (AList.mem_insert _).mpr (Or.inl rfl)
  · exact hasPrefix_iff.mpr rfl
  · intro other there isFile
    rcases (AList.mem_insert _).mp there with isNew | old
    · exact isNew
    · exact absurd isFile (mem_deleteFiles.mp old).1

end FileStore

/-! ### Tidy directories -/

/-- A directory of avatar files, at most one for each id. -/
structure Tidy (dir : Directory) : Prop where
  named : ∀ name ∈ dir, ∃ id unix, name = avatarFilename id unix
  single : ∀ id first second, avatarFilename id first ∈ dir → avatarFilename id second ∈ dir →
    avatarFilename id first = avatarFilename id second

theorem tidy_empty : Tidy ∅ where
  named name there := absurd there (AList.notMem_empty name)
  single _ _ _ there := absurd there (AList.notMem_empty _)

namespace Tidy

variable {dir next : Directory} {id : Int}

/-- Files with the prefix of an id are its one file. -/
theorem eq_of_hasPrefix (tidy : Tidy dir) {first second : Bytes} (firstThere : first ∈ dir)
    (secondThere : second ∈ dir) (isFirst : avatarPrefix id <+: first)
    (isSecond : avatarPrefix id <+: second) : first = second := by
  obtain ⟨owner, unix, rfl⟩ := tidy.named first firstThere
  obtain ⟨other, unix', rfl⟩ := tidy.named second secondThere
  obtain rfl := hasPrefix_iff.mp isFirst
  obtain rfl := hasPrefix_iff.mp isSecond
  exact tidy.single _ unix unix' firstThere secondThere

theorem findFile_eq_some_iff (tidy : Tidy dir) {name : Bytes} :
    FileStore.findFile id dir = some name ↔ name ∈ dir ∧ avatarPrefix id <+: name := by
  constructor
  · exact FileStore.mem_of_findFile
  · rintro ⟨there, isFile⟩
    apply FileStore.findFile_eq_some there isFile
    intro other otherThere isOther
    exact tidy.eq_of_hasPrefix otherThere there isOther isFile

/-- What is found depends on the files with the prefix. -/
theorem findFile_congr (tidy : Tidy dir) (tidyNext : Tidy next)
    (same : ∀ name, avatarPrefix id <+: name → next.lookup name = dir.lookup name) :
    FileStore.findFile id next = FileStore.findFile id dir := by
  ext name
  rw [tidy.findFile_eq_some_iff, tidyNext.findFile_eq_some_iff]
  refine and_congr_left fun isFile => ?_
  rw [← AList.lookup_isSome, same name isFile, AList.lookup_isSome]

end Tidy

/-! ### One call -/

/-- A call about an id that succeeds: files of other ids stay, those of the id are one
file or none, and `Find` shows the names of the call. -/
structure Replaces (s : FileStore) (id : Int) (names : Bytes × Bytes) (dir next : Directory) :
    Prop where
  others : ∀ name, ¬ avatarPrefix id <+: name → next.lookup name = dir.lookup name
  own : ∃ unix, ∀ name ∈ next, avatarPrefix id <+: name → name = avatarFilename id unix
  shown : s.find id next = names

theorem Replaces.tidy {s : FileStore} {id : Int} {names : Bytes × Bytes} {dir next : Directory}
    (replaces : Replaces s id names dir next) (tidy : Tidy dir) : Tidy next := by
  obtain ⟨unix, own⟩ := replaces.own
  have old : ∀ name ∈ next, ¬ avatarPrefix id <+: name → name ∈ dir := by
    intro name there notOwn
    rw [← AList.lookup_isSome, ← replaces.others name notOwn]
    exact AList.lookup_isSome.mpr there
  refine ⟨?_, ?_⟩
  · intro name there
    by_cases isFile : avatarPrefix id <+: name
    · exact ⟨id, unix, own name there isFile⟩
    · exact tidy.named name (old name there isFile)
  · intro owner first second firstThere secondThere
    by_cases same : owner = id
    · rw [own _ firstThere (hasPrefix_iff.mpr same), own _ secondThere (hasPrefix_iff.mpr same)]
    · have notOwn : ∀ unix, ¬ avatarPrefix id <+: avatarFilename owner unix := by
        intro unix isFile
        exact same (hasPrefix_iff.mp isFile)
      exact tidy.single owner first second (old _ firstThere (notOwn first))
        (old _ secondThere (notOwn second))

namespace FileStore

variable {s : FileStore} {lib : ImageLibrary ι} {dir : Directory}

theorem find_of_findFile {id : Int} {name : Bytes} (found : findFile id dir = some name) :
    s.find id dir = (name, s.url name) := by
  rw [find, found]

theorem find_of_none {id : Int} (none : findFile id dir = none) : s.find id dir = ([], []) := by
  rw [find, none]

theorem replaces_delete (id : Int) (dir : Directory) :
    Replaces s id ([], []) dir (deleteFiles id dir) where
  others := by
    intro name notOwn
    rw [lookup_deleteFiles, if_neg notOwn]
  own := ⟨0, fun name there isFile => absurd isFile (mem_deleteFiles.mp there).1⟩
  shown := find_of_none findFile_deleteFiles

theorem replaces_save (id unix : Int) (data : Bytes) (dir : Directory) :
    Replaces s id (avatarFilename id unix, s.url (avatarFilename id unix)) dir
      ((deleteFiles id dir).insert (avatarFilename id unix) data) where
  others := by
    intro name notOwn
    have different : name ≠ avatarFilename id unix := by
      rintro rfl
      exact notOwn (hasPrefix_iff.mpr rfl)
    rw [AList.lookup_insert_ne different, lookup_deleteFiles, if_neg notOwn]
  own := by
    refine ⟨unix, ?_⟩
    intro name there isFile
    rcases (AList.mem_insert _).mp there with isNew | old
    · exact isNew
    · exact absurd isFile (mem_deleteFiles.mp old).1
  shown := find_of_findFile (findFile_written unix data)

section Save

variable {unix id : Int} {write : WriteOutcome} {data : Bytes}

theorem save_of_error {message : Bytes}
    (failed : processImage lib data s.maxW s.maxH s.maxSize = .error message) :
    s.save lib unix write id data dir = (.error message, dir) := by
  rw [save, failed]

theorem save_of_ok {png : Bytes}
    (isPng : processImage lib data s.maxW s.maxH s.maxSize = .ok png) :
    s.save lib unix write id data dir =
      match writeFile (avatarFilename id unix) png (deleteFiles id dir) write with
      | (.error message, dir) => (.error (str "写入文件失败: " ++ message), dir)
      | (.ok _, dir) => (.ok (avatarFilename id unix, s.url (avatarFilename id unix)), dir) := by
  unfold save
  split
  · rename_i failed
    rw [isPng] at failed
    cases failed
  · rename_i other isOther
    rw [isPng] at isOther
    cases isOther
    rfl

end Save

/-- What a call does: nothing, with an error, or its replacement. -/
theorem step_cases (s : FileStore) (lib : ImageLibrary ι) (dir : Directory) (call : AvatarCall) :
    (∃ message, s.answer lib dir call = .error message ∧ s.step lib dir call = dir) ∨
      ∃ names, s.answer lib dir call = .ok names ∧
        Replaces s call.id names dir (s.step lib dir call) := by
  cases call with
  | save id unix data =>
      unfold answer step
      cases image : processImage lib data s.maxW s.maxH s.maxSize with
      | error message =>
          dsimp only
          rw [save_of_error image]
          exact Or.inl ⟨message, rfl, rfl⟩
      | ok png =>
          dsimp only
          rw [save_of_ok image]
          exact Or.inr ⟨_, rfl, replaces_save id unix png dir⟩
  | delete id => exact Or.inr ⟨_, rfl, replaces_delete id dir⟩

theorem tidy_step (tidy : Tidy dir) (call : AvatarCall) : Tidy (s.step lib dir call) := by
  rcases s.step_cases lib dir call with ⟨message, -, isNext⟩ | ⟨names, -, replaces⟩
  · rw [isNext]
    exact tidy
  · exact replaces.tidy tidy

theorem tidy_run (tidy : Tidy dir) (calls : List AvatarCall) :
    Tidy (run (s.step lib) dir calls) :=
  run_keeps Tidy (fun _ call tidy => tidy_step tidy call) tidy

/-- A call leaves the files of other ids. -/
theorem lookup_step (s : FileStore) (lib : ImageLibrary ι) (dir : Directory) (call : AvatarCall)
    {other : Int} (different : other ≠ call.id) (unix : Int) :
    (s.step lib dir call).lookup (avatarFilename other unix) =
      dir.lookup (avatarFilename other unix) := by
  rcases s.step_cases lib dir call with ⟨message, -, isNext⟩ | ⟨names, -, replaces⟩
  · rw [isNext]
  · apply replaces.others
    intro isOwn
    exact different (hasPrefix_iff.mp isOwn)

/-! ### Sequences of calls -/

/-- What `Find` shows of an id after a call, given what it showed before: a call that
succeeds decides for its own id. -/
def shownAfter (id : Int) (shown : Bytes × Bytes) :
    AvatarCall × Except Bytes (Bytes × Bytes) → Bytes × Bytes
  | (call, .ok names) => if call.id = id then names else shown
  | (_, .error _) => shown

theorem find_step (tidy : Tidy dir) (call : AvatarCall) (id : Int) :
    s.find id (s.step lib dir call) =
      shownAfter id (s.find id dir) (call, s.answer lib dir call) := by
  rcases s.step_cases lib dir call with ⟨message, isAnswer, isNext⟩ | ⟨names, isAnswer, replaces⟩
  · rw [isAnswer, isNext]
    rfl
  · rw [isAnswer, shownAfter]
    split
    · rename_i own
      rw [← own, replaces.shown]
    · rename_i other
      have same : findFile id (s.step lib dir call) = findFile id dir := by
        apply tidy.findFile_congr (replaces.tidy tidy)
        intro name isFile
        exact replaces.others name fun isOwn => other (hasPrefix_unique isOwn isFile)
      rw [find, same, find]

theorem find_run (tidy : Tidy dir) (calls : List AvatarCall) (id : Int) :
    s.find id (run (s.step lib) dir calls) =
      (s.answers lib dir calls).foldl (shownAfter id) (s.find id dir) := by
  induction calls generalizing dir with
  | nil => rfl
  | cons call rest inductionHypothesis =>
      rw [run_cons, inductionHypothesis (tidy_step tidy call), answers, List.foldl_cons,
        find_step tidy]

/-- From a directory that earlier calls of any file store wrote, after any calls there
is at most one file for each id, `Find` shows the names of the last call about the
id that succeeded, and a further call leaves the files of all other ids. No prefix
fits the files of another id. -/
theorem avatars_replaced {κ : Type} (s₀ : FileStore) (lib₀ : ImageLibrary κ)
    (past : List AvatarCall) (s : FileStore) (lib : ImageLibrary ι) (calls : List AvatarCall) :
    let start := run (s₀.step lib₀) ∅ past
    let dir := run (s.step lib) start calls
    Tidy dir ∧
      (∀ id, s.find id dir = (s.answers lib start calls).foldl (shownAfter id) (s.find id start)) ∧
      (∀ (call : AvatarCall) (other unix : Int), other ≠ call.id →
        (s.step lib dir call).lookup (avatarFilename other unix) =
          dir.lookup (avatarFilename other unix)) ∧
      ∀ id owner unix : Int, avatarPrefix id <+: avatarFilename owner unix ↔ owner = id := by
  have tidy : Tidy (run (s₀.step lib₀) ∅ past) := tidy_run tidy_empty past
  refine ⟨tidy_run tidy calls, find_run tidy calls, ?_, fun _ _ _ => hasPrefix_iff⟩
  intro call other unix different
  exact s.lookup_step lib _ call different unix

end FileStore

end AimServer
