import AimServer.Lib.Machine
import AimServer.Media.Server

/-!
Contract: media files are stored once and for all.

Owns: what a media store must do for its server, that both stores do it, and
that what was uploaded stays under its address through all later uploads.

Does not own: the addresses of other servers in the same bucket.
-/

namespace AimServer.Media

open AimServer.Lib

variable {σ ω : Type}

/-- The data and the extension that an upload is to store, if the server takes it. -/
def UploadRequest.accepted (toLower : Bytes → Bytes) (maxBytes : Int) (request : UploadRequest ω) :
    Option (Bytes × Bytes) :=
  if request.upload.method ≠ HttpServer.methodPost then none
  else
    match request.upload.form with
    | .file ⟨filename, .ok data⟩ =>
        if maxBytes < data.length then none else some (data, formExt toLower filename)
    | _ => none

/-- What an answer says was stored. -/
def storedIn : HttpReply UploadBody → Option Stored
  | .json _ body => body.stored
  | .error _ _ => none

/-- A store that writes under the drawn name and nowhere else, and whose addresses
lead to what stands there. -/
structure Storage.Adds (store : Storage σ ω) (toLower : Bytes → Bytes) (succeeds : ω → Bool)
    (content : σ → Bytes → Option Bytes) (fetch : Bytes → σ → Option Bytes) : Prop where
  stored : ∀ draw {write} data ext s, succeeds write = true →
    ∃ address, (store.save draw write data ext s).1 =
        .ok (uniqueFilename toLower draw ext, address) ∧
      content (store.save draw write data ext s).2 (uniqueFilename toLower draw ext) = some data ∧
      ∀ later, fetch address later = content later (uniqueFilename toLower draw ext)
  failed : ∀ draw {write} data ext s, succeeds write = false →
    ∃ message, (store.save draw write data ext s).1 = .error message
  others : ∀ draw write data ext s {name}, name ≠ uniqueFilename toLower draw ext →
    content (store.save draw write data ext s).2 name = content s name

/-- What is true of a request, its answer and the state at the end of the run. -/
structure Settled (toLower : Bytes → Bytes) (maxBytes : Int) (succeeds : ω → Bool)
    (fetch : Bytes → σ → Option Bytes) (request : UploadRequest ω) (answer : HttpReply UploadBody)
    (last : σ) : Prop where
  answered : (storedIn answer).isSome ↔
    (request.accepted toLower maxBytes).isSome ∧ succeeds request.write = true
  lasts : ∀ stored, storedIn answer = some stored → ∃ data ext,
    request.accepted toLower maxBytes = some (data, ext) ∧
      stored.filename = uniqueFilename toLower request.draw ext ∧ 47 ∉ stored.filename ∧
      stored.fileSize = data.length ∧ fetch stored.url last = some data

section Run

variable {store : Storage σ ω} {toLower : Bytes → Bytes} {succeeds : ω → Bool}
  {content : σ → Bytes → Option Bytes} {fetch : Bytes → σ → Option Bytes} {maxBytes : Int}
  {request : UploadRequest ω} {requests : List (UploadRequest ω)} {s : σ}

theorem handleUpload_of_accepted {data ext : Bytes}
    (accepted : request.accepted toLower maxBytes = some (data, ext)) :
    handleUpload toLower store maxBytes request s =
      match store.save request.draw request.write data ext s with
      | (.error message, s) => (refuse 500 2 message, s)
      | (.ok (filename, url), s) =>
          (.json 200 ⟨0, str "上传成功", some ⟨filename, url, data.length⟩⟩, s) := by
  unfold UploadRequest.accepted at accepted
  unfold handleUpload
  by_cases posted : request.upload.method ≠ HttpServer.methodPost
  · rw [if_pos posted] at accepted
    cases accepted
  · rw [if_neg posted] at accepted ⊢
    cases isForm : request.upload.form with
    | malformed =>
        rw [isForm] at accepted
        cases accepted
    | noFile =>
        rw [isForm] at accepted
        cases accepted
    | file file =>
        obtain ⟨filename, read⟩ := file
        rw [isForm] at accepted
        cases read with
        | error message => cases accepted
        | ok bytes =>
            dsimp only at accepted ⊢
            by_cases large : maxBytes < bytes.length
            · rw [if_pos large] at accepted
              cases accepted
            · rw [if_neg large] at accepted ⊢
              cases accepted
              rfl

theorem handleUpload_of_refused (refused : request.accepted toLower maxBytes = none) :
    storedIn (handleUpload toLower store maxBytes request s).1 = none ∧
      (handleUpload toLower store maxBytes request s).2 = s := by
  unfold UploadRequest.accepted at refused
  unfold handleUpload
  by_cases posted : request.upload.method ≠ HttpServer.methodPost
  · rw [if_pos posted]
    exact ⟨rfl, rfl⟩
  · rw [if_neg posted] at refused ⊢
    cases isForm : request.upload.form with
    | malformed => exact ⟨rfl, rfl⟩
    | noFile => exact ⟨rfl, rfl⟩
    | file file =>
        obtain ⟨filename, read⟩ := file
        rw [isForm] at refused
        cases read with
        | error message => exact ⟨rfl, rfl⟩
        | ok bytes =>
            dsimp only at refused ⊢
            by_cases large : maxBytes < bytes.length
            · rw [if_pos large]
              exact ⟨rfl, rfl⟩
            · rw [if_neg large] at refused
              cases refused

/-- An upload touches its own name only. -/
theorem handleUpload_others (adds : store.Adds toLower succeeds content fetch) {name : Bytes}
    (other : ∀ ext, name ≠ uniqueFilename toLower request.draw ext) :
    content (handleUpload toLower store maxBytes request s).2 name = content s name := by
  cases isAccepted : request.accepted toLower maxBytes with
  | none => rw [(handleUpload_of_refused isAccepted).2]
  | some taken =>
      obtain ⟨data, ext⟩ := taken
      have kept := adds.others request.draw request.write data ext s (other ext)
      rw [handleUpload_of_accepted isAccepted]
      generalize store.save request.draw request.write data ext s = saved at kept ⊢
      obtain ⟨result, after⟩ := saved
      cases result with
      | error message => exact kept
      | ok names => exact kept

theorem serveAll_others (adds : store.Adds toLower succeeds content fetch) {name : Bytes}
    (other : ∀ request ∈ requests, ∀ ext, name ≠ uniqueFilename toLower request.draw ext) :
    content (serveAll (handleUpload toLower store maxBytes) requests s).2 name =
      content s name := by
  induction requests generalizing s with
  | nil => rfl
  | cons request rest inductionHypothesis =>
      rw [serveAll_cons]
      dsimp only
      rw [inductionHypothesis fun later member => other later (List.mem_cons_of_mem _ member)]
      exact handleUpload_others adds (other request List.mem_cons_self)

/-- A request is settled by its answer, when no later one draws its name. -/
theorem settled_of_handled (adds : store.Adds toLower succeeds content fetch) {last : σ}
    (kept : ∀ ext, content last (uniqueFilename toLower request.draw ext) =
      content (handleUpload toLower store maxBytes request s).2
        (uniqueFilename toLower request.draw ext)) :
    Settled toLower maxBytes succeeds fetch request
      (handleUpload toLower store maxBytes request s).1 last := by
  cases isAccepted : request.accepted toLower maxBytes with
  | none =>
      have nothing : storedIn (handleUpload toLower store maxBytes request s).1 = none :=
        (handleUpload_of_refused isAccepted).1
      refine ⟨?_, ?_⟩
      · rw [nothing, isAccepted]
        exact iff_of_false Bool.false_ne_true fun both => Bool.false_ne_true both.1
      · intro stored isStored
        rw [nothing] at isStored
        cases isStored
  | some taken =>
      obtain ⟨data, ext⟩ := taken
      have handled : handleUpload toLower store maxBytes request s = _ :=
        handleUpload_of_accepted isAccepted
      cases outcome : succeeds request.write with
      | true =>
          obtain ⟨address, isOk, inside, leads⟩ := adds.stored request.draw data ext s outcome
          generalize store.save request.draw request.write data ext s = saved at handled isOk inside
          obtain ⟨result, after⟩ := saved
          cases isOk
          rw [handled] at kept ⊢
          refine ⟨?_, ?_⟩
          · rw [isAccepted]
            exact iff_of_true rfl ⟨rfl, outcome⟩
          · intro stored isStored
            cases isStored
            refine ⟨data, ext, isAccepted, rfl, slash_notMem_uniqueFilename _ _ _, rfl, ?_⟩
            rw [leads, kept ext]
            exact inside
      | false =>
          obtain ⟨message, isError⟩ := adds.failed request.draw data ext s outcome
          generalize store.save request.draw request.write data ext s = saved at handled isError
          obtain ⟨result, after⟩ := saved
          cases isError
          rw [handled]
          refine ⟨?_, ?_⟩
          · rw [outcome]
            exact iff_of_false Bool.false_ne_true fun both => Bool.false_ne_true both.2
          · intro stored isStored
            cases isStored

/-- Every upload of a run is settled at its end, when all draws differ. -/
theorem settled_run (adds : store.Adds toLower succeeds content fetch)
    (distinct : (requests.map UploadRequest.draw).Nodup) :
    ∀ entry ∈ requests.zip (serveAll (handleUpload toLower store maxBytes) requests s).1,
      Settled toLower maxBytes succeeds fetch entry.1 entry.2
        (serveAll (handleUpload toLower store maxBytes) requests s).2 := by
  induction requests generalizing s with
  | nil =>
      intro entry member
      exact absurd member List.not_mem_nil
  | cons request rest inductionHypothesis =>
      rw [List.map_cons, List.nodup_cons] at distinct
      intro entry member
      rw [serveAll_cons, List.zip_cons_cons] at member
      rw [serveAll_cons]
      rcases List.mem_cons.mp member with rfl | later
      · refine settled_of_handled adds ?_
        intro ext
        refine serveAll_others adds ?_
        intro later isLater other same
        have sameDraw := (uniqueFilename_inj same).1
        exact distinct.1 (sameDraw ▸ List.mem_map_of_mem isLater)
      · exact inductionHypothesis distinct.2 entry later

end Run

/-! ### The two stores -/

def succeedsOnFiles : WriteOutcome → Bool
  | .ok => true
  | _ => false

def succeedsOnObjects : PutOutcome → Bool
  | .ok => true
  | .fails _ => false

/-- What follows a start is what is left of the whole. -/
theorem drop_of_start (start rest : Bytes) :
    start <+: start ++ rest ∧ (start ++ rest).drop start.length = rest :=
  ⟨List.prefix_append _ _, List.drop_left⟩

namespace FileStore

theorem url_eq (s : FileStore) (filename : Bytes) : s.url filename = s.url [] ++ filename := by
  rw [url, url, List.append_nil]

theorem adds (s : FileStore) (toLower : Bytes → Bytes) :
    (s.storage toLower).Adds toLower succeedsOnFiles (fun dir name => dir.lookup name) s.fetch where
  stored draw {write} data ext dir succeeds := by
    cases write with
    | ok =>
        refine ⟨s.url (uniqueFilename toLower draw ext), rfl, AList.lookup_insert dir, ?_⟩
        intro later
        obtain ⟨starts, rest⟩ := drop_of_start (s.url []) (uniqueFilename toLower draw ext)
        rw [← url_eq] at starts rest
        exact (if_pos starts).trans (congrArg (fun name => later.lookup name) rest)
    | openFails message => cases succeeds
    | writeFails message count => cases succeeds
  failed draw {write} data ext dir fails := by
    cases write with
    | ok => cases fails
    | openFails message => exact ⟨_, rfl⟩
    | writeFails message count => exact ⟨_, rfl⟩
  others draw write data ext dir {name} other := by
    cases write with
    | ok => exact AList.lookup_insert_ne other
    | openFails message => rfl
    | writeFails message count => exact AList.lookup_insert_ne other

end FileStore

namespace ObjectStore

/-- The data under the key of a name. -/
def contents (bucket : Bucket) (name : Bytes) : Option Bytes :=
  (bucket.lookup (key name)).map StoredObject.data

theorem key_injective : Function.Injective key := by
  intro first second same
  exact List.cons_injective (List.append_cancel_left same)

theorem contents_insert (bucket : Bucket) (written name : Bytes) (object : StoredObject) :
    contents (bucket.insert (key written) object) name =
      if name = written then some object.data else contents bucket name := by
  rw [contents, GoMap.lookup_insert]
  simp only [key_injective.eq_iff]
  split <;> rfl

theorem adds (s : ObjectStore) (toLower : Bytes → Bytes) :
    (s.storage toLower).Adds toLower succeedsOnObjects contents s.fetch where
  stored draw {put} data ext bucket succeeds := by
    cases put with
    | ok =>
        refine ⟨s.publicBase ++ 47 :: key (uniqueFilename toLower draw ext), rfl, ?_, ?_⟩
        · exact (contents_insert bucket _ _ _).trans (if_pos rfl)
        · intro later
          obtain ⟨starts, rest⟩ := drop_of_start (s.publicBase ++ [47])
            (key (uniqueFilename toLower draw ext))
          rw [List.append_assoc] at starts rest
          exact (if_pos starts).trans (congrArg (fun listed => (later.lookup listed).map _) rest)
    | fails message => cases succeeds
  failed draw {put} data ext bucket fails := by
    cases put with
    | ok => cases fails
    | fails message => exact ⟨_, rfl⟩
  others draw put data ext bucket {name} other := by
    cases put with
    | ok => exact (contents_insert bucket _ _ _).trans (if_neg other)
    | fails message => rfl

end ObjectStore

/-- When all draws differ: over either store and from whatever it held, an upload is
answered with an address exactly when it is taken and its write succeeds, the address
gives the uploaded bytes to the end of the run, and the names are plain and new: what
stood under other names stays. -/
theorem uploads_last (toLower : Bytes → Bytes) (maxBytes : Int) (files : FileStore)
    (objects : ObjectStore) (dir : Directory) (bucket : Bucket)
    {requests : List (UploadRequest (WriteOutcome × PutOutcome))}
    (distinct : (requests.map UploadRequest.draw).Nodup) :
    let onFiles := requests.map (UploadRequest.mapWrite Prod.fst)
    let onObjects := requests.map (UploadRequest.mapWrite Prod.snd)
    let fileRun := serveAll (handleUpload toLower (files.storage toLower) maxBytes) onFiles dir
    let objectRun :=
      serveAll (handleUpload toLower (objects.storage toLower) maxBytes) onObjects bucket
    (∀ entry ∈ onFiles.zip fileRun.1,
      Settled toLower maxBytes succeedsOnFiles files.fetch entry.1 entry.2 fileRun.2) ∧
    (∀ entry ∈ onObjects.zip objectRun.1,
      Settled toLower maxBytes succeedsOnObjects objects.fetch entry.1 entry.2 objectRun.2) ∧
    ∀ name, (∀ request ∈ requests, ∀ ext, name ≠ uniqueFilename toLower request.draw ext) →
      fileRun.2.lookup name = dir.lookup name ∧
        ObjectStore.contents objectRun.2 name = ObjectStore.contents bucket name := by
  have distinctFiles :
      ((requests.map (UploadRequest.mapWrite Prod.fst)).map UploadRequest.draw).Nodup := by
    rw [List.map_map]
    exact distinct
  have distinctObjects :
      ((requests.map (UploadRequest.mapWrite Prod.snd)).map UploadRequest.draw).Nodup := by
    rw [List.map_map]
    exact distinct
  refine ⟨settled_run (files.adds toLower) distinctFiles,
    settled_run (objects.adds toLower) distinctObjects, fun name other => ⟨?_, ?_⟩⟩
  · refine serveAll_others (files.adds toLower) ?_
    intro request member
    obtain ⟨before, isRequest, rfl⟩ := List.mem_map.mp member
    exact other before isRequest
  · refine serveAll_others (objects.adds toLower) ?_
    intro request member
    obtain ⟨before, isRequest, rfl⟩ := List.mem_map.mp member
    exact other before isRequest

/-- The same photo is uploaded twice in one nanosecond; the first write succeeds on
files only. -/
theorem uploads_last_twice :
    let photo : HttpUpload := ⟨str "POST", .file ⟨str "p.PNG", .ok [1]⟩⟩
    let requests : List (UploadRequest (WriteOutcome × PutOutcome)) :=
      [⟨⟨5, [1]⟩, (.ok, .fails []), photo⟩, ⟨⟨5, [2]⟩, (.ok, .ok), photo⟩]
    let onFiles := requests.map (UploadRequest.mapWrite Prod.fst)
    let onObjects := requests.map (UploadRequest.mapWrite Prod.snd)
    let fileRun := serveAll (handleUpload id (FileStore.storage ⟨[]⟩ id) 9) onFiles ∅
    let objectRun := serveAll (handleUpload id (ObjectStore.storage ⟨[]⟩ id) 9) onObjects ∅
    (∀ entry ∈ onFiles.zip fileRun.1,
      Settled id 9 succeedsOnFiles (FileStore.fetch ⟨[]⟩) entry.1 entry.2 fileRun.2) ∧
    (∀ entry ∈ onObjects.zip objectRun.1,
      Settled id 9 succeedsOnObjects (ObjectStore.fetch ⟨[]⟩) entry.1 entry.2 objectRun.2) ∧
    ∀ name, (∀ request ∈ requests, ∀ ext, name ≠ uniqueFilename id request.draw ext) →
      fileRun.2.lookup name = (∅ : Directory).lookup name ∧
        ObjectStore.contents objectRun.2 name = ObjectStore.contents ∅ name := by
  refine uploads_last id 9 ⟨[]⟩ ⟨[]⟩ ∅ ∅ ?_
  decide

end AimServer.Media
