import AimServer.Properties.Indexing
import AimServer.Rag.Embedder

/-!
Contract: every text gets the vector the service labels with its place.

Owns: what the labels of a response leave in each place, when each place has the
one vector labelled with it, what a batch of the index stores for its messages,
and a response by which a message is left out without an error.

The number of vectors is compared with the number of texts, and the labels are
not. A label that comes twice or lies outside leaves another place empty, and
the index skips a message without a vector.
-/

namespace AimServer

open AimServer.Lib

variable {φ : Type}

/-- The vectors labelled with an index. -/
def vectorsAt (data : List (LabelledVector φ)) (i : Nat) : List (List φ) :=
  (data.filter fun d => d.index = (i : Int)).map LabelledVector.embedding

/-- Each place has a vector that is not empty, the only one labelled with it. -/
structure Assigned (data : List (LabelledVector φ)) (count : Nat) (out : List (List φ)) :
    Prop where
  length : out.length = count
  own : ∀ i < count, ∃ vec, vec ≠ [] ∧ vectorsAt data i = [vec] ∧ out[i]? = some vec

/-- The labels are the places, each once, and no vector is empty. -/
structure WellLabelled (data : List (LabelledVector φ)) (count : Nat) : Prop where
  labels : (data.map LabelledVector.index).Perm ((List.range count).map ((↑) : Nat → Int))
  full : ∀ d ∈ data, d.embedding ≠ []

theorem vectorsAt_cons (d : LabelledVector φ) (rest : List (LabelledVector φ)) (i : Nat) :
    vectorsAt (d :: rest) i =
      if d.index = i then d.embedding :: vectorsAt rest i else vectorsAt rest i := by
  by_cases same : d.index = i
  · simp [vectorsAt, same]
  · simp [vectorsAt, same]

/-! ### Places -/

namespace OpenAIEmbedder

@[simp] theorem length_place (out : List (List φ)) (d : LabelledVector φ) :
    (place out d).length = out.length := by
  unfold place
  split
  · exact List.length_set
  · rfl

theorem getElem?_place {out : List (List φ)} {i : Nat} (inside : i < out.length)
    (d : LabelledVector φ) :
    (place out d)[i]? = if d.index = i then some d.embedding else out[i]? := by
  unfold place
  by_cases isPlace : 0 ≤ d.index ∧ d.index < out.length
  · rw [if_pos isPlace, List.getElem?_set]
    by_cases same : d.index = i
    · rw [if_pos same, if_pos (by omega), if_pos (by omega)]
    · rw [if_neg same, if_neg (by omega)]
  · rw [if_neg isPlace, if_neg (by omega)]

/-- The last vector with a label is the one in its place. -/
theorem getElem?_placed (data : List (LabelledVector φ)) {out : List (List φ)} {i : Nat}
    (inside : i < out.length) :
    (data.foldl place out)[i]? = (vectorsAt data i).getLast?.or out[i]? := by
  induction data generalizing out with
  | nil => rfl
  | cons d rest inductionHypothesis =>
      rw [List.foldl_cons, inductionHypothesis (by rwa [length_place]), getElem?_place inside]
      rw [vectorsAt_cons]
      split
      · rw [List.getLast?_cons]
        cases (vectorsAt rest i).getLast? <;> rfl
      · rfl

theorem length_placed (data : List (LabelledVector φ)) (out : List (List φ)) :
    (data.foldl place out).length = out.length := by
  induction data generalizing out with
  | nil => rfl
  | cons d rest inductionHypothesis =>
      rw [List.foldl_cons, inductionHypothesis, length_place]

@[simp] theorem length_arrange (count : Nat) (data : List (LabelledVector φ)) :
    (arrange count data).length = count := by
  rw [arrange, length_placed, List.length_replicate]

/-- A place with one vector has it. -/
theorem getElem?_arrange {count i : Nat} {data : List (LabelledVector φ)} {vec : List φ}
    (inside : i < count) (only : vectorsAt data i = [vec]) :
    (arrange count data)[i]? = some vec := by
  rw [arrange, getElem?_placed data (by rwa [List.length_replicate]), only]
  rfl

end OpenAIEmbedder

/-! ### Labels -/

section Labels

variable {data : List (LabelledVector φ)} {count : Nat}

theorem mem_vectorsAt {i : Nat} {vec : List φ} :
    vec ∈ vectorsAt data i ↔ ∃ d ∈ data, d.index = i ∧ d.embedding = vec := by
  simp only [vectorsAt, List.mem_map, List.mem_filter, decide_eq_true_eq, and_assoc]

theorem length_vectorsAt (data : List (LabelledVector φ)) (i : Nat) :
    (vectorsAt data i).length = (data.map LabelledVector.index).count (i : Int) := by
  rw [vectorsAt, List.length_map, List.count, List.countP_map, List.countP_eq_length_filter]
  rfl

/-- Where each place is labelled once, the vectors are as they should be. -/
theorem WellLabelled.single (labelled : WellLabelled data count) {i : Nat} (inside : i < count) :
    ∃ vec, vec ≠ [] ∧ vectorsAt data i = [vec] := by
  have once : (vectorsAt data i).length = 1 := by
    rw [length_vectorsAt, labelled.labels.count_eq,
      List.count_map_of_injective _ _ Nat.cast_injective]
    exact List.count_eq_one_of_mem List.nodup_range (List.mem_range.mpr inside)
  obtain ⟨vec, only⟩ := List.length_eq_one_iff.mp once
  refine ⟨vec, ?_, only⟩
  obtain ⟨d, member, -, rfl⟩ := mem_vectorsAt.mp (only ▸ List.mem_singleton_self vec)
  exact labelled.full d member

/-- As many labels as places, and each place labelled, are the places. -/
theorem wellLabelled_of_single (enough : data.length = count)
    (single : ∀ i < count, ∃ vec, vec ≠ [] ∧ vectorsAt data i = [vec]) :
    WellLabelled data count := by
  have covered : (List.range count).map Int.ofNat ⊆ data.map LabelledVector.index := by
    intro label member
    obtain ⟨i, inside, rfl⟩ := List.mem_map.mp member
    obtain ⟨vec, -, only⟩ := single i (List.mem_range.mp inside)
    obtain ⟨d, isData, isLabel, -⟩ := mem_vectorsAt.mp (only ▸ List.mem_singleton_self vec)
    exact List.mem_map.mpr ⟨d, isData, isLabel⟩
  have distinct : ((List.range count).map ((↑) : Nat → Int)).Nodup :=
    List.nodup_range.map Nat.cast_injective
  have labels := (List.subperm_of_subset distinct covered).perm_of_length_le (by simp [enough])
  refine ⟨labels.symm, ?_⟩
  intro d member
  obtain ⟨i, inside, isLabel⟩ :=
    List.mem_map.mp (labels.mem_iff.mpr (List.mem_map_of_mem member))
  obtain ⟨vec, notEmpty, only⟩ := single i (List.mem_range.mp inside)
  have isVec : d.embedding ∈ vectorsAt data i := mem_vectorsAt.mpr ⟨d, member, isLabel.symm, rfl⟩
  rw [only, List.mem_singleton] at isVec
  rw [isVec]
  exact notEmpty

/-- The order restored from the labels is right exactly for good labels. -/
theorem assigned_arrange_iff (enough : data.length = count) :
    Assigned data count (OpenAIEmbedder.arrange count data) ↔ WellLabelled data count := by
  constructor
  · intro assigned
    apply wellLabelled_of_single enough
    intro i inside
    obtain ⟨vec, notEmpty, only, -⟩ := assigned.own i inside
    exact ⟨vec, notEmpty, only⟩
  · intro labelled
    refine ⟨OpenAIEmbedder.length_arrange _ _, ?_⟩
    intro i inside
    obtain ⟨vec, notEmpty, only⟩ := labelled.single inside
    exact ⟨vec, notEmpty, only, OpenAIEmbedder.getElem?_arrange inside only⟩

end Labels

namespace OpenAIEmbedder

/-! ### One call -/

variable {e : OpenAIEmbedder}

theorem decode_eq_ok_iff {count : Nat} {outcome : EmbedOutcome φ} {out : List (List φ)} :
    decode count outcome = .ok out ↔
      outcome.accepted count = true ∧ arrange count outcome.data = out := by
  unfold decode EmbedOutcome.accepted EmbedOutcome.data
  cases outcome with
  | notBuilt message => simp
  | transport message => simp
  | response status raw parsed =>
      cases parsed with
      | none => simp
      | some rsp =>
          obtain ⟨data, error⟩ := rsp
          cases error with
          | some message => simp
          | none =>
              dsimp only
              split
              · rename_i refused
                simp only [reduceCtorEq, decide_eq_true_eq, true_and, false_iff, not_and]
                omega
              · rename_i accepted
                simp only [not_or, not_not] at accepted
                simp [accepted]

theorem length_of_accepted {count : Nat} {outcome : EmbedOutcome φ}
    (accepted : outcome.accepted count = true) : outcome.data.length = count := by
  unfold EmbedOutcome.accepted at accepted
  split at accepted
  · exact (of_decide_eq_true accepted).2.2
  · cases accepted

/-- What an embedding without an error returns. -/
theorem embed_eq_ok_iff {service : EmbedRequest → EmbedOutcome φ} {texts : List Bytes}
    {out : List (List φ)} :
    e.embed service texts = .ok out ↔
      (texts = [] ∨ (e.apiKey ≠ [] ∧ (service (e.request texts)).accepted texts.length = true)) ∧
        arrange texts.length (service (e.request texts)).data = out := by
  unfold embed
  by_cases noTexts : texts = []
  · rw [if_pos noTexts, and_iff_right (Or.inl noTexts)]
    have nothing : arrange texts.length (service (e.request texts)).data = [] := by
      apply List.eq_nil_of_length_eq_zero
      rw [length_arrange, noTexts, List.length_nil]
    rw [nothing, Except.ok.injEq]
  · rw [if_neg noTexts, or_iff_right noTexts]
    by_cases noKey : e.apiKey = []
    · rw [if_pos noKey]
      simp [noKey]
    · rw [if_neg noKey, decode_eq_ok_iff, and_iff_right noKey]

/-- Without texts there is nothing to label. -/
theorem assigned_nil (data : List (LabelledVector φ)) : Assigned data 0 (arrange 0 data) where
  length := length_arrange 0 data
  own _ inside := absurd inside (Nat.not_lt_zero _)

/-- An embedding without an error is right exactly where the labels of an accepted
response are. -/
theorem embed_assigned_iff (e : OpenAIEmbedder) (service : EmbedRequest → EmbedOutcome φ)
    (texts : List Bytes) :
    (∀ out, e.embed service texts = .ok out →
        Assigned (service (e.request texts)).data texts.length out) ↔
      (e.apiKey ≠ [] → (service (e.request texts)).accepted texts.length = true →
        WellLabelled (service (e.request texts)).data texts.length) := by
  constructor
  · intro right hasKey accepted
    have assigned := right _ (embed_eq_ok_iff.mpr ⟨Or.inr ⟨hasKey, accepted⟩, rfl⟩)
    exact (assigned_arrange_iff (length_of_accepted accepted)).mp assigned
  · intro labelled out isOk
    obtain ⟨noTexts | ⟨hasKey, accepted⟩, rfl⟩ := embed_eq_ok_iff.mp isOk
    · rw [noTexts]
      exact assigned_nil _
    · exact (assigned_arrange_iff (length_of_accepted accepted)).mpr (labelled hasKey accepted)

end OpenAIEmbedder

/-! ### The batches of an index -/

namespace Retriever

theorem lastWithId_cons (id : Int) (first : Item φ) (rest : List (Item φ)) :
    lastWithId id (first :: rest) =
      (lastWithId id rest).or (if first.id = id then some first else none) := by
  rw [lastWithId, List.reverse_cons, List.find?_append, List.find?_singleton]
  simp only [decide_eq_true_eq]
  rfl

/-- The item of a message is the one with its vector, where there is one. -/
theorem lastWithId_itemsOf {owner : Int} {batch : List DbMessage} {vecs : List (List φ)}
    (distinct : (batch.map DbMessage.id).Nodup) {i : Nat} {m : DbMessage} {vec : List φ}
    (isMessage : batch[i]? = some m) (isVec : vecs[i]? = some vec) (notEmpty : vec ≠ []) :
    lastWithId m.id (itemsOf owner batch vecs) = some (itemOf owner m vec) := by
  induction batch generalizing vecs i with
  | nil => cases isMessage
  | cons first batch inductionHypothesis =>
      cases vecs with
      | nil => cases isVec
      | cons firstVec vecs =>
          obtain ⟨notLater, distinctLater⟩ := List.nodup_cons.mp distinct
          cases i with
          | zero =>
              obtain rfl := Option.some.inj isMessage
              obtain rfl := Option.some.inj isVec
              have none : lastWithId first.id (itemsOf owner batch vecs) = none := by
                rw [lastWithId_eq_none_iff]
                intro item isItem sameId
                obtain ⟨other, member, vec, rfl⟩ := mem_itemsOf isItem
                exact notLater (sameId ▸ List.mem_map_of_mem member)
              rw [itemsOf, if_neg (by simpa using notEmpty), lastWithId_cons, none]
              exact if_pos rfl
          | succ i =>
              have later := inductionHypothesis distinctLater isMessage isVec
              rw [itemsOf]
              split
              · exact later
              · rw [lastWithId_cons, later]
                rfl

/-- Each message of a batch is stored with the only vector labelled with its
place. -/
def Stored (data : List (LabelledVector φ)) (owner : Int) (batch : List DbMessage)
    (store : MemoryStore φ) : Prop :=
  ∀ i m, batch[i]? = some m → ∃ vec, vec ≠ [] ∧ vectorsAt data i = [vec] ∧
    store.find owner m.id = some (itemOf owner m vec)

theorem Stored.wellLabelled {data : List (LabelledVector φ)} {owner : Int}
    {batch : List DbMessage} {store : MemoryStore φ} (stored : Stored data owner batch store)
    (enough : data.length = batch.length) : WellLabelled data batch.length := by
  apply wellLabelled_of_single enough
  intro i inside
  obtain ⟨vec, notEmpty, only, -⟩ := stored i batch[i] (List.getElem?_eq_getElem inside)
  exact ⟨vec, notEmpty, only⟩

/-- A batch with good labels is stored where its items are. -/
theorem stored_of_find {data : List (LabelledVector φ)} {owner : Int} {batch : List DbMessage}
    {store : MemoryStore φ} (distinct : (batch.map DbMessage.id).Nodup)
    (labelled : WellLabelled data batch.length)
    (found : ∀ m ∈ batch, store.find owner m.id = lastWithId m.id
      (itemsOf owner batch (OpenAIEmbedder.arrange batch.length data))) :
    Stored data owner batch store := by
  intro i m isMessage
  obtain ⟨inside, -⟩ := List.getElem?_eq_some_iff.mp isMessage
  obtain ⟨vec, notEmpty, only⟩ := labelled.single inside
  have isVec := OpenAIEmbedder.getElem?_arrange inside only
  refine ⟨vec, notEmpty, only, ?_⟩
  rw [found m (List.mem_of_getElem? isMessage)]
  exact lastWithId_itemsOf distinct isMessage isVec notEmpty

/-- What is stored under an id that is not pending stays. -/
theorem Indexes.same {outcomes : IndexOutcomes φ} {owner : Int} {number : Nat}
    {msgs : List DbMessage} {store : MemoryStore φ} {done : Indexed φ}
    (indexes : Indexes outcomes owner number msgs store done) {id : Int}
    (absent : ∀ m ∈ msgs, m.id ≠ id) : done.store.find owner id = store.find owner id := by
  cases found : done.store.find owner id with
  | none =>
      by_contra there
      exact indexes.keeps id (Ne.symm there) found
  | some item =>
      rcases indexes.origin id item found with old | ⟨m, member, isId, -⟩
      · exact old.symm
      · exact absurd isId (absent m member)

section Loop

variable {outcomes : IndexOutcomes φ} {owner : Int} {number : Nat} {store : MemoryStore φ}

/-- The loop ends without an error when no batch has one. -/
theorem indexBatches_ok_iff (batches : List (List DbMessage)) :
    (indexBatches outcomes owner number batches store).result = .ok () ↔
      ∀ index batch, batches[index]? = some batch →
        (∃ vecs, outcomes.embed (number + index) (batch.map DbMessage.content) = .ok vecs) ∧
          outcomes.upsert (number + index) = .ok () := by
  induction batches generalizing number store with
  | nil => simp [indexBatches]
  | cons batch rest inductionHypothesis =>
      have split : (∀ index other, (batch :: rest)[index]? = some other →
          (∃ vecs, outcomes.embed (number + index) (other.map DbMessage.content) = .ok vecs) ∧
            outcomes.upsert (number + index) = .ok ()) ↔
          ((∃ vecs, outcomes.embed number (batch.map DbMessage.content) = .ok vecs) ∧
            outcomes.upsert number = .ok ()) ∧
          ∀ index other, rest[index]? = some other →
            (∃ vecs, outcomes.embed (number + 1 + index) (other.map DbMessage.content) =
              .ok vecs) ∧ outcomes.upsert (number + 1 + index) = .ok () := by
        simp only [Nat.add_assoc, Nat.add_comm 1]
        constructor
        · intro all
          exact ⟨all 0 batch rfl, fun index other isOther => all (index + 1) other isOther⟩
        · rintro ⟨first, later⟩ index other isOther
          cases index with
          | zero =>
              obtain rfl := Option.some.inj isOther
              exact first
          | succ index => exact later index other isOther
      rw [split]
      unfold indexBatches
      dsimp only
      cases outcomes.embed number (batch.map DbMessage.content) with
      | error message => simp
      | ok vecs =>
          dsimp only
          cases outcomes.upsert number with
          | error message => simp
          | ok _ => simp [inductionHypothesis]

/-- Without an error each message has the item made for it, if any. -/
theorem find_indexBatches {batches : List (List DbMessage)}
    (distinct : (batches.flatten.map DbMessage.id).Nodup)
    (notStored : ∀ m ∈ batches.flatten, store.find owner m.id = none)
    (isOk : (indexBatches outcomes owner number batches store).result = .ok ())
    {index : Nat} {batch : List DbMessage} (isBatch : batches[index]? = some batch)
    {vecs : List (List φ)}
    (isVecs : outcomes.embed (number + index) (batch.map DbMessage.content) = .ok vecs)
    {m : DbMessage} (member : m ∈ batch) :
    (indexBatches outcomes owner number batches store).store.find owner m.id =
      lastWithId m.id (itemsOf owner batch vecs) := by
  induction batches generalizing number store index with
  | nil => cases isBatch
  | cons first rest inductionHypothesis =>
      rw [List.flatten_cons] at distinct notStored
      rw [List.map_append] at distinct
      obtain ⟨-, restDistinct, apart⟩ := List.nodup_append'.mp distinct
      obtain ⟨⟨firstVecs, isFirstVecs⟩, isUpsert⟩ :=
        (indexBatches_ok_iff (first :: rest)).mp isOk 0 first rfl
      rw [Nat.add_zero] at isFirstVecs isUpsert
      unfold indexBatches at isOk ⊢
      simp only [isFirstVecs, isUpsert] at isOk ⊢
      have restNotStored : ∀ other ∈ rest.flatten,
          (store.upsert owner (itemsOf owner first firstVecs)).find owner other.id = none := by
        apply upsert_notStored apart
        intro other inRest
        exact notStored other (List.mem_append_right _ inRest)
      cases index with
      | zero =>
          obtain rfl := Option.some.inj isBatch
          obtain rfl := Except.ok.inj (isFirstVecs.symm.trans isVecs)
          have later : Indexes outcomes owner (number + 1) rest.flatten _
              (indexBatches outcomes owner (number + 1) rest _) :=
            indexBatches_indexes rest restDistinct restNotStored
          have absent : ∀ other ∈ rest.flatten, other.id ≠ m.id := by
            intro other inRest sameId
            exact apart (List.mem_map_of_mem member)
              (List.mem_map.mpr ⟨other, inRest, sameId⟩)
          rw [later.same absent, find_written,
            notStored m (List.mem_append_left _ member), Option.or_none]
      | succ index =>
          rw [Nat.add_comm index 1, ← Nat.add_assoc] at isVecs
          exact inductionHypothesis restDistinct restNotStored isOk isBatch isVecs

end Loop

/-! ### One call of the index -/

theorem ne_nil_of_mem_batchesOf {fuel : Nat} {pending batch : List DbMessage}
    (member : batch ∈ batchesOf fuel pending) : batch ≠ [] := by
  induction fuel generalizing pending with
  | zero => cases member
  | succ fuel inductionHypothesis =>
      cases pending with
      | nil => cases member
      | cons m pending =>
          rw [batchesOf] at member
          rcases List.mem_cons.mp member with isFirst | later
          · rw [isFirst]
            exact List.cons_ne_nil _ _
          · exact inductionHypothesis later

section Call

variable (r : Retriever) {outcomes : IndexOutcomes φ} (owner : Int) (table : ChatTable)
  (store : MemoryStore φ)

/-- The batches are the candidates that are not stored. -/
theorem batches_flatten :
    (r.batches owner table store).flatten =
      (candidates (loadUserTextMessages owner r.maxCorpus table)).filter fun m =>
        (store.find owner m.id).isNone := by
  rw [batches, batchesOf_flatten _ _ le_rfl]
  exact pendingOf_hasIDs (nodup_loaded owner r.maxCorpus table)

theorem batches_distinct : ((r.batches owner table store).flatten.map DbMessage.id).Nodup := by
  rw [batches_flatten]
  exact (nodup_loaded owner r.maxCorpus table).sublist
    ((List.filter_sublist.trans List.filter_sublist).map _)

theorem batches_notStored :
    ∀ m ∈ (r.batches owner table store).flatten, store.find owner m.id = none := by
  intro m member
  rw [batches_flatten] at member
  exact Option.isNone_iff_eq_none.mp (List.mem_filter.mp member).2

variable {r owner table store}

theorem batches_eq_nil
    (none : (candidates (loadUserTextMessages owner r.maxCorpus table)).map DbMessage.id = []) :
    r.batches owner table store = [] := by
  unfold batches pendingOf
  simp only [none]
  rfl

/-- Past the query and `HasIDs` the call is its loop. -/
theorem ensureIndexed_eq (loads : outcomes.load = .ok ()) (asks : outcomes.hasIDs = .ok ()) :
    r.ensureIndexed outcomes owner table store =
      indexBatches outcomes owner 0 (r.batches owner table store) store := by
  unfold ensureIndexed
  simp only [loads, asks]
  split
  · rename_i noCandidates
    rw [batches_eq_nil noCandidates]
    rfl
  · unfold batches
    split
    · rename_i noPending
      simp only [noPending]
      rfl
    · rfl

/-- Without an error and with something to embed, both were answered. -/
theorem answered_of_ensureIndexed
    (isOk : (r.ensureIndexed outcomes owner table store).result = .ok ())
    (some : r.batches owner table store ≠ []) :
    outcomes.load = .ok () ∧ outcomes.hasIDs = .ok () := by
  unfold ensureIndexed at isOk
  cases loads : outcomes.load with
  | error message => simp [loads] at isOk
  | ok _ =>
      refine ⟨rfl, ?_⟩
      simp only [loads] at isOk
      split at isOk
      · rename_i noCandidates
        exact absurd (batches_eq_nil noCandidates) some
      · cases asks : outcomes.hasIDs with
        | error message => simp [asks] at isOk
        | ok _ => rfl

end Call

end Retriever

namespace OpenAIEmbedder

section Index

variable (e : OpenAIEmbedder) (load hasIDs : Except Bytes Unit)
  (service : Nat → EmbedRequest → EmbedOutcome φ) (upsert : Nat → Except Bytes Unit)
  (r : Retriever) (owner : Int) (table : ChatTable) (store : MemoryStore φ)

/-- The response to the request for a batch. -/
def responseTo (number : Nat) (batch : List DbMessage) : EmbedOutcome φ :=
  service number (e.request (batch.map DbMessage.content))

variable {load hasIDs service upsert r owner table store}

/-- Where the loop is over without an error, each response was accepted. -/
theorem indexed_ok_iff :
    (Retriever.indexBatches (e.outcomes load hasIDs service upsert) owner 0
        (r.batches owner table store) store).result = .ok () ↔
      ∀ number batch, (r.batches owner table store)[number]? = some batch →
        (e.apiKey ≠ [] ∧ (e.responseTo service number batch).accepted batch.length = true) ∧
          upsert number = .ok () := by
  rw [Retriever.indexBatches_ok_iff]
  refine forall_congr' fun number => forall_congr' fun batch => forall_congr' fun isBatch => ?_
  have texts : batch.map DbMessage.content ≠ [] := by
    rw [Ne, List.map_eq_nil_iff]
    exact Retriever.ne_nil_of_mem_batchesOf (List.mem_of_getElem? isBatch)
  rw [Nat.zero_add]
  refine and_congr_left fun _ => ?_
  show (∃ vecs, e.embed (service number) (batch.map DbMessage.content) = .ok vecs) ↔ _
  simp only [embed_eq_ok_iff, texts, false_or, exists_eq_right', List.length_map]
  rfl

/-- A call without an error has stored each pending message with its own vector
exactly where the labels of the accepted responses are right. -/
theorem indexed_stored_iff :
    ((r.ensureIndexed (e.outcomes load hasIDs service upsert) owner table store).result = .ok () →
        ∀ number batch, (r.batches owner table store)[number]? = some batch →
          Retriever.Stored (e.responseTo service number batch).data owner batch
            (r.ensureIndexed (e.outcomes load hasIDs service upsert) owner table store).store) ↔
      (e.apiKey ≠ [] → load = .ok () → hasIDs = .ok () →
        (∀ number batch, (r.batches owner table store)[number]? = some batch →
          (e.responseTo service number batch).accepted batch.length = true ∧
            upsert number = .ok ()) →
        ∀ number batch, (r.batches owner table store)[number]? = some batch →
          WellLabelled (e.responseTo service number batch).data batch.length) := by
  constructor
  · intro stores hasKey loads asks accepted number batch isBatch
    have isLoop : r.ensureIndexed (e.outcomes load hasIDs service upsert) owner table store = _ :=
      Retriever.ensureIndexed_eq loads asks
    rw [isLoop, indexed_ok_iff] at stores
    have stored := stores (fun number batch isBatch =>
      ⟨⟨hasKey, (accepted number batch isBatch).1⟩, (accepted number batch isBatch).2⟩)
    refine (stored number batch isBatch).wellLabelled ?_
    exact length_of_accepted (accepted number batch isBatch).1
  · intro labelled isOk number batch isBatch
    have some : r.batches owner table store ≠ [] := by
      rintro none
      rw [none] at isBatch
      cases isBatch
    obtain ⟨loads, asks⟩ := Retriever.answered_of_ensureIndexed isOk some
    rw [Retriever.ensureIndexed_eq loads asks] at isOk ⊢
    have all := e.indexed_ok_iff.mp isOk
    have good := labelled (all number batch isBatch).1.1 loads asks
      (fun number batch isBatch => ⟨(all number batch isBatch).1.2, (all number batch isBatch).2⟩)
      number batch isBatch
    have distinct := r.batches_distinct owner table store
    refine Retriever.stored_of_find ?_ good ?_
    · exact distinct.sublist ((List.sublist_flatten_of_mem (List.mem_of_getElem? isBatch)).map _)
    · intro m member
      refine Retriever.find_indexBatches distinct (r.batches_notStored owner table store) isOk
        isBatch ?_ member
      rw [Nat.zero_add]
      refine embed_eq_ok_iff.mpr ⟨Or.inr ?_, ?_⟩
      · rw [List.length_map]
        exact (all number batch isBatch).1
      · rw [List.length_map]
        rfl

end Index

/-- What `Embed` returns and what `EnsureIndexed` stores is right exactly where the
labels of each accepted response are the places of its texts, each with a vector. -/
theorem embeddings_assigned_iff (e : OpenAIEmbedder) :
    (∀ (service : EmbedRequest → EmbedOutcome φ) (texts : List Bytes),
      (∀ out, e.embed service texts = .ok out →
          Assigned (service (e.request texts)).data texts.length out) ↔
        (e.apiKey ≠ [] → (service (e.request texts)).accepted texts.length = true →
          WellLabelled (service (e.request texts)).data texts.length)) ∧
      ∀ (load hasIDs : Except Bytes Unit) (service : Nat → EmbedRequest → EmbedOutcome φ)
        (upsert : Nat → Except Bytes Unit) (r : Retriever) (owner : Int) (table : ChatTable)
        (store : MemoryStore φ),
        let done := r.ensureIndexed (e.outcomes load hasIDs service upsert) owner table store
        (done.result = .ok () →
            ∀ number batch, (r.batches owner table store)[number]? = some batch →
              Retriever.Stored (e.responseTo service number batch).data owner batch done.store) ↔
          (e.apiKey ≠ [] → load = .ok () → hasIDs = .ok () →
            (∀ number batch, (r.batches owner table store)[number]? = some batch →
              (e.responseTo service number batch).accepted batch.length = true ∧
                upsert number = .ok ()) →
            ∀ number batch, (r.batches owner table store)[number]? = some batch →
              WellLabelled (e.responseTo service number batch).data batch.length) :=
  ⟨e.embed_assigned_iff, fun _ _ _ _ _ _ _ _ => e.indexed_stored_iff⟩

/-! ### A label that comes twice -/

namespace Sample

def embedder : OpenAIEmbedder := new (str "key") (str "http://embed/v1/") (str "model")

/-- Two vectors for the first text and none for the second. -/
def service (_ : EmbedRequest) : EmbedOutcome Nat :=
  .response 200 [] (some ⟨[⟨[1], 0⟩, ⟨[2], 0⟩], none⟩)

def outcomes : IndexOutcomes Nat :=
  embedder.outcomes (.ok ()) (.ok ()) (fun _ => service) fun _ => .ok ()

def row (text : String) : ChatMsgRow := ⟨7, 8, str text, 0, [], 0, [], 0, [], 1700000000⟩

def table : ChatTable := ⟨[(1, row "first"), (2, row "second")], by decide⟩

def done : Indexed Nat := (Retriever.new 8 1000).ensureIndexed outcomes 7 table MemoryStore.new

end Sample

theorem second_label_loses_vector :
    Sample.embedder.embed Sample.service [str "a", str "b"] = .ok [[2], []] ∧
      ¬ Assigned (Sample.service (Sample.embedder.request [str "a", str "b"])).data 2 [[2], []] ∧
      (Retriever.new 8 1000).batches 7 Sample.table (MemoryStore.new : MemoryStore Nat) =
        [[dbMessage (2, Sample.row "second"), dbMessage (1, Sample.row "first")]] ∧
      Sample.done.result = .ok () ∧ Sample.done.store.find 7 1 = none := by
  refine ⟨by decide +kernel, ?_, by decide +kernel, by decide +kernel, by decide +kernel⟩
  intro assigned
  obtain ⟨vec, -, only, -⟩ := assigned.own 1 (by decide)
  have nothing : vectorsAt (Sample.service (Sample.embedder.request [str "a", str "b"])).data 1 =
      [] := by decide
  rw [nothing] at only
  cases only

end OpenAIEmbedder

end AimServer
