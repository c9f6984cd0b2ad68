import AimServer.Lib.Run
import AimServer.Rag.Retriever

/-!
Contract: what the incremental index holds after any run.

Owns: that a stored item is its chat row, that nothing stored is embedded again,
that a call leaves the items of other owners, and that a call without an error
has indexed the recent messages of its owner.

The loop over the batches carries the argument: the messages still to come are
distinct and none of them is stored yet.
-/

namespace AimServer

open AimServer.Lib

variable {φ : Type}

/-! ### The most recent rows -/

/-- In a list that falls strictly, the first ones are those that few exceed. -/
theorem mem_take_of_falling {rows : List (Int × ChatMsgRow)} {entry : Int × ChatMsgRow}
    (falling : rows.Pairwise fun first second => second.1 < first.1) (member : entry ∈ rows)
    {limit : Nat} (few : rows.countP (fun other => entry.1 < other.1) < limit) :
    entry ∈ rows.take limit := by
  induction rows generalizing limit with
  | nil => cases member
  | cons first rest inductionHypothesis =>
      obtain ⟨below, restFalling⟩ := List.pairwise_cons.mp falling
      cases limit with
      | zero => exact absurd few (Nat.not_lt_zero _)
      | succ limit =>
          rw [List.take_succ_cons]
          rcases List.mem_cons.mp member with isFirst | inRest
          · rw [isFirst]
            exact List.mem_cons_self
          · have exceeds := below entry inRest
            rw [List.countP_cons, if_pos (decide_eq_true exceeds)] at few
            exact List.mem_cons_of_mem _
              (inductionHypothesis restFalling inRest (Nat.lt_of_succ_lt_succ few))

theorem latestFirst_perm (rows : List (Int × ChatMsgRow)) : (latestFirst rows).Perm rows :=
  List.perm_insertionSort _ _

theorem latestFirst_falling {rows : List (Int × ChatMsgRow)}
    (distinct : (rows.map Prod.fst).Nodup) :
    (latestFirst rows).Pairwise fun first second => second.1 < first.1 := by
  have sorted : (latestFirst rows).Pairwise fun first second => second.1 ≤ first.1 :=
    List.pairwise_insertionSort _ _
  have different : ((latestFirst rows).map Prod.fst).Nodup :=
    ((latestFirst_perm rows).map Prod.fst).nodup_iff.mpr distinct
  have apart := List.pairwise_map.mp different
  exact sorted.imp₂ (fun first second le ne => lt_of_le_of_ne le (Ne.symm ne)) apart

/-! ### The messages of a call -/

namespace Retriever

theorem nodup_loaded (owner : Int) (limit : Nat) (table : ChatTable) :
    ((loadUserTextMessages owner limit table).map DbMessage.id).Nodup := by
  have ids : DbMessage.id ∘ dbMessage = Prod.fst := rfl
  have rows : ((latestFirst (table.rows.filter fun entry => isTextOf owner entry.2)).map
      Prod.fst).Nodup := by
    refine ((latestFirst_perm _).map Prod.fst).nodup_iff.mpr ?_
    exact table.distinct.sublist (List.filter_sublist.map _)
  unfold loadUserTextMessages
  rw [List.map_map, ids]
  exact rows.sublist ((List.take_sublist _ _).map _)

/-- A loaded message is a row of the table. -/
theorem row_of_loaded {owner : Int} {limit : Nat} {table : ChatTable} {m : DbMessage}
    (loaded : m ∈ loadUserTextMessages owner limit table) :
    ∃ entry ∈ table.rows, isTextOf owner entry.2 = true ∧ m = dbMessage entry := by
  obtain ⟨entry, taken, rfl⟩ := List.mem_map.mp loaded
  have kept := (latestFirst_perm _).mem_iff.mp (List.mem_of_mem_take taken)
  obtain ⟨member, isText⟩ := List.mem_filter.mp kept
  exact ⟨entry, member, isText, rfl⟩

/-- One of the most recent text messages of the owner is loaded. -/
theorem loaded_of_recent {owner : Int} {limit : Nat} {table : ChatTable}
    {entry : Int × ChatMsgRow} (member : entry ∈ table.rows)
    (isText : isTextOf owner entry.2 = true)
    (recent : table.rows.countP (fun other => isTextOf owner other.2 ∧ entry.1 < other.1) < limit) :
    dbMessage entry ∈ loadUserTextMessages owner limit table := by
  apply List.mem_map_of_mem
  apply mem_take_of_falling
  · apply latestFirst_falling
    exact table.distinct.sublist (List.filter_sublist.map _)
  · exact (latestFirst_perm _).mem_iff.mpr (List.mem_filter.mpr ⟨member, isText⟩)
  · rw [(latestFirst_perm _).countP_eq, List.countP_filter]
    refine lt_of_eq_of_lt (List.countP_congr ?_) recent
    intro other _
    simp only [Bool.and_eq_true, decide_eq_true_eq]
    exact and_comm

theorem lookup_byID {msgs : List DbMessage} (distinct : (msgs.map DbMessage.id).Nodup)
    {m : DbMessage} (member : m ∈ msgs) : (byID msgs).lookup m.id = some m := by
  have written := GoMap.lookup_insertAll DbMessage.id (fun m => m) msgs ∅ m.id
  cases found : msgs.reverse.find? fun other => other.id = m.id with
  | none =>
      have absent := List.find?_eq_none.mp found m (List.mem_reverse.mpr member)
      exact absurd (decide_eq_true rfl) absent
  | some other =>
      have sameId : other.id = m.id := by simpa using List.find?_some found
      have isOther := List.mem_reverse.mp (List.mem_of_find?_eq_some found)
      have same := List.inj_on_of_nodup_map distinct isOther member sameId
      rw [found, same] at written
      exact written

/-- What is read back from `msgByID` are the candidates themselves. -/
theorem pendingOf_eq {msgs : List DbMessage} (distinct : (msgs.map DbMessage.id).Nodup)
    (existing : GoMap Int Bool) :
    pendingOf msgs existing =
      (candidates msgs).filter fun m => !(existing.lookup m.id).getD false := by
  have candidatesDistinct : ((candidates msgs).map DbMessage.id).Nodup :=
    distinct.sublist (List.filter_sublist.map _)
  unfold pendingOf
  rw [List.filter_map, List.map_map]
  refine (List.map_congr_left ?_).trans (List.map_id _)
  intro m member
  have isCandidate := List.mem_of_mem_filter member
  show ((byID (candidates msgs)).lookup m.id).getD _ = m
  rw [lookup_byID candidatesDistinct isCandidate]
  rfl

theorem batchesOf_flatten (fuel : Nat) (pending : List DbMessage) (enough : pending.length ≤ fuel) :
    (batchesOf fuel pending).flatten = pending := by
  induction fuel generalizing pending with
  | zero => exact (List.length_eq_zero_iff.mp (Nat.le_zero.mp enough)).symm
  | succ fuel inductionHypothesis =>
      cases pending with
      | nil => rfl
      | cons m pending =>
          rw [batchesOf, List.flatten_cons, inductionHypothesis]
          · exact List.take_append_drop _ _
          · simp only [List.length_drop, List.length_cons, embedBatch] at enough ⊢
            omega

/-! ### The items of a batch -/

theorem mem_itemsOf {owner : Int} {batch : List DbMessage} {vecs : List (List φ)} {item : Item φ}
    (member : item ∈ itemsOf owner batch vecs) : ∃ m ∈ batch, ∃ vec, item = itemOf owner m vec := by
  induction batch generalizing vecs with
  | nil => cases member
  | cons first batch inductionHypothesis =>
      cases vecs with
      | nil => cases member
      | cons vec vecs =>
          rw [itemsOf] at member
          split at member
          · obtain ⟨m, inBatch, isItem⟩ := inductionHypothesis member
            exact ⟨m, List.mem_cons_of_mem _ inBatch, isItem⟩
          · rcases List.mem_cons.mp member with isFirst | later
            · exact ⟨first, List.mem_cons_self, vec, isFirst⟩
            · obtain ⟨m, inBatch, isItem⟩ := inductionHypothesis later
              exact ⟨m, List.mem_cons_of_mem _ inBatch, isItem⟩

/-- With a vector for each text, each message has its item. -/
theorem itemOf_mem_itemsOf (owner : Int) {batch : List DbMessage} {vecs : List (List φ)}
    (enough : vecs.length = batch.length) (full : ∀ vec ∈ vecs, vec ≠ []) {m : DbMessage}
    (member : m ∈ batch) : ∃ vec, itemOf owner m vec ∈ itemsOf owner batch vecs := by
  induction batch generalizing vecs with
  | nil => cases member
  | cons first batch inductionHypothesis =>
      cases vecs with
      | nil => cases enough
      | cons vec vecs =>
          have isFull : ¬ vec.isEmpty = true := by
            rw [List.isEmpty_iff]
            exact full vec List.mem_cons_self
          rw [itemsOf, if_neg isFull]
          rcases List.mem_cons.mp member with isFirst | inBatch
          · rw [isFirst]
            exact ⟨vec, List.mem_cons_self⟩
          · obtain ⟨own, isItem⟩ := inductionHypothesis (Nat.succ.inj enough)
              (fun other inRest => full other (List.mem_cons_of_mem _ inRest)) inBatch
            exact ⟨own, List.mem_cons_of_mem _ isItem⟩

/-! ### The loop -/

/-- The embedder returned one vector that is not empty for each text of each
call, counted from a number on. -/
def FullVectors (outcomes : IndexOutcomes φ) (number : Nat) (calls : List (EmbedCall φ)) : Prop :=
  ∀ (index : Nat) (call : EmbedCall φ), calls[index]? = some call →
    ∃ vecs, outcomes.embed (number + index) call.texts = .ok vecs ∧
      vecs.length = call.texts.length ∧ ∀ vec ∈ vecs, vec ≠ []

/-- What a call does to the index for the messages it still has to embed. -/
structure Indexes (outcomes : IndexOutcomes φ) (owner : Int) (number : Nat)
    (msgs : List DbMessage) (store : MemoryStore φ) (done : Indexed φ) : Prop where
  fresh : ∀ call ∈ done.calls, ∀ id ∈ call.ids, call.store.find owner id = none
  others : ∀ other id, other ≠ owner → done.store.find other id = store.find other id
  origin : ∀ id item, done.store.find owner id = some item →
    store.find owner id = some item ∨ ∃ m ∈ msgs, m.id = id ∧ ∃ vec, item = itemOf owner m vec
  keeps : ∀ id, store.find owner id ≠ none → done.store.find owner id ≠ none
  complete : done.result = .ok () → FullVectors outcomes number done.calls →
    ∀ m ∈ msgs, done.store.find owner m.id ≠ none

section Loop

variable {outcomes : IndexOutcomes φ} {owner : Int} {number : Nat} {store : MemoryStore φ}

/-- A call that ends before it writes. -/
theorem indexes_stopped {msgs : List DbMessage} {message : Bytes} {calls : List (EmbedCall φ)}
    (fresh : ∀ call ∈ calls, ∀ id ∈ call.ids, call.store.find owner id = none) :
    Indexes outcomes owner number msgs store ⟨.error message, calls, store⟩ where
  fresh := fresh
  others _ _ _ := rfl
  origin _ _ found := Or.inl found
  keeps _ there := there
  complete := by
    intro noError
    cases noError

/-- A call that has nothing to write. -/
theorem indexes_nothing : Indexes outcomes owner number [] store ⟨.ok (), [], store⟩ where
  fresh := by
    intro call member
    cases member
  others _ _ _ := rfl
  origin _ _ found := Or.inl found
  keeps _ there := there
  complete := by
    intro _ _ m member
    cases member

theorem find_written (items : List (Item φ)) (id : Int) :
    (store.upsert owner items).find owner id = (lastWithId id items).or (store.find owner id) := by
  rw [MemoryStore.find_upsert, if_pos rfl]

/-- One batch that is written, before the rest of the loop. -/
theorem indexes_batch {batch : List DbMessage} {rest : List DbMessage} {vecs : List (List φ)}
    {done : Indexed φ} (notStored : ∀ m ∈ batch, store.find owner m.id = none)
    (isVecs : outcomes.embed number (batch.map DbMessage.content) = .ok vecs)
    (later : Indexes outcomes owner (number + 1) rest
      (store.upsert owner (itemsOf owner batch vecs)) done) :
    Indexes outcomes owner number (batch ++ rest) store
      ⟨done.result, ⟨batch.map DbMessage.id, batch.map DbMessage.content, store⟩ :: done.calls,
        done.store⟩ where
  fresh := by
    intro call member id isId
    rcases List.mem_cons.mp member with isFirst | isLater
    · subst isFirst
      obtain ⟨m, inBatch, rfl⟩ := List.mem_map.mp isId
      exact notStored m inBatch
    · exact later.fresh call isLater id isId
  others := by
    intro other id different
    rw [later.others other id different, MemoryStore.find_upsert, if_neg different]
  origin := by
    intro id item found
    rcases later.origin id item found with written | ⟨m, inRest, isId, isItem⟩
    · rw [find_written, Option.or_eq_some_iff] at written
      rcases written with isLast | ⟨-, old⟩
      · obtain ⟨inItems, isId⟩ := mem_of_lastWithId isLast
        obtain ⟨m, inBatch, vec, rfl⟩ := mem_itemsOf inItems
        exact Or.inr ⟨m, List.mem_append_left _ inBatch, isId, vec, rfl⟩
      · exact Or.inl old
    · exact Or.inr ⟨m, List.mem_append_right _ inRest, isId, isItem⟩
  keeps := by
    intro id there
    apply later.keeps id
    rw [find_written]
    intro gone
    exact there (Option.or_eq_none_iff.mp gone).2
  complete := by
    intro noError full m member
    have fullLater : FullVectors outcomes (number + 1) done.calls := by
      intro index call isCall
      obtain ⟨others, isOthers, fills⟩ := full (index + 1) call isCall
      rw [Nat.add_comm index 1, ← Nat.add_assoc] at isOthers
      exact ⟨others, isOthers, fills⟩
    rcases List.mem_append.mp member with inBatch | inRest
    · -- The batch had a vector for each of its texts.
      obtain ⟨own, isOwn, enough, notEmpty⟩ := full 0 _ rfl
      have sameVecs : own = vecs := by
        rw [Nat.add_zero] at isOwn
        exact Except.ok.inj (isOwn.symm.trans isVecs)
      subst sameVecs
      rw [List.length_map] at enough
      obtain ⟨vec, isItem⟩ := itemOf_mem_itemsOf owner enough notEmpty inBatch
      apply later.keeps
      rw [find_written]
      intro gone
      exact lastWithId_eq_none_iff.mp (Option.or_eq_none_iff.mp gone).1 _ isItem rfl
    · exact later.complete noError fullLater m inRest

/-- The ids of a batch that is written are none of the later ones. -/
theorem upsert_notStored {batch rest : List DbMessage} {vecs : List (List φ)}
    (apart : (batch.map DbMessage.id).Disjoint (rest.map DbMessage.id))
    (notStored : ∀ m ∈ rest, store.find owner m.id = none) :
    ∀ m ∈ rest, (store.upsert owner (itemsOf owner batch vecs)).find owner m.id = none := by
  intro m inRest
  rw [find_written, notStored m inRest, Option.or_none, lastWithId_eq_none_iff]
  intro item isItem sameId
  obtain ⟨own, inBatch, vec, rfl⟩ := mem_itemsOf isItem
  have isLater : own.id ∈ rest.map DbMessage.id := List.mem_map.mpr ⟨m, inRest, sameId.symm⟩
  exact apart (List.mem_map_of_mem inBatch) isLater

theorem indexBatches_indexes (batches : List (List DbMessage))
    (distinct : (batches.flatten.map DbMessage.id).Nodup)
    (notStored : ∀ m ∈ batches.flatten, store.find owner m.id = none) :
    Indexes outcomes owner number batches.flatten store
      (indexBatches outcomes owner number batches store) := by
  induction batches generalizing number store with
  | nil => exact indexes_nothing
  | cons batch rest inductionHypothesis =>
      rw [List.flatten_cons] at distinct notStored ⊢
      rw [List.map_append] at distinct
      have batchNotStored : ∀ m ∈ batch, store.find owner m.id = none := fun m member =>
        notStored m (List.mem_append_left _ member)
      have onlyThis : ∀ call ∈ [(⟨batch.map DbMessage.id, batch.map DbMessage.content, store⟩ :
          EmbedCall φ)], ∀ id ∈ call.ids, call.store.find owner id = none := by
        intro call member id isId
        rw [List.mem_singleton.mp member] at isId ⊢
        obtain ⟨m, inBatch, rfl⟩ := List.mem_map.mp isId
        exact batchNotStored m inBatch
      unfold indexBatches
      dsimp only
      cases isVecs : outcomes.embed number (batch.map DbMessage.content) with
      | error message => exact indexes_stopped onlyThis
      | ok vecs =>
          dsimp only
          cases outcomes.upsert number with
          | error message => exact indexes_stopped onlyThis
          | ok _ =>
              refine indexes_batch batchNotStored isVecs (inductionHypothesis ?_ ?_)
              · exact (List.nodup_append'.mp distinct).2.1
              · apply upsert_notStored (List.nodup_append'.mp distinct).2.2
                intro m inRest
                exact notStored m (List.mem_append_right _ inRest)

/-- All batches of the pending messages. -/
theorem indexPending_indexes {pending : List DbMessage}
    (distinct : (pending.map DbMessage.id).Nodup)
    (notStored : ∀ m ∈ pending, store.find owner m.id = none) :
    Indexes outcomes owner number pending store
      (indexBatches outcomes owner number (batchesOf pending.length pending) store) := by
  have all := batchesOf_flatten pending.length pending le_rfl
  have loop : Indexes outcomes owner number (batchesOf pending.length pending).flatten store
      (indexBatches outcomes owner number (batchesOf pending.length pending) store) := by
    apply indexBatches_indexes
    · rw [all]
      exact distinct
    · rw [all]
      exact notStored
  rw [all] at loop
  exact loop

/-- The pending messages are the candidates that are not stored. -/
theorem pendingOf_hasIDs {msgs : List DbMessage} (distinct : (msgs.map DbMessage.id).Nodup) :
    pendingOf msgs (store.hasIDs owner ((candidates msgs).map DbMessage.id)) =
      (candidates msgs).filter fun m => (store.find owner m.id).isNone := by
  rw [pendingOf_eq distinct]
  apply List.filter_congr
  intro m member
  rw [MemoryStore.hasIDs_lookup]
  cases store.find owner m.id with
  | none => simp
  | some item => simp [List.mem_map_of_mem member]

/-- The whole call: the messages are the candidates that are not stored. -/
theorem ensureIndexed_indexes (r : Retriever) (outcomes : IndexOutcomes φ) (owner : Int)
    (table : ChatTable) (store : MemoryStore φ) :
    Indexes outcomes owner 0
      ((candidates (loadUserTextMessages owner r.maxCorpus table)).filter fun m =>
        (store.find owner m.id).isNone)
      store (r.ensureIndexed outcomes owner table store) := by
  have distinct := nodup_loaded owner r.maxCorpus table
  have stopped : ∀ message, Indexes outcomes owner 0
      ((candidates (loadUserTextMessages owner r.maxCorpus table)).filter fun m =>
        (store.find owner m.id).isNone) store ⟨.error message, [], store⟩ := by
    intro message
    apply indexes_stopped
    intro call member
    cases member
  unfold ensureIndexed
  generalize loadUserTextMessages owner r.maxCorpus table = msgs at distinct stopped
  cases outcomes.load with
  | error message => exact stopped message
  | ok _ =>
      dsimp only
      by_cases none : (candidates msgs).map DbMessage.id = []
      · rw [if_pos none, List.map_eq_nil_iff.mp none]
        exact indexes_nothing
      · rw [if_neg none]
        cases outcomes.hasIDs with
        | error message => exact stopped message
        | ok _ =>
            dsimp only
            rw [pendingOf_hasIDs distinct]
            split
            · rename_i nothing
              rw [nothing]
              exact indexes_nothing
            · apply indexPending_indexes
              · exact distinct.sublist ((List.filter_sublist.trans List.filter_sublist).map _)
              · intro m member
                exact Option.isNone_iff_eq_none.mp (List.mem_filter.mp member).2

end Loop

end Retriever

/-! ### Runs -/

namespace IndexState

/-- The item is the row with its id, which the owner sent or received. -/
def IsRow (table : ChatTable) (owner id : Int) (item : Item φ) : Prop :=
  ∃ row, (id, row) ∈ table.rows ∧ (row.senderid = owner ∨ row.targetid = owner) ∧ item.id = id ∧
    item.text = row.msgcontent ∧ item.ts = row.createTime ∧
    item.mine = decide (row.senderid = owner)

def Sound (s : IndexState φ) : Prop :=
  ∀ owner id item, s.store.find owner id = some item → IsRow s.table owner id item

theorem IsRow.mono {table next : ChatTable} {owner id : Int} {item : Item φ}
    (isRow : IsRow table owner id item) (more : ∀ entry ∈ table.rows, entry ∈ next.rows) :
    IsRow next owner id item := by
  obtain ⟨row, member, same⟩ := isRow
  exact ⟨row, more _ member, same⟩

theorem sound_insert {s : IndexState φ} (sound : s.Sound) (r : Retriever)
    (entry : Int × ChatMsgRow) : (s.step r (.insert entry)).Sound := by
  intro owner id item found
  refine (sound owner id item found).mono ?_
  intro old member
  show old ∈ ((s.table.insert entry).getD s.table).rows
  cases inserted : s.table.insert entry with
  | none => exact member
  | some next =>
      rw [Option.getD_some, (KeyedTable.insert_eq_some inserted).2]
      exact List.mem_append_left _ member

theorem sound_ensureIndexed {s : IndexState φ} (sound : s.Sound) (r : Retriever) (owner : Int)
    (outcomes : IndexOutcomes φ) : (s.step r (.ensureIndexed owner outcomes)).Sound := by
  have indexes := r.ensureIndexed_indexes outcomes owner s.table s.store
  intro other id item found
  by_cases own : other = owner
  · subst own
    rcases indexes.origin id item found with old | ⟨m, pending, isId, vec, isItem⟩
    · exact sound other id item old
    · have loaded := List.mem_of_mem_filter (List.mem_of_mem_filter pending)
      obtain ⟨entry, member, isText, rfl⟩ := Retriever.row_of_loaded loaded
      obtain ⟨involved, -⟩ := of_decide_eq_true isText
      subst isId
      subst isItem
      exact ⟨entry.2, member, involved, rfl, rfl, rfl, rfl⟩
  · have unchanged := indexes.others other id own
    exact sound other id item (unchanged ▸ found)

theorem sound_run (r : Retriever) (table : ChatTable) (labels : List (IndexLabel φ)) :
    (run (step r) ⟨table, MemoryStore.new⟩ labels).Sound := by
  refine run_keeps Sound ?_ ?_
  · intro s label sound
    cases label with
    | insert entry => exact sound_insert sound r entry
    | ensureIndexed owner outcomes => exact sound_ensureIndexed sound r owner outcomes
  · intro owner id item found
    cases found

/-- After every run the stored items are rows of their owners. A further call
embeds nothing that is stored for its owner, leaves the items of all others, and
when it returns no error and had its vectors, the recent messages are stored. -/
theorem index_incremental (r : Retriever) (table : ChatTable) (past : List (IndexLabel φ)) :
    let s := run (step r) ⟨table, MemoryStore.new⟩ past
    (∀ owner id item, s.store.find owner id = some item → IsRow s.table owner id item) ∧
      ∀ (owner : Int) (outcomes : IndexOutcomes φ),
        let done := r.ensureIndexed outcomes owner s.table s.store
        (∀ call ∈ done.calls, ∀ id ∈ call.ids, call.store.find owner id = none) ∧
          (∀ other id, other ≠ owner → done.store.find other id = s.store.find other id) ∧
          (done.result = .ok () → Retriever.FullVectors outcomes 0 done.calls →
            ∀ id row, (id, row) ∈ s.table.rows → isTextOf owner row = true →
              isBlank row.msgcontent = false →
              s.table.rows.countP (fun other => isTextOf owner other.2 ∧ id < other.1) <
                r.maxCorpus →
              done.store.find owner id ≠ none) := by
  refine ⟨sound_run r table past, ?_⟩
  intro owner outcomes
  generalize run (step r) ⟨table, MemoryStore.new⟩ past = s
  have indexes := r.ensureIndexed_indexes outcomes owner s.table s.store
  refine ⟨indexes.fresh, indexes.others, ?_⟩
  intro noError full id row member isText notBlank recent
  have loaded := Retriever.loaded_of_recent member isText recent
  by_cases there : s.store.find owner id = none
  · apply indexes.complete noError full (dbMessage (id, row))
    rw [List.mem_filter]
    refine ⟨List.mem_filter.mpr ⟨loaded, ?_⟩, Option.isNone_iff_eq_none.mpr there⟩
    show (!isBlank row.msgcontent) = true
    rw [notBlank]
    rfl
  · exact indexes.keeps id there

/-! ### One run -/

namespace Sample

def row : ChatMsgRow := ⟨7, 8, str "hello", 0, [], 0, [], 0, [], 1700000000⟩

def outcomes : IndexOutcomes Nat :=
  ⟨.ok (), .ok (), fun _ texts => .ok (texts.map fun _ => [1]), fun _ => .ok ()⟩

end Sample

theorem index_incremental_hello :
    let s := run (step (Retriever.new 8 1000)) ⟨KeyedTable.empty, MemoryStore.new⟩
      [IndexLabel.insert (1, Sample.row)]
    ((Retriever.new 8 1000).ensureIndexed Sample.outcomes 7 s.table s.store).store.find 7 1 ≠
      none := by
  obtain ⟨-, calls⟩ := index_incremental (Retriever.new 8 1000) KeyedTable.empty
    [(IndexLabel.insert (1, Sample.row) : IndexLabel Nat)]
  obtain ⟨-, -, stores⟩ := calls 7 Sample.outcomes
  have full : ∀ calls, Retriever.FullVectors Sample.outcomes 0 calls := by
    intro calls index call _
    refine ⟨call.texts.map fun _ => [1], rfl, List.length_map _, ?_⟩
    intro vec member
    obtain ⟨text, -, rfl⟩ := List.mem_map.mp member
    exact List.cons_ne_nil _ _
  exact stores (by decide +kernel) (full _) 1 Sample.row (by decide +kernel) (by decide +kernel)
    (by decide +kernel) (by decide +kernel)

end IndexState

end AimServer
