import AimServer.GoText
import AimServer.Lib.Run
import AimServer.Rag.Qdrant
import Mathlib.Data.List.Find

/-!
Contract: the two vector stores give the same answers.

Owns: when point ids tell pairs of owner and message apart, the relation between
the nested maps of the memory store and the one collection of Qdrant, and the
answers of both in any run.

The digest is taken to keep apart the texts it is given in a run. Everything else
about point ids is proved: the text of a pair determines the pair, and the text
of a UUID determines the digest.
-/

namespace AimServer

open AimServer.Lib

variable {φ : Type}

/-! ### Point ids -/

private theorem lowerHexPair_roundtrip :
    ∀ byte : UInt8,
      ((hexVal ((str "0123456789abcdef").getD (byte >>> 4).toNat 0) <<< 4) |||
        hexVal ((str "0123456789abcdef").getD (byte &&& 0x0F).toNat 0)) = byte := by
  intro byte
  obtain ⟨bits⟩ := byte
  revert bits
  decide +kernel

theorem fromHex_encodeToString (data : Bytes) : fromHex (encodeToString data) = data := by
  induction data with
  | nil => rfl
  | cons byte rest inductionHypothesis =>
      unfold encodeToString hexText at inductionHypothesis ⊢
      simp only [List.flatMap_cons, List.cons_append, List.nil_append, fromHex,
        inductionHypothesis, lowerHexPair_roundtrip]

theorem length_encodeToString (data : Bytes) : (encodeToString data).length = 2 * data.length := by
  induction data with
  | nil => rfl
  | cons byte rest inductionHypothesis =>
      unfold encodeToString hexText at inductionHypothesis ⊢
      rw [List.flatMap_cons, List.length_append, inductionHypothesis]
      simp only [List.length_cons, List.length_nil]
      omega

/-- The text of a UUID determines its thirty-two digits. -/
theorem uuidText_injective {first second : Bytes} (firstDigits : first.length = 32)
    (secondDigits : second.length = 32) (same : uuidText first = uuidText second) :
    first = second := by
  have parts : ∀ h : Bytes, h.length = 32 → h = h.take 8 ++ ((h.drop 8).take 4 ++
      ((h.drop 12).take 4 ++ ((h.drop 16).take 4 ++ (h.drop 20).take 12))) := by
    intro h digits
    have last : (h.drop 20).take 12 = h.drop 20 := by
      apply List.take_of_length_le
      rw [List.length_drop]
      omega
    rw [last, ← List.drop_drop (i := 4) (j := 16), List.take_append_drop,
      ← List.drop_drop (i := 4) (j := 12), List.take_append_drop,
      ← List.drop_drop (i := 4) (j := 8), List.take_append_drop, List.take_append_drop]
  have lengths : ∀ (start count : Nat), start + count ≤ 32 →
      ((first.drop start).take count).length = ((second.drop start).take count).length := by
    intro start count inside
    rw [List.length_take, List.length_take, List.length_drop, List.length_drop, firstDigits,
      secondDigits]
  unfold uuidText at same
  obtain ⟨part₁, rest₁⟩ := List.append_inj same (lengths 0 8 (by decide))
  obtain ⟨part₂, rest₂⟩ := List.append_inj (List.cons.inj rest₁).2 (lengths 8 4 (by decide))
  obtain ⟨part₃, rest₃⟩ := List.append_inj (List.cons.inj rest₂).2 (lengths 12 4 (by decide))
  obtain ⟨part₄, rest₄⟩ := List.append_inj (List.cons.inj rest₃).2 (lengths 16 4 (by decide))
  have part₅ := (List.cons.inj rest₄).2
  rw [parts first firstDigits, part₁, part₂, part₃, part₄, part₅, ← parts second secondDigits]

theorem pointKey_injective {first second : Int × Int}
    (same : pointKey first.1 first.2 = pointKey second.1 second.2) : first = second := by
  obtain ⟨sameOwner, sameId⟩ := intText_colon_inj same
  exact Prod.ext sameOwner (intText_injective sameId)

/-- Point ids tell apart what the digest tells apart. -/
theorem pointID_injOn {pairs : Set (Int × Int)}
    (apart : Set.InjOn Md5.sum {text | ∃ pair ∈ pairs, text = pointKey pair.1 pair.2})
    {first second : Int × Int} (isFirst : first ∈ pairs) (isSecond : second ∈ pairs)
    (same : pointID first.1 first.2 = pointID second.1 second.2) : first = second := by
  have digits : ∀ text : Bytes, (encodeToString (Md5.sum text)).length = 32 := by
    intro text
    rw [length_encodeToString, Md5.length_sum]
  have sameHex := uuidText_injective (digits _) (digits _) same
  have sameDigest : Md5.sum (pointKey first.1 first.2) = Md5.sum (pointKey second.1 second.2) := by
    rw [← fromHex_encodeToString (Md5.sum _), sameHex, fromHex_encodeToString]
  exact pointKey_injective (apart ⟨first, isFirst, rfl⟩ ⟨second, isSecond, rfl⟩ sameDigest)

/-! ### The two stores of a run -/

namespace QdrantStore

/-- The points of the collection, none where it is missing. -/
def points (q : QdrantStore φ) : GoMap Bytes (Point φ) :=
  match q.server with
  | none => ∅
  | some collection => collection.points

end QdrantStore

namespace VectorStores

/-- The collection holds the items of the memory store under their point ids, and
nothing else. `pairs` are the owners and ids that may be used. -/
structure Linked (pairs : Set (Int × Int)) (dim : Nat) (s : VectorStores φ) : Prop where
  ensured : s.qdrant.ensured = true → s.qdrant.server ≠ none
  size : ∀ collection, s.qdrant.server = some collection → collection.size = dim
  shape : ∀ uuid point, s.qdrant.points.lookup uuid = some point →
    (point.payload.owner, point.payload.msgid) ∈ pairs ∧
      uuid = pointID point.payload.owner point.payload.msgid
  same : ∀ pair ∈ pairs, s.qdrant.points.lookup (pointID pair.1 pair.2) =
    (s.memory.find pair.1 pair.2).map (QdrantStore.pointOf pair.1)
  own : ∀ owner id item, s.memory.find owner id = some item → item.id = id ∧ (owner, id) ∈ pairs

theorem linked_new (pairs : Set (Int × Int)) (dim : Nat) :
    Linked pairs dim (new : VectorStores φ) where
  ensured := by
    intro isEnsured
    cases isEnsured
  size := by
    intro collection isServer
    cases isServer
  shape := by
    intro uuid point found
    cases found
  same := by
    intro pair _
    rfl
  own := by
    intro owner id item found
    cases found

section Steps

variable {pairs : Set (Int × Int)} {dim : Nat} {s : VectorStores φ} {owner : Int}

/-- After `ensureCollection` the collection is there, with the points it had. -/
theorem ensureCollection_server (linked : Linked pairs dim s) :
    ∃ collection, (s.qdrant.ensureCollection dim).server = some collection ∧
      collection.size = dim ∧ collection.points = s.qdrant.points := by
  unfold QdrantStore.ensureCollection QdrantStore.points
  cases isServer : s.qdrant.server with
  | some collection =>
      have size := linked.size collection isServer
      split
      · exact ⟨collection, isServer, size, rfl⟩
      · exact ⟨collection, rfl, size, rfl⟩
  | none =>
      rw [if_neg fun isEnsured => linked.ensured isEnsured isServer]
      exact ⟨⟨dim, ∅⟩, rfl, rfl, rfl⟩

/-- The points that a batch of items writes. -/
def written (owner : Int) (items : List (Item φ)) (points : GoMap Bytes (Point φ)) :
    GoMap Bytes (Point φ) :=
  GoMap.insertAll (fun item => pointID owner item.id) (QdrantStore.pointOf owner) items points

theorem upsert_cons (owner : Int) (first : Item φ) (rest : List (Item φ)) (q : QdrantStore φ) :
    q.upsert owner (first :: rest) =
      (Qdrant.putPoints ((first :: rest).map fun item =>
          (pointID owner item.id, QdrantStore.pointOf owner item))
        (q.ensureCollection first.vec.length).server).map QdrantStore.checkStatus
          (⟨(q.ensureCollection first.vec.length).ensured, ·⟩) := rfl

/-- `Upsert` of items of the right size is accepted. -/
theorem upsert_qdrant (owner : Int) (linked : Linked pairs dim s) {items : List (Item φ)}
    (oneSize : ∀ item ∈ items, item.vec.length = dim) (nonempty : items ≠ []) :
    ∃ collection : Collection φ, collection.size = dim ∧
      collection.points = written owner items s.qdrant.points ∧
      s.qdrant.upsert owner items =
        (.ok (), ⟨(s.qdrant.ensureCollection dim).ensured, some collection⟩) := by
  obtain ⟨first, rest, rfl⟩ := List.exists_cons_of_ne_nil nonempty
  obtain ⟨collection, isServer, size, isPoints⟩ := ensureCollection_server linked
  have fits : ((first :: rest).map fun item =>
      (pointID owner item.id, QdrantStore.pointOf owner item)).all
        (fun point => point.2.vector.length = collection.size) = true := by
    rw [List.all_map, List.all_eq_true]
    intro item member
    exact decide_eq_true ((oneSize item member).trans size.symm)
  refine ⟨{ collection with points := written owner (first :: rest) collection.points }, size, ?_,
    ?_⟩
  · rw [isPoints]
  · have put : Qdrant.putPoints ((first :: rest).map fun item =>
        (pointID owner item.id, QdrantStore.pointOf owner item)) (some collection) =
          (200, some { collection with
            points := written owner (first :: rest) collection.points }) := by
      unfold Qdrant.putPoints
      dsimp only
      rw [if_pos fits, List.foldl_map]
      rfl
    rw [upsert_cons, oneSize first List.mem_cons_self, isServer, put]
    rfl

/-- The point ids of the usable pairs are different. -/
def Apart (pairs : Set (Int × Int)) : Prop :=
  ∀ first ∈ pairs, ∀ second ∈ pairs,
    pointID first.1 first.2 = pointID second.1 second.2 → first = second

/-- Under a usable point id the last item of its owner and id is written. -/
theorem lookup_written (apart : Apart pairs) {items : List (Item φ)}
    (usable : ∀ item ∈ items, (owner, item.id) ∈ pairs) (points : GoMap Bytes (Point φ))
    {pair : Int × Int} (isPair : pair ∈ pairs) :
    (written owner items points).lookup (pointID pair.1 pair.2) =
      ((if pair.1 = owner then lastWithId pair.2 items else none).map
        (QdrantStore.pointOf owner)).or (points.lookup (pointID pair.1 pair.2)) := by
  have found : (items.reverse.find? fun item => pointID owner item.id = pointID pair.1 pair.2) =
      if pair.1 = owner then lastWithId pair.2 items else none := by
    split
    · rename_i isOwner
      subst isOwner
      apply List.find?_congr
      intro item member
      rw [decide_eq_decide]
      constructor
      · intro samePoint
        exact congrArg Prod.snd
          (apart _ (usable item (List.mem_reverse.mp member)) _ isPair samePoint)
      · intro sameId
        rw [sameId]
    · rename_i otherOwner
      rw [List.find?_eq_none]
      intro item member samePoint
      have same := apart _ (usable item (List.mem_reverse.mp member)) _ isPair
        (of_decide_eq_true samePoint)
      exact otherOwner (congrArg Prod.fst same).symm
  rw [written, GoMap.lookup_insertAll, found]

/-- Whatever is under a key was there or is one of the items. -/
theorem written_shape {items : List (Item φ)} {points : GoMap Bytes (Point φ)} {uuid : Bytes}
    {point : Point φ} (found : (written owner items points).lookup uuid = some point) :
    points.lookup uuid = some point ∨
      ∃ item ∈ items, uuid = pointID owner item.id ∧ point = QdrantStore.pointOf owner item := by
  rw [written, GoMap.lookup_insertAll, Option.or_eq_some_iff] at found
  rcases found with isItem | ⟨-, old⟩
  · obtain ⟨item, isLast, rfl⟩ := Option.map_eq_some_iff.mp isItem
    have sameKey : pointID owner item.id = uuid := by simpa using List.find?_some isLast
    exact Or.inr ⟨item, List.mem_reverse.mp (List.mem_of_find?_eq_some isLast), sameKey.symm, rfl⟩
  · exact Or.inl old

theorem linked_upsert (linked : Linked pairs dim s) (apart : Apart pairs) {items : List (Item φ)}
    (oneSize : ∀ item ∈ items, item.vec.length = dim)
    (usable : ∀ item ∈ items, (owner, item.id) ∈ pairs) :
    Linked pairs dim (s.step (.upsert owner items)) := by
  by_cases nonempty : items = []
  · subst nonempty
    exact linked
  obtain ⟨collection, size, isPoints, isUpsert⟩ := upsert_qdrant owner linked oneSize
    nonempty
  have newPoints : (s.step (.upsert owner items)).qdrant.points =
      written owner items s.qdrant.points := by
    show (s.qdrant.upsert owner items).2.points = _
    rw [isUpsert]
    exact isPoints
  have newServer : (s.step (.upsert owner items)).qdrant.server = some collection := by
    show (s.qdrant.upsert owner items).2.server = _
    rw [isUpsert]
  have newItems : ∀ other id, (s.step (.upsert owner items)).memory.find other id =
      if other = owner then (lastWithId id items).or (s.memory.find owner id)
      else s.memory.find other id := MemoryStore.find_upsert owner items s.memory
  refine ⟨?_, ?_, ?_, ?_, ?_⟩
  · intro _
    rw [newServer]
    exact Option.some_ne_none _
  · intro other isServer
    rw [newServer] at isServer
    cases isServer
    exact size
  · intro uuid point found
    rw [newPoints] at found
    rcases written_shape found with old | ⟨item, member, rfl, rfl⟩
    · exact linked.shape uuid point old
    · exact ⟨usable item member, rfl⟩
  · intro pair isPair
    rw [newPoints, lookup_written apart usable _ isPair, newItems, linked.same pair isPair]
    split
    · rename_i isOwner
      rw [isOwner, Option.map_or]
    · rfl
  · intro other id item found
    rw [newItems] at found
    split at found
    · rename_i isOwner
      rw [isOwner]
      rcases Option.or_eq_some_iff.mp found with isLast | ⟨-, old⟩
      · obtain ⟨member, isId⟩ := mem_of_lastWithId isLast
        exact ⟨isId, isId ▸ usable item member⟩
      · exact linked.own owner id item old
    · exact linked.own other id item found

/-! ### `HasIDs` -/

/-- `uuidToID` gives back the id of each point id that was asked for. -/
theorem lookup_uuidToID (apart : Apart pairs) {ids : List Int}
    (usable : ∀ id ∈ ids, (owner, id) ∈ pairs) {id : Int} (member : id ∈ ids) :
    (ids.foldl (fun map id => map.insert (pointID owner id) id) (∅ : GoMap Bytes Int)).lookup
      (pointID owner id) = some id := by
  have built := GoMap.lookup_insertAll (pointID owner) (fun id => id) ids ∅ (pointID owner id)
  cases found : ids.reverse.find? fun other => pointID owner other = pointID owner id with
  | none =>
      have absent := List.find?_eq_none.mp found id (List.mem_reverse.mpr member)
      exact absurd (decide_eq_true rfl) absent
  | some other =>
      have samePoint : pointID owner other = pointID owner id := by
        simpa using List.find?_some found
      have isOther := List.mem_reverse.mp (List.mem_of_find?_eq_some found)
      have same : other = id := congrArg Prod.snd
        (apart _ (usable other isOther) _ (usable id member) samePoint)
      rw [found, same] at built
      exact built

theorem hasIDs_same (linked : Linked pairs dim s) (apart : Apart pairs) {ids : List Int}
    (usable : ∀ id ∈ ids, (owner, id) ∈ pairs) :
    ∃ answer, s.qdrant.hasIDs owner ids = .ok answer ∧
      ∀ id, answer.lookup id = (s.memory.hasIDs owner ids).lookup id := by
  have asked : ∀ id ∈ ids, (s.qdrant.points.lookup (pointID owner id)).isSome =
      (s.memory.find owner id).isSome := by
    intro id member
    rw [linked.same _ (usable id member), Option.isSome_map]
  unfold QdrantStore.hasIDs Qdrant.getPoints
  by_cases none : ids = []
  · subst none
    refine ⟨∅, rfl, ?_⟩
    intro id
    rw [MemoryStore.hasIDs_lookup, if_neg (by simp)]
    rfl
  rw [if_neg none]
  unfold QdrantStore.points at asked
  cases isServer : s.qdrant.server with
  | none =>
      refine ⟨∅, rfl, ?_⟩
      intro id
      rw [MemoryStore.hasIDs_lookup, if_neg]
      · rfl
      · rintro ⟨member, there⟩
        rw [← asked id member, isServer] at there
        cases there
  | some collection =>
      rw [isServer] at asked
      dsimp only at asked ⊢
      rw [List.filter_map, List.foldl_map]
      refine ⟨_, rfl, ?_⟩
      intro id
      have stored : ids.filter ((fun uuid => (collection.points.lookup uuid).isSome) ∘
          pointID owner) = ids.filter fun id => (s.memory.find owner id).isSome :=
        List.filter_congr asked
      rw [stored, MemoryStore.hasIDs_lookup, List.foldl_ext _ (fun out id => out.insert id true)]
      · have marks := GoMap.lookup_insertAll (fun id : Int => id) (fun _ => true)
          (ids.filter fun id => (s.memory.find owner id).isSome) ∅ id
        refine marks.trans ?_
        cases found : (ids.filter fun id => (s.memory.find owner id).isSome).reverse.find?
            fun other => other = id with
        | none =>
            rw [if_neg]
            · rfl
            · intro there
              have absent := List.find?_eq_none.mp found id
                (List.mem_reverse.mpr (List.mem_filter.mpr there))
              exact absent (decide_eq_true rfl)
        | some other =>
            have isId : other = id := by simpa using List.find?_some found
            subst isId
            rw [if_pos (List.mem_filter.mp
              (List.mem_reverse.mp (List.mem_of_find?_eq_some found)))]
            rfl
      · intro out id member
        rw [lookup_uuidToID apart usable (List.mem_of_mem_filter member)]

/-! ### `TopK` -/

section Search

variable {α : Type} {score : List φ → List φ → α} {query : List φ}

theorem mem_memory_scored {hit : Hit × α} :
    hit ∈ s.memory.scored score owner query ↔
      ∃ id item, s.memory.find owner id = some item ∧
        hit = (hitOf item, score query item.vec) := by
  unfold MemoryStore.scored MemoryStore.find
  rw [List.mem_map]
  constructor
  · rintro ⟨⟨id, item⟩, member, rfl⟩
    exact ⟨id, item, GoMap.mem_entries_iff.mp member, rfl⟩
  · rintro ⟨id, item, found, rfl⟩
    exact ⟨⟨id, item⟩, GoMap.mem_entries_iff.mpr found, rfl⟩

theorem qdrant_scored_eq (q : QdrantStore φ) :
    q.scored score owner query =
      (q.points.entries.filter fun entry => entry.2.payload.owner = owner).map fun entry =>
        (entry.2.payload.hit, score query entry.2.vector) := by
  unfold QdrantStore.scored QdrantStore.points Qdrant.ownedPoints
  cases q.server with
  | none => rfl
  | some collection =>
      dsimp only
      rw [List.filter_map, List.map_map]
      rfl

theorem mem_qdrant_scored {hit : Hit × α} :
    hit ∈ s.qdrant.scored score owner query ↔
      ∃ uuid point, s.qdrant.points.lookup uuid = some point ∧ point.payload.owner = owner ∧
        hit = (point.payload.hit, score query point.vector) := by
  rw [qdrant_scored_eq, List.mem_map]
  constructor
  · rintro ⟨⟨uuid, point⟩, member, rfl⟩
    obtain ⟨isEntry, isOwner⟩ := List.mem_filter.mp member
    exact ⟨uuid, point, GoMap.mem_entries_iff.mp isEntry, of_decide_eq_true isOwner, rfl⟩
  · rintro ⟨uuid, point, found, isOwner, rfl⟩
    exact ⟨⟨uuid, point⟩, List.mem_filter.mpr
      ⟨GoMap.mem_entries_iff.mpr found, decide_eq_true isOwner⟩, rfl⟩

/-- The ids of an owner's items are different. -/
theorem nodup_memory_scored (linked : Linked pairs dim s) :
    (s.memory.scored score owner query).Nodup := by
  apply List.Nodup.of_map fun hit => hit.1.id
  have keys : (s.memory.scored score owner query).map (fun hit => hit.1.id) =
      (s.memory.bucket owner).keys := by
    unfold MemoryStore.scored
    rw [List.map_map]
    apply List.map_congr_left
    intro entry member
    exact (linked.own owner entry.1 entry.2 (GoMap.mem_entries_iff.mp member)).1
  rw [keys]
  exact (s.memory.bucket owner).keys_nodup

/-- The message ids of an owner's points are different, as their point ids are. -/
theorem nodup_qdrant_scored (linked : Linked pairs dim s) :
    (s.qdrant.scored score owner query).Nodup := by
  apply List.Nodup.of_map fun hit => pointID owner hit.1.id
  have keys : (s.qdrant.scored score owner query).map (fun hit => pointID owner hit.1.id) =
      (s.qdrant.points.entries.filter fun entry => entry.2.payload.owner = owner).map
        fun entry => entry.1 := by
    rw [qdrant_scored_eq, List.map_map]
    apply List.map_congr_left
    intro entry member
    obtain ⟨isEntry, isOwner⟩ := List.mem_filter.mp member
    have isKey := (linked.shape entry.1 entry.2 (GoMap.mem_entries_iff.mp isEntry)).2
    rw [of_decide_eq_true isOwner] at isKey
    exact isKey.symm
  rw [keys]
  exact s.qdrant.points.keys_nodup.sublist (List.filter_sublist.map _)

/-- The owner filter of Qdrant selects the bucket of the owner. -/
theorem scored_perm (linked : Linked pairs dim s) :
    (s.memory.scored score owner query).Perm (s.qdrant.scored score owner query) := by
  rw [List.perm_ext_iff_of_nodup (nodup_memory_scored linked) (nodup_qdrant_scored linked)]
  intro hit
  rw [mem_memory_scored, mem_qdrant_scored]
  constructor
  · rintro ⟨id, item, found, rfl⟩
    have isPair := (linked.own owner id item found).2
    refine ⟨pointID owner id, QdrantStore.pointOf owner item, ?_, rfl, rfl⟩
    rw [linked.same (owner, id) isPair, found]
    rfl
  · rintro ⟨uuid, point, found, isOwner, rfl⟩
    obtain ⟨isPair, rfl⟩ := linked.shape uuid point found
    rw [linked.same _ isPair] at found
    obtain ⟨item, isItem, isPoint⟩ := Option.map_eq_some_iff.mp found
    refine ⟨point.payload.msgid, item, ?_, ?_⟩
    · rw [← isOwner]
      exact isItem
    · rw [← isPoint]
      rfl

end Search

/-- The answers of both stores to a call. The results that `TopK` may return are
the same; two of them have the same scores, and the same hits above the lowest. -/
def SameAnswers {α : Type} [LinearOrder α] (score : List φ → List φ → α) (s : VectorStores φ) :
    VectorCall φ → Prop
  | .upsert owner items => (s.qdrant.upsert owner items).1 = .ok ()
  | .hasIDs owner ids =>
      ∃ answer, s.qdrant.hasIDs owner ids = .ok answer ∧
        ∀ id, answer.lookup id = (s.memory.hasIDs owner ids).lookup id
  | .topK owner query k =>
      (∃ hits, s.memory.TopK score owner query k hits) ∧
        (∀ hits, s.memory.TopK score owner query k hits ↔
          s.qdrant.TopK score owner query k (.ok hits)) ∧
        (∀ code, ¬ s.qdrant.TopK score owner query k (.error code)) ∧
        ∀ first second, s.memory.TopK score owner query k first →
          s.qdrant.TopK score owner query k (.ok second) →
          first.map Prod.snd = second.map Prod.snd ∧
            ∀ hit low, low ∈ first → low.2 < hit.2 → first.count hit = second.count hit

theorem topK_same {α : Type} [LinearOrder α] (score : List φ → List φ → α)
    (linked : Linked pairs dim s) {query : List φ} (oneSize : query.length = dim) (k : Nat) :
    SameAnswers score s (.topK owner query k) := by
  have fits : ∀ collection, s.qdrant.server = some collection →
      query.length = collection.size := by
    intro collection isServer
    rw [oneSize, linked.size collection isServer]
  have sameResults : ∀ hits, s.memory.TopK score owner query k hits ↔
      s.qdrant.TopK score owner query k (.ok hits) := by
    intro hits
    constructor
    · intro result
      exact ⟨fits, (isTopK_congr (scored_perm linked)).mp result⟩
    · intro result
      exact (isTopK_congr (scored_perm linked)).mpr result.2
  refine ⟨exists_isTopK _ _ _, sameResults, ?_, ?_⟩
  · rintro code ⟨-, collection, isServer, otherSize⟩
    exact otherSize (fits collection isServer)
  · intro first second isFirst isSecond
    have isSecond' := (sameResults second).mpr isSecond
    exact ⟨isFirst.scores_eq isSecond', fun hit low returned beats =>
      isFirst.count_congr isSecond' returned beats⟩

/-! ### Every call -/

theorem linked_step (linked : Linked pairs dim s) (apart : Apart pairs) {call : VectorCall φ}
    (oneSize : call.HasSize dim) (usable : ∀ pair ∈ call.pairs, pair ∈ pairs) :
    Linked pairs dim (s.step call) := by
  cases call with
  | upsert owner items =>
      apply linked_upsert linked apart oneSize
      intro item member
      exact usable _ (List.mem_map_of_mem member)
  | hasIDs owner ids => exact linked
  | topK owner query k => exact linked

theorem same_answers {α : Type} [LinearOrder α] (score : List φ → List φ → α)
    (linked : Linked pairs dim s) (apart : Apart pairs) {call : VectorCall φ}
    (oneSize : call.HasSize dim) (usable : ∀ pair ∈ call.pairs, pair ∈ pairs) :
    SameAnswers score s call := by
  cases call with
  | upsert owner items =>
      by_cases nonempty : items = []
      · subst nonempty
        rfl
      · obtain ⟨collection, -, -, isUpsert⟩ := upsert_qdrant owner linked oneSize nonempty
        exact congrArg Prod.fst isUpsert
  | hasIDs owner ids =>
      apply hasIDs_same linked apart
      intro id member
      exact usable _ (List.mem_map_of_mem member)
  | topK owner query k => exact topK_same score linked oneSize k

end Steps

/-- The pairs of owner and id that some call uses. -/
def usedPairs (labels : List (VectorCall φ)) : Set (Int × Int) :=
  {pair | ∃ call ∈ labels, pair ∈ call.pairs}

theorem linked_run {dim : Nat} {labels : List (VectorCall φ)}
    (oneSize : ∀ call ∈ labels, call.HasSize dim) (apart : Apart (usedPairs labels))
    (past rest : List (VectorCall φ)) (split : labels = past ++ rest) :
    Linked (usedPairs labels) dim (run step new past) := by
  induction past using List.reverseRecOn generalizing rest with
  | nil => exact linked_new _ _
  | append_singleton past last inductionHypothesis =>
      have isLabel : last ∈ labels := by simp [split]
      have before := inductionHypothesis (last :: rest) (by simp [split])
      rw [run_append]
      exact linked_step before apart (oneSize last isLabel)
        fun pair isPair => ⟨last, isLabel, isPair⟩

/-- In every run of calls with vectors of one size, whose key texts the digest keeps
apart, both stores give the same answers and no two pairs share a point id. -/
theorem vector_stores_agree {α : Type} [LinearOrder α] (score : List φ → List φ → α) {dim : Nat}
    {labels past rest : List (VectorCall φ)} {call : VectorCall φ}
    (oneSize : 0 < dim ∧ ∀ call ∈ labels, call.HasSize dim)
    (apart : Set.InjOn Md5.sum {text | ∃ pair ∈ usedPairs labels, text = pointKey pair.1 pair.2})
    (split : labels = past ++ call :: rest) :
    SameAnswers score (run step new past) call ∧
      ∀ first ∈ usedPairs labels, ∀ second ∈ usedPairs labels,
        pointID first.1 first.2 = pointID second.1 second.2 → first = second := by
  have pointsApart : Apart (usedPairs labels) := by
    intro first isFirst second isSecond samePoint
    exact pointID_injOn apart isFirst isSecond samePoint
  have linked := linked_run oneSize.2 pointsApart past (call :: rest) split
  have isLabel : call ∈ labels := by simp [split]
  exact ⟨same_answers score linked pointsApart (oneSize.2 call isLabel)
    fun pair isPair => ⟨call, isLabel, isPair⟩, pointsApart⟩

/-! ### One run -/

namespace Sample

def dot (first second : List Int) : Int := (first.zipWith (· * ·) second).sum

/-- One message for both of its parties, a question for two ids, and a search. -/
def calls : List (VectorCall Int) :=
  [.upsert 7 [⟨1, str "hello", [1, 0], 1700000000, true⟩],
    .upsert 8 [⟨1, str "hello", [1, 0], 1700000000, false⟩], .hasIDs 7 [1, 2],
    .topK 7 [1, 0] 8]

/-- The pairs of these calls. -/
def used : List (Int × Int) := [(7, 1), (8, 1), (7, 2)]

theorem mem_used {pair : Int × Int} (isUsed : pair ∈ usedPairs calls) : pair ∈ used := by
  obtain ⟨call, member, isPair⟩ := isUsed
  simp only [calls, List.mem_cons, List.not_mem_nil, or_false] at member
  rcases member with rfl | rfl | rfl | rfl
  all_goals
    simp only [VectorCall.pairs, List.map_cons, List.map_nil, List.mem_cons, List.not_mem_nil,
      or_false] at isPair
  · rw [isPair]
    decide
  · rw [isPair]
    decide
  · rcases isPair with rfl | rfl
    · decide
    · decide

theorem digests_apart : ∀ first ∈ used, ∀ second ∈ used,
    Md5.sum (pointKey first.1 first.2) = Md5.sum (pointKey second.1 second.2) →
      pointKey first.1 first.2 = pointKey second.1 second.2 := by
  decide +kernel

end Sample

theorem vector_stores_agree_hello :
    SameAnswers Sample.dot (run step new (Sample.calls.take 3)) (.topK 7 [1, 0] 8) := by
  have oneSize : ∀ call ∈ Sample.calls, call.HasSize 2 := by
    intro call member
    simp only [Sample.calls, List.mem_cons, List.not_mem_nil, or_false] at member
    rcases member with rfl | rfl | rfl | rfl
    · intro item isItem
      rw [List.mem_singleton.mp isItem]
      rfl
    · intro item isItem
      rw [List.mem_singleton.mp isItem]
      rfl
    · trivial
    · rfl
  have apart : Set.InjOn Md5.sum
      {text | ∃ pair ∈ usedPairs Sample.calls, text = pointKey pair.1 pair.2} := by
    rintro _ ⟨first, isFirst, rfl⟩ _ ⟨second, isSecond, rfl⟩ same
    exact Sample.digests_apart first (Sample.mem_used isFirst) second (Sample.mem_used isSecond)
      same
  have split : Sample.calls = Sample.calls.take 3 ++ [.topK 7 [1, 0] 8] := rfl
  exact (vector_stores_agree Sample.dot ⟨by decide, oneSize⟩ apart split).1

end VectorStores

end AimServer
