import AimServer.Agent.CacheSections

/-!
Contract: reading the memory cache destroys nothing.

Owns: what each section leaves of an entry that has not expired, the condition on
a `Get` that deletes, what a stored value is read as for the whole of its time,
and the run in which a `Get` deletes a value that was stored after its lookup.

`Get` decides about the object it has found and then deletes the key, whatever is
there by then. The cleanup and `IncrWithTTL` decide and write in one section.
-/

namespace AimServer

open AimServer.Lib

/-- The event stores under the key, or deletes it for its caller. -/
def CacheEvent.writes (key : Bytes) : CacheEvent → Bool
  | .set other _ _ | .del other | .incrWithTTL other _ => other = key
  | _ => false

/-- The thread whose `Get` the event is part of. -/
def CacheEvent.thread : CacheEvent → Option Nat
  | .lookup thread _ | .check thread | .delete thread => some thread
  | _ => none

namespace SharedCache

/-- A `Get` deletes the entry that it looked up, or none. -/
def ownDelete (s : SharedCache) (label : CacheSection) : Bool :=
  match label.event with
  | .delete thread =>
      match s.gets thread with
      | .expired key address => (s.store.lookup key).all fun pointer => pointer = address
      | _ => true
  | _ => true

/-- The clock does not go back, and every `Get` deletes its own entry. -/
def Admitted (s : SharedCache) (label : CacheSection) : Prop :=
  s.clock ≤ label.now ∧ s.ownDelete label = true

instance (s : SharedCache) (label : CacheSection) : Decidable (s.Admitted label) :=
  inferInstanceAs (Decidable (_ ∧ _))

section Steps

variable {s : SharedCache} {key : Bytes}

/-- The pointer of the key leads to an object with this entry. -/
structure Holds (s : SharedCache) (key : Bytes) (address : Nat) (entry : MemEntry) : Prop where
  stored : s.store.lookup key = some address
  object : s.objects address = entry

theorem holds_iff_entry {entry : MemEntry} :
    (∃ address, Holds s key address entry) ↔ s.entry key = some entry := by
  rw [SharedCache.entry, Option.map_eq_some_iff]
  constructor
  · rintro ⟨address, stored, object⟩
    exact ⟨address, stored, object⟩
  · rintro ⟨address, stored, object⟩
    exact ⟨address, stored, object⟩

variable {address : Nat} {entry : MemEntry}

theorem Holds.setThread (holds : Holds s key address entry) (thread : Nat) (get : GetThread) :
    Holds (s.setThread thread get) key address entry :=
  ⟨holds.stored, holds.object⟩

theorem Holds.put (sound : Sound s) (holds : Holds s key address entry) {other : Bytes}
    (different : key ≠ other) (fresh : MemEntry) : Holds (s.put other fresh) key address entry := by
  constructor
  · unfold SharedCache.put
    dsimp only
    rw [GoMap.lookup_insert, if_neg different]
    exact holds.stored
  · unfold SharedCache.put
    dsimp only
    rw [Function.update_of_ne (Nat.ne_of_lt (sound.stored holds.stored))]
    exact holds.object

theorem Holds.remove (holds : Holds s key address entry) {other : Bytes} (different : key ≠ other) :
    Holds (s.remove other) key address entry := by
  refine ⟨?_, holds.object⟩
  unfold SharedCache.remove
  dsimp only
  rw [GoMap.lookup_erase, if_neg different]
  exact holds.stored

theorem Holds.incrWithTTL (sound : Sound s) (holds : Holds s key address entry) {other : Bytes}
    (different : key ≠ other) (ttl : Int) :
    Holds (s.incrWithTTL other ttl).2 key address entry := by
  unfold SharedCache.incrWithTTL
  split
  · exact holds.put sound different _
  · rename_i pointer isThere
    dsimp only
    split
    · exact holds.put sound different _
    · refine ⟨holds.stored, ?_⟩
      have apart : address ≠ pointer := by
        intro same
        subst same
        exact different (sound.apart holds.stored isThere)
      dsimp only
      rw [Function.update_of_ne apart]
      exact holds.object

/-- A `Get` that deletes its own entry deletes an expired one. -/
theorem Holds.delete (sound : Sound s) (holds : Holds s key address entry)
    (alive : entry.expired s.clock = false) {thread : Nat} {now : Int}
    (own : s.ownDelete ⟨.delete thread, now⟩ = true) :
    Holds (s.delete thread) key address entry := by
  unfold SharedCache.delete
  unfold ownDelete at own
  dsimp only at own
  cases isGet : s.gets thread with
  | idle => exact holds
  | found other pointer => exact holds
  | returned value => exact holds
  | expired other pointer =>
      rw [isGet] at own
      dsimp only at own ⊢
      apply Holds.setThread
      apply holds.remove
      intro same
      subst same
      rw [holds.stored, Option.all_some, decide_eq_true_eq] at own
      subst own
      have expired := (sound.expired isGet).2
      rw [holds.object, alive] at expired
      cases expired

/-- No section but a writer's changes an entry that has not expired. -/
theorem Holds.perform (sound : Sound s) (holds : Holds s key address entry) {label : CacheSection}
    (own : s.ownDelete label = true) (alive : entry.expired s.clock = false)
    (others : label.event.writes key = false) :
    Holds (s.perform label.event) key address entry := by
  obtain ⟨event, now⟩ := label
  cases event with
  | lookup thread other =>
      unfold SharedCache.perform SharedCache.lookup
      dsimp only
      split
      · split
        · exact holds.setThread thread _
        · exact holds.setThread thread _
      · exact holds
  | check thread =>
      unfold SharedCache.perform SharedCache.check
      dsimp only
      split
      · split
        · exact holds.setThread thread _
        · exact holds.setThread thread _
      · exact holds
  | delete thread => exact holds.delete sound alive own
  | set other value ttl =>
      exact holds.put sound (Ne.symm (of_decide_eq_false others)) _
  | del other => exact holds.remove (Ne.symm (of_decide_eq_false others))
  | incrWithTTL other ttl =>
      exact holds.incrWithTTL sound (Ne.symm (of_decide_eq_false others)) ttl
  | cleanExpired =>
      refine ⟨?_, holds.object⟩
      show (GoMap.keepIf _ s.store).lookup key = some address
      rw [GoMap.lookup_keepIf, holds.stored, Option.filter_some, holds.object, alive]
      rfl

theorem Holds.step (sound : Sound s) (holds : Holds s key address entry) {label : CacheSection}
    (admitted : s.Admitted label) (alive : entry.expired label.now = false)
    (others : label.event.writes key = false) : Holds (s.step label) key address entry :=
  Holds.perform (sound.setClock admitted.1) ⟨holds.stored, holds.object⟩ admitted.2 alive others

/-- Only `Del` removes an entry that has not expired. -/
theorem entry_stays (sound : Sound s) {label : CacheSection} (admitted : s.Admitted label)
    (isEntry : s.entry key = some entry)
    (alive : entry.expired label.now = false) (notDel : label.event ≠ .del key) :
    (s.step label).entry key ≠ none := by
  by_cases writes : label.event.writes key = true
  · obtain ⟨event, now⟩ := label
    have soundNow := sound.setClock admitted.1
    cases event with
    | set other value ttl =>
        obtain rfl : other = key := of_decide_eq_true writes
        show (({ s with clock := now } : SharedCache).put other _).entry other ≠ none
        rw [entry_put soundNow, if_pos rfl]
        exact Option.some_ne_none _
    | del other => exact absurd (congrArg CacheEvent.del (of_decide_eq_true writes)) notDel
    | incrWithTTL other ttl =>
        obtain rfl : other = key := of_decide_eq_true writes
        show (({ s with clock := now } : SharedCache).incrWithTTL other ttl).2.entry other ≠ none
        rw [entry_incrWithTTL soundNow, if_pos rfl]
        exact Option.some_ne_none _
    | lookup thread other => cases writes
    | check thread => cases writes
    | delete thread => cases writes
    | cleanExpired => cases writes
  · obtain ⟨address, holds⟩ := holds_iff_entry.mpr isEntry
    have stays := holds.step sound admitted alive (Bool.eq_false_of_not_eq_true writes)
    rw [holds_iff_entry.mp ⟨address, stays⟩]
    exact Option.some_ne_none _

theorem Holds.found (holds : Holds s key address entry) {thread : Nat}
    (free : (s.gets thread).free = true) (now : Int) :
    (s.step ⟨.lookup thread key, now⟩).gets thread = .found key address := by
  unfold SharedCache.step SharedCache.perform SharedCache.lookup
  dsimp only
  rw [if_pos free, holds.stored]
  exact Function.update_self _ _ _

theorem Holds.returned (holds : Holds s key address entry) {thread : Nat}
    (found : s.gets thread = .found key address) {now : Int} (alive : entry.expired now = false) :
    (s.step ⟨.check thread, now⟩).gets thread = .returned entry.value := by
  unfold SharedCache.step SharedCache.perform SharedCache.check
  dsimp only
  rw [found]
  dsimp only
  rw [holds.object, alive]
  exact Function.update_self _ _ _

/-- What a thread is doing is its own. -/
theorem gets_step_other {thread : Nat} {label : CacheSection}
    (other : label.event.thread ≠ some thread) : (s.step label).gets thread = s.gets thread := by
  obtain ⟨event, now⟩ := label
  have apart : ∀ {own : Nat}, some own ≠ some thread → ∀ (c : SharedCache) (get : GetThread),
      (c.setThread own get).gets thread = c.gets thread := by
    intro own different c get
    exact Function.update_of_ne (fun same => different (congrArg some same.symm)) _ _
  cases event with
  | lookup own key =>
      unfold step perform lookup
      dsimp only
      split
      · split
        · exact apart other _ _
        · exact apart other _ _
      · rfl
  | check own =>
      unfold step perform check
      dsimp only
      split
      · split
        · exact apart other _ _
        · exact apart other _ _
      · rfl
  | delete own =>
      unfold step perform delete
      dsimp only
      split
      · exact apart other _ _
      · rfl
  | set key value ttl => rfl
  | del key => rfl
  | incrWithTTL key ttl =>
      unfold step perform incrWithTTL
      dsimp only
      split
      · rfl
      · split
        · rfl
        · rfl
  | cleanExpired => rfl

end Steps

/-! ### Runs -/

theorem clock_step (s : SharedCache) (label : CacheSection) : (s.step label).clock = label.now := by
  obtain ⟨event, now⟩ := label
  cases event with
  | lookup thread key =>
      unfold step perform lookup
      dsimp only
      split
      · split <;> rfl
      · rfl
  | check thread =>
      unfold step perform check
      dsimp only
      split
      · split <;> rfl
      · rfl
  | delete thread =>
      unfold step perform delete
      dsimp only
      split <;> rfl
  | incrWithTTL key ttl =>
      unfold step perform incrWithTTL
      dsimp only
      split
      · rfl
      · split <;> rfl
  | set key value ttl => rfl
  | del key => rfl
  | cleanExpired => rfl

section Runs

variable {s : SharedCache} {labels : List CacheSection}

/-- The clock of an admitted run has reached every instant of it. -/
theorem clock_run (all : AllSteps step Admitted s labels) :
    s.clock ≤ (run step s labels).clock ∧
      ∀ label ∈ labels, label.now ≤ (run step s labels).clock := by
  induction labels generalizing s with
  | nil => exact ⟨le_refl _, fun label member => absurd member List.not_mem_nil⟩
  | cons label rest inductionHypothesis =>
      obtain ⟨later, instants⟩ := inductionHypothesis all.2
      rw [clock_step] at later
      refine ⟨le_trans all.1.1 later, ?_⟩
      intro other member
      rcases List.mem_cons.mp member with rfl | isLater
      · exact later
      · exact instants other isLater

theorem sound_run (sound : Sound s) (all : AllSteps step Admitted s labels) :
    Sound (run step s labels) :=
  run_invariant Sound (fun _ _ sound admitted => sound.step admitted.1) sound all

/-- An entry that nobody writes is there until it expires. -/
theorem holds_run (sound : Sound s) {key : Bytes} {address : Nat} {entry : MemEntry}
    (holds : Holds s key address entry) (all : AllSteps step Admitted s labels)
    (alive : entry.expired (run step s labels).clock = false)
    (others : ∀ label ∈ labels, label.event.writes key = false) :
    Holds (run step s labels) key address entry := by
  have instants := (clock_run all).2
  have admitted : AllSteps step (fun s label => s.Admitted label ∧
      entry.expired label.now = false ∧ label.event.writes key = false) s labels := by
    apply allSteps_of_splits
    intro past label rest split
    have member : label ∈ labels := by simp [split]
    refine ⟨all.admitted split, ?_, others label member⟩
    by_contra expired
    rw [Bool.not_eq_false] at expired
    rw [MemoryCache.expired_mono (instants label member) expired] at alive
    cases alive
  refine (run_invariant (fun s => Sound s ∧ Holds s key address entry) ?_ ⟨sound, holds⟩
    admitted).2
  intro s label kept ⟨isAdmitted, isAlive, isOther⟩
  exact ⟨kept.1.step isAdmitted.1, kept.2.step kept.1 isAdmitted isAlive isOther⟩

theorem gets_run {thread : Nat} (others : ∀ label ∈ labels, label.event.thread ≠ some thread) :
    (run step s labels).gets thread = s.gets thread := by
  have all : AllSteps step (fun _ label => label.event.thread ≠ some thread) s labels :=
    allSteps_of_forall_mem others
  refine run_invariant (fun later => later.gets thread = s.gets thread) ?_ rfl all
  intro later label kept other
  exact (gets_step_other other).trans kept

end Runs

/-- No section but `Del` removes an entry whose time has not come. -/
def OnlyDelRemoves (clock : Int) (labels : List CacheSection) : Prop :=
  ∀ past label rest key entry, labels = past ++ label :: rest →
    (run step (new clock) past).entry key = some entry → entry.expired label.now = false →
    label.event ≠ .del key → (run step (new clock) (past ++ [label])).entry key ≠ none

/-- A `Get` that starts after a `Set` and looks at the clock before the time of
the value is over returns the value, unless something was stored or deleted
under the key in the meantime. -/
def SetIsRead (clock : Int) (labels : List CacheSection) : Prop :=
  ∀ past between during rest key value ttl now thread start finish,
    labels = past ++ ⟨.set key value ttl, now⟩ :: (between ++ ⟨.lookup thread key, start⟩ ::
      (during ++ ⟨.check thread, finish⟩ :: rest)) →
    (∀ label ∈ between ++ during, label.event.writes key = false) →
    ((run step (new clock) (past ++ ⟨.set key value ttl, now⟩ :: between)).gets thread).free =
      true →
    (∀ label ∈ during, label.event.thread ≠ some thread) →
    finish ≤ now + ttl →
    (run step (new clock) (past ++ ⟨.set key value ttl, now⟩ :: (between ++
      ⟨.lookup thread key, start⟩ :: (during ++ [⟨.check thread, finish⟩])))).gets thread =
        .returned value

theorem onlyDelRemoves {clock : Int} {labels : List CacheSection}
    (all : AllSteps step Admitted (new clock) labels) : OnlyDelRemoves clock labels := by
  intro past label rest key entry split isEntry alive notDel
  have admitted := all.admitted split
  rw [split, allSteps_append] at all
  rw [run_append]
  exact entry_stays (sound_run (sound_new clock) all.1) admitted isEntry alive notDel

/-- From its `Set` on a value is under its pointer, which the lookup finds and
the `Get` reads from. -/
theorem setIsRead {clock : Int} {labels : List CacheSection}
    (all : AllSteps step Admitted (new clock) labels) : SetIsRead clock labels := by
  intro past between during rest key value ttl now thread start finish split others free own inTime
  rw [split, allSteps_append] at all
  obtain ⟨allPast, set, later⟩ := all
  rw [allSteps_append] at later
  obtain ⟨allBetween, lookup, later⟩ := later
  rw [allSteps_append] at later
  obtain ⟨allDuring, check, -⟩ := later
  rw [run_append, run_cons] at free ⊢
  rw [run_append, run_cons, run_append, run_cons, run_nil]
  have soundPast := sound_run (sound_new clock) allPast
  generalize run step (new clock) past = s₀ at *
  have soundSet := soundPast.step set.1
  have holdsSet : Holds (s₀.step ⟨.set key value ttl, now⟩) key s₀.allocated
      ⟨value, some (now + ttl)⟩ := by
    constructor
    · exact AList.lookup_insert _
    · exact Function.update_self _ _ _
  generalize s₀.step ⟨.set key value ttl, now⟩ = s₁ at *
  have clockLookup : ((run step s₁ between).step ⟨.lookup thread key, start⟩).clock = start :=
    clock_step _ _
  have clockDuring := (clock_run allDuring).1
  have beforeStart : (run step s₁ between).clock ≤ start := lookup.1
  have beforeFinish : (run step ((run step s₁ between).step ⟨.lookup thread key, start⟩)
      during).clock ≤ finish := check.1
  have alive : ∀ instant ≤ finish,
      (⟨value, some (now + ttl)⟩ : MemEntry).expired instant = false := by
    intro instant before
    apply decide_eq_false
    omega
  have soundBetween := sound_run soundSet allBetween
  have holdsBetween := holds_run soundSet holdsSet allBetween (alive _ (by omega))
    fun label member => others label (List.mem_append_left _ member)
  have holdsLookup := holdsBetween.step soundBetween lookup (alive start (by omega)) rfl
  have soundLookup := soundBetween.step lookup.1
  have holdsDuring := holds_run soundLookup holdsLookup allDuring (alive _ (by omega))
    fun label member => others label (List.mem_append_right _ member)
  have found := (gets_run own).trans (holdsBetween.found free start)
  exact holdsDuring.returned found (alive finish (le_refl _))

/-- In a run in which every `Get` deletes only the entry it has looked up, only
`Del` removes an entry whose time has not come, and a value that was set is read. -/
theorem live_entries_stay (clock : Int) {labels : List CacheSection}
    (all : AllSteps step Admitted (new clock) labels) :
    OnlyDelRemoves clock labels ∧ SetIsRead clock labels :=
  ⟨onlyDelRemoves all, setIsRead all⟩

namespace Sample

def vip : Bytes := str "vip"

/-- A `Get` finds an expired entry and deletes it, and the next one reads the
value that is set then. -/
def apart : List CacheSection :=
  [⟨.set vip (str "0") 10, 0⟩, ⟨.lookup 1 vip, 20⟩, ⟨.check 1, 20⟩, ⟨.delete 1, 21⟩,
    ⟨.set vip (str "1") 100, 22⟩, ⟨.cleanExpired, 23⟩, ⟨.lookup 1 vip, 24⟩, ⟨.check 1, 25⟩]

/-- The value is set before the first `Get` deletes. -/
def racing : List CacheSection :=
  [⟨.set vip (str "0") 10, 0⟩, ⟨.lookup 1 vip, 20⟩, ⟨.check 1, 20⟩,
    ⟨.set vip (str "1") 100, 21⟩, ⟨.delete 1, 22⟩, ⟨.lookup 2 vip, 24⟩]

end Sample

theorem live_entries_stay_apart : OnlyDelRemoves 0 Sample.apart ∧ SetIsRead 0 Sample.apart :=
  live_entries_stay 0 (by decide +kernel)

/-- A `Get` that has found the old entry expired deletes the value just set, and
the next `Get` finds nothing. -/
theorem get_deletes_live_entry :
    ¬ ∀ (clock : Int) (labels : List CacheSection),
      AllSteps step (fun s label => s.clock ≤ label.now) (new clock) labels →
      OnlyDelRemoves clock labels ∧ SetIsRead clock labels := by
  intro stays
  have clocked : AllSteps step (fun s label => s.clock ≤ label.now) (new 0) Sample.racing := by
    decide +kernel
  obtain ⟨onlyDel, -⟩ := stays 0 Sample.racing clocked
  have there := onlyDel (Sample.racing.take 4) ⟨.delete 1, 22⟩ (Sample.racing.drop 5) Sample.vip
    ⟨str "1", some 121⟩ rfl (by decide +kernel) (by decide +kernel) (by decide)
  exact there (by decide +kernel)

end SharedCache

end AimServer
