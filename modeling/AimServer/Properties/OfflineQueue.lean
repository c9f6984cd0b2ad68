import AimServer.Store.Calls
import AimServer.Store.OfflineQueue
import AimServer.Lib.Fifo

/-!
Contract: the offline table is a first-in first-out queue per kind and user.

Owns: runs of `MsgCacheManager` calls with the record of what was stored and
what was returned, the simulation of each call by one event of the abstract
queue, and the account of every run.

Each call holds `m_mutex` throughout, so a call is one step.
-/

namespace AimServer

open AimServer.Lib

/-- A call of `MsgCacheManager`. -/
inductive CacheCall where
  | add (kind : OfflineKind) (userid : Int) (cache : Bytes)
  | get (kind : OfflineKind) (userid : Int)

/-- A call and the outcomes of the statements it runs. -/
structure CacheStep where
  call : CacheCall
  sql : Nat → Bool

/-- The store with the containers that were stored and the result of every
fetch, oldest first. -/
structure CacheLog where
  store : Store
  stored : List (OfflineKind × Int × Bytes)
  returned : List (OfflineKind × Int × List Bytes)

namespace Store

def addMsgCache : OfflineKind → Int → Bytes → Store → Bool × Store
  | .notify => addNotifyMsgCache
  | .chat => addChatMsgCache

def getMsgCache : OfflineKind → Int → Store → List Bytes × Store
  | .notify => getNotifyMsgCache
  | .chat => getChatMsgCache

theorem addMsgCache_eq (kind : OfflineKind) (userid : Int) (blob : Bytes) (s : Store) :
    s.addMsgCache kind userid blob =
      s.execute (.insertOfflineMsg ⟨userid, kind.code, blob⟩) := by
  cases kind with
  | notify => exact insertOfflineMsg_eq .notify userid blob s
  | chat => exact insertOfflineMsg_eq .chat userid blob s

theorem getMsgCache_eq (kind : OfflineKind) (userid : Int) (s : Store) :
    s.getMsgCache kind userid = s.fetchAndDeleteOfflineMsg kind userid := by
  cases kind with
  | notify => rfl
  | chat => rfl

end Store

namespace CacheLog

def starting (s : Store) : CacheLog := ⟨s, [], []⟩

/-- One call. An `Add` that returns true counts as stored. -/
def step (log : CacheLog) (label : CacheStep) : CacheLog :=
  let s := log.store.withOutcomes label.sql
  match label.call with
  | .add kind userid cache =>
      match s.addMsgCache kind userid cache with
      | (true, store) => { log with store, stored := log.stored ++ [(kind, userid, cache)] }
      | (false, store) => { log with store }
  | .get kind userid =>
      match s.getMsgCache kind userid with
      | (blobs, store) => { log with store, returned := log.returned ++ [(kind, userid, blobs)] }

/-- The `DELETE` of a fetch, when the call runs one, succeeds. -/
def DeleteSucceeds (log : CacheLog) (label : CacheStep) : Prop :=
  match label.call with
  | .add _ _ _ => True
  | .get kind userid =>
      label.sql 0 = true → log.store.waiting kind userid ≠ [] → label.sql 1 = true

instance (log : CacheLog) (label : CacheStep) : Decidable (log.DeleteSucceeds label) := by
  unfold DeleteSucceeds
  split <;> infer_instance

/-- What a record of calls holds for one kind and user, oldest first. -/
def entriesFor {β : Type} (kind : OfflineKind) (userid : Int)
    (entries : List (OfflineKind × Int × β)) : List β :=
  entries.filterMap fun entry =>
    if entry.1 = kind ∧ entry.2.1 = userid then some entry.2.2 else none

/-- The queue of a user as the abstract one, with what waited at the start of
the run counted as stored. -/
def queue (kind : OfflineKind) (userid : Int) (initial : List Bytes) (log : CacheLog) :
    Fifo Bytes where
  waiting := log.store.waiting kind userid
  stored := initial ++ entriesFor kind userid log.stored
  returned := entriesFor kind userid log.returned

/-- What a call does to the queue of a user. -/
def event (kind : OfflineKind) (userid : Int) (label : CacheStep) : FifoEvent Bytes :=
  match label.call with
  | .add kind' userid' cache =>
      if label.sql 0 = true ∧ kind = kind' ∧ userid = userid' then .put cache else .idle
  | .get kind' userid' =>
      if kind = kind' ∧ userid = userid' then
        if label.sql 0 = true then
          if label.sql 1 = true then .drained else .kept
        else .missed
      else .idle

section Simulation

variable {kind : OfflineKind} {userid : Int} {initial : List Bytes} {log : CacheLog}

theorem entriesFor_snoc {β : Type} (entries : List (OfflineKind × Int × β))
    (kind' : OfflineKind) (userid' : Int) (last : β) :
    entriesFor kind userid (entries ++ [(kind', userid', last)]) =
      entriesFor kind userid entries ++ if kind = kind' ∧ userid = userid' then [last] else [] := by
  rw [entriesFor, List.filterMap_append]
  by_cases same : kind = kind' ∧ userid = userid'
  · obtain ⟨rfl, rfl⟩ := same
    simp [entriesFor]
  · have other : ¬ (kind' = kind ∧ userid' = userid) := by
      intro both
      exact same ⟨both.1.symm, both.2.symm⟩
    simp [entriesFor, same, other]

@[simp] theorem waiting_withOutcomes (sql : Nat → Bool) (s : Store) :
    (s.withOutcomes sql).waiting kind userid = s.waiting kind userid := rfl

theorem queue_add (kind' : OfflineKind) (userid' : Int) (cache : Bytes) (sql : Nat → Bool) :
    (log.step ⟨.add kind' userid' cache, sql⟩).queue kind userid initial =
      (log.queue kind userid initial).step
        (event kind userid ⟨.add kind' userid' cache, sql⟩) := by
  have waits := Store.waiting_insert kind' kind userid' userid cache (log.store.withOutcomes sql)
  have ok := Store.insertOfflineMsg_fst kind' userid' cache (log.store.withOutcomes sql)
  have outcomes : (log.store.withOutcomes sql).db.outcomes = sql := rfl
  rw [outcomes] at waits ok
  simp only [step, event, Store.addMsgCache_eq]
  cases result : (log.store.withOutcomes sql).execute
      (.insertOfflineMsg ⟨userid', kind'.code, cache⟩) with
  | mk stored next =>
      rw [result] at waits ok
      dsimp only at waits ok
      subst ok
      by_cases granted : sql 0 = true
      · simp only [granted] at waits ⊢
        simp only [queue, waits, entriesFor_snoc, true_and]
        by_cases same : kind = kind' ∧ userid = userid'
        · simp [same, Fifo.step]
        · simp [same, Fifo.step]
      · have denied : sql 0 = false := by simpa using granted
        simp only [denied] at waits ⊢
        simp [queue, waits, Fifo.step]

theorem queue_get (kind' : OfflineKind) (userid' : Int) (sql : Nat → Bool) :
    (log.step ⟨.get kind' userid', sql⟩).queue kind userid initial =
      (log.queue kind userid initial).step (event kind userid ⟨.get kind' userid', sql⟩) := by
  have result := Store.fetchAndDeleteOfflineMsg_fst kind' userid' (log.store.withOutcomes sql)
  have waits := Store.waiting_fetch kind' kind userid' userid (log.store.withOutcomes sql)
  have selects : (log.store.withOutcomes sql).db.outcomes = sql := rfl
  rw [selects, waiting_withOutcomes] at result waits
  simp only [step, event, Store.getMsgCache_eq, queue, result, waits, entriesFor_snoc]
  by_cases same : kind = kind' ∧ userid = userid'
  · obtain ⟨rfl, rfl⟩ := same
    by_cases selected : sql 0 = true
    · by_cases removed : sql 1 = true
      · simp [selected, removed, Fifo.step]
      · simp [selected, removed, Fifo.step]
    · simp [selected, Fifo.step]
  · simp [same, Fifo.step]

/-- Every call is one event of the abstract queue of every user. -/
theorem queue_step (label : CacheStep) :
    (log.step label).queue kind userid initial =
      (log.queue kind userid initial).step (event kind userid label) := by
  obtain ⟨call, sql⟩ := label
  cases call with
  | add kind' userid' cache => exact queue_add kind' userid' cache sql
  | get kind' userid' => exact queue_get kind' userid' sql

/-- A fetch whose `DELETE` succeeds keeps nothing it returned. -/
theorem event_removes {label : CacheStep} (succeeds : log.DeleteSucceeds label)
    (kept : event kind userid label = .kept) : (log.queue kind userid initial).waiting = [] := by
  obtain ⟨call, sql⟩ := label
  cases call with
  | add kind' userid' cache =>
      simp only [event] at kept
      split at kept <;> cases kept
  | get kind' userid' =>
      simp only [event] at kept
      split at kept
      · rename_i same
        obtain ⟨rfl, rfl⟩ := same
        split at kept
        · rename_i selected
          by_contra found
          rw [if_pos (succeeds selected found)] at kept
          cases kept
        · cases kept
      · cases kept

theorem queue_starting (kind : OfflineKind) (userid : Int) (s : Store) :
    (starting s).queue kind userid (s.waiting kind userid) =
      Fifo.starting (s.waiting kind userid) := by
  simp [starting, queue, entriesFor, Fifo.starting]

end Simulation

end CacheLog

/-- In every run of calls, for every kind and user: a fetch returns consecutive
stored containers in the order they were stored; what was stored is what some
fetches returned followed by the rows that wait; and when every `DELETE`
succeeds, it is what all of them returned, and the next fetch whose statements
succeed returns the rest. What waited at the start counts as stored. -/
theorem offline_queue_fifo (s : Store) (steps : List CacheStep) (kind : OfflineKind)
    (userid : Int) :
    let log := run CacheLog.step (.starting s) steps
    let stored := s.waiting kind userid ++ CacheLog.entriesFor kind userid log.stored
    let returned := CacheLog.entriesFor kind userid log.returned
    (∀ result ∈ returned, result <:+: stored) ∧
      (∃ removing : List (List Bytes), removing.Sublist returned ∧
        stored = removing.flatten ++ log.store.waiting kind userid) ∧
      (AllSteps CacheLog.step CacheLog.DeleteSucceeds (.starting s) steps →
        stored = returned.flatten ++ log.store.waiting kind userid ∧
          ∀ sql : Nat → Bool, sql 0 = true → sql 1 = true →
            (log.step ⟨.get kind userid, sql⟩).store.waiting kind userid = [] ∧
              stored = (CacheLog.entriesFor kind userid
                (log.step ⟨.get kind userid, sql⟩).returned).flatten) := by
  intro log stored returned
  have accounts : (log.queue kind userid (s.waiting kind userid)).Accounts := by
    refine run_keeps
      (fun log : CacheLog => (log.queue kind userid (s.waiting kind userid)).Accounts) ?_ ?_
    · intro log label accounts
      rw [CacheLog.queue_step]
      exact accounts.step _
    · rw [CacheLog.queue_starting]
      exact Fifo.accounts_starting _
  refine ⟨accounts.inOrder, accounts.nothingLost, ?_⟩
  intro succeed
  have exact : (log.queue kind userid (s.waiting kind userid)).Exact := by
    refine run_invariant
      (fun log : CacheLog => (log.queue kind userid (s.waiting kind userid)).Exact) ?_ ?_ succeed
    · intro log label exact succeeds
      rw [CacheLog.queue_step]
      exact exact.step (CacheLog.event_removes succeeds)
    · rw [CacheLog.queue_starting]
      exact Fifo.exact_starting _
  refine ⟨exact, ?_⟩
  intro sql selected removed
  have drains : CacheLog.event kind userid ⟨.get kind userid, sql⟩ = .drained := by
    simp [CacheLog.event, selected, removed]
  have after : (log.step ⟨.get kind userid, sql⟩).queue kind userid (s.waiting kind userid) =
      (log.queue kind userid (s.waiting kind userid)).step .drained := by
    rw [← drains]
    exact CacheLog.queue_get kind userid sql
  have listed : CacheLog.entriesFor kind userid (log.step ⟨.get kind userid, sql⟩).returned =
      returned ++ [log.store.waiting kind userid] := congrArg Fifo.returned after
  refine ⟨congrArg Fifo.waiting after, ?_⟩
  calc stored = returned.flatten ++ log.store.waiting kind userid := exact
    _ = (returned ++ [log.store.waiting kind userid]).flatten := by simp
    _ = _ := by rw [listed]

namespace OfflineRuns

def ok (call : CacheCall) : CacheStep := ⟨call, fun _ => true⟩

/-- Two containers and a notification wait, and the containers are fetched. -/
def fetched : List CacheStep :=
  [ok (.add .chat 7 [0, 39]), ok (.add .notify 7 [92]), ok (.add .chat 7 [255]),
    ok (.get .chat 7)]

end OfflineRuns

/-- The fetch returns both containers, after which none waits. -/
theorem offline_queue_fifo_fetched :
    let start := Store.init .allOk ⟨.empty, fun _ => true, 0⟩
    let log := run CacheLog.step (.starting start) OfflineRuns.fetched
    AllSteps CacheLog.step CacheLog.DeleteSucceeds (.starting start) OfflineRuns.fetched ∧
      CacheLog.entriesFor .chat 7 log.stored = [[0, 39], [255]] ∧
      CacheLog.entriesFor .chat 7 log.stored =
        (CacheLog.entriesFor .chat 7 log.returned).flatten ++ log.store.waiting .chat 7 := by
  have succeed : AllSteps CacheLog.step CacheLog.DeleteSucceeds
      (.starting (Store.init .allOk ⟨.empty, fun _ => true, 0⟩)) OfflineRuns.fetched := by decide
  exact ⟨succeed, by decide,
    ((offline_queue_fifo (Store.init .allOk ⟨.empty, fun _ => true, 0⟩) OfflineRuns.fetched .chat
      7).2.2 succeed).1⟩

end AimServer
