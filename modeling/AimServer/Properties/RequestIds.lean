import AimServer.Store.Pool

/-!
Contract: the id `AddFriendRequest` returns.

Owns: the condition under which calls on a shared pool get the id of their own
request, the invariant behind it, and the interleaving on the default pool in
which one call returns the id of another.

`INSERT` and `SELECT LAST_INSERT_ID()` borrow a connection each. Between the
two another thread can borrow the connection of the `INSERT`, or keep it while
the reader is given another one.
-/

namespace AimServer

open AimServer.Lib

/-- The request and the id a call in progress has found or inserted. -/
def PoolThread.promise : PoolThread → Option (RequestCall × Int)
  | .ran (.findPending call) _ (some id) => some (call, id)
  | .ran (.insertRequest call) _ (some own) => some (call, own)
  | .waits (.readInsertId call own _) => some (call, own)
  | .holds (.readInsertId call own _) _ => some (call, own)
  | .ran (.readInsertId call own _) _ _ => some (call, own)
  | _ => none

/-- The connection a call in progress has run its `INSERT` on, up to the
`SELECT LAST_INSERT_ID()`. -/
def PoolThread.awaits : PoolThread → Option Nat
  | .waits (.readInsertId _ _ ranOn) => some ranOn
  | .holds (.readInsertId _ _ ranOn) _ => some ranOn
  | _ => none

/-- The statement hands out an id on its connection. -/
def PoolOp.Inserts (tables : Tables) : PoolOp → Prop
  | .insertRequest _ => True
  | .execute stmt => (stmt.apply tables).isSome ∧ (stmt.insertId tables 0).isSome
  | _ => False

namespace ConnectionPool

/-- The `SELECT LAST_INSERT_ID()` of a call runs, on the connection of its
`INSERT`. -/
def ReadsOwn (fares : StatementRun) (conn : Nat) : PoolOp → Prop
  | .readInsertId _ _ ranOn => fares.granted = true ∧ fares.reconnected = false ∧ conn = ranOn
  | _ => True

/-- The statement does not change `LAST_INSERT_ID()` under a call that has yet
to read it. -/
def SparesInsertIds (pool : ConnectionPool) (thread : Nat) (fares : StatementRun) (conn : Nat)
    (op : PoolOp) : Prop :=
  fares.reconnected = true ∨ (fares.granted = true ∧ op.Inserts pool.tables) →
    ∀ other now, pool.threads other = some now → other ≠ thread → now.awaits ≠ some conn

/-- The statement does not close a request that a call has found or inserted. -/
def SparesRequests (pool : ConnectionPool) (fares : StatementRun) : PoolOp → Prop
  | .execute (.updateRequestStatus reqId status) => fares.granted = true → status ≠ 0 →
      ∀ other now call, pool.threads other = some now → now.promise ≠ some (call, reqId)
  | _ => True

/-- A step that does not come between the statements of a call. -/
def Undisturbed (pool : ConnectionPool) : PoolStep → Prop
  | .perform thread fares =>
      match pool.threads thread with
      | some (.holds op conn) => ReadsOwn fares conn op ∧
          pool.SparesInsertIds thread fares conn op ∧ pool.SparesRequests fares op
      | _ => True
  | _ => True

/-! ### The invariant -/

/-- What a call in progress relies on: its request is pending, and the
connection of its `INSERT` still has the id. -/
def Sound (tables : Tables) (lastInsertId : Nat → Int) : PoolThread → Prop
  | .ran (.findPending call) _ (some id) => call.Pending tables id
  | .ran (.insertRequest call) conn (some own) => call.Pending tables own ∧ lastInsertId conn = own
  | .waits (.readInsertId call own ranOn) => call.Pending tables own ∧ lastInsertId ranOn = own
  | .holds (.readInsertId call own ranOn) _ => call.Pending tables own ∧ lastInsertId ranOn = own
  | .ran (.readInsertId call own _) _ answer => call.Pending tables own ∧ answer = some own
  | _ => True

/-- Every call in progress has what it relies on. -/
def OwnIds (pool : ConnectionPool) : Prop :=
  ∀ thread now, pool.threads thread = some now → Sound pool.tables pool.lastInsertId now

section Tables

variable {call : RequestCall} {tables next : Tables} {id : Int}

/-- The row the duplicate query finds is pending under its key. -/
theorem pending_of_pendingId (found : call.pendingId tables = some id) :
    call.Pending tables id := by
  obtain ⟨entry, isFirst, rfl⟩ := Option.map_eq_some_iff.mp found
  have fits : call.matchesRow entry.2 = true := by simpa using List.find?_some isFirst
  exact ⟨entry.2, AutoTable.find_eq_some_iff.mpr (List.mem_of_find?_eq_some isFirst), fits⟩

/-- The row an `INSERT` writes is pending under the key it is given. -/
theorem pending_insert (now : Int) :
    call.Pending { tables with
      friendRequests := tables.friendRequests.insert (call.row now) }
        tables.friendRequests.next := by
  refine ⟨call.row now, ?_, ?_⟩
  · rw [AutoTable.find_insert, if_pos rfl]
  · exact call.matchesRow_own now

/-- A pending request is still pending after a statement that does not close it. -/
theorem pending_apply {stmt : Stmt} (pending : call.Pending tables id)
    (applied : stmt.apply tables = some next)
    (spares : ∀ status, stmt = .updateRequestStatus id status → status = 0) :
    call.Pending next id := by
  obtain ⟨row, stored, fits⟩ := pending
  cases stmt with
  | insertUser userId username nickname password mail =>
      obtain ⟨users, -, rfl⟩ := Option.map_eq_some_iff.mp applied
      exact ⟨row, stored, fits⟩
  | insertGroup userId username nickname password ownerId =>
      obtain ⟨users, -, rfl⟩ := Option.map_eq_some_iff.mp applied
      exact ⟨row, stored, fits⟩
  | insertFriendRequest new =>
      cases applied
      refine ⟨row, ?_, fits⟩
      rw [AutoTable.find_insert, if_neg, stored]
      intro isNext
      rw [isNext, AutoTable.find_next] at stored
      cases stored
  | updateRequestStatus reqId status =>
      cases applied
      by_cases same : id = reqId
      · subst same
        refine ⟨{ row with status }, ?_, ?_⟩
        · rw [AutoTable.find_update, if_pos rfl, stored]
          rfl
        · rw [spares status rfl]
          simp only [RequestCall.matchesRow, Store.pendingMatch, decide_eq_true_eq] at fits ⊢
          exact ⟨fits.1, fits.2.1, fits.2.2.1, fits.2.2.2.1, trivial⟩
      · refine ⟨row, ?_, fits⟩
        rw [AutoTable.find_update, if_neg same, stored]
  | updateUserInfo userId profile =>
      cases applied
      exact ⟨row, stored, fits⟩
  | updatePassword userId password =>
      cases applied
      exact ⟨row, stored, fits⟩
  | renameUser userId name =>
      cases applied
      exact ⟨row, stored, fits⟩
  | insertRelationship userId1 userId2 =>
      cases applied
      exact ⟨row, stored, fits⟩
  | deleteRelationship userId1 userId2 =>
      cases applied
      exact ⟨row, stored, fits⟩
  | insertGroupAdmin groupId userId =>
      cases applied
      exact ⟨row, stored, fits⟩
  | deleteGroupAdmin groupId userId =>
      cases applied
      exact ⟨row, stored, fits⟩
  | insertChatMsg new =>
      cases applied
      exact ⟨row, stored, fits⟩
  | insertOfflineMsg new =>
      cases applied
      exact ⟨row, stored, fits⟩
  | deleteOfflineMsg userid msgtype =>
      cases applied
      exact ⟨row, stored, fits⟩

end Tables

/-! ### What a statement leaves -/

section Statement

variable {pool : ConnectionPool} {conn : Nat}

theorem insertId_isSome (stmt : Stmt) (tables : Tables) (generated : Int) :
    (stmt.insertId tables generated).isSome = (stmt.insertId tables 0).isSome := by
  cases stmt <;> rfl

/-- `LAST_INSERT_ID()` changes on the connection of the statement only, and only
when the statement hands out an id. -/
theorem executeOn_lastInsertId (stmt : Stmt) (generated : Int) (other : Nat)
    (spared : other = conn →
      ¬ ((stmt.apply pool.tables).isSome ∧ (stmt.insertId pool.tables 0).isSome)) :
    (pool.executeOn conn stmt generated).2.lastInsertId other = pool.lastInsertId other := by
  unfold executeOn
  split
  · rfl
  · rename_i tables applied
    split
    · rfl
    · rename_i id handed
      have different : other ≠ conn := by
        intro same
        apply spared same
        rw [← insertId_isSome stmt pool.tables generated, applied, handed]
        exact ⟨rfl, rfl⟩
      exact Function.update_of_ne different _ _

theorem answer_lastInsertId (fares : StatementRun) (op : PoolOp) (other : Nat)
    (spared : other = conn → ¬ op.Inserts pool.tables) :
    (pool.answer conn fares op).2.lastInsertId other = pool.lastInsertId other := by
  cases op with
  | findPending call => rfl
  | insertRequest call =>
      refine executeOn_lastInsertId _ _ other ?_
      intro same _
      exact spared same trivial
  | readInsertId call own ranOn => rfl
  | execute stmt => exact executeOn_lastInsertId stmt _ other spared
  | query => rfl

theorem reconnect_lastInsertId (reconnected : Bool) (other : Nat)
    (spared : other = conn → reconnected = false) :
    (pool.reconnect reconnected conn).lastInsertId other = pool.lastInsertId other := by
  unfold reconnect
  split
  · rename_i opened
    have different : other ≠ conn := by
      intro same
      rw [spared same] at opened
      cases opened
    exact Function.update_of_ne different _ _
  · rfl

theorem reconnect_tables (reconnected : Bool) :
    (pool.reconnect reconnected conn).tables = pool.tables := by
  unfold reconnect
  split
  · rfl
  · rfl

theorem statement_lastInsertId (fares : StatementRun) (op : PoolOp) (other : Nat)
    (spared : other = conn →
      ¬ (fares.reconnected = true ∨ (fares.granted = true ∧ op.Inserts pool.tables))) :
    (pool.statement conn fares op).2.lastInsertId other = pool.lastInsertId other := by
  have opened : (pool.reconnect fares.reconnected conn).lastInsertId other =
      pool.lastInsertId other := by
    apply reconnect_lastInsertId
    intro same
    have quiet := spared same
    rw [not_or] at quiet
    exact Bool.eq_false_of_not_eq_true quiet.1
  unfold statement
  dsimp only
  split
  · rename_i granted
    rw [answer_lastInsertId, opened]
    intro same inserts
    rw [reconnect_tables] at inserts
    exact spared same (Or.inr ⟨granted, inserts⟩)
  · exact opened

/-- A granted statement leaves a request pending that it does not close. -/
theorem answer_pending {call : RequestCall} {id : Int} (fares : StatementRun) (op : PoolOp)
    (pending : call.Pending pool.tables id)
    (spares : ∀ status, op = .execute (.updateRequestStatus id status) → status = 0) :
    call.Pending (pool.answer conn fares op).2.tables id := by
  have executed : ∀ stmt generated, (∀ status, stmt = .updateRequestStatus id status →
      status = 0) → call.Pending (pool.executeOn conn stmt generated).2.tables id := by
    intro stmt generated sparing
    unfold executeOn
    split
    · exact pending
    · rename_i tables applied
      split
      · exact pending_apply pending applied sparing
      · exact pending_apply pending applied sparing
  cases op with
  | findPending other => exact pending
  | insertRequest other =>
      apply executed
      intro status same
      cases same
  | readInsertId other own ranOn => exact pending
  | execute stmt =>
      apply executed
      intro status same
      exact spares status (by rw [same])
  | query => exact pending

theorem statement_pending {call : RequestCall} {id : Int} (fares : StatementRun) (op : PoolOp)
    (pending : call.Pending pool.tables id)
    (spares : ∀ status, op = .execute (.updateRequestStatus id status) → fares.granted = true →
      status = 0) :
    call.Pending (pool.statement conn fares op).2.tables id := by
  have opened : call.Pending (pool.reconnect fares.reconnected conn).tables id := by
    rw [reconnect_tables]
    exact pending
  unfold statement
  dsimp only
  split
  · rename_i granted
    refine answer_pending fares op opened ?_
    intro status same
    exact spares status same granted
  · exact opened

end Statement

section Threads

variable {pool next : ConnectionPool} {thread conn : Nat}

/-- A thread keeps what it relies on when its request stays pending and the
connection it looks at keeps its `LAST_INSERT_ID()`. -/
theorem Sound.mono {tables tables' : Tables} {lastInsertId lastInsertId' : Nat → Int}
    {now : PoolThread} (sound : Sound tables lastInsertId now)
    (pending : ∀ call id, now.promise = some (call, id) → call.Pending tables id →
      call.Pending tables' id)
    (kept : ∀ conn, now.awaits = some conn ∨ now.conn? = some conn →
      lastInsertId' conn = lastInsertId conn) :
    Sound tables' lastInsertId' now := by
  unfold Sound at sound ⊢
  split
  · exact pending _ _ rfl sound
  · exact ⟨pending _ _ rfl sound.1, (kept _ (Or.inr rfl)).trans sound.2⟩
  · exact ⟨pending _ _ rfl sound.1, (kept _ (Or.inl rfl)).trans sound.2⟩
  · exact ⟨pending _ _ rfl sound.1, (kept _ (Or.inl rfl)).trans sound.2⟩
  · exact ⟨pending _ _ rfl sound.1, sound.2⟩
  · trivial

/-- One thread moves on, the others keep what they rely on. -/
theorem OwnIds.put (pool : ConnectionPool) {now : Option PoolThread}
    (others : ∀ other before, other ≠ thread → pool.threads other = some before →
      Sound next.tables next.lastInsertId before)
    (sameThreads : next.threads = pool.threads)
    (moved : ∀ after, now = some after → Sound next.tables next.lastInsertId after) :
    OwnIds (next.put thread now) := by
  intro other after isAfter
  rw [put_threads, sameThreads] at isAfter
  by_cases same : other = thread
  · rw [if_pos same] at isAfter
    exact moved after isAfter
  · rw [if_neg same] at isAfter
    exact others other after same isAfter

/-- The thread that ran its statement. -/
theorem sound_ran {fares : StatementRun} {op : PoolOp}
    (sound : Sound pool.tables pool.lastInsertId (.holds op conn))
    (readsOwn : ReadsOwn fares conn op) :
    Sound (pool.statement conn fares op).2.tables (pool.statement conn fares op).2.lastInsertId
      (.ran op conn (pool.statement conn fares op).1) := by
  by_cases granted : fares.granted = true
  · have answered : pool.statement conn fares op =
        (pool.reconnect fares.reconnected conn).answer conn fares op := if_pos granted
    rw [answered]
    cases op with
    | findPending call =>
        simp only [answer]
        cases found : call.pendingId (pool.reconnect fares.reconnected conn).tables with
        | none => trivial
        | some id => exact pending_of_pendingId found
    | insertRequest call =>
        rw [answer_insertRequest]
        exact ⟨pending_insert fares.now, Function.update_self _ _ _⟩
    | readInsertId call own ranOn =>
        obtain ⟨-, kept, rfl⟩ := readsOwn
        rw [kept]
        exact ⟨sound.1, congrArg some sound.2⟩
    | execute stmt => trivial
    | query => trivial
  · have refused : pool.statement conn fares op =
        (none, pool.reconnect fares.reconnected conn) := if_neg granted
    rw [refused]
    cases op with
    | readInsertId call own ranOn => exact absurd readsOwn.1 granted
    | findPending call => trivial
    | insertRequest call => trivial
    | execute stmt => trivial
    | query => trivial

/-- The thread that goes on to its next statement. -/
theorem sound_next {op later : PoolOp} {answer : Option Int}
    (sound : Sound pool.tables pool.lastInsertId (.ran op conn answer))
    (isNext : op.next conn answer = some later) :
    Sound pool.tables pool.lastInsertId (.waits later) := by
  cases op with
  | findPending call =>
      cases answer with
      | none =>
          cases isNext
          trivial
      | some id => cases isNext
  | insertRequest call =>
      cases answer with
      | none => cases isNext
      | some own =>
          cases isNext
          exact sound
  | readInsertId call own ranOn => cases isNext
  | execute stmt => cases isNext
  | query => cases isNext

theorem ownIds_step (pool : ConnectionPool) (label : PoolStep) (exclusive : Exclusive pool)
    (ownIds : OwnIds pool) (undisturbed : pool.Undisturbed label) : OwnIds (pool.step label) := by
  generalize moved : pool.step label = next
  have moves := step_moves pool label
  rw [moved] at moves
  cases moves with
  | blocked _ _ => exact ownIds
  | entered _ thread op _ free first =>
      refine OwnIds.put pool (fun other before _ isBefore => ownIds other before isBefore) rfl ?_
      intro after isAfter
      cases isAfter
      cases op with
      | readInsertId call own ranOn => exact absurd rfl (first call own ranOn)
      | findPending call => trivial
      | insertRequest call => trivial
      | execute stmt => trivial
      | query => trivial
  | acquired thread op conn rest waiting isIdle =>
      have sound := ownIds thread _ waiting
      refine OwnIds.put pool (fun other before _ isBefore => ownIds other before isBefore)
        rfl ?_
      intro after isAfter
      cases isAfter
      cases op with
      | readInsertId call own ranOn => exact sound
      | findPending call => trivial
      | insertRequest call => trivial
      | execute stmt => trivial
      | query => trivial
  | performed thread fares op conn holding =>
      have condition : ReadsOwn fares conn op ∧ pool.SparesInsertIds thread fares conn op ∧
          pool.SparesRequests fares op := by
        simpa only [Undisturbed, holding] using undisturbed
      obtain ⟨readsOwn, sparesIds, sparesRequests⟩ := condition
      refine OwnIds.put pool ?_ (pool.statement_keeps conn fares op).1 ?_
      · intro other before different isBefore
        refine (ownIds other before isBefore).mono ?_ ?_
        · intro call id promised pending
          refine statement_pending fares op pending ?_
          intro status same granted
          subst same
          by_contra closes
          exact sparesRequests granted closes other before call isBefore promised
        · intro looked looksAt
          apply statement_lastInsertId
          intro same writes
          subst same
          rcases looksAt with awaits | holds
          · exact sparesIds writes other before isBefore different awaits
          · have held := (heldBy_of isBefore).trans holds
            exact different (exclusive.single other thread looked held (heldBy_of holding))
      · intro after isAfter
        cases isAfter
        exact sound_ran (ownIds thread _ holding) readsOwn
  | released thread op conn answer done =>
      refine OwnIds.put pool (fun other before _ isBefore => ownIds other before isBefore)
        rfl ?_
      intro after isAfter
      obtain ⟨later, isNext, rfl⟩ := Option.map_eq_some_iff.mp isAfter
      exact sound_next (ownIds thread _ done) isNext

/-- What a call returns is the id of its pending request. -/
theorem pending_of_returns {label : PoolStep} {call : RequestCall} {id : Int}
    (ownIds : OwnIds pool) (returned : pool.returns label = some (call, some id)) :
    call.Pending (pool.step label).tables id := by
  generalize moved : pool.step label = next
  have moves := step_moves pool label
  rw [moved] at moves
  cases moves with
  | blocked _ silent =>
      rw [silent] at returned
      cases returned
  | entered _ thread op silent _ _ =>
      rw [silent] at returned
      cases returned
  | acquired thread op conn rest waiting isIdle => cases returned
  | performed thread fares op conn holding => cases returned
  | released thread op conn answer done =>
      have sound := ownIds thread _ done
      have isResult : op.result answer = some (call, some id) := by
        simpa only [returns, done] using returned
      cases op with
      | findPending asked =>
          cases answer with
          | none => cases isResult
          | some found =>
              cases isResult
              exact sound
      | insertRequest asked =>
          cases answer with
          | none => cases isResult
          | some own => cases isResult
      | readInsertId asked own ranOn =>
          obtain ⟨pending, rfl⟩ := sound
          cases isResult
          exact pending
      | execute stmt => cases isResult
      | query => cases isResult

/-- In a run in which nobody comes between the statements of a call, an
`AddFriendRequest` that returns `true` returns the key of the pending row with
its sender, receiver, type and group. -/
theorem request_gets_own_id {poolSize : Int} {tables : Tables} {labels past rest : List PoolStep}
    {label : PoolStep} {call : RequestCall} {id : Int}
    (undisturbed : AllSteps step Undisturbed (init poolSize tables) labels)
    (split : labels = past ++ label :: rest)
    (returned : (Lib.run step (init poolSize tables) past).returns label = some (call, some id)) :
    call.Pending (Lib.run step (init poolSize tables) (past ++ [label])).tables id := by
  rw [split, allSteps_append] at undisturbed
  have kept : OwnIds (Lib.run step (init poolSize tables) past) := by
    refine (run_invariant (fun pool => Exclusive pool ∧ OwnIds pool) ?_ ⟨?_, ?_⟩ undisturbed.1).2
    · intro pool label holds admitted
      exact ⟨exclusive_step pool label holds.1, ownIds_step pool label holds.1 holds.2 admitted⟩
    · exact exclusive_run poolSize tables []
    · intro thread now isNow
      cases isNow
  rw [run_append, run_cons, run_nil]
  exact pending_of_returns kept returned

end Threads

/-! ### Two calls on the default pool -/

namespace Sample

def first : RequestCall := ⟨1, 2, 1, 0, []⟩

def second : RequestCall := ⟨3, 4, 1, 0, []⟩

def granted : StatementRun := ⟨false, true, 0, 0⟩

/-- One pool call of a thread. -/
def turn (thread : Nat) : List PoolStep :=
  [.acquire thread, .perform thread granted, .release thread]

/-- The first call inserts, the second one takes the same connection from the
top of the idle stack and inserts, and the first one reads. -/
def crossed : List PoolStep :=
  [.addFriendRequest 0 first] ++ turn 0 ++ turn 0 ++
    ([.addFriendRequest 1 second] ++ turn 1 ++ turn 1) ++
    [.acquire 0, .perform 0 granted]

/-- Only a query of another thread comes between the `INSERT` and the read. -/
def orderly : List PoolStep :=
  [.addFriendRequest 0 first] ++ turn 0 ++ turn 0 ++ ([.query 1] ++ turn 1) ++
    [.acquire 0, .perform 0 granted]

end Sample

theorem request_gets_other_id :
    ¬ ∀ (poolSize : Int) (tables : Tables) (labels past rest : List PoolStep) (label : PoolStep)
      (call : RequestCall) (id : Int), labels = past ++ label :: rest →
      (Lib.run step (init poolSize tables) past).returns label = some (call, some id) →
      call.Pending (Lib.run step (init poolSize tables) (past ++ [label])).tables id := by
  intro always
  have returned : (Lib.run step (init 4 .empty) Sample.crossed).returns (.release 0) =
      some (Sample.first, some 2) := by decide +kernel
  obtain ⟨row, stored, fits⟩ := always 4 .empty _ Sample.crossed [] (.release 0) Sample.first 2 rfl
    returned
  have isSecond : (Lib.run step (init 4 .empty)
      (Sample.crossed ++ [.release 0])).tables.friendRequests.find 2 =
        some (Sample.second.row 0) := by decide +kernel
  rw [isSecond] at stored
  cases stored
  cases fits

/-- The run in which only a query comes in between. -/
theorem request_gets_own_id_orderly :
    (Lib.run step (init 4 .empty) Sample.orderly).returns (.release 0) =
        some (Sample.first, some 1) ∧
      Sample.first.Pending
        (Lib.run step (init 4 .empty) (Sample.orderly ++ [.release 0])).tables 1 := by
  have returned : (Lib.run step (init 4 .empty) Sample.orderly).returns (.release 0) =
      some (Sample.first, some 1) := by decide +kernel
  have readOnly : ∀ {pool : ConnectionPool} {thread conn : Nat} {op : PoolOp},
      ¬ op.Inserts pool.tables → pool.SparesInsertIds thread Sample.granted conn op := by
    intro pool thread conn op reads writes
    rcases writes with opened | ⟨-, inserts⟩
    · cases opened
    · exact absurd inserts reads
  have undisturbed : AllSteps step Undisturbed (init 4 .empty)
      (Sample.orderly ++ [.release 0]) := by
    refine ⟨trivial, trivial, ⟨trivial, readOnly id, trivial⟩, trivial, trivial,
      ⟨trivial, ?_, trivial⟩, trivial, trivial, trivial, ⟨trivial, readOnly id, trivial⟩, trivial,
      trivial, ⟨⟨rfl, rfl, rfl⟩, readOnly id, trivial⟩, trivial, trivial⟩
    -- When the first call inserts, no other thread has begun.
    intro _ other now isNow different
    have absent : (Lib.run step (init 4 .empty) ([.addFriendRequest 0 Sample.first] ++
        Sample.turn 0 ++ [.acquire 0])).threads other = none := by
      apply run_threads_other
      intro label member
      simp only [Sample.turn, List.mem_append, List.mem_cons, List.not_mem_nil, or_false] at member
      have own : label.thread = 0 := by
        rcases member with (rfl | rfl | rfl | rfl) | rfl <;> rfl
      rw [own]
      exact different.symm
    exact absurd (absent.symm.trans isNow) (by simp)
  exact ⟨returned, request_gets_own_id undisturbed rfl returned⟩

end ConnectionPool

end AimServer
