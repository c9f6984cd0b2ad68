import AimServer.Properties.RequestIds

/-!
Contract: at most one pending request per relation.

Owns: the pending rows of a sender, receiver, type and group, what a statement
does to their number, the condition on an `INSERT` under which there is never a
second one, and the interleaving of two calls that makes one.

The duplicate query and the `INSERT` of `AddFriendRequest` are two statements, and
no key of the table stands behind them. A query that fails is taken for one that
found nothing.
-/

namespace AimServer

open AimServer.Lib

namespace RequestCall

/-- How many rows the duplicate query matches. -/
def pendingCount (call : RequestCall) (tables : Tables) : Nat :=
  tables.friendRequests.rows.countP fun entry => call.matchesRow entry.2

end RequestCall

/-- At most one row with `f_status = 0` for each sender, receiver, type and
group. -/
def OnePending (tables : Tables) : Prop :=
  ∀ call : RequestCall, call.pendingCount tables ≤ 1

/-- A statement of another call than `AddFriendRequest`: it adds no request and
opens none again. -/
def Stmt.sparesRequests : Stmt → Bool
  | .insertFriendRequest _ => false
  | .updateRequestStatus _ status => status ≠ 0
  | _ => true

def PoolOp.sparesRequests : PoolOp → Bool
  | .execute stmt => stmt.sparesRequests
  | _ => true

def PoolStep.sparesRequests : PoolStep → Bool
  | .execute _ stmt => stmt.sparesRequests
  | _ => true

namespace PoolThread

def op : PoolThread → PoolOp
  | .waits op => op
  | .holds op _ => op
  | .ran op _ _ => op

/-- The call between its duplicate query, which found nothing, and its `INSERT`. -/
def inserting : PoolThread → Option RequestCall
  | .ran (.findPending call) _ none => some call
  | .waits (.insertRequest call) => some call
  | .holds (.insertRequest call) _ => some call
  | _ => none

end PoolThread

namespace ConnectionPool

def insertingAt (pool : ConnectionPool) (thread : Nat) : Option RequestCall :=
  (pool.threads thread).bind PoolThread.inserting

/-- An `INSERT` of `AddFriendRequest` takes effect only when no row of its
request is pending. -/
def InsertsFirst (pool : ConnectionPool) : PoolStep → Prop
  | .perform thread fares =>
      match pool.threads thread with
      | some (.holds (.insertRequest call) _) =>
          fares.granted = true → call.pendingId pool.tables = none
      | _ => True
  | _ => True

/-- A duplicate query is answered, or there is nothing to find, and no other call
with its request is between its own query and its `INSERT`. -/
def QueriesAlone (pool : ConnectionPool) : PoolStep → Prop
  | .perform thread fares =>
      match pool.threads thread with
      | some (.holds (.findPending call) _) =>
          (fares.granted = true ∨ call.pendingId pool.tables = none) ∧
            ∀ other asked, other ≠ thread → pool.insertingAt other = some asked →
              asked.key ≠ call.key
      | _ => True
  | _ => True

/-! ### Rows -/

section Rows

variable {call other : RequestCall} {tables next : Tables}

theorem pendingId_eq_none_iff : call.pendingId tables = none ↔ call.pendingCount tables = 0 := by
  rw [RequestCall.pendingId, RequestCall.pendingCount, Option.map_eq_none_iff, List.find?_eq_none,
    List.countP_eq_zero]

theorem pendingCount_insert (call other : RequestCall) (now : Int) (tables : Tables) :
    other.pendingCount { tables with
      friendRequests := tables.friendRequests.insert (call.row now) } =
        other.pendingCount tables + if call.key = other.key then 1 else 0 := by
  show (tables.friendRequests.rows ++ [(tables.friendRequests.next, call.row now)]).countP _ = _
  rw [List.countP_append, List.countP_singleton, RequestCall.matchesRow_row]
  simp only [decide_eq_true_eq]
  rfl

theorem pendingCount_key (same : call.key = other.key) (tables : Tables) :
    call.pendingCount tables = other.pendingCount tables := by
  obtain ⟨fromId, toId, reqType, groupId, message⟩ := call
  obtain ⟨fromId', toId', reqType', groupId', message'⟩ := other
  cases same
  rfl

/-- An `INSERT` makes no second row exactly when it finds none. -/
theorem onePending_insert_iff (one : OnePending tables) (now : Int) :
    OnePending { tables with friendRequests := tables.friendRequests.insert (call.row now) } ↔
      call.pendingId tables = none := by
  rw [pendingId_eq_none_iff]
  constructor
  · intro still
    have own := still call
    rw [pendingCount_insert, if_pos rfl] at own
    omega
  · intro clear asked
    rw [pendingCount_insert]
    split
    · rename_i same
      rw [← pendingCount_key same, clear]
    · exact one asked

/-- Another statement makes no row pending. -/
theorem pendingCount_apply {stmt : Stmt} (spares : stmt.sparesRequests = true)
    (applied : stmt.apply tables = some next) :
    call.pendingCount next ≤ call.pendingCount tables := by
  cases stmt with
  | insertFriendRequest row => cases spares
  | updateRequestStatus reqId status =>
      cases applied
      show List.countP _ (List.map _ _) ≤ _
      rw [List.countP_map]
      apply List.countP_mono_left
      intro entry _ fits
      simp only [Function.comp] at fits
      split at fits
      · have closed : status ≠ 0 := of_decide_eq_true spares
        simp [RequestCall.matchesRow, Store.pendingMatch, closed] at fits
      · exact fits
  | insertUser userId username nickname password mail =>
      obtain ⟨users, -, rfl⟩ := Option.map_eq_some_iff.mp applied
      exact le_refl _
  | insertGroup userId username nickname password ownerId =>
      obtain ⟨users, -, rfl⟩ := Option.map_eq_some_iff.mp applied
      exact le_refl _
  | _ =>
      cases applied
      exact le_refl _

end Rows

/-! ### Statements -/

section Statements

variable {pool : ConnectionPool} {conn : Nat} {fares : StatementRun}

theorem executeOn_tables (stmt : Stmt) (generated : Int) :
    (pool.executeOn conn stmt generated).2.tables = (stmt.apply pool.tables).getD pool.tables := by
  unfold executeOn
  cases stmt.apply pool.tables with
  | none => rfl
  | some tables =>
      dsimp only
      split <;> rfl

/-- Only a granted `INSERT` makes a row pending. -/
theorem statement_tables (pool : ConnectionPool) (conn : Nat) (fares : StatementRun) (op : PoolOp) :
    ((pool.statement conn fares op).2.tables = pool.tables ∧
        (fares.granted = true → ∀ call, op ≠ .insertRequest call)) ∨
      (fares.granted = true ∧ ∃ call, op = .insertRequest call ∧
        (pool.statement conn fares op).2.tables = { pool.tables with
          friendRequests := pool.tables.friendRequests.insert (call.row fares.now) }) ∨
      ∃ stmt next, op = .execute stmt ∧ stmt.apply pool.tables = some next ∧
        (pool.statement conn fares op).2.tables = next := by
  unfold statement
  dsimp only
  by_cases granted : fares.granted = true
  · rw [if_pos granted]
    cases op with
    | findPending call => exact Or.inl ⟨reconnect_tables _, fun _ _ same => nomatch same⟩
    | readInsertId call own ranOn =>
        exact Or.inl ⟨reconnect_tables _, fun _ _ same => nomatch same⟩
    | query => exact Or.inl ⟨reconnect_tables _, fun _ _ same => nomatch same⟩
    | insertRequest call =>
        refine Or.inr (Or.inl ⟨granted, call, rfl, ?_⟩)
        show (executeOn conn _ _ _).2.tables = _
        rw [executeOn_tables, reconnect_tables]
        rfl
    | execute stmt =>
        have executed : (answer conn fares (pool.reconnect fares.reconnected conn)
            (.execute stmt)).2.tables = (stmt.apply pool.tables).getD pool.tables := by
          show (executeOn conn _ _ _).2.tables = _
          rw [executeOn_tables, reconnect_tables]
        rw [executed]
        cases applied : stmt.apply pool.tables with
        | none => exact Or.inl ⟨rfl, fun _ _ same => nomatch same⟩
        | some next => exact Or.inr (Or.inr ⟨stmt, next, rfl, applied, rfl⟩)
  · rw [if_neg granted]
    exact Or.inl ⟨reconnect_tables _, fun isGranted => absurd isGranted granted⟩

end Statements

/-! ### Steps -/

section Steps

variable {pool next : ConnectionPool} {thread conn : Nat}

theorem perform_tables {fares : StatementRun} {op : PoolOp}
    (holding : pool.threads thread = some (.holds op conn)) :
    (pool.step (.perform thread fares)).tables = (pool.statement conn fares op).2.tables := by
  simp only [step, perform, holding]
  rfl

/-- The tables change only when a thread that holds a connection runs its
statement. -/
theorem step_tables_same {label : PoolStep}
    (idle : ∀ thread fares op conn, label = .perform thread fares →
      pool.threads thread ≠ some (.holds op conn)) : (pool.step label).tables = pool.tables := by
  cases label with
  | addFriendRequest thread call =>
      simp only [step, enter]
      split <;> rfl
  | execute thread stmt =>
      simp only [step, enter]
      split <;> rfl
  | query thread =>
      simp only [step, enter]
      split <;> rfl
  | acquire thread =>
      simp only [step, acquire]
      split <;> rfl
  | release thread =>
      simp only [step, release]
      split <;> rfl
  | perform thread fares =>
      simp only [step, perform]
      split
      · rename_i op conn holding
        exact absurd holding (idle thread fares op conn rfl)
      · rfl

/-- What a thread that made no call has entered. -/
theorem entered_op {label : PoolStep} {op : PoolOp} (free : pool.threads thread = none)
    (entered : (pool.step label).threads thread = some (.waits op)) :
    op.sparesRequests = label.sparesRequests ∧ ∀ call, op ≠ .insertRequest call := by
  by_cases own : label.thread = thread
  · have enters : ∀ first : PoolOp, (pool.enter thread first).threads thread = some (.waits op) →
        first = op := by
      intro first isOp
      simp only [enter, free] at isOp
      rw [put_threads, if_pos rfl] at isOp
      cases isOp
      rfl
    cases label with
    | addFriendRequest other call =>
        cases own
        obtain rfl := enters (.findPending call) entered
        refine ⟨rfl, ?_⟩
        intro asked same
        cases same
    | execute other stmt =>
        cases own
        obtain rfl := enters (.execute stmt) entered
        refine ⟨rfl, ?_⟩
        intro asked same
        cases same
    | query other =>
        cases own
        obtain rfl := enters .query entered
        refine ⟨rfl, ?_⟩
        intro asked same
        cases same
    | acquire other =>
        cases own
        have idle : pool.threads other = none := free
        simp only [step, acquire, idle] at entered
        cases idle.symm.trans entered
    | perform other fares =>
        cases own
        have idle : pool.threads other = none := free
        simp only [step, perform, idle] at entered
        cases idle.symm.trans entered
    | release other =>
        cases own
        have idle : pool.threads other = none := free
        simp only [step, release, idle] at entered
        cases idle.symm.trans entered
  · rw [step_threads_other own, free] at entered
    cases entered

/-- No thread has a statement that adds or reopens a request, apart from those of
`AddFriendRequest`. -/
def OthersSpare (pool : ConnectionPool) : Prop :=
  ∀ thread now, pool.threads thread = some now → now.op.sparesRequests = true

theorem next_spares {op later : PoolOp} {answer : Option Int}
    (isNext : op.next conn answer = some later) : later.sparesRequests = true := by
  cases op with
  | findPending call =>
      cases answer with
      | none =>
          cases isNext
          rfl
      | some id => cases isNext
  | insertRequest call =>
      cases answer with
      | none => cases isNext
      | some own =>
          cases isNext
          rfl
  | readInsertId call own ranOn => cases isNext
  | execute stmt => cases isNext
  | query => cases isNext

theorem OthersSpare.put (spare : pool.OthersSpare) (next : ConnectionPool)
    (sameThreads : next.threads = pool.threads)
    {now : Option PoolThread} (moved : ∀ after, now = some after → after.op.sparesRequests = true) :
    (next.put thread now).OthersSpare := by
  intro other after isAfter
  rw [put_threads, sameThreads] at isAfter
  split at isAfter
  · exact moved after isAfter
  · exact spare other after isAfter

theorem OthersSpare.step (spare : pool.OthersSpare) {label : PoolStep}
    (spares : label.sparesRequests = true) : (pool.step label).OthersSpare := by
  generalize moved : pool.step label = next
  have moves := step_moves pool label
  rw [moved] at moves
  cases moves with
  | blocked _ _ => exact spare
  | entered _ thread op _ free _ =>
      have entered : (pool.step label).threads thread = some (.waits op) := by
        rw [moved, put_threads, if_pos rfl]
      refine spare.put pool rfl ?_
      intro after isAfter
      cases isAfter
      exact (entered_op free entered).1.trans spares
  | acquired thread op conn rest waiting _ =>
      refine spare.put { pool with idle := rest } rfl ?_
      intro after isAfter
      cases isAfter
      exact spare thread (.waits op) waiting
  | performed thread fares op conn holding =>
      refine spare.put _ (pool.statement_keeps conn fares op).1 ?_
      intro after isAfter
      cases isAfter
      exact spare thread (.holds op conn) holding
  | released thread op conn answer done =>
      refine spare.put { pool with idle := conn :: pool.idle } rfl ?_
      intro after isAfter
      obtain ⟨later, isNext, rfl⟩ := Option.map_eq_some_iff.mp isAfter
      exact next_spares isNext

/-- One step makes no second pending row exactly when its `INSERT` finds none. -/
theorem onePending_step_iff (spare : pool.OthersSpare) (one : OnePending pool.tables)
    (label : PoolStep) : OnePending (pool.step label).tables ↔ pool.InsertsFirst label := by
  by_cases performs : ∃ thread fares op conn, label = .perform thread fares ∧
      pool.threads thread = some (.holds op conn)
  · obtain ⟨thread, fares, op, conn, rfl, holding⟩ := performs
    rw [perform_tables holding]
    simp only [InsertsFirst, holding]
    have spares := spare thread _ holding
    rcases pool.statement_tables conn fares op with
      ⟨same, quiet⟩ | ⟨granted, call, rfl, same⟩ | ⟨stmt, next, rfl, applied, same⟩
    · rw [same]
      refine iff_of_true one ?_
      cases op with
      | insertRequest call =>
          intro granted
          exact absurd rfl (quiet granted call)
      | _ => trivial
    · rw [same]
      exact onePending_insert_iff one fares.now |>.trans
        ⟨fun clear _ => clear, fun clear => clear granted⟩
    · rw [same]
      refine iff_of_true ?_ trivial
      intro call
      exact (pendingCount_apply spares applied).trans (one call)
  · have idle : ∀ thread fares op conn, label = .perform thread fares →
        pool.threads thread ≠ some (.holds op conn) := by
      intro thread fares op conn isLabel holding
      exact performs ⟨thread, fares, op, conn, isLabel, holding⟩
    rw [step_tables_same idle]
    refine iff_of_true one ?_
    cases label with
    | perform thread fares =>
        simp only [InsertsFirst]
        split
        · rename_i call conn holding
          exact absurd holding (idle thread fares _ conn rfl)
        · trivial
    | _ => trivial

/-- Two calls between their query and their `INSERT` are about different
requests, and neither request has a pending row. -/
structure Serial (pool : ConnectionPool) : Prop where
  apart : ∀ first second asked later, first ≠ second → pool.insertingAt first = some asked →
    pool.insertingAt second = some later → asked.key ≠ later.key
  clear : ∀ thread call, pool.insertingAt thread = some call → call.pendingId pool.tables = none

theorem put_insertingAt (sameThreads : next.threads = pool.threads) (now : Option PoolThread)
    (other : Nat) : (next.put thread now).insertingAt other =
      if other = thread then now.bind PoolThread.inserting else pool.insertingAt other := by
  rw [insertingAt, put_threads, sameThreads]
  split <;> rfl

/-- One thread moves on, and no row of the others' requests becomes pending. -/
theorem Serial.put (serial : pool.Serial) (next : ConnectionPool)
    (sameThreads : next.threads = pool.threads)
    {now : Option PoolThread}
    (others : ∀ other asked, other ≠ thread → pool.insertingAt other = some asked →
      asked.pendingId next.tables = none)
    (moved : ∀ call, now.bind PoolThread.inserting = some call →
      call.pendingId next.tables = none ∧
        ∀ other asked, other ≠ thread → pool.insertingAt other = some asked →
          asked.key ≠ call.key) :
    (next.put thread now).Serial := by
  refine ⟨?_, ?_⟩
  · intro first second asked later different isFirst isSecond
    rw [put_insertingAt sameThreads] at isFirst isSecond
    by_cases own : first = thread
    · have other : second ≠ thread := fun same => different (own.trans same.symm)
      rw [if_pos own] at isFirst
      rw [if_neg other] at isSecond
      exact ((moved asked isFirst).2 second later other isSecond).symm
    · rw [if_neg own] at isFirst
      by_cases same : second = thread
      · rw [if_pos same] at isSecond
        exact (moved later isSecond).2 first asked own isFirst
      · rw [if_neg same] at isSecond
        exact serial.apart first second asked later different isFirst isSecond
  · intro other call isInserting
    rw [put_insertingAt sameThreads] at isInserting
    by_cases own : other = thread
    · rw [if_pos own] at isInserting
      exact (moved call isInserting).1
    · rw [if_neg own] at isInserting
      exact others other call own isInserting

/-- A thread that goes on with the request it had. -/
theorem Serial.same (serial : pool.Serial) (next : ConnectionPool)
    (sameThreads : next.threads = pool.threads)
    (sameTables : next.tables = pool.tables) {now : Option PoolThread}
    (kept : ∀ call, now.bind PoolThread.inserting = some call →
      pool.insertingAt thread = some call) : (next.put thread now).Serial := by
  refine serial.put next sameThreads ?_ ?_
  · intro other asked _ isInserting
    rw [sameTables]
    exact serial.clear other asked isInserting
  · intro call isInserting
    have before := kept call isInserting
    refine ⟨?_, ?_⟩
    · rw [sameTables]
      exact serial.clear thread call before
    · intro other asked different isOther
      exact serial.apart other thread asked call different isOther before

/-- A statement after which the requests of the other threads have no pending row. -/
theorem statement_clear {fares : StatementRun} {op : PoolOp} {call : RequestCall}
    (spares : op.sparesRequests = true) (clear : call.pendingId pool.tables = none)
    (different : ∀ inserted, op = .insertRequest inserted → inserted.key ≠ call.key) :
    call.pendingId (pool.statement conn fares op).2.tables = none := by
  rcases pool.statement_tables conn fares op with
    ⟨same, -⟩ | ⟨-, inserted, rfl, same⟩ | ⟨stmt, next, rfl, applied, same⟩
  · rw [same]
    exact clear
  · rw [same, pendingId_eq_none_iff, pendingCount_insert, if_neg (different inserted rfl),
      Nat.add_zero]
    exact pendingId_eq_none_iff.mp clear
  · rw [same, pendingId_eq_none_iff]
    have fewer : call.pendingCount next ≤ call.pendingCount pool.tables :=
      pendingCount_apply spares applied
    rw [pendingId_eq_none_iff.mp clear] at fewer
    exact Nat.le_zero.mp fewer

/-- What a duplicate query answers. -/
theorem findPending_answer {fares : StatementRun} {call : RequestCall} :
    (pool.statement conn fares (.findPending call)).1 =
      if fares.granted then call.pendingId pool.tables else none := by
  unfold statement
  dsimp only
  split
  · show RequestCall.pendingId call (pool.reconnect fares.reconnected conn).tables = _
    rw [reconnect_tables]
  · rfl

theorem findPending_tables {fares : StatementRun} {call : RequestCall} :
    (pool.statement conn fares (.findPending call)).2.tables = pool.tables := by
  rcases pool.statement_tables conn fares (.findPending call) with
    ⟨same, -⟩ | ⟨-, inserted, isInsert, -⟩ | ⟨stmt, next, isExecute, -⟩
  · exact same
  · cases isInsert
  · cases isExecute

theorem Serial.step (serial : pool.Serial) (spare : pool.OthersSpare) {label : PoolStep}
    (alone : pool.QueriesAlone label) : (pool.step label).Serial := by
  generalize moved : pool.step label = next
  have moves := step_moves pool label
  rw [moved] at moves
  cases moves with
  | blocked _ _ => exact serial
  | entered _ thread op _ free _ =>
      have entered : (pool.step label).threads thread = some (.waits op) := by
        rw [moved, put_threads, if_pos rfl]
      refine serial.same pool rfl rfl ?_
      intro call isInserting
      cases op with
      | insertRequest asked => exact absurd rfl ((entered_op free entered).2 asked)
      | _ => cases isInserting
  | acquired thread op conn rest waiting _ =>
      refine serial.same { pool with idle := rest } rfl rfl ?_
      intro call isInserting
      rw [insertingAt, waiting]
      cases op with
      | insertRequest asked => exact isInserting
      | _ => cases isInserting
  | performed thread fares op conn holding =>
      have spares := spare thread (.holds op conn) holding
      have now : pool.insertingAt thread = (PoolThread.holds op conn).inserting := by
        rw [insertingAt, holding]
        rfl
      refine serial.put _ (pool.statement_keeps conn fares op).1 ?_ ?_
      · intro other asked different isOther
        refine statement_clear spares (serial.clear other asked isOther) ?_
        rintro inserted rfl
        exact serial.apart thread other inserted asked (Ne.symm different) now isOther
      · intro call isInserting
        cases op with
        | findPending asked =>
            simp only [QueriesAlone, holding] at alone
            rw [findPending_answer] at isInserting
            have sameTables : (pool.statement conn fares (.findPending asked)).2.tables =
                pool.tables := findPending_tables
            split at isInserting
            · cases found : asked.pendingId pool.tables with
              | none =>
                  rw [found] at isInserting
                  cases isInserting
                  rw [sameTables]
                  exact ⟨found, alone.2⟩
              | some id =>
                  rw [found] at isInserting
                  cases isInserting
            · rename_i refused
              cases isInserting
              rw [sameTables]
              exact ⟨alone.1.resolve_left refused, alone.2⟩
        | _ => cases isInserting
  | released thread op conn answer done =>
      refine serial.same { pool with idle := conn :: pool.idle } rfl rfl ?_
      intro call isInserting
      rw [insertingAt, done]
      cases op with
      | findPending asked =>
          cases answer with
          | none => exact isInserting
          | some id => cases isInserting
      | insertRequest asked =>
          cases answer with
          | none => cases isInserting
          | some own => cases isInserting
      | readInsertId asked own ranOn => cases isInserting
      | execute stmt => cases isInserting
      | query => cases isInserting

theorem insertsFirst_of_serial {label : PoolStep} (serial : pool.Serial) :
    pool.InsertsFirst label := by
  cases label with
  | perform thread fares =>
      simp only [InsertsFirst]
      split
      · rename_i call conn holding
        intro _
        apply serial.clear thread call
        rw [insertingAt, holding]
        rfl
      · trivial
  | _ => trivial

end Steps

/-- In a run in which every duplicate query is answered, and no other call with
its request is between its query and its `INSERT`, there is at most one pending
row for each sender, receiver, type and group. In any run there is, exactly as
long as no `INSERT` takes effect when its request has a pending row. -/
theorem one_pending_request {poolSize : Int} {tables : Tables} {labels : List PoolStep}
    (initial : OnePending tables) (others : ∀ label ∈ labels, label.sparesRequests = true) :
    (AllSteps step QueriesAlone (init poolSize tables) labels →
      ∀ past rest, labels = past ++ rest →
        OnePending (Lib.run step (init poolSize tables) past).tables) ∧
    ((∀ past rest, labels = past ++ rest →
        OnePending (Lib.run step (init poolSize tables) past).tables) ↔
      AllSteps step InsertsFirst (init poolSize tables) labels) := by
  have spareLabels : AllSteps step (fun _ label => label.sparesRequests = true)
      (init poolSize tables) labels := allSteps_of_forall_mem others
  have spareAtFirst : (init poolSize tables).OthersSpare := by
    intro thread now isNow
    cases isNow
  have always : (∀ past rest, labels = past ++ rest →
      OnePending (Lib.run step (init poolSize tables) past).tables) ↔
        AllSteps step InsertsFirst (init poolSize tables) labels := by
    refine always_iff_allSteps_within (fun pool => OnePending pool.tables) OthersSpare
      (fun pool label spare spares => spare.step spares) ?_ initial spareAtFirst spareLabels
    intro pool label spare _ one
    exact onePending_step_iff spare one label
  refine ⟨?_, always⟩
  intro alone
  rw [always]
  apply allSteps_of_splits
  intro past label rest split
  apply insertsFirst_of_serial
  have both : AllSteps step
      (fun pool label => pool.QueriesAlone label ∧ label.sparesRequests = true)
      (init poolSize tables) past := by
    apply allSteps_of_splits
    rintro before now after rfl
    have place : labels = before ++ now :: (after ++ label :: rest) := by
      rw [split, List.append_assoc, List.cons_append]
    exact ⟨alone.admitted place, spareLabels.admitted place⟩
  refine (run_invariant (fun pool => pool.Serial ∧ pool.OthersSpare) ?_ ⟨?_, spareAtFirst⟩ both).1
  · intro pool label holds admitted
    exact ⟨holds.1.step holds.2 admitted.1, holds.2.step admitted.2⟩
  · refine ⟨?_, ?_⟩
    · intro first second asked later _ isFirst
      cases isFirst
    · intro thread call isInserting
      cases isInserting

namespace Sample

/-- Two calls of the same user, one after the other: the second one finds the
row of the first. -/
def repeated : List PoolStep :=
  [.addFriendRequest 0 first] ++ turn 0 ++ turn 0 ++ turn 0 ++ ([.addFriendRequest 1 first] ++
    turn 1)

/-- The same calls at once: both queries come before both inserts. -/
def doubled : List PoolStep :=
  [.addFriendRequest 0 first, .addFriendRequest 1 first] ++ turn 0 ++ turn 1 ++ turn 0 ++ turn 1

end Sample

/-- The first call is over when the second one queries. -/
theorem one_pending_request_repeated :
    OnePending (Lib.run step (init 4 .empty) Sample.repeated).tables := by
  have silent : ∀ past other, (∀ label ∈ past, label.thread ≠ other) →
      (Lib.run step (init 4 .empty) past).insertingAt other = none := by
    intro past other different
    rw [insertingAt, run_threads_other different]
    rfl
  have alone : AllSteps step QueriesAlone (init 4 .empty) Sample.repeated := by
    refine ⟨trivial, trivial, ⟨Or.inl rfl, ?_⟩, trivial, trivial, trivial, trivial, trivial,
      trivial, trivial, trivial, trivial, ⟨Or.inl rfl, ?_⟩, trivial, trivial⟩
    · intro other asked different isOther
      have quiet := silent ([.addFriendRequest 0 Sample.first, .acquire 0]) other
        (by simpa [PoolStep.thread] using different.symm)
      cases quiet.symm.trans isOther
    · intro other asked different isOther
      by_cases isFirst : other = 0
      · -- The first call has returned.
        subst isFirst
        have returned : (Lib.run step (init 4 .empty) ([.addFriendRequest 0 Sample.first] ++
            Sample.turn 0 ++ Sample.turn 0 ++ Sample.turn 0 ++
              [.addFriendRequest 1 Sample.first, .acquire 1])).insertingAt 0 = none := by
          decide +kernel
        cases returned.symm.trans isOther
      · have quiet := silent ([.addFriendRequest 0 Sample.first] ++ Sample.turn 0 ++
          Sample.turn 0 ++ Sample.turn 0 ++ [.addFriendRequest 1 Sample.first, .acquire 1]) other
          (by simp [PoolStep.thread, Sample.turn, Ne.symm isFirst, different.symm])
        cases quiet.symm.trans isOther
  have empty : OnePending .empty := fun call => Nat.zero_le 1
  exact (one_pending_request empty (by decide)).1 alone Sample.repeated []
    (List.append_nil _).symm

/-- Two sessions of a user that ask for the same friend at once leave two
pending rows. -/
theorem doubled_request_stays :
    ¬ ∀ (poolSize : Int) (tables : Tables) (labels : List PoolStep), OnePending tables →
      (∀ label ∈ labels, label.sparesRequests = true) →
        OnePending (Lib.run step (init poolSize tables) labels).tables := by
  intro always
  have one := always 4 .empty Sample.doubled (fun call => Nat.zero_le 1) (by decide) Sample.first
  have two : Sample.first.pendingCount (Lib.run step (init 4 .empty) Sample.doubled).tables = 2 :=
    by decide +kernel
  omega

end ConnectionPool

end AimServer
