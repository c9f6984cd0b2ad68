import AimServer.Store.Lookup
import AimServer.Lib.Lending
import AimServer.Lib.Run

/-!
Contract: `MySqlManager` as the IO threads share it.

Owns: the idle connections as a stack, `acquire` and `release`, one statement
on a borrowed connection with the `LAST_INSERT_ID()` it leaves there, the
three pool calls of `AddFriendRequest`, and the theorem that a thread alone on
the pool gets what `Store.addFriendRequest` says.

Does not own: the calls an IO thread makes besides `AddFriendRequest`; they
are statements and queries here, in any order.

A statement is atomic on its connection. Every table has an `AUTO_INCREMENT`
column, so every `INSERT` that takes effect sets `LAST_INSERT_ID()`; other
statements, and failed ones, leave it. `acquire` waits while nothing is idle,
which is a step that changes nothing.
-/

namespace AimServer

open AimServer.Lib

/-- The arguments of `AddFriendRequest`. -/
structure RequestCall where
  fromId : Int
  toId : Int
  reqType : Int
  groupId : Int
  message : Bytes
deriving DecidableEq, Repr

/-- One `Query` or `Execute`. `readInsertId` carries the id its `INSERT` was
given and the connection that ran it, which the code does not know. -/
inductive PoolOp where
  | findPending (call : RequestCall)
  | insertRequest (call : RequestCall)
  | readInsertId (call : RequestCall) (own : Int) (ranOn : Nat)
  | execute (stmt : Stmt)
  | query

/-- A thread inside `Query` or `Execute`. -/
inductive PoolThread where
  | waits (op : PoolOp)
  | holds (op : PoolOp) (conn : Nat)
  | ran (op : PoolOp) (conn : Nat) (answer : Option Int)

structure ConnectionPool where
  tables : Tables
  /-- `LAST_INSERT_ID()` of a connection. -/
  lastInsertId : Nat → Int
  /-- `m_idle`, its back first. -/
  idle : List Nat
  threads : Nat → Option PoolThread

/-- How a statement fares: whether the connection is opened again first,
whether the statement is granted, the id a table other than
`t_friend_request` hands out, and `NOW()`. -/
structure StatementRun where
  reconnected : Bool
  granted : Bool
  generated : Int
  now : Int

inductive PoolStep where
  | addFriendRequest (thread : Nat) (call : RequestCall)
  | execute (thread : Nat) (stmt : Stmt)
  | query (thread : Nat)
  | acquire (thread : Nat)
  | perform (thread : Nat) (fares : StatementRun)
  | release (thread : Nat)

def PoolStep.thread : PoolStep → Nat
  | .addFriendRequest thread _ => thread
  | .execute thread _ => thread
  | .query thread => thread
  | .acquire thread => thread
  | .perform thread _ => thread
  | .release thread => thread

/-- The id an `INSERT` hands out. -/
def Stmt.insertId (tables : Tables) (generated : Int) : Stmt → Option Int
  | .insertFriendRequest _ => some tables.friendRequests.next
  | .insertUser .. | .insertGroup .. | .insertRelationship .. | .insertGroupAdmin ..
  | .insertChatMsg _ | .insertOfflineMsg _ => some generated
  | _ => none

namespace RequestCall

/-- What the duplicate query compares. -/
def key (call : RequestCall) : Int × Int × Int × Int :=
  (call.fromId, call.toId, call.reqType, call.groupId)

def row (call : RequestCall) (now : Int) : FriendRequestRow :=
  ⟨call.fromId, call.toId, call.reqType, call.groupId, call.message, 0, now⟩

def matchesRow (call : RequestCall) (row : FriendRequestRow) : Bool :=
  Store.pendingMatch call.fromId call.toId call.reqType call.groupId row

/-- The row of a call is pending under the key of another exactly when they ask for
the same. -/
theorem matchesRow_row (call other : RequestCall) (now : Int) :
    other.matchesRow (call.row now) = decide (call.key = other.key) := by
  simp [matchesRow, Store.pendingMatch, row, key]

theorem matchesRow_own (call : RequestCall) (now : Int) :
    call.matchesRow (call.row now) = true := by
  rw [matchesRow_row, decide_eq_true_eq]

/-- `SELECT f_id FROM t_friend_request WHERE .. AND f_status = 0 LIMIT 1`. -/
def pendingId (call : RequestCall) (tables : Tables) : Option Int :=
  (tables.friendRequests.rows.find? fun entry => call.matchesRow entry.2).map Prod.fst

/-- `id` is the key of a pending row with the fields of the call. -/
def Pending (call : RequestCall) (tables : Tables) (id : Int) : Prop :=
  ∃ row, tables.friendRequests.find id = some row ∧ call.matchesRow row = true

end RequestCall

namespace PoolOp

/-- The call a thread makes after this one, as `AddFriendRequest` goes on. -/
def next (conn : Nat) : PoolOp → Option Int → Option PoolOp
  | .findPending call, none => some (.insertRequest call)
  | .insertRequest call, some own => some (.readInsertId call own conn)
  | _, _ => none

/-- What `AddFriendRequest` returns when this call was its last: `reqIdOut`, or
`none` for `false`. -/
def result : PoolOp → Option Int → Option (RequestCall × Option Int)
  | .findPending call, some id => some (call, some id)
  | .insertRequest call, none => some (call, none)
  | .readInsertId call _ _, answer => some (call, some (answer.getD 0))
  | _, _ => none

end PoolOp

/-- The connection a thread has borrowed. -/
def PoolThread.conn? : PoolThread → Option Nat
  | .waits _ => none
  | .holds _ conn => some conn
  | .ran _ conn _ => some conn

namespace ConnectionPool

/-- `Init`: at least one connection, all idle. -/
def init (poolSize : Int) (tables : Tables) : ConnectionPool where
  tables := tables
  lastInsertId := fun _ => 0
  idle := (List.range (if poolSize < 1 then 1 else poolSize.toNat)).reverse
  threads := fun _ => none

def put (thread : Nat) (now : Option PoolThread) (pool : ConnectionPool) : ConnectionPool :=
  { pool with threads := Function.update pool.threads thread now }

/-- A thread that makes no call enters one. -/
def enter (thread : Nat) (op : PoolOp) (pool : ConnectionPool) : ConnectionPool :=
  match pool.threads thread with
  | none => pool.put thread (some (.waits op))
  | some _ => pool

/-- `m_idle.back()` and `pop_back`. -/
def acquire (thread : Nat) (pool : ConnectionPool) : ConnectionPool :=
  match pool.threads thread, pool.idle with
  | some (.waits op), conn :: rest => { pool with idle := rest }.put thread (some (.holds op conn))
  | _, _ => pool

/-- A new session of the server behind a connection. -/
def reconnect (reconnected : Bool) (conn : Nat) (pool : ConnectionPool) : ConnectionPool :=
  if reconnected then { pool with lastInsertId := Function.update pool.lastInsertId conn 0 }
  else pool

/-- `Execute` on a connection: the id it hands out, if the statement took effect. -/
def executeOn (conn : Nat) (stmt : Stmt) (generated : Int) (pool : ConnectionPool) :
    Option Int × ConnectionPool :=
  match stmt.apply pool.tables with
  | none => (none, pool)
  | some tables =>
      match stmt.insertId pool.tables generated with
      | none => (none, { pool with tables })
      | some id => (some id,
          { pool with tables, lastInsertId := Function.update pool.lastInsertId conn id })

/-- A granted statement: its answer and the pool after it. -/
def answer (conn : Nat) (fares : StatementRun) (pool : ConnectionPool) :
    PoolOp → Option Int × ConnectionPool
  | .findPending call => (call.pendingId pool.tables, pool)
  | .insertRequest call =>
      pool.executeOn conn (.insertFriendRequest (call.row fares.now)) fares.generated
  | .readInsertId _ _ _ => (some (pool.lastInsertId conn), pool)
  | .execute stmt => pool.executeOn conn stmt fares.generated
  | .query => (none, pool)

/-- `MySQLTool::Query` or `Execute` on a connection: it may open the connection
again, and a statement that is not granted answers nothing. -/
def statement (conn : Nat) (fares : StatementRun) (op : PoolOp) (pool : ConnectionPool) :
    Option Int × ConnectionPool :=
  let pool := pool.reconnect fares.reconnected conn
  if fares.granted then pool.answer conn fares op else (none, pool)

/-- The statement of a thread that holds a connection. -/
def perform (thread : Nat) (fares : StatementRun) (pool : ConnectionPool) : ConnectionPool :=
  match pool.threads thread with
  | some (.holds op conn) =>
      (pool.statement conn fares op).2.put thread
        (some (.ran op conn (pool.statement conn fares op).1))
  | _ => pool

/-- `push_back`, and the call returns to the thread. -/
def release (thread : Nat) (pool : ConnectionPool) : ConnectionPool :=
  match pool.threads thread with
  | some (.ran op conn answer) =>
      { pool with idle := conn :: pool.idle }.put thread ((op.next conn answer).map .waits)
  | _ => pool

def step (pool : ConnectionPool) : PoolStep → ConnectionPool
  | .addFriendRequest thread call => pool.enter thread (.findPending call)
  | .execute thread stmt => pool.enter thread (.execute stmt)
  | .query thread => pool.enter thread .query
  | .acquire thread => pool.acquire thread
  | .perform thread fares => pool.perform thread fares
  | .release thread => pool.release thread

/-- The `AddFriendRequest` that returns in a step, with its result. -/
def returns (pool : ConnectionPool) : PoolStep → Option (RequestCall × Option Int)
  | .release thread =>
      match pool.threads thread with
      | some (.ran op _ answer) => op.result answer
      | _ => none
  | _ => none

/-! ### Borrowed connections -/

/-- The connection a thread has in its hands. -/
def heldBy (pool : ConnectionPool) (thread : Nat) : Option Nat :=
  (pool.threads thread).bind PoolThread.conn?

/-- A connection is idle once, or in the hands of one thread. -/
structure Exclusive (pool : ConnectionPool) : Prop where
  idleOnce : pool.idle.Nodup
  notIdle : ∀ thread conn, pool.heldBy thread = some conn → conn ∉ pool.idle
  single : ∀ first second conn, pool.heldBy first = some conn → pool.heldBy second = some conn →
    first = second

section Steps

variable {pool : ConnectionPool} {thread conn : Nat}

theorem put_threads (now : Option PoolThread) (other : Nat) :
    (pool.put thread now).threads other = if other = thread then now else pool.threads other := by
  simp only [put, Function.update_apply]

theorem executeOn_keeps (stmt : Stmt) (generated : Int) :
    (pool.executeOn conn stmt generated).2.threads = pool.threads ∧
      (pool.executeOn conn stmt generated).2.idle = pool.idle := by
  unfold executeOn
  split
  · exact ⟨rfl, rfl⟩
  · split
    · exact ⟨rfl, rfl⟩
    · exact ⟨rfl, rfl⟩

/-- A statement touches neither the idle connections nor another thread. -/
theorem answer_keeps (conn : Nat) (fares : StatementRun) (op : PoolOp) :
    (pool.answer conn fares op).2.threads = pool.threads ∧
      (pool.answer conn fares op).2.idle = pool.idle := by
  cases op with
  | insertRequest call => exact executeOn_keeps _ _
  | execute stmt => exact executeOn_keeps _ _
  | findPending call => exact ⟨rfl, rfl⟩
  | readInsertId call own ranOn => exact ⟨rfl, rfl⟩
  | query => exact ⟨rfl, rfl⟩

theorem reconnect_keeps (conn : Nat) (reconnected : Bool) :
    (pool.reconnect reconnected conn).threads = pool.threads ∧
      (pool.reconnect reconnected conn).idle = pool.idle := by
  unfold reconnect
  split
  · exact ⟨rfl, rfl⟩
  · exact ⟨rfl, rfl⟩

theorem statement_keeps (conn : Nat) (fares : StatementRun) (op : PoolOp) :
    (pool.statement conn fares op).2.threads = pool.threads ∧
      (pool.statement conn fares op).2.idle = pool.idle := by
  have opened := pool.reconnect_keeps conn fares.reconnected
  unfold statement
  dsimp only
  split
  · have answered := (pool.reconnect fares.reconnected conn).answer_keeps conn fares op
    exact ⟨answered.1.trans opened.1, answered.2.trans opened.2⟩
  · exact opened

/-- What a step can do. -/
inductive Moves (pool : ConnectionPool) : PoolStep → ConnectionPool → Prop
  | blocked (label : PoolStep) (silent : pool.returns label = none) : Moves pool label pool
  | entered (label : PoolStep) (thread : Nat) (op : PoolOp) (silent : pool.returns label = none)
      (free : pool.threads thread = none)
      (first : ∀ call own ranOn, op ≠ .readInsertId call own ranOn) :
      Moves pool label (pool.put thread (some (.waits op)))
  | acquired (thread : Nat) (op : PoolOp) (conn : Nat) (rest : List Nat)
      (waiting : pool.threads thread = some (.waits op)) (isIdle : pool.idle = conn :: rest) :
      Moves pool (.acquire thread) ({ pool with idle := rest }.put thread (some (.holds op conn)))
  | performed (thread : Nat) (fares : StatementRun) (op : PoolOp) (conn : Nat)
      (holding : pool.threads thread = some (.holds op conn)) :
      Moves pool (.perform thread fares) ((pool.statement conn fares op).2.put thread
        (some (.ran op conn (pool.statement conn fares op).1)))
  | released (thread : Nat) (op : PoolOp) (conn : Nat) (answer : Option Int)
      (done : pool.threads thread = some (.ran op conn answer)) :
      Moves pool (.release thread)
        ({ pool with idle := conn :: pool.idle }.put thread ((op.next conn answer).map .waits))

theorem enter_moves {label : PoolStep} {op : PoolOp} (silent : pool.returns label = none)
    (first : ∀ call own ranOn, op ≠ .readInsertId call own ranOn) :
    Moves pool label (pool.enter thread op) := by
  unfold enter
  split
  · rename_i free
    exact .entered label thread op silent free first
  · exact .blocked label silent

theorem step_moves (pool : ConnectionPool) (label : PoolStep) :
    Moves pool label (pool.step label) := by
  cases label with
  | addFriendRequest thread call => exact enter_moves rfl (by intro _ _ _ same; cases same)
  | execute thread stmt => exact enter_moves rfl (by intro _ _ _ same; cases same)
  | query thread => exact enter_moves rfl (by intro _ _ _ same; cases same)
  | acquire thread =>
      simp only [step, acquire]
      split
      · rename_i op conn rest waiting isIdle
        exact .acquired thread op conn rest waiting isIdle
      · exact .blocked _ rfl
  | perform thread fares =>
      simp only [step, perform]
      split
      · rename_i op conn holding
        exact .performed thread fares op conn holding
      · exact .blocked _ rfl
  | release thread =>
      simp only [step, release]
      split
      · rename_i op conn answer done
        exact .released thread op conn answer done
      · refine .blocked _ ?_
        simp only [returns]

/-- A step moves its own thread only. -/
theorem step_threads_other {label : PoolStep} {other : Nat} (different : label.thread ≠ other) :
    (pool.step label).threads other = pool.threads other := by
  have moved : ∀ (next : ConnectionPool) (now : Option PoolThread),
      next.threads = pool.threads → (next.put label.thread now).threads other =
        pool.threads other := by
    intro next now same
    rw [put_threads, if_neg (Ne.symm different), same]
  cases label with
  | addFriendRequest thread call =>
      simp only [step, enter]
      split
      · exact moved pool _ rfl
      · rfl
  | execute thread stmt =>
      simp only [step, enter]
      split
      · exact moved pool _ rfl
      · rfl
  | query thread =>
      simp only [step, enter]
      split
      · exact moved pool _ rfl
      · rfl
  | acquire thread =>
      simp only [step, acquire]
      split
      · exact moved _ _ rfl
      · rfl
  | perform thread fares =>
      simp only [step, perform]
      split
      · rename_i op conn holding
        exact moved _ _ (statement_keeps conn fares op).1
      · rfl
  | release thread =>
      simp only [step, release]
      split
      · exact moved _ _ rfl
      · rfl

theorem run_threads_other {labels : List PoolStep} {other : Nat}
    (different : ∀ label ∈ labels, label.thread ≠ other) :
    (Lib.run step pool labels).threads other = pool.threads other := by
  induction labels generalizing pool with
  | nil => rfl
  | cons label rest inductionHypothesis =>
      rw [run_cons, inductionHypothesis (fun later member =>
        different later (List.mem_cons_of_mem _ member))]
      exact step_threads_other (different label List.mem_cons_self)

/-! #### One connection, one thread -/

theorem heldBy_of {now : PoolThread} (isNow : pool.threads thread = some now) :
    pool.heldBy thread = now.conn? := by
  rw [heldBy, isNow]
  rfl

theorem heldBy_put (now : Option PoolThread) (other : Nat) :
    (pool.put thread now).heldBy other =
      if other = thread then now.bind PoolThread.conn? else pool.heldBy other := by
  unfold heldBy
  rw [put_threads]
  split
  · rfl
  · rfl

/-- A thread that holds the same connection as before. -/
theorem heldBy_put_same {now : Option PoolThread}
    (same : now.bind PoolThread.conn? = pool.heldBy thread) :
    (pool.put thread now).heldBy = pool.heldBy := by
  funext other
  rw [heldBy_put]
  split
  · rename_i isThread
    rw [isThread, same]
  · rfl

/-- The pool as a stock that threads borrow from. -/
def lending (pool : ConnectionPool) : Lending Nat Nat :=
  ⟨pool.idle, pool.heldBy⟩

theorem exclusive_iff : Exclusive pool ↔ pool.lending.Exclusive :=
  ⟨fun ⟨idleOnce, notIdle, single⟩ => ⟨idleOnce, notIdle, single⟩,
    fun ⟨idleOnce, notIdle, single⟩ => ⟨idleOnce, notIdle, single⟩⟩

theorem lending_put (now : Option PoolThread) (idle : List Nat) :
    ({ pool with idle }.put thread now).lending =
      ⟨idle, Function.update pool.heldBy thread (now.bind PoolThread.conn?)⟩ := by
  unfold lending
  congr
  funext other
  rw [heldBy_put, Function.update_apply]
  rfl

/-- A step takes one idle connection, gives one back, or neither. -/
theorem step_lends (pool : ConnectionPool) (label : PoolStep) :
    Lending.Moves pool.lending (pool.step label).lending := by
  generalize moved : pool.step label = next
  have moves := step_moves pool label
  rw [moved] at moves
  have unmoved : ∀ {next : ConnectionPool}, next.heldBy = pool.heldBy → next.idle = pool.idle →
      Lending.Moves pool.lending next.lending := by
    intro next held idle
    rw [show next.lending = pool.lending by unfold lending; rw [held, idle]]
    exact .kept
  cases moves with
  | blocked _ _ => exact .kept
  | entered _ thread op _ free _ =>
      refine unmoved (heldBy_put_same ?_) rfl
      rw [heldBy, free]
      rfl
  | acquired thread op conn rest waiting isIdle =>
      rw [lending_put]
      exact Lending.Moves.taken (heldBy_of waiting) isIdle
  | performed thread fares op conn holding =>
      have kept := pool.statement_keeps conn fares op
      have held : (pool.statement conn fares op).2.heldBy = pool.heldBy := by
        funext other
        rw [heldBy, heldBy, kept.1]
      refine unmoved ((heldBy_put_same ?_).trans held) kept.2
      rw [held, heldBy_of holding]
      rfl
  | released thread op conn answer done =>
      have free : ((op.next conn answer).map PoolThread.waits).bind PoolThread.conn? = none := by
        cases op.next conn answer with
        | none => rfl
        | some op => rfl
      rw [lending_put, free]
      exact Lending.Moves.returned (heldBy_of done)

theorem exclusive_step (pool : ConnectionPool) (label : PoolStep) (exclusive : Exclusive pool) :
    Exclusive (pool.step label) :=
  exclusive_iff.mpr ((exclusive_iff.mp exclusive).moves (step_lends pool label))

/-- In every state of a run a connection is idle once or in one pair of hands. -/
theorem exclusive_run (poolSize : Int) (tables : Tables) (labels : List PoolStep) :
    Exclusive (Lib.run step (init poolSize tables) labels) := by
  refine run_keeps Exclusive exclusive_step ?_
  constructor
  · exact List.nodup_reverse.mpr List.nodup_range
  · intro thread conn held
    cases held
  · intro first second conn held
    cases held

end Steps


/-! ### A thread alone on the pool -/

section Alone

variable {pool : ConnectionPool} {thread conn : Nat} {rest : List Nat}

/-- A statement reads the tables and the `LAST_INSERT_ID()` of its connection
only. -/
theorem statement_put (pool : ConnectionPool) (thread conn : Nat) (fares : StatementRun)
    (op : PoolOp) (idle : List Nat) (now : Option PoolThread) :
    (({ pool with idle }.put thread now).statement conn fares op).1 =
        (pool.statement conn fares op).1 ∧
      (({ pool with idle }.put thread now).statement conn fares op).2 =
        { (pool.statement conn fares op).2 with idle }.put thread now := by
  have opened : ({ pool with idle }.put thread now).reconnect fares.reconnected conn =
      { pool.reconnect fares.reconnected conn with idle }.put thread now := by
    unfold reconnect
    split
    · rfl
    · rfl
  unfold statement
  dsimp only
  rw [opened]
  generalize pool.reconnect fares.reconnected conn = open'
  split
  · have executed : ∀ stmt generated,
        ({ open' with idle }.put thread now).executeOn conn stmt generated =
          ((open'.executeOn conn stmt generated).1,
            { (open'.executeOn conn stmt generated).2 with idle }.put thread now) := by
      intro stmt generated
      unfold executeOn
      simp only [put]
      split
      · rfl
      · split
        · rfl
        · rfl
    cases op with
    | findPending call => exact ⟨rfl, rfl⟩
    | insertRequest call => simp only [answer, executed, and_self]
    | readInsertId call own ranOn => exact ⟨rfl, rfl⟩
    | execute stmt => simp only [answer, executed, and_self]
    | query => exact ⟨rfl, rfl⟩
  · exact ⟨rfl, rfl⟩

theorem put_put (before now : Option PoolThread) :
    (pool.put thread before).put thread now = pool.put thread now := by
  simp only [put, Function.update_idem]

/-- Borrowing a connection and running the statement on it. -/
theorem borrow {op : PoolOp} (fares : StatementRun)
    (waiting : pool.threads thread = some (.waits op)) (isIdle : pool.idle = conn :: rest) :
    Lib.run step pool [.acquire thread, .perform thread fares] =
      { (pool.statement conn fares op).2 with idle := rest }.put thread
        (some (.ran op conn (pool.statement conn fares op).1)) := by
  have acquired : pool.step (.acquire thread) =
      { pool with idle := rest }.put thread (some (.holds op conn)) := by
    simp only [step, acquire, waiting, isIdle]
  have holding : ({ pool with idle := rest }.put thread (some (.holds op conn))).threads thread =
      some (.holds op conn) := by
    rw [put_threads, if_pos rfl]
  have ran := statement_put pool thread conn fares op rest (some (.holds op conn))
  rw [run_cons, acquired, run_cons, run_nil]
  simp only [step, perform, holding]
  rw [ran.1, ran.2, put_put]

/-- Giving the connection back: nothing else has changed. -/
theorem giveBack {op : PoolOp} {answer : Option Int} {after : ConnectionPool}
    (sameIdle : after.idle = conn :: rest) :
    ({ after with idle := rest }.put thread (some (.ran op conn answer))).step (.release thread) =
      after.put thread ((op.next conn answer).map .waits) := by
  have done : ({ after with idle := rest }.put thread (some (.ran op conn answer))).threads thread =
      some (.ran op conn answer) := by
    rw [put_threads, if_pos rfl]
  simp only [step, release, done]
  obtain ⟨tables, lastInsertId, idle, threads⟩ := after
  cases sameIdle
  simp only [put, Function.update_idem]

/-- Steps of this thread alone lead to a return with this result and these
tables. -/
def ReturnsAlone (pool : ConnectionPool) (thread : Nat) (call : RequestCall) (result : Option Int)
    (tables : Tables) : Prop :=
  ∃ past, (∀ label ∈ past, label.thread = thread) ∧
    (Lib.run step pool past).returns (.release thread) = some (call, result) ∧
    (Lib.run step pool (past ++ [.release thread])).tables = tables

/-- The last statement of a call. -/
theorem returnsAlone_last {op : PoolOp} {call : RequestCall} {result : Option Int}
    (fares : StatementRun) (waiting : pool.threads thread = some (.waits op))
    (isIdle : pool.idle = conn :: rest)
    (isResult : op.result (pool.statement conn fares op).1 = some (call, result)) :
    ReturnsAlone pool thread call result (pool.statement conn fares op).2.tables := by
  have sameIdle := ((pool.statement_keeps conn fares op).2).trans isIdle
  refine ⟨[.acquire thread, .perform thread fares], ?_, ?_, ?_⟩
  · intro label member
    simp only [List.mem_cons, List.not_mem_nil, or_false] at member
    rcases member with rfl | rfl
    · rfl
    · rfl
  · rw [borrow fares waiting isIdle]
    simp only [returns, put_threads, if_pos]
    exact isResult
  · rw [run_append, borrow fares waiting isIdle, run_cons, run_nil, giveBack sameIdle]
    rfl

/-- A statement that is not the last. -/
theorem returnsAlone_next {op : PoolOp} (later : PoolOp) {call : RequestCall} {result : Option Int}
    {tables : Tables} (fares : StatementRun) (waiting : pool.threads thread = some (.waits op))
    (isIdle : pool.idle = conn :: rest)
    (isNext : op.next conn (pool.statement conn fares op).1 = some later)
    (returned : ReturnsAlone ((pool.statement conn fares op).2.put thread (some (.waits later)))
      thread call result tables) :
    ReturnsAlone pool thread call result tables := by
  have sameIdle := ((pool.statement_keeps conn fares op).2).trans isIdle
  obtain ⟨past, alone, isResult, sameTables⟩ := returned
  let labels : List PoolStep := [.acquire thread, .perform thread fares]
  have turn : Lib.run step pool (labels ++ [.release thread]) =
      (pool.statement conn fares op).2.put thread (some (.waits later)) := by
    rw [run_append, borrow fares waiting isIdle, run_cons, run_nil, giveBack sameIdle, isNext]
    rfl
  refine ⟨(labels ++ [.release thread]) ++ past, ?_, ?_, ?_⟩
  · intro label member
    rcases List.mem_append.mp member with first | second
    · simp only [labels, List.cons_append, List.nil_append, List.mem_cons, List.not_mem_nil,
        or_false] at first
      rcases first with rfl | rfl | rfl
      · rfl
      · rfl
      · rfl
    · exact alone label second
  · rw [run_append, turn]
    exact isResult
  · rw [List.append_assoc, run_append, turn]
    exact sameTables

/-- The sequential call, by the outcomes of its statements. -/
theorem addFriendRequest_sequential (s : Store) (call : RequestCall) :
    ((s.addFriendRequest call.fromId call.toId call.reqType call.groupId call.message).1,
      (s.addFriendRequest call.fromId call.toId call.reqType call.groupId
        call.message).2.db.tables) =
      match (if s.db.outcomes 0 then call.pendingId s.db.tables else none) with
      | some id => (some id, s.db.tables)
      | none =>
          if s.db.outcomes 1 then
            (some (if s.db.outcomes 2 then s.db.tables.friendRequests.next else 0),
              { s.db.tables with
                friendRequests := s.db.tables.friendRequests.insert (call.row s.db.clock) })
          else (none, s.db.tables) := by
  have key : (s.db.tables.friendRequests.insert (call.row s.db.clock)).next - 1 =
      s.db.tables.friendRequests.next := Int.add_sub_cancel _ _
  unfold RequestCall.row at key ⊢
  unfold Store.addFriendRequest RequestCall.pendingId RequestCall.matchesRow
  simp only [Store.query, MySql.query, Store.execute, MySql.execute, Stmt.apply]
  generalize (s.db.tables.friendRequests.rows.find? _) = found
  cases first : s.db.outcomes 0 <;> cases second : s.db.outcomes 1 <;>
    cases third : s.db.outcomes 2 <;> cases found <;>
    simp [second, third, key]

theorem statement_of_kept {fares : StatementRun} {op : PoolOp} (kept : fares.reconnected = false) :
    pool.statement conn fares op =
      if fares.granted then pool.answer conn fares op else (none, pool) := by
  simp [statement, reconnect, kept]

/-- The `INSERT` of a call hands out the next key. -/
theorem answer_insertRequest (fares : StatementRun) (call : RequestCall) :
    pool.answer conn fares (.insertRequest call) =
      (some pool.tables.friendRequests.next,
        { pool with
          tables := { pool.tables with
            friendRequests := pool.tables.friendRequests.insert (call.row fares.now) }
          lastInsertId := Function.update pool.lastInsertId conn
            pool.tables.friendRequests.next }) := rfl

/-- The last two statements of a call that follow each other. -/
theorem inserted_alone {call : RequestCall} (now : Int) (second third : Bool)
    (waiting : pool.threads thread = some (.waits (.insertRequest call)))
    (isIdle : pool.idle = conn :: rest) :
    ReturnsAlone pool thread call
      (if second then some (if third then pool.tables.friendRequests.next else 0) else none)
      (if second then { pool.tables with
        friendRequests := pool.tables.friendRequests.insert (call.row now) } else pool.tables) := by
  have fares : pool.statement conn ⟨false, second, 0, now⟩ (.insertRequest call) = _ :=
    statement_of_kept rfl
  cases second with
  | false =>
      have last : ReturnsAlone pool thread call none _ :=
        returnsAlone_last ⟨false, false, 0, now⟩ waiting isIdle (by rw [fares]; rfl)
      rw [fares] at last
      exact last
  | true =>
      rw [if_pos rfl, answer_insertRequest] at fares
      generalize isKey : pool.tables.friendRequests.next = key at fares
      refine returnsAlone_next (.readInsertId call key conn) ⟨false, true, 0, now⟩ waiting
        isIdle (by rw [fares]; rfl) ?_
      rw [fares]
      dsimp only
      generalize isWritten : ConnectionPool.mk _ _ _ _ = written
      have ownId : written.lastInsertId conn = key := by
        rw [← isWritten]
        exact Function.update_self _ _ _
      have read : (written.put thread (some (.waits (.readInsertId call key conn)))).statement
          conn ⟨false, third, 0, now⟩ (.readInsertId call key conn) = _ := statement_of_kept rfl
      generalize isFinal : written.put thread (some (.waits (.readInsertId call key conn))) = final
        at read
      have waits : final.threads thread = some (.waits (.readInsertId call key conn)) := by
        rw [← isFinal, put_threads, if_pos rfl]
      have sameIdle : final.idle = conn :: rest := by
        rw [← isFinal, ← isWritten]
        exact isIdle
      have isResult : (PoolOp.readInsertId call key conn).result
          (final.statement conn ⟨false, third, 0, now⟩ (.readInsertId call key conn)).1 =
            some (call, some (if third then key else 0)) := by
        rw [read, ← isFinal]
        cases third with
        | false => rfl
        | true =>
            rw [← ownId]
            rfl
      have last := returnsAlone_last ⟨false, third, 0, now⟩ waits sameIdle isResult
      rw [read] at last
      have sameTables : final.tables = written.tables := by
        rw [← isFinal]
        rfl
      rw [if_pos rfl, if_pos rfl]
      have isTables : written.tables = { pool.tables with
          friendRequests := pool.tables.friendRequests.insert (call.row now) } := by
        rw [← isWritten]
      rw [← isTables, ← sameTables]
      cases third with
      | false => exact last
      | true => exact last

/-- A call whose statements follow each other returns what the sequential model
says and leaves its tables. -/
theorem addFriendRequest_alone {s : Store} (call : RequestCall)
    (sameTables : pool.tables = s.db.tables) (isIdle : pool.idle = conn :: rest)
    (waiting : pool.threads thread = some (.waits (.findPending call))) :
    ReturnsAlone pool thread call
      (s.addFriendRequest call.fromId call.toId call.reqType call.groupId call.message).1
      (s.addFriendRequest call.fromId call.toId call.reqType call.groupId
        call.message).2.db.tables := by
  have sequential := addFriendRequest_sequential s call
  generalize s.addFriendRequest call.fromId call.toId call.reqType call.groupId
    call.message = returned at sequential
  rw [← sameTables] at sequential
  let fares : StatementRun := ⟨false, s.db.outcomes 0, 0, s.db.clock⟩
  have fetched : pool.statement conn fares (.findPending call) =
      (if s.db.outcomes 0 then call.pendingId pool.tables else none, pool) := by
    rw [statement_of_kept rfl]
    show (if s.db.outcomes 0 then _ else _) = _
    split
    · rfl
    · rfl
  cases found : (if s.db.outcomes 0 then call.pendingId pool.tables else none) with
  | some id =>
      rw [found] at sequential fetched
      obtain ⟨isResult, isTables⟩ := Prod.mk.inj sequential
      have last : ReturnsAlone pool thread call (some id) _ :=
        returnsAlone_last fares waiting isIdle (by rw [fetched]; rfl)
      rw [fetched] at last
      rw [isResult, isTables]
      exact last
  | none =>
      rw [found] at sequential fetched
      refine returnsAlone_next (.insertRequest call) fares waiting isIdle
        (by rw [fetched]; rfl) ?_
      rw [fetched]
      have last := (pool.put thread (some (.waits (.insertRequest call)))).inserted_alone
        s.db.clock (s.db.outcomes 1) (s.db.outcomes 2) (by rw [put_threads, if_pos rfl]) isIdle
      dsimp only at sequential ⊢
      split at sequential
      · rename_i granted
        obtain ⟨isResult, isTables⟩ := Prod.mk.inj sequential
        rw [if_pos granted, if_pos granted] at last
        rw [isResult, isTables]
        exact last
      · rename_i refused
        obtain ⟨isResult, isTables⟩ := Prod.mk.inj sequential
        rw [if_neg refused, if_neg refused] at last
        rw [isResult, isTables]
        exact last

end Alone

end ConnectionPool

end AimServer
