import AimServer.Store.OfflineQueue
import AimServer.Lib.Run

/-!
Contract: the offline part of `OnLoginResponse`, one statement or one
`sendRaw` at a time, in a process that may stop between any two of them.

Owns: the table with its key, the phases of a replay, the lock that
`MsgCacheManager` holds from the `SELECT` to the `DELETE`, stopping and
starting the process, and the theorem that a replay without interruption is
the fetch of the store model followed by `sendRaw` of what it returned.

A container in the hands of a replay is named by the row it was read from;
`sendRaw` gets its content only.
-/

namespace AimServer

open AimServer.Lib

/-- A row of `t_offline_msg` under its `f_id`. -/
abbrev OfflineEntry := Int × OfflineMsgRow

/-- The row is selected by `f_userid` and `f_msgtype`. -/
def OfflineMsgRow.isFor (kind : OfflineKind) (userid : Int) (row : OfflineMsgRow) : Bool :=
  row.userid = userid ∧ row.msgtype = kind.code

/-- Where a login is in its replay: before the `SELECT`, before the `DELETE`,
or passing on what it read. `removed` says that the `DELETE` took effect. -/
inductive ReplayPhase where
  | fetching (kind : OfflineKind)
  | deleting (kind : OfflineKind) (inHand : List OfflineEntry)
  | passing (kind : OfflineKind) (removed : Bool) (inHand : List OfflineEntry)
deriving DecidableEq

structure Replay where
  userid : Int
  phase : ReplayPhase
deriving DecidableEq

/-- Notifications come first, then chat messages. -/
def Replay.next (replay : Replay) : OfflineKind → Option Replay
  | .notify => some { replay with phase := .fetching .chat }
  | .chat => none

/-- The table, what was ever stored and passed on, the logins that are
replaying by connection, the one that holds the lock, and whether the process
runs. -/
structure OfflineServer where
  table : AutoTable OfflineMsgRow
  stored : List OfflineEntry
  passed : List (Nat × OfflineEntry)
  replays : Nat → Option Replay
  holder : Option Nat
  up : Bool

inductive OfflineLabel where
  /-- `AddNotifyMsgCache` or `AddChatMsgCache`. -/
  | add (kind : OfflineKind) (userid : Int) (cache : Bytes) (granted : Bool)
  /-- A login whose password was accepted comes to its replay. -/
  | login (conn : Nat) (userid : Int)
  /-- The next statement or `sendRaw` of a replay. -/
  | advance (conn : Nat) (granted : Bool)
  | stop
  | start

namespace OfflineServer

def starting (table : AutoTable OfflineMsgRow) : OfflineServer :=
  ⟨table, table.rows, [], fun _ => none, none, true⟩

def setReplay (conn : Nat) (replay : Option Replay) (s : OfflineServer) : OfflineServer :=
  { s with replays := Function.update s.replays conn replay }

/-- What the `SELECT` of a fetch reads. -/
def select (kind : OfflineKind) (userid : Int) (s : OfflineServer) : List OfflineEntry :=
  s.table.rows.filter fun entry => entry.2.isFor kind userid

/-- One statement or one `sendRaw`. The lock is taken by the `SELECT` and given
back after the `DELETE`, or at once when there is none to run. -/
def advance (conn : Nat) (granted : Bool) (replay : Replay) (s : OfflineServer) : OfflineServer :=
  match replay.phase with
  | .fetching kind =>
      if s.holder.isSome then s
      else if granted ∧ s.select kind replay.userid ≠ [] then
        { s.setReplay conn
            (some { replay with phase := .deleting kind (s.select kind replay.userid) }) with
          holder := some conn }
      else s.setReplay conn (replay.next kind)
  | .deleting kind inHand =>
      { s.setReplay conn (some { replay with phase := .passing kind granted inHand }) with
        table := if granted then s.table.deleteWhere (·.isFor kind replay.userid) else s.table
        holder := none }
  | .passing kind removed (entry :: rest) =>
      { s.setReplay conn (some { replay with phase := .passing kind removed rest }) with
        passed := s.passed ++ [(conn, entry)] }
  | .passing kind _ [] => s.setReplay conn (replay.next kind)

/-- One step. A connection is served by one thread, so it cannot log in again
while it replays, and a call that needs the lock waits for it. -/
def step (s : OfflineServer) : OfflineLabel → OfflineServer
  | .add kind userid cache granted =>
      if s.up ∧ s.holder = none ∧ granted then
        { s with
          table := s.table.insert ⟨userid, kind.code, cache⟩
          stored := s.stored ++ [(s.table.next, ⟨userid, kind.code, cache⟩)] }
      else s
  | .login conn userid =>
      if s.up ∧ s.replays conn = none then
        s.setReplay conn (some ⟨userid, .fetching .notify⟩)
      else s
  | .advance conn granted =>
      match s.replays conn with
      | none => s
      | some replay => s.advance conn granted replay
  | .stop => { s with replays := fun _ => none, holder := none, up := false }
  | .start => { s with up := true }

/-! ### A replay without interruption -/

section Alone

variable {s : OfflineServer} {conn : Nat} {userid : Int} {kind : OfflineKind}

/-- From the `DELETE` on, a replay passes on all it has in hand, in order. -/
theorem run_passing (removed : Bool) (inHand : List OfflineEntry)
    (phase : s.replays conn = some ⟨userid, .passing kind removed inHand⟩) :
    run step s (List.replicate (inHand.length + 1) (.advance conn true)) =
      { s.setReplay conn (Replay.next ⟨userid, .fetching kind⟩ kind) with
        passed := s.passed ++ inHand.map fun entry => (conn, entry) } := by
  induction inHand generalizing s with
  | nil =>
      have last : s.step (.advance conn true) =
          s.setReplay conn (Replay.next ⟨userid, .passing kind removed []⟩ kind) := by
        simp only [step, phase, advance]
      rw [List.length_nil, List.replicate_one, run_cons, run_nil, last]
      cases kind with
      | notify => simp [setReplay, Replay.next]
      | chat => simp [setReplay, Replay.next]
  | cons entry rest inductionHypothesis =>
      have first : s.step (.advance conn true) =
          { s.setReplay conn (some ⟨userid, .passing kind removed rest⟩) with
            passed := s.passed ++ [(conn, entry)] } := by
        simp only [step, phase, advance]
      rw [List.length_cons, List.replicate_succ, run_cons, first, inductionHypothesis]
      · simp [setReplay]
      · simp [setReplay]

/-- What the `SELECT` reads, as the store model has it. -/
theorem select_content {st : Store}
    (agrees : st.db.tables.offlineMsgs = s.table.rows.map Prod.snd) :
    (s.select kind userid).map (fun entry => entry.2.content) = st.waiting kind userid := by
  rw [Store.waiting, Store.offlineRows, agrees, List.filter_map, List.map_map]
  rfl

/-- The `DELETE` of the store model removes the same rows. -/
theorem delete_offlineMsgs {st : Store}
    (agrees : st.db.tables.offlineMsgs = s.table.rows.map Prod.snd) :
    (st.execute (.deleteOfflineMsg userid kind.code)).2.db.tables.offlineMsgs =
      (if st.db.outcomes 0 then s.table.deleteWhere (·.isFor kind userid) else s.table).rows.map
        Prod.snd := by
  cases granted : st.db.outcomes 0 with
  | false =>
      rw [Store.execute_denied granted]
      exact agrees
  | true =>
      rw [Store.execute_granted granted rfl]
      show st.db.tables.offlineMsgs.filter _ = (s.table.rows.filter _).map Prod.snd
      rw [agrees, List.filter_map]
      congr 2
      funext entry
      simp [OfflineMsgRow.isFor, Function.comp]

/-- A replay of one kind that nothing interrupts passes on what the fetch of
the store model returns, and leaves the table the fetch leaves. -/
theorem replay_alone {st : Store} (agrees : st.db.tables.offlineMsgs = s.table.rows.map Prod.snd)
    (free : s.holder = none) (phase : s.replays conn = some ⟨userid, .fetching kind⟩) :
    ∃ labels : List OfflineLabel, (∀ label ∈ labels, ∃ granted, label = .advance conn granted) ∧
      (run step s labels).passed.map (fun sent => sent.2.2.content) =
        s.passed.map (fun sent => sent.2.2.content) ++
          (st.fetchAndDeleteOfflineMsg kind userid).1 ∧
      (st.fetchAndDeleteOfflineMsg kind userid).2.db.tables.offlineMsgs =
        (run step s labels).table.rows.map Prod.snd ∧
      (run step s labels).replays conn = Replay.next ⟨userid, .fetching kind⟩ kind ∧
      (run step s labels).holder = none := by
  have content : (s.select kind userid).map (fun entry => entry.2.content) =
      st.waiting kind userid := select_content agrees
  have fetch := st.fetchAndDeleteOfflineMsg_eq kind userid
  have nothing : st.waiting kind userid = [] ↔ s.select kind userid = [] := by
    rw [← content, List.map_eq_nil_iff]
  by_cases found : st.db.outcomes 0 = true ∧ s.select kind userid ≠ []
  · rw [if_pos ⟨found.1, fun none => found.2 (nothing.mp none)⟩, ← content] at fetch
    have selected : s.step (.advance conn true) =
        { s.setReplay conn (some ⟨userid, .deleting kind (s.select kind userid)⟩) with
          holder := some conn } := by
      simp [step, phase, advance, free, found.2]
    have deleted : run step s [.advance conn true, .advance conn (st.db.outcomes 1)] =
        { s.setReplay conn
            (some ⟨userid, .passing kind (st.db.outcomes 1) (s.select kind userid)⟩) with
          table := if st.db.outcomes 1 then s.table.deleteWhere (·.isFor kind userid)
            else s.table
          holder := none } := by
      rw [run_cons, run_cons, run_nil, selected]
      simp [step, advance, setReplay]
    refine ⟨[.advance conn true, .advance conn (st.db.outcomes 1)] ++
      List.replicate ((s.select kind userid).length + 1) (.advance conn true), ?_, ?_⟩
    · intro label member
      simp only [List.cons_append, List.nil_append, List.mem_cons, List.mem_replicate] at member
      rcases member with rfl | rfl | ⟨-, rfl⟩
      · exact ⟨true, rfl⟩
      · exact ⟨st.db.outcomes 1, rfl⟩
      · exact ⟨true, rfl⟩
    · have passed := run_passing (s := run step s [.advance conn true,
          .advance conn (st.db.outcomes 1)]) (st.db.outcomes 1) (s.select kind userid)
        (by rw [deleted]; exact Function.update_self _ _ _)
      rw [run_append, passed, deleted, fetch]
      refine ⟨by simp [setReplay], ?_, Function.update_self _ _ _, rfl⟩
      have advanced : Tables.offlineMsgs (MySql.tables (Store.db { st with db := st.db.advance })) =
          s.table.rows.map Prod.snd := agrees
      exact delete_offlineMsgs advanced
  · rw [if_neg fun both => found ⟨both.1, fun none => both.2 (nothing.mpr none)⟩] at fetch
    have skipped : s.step (.advance conn (st.db.outcomes 0)) =
        s.setReplay conn (Replay.next ⟨userid, .fetching kind⟩ kind) := by
      simp only [step, phase, advance, free, Option.isSome_none, Bool.false_eq_true, if_false]
      rw [if_neg found]
    refine ⟨[.advance conn (st.db.outcomes 0)], ?_, ?_⟩
    · intro label member
      exact ⟨_, List.mem_singleton.mp member⟩
    · rw [run_cons, run_nil, skipped, fetch]
      exact ⟨by simp [setReplay], agrees, by simp [setReplay], free⟩

end Alone

end OfflineServer

end AimServer
