import AimServer.Store.MsgCache
import AimServer.Store.Lookup

/-!
Contract: what waits in `t_offline_msg`, per kind and user.

Owns: the row cursor `QueryResult` and the loop that reads it, the containers
that wait for a user, and the effect of each statement of `MsgCacheManager` on
every one of these queues.

Does not own: who calls `MsgCacheManager`.
-/

namespace AimServer

/-! ### The row cursor -/

/-- `QueryResult`: the current row, which `EndQuery` clears, and the rows the
result set still holds. -/
structure QueryResult (ρ : Type) where
  currentRow : Option ρ
  unread : List ρ

namespace QueryResult

variable {ρ α : Type}

/-- The constructor moves to the first row, if there is one. -/
def ofRows : List ρ → QueryResult ρ
  | [] => ⟨none, []⟩
  | row :: rest => ⟨some row, rest⟩

def fetch (result : QueryResult ρ) : Option ρ := result.currentRow

/-- `NextRow`: after the last row the query is ended. -/
def nextRow (result : QueryResult ρ) : Bool × QueryResult ρ :=
  match result.unread with
  | [] => (false, ⟨none, []⟩)
  | row :: rest => (true, ⟨some row, rest⟩)

theorem nextRow_shrinks {result next : QueryResult ρ} (moved : result.nextRow = (true, next)) :
    next.unread.length < result.unread.length := by
  unfold nextRow at moved
  split at moved
  · cases moved
  · rename_i first rest unread
    cases moved
    simp [unread]

/-- The loop of `FetchAndDeleteOfflineMsg`. -/
def readAll (read : ρ → α) (result : QueryResult ρ) (out : List α) : List α :=
  match result.fetch with
  | none => out
  | some row =>
      match _moved : result.nextRow with
      | (false, _) => out ++ [read row]
      | (true, next) => readAll read next (out ++ [read row])
termination_by result.unread.length
decreasing_by
  exact nextRow_shrinks _moved

/-- The loop reads every row once and in order. -/
theorem readAll_ofRows (read : ρ → α) (rows : List ρ) (out : List α) :
    readAll read (ofRows rows) out = out ++ rows.map read := by
  induction rows generalizing out with
  | nil =>
      unfold readAll
      simp [ofRows, fetch]
  | cons row rest inductionHypothesis =>
      unfold readAll
      cases rest with
      | nil => simp [ofRows, fetch, nextRow]
      | cons second others =>
          have next := inductionHypothesis (out ++ [read row])
          simp only [ofRows] at next
          simp [ofRows, fetch, nextRow, next]

end QueryResult

theorem OfflineKind.code_injective {first second : OfflineKind}
    (same : first.code = second.code) : first = second := by
  cases first <;> cases second <;> first | rfl | cases same

namespace Store

open QueryResult

variable {s : Store} {kind : OfflineKind} {userid : Int}

/-- The rows that wait for a user, oldest first. -/
def offlineRows (kind : OfflineKind) (userid : Int) (t : Tables) : List OfflineMsgRow :=
  t.offlineMsgs.filter fun row => row.userid = userid ∧ row.msgtype = kind.code

/-- The containers that wait for a user, oldest first. -/
def waiting (kind : OfflineKind) (userid : Int) (s : Store) : List Bytes :=
  (offlineRows kind userid s.db.tables).map OfflineMsgRow.content

/-- Reading the hexadecimal column row by row gives the stored bytes. -/
theorem readAll_hex (kind : OfflineKind) (userid : Int) (s : Store) :
    readAll fromHex (ofRows ((offlineRows kind userid s.db.tables).map
      fun row => toHex row.content)) [] = s.waiting kind userid := by
  rw [readAll_ofRows, List.nil_append, List.map_map]
  apply List.map_congr_left
  intro row _
  exact fromHex_toHex row.content

/-! ### Statements -/

theorem insertOfflineMsg_eq (kind : OfflineKind) (userid : Int) (blob : Bytes) (s : Store) :
    s.insertOfflineMsg kind userid blob =
      s.execute (.insertOfflineMsg ⟨userid, kind.code, blob⟩) := by
  rw [insertOfflineMsg, fromHex_toHex]

/-- The `SELECT` of the fetch, read by its loop, and the `DELETE` that follows
when the loop found anything. -/
theorem fetchAndDeleteOfflineMsg_eq (kind : OfflineKind) (userid : Int) (s : Store) :
    s.fetchAndDeleteOfflineMsg kind userid =
      if s.db.outcomes 0 = true ∧ s.waiting kind userid ≠ [] then
        (s.waiting kind userid,
          (Store.execute (.deleteOfflineMsg userid kind.code) { s with db := s.db.advance }).2)
      else ([], { s with db := s.db.advance }) := by
  have selected : (offlineRows kind userid s.db.tables).map
      (fun row => fromHex (toHex row.content)) = s.waiting kind userid := by
    rw [← readAll_hex, readAll_ofRows, List.nil_append, List.map_map]
    rfl
  have queried : (s.query fun t =>
      (t.offlineMsgs.filter fun row => row.userid = userid ∧ row.msgtype = kind.code).map
        fun row => fromHex (toHex row.content)) =
      (if s.db.outcomes 0 then some (s.waiting kind userid) else none,
        { s with db := s.db.advance }) := by
    rw [← selected]
    simp only [query, MySql.query]
    split <;> rfl
  rw [fetchAndDeleteOfflineMsg, queried]
  cases s.db.outcomes 0 with
  | false => simp
  | true =>
      cases found : s.waiting kind userid with
      | nil => simp
      | cons blob rest => simp

/-- An `INSERT` violates no key, so it succeeds when it is granted. -/
theorem insertOfflineMsg_fst (kind : OfflineKind) (userid : Int) (blob : Bytes) (s : Store) :
    (s.execute (.insertOfflineMsg ⟨userid, kind.code, blob⟩)).1 = s.db.outcomes 0 := by
  cases granted : s.db.outcomes 0 with
  | false => rw [execute_denied granted]
  | true => rw [execute_granted granted rfl]

/-- What an `INSERT` does to each queue. -/
theorem waiting_insert (kind kind' : OfflineKind) (userid userid' : Int) (blob : Bytes)
    (s : Store) :
    (s.execute (.insertOfflineMsg ⟨userid, kind.code, blob⟩)).2.waiting kind' userid' =
      if s.db.outcomes 0 = true ∧ kind' = kind ∧ userid' = userid then
        s.waiting kind' userid' ++ [blob]
      else s.waiting kind' userid' := by
  cases granted : s.db.outcomes 0 with
  | false =>
      rw [execute_denied granted]
      simp [waiting]
  | true =>
      rw [execute_granted granted rfl]
      by_cases same : kind' = kind ∧ userid' = userid
      · obtain ⟨rfl, rfl⟩ := same
        simp [waiting, offlineRows]
      · have other : ¬ (userid = userid' ∧ kind.code = kind'.code) := by
          intro both
          exact same ⟨OfflineKind.code_injective both.2.symm, both.1.symm⟩
        simp [waiting, offlineRows, same, other]

/-- What a `DELETE` does to each queue. -/
theorem waiting_delete (kind kind' : OfflineKind) (userid userid' : Int) (s : Store) :
    (s.execute (.deleteOfflineMsg userid kind.code)).2.waiting kind' userid' =
      if s.db.outcomes 0 = true ∧ kind' = kind ∧ userid' = userid then []
      else s.waiting kind' userid' := by
  cases granted : s.db.outcomes 0 with
  | false =>
      rw [execute_denied granted]
      simp [waiting]
  | true =>
      rw [execute_granted granted rfl]
      by_cases same : kind' = kind ∧ userid' = userid
      · obtain ⟨rfl, rfl⟩ := same
        simp [waiting, offlineRows]
      · have other : ¬ (userid' = userid ∧ kind'.code = kind.code) := by
          intro both
          exact same ⟨OfflineKind.code_injective both.2, both.1⟩
        simp only [waiting, offlineRows, same, and_false, if_false, List.filter_filter]
        congr 1
        apply List.filter_congr
        intro row _
        by_cases isOther : row.userid = userid' ∧ row.msgtype = kind'.code
        · simp [isOther, not_and_or.mp other]
        · simp only [isOther]
          simp

/-- What a fetch returns: everything that waits, or nothing when its `SELECT`
fails. -/
theorem fetchAndDeleteOfflineMsg_fst (kind : OfflineKind) (userid : Int) (s : Store) :
    (s.fetchAndDeleteOfflineMsg kind userid).1 =
      if s.db.outcomes 0 = true then s.waiting kind userid else [] := by
  rw [fetchAndDeleteOfflineMsg_eq]
  by_cases granted : s.db.outcomes 0 = true
  · by_cases found : s.waiting kind userid = []
    · simp [found]
    · simp [granted, found]
  · simp [granted]

/-- What a fetch does to each queue. -/
theorem waiting_fetch (kind kind' : OfflineKind) (userid userid' : Int) (s : Store) :
    (s.fetchAndDeleteOfflineMsg kind userid).2.waiting kind' userid' =
      if s.db.outcomes 0 = true ∧ s.db.outcomes 1 = true ∧ kind' = kind ∧ userid' = userid then []
      else s.waiting kind' userid' := by
  have deleted := waiting_delete kind kind' userid userid' { s with db := s.db.advance }
  have unchanged : waiting kind' userid' { s with db := s.db.advance } =
      s.waiting kind' userid' := rfl
  rw [fetchAndDeleteOfflineMsg_eq]
  by_cases granted : s.db.outcomes 0 = true
  · by_cases found : s.waiting kind userid = []
    · rw [if_neg (fun both => both.2 found), unchanged]
      split
      · rename_i same
        rw [same.2.2.1, same.2.2.2, found]
      · rfl
    · rw [if_pos ⟨granted, found⟩, deleted, unchanged]
      simp [granted]
  · rw [if_neg (fun both => granted both.1), unchanged]
    simp [granted]

/-- All statements to come succeed. -/
def Granting (s : Store) : Prop :=
  ∀ n, s.db.outcomes n = true

theorem Granting.advance (granting : s.Granting) : Granting { s with db := s.db.advance } :=
  fun n => granting (n + 1)

theorem Granting.execute (granting : s.Granting) (stmt : Stmt) : (s.execute stmt).2.Granting := by
  rcases execute_cases stmt s with failed | ⟨-, tables, -, succeeded⟩
  · rw [failed]
    exact granting.advance
  · rw [succeeded]
    exact fun n => granting (n + 1)

theorem Granting.fetch (granting : s.Granting) (kind : OfflineKind) (userid : Int) :
    (s.fetchAndDeleteOfflineMsg kind userid).2.Granting := by
  rw [fetchAndDeleteOfflineMsg_eq]
  split
  · exact granting.advance.execute _
  · exact granting.advance

end Store

end AimServer
