import AimServer.Store.OfflineQueue
import AimServer.Store.QueryResult

/-!
Contract: the loaders read each row of a result set once.

Owns: the fields of a row, what the constructor and `NextRow` leave, the run of
the loop over any result set, and the rows of the offline queue as one.

The loop carries that the fields shown are those of one row and the rows after
it are left in the handle, which is not freed.
-/

namespace AimServer.Mysql

/-! ### Fields of a row -/

/-- The field of a value: NULL and an empty text are the empty text. -/
def fieldOf (column : Column) (value : Option Bytes) : Field :=
  ⟨value.getD [], column.name, toType column.type, value.getD [] = []⟩

def ResultSet.fieldsOf (set : ResultSet) (row : Row) : List Field :=
  List.zipWith fieldOf set.columns row

/-- Nothing of the field before is left but its name and its type. -/
theorem setValue_eq {field : Field} {column : Column} (named : field.name = column.name)
    (typed : field.type = toType column.type) (value : Option Bytes) :
    field.setValue value = fieldOf column value := by
  obtain ⟨old, name, type, isNull⟩ := field
  dsimp only at named typed
  subst named
  subst typed
  unfold Field.setValue fieldOf
  match value with
  | none => simp
  | some [] => simp
  | some (c :: rest) => simp

theorem zipWith_setValue {columns : List Column} {old row : Row}
    (width : old.length = columns.length) :
    List.zipWith Field.setValue row (List.zipWith fieldOf columns old) =
      List.zipWith fieldOf columns row := by
  induction columns generalizing old row with
  | nil => simp
  | cons column columns inductionHypothesis =>
      cases old with
      | nil => cases width
      | cons before old =>
          cases row with
          | nil => simp
          | cons value row =>
              rw [List.zipWith_cons_cons, List.zipWith_cons_cons, List.zipWith_cons_cons,
                inductionHypothesis (Nat.succ.inj width)]
              rw [@setValue_eq (fieldOf column before) column rfl rfl]

theorem zipWith_new (columns : List Column) (row : Row) :
    List.zipWith
        (fun field (value : Column × Option Bytes) =>
          ((field.setType (toType value.1.type)).setName value.1.name).setValue value.2)
        (List.replicate columns.length Field.new) (columns.zip row) =
      List.zipWith fieldOf columns row := by
  induction columns generalizing row with
  | nil => rfl
  | cons column columns inductionHypothesis =>
      cases row with
      | nil => rfl
      | cons value row =>
          rw [List.length_cons, List.replicate_succ, List.zip_cons_cons, List.zipWith_cons_cons,
            List.zipWith_cons_cons, inductionHypothesis]
          rw [@setValue_eq ((Field.new.setType (toType column.type)).setName column.name) column
            rfl rfl]

namespace ResultSet

variable (set : ResultSet) {row : Row}

theorem fieldsOf_ne_nil (width : row.length = set.columns.length) : set.fieldsOf row ≠ [] := by
  have full := List.length_pos_iff.mpr set.nonempty
  apply List.ne_nil_of_length_pos
  rw [fieldsOf, List.length_zipWith, width, Nat.min_self]
  exact full

/-- A row is read as its texts. -/
theorem values_fieldsOf (width : row.length = set.columns.length) :
    (set.fieldsOf row).map Field.value = row.map fun value => value.getD [] := by
  unfold fieldsOf
  generalize set.columns = columns at width
  induction columns generalizing row with
  | nil =>
      rw [List.eq_nil_of_length_eq_zero width]
      rfl
  | cons column columns inductionHypothesis =>
      cases row with
      | nil => cases width
      | cons value row =>
          rw [List.zipWith_cons_cons, List.map_cons, inductionHypothesis (Nat.succ.inj width)]
          rfl

end ResultSet

namespace QueryResult

variable {set : ResultSet} {rowcount : Nat} {row : Row} {left : List Row} {q : QueryResult}

/-! ### States of the cursor -/

/-- The state after the last row. -/
def ended : QueryResult := ⟨[], [], false, 0, 0, ⟨[], 1⟩⟩

/-- A row is shown, and so many are left in the handle. -/
structure Shows (set : ResultSet) (row : Row) (left : List Row) (q : QueryResult) : Prop where
  width : row.length = set.columns.length
  shown : q.currentRow = set.fieldsOf row
  points : q.result = true
  res : q.res = ⟨left, 0⟩

theorem new_nil (noRows : set.rows = []) : new set rowcount = ended := by
  unfold new
  simp only [noRows]
  rfl

theorem new_cons (isRows : set.rows = row :: left) : Shows set row left (new set rowcount) := by
  have width : row.length = set.columns.length :=
    set.width row (isRows ▸ List.mem_cons_self)
  unfold new
  simp only [isRows]
  exact ⟨width, zipWith_new set.columns row, rfl, rfl⟩

theorem Shows.fetch (shows : Shows set row left q) : q.fetch = some (set.fieldsOf row) := by
  rw [QueryResult.fetch, shows.shown, if_neg (set.fieldsOf_ne_nil shows.width)]

theorem Shows.nextRow_nil (shows : Shows set row [] q) : q.nextRow = (false, ended) := by
  unfold QueryResult.nextRow
  rw [if_pos shows.points, shows.res]
  dsimp only [Res.fetchRow]
  rw [endQuery]
  simp only [shows.points]
  rfl

theorem Shows.nextRow_cons {next : Row} (shows : Shows set row (next :: left) q)
    (width : next.length = set.columns.length) :
    ∃ moved, q.nextRow = (true, moved) ∧ Shows set next left moved := by
  unfold QueryResult.nextRow
  rw [if_pos shows.points, shows.res]
  refine ⟨_, rfl, width, ?_, shows.points, rfl⟩
  dsimp only
  rw [shows.shown]
  exact zipWith_setValue shows.width

/-! ### The loop -/

section Loop

variable {σ : Type} (body : σ → List Field → σ)

/-- From a row on, that row and all that are left are read. -/
theorem Shows.readRows (shows : Shows set row left q)
    (width : ∀ next ∈ left, next.length = set.columns.length) (out : σ) (extra : Nat) :
    q.readRows body (left.length + 1 + extra) out =
      some ((row :: left).foldl (fun out row => body out (set.fieldsOf row)) out, ended) := by
  induction left generalizing row q out with
  | nil =>
      rw [List.length_nil, Nat.zero_add, Nat.add_comm, QueryResult.readRows, shows.fetch,
        shows.nextRow_nil]
      rfl
  | cons next left inductionHypothesis =>
      obtain ⟨moved, isMoved, showsNext⟩ := shows.nextRow_cons (width next List.mem_cons_self)
      have fuel : (next :: left).length + 1 + extra = left.length + 1 + extra + 1 := by
        rw [List.length_cons]
        omega
      rw [fuel, QueryResult.readRows, shows.fetch, isMoved]
      dsimp only
      rw [inductionHypothesis showsNext fun other member =>
        width other (List.mem_cons_of_mem _ member)]
      rfl

/-- The loop reads each row of the result set once, in order. -/
theorem readRows_new (set : ResultSet) (rowcount : Nat) (out : σ) (extra : Nat) :
    (new set rowcount).readRows body (set.rows.length + 1 + extra) out =
      some (set.rows.foldl (fun out row => body out (set.fieldsOf row)) out, ended) := by
  cases isRows : set.rows with
  | nil =>
      rw [new_nil isRows, List.length_nil, Nat.zero_add, Nat.add_comm]
      rfl
  | cons row left =>
      have fuel : (row :: left).length + 1 + extra = left.length + 1 + (extra + 1) := by
        rw [List.length_cons]
        omega
      rw [fuel]
      apply (new_cons isRows).readRows
      intro next member
      exact set.width next (isRows ▸ List.mem_cons_of_mem _ member)

/-- With a step for each row and one more the loop is over. It has read the fields of
each row of the result set, in order and once, where NULL and the empty text are the
empty text whatever came before. The result was freed once, nothing is shown any
more, and ending the query again does nothing. -/
theorem rows_read_once (set : ResultSet) (rowcount : Nat) (out : σ) (extra : Nat) :
    ∃ q, (new set rowcount).readRows body (set.rows.length + 1 + extra) out =
        some (set.rows.foldl (fun out row => body out (set.fieldsOf row)) out, q) ∧
      (∀ row ∈ set.rows,
        (set.fieldsOf row).map Field.value = row.map fun value => value.getD []) ∧
      q.res = ⟨[], 1⟩ ∧ q.fetch = none ∧ q.nextRow = (false, q) ∧ q.endQuery = q :=
  ⟨ended, readRows_new body set rowcount out extra,
    fun row member => set.values_fieldsOf (set.width row member), rfl, rfl, rfl, rfl⟩

end Loop

/-! ### The offline queue -/

/-- The loop that collects is the one over the plain cursor of the rows. -/
theorem readRows_eq_readAll {α : Type} (read : List Field → α) (set : ResultSet)
    (rowcount : Nat) (out : List α) (extra : Nat) :
    (new set rowcount).readRows (fun out fields => out ++ [read fields])
        (set.rows.length + 1 + extra) out =
      some (AimServer.QueryResult.readAll read (.ofRows (set.rows.map set.fieldsOf)) out,
        ended) := by
  rw [readRows_new, AimServer.QueryResult.readAll_ofRows, List.map_map]
  congr 2
  generalize set.rows = rows
  induction rows generalizing out with
  | nil => simp
  | cons row rows inductionHypothesis =>
      rw [List.foldl_cons, inductionHypothesis, List.map_cons, List.append_assoc]
      rfl

/-- The answer to the `SELECT` of `FetchAndDeleteOfflineMsg`. -/
def offlineSet (kind : OfflineKind) (userid : Int) (t : Tables) : ResultSet where
  columns := [⟨str "HEX(f_content)", .varString⟩]
  rows := (Store.offlineRows kind userid t).map fun row => [some (toHex row.content)]
  nonempty := List.cons_ne_nil _ _
  width := by
    intro row member
    obtain ⟨stored, -, rfl⟩ := List.mem_map.mp member
    rfl

/-- Its loop reads what waits for the user. -/
theorem readRows_offlineSet (kind : OfflineKind) (userid : Int) (s : Store) (rowcount : Nat)
    (extra : Nat) :
    let set := offlineSet kind userid s.db.tables
    (new set rowcount).readRows
        (fun out fields => out ++ [fromHex (fields.getD 0 Field.new).value])
        (set.rows.length + 1 + extra) [] =
      some (s.waiting kind userid, ended) := by
  intro set
  rw [readRows_eq_readAll fun fields => fromHex (fields.getD 0 Field.new).value,
    AimServer.QueryResult.readAll_ofRows, List.nil_append, List.map_map]
  congr 2
  show ((Store.offlineRows kind userid s.db.tables).map _).map _ = _
  rw [List.map_map]
  apply List.map_congr_left
  intro row _
  exact fromHex_toHex row.content

end QueryResult

end AimServer.Mysql
