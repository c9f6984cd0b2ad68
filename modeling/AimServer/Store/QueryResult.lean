import AimServer.Bytes

/-!
Contract: `QueryResult` over a stored result of MySQL.

Owns: `Field`, result sets with their columns, the handle of a stored result
with the rows that are left in it and how often it was freed, the operations of
`QueryResult`, and the loop of all loaders.

Does not own: `operator[]` by name and the conversions of a field's text.
-/

namespace AimServer.Mysql

/-- `Field::DataTypes`. -/
inductive DataType where
  | none
  | string
  | integer
  | float
  | bool
  | null
deriving DecidableEq, Repr

/-- `enum_field_types`, as far as `toType` names them. -/
inductive ColumnType where
  | timestamp
  | date
  | time
  | datetime
  | year
  | string
  | varString
  | blob
  | set
  | null
  | tiny
  | short
  | long
  | longlong
  | int24
  | enum
  | float
  | double
  | other
deriving DecidableEq, Repr

def toType : ColumnType → DataType
  | .timestamp | .date | .time | .datetime | .year | .string | .varString | .blob | .set => .string
  | .null => .null
  | .tiny | .short | .long | .longlong | .int24 | .enum => .integer
  | .float | .double => .float
  | .other => .none

/-! ### Fields -/

structure Field where
  value : Bytes
  name : Bytes
  type : DataType
  isNull : Bool
deriving DecidableEq, Repr

namespace Field

def new : Field := ⟨[], [], .none, true⟩

def setType (tp : DataType) (f : Field) : Field := { f with type := tp }

def setName (name : Bytes) (f : Field) : Field := { f with name }

/-- `SetValue`; a null pointer is `none`. -/
def setValue (value : Option Bytes) (f : Field) : Field :=
  match value with
  | none | some [] => { f with isNull := true, value := [] }
  | some (c :: rest) => { f with value := c :: rest, isNull := false }

end Field

/-! ### Result sets -/

/-- `MYSQL_FIELD`. -/
structure Column where
  name : Bytes
  type : ColumnType
deriving DecidableEq, Repr

/-- `MYSQL_ROW` with its lengths; NULL is `none`. -/
abbrev Row := List (Option Bytes)

/-- The answer to a query that has one. -/
structure ResultSet where
  columns : List Column
  rows : List Row
  nonempty : columns ≠ []
  width : ∀ row ∈ rows, row.length = columns.length

/-- `MYSQL_RES`: the rows that are left, and how often it was freed. -/
structure Res where
  left : List Row
  freed : Nat
deriving DecidableEq, Repr

namespace Res

/-- `mysql_fetch_row`. -/
def fetchRow (res : Res) : Option Row × Res :=
  match res.left with
  | [] => (none, res)
  | row :: left => (some row, { res with left })

/-- `mysql_free_result`. -/
def free (res : Res) : Res := { res with freed := res.freed + 1 }

end Res

/-! ### `QueryResult` -/

/-- `result` tells whether `m_result` points to the handle. -/
structure QueryResult where
  currentRow : List Field
  fieldName : List Bytes
  result : Bool
  rowcount : Nat
  columncount : Nat
  res : Res
deriving DecidableEq, Repr

namespace QueryResult

def endQuery (q : QueryResult) : QueryResult where
  currentRow := []
  fieldName := []
  result := false
  rowcount := 0
  columncount := 0
  res := if q.result then q.res.free else q.res

/-- The constructor, which reads the first row. -/
def new (set : ResultSet) (rowcount : Nat) : QueryResult :=
  let columncount := set.columns.length
  let q : QueryResult :=
    ⟨List.replicate columncount .new, List.replicate columncount [], true, rowcount, columncount,
      ⟨set.rows, 0⟩⟩
  match q.res.fetchRow with
  | (none, res) => endQuery { q with res }
  | (some row, res) =>
      { q with
        res
        fieldName := set.columns.map Column.name
        currentRow := List.zipWith
          (fun field (value : Column × Option Bytes) =>
            ((field.setType (toType value.1.type)).setName value.1.name).setValue value.2)
          q.currentRow (set.columns.zip row) }

/-- `Fetch`; no fields are the null pointer. -/
def fetch (q : QueryResult) : Option (List Field) :=
  if q.currentRow = [] then none else some q.currentRow

def nextRow (q : QueryResult) : Bool × QueryResult :=
  if q.result then
    match q.res.fetchRow with
    | (none, res) => (false, endQuery { q with res })
    | (some row, res) =>
        (true, { q with res, currentRow := List.zipWith Field.setValue row q.currentRow })
  else (false, q)

section Loop

variable {σ : Type}

/-- The loop of the loaders, `body` being what one does with the fields of a row. -/
def readRows (body : σ → List Field → σ) : Nat → σ → QueryResult → Option (σ × QueryResult)
  | 0, _, _ => none
  | fuel + 1, out, q =>
      match q.fetch with
      | none => some (out, q)
      | some row =>
          match q.nextRow with
          | (false, q) => some (body out row, q)
          | (true, q) => readRows body fuel (body out row) q

end Loop

end QueryResult

end AimServer.Mysql
