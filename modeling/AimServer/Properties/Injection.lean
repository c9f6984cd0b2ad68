import AimServer.Persist.WriteCalls

/-!
Contract: strings of clients in SQL text.

Owns: the theorem that the text of each of the seven writing methods is read
as the statement the method means, whatever bytes its strings hold, or is
rejected because a NUL byte left a literal open.

Does not own: the round trip of a statement in general, which
`Persist.Statement` proves for every table, column and value.
-/

namespace AimServer

open AimServer.Lib

namespace WriteCall

/-- A text that ends inside a literal is rejected and changes no row. -/
theorem executeText_rejected {sql : Bytes} (unclosed : Sql.scan (cStr sql) = none) (db : MySql) :
    db.executeText sql = (false, db.advance) := by
  unfold MySql.executeText
  rw [unclosed]
  rfl

/-- A text that reads as the call's statement does what the account store does
for the call. -/
theorem executeText_read {call : WriteCall}
    (read : (Sql.scan (cStr call.sql)).bind readStatement = some call.statement) (db : MySql) :
    db.executeText call.sql = db.execute (call.stmt db.clock) := by
  unfold MySql.executeText
  rw [read, Option.bind_some, call.statement_stmt]

end WriteCall

/-- Whatever bytes the strings hold, MySQL reads the call's own statement with
those strings and numbers, or it finds a literal open at the end of the text
and changes nothing. -/
theorem client_strings_keep_statement (call : WriteCall) :
    (Sql.scan (cStr call.sql) = none ∧ call.HoldsNul ∧
        ∀ db : MySql, db.executeText call.sql = (false, db.advance)) ∨
      ((Sql.scan (cStr call.sql)).bind readStatement = some call.statement ∧
        ∀ db : MySql, db.executeText call.sql = db.execute (call.stmt db.clock)) := by
  have scanned := call.scan_sql
  by_cases nul : 0 ∈ call.sql
  · rw [if_pos nul] at scanned
    exact Or.inl ⟨scanned, WriteCall.holdsNul nul, WriteCall.executeText_rejected scanned⟩
  · rw [if_neg nul] at scanned
    have read : (Sql.scan (cStr call.sql)).bind readStatement = some call.statement := by
      rw [scanned, Option.bind_some, call.readStatement_tokens]
    exact Or.inr ⟨read, WriteCall.executeText_read read⟩

end AimServer
