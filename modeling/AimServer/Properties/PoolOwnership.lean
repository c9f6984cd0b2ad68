import AimServer.Store.Pool

/-!
Contract: the connection pool under any interleaving of calls.

Proves that the idle connections and the ones in the hands of callers are at
every moment exactly the connections `Init` made, each once; that no two
callers hold the same one; and that all of them are idle once every call has
returned.

A caller is inside `Query` or `Execute` from the moment it waits for a
connection until it gave it back.
-/

namespace AimServer

open AimServer.Lib

namespace ConnectionPool

/-- The connections in `m_pool` after `Init`. -/
def connections (poolSize : Int) : List Nat :=
  List.range (if poolSize < 1 then 1 else poolSize.toNat)

/-- The threads that took a step in a run. -/
def callers (labels : List PoolStep) : List Nat :=
  (labels.map PoolStep.thread).dedup

/-- In every state of a run every connection is idle or in one pair of hands. -/
theorem owns_run (poolSize : Int) (tables : Tables) (labels : List PoolStep) :
    (Lib.run step (init poolSize tables) labels).lending.Owns (connections poolSize) := by
  refine run_keeps (fun pool : ConnectionPool => pool.lending.Owns (connections poolSize)) ?_ ?_
  · intro pool label owns
    exact owns.moves (step_lends pool label)
  · have allIdle : (init poolSize tables).lending.Owns (connections poolSize).reverse :=
      Lending.owns_of_idle (List.nodup_reverse.mpr List.nodup_range)
    refine ⟨allIdle.toExclusive, ?_⟩
    intro conn
    rw [← List.mem_reverse]
    exact allIdle.accounted conn

/-- A thread that took no step holds nothing. -/
theorem mem_callers {poolSize : Int} {tables : Tables} {labels : List PoolStep} {thread conn : Nat}
    (held : (Lib.run step (init poolSize tables) labels).heldBy thread = some conn) :
    thread ∈ callers labels := by
  by_contra silent
  have different : ∀ label ∈ labels, label.thread ≠ thread := by
    rintro label member rfl
    exact silent (List.mem_dedup.mpr (List.mem_map_of_mem member))
  rw [heldBy, run_threads_other different] at held
  cases held

/-- No connection is lost or used by two callers, and all come back. -/
theorem connections_conserved (poolSize : Int) (tables : Tables) (labels : List PoolStep) :
    let pool := Lib.run step (init poolSize tables) labels
    (pool.idle ++ (callers labels).filterMap pool.heldBy).Perm (connections poolSize) ∧
      (∀ first second conn, pool.heldBy first = some conn → pool.heldBy second = some conn →
        first = second) ∧
      ((∀ thread, pool.threads thread = none) → pool.idle.Perm (connections poolSize)) := by
  intro pool
  have owns : pool.lending.Owns (connections poolSize) := owns_run poolSize tables labels
  have covers : ∀ thread conn, pool.heldBy thread = some conn → thread ∈ callers labels :=
    fun thread conn held => mem_callers held
  have all := owns.perm List.nodup_range (List.nodup_dedup _) covers
  refine ⟨all, owns.single, ?_⟩
  intro returned
  have nobody : (callers labels).filterMap pool.heldBy = [] := by
    refine List.filterMap_eq_nil_iff.mpr ?_
    intro thread _
    rw [heldBy, returned thread]
    rfl
  have idle : (pool.idle ++ (callers labels).filterMap pool.heldBy).Perm
      (connections poolSize) := all
  rw [nobody, List.append_nil] at idle
  exact idle

end ConnectionPool

end AimServer
