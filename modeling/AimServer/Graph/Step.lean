import AimServer.Graph.Handlers

/-!
Contract: what one step of the server can do to the social graph.

Owns: the theorem that a step is a restart or has one of the listed effects.

Every result about relationships, administrators and requests starts from
here; no later proof opens a handler for them.
-/

namespace AimServer

open AimServer.Lib

/-- The graph operations of a step that is no restart. -/
inductive StepEffect (pb : ImProto) (w : World) (label : Step) : List GraphOp → Prop
  | idle : StepEffect pb w label []
  | handled {type : MsgType} {s : ClientSession} {msg : MessageContainer} {ops : List GraphOp}
      (reached : w.dispatched label = some (type, s, msg))
      (effect : Effect pb s msg (w.withEnv label.env).store type ops) :
      StepEffect pb w label ops

namespace World

variable {pb : ImProto} {w : World} {label : Step}

@[simp] theorem withEnv_graph (env : Env) : (w.withEnv env).store.graph = w.store.graph :=
  Store.graph_db (.refl _)

@[simp] theorem withEnv_outcomes (env : Env) (n : Nat) :
    (w.withEnv env).store.db.outcomes n = env.sql n := rfl

@[simp] theorem withEnv_tables (env : Env) :
    (w.withEnv env).store.db.tables = w.store.db.tables := rfl

@[simp] theorem withEnv_baseGroupID (env : Env) :
    (w.withEnv env).store.baseGroupID = w.store.baseGroupID := rfl

@[simp] theorem withEnv_baseUserID (env : Env) :
    (w.withEnv env).store.baseUserID = w.store.baseUserID := rfl

theorem withEnv_follows (env : Env) : Store.Follows [] w.store (w.withEnv env).store :=
  ⟨withEnv_graph env, le_refl _, le_refl _⟩

theorem dispatched_session {type : MsgType} {s : ClientSession} {msg : MessageContainer}
    (reached : w.dispatched label = some (type, s, msg)) :
    w.fault = none ∧ label.event = .frame s.conn msg ∧ MsgType.ofCmd msg.cmd = some type ∧
      ∃ before, w.session? s.conn = some before ∧ s = { before with seq := msg.seq } := by
  unfold dispatched at reached
  split at reached
  · rename_i conn frame isFrame
    split at reached
    · cases reached
    rename_i live
    split at reached
    · rename_i before command found known
      simp only [Option.some.injEq, Prod.mk.injEq] at reached
      obtain ⟨rfl, rfl, rfl⟩ := reached
      have key : before.conn = conn := lookup_key found
      refine ⟨by simpa using live, by rw [isFrame, key], known, before, ?_, rfl⟩
      simpa [key] using found
    · cases reached
  · cases reached

/-- A dispatched step runs the handler on the session with the new sequence
number. -/
theorem step_of_dispatched (pb : ImProto) {type : MsgType} {s : ClientSession}
    {msg : MessageContainer} (reached : w.dispatched label = some (type, s, msg)) :
    w.step pb label = ((w.withEnv label.env).setSession s).handle pb type s msg := by
  obtain ⟨live, event, command, before, found, rfl⟩ := dispatched_session reached
  have same : (w.withEnv label.env).session? before.conn = some before := found
  have running : (w.withEnv label.env).fault = none := live
  unfold step
  rw [event]
  simp only [running, perform, onMessageReceived, same, command, Option.isSome_none,
    Bool.false_eq_true, if_false]

/-- A step that reaches no handler and is no restart leaves the store. -/
theorem step_store_of_not_dispatched (unreached : w.dispatched label = none)
    (running : ∀ loads, label.event ≠ .restart loads) :
    (w.step pb label).store = (w.withEnv label.env).store := by
  unfold step
  split
  · rename_i loads event
    exact absurd event (running loads)
  · dsimp only
    split
    · rfl
    rename_i live
    cases event : label.event with
    | connect conn =>
        simp only [perform, onConnection]
        split <;> rfl
    | close conn => rfl
    | frame conn msg =>
        simp only [perform, onMessageReceived]
        unfold dispatched at unreached
        have notFaulty : ¬ w.fault.isSome = true := live
        have sameSession : (w.withEnv label.env).session? conn = w.session? conn := rfl
        rw [sameSession]
        simp only [event, if_neg notFaulty] at unreached
        split
        · rfl
        · rename_i before found
          rw [found] at unreached
          cases command : MsgType.ofCmd msg.cmd with
          | none => rfl
          | some type => simp [command] at unreached
    | agentReply conn ok reply =>
        simp only [perform, onAgentReply]
        split
        · split
          · rfl
          · split <;> rfl
        · rfl
    | restart loads => exact absurd event (running loads)

/-- A step is a restart, or its effect is one of the listed ones. -/
theorem step_effect (pb : ImProto) (w : World) (label : Step) :
    (∃ loads, label.event = .restart loads ∧
        (w.step pb label).store = Store.init loads (w.withEnv label.env).store.db) ∨
      ∃ ops, StepEffect pb w label ops ∧ Store.Follows ops w.store (w.step pb label).store := by
  by_cases restarts : ∃ loads, label.event = .restart loads
  · obtain ⟨loads, event⟩ := restarts
    refine Or.inl ⟨loads, event, ?_⟩
    simp [step, event, restart]
  · refine Or.inr ?_
    cases reached : w.dispatched label with
    | none =>
        refine ⟨[], .idle, ?_⟩
        rw [step_store_of_not_dispatched reached fun loads event => restarts ⟨loads, event⟩]
        exact withEnv_follows _
    | some target =>
        obtain ⟨type, s, msg⟩ := target
        rw [step_of_dispatched pb reached]
        obtain ⟨ops, effect, follows⟩ :=
          handle_acts pb type s msg ((w.withEnv label.env).setSession s)
        exact ⟨ops, .handled reached effect, (withEnv_follows _).trans follows⟩

/-- Group ids handed out by a server that started with `init()` lie above the
boundary. -/
theorem groupBase_step (bound : groupIdBoundary ≤ w.store.baseGroupID) :
    groupIdBoundary ≤ (w.step pb label).store.baseGroupID := by
  rcases step_effect pb w label with ⟨loads, -, restarted⟩ | ⟨ops, -, follows⟩
  · rw [restarted]
    exact Store.groupIdBoundary_le_init _ _
  · exact bound.trans follows.groupBase

/-- User ids handed out are positive. -/
theorem userBase_step (bound : 0 ≤ w.store.baseUserID) :
    0 ≤ (w.step pb label).store.baseUserID := by
  rcases step_effect pb w label with ⟨loads, -, restarted⟩ | ⟨ops, -, follows⟩
  · rw [restarted]
    exact Store.zero_le_init _ _
  · exact bound.trans follows.userBase

theorem graph_restart {loads : Store.LoadOutcome}
    (restarted : (w.step pb label).store = Store.init loads (w.withEnv label.env).store.db) :
    (w.step pb label).store.graph =
      w.store.graph.reload loads.relationshipOk loads.adminsOk := by
  rw [restarted, Store.graph_init, withEnv_graph]

theorem graph_of_restart_event {loads : Store.LoadOutcome} (event : label.event = .restart loads) :
    (w.step pb label).store.graph =
      w.store.graph.reload loads.relationshipOk loads.adminsOk :=
  graph_restart (by simp [step, event, restart])

end World

end AimServer
