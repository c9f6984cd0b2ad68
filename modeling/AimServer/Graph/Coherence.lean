import AimServer.Session.Identity

/-!
Contract: what always holds between the cache, the tables and the sessions.

Owns: the cache knows only what the tables know, every session acts as a
cached account, and group ids lie above the boundary, in every state of every
run.

These invariants need no condition on the run; the results about groups and
requests use them.
-/

namespace AimServer

open AimServer.Lib

namespace Graph

/-- What the cache holds, the tables hold too. -/
structure Coherent (g : Graph) : Prop where
  cached : ∀ id owner, g.cached id = some owner → g.account id = some owner
  friend : ∀ a b, g.friend a b → (g.cached a).isSome ∧ g.Related a b
  admin : ∀ a b, g.admin a b → g.appointed a b

/-- Every operation keeps the cache within the tables, if an account is only
enrolled under a new id. -/
theorem Coherent.apply {g : Graph} (coherent : g.Coherent) (op : GraphOp)
    (fresh : ∀ id owner, op = .enrol id owner → g.account id = none) :
    (op.apply g).Coherent := by
  obtain ⟨cached, friend, admin⟩ := coherent
  cases op with
  | enrol id owner =>
      have isNew := fresh id owner rfl
      refine ⟨?_, ?_, admin⟩
      · intro k known isKnown
        simp only [GraphOp.apply, enrol, Option.or_eq_some_iff] at isKnown ⊢
        rcases isKnown with old | ⟨-, new⟩
        · exact Or.inl (cached k known old)
        · split at new
          · rename_i same
            subst same
            exact Or.inr ⟨isNew, by simpa using new⟩
          · cases new
      · intro a b isFriend
        obtain ⟨known, related⟩ := friend a b isFriend
        refine ⟨?_, related⟩
        simp [GraphOp.apply, enrol, known]
  | link small great =>
      refine ⟨cached, ?_, admin⟩
      intro a b isFriend
      rcases isFriend with old | ⟨-, known, same⟩
      · exact ⟨(friend a b old).1, related_link.mpr (Or.inl (friend a b old).2)⟩
      · exact ⟨known, related_link.mpr (Or.inr same)⟩
  | unlink small great =>
      refine ⟨cached, ?_, admin⟩
      intro a b isFriend
      obtain ⟨old, other⟩ := isFriend
      exact ⟨(friend a b old).1, related_unlink other (friend a b old).2⟩
  | appoint group member =>
      refine ⟨cached, friend, ?_⟩
      intro a b isAdmin
      rcases isAdmin with old | ⟨-, same⟩
      · exact Or.inl (admin a b old)
      · exact Or.inr same
  | dismiss group member =>
      refine ⟨cached, friend, ?_⟩
      intro a b isAdmin
      obtain ⟨old, other⟩ := isAdmin
      exact ⟨admin a b old, other⟩
  | ask key row => exact ⟨cached, friend, admin⟩
  | decide key status => exact ⟨cached, friend, admin⟩

/-- Operations of which only the first may enrol. -/
theorem Coherent.perform {g : Graph} (coherent : g.Coherent) {op : GraphOp}
    {rest : List GraphOp} (fresh : ∀ id owner, op = .enrol id owner → g.account id = none)
    (noneLater : ∀ id owner, GraphOp.enrol id owner ∉ rest) :
    (g.perform (op :: rest)).Coherent := by
  induction rest generalizing g op with
  | nil => exact coherent.apply op fresh
  | cons next rest inductionHypothesis =>
      refine inductionHypothesis (coherent.apply op fresh) ?_ ?_
      · rintro id owner rfl
        exact absurd List.mem_cons_self (noneLater id owner)
      · intro id owner member
        exact noneLater id owner (List.mem_cons_of_mem _ member)

theorem Coherent.reload {g : Graph} (relationshipOk adminsOk : Int → Bool) :
    (g.reload relationshipOk adminsOk).Coherent :=
  ⟨fun _ _ known => known, fun _ _ friend => ⟨friend.1, friend.2.2⟩, fun _ _ admin => admin.2.2.2⟩

end Graph

/-- Every effect of a handler keeps the cache within the tables: only its
first operation may enrol, and then under a new id. -/
theorem Effect.coherent {pb : ImProto} {s : ClientSession} {msg : MessageContainer}
    {store : Store} {type : MsgType} {ops : List GraphOp}
    (effect : Effect pb s msg store type ops) (coherent : store.graph.Coherent) :
    (store.graph.perform ops).Coherent := by
  have enrolled : ∀ {new owner : Int}, store.graph.account new = none →
      ∀ id other, GraphOp.enrol new owner = .enrol id other → store.graph.account id = none := by
    intro new owner fresh id other same
    cases same
    exact fresh
  cases effect with
  | quiet => exact coherent
  | register fresh => exact coherent.perform (enrolled fresh) (by simp)
  | createGroupAlone _ _ _ _ fresh => exact coherent.perform (enrolled fresh) (by simp)
  | createGroup _ _ _ _ fresh => exact coherent.perform (enrolled fresh) (by simp)
  | _ => exact coherent.perform (by simp) (by simp)

/-! ### Every run -/

namespace World

variable {pb : ImProto} {w : World} {label : Step}

/-- The server-wide invariants. -/
structure Sound (w : World) : Prop where
  coherent : w.store.graph.Coherent
  registered : ∀ conn user, w.userOn conn = some user →
    (w.store.graph.cached user.userid).isSome
  groupBase : groupIdBoundary ≤ w.store.baseGroupID
  userBase : 0 ≤ w.store.baseUserID

theorem coherent_step (coherent : w.store.graph.Coherent) :
    (w.step pb label).store.graph.Coherent := by
  rcases step_effect pb w label with ⟨loads, -, restarted⟩ | ⟨ops, effect, follows⟩
  · rw [graph_restart restarted]
    exact .reload _ _
  · rw [follows.graph]
    cases effect with
    | idle => exact coherent
    | handled reached effect => exact effect.coherent coherent

/-- Accounts keep their owner, also through a restart. -/
theorem account_step {id owner : Int} (known : w.store.graph.account id = some owner) :
    (w.step pb label).store.graph.account id = some owner := by
  rcases step_effect pb w label with ⟨loads, -, restarted⟩ | ⟨ops, -, follows⟩
  · rw [graph_restart restarted]
    exact known
  · rw [follows.graph]
    exact Graph.account_perform known

/-- Outside a restart no record disappears. -/
theorem cached_step {id : Int} (running : ∀ loads, label.event ≠ .restart loads)
    (known : (w.store.graph.cached id).isSome) :
    ((w.step pb label).store.graph.cached id).isSome := by
  obtain ⟨owner, isOwner⟩ := Option.isSome_iff_exists.mp known
  rcases step_effect pb w label with ⟨loads, event, -⟩ | ⟨ops, -, follows⟩
  · exact absurd event (running loads)
  · rw [follows.graph, Graph.cached_perform isOwner]
    rfl

theorem cached_of_getUserInfoUsername {name : Bytes} {user : User}
    (found : w.store.getUserInfoUsername name = some user) :
    (w.store.graph.cached user.userid).isSome := by
  rw [Store.cached_isSome, Store.getUserByID, lookup_isSome_iff]
  exact List.mem_map_of_mem (List.mem_of_find?_eq_some found)

theorem registered_step
    (registered : ∀ conn user, w.userOn conn = some user →
      (w.store.graph.cached user.userid).isSome) :
    ∀ conn user, (w.step pb label).userOn conn = some user →
      ((w.step pb label).store.graph.cached user.userid).isSome := by
  intro conn user signedIn
  by_cases restarts : ∃ loads, label.event = .restart loads
  · obtain ⟨loads, event⟩ := restarts
    simp [step, event, restart, userOn, session?, lookup] at signedIn
  · have running : ∀ loads, label.event ≠ .restart loads := fun loads event =>
      restarts ⟨loads, event⟩
    apply cached_step running
    have turns := step_turns pb w label conn
    rw [signedIn] at turns
    generalize after : some user = account at turns
    cases turns with
    | gone => cases after
    | kept => exact registered conn user after.symm
    | edited _ before same =>
        cases after
        rw [same]
        exact registered conn _ before
    | named _ _ _ _ found same =>
        cases after
        rw [same]
        exact cached_of_getUserInfoUsername found

theorem Sound.step (sound : w.Sound) : (w.step pb label).Sound :=
  ⟨coherent_step sound.coherent, registered_step sound.registered,
    groupBase_step sound.groupBase, userBase_step sound.userBase⟩

theorem sound_boot (tables : Tables) : (boot tables).Sound := by
  refine ⟨?_, ?_, Store.groupIdBoundary_le_init _ _, Store.zero_le_init _ _⟩
  · have loaded := Store.graph_init .allOk
      (Store.init .allOk ⟨tables, fun _ => true, 0⟩)
    rw [show (boot tables).store.graph = _ from loaded]
    exact .reload _ _
  · intro conn user signedIn
    cases signedIn

/-- Every state of every run is sound. -/
theorem sound_run (pb : ImProto) {start : World} (steps : List Step) (sound : start.Sound) :
    (runFrom pb start steps).Sound := by
  induction steps generalizing start with
  | nil => exact sound
  | cons label rest inductionHypothesis => exact inductionHypothesis sound.step

end World

end AimServer
