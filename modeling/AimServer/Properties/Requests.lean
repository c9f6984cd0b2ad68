import AimServer.Graph.Causes
import AimServer.Properties.Client

/-!
Contract: a request in `t_friend_request` is decided once.

Owns: how the status of a row may move, what one step does to it, the
condition on `HandleRequest` steps under which every run keeps to it, and the
run in which a rejected request is accepted.

`GetFriendRequestById` does not read `f_status` and `OnHandleRequestResponse`
does not ask for it, so a row can be decided as often as its addressee likes.
-/

namespace AimServer

open AimServer.Lib

/-- A status stays, or a pending request is accepted (1) or rejected (2). -/
def StatusMoves (before after : Int) : Prop :=
  after = before ∨ (before = 0 ∧ (after = 1 ∨ after = 2))

theorem StatusMoves.trans {a b c : Int} (first : StatusMoves a b) (second : StatusMoves b c) :
    StatusMoves a c := by
  unfold StatusMoves at *
  omega

/-- A relationship row was written or a friend set grew. -/
def CreatesRelationship (w next : World) : Prop :=
  next.store.db.tables.relationships ≠ w.store.db.tables.relationships ∨
    ∃ a b, next.store.isFriend a b = true ∧ w.store.isFriend a b = false

/-- Between any two states of the run a status moved at most once; a new row
is pending; and a `HandleRequest` that creates a relationship is the step that
accepts its pending row. -/
structure DecidedOnce (pb : ImProto) (start : World) (steps : List Step) : Prop where
  statusOnce : ∀ past rest, steps = past ++ rest → ∀ reqid row,
    (World.runFrom pb start past).request reqid = some row →
      ∃ later, (World.runFrom pb start steps).request reqid = some later ∧
        StatusMoves row.status later.status
  newIsPending : ∀ past label rest, steps = past ++ label :: rest → ∀ reqid row,
    (World.runFrom pb start past).request reqid = none →
    (World.runFrom pb start (past ++ [label])).request reqid = some row → row.status = 0
  linksWhenAccepted : ∀ past label rest, steps = past ++ label :: rest → ∀ ask,
    (World.runFrom pb start past).asks label .handleRequest pb.handleRequestReq = some ask →
    CreatesRelationship (World.runFrom pb start past) (World.runFrom pb start (past ++ [label])) →
      ∃ row accepted, (World.runFrom pb start past).request ask.req.reqid = some row ∧
        row.status = 0 ∧
        (World.runFrom pb start (past ++ [label])).request ask.req.reqid = some accepted ∧
        accepted.status = 1

/-- What the server would have to check: a rejection takes a request that is
pending or already rejected, an acceptance whose `INSERT` takes effect takes a
pending request between two cached accounts, and its status update succeeds. -/
def DecidesPending (pb : ImProto) (w : World) (label : Step) : Prop :=
  ∀ ask ∈ w.asks label .handleRequest pb.handleRequestReq, ∀ user ∈ ask.session.user,
    ∀ row ∈ w.request ask.req.reqid, label.env.sql 0 = true → row.toId = user.userid →
      (ask.req.action = 2 → label.env.sql 1 = true → row.status = 0 ∨ row.status = 2) ∧
      (ask.req.action ≠ 2 → label.env.sql 1 = true →
        ∀ pair ∈ World.requestParties row, pair.1 ≠ pair.2 →
          row.status = 0 ∧ (w.store.getUserByID pair.1).isSome ∧
            (w.store.getUserByID pair.2).isSome ∧ label.env.sql 2 = true)

instance (pb : ImProto) (w : World) (label : Step) : Decidable (DecidesPending pb w label) :=
  inferInstanceAs (Decidable (∀ ask ∈ w.asks label .handleRequest pb.handleRequestReq, _))

section Step

variable {pb : ImProto} {w : World} {label : Step}

/-! ### What one step does to a row -/

/-- A rejected request was pending or rejected before. -/
theorem DecidesPending.reject {s : ClientSession} {msg : MessageContainer} {user : User}
    {req : HandleRequestReq} {row : FriendRequestRow} (decides : DecidesPending pb w label)
    (reached : w.dispatched label = some (.handleRequest, s, msg))
    (signedIn : s.user = some user) (parsed : pb.handleRequestReq msg.payload = some req)
    (read : label.env.sql 0 = true) (found : w.request req.reqid = some row)
    (addressee : row.toId = user.userid) (isReject : req.action = 2)
    (granted : label.env.sql 1 = true) : row.status = 0 ∨ row.status = 2 :=
  (decides ⟨s, msg, req⟩ (World.asks_of_dispatched reached parsed) user signedIn row found read
    addressee).1 isReject granted

/-- An accepted request was pending, both parties are cached, and the status
update goes through. -/
theorem DecidesPending.accept {s : ClientSession} {msg : MessageContainer} {user : User}
    {req : HandleRequestReq} {row : FriendRequestRow} {first second : Int}
    (decides : DecidesPending pb w label)
    (reached : w.dispatched label = some (.handleRequest, s, msg))
    (signedIn : s.user = some user) (parsed : pb.handleRequestReq msg.payload = some req)
    (read : label.env.sql 0 = true) (found : w.request req.reqid = some row)
    (addressee : row.toId = user.userid) (isAccept : req.action ≠ 2)
    (granted : label.env.sql 1 = true)
    (parties : World.requestParties row = some (first, second)) (different : first ≠ second) :
    row.status = 0 ∧ (w.store.getUserByID first).isSome ∧
      (w.store.getUserByID second).isSome ∧ label.env.sql 2 = true :=
  (decides ⟨s, msg, req⟩ (World.asks_of_dispatched reached parsed) user signedIn row found read
    addressee).2 isAccept granted (first, second) parties different

/-- The two ids of a pair are its smaller and its greater one. -/
theorem cached_pair {first second : Int} (known : (w.store.getUserByID first).isSome)
    (knownToo : (w.store.getUserByID second).isSome) :
    (w.store.graph.cached (smallId first second)).isSome ∧
      (w.store.graph.cached (greatId first second)).isSome := by
  rw [Store.cached_isSome, Store.cached_isSome]
  unfold smallId greatId
  split
  · exact ⟨known, knownToo⟩
  · exact ⟨knownToo, known⟩

/-- Writing a status under a key, seen at any key. -/
theorem decide_moves {g : Graph} {key status reqid : Int} {row : FriendRequestRow}
    (found : g.request reqid = some row)
    (allowed : reqid = key → StatusMoves row.status status) :
    ∃ later, (g.decide key status).request reqid = some later ∧
      StatusMoves row.status later.status := by
  by_cases isKey : reqid = key
  · subst isKey
    exact ⟨{ row with status }, by simp [Graph.decide, found], allowed rfl⟩
  · exact ⟨row, by simp [Graph.decide, isKey, found], Or.inl rfl⟩

/-- One step moves a status at most once. -/
theorem request_step (decides : DecidesPending pb w label) {reqid : Int} {row : FriendRequestRow}
    (found : w.request reqid = some row) :
    ∃ later, (w.step pb label).request reqid = some later ∧
      StatusMoves row.status later.status := by
  change w.store.graph.request reqid = some row at found
  change ∃ later, (w.step pb label).store.graph.request reqid = some later ∧ _
  rcases World.step_effect pb w label with ⟨loads, -, restarted⟩ | ⟨ops, effect, follows⟩
  · rw [World.graph_restart restarted]
    exact ⟨row, found, Or.inl rfl⟩
  rw [follows.graph]
  cases effect with
  | idle => exact ⟨row, found, Or.inl rfl⟩
  | handled reached effect =>
      have newKey : ∀ {key : Int} {new : FriendRequestRow}, w.store.graph.request key = none →
          (w.store.graph.ask key new).request reqid = some row := by
        intro key new fresh
        have different : reqid ≠ key := by
          rintro rfl
          rw [found] at fresh
          cases fresh
        simp [Graph.ask, different, found]
      cases effect with
      | sendFriendRequest _ _ _ _ _ _ _ _ _ fresh => exact ⟨row, newKey fresh, Or.inl rfl⟩
      | sendInvitation _ _ _ _ _ _ _ _ _ _ fresh => exact ⟨row, newKey fresh, Or.inl rfl⟩
      | sendApplication _ _ _ _ _ fresh => exact ⟨row, newKey fresh, Or.inl rfl⟩
      | reject signedIn parsed read same addressee isReject granted =>
          refine decide_moves found ?_
          rintro rfl
          cases found.symm.trans same
          have was := decides.reject reached signedIn parsed read found addressee isReject granted
          unfold StatusMoves
          omega
      | accept signedIn parsed read same addressee isAccept parties ordered granted =>
          refine decide_moves (g := w.store.graph.link _ _) found ?_
          rintro rfl
          cases found.symm.trans same
          have was := decides.accept reached signedIn parsed read found addressee isAccept granted
            parties (smallId_lt_greatId_iff.mp ordered)
          exact Or.inr ⟨was.1, Or.inl rfl⟩
      | _ => exact ⟨row, found, Or.inl rfl⟩

/-- A row that a step adds is pending. -/
theorem new_request_pending {reqid : Int} {row : FriendRequestRow}
    (absent : w.request reqid = none) (found : (w.step pb label).request reqid = some row) :
    row.status = 0 := by
  rcases request_origin_step found with ⟨old, isOld, -⟩ | ⟨-, cause⟩
  · cases absent.symm.trans isOld
  · cases cause with
    | friend _ _ _ _ _ _ _ _ _ isRow => rw [isRow]
    | invitation _ _ _ _ _ _ _ _ _ _ isRow => rw [isRow]
    | application _ _ _ _ _ isRow => rw [isRow]

/-- What creates no link creates no relationship. -/
theorem not_creates_of_graph {next : World} (links : next.store.graph.links = w.store.graph.links)
    (friend : ∀ a b, next.store.graph.friend a b → w.store.graph.friend a b) :
    ¬ CreatesRelationship w next := by
  intro creates
  rcases creates with written | ⟨a, b, after, before⟩
  · exact written links
  · have was : w.store.isFriend a b = true := friend a b after
    rw [was] at before
    cases before

/-- A `HandleRequest` step that creates a relationship accepts a pending row. -/
theorem accepted_when_linked (decides : DecidesPending pb w label) {ask : Ask HandleRequestReq}
    (asked : w.asks label .handleRequest pb.handleRequestReq = some ask)
    (creates : CreatesRelationship w (w.step pb label)) :
    ∃ row accepted, w.request ask.req.reqid = some row ∧ row.status = 0 ∧
      (w.step pb label).request ask.req.reqid = some accepted ∧ accepted.status = 1 := by
  obtain ⟨isHandle, isReq⟩ := World.dispatched_of_asks asked
  rcases World.step_effect pb w label with ⟨loads, event, -⟩ | ⟨ops, effect, follows⟩
  · obtain ⟨-, isFrame, -⟩ := World.dispatched_session isHandle
    rw [isFrame] at event
    cases event
  have graph := follows.graph
  cases effect with
  | idle => exact absurd creates (not_creates_of_graph (by rw [graph]; rfl) (by simp [graph]))
  | handled reached effect =>
      rw [isHandle] at reached
      cases reached
      cases effect with
      | quiet => exact absurd creates (not_creates_of_graph (by rw [graph]; rfl) (by simp [graph]))
      | reject =>
          refine absurd creates (not_creates_of_graph (by rw [graph]; rfl) ?_)
          rw [graph]
          exact fun _ _ was => was
      | acceptUnrecorded signedIn parsed read found addressee isAccept parties ordered granted
          unrecorded =>
          obtain ⟨-, known, knownToo, recorded⟩ :=
            decides.accept isHandle signedIn parsed read found addressee isAccept granted parties
              (smallId_lt_greatId_iff.mp ordered)
          obtain ⟨small, great⟩ := cached_pair known knownToo
          exact absurd ⟨small, great, recorded⟩ unrecorded
      | accept signedIn parsed read found addressee isAccept parties ordered granted =>
          rename_i row _ _
          obtain ⟨pending, -⟩ := decides.accept isHandle signedIn parsed read found addressee
            isAccept granted parties (smallId_lt_greatId_iff.mp ordered)
          cases isReq.symm.trans parsed
          refine ⟨row, { row with status := 1 }, found, pending, ?_, rfl⟩
          change (w.step pb label).store.graph.request ask.req.reqid = _
          rw [graph]
          have same : w.store.graph.request ask.req.reqid = some row := found
          simp [GraphOp.apply, Graph.decide, Graph.link, same]

end Step

/-- In a run whose decisions are all about pending requests every request is
decided once. -/
theorem requests_decided_once (pb : ImProto) (start : World) (steps : List Step)
    (decides : AllSteps (World.step pb) (DecidesPending pb) start steps) :
    DecidedOnce pb start steps where
  statusOnce := by
    intro past rest split reqid row found
    subst split
    rw [allSteps_append] at decides
    rw [World.runFrom, run_append]
    -- The status moves along the rest of the run, one step at a time.
    refine run_invariant (fun w => ∃ later, w.request reqid = some later ∧
      StatusMoves row.status later.status) ?_ ⟨row, found, Or.inl rfl⟩ decides.2
    intro w label movedSoFar decidesNow
    obtain ⟨later, isLater, moved⟩ := movedSoFar
    obtain ⟨last, isLast, moves⟩ := request_step decidesNow isLater
    exact ⟨last, isLast, moved.trans moves⟩
  newIsPending := by
    intro past label rest split reqid row absent found
    rw [World.runFrom_snoc] at found
    exact new_request_pending absent found
  linksWhenAccepted := by
    intro past label rest split ask asked creates
    rw [World.runFrom_snoc] at creates ⊢
    exact accepted_when_linked (decides.admitted split) asked creates

namespace RequestRuns

/-- Alice asks Bob, who answers with `actions` in turn. -/
def steps (actions : List Int) : List Step :=
  Sample.bothLogIn ++ [Client.send 0 .sendRequest (Client.sendRequest 1 2 0)] ++
    actions.map fun action => Client.send 1 .handleRequest (Client.handleRequest 1 action)

end RequestRuns

theorem requests_decided_once_accepted :
    (World.runFrom wireProto (World.boot Sample.aliceAndBob)
        (RequestRuns.steps [1])).store.isFriend 1 2 = true ∧
      DecidedOnce wireProto (World.boot Sample.aliceAndBob) (RequestRuns.steps [1]) :=
  ⟨by decide, requests_decided_once _ _ _ (by decide)⟩

/-- A request that was rejected is accepted later. -/
theorem rejected_request_is_accepted :
    ¬ DecidedOnce wireProto (World.boot Sample.aliceAndBob) (RequestRuns.steps [2, 1]) := by
  intro decidedOnce
  obtain ⟨later, isLater, moved⟩ := decidedOnce.statusOnce (RequestRuns.steps [2])
    [Client.send 1 .handleRequest (Client.handleRequest 1 1)] rfl 1
    ⟨1, 2, 1, 0, [], 2, 0⟩ (by decide)
  have status : ((World.runFrom wireProto (World.boot Sample.aliceAndBob)
      (RequestRuns.steps [2, 1])).request 1).map FriendRequestRow.status = some 1 := by decide
  rw [isLater, Option.map_some, Option.some.injEq] at status
  simp [StatusMoves, status] at moved

end AimServer
