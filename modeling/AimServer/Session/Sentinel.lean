import AimServer.Graph.Offices
import AimServer.Session.Deliveries

/-!
Contract: nobody has the id that stands for nobody.

Owns: that no account, no owner of an account and no sender of a request has
the id -1 in any state of a run that starts on tables without it, and what
follows for the sessions and for the recipients of a chat message.
-/

namespace AimServer

open AimServer.Lib

namespace Graph

/-- No account has the sentinel id, and no owner and no sender of a request. -/
structure NoSentinel (g : Graph) : Prop where
  account : g.account (-1) = none
  owner : ∀ id owner, g.account id = some owner → owner ≠ -1
  request : ∀ key row, g.request key = some row → row.fromId ≠ -1

variable {g : Graph}

theorem NoSentinel.real (noSentinel : g.NoSentinel) (coherent : g.Coherent) {id : Int}
    (known : (g.cached id).isSome) : id ≠ -1 := by
  rintro rfl
  obtain ⟨owner, isOwner⟩ := Option.isSome_iff_exists.mp known
  have registered := coherent.cached _ _ isOwner
  rw [noSentinel.account] at registered
  cases registered

end Graph

namespace World

variable {pb : ImProto} {w : World} {label : Step}

theorem owner_step (sound : w.Sound) (noSentinel : w.store.graph.NoSentinel) {id owner : Int}
    (known : (w.step pb label).store.graph.account id = some owner) : owner ≠ -1 := by
  rcases step_effect pb w label with ⟨loads, -, restarted⟩ | ⟨ops, effect, follows⟩
  · rw [graph_restart restarted] at known
    exact noSentinel.owner id owner known
  rw [follows.graph] at known
  rcases Graph.account_of_perform known with before | enrolled
  · exact noSentinel.owner id owner before
  have founder : ∀ {user : User} {req : CreateGroupReq} {s : ClientSession}
      {msg : MessageContainer}, w.dispatched label = some (.createGroup, s, msg) →
      s.user = some user → pb.createGroupReq msg.payload = some req → user.userid ≠ -1 := by
    intro user req s msg reached signedIn parsed
    exact noSentinel.real sound.coherent
      (sound.cached_of_asks (asks_of_dispatched reached parsed) signedIn)
  cases effect with
  | idle => simp at enrolled
  | handled reached effect =>
      cases effect with
      | register =>
          simp only [List.mem_singleton, GraphOp.enrol.injEq] at enrolled
          rw [enrolled.2]
          decide
      | createGroupAlone signedIn parsed =>
          simp only [List.mem_singleton, GraphOp.enrol.injEq] at enrolled
          rw [enrolled.2]
          exact founder reached signedIn parsed
      | createGroup signedIn parsed =>
          simp only [List.mem_cons, GraphOp.enrol.injEq, reduceCtorEq, List.not_mem_nil,
            or_false] at enrolled
          rw [enrolled.2]
          exact founder reached signedIn parsed
      | _ => simp at enrolled

theorem request_sender_step (sound : w.Sound) (noSentinel : w.store.graph.NoSentinel)
    {reqid : Int} {row : FriendRequestRow}
    (found : (w.step pb label).store.graph.request reqid = some row) : row.fromId ≠ -1 := by
  have sender : ∀ {ask : Ask SendRequestReq} {user : User},
      w.asks label .sendRequest pb.sendRequestReq = some ask → ask.session.user = some user →
        user.userid ≠ -1 := by
    intro ask user asked signedIn
    exact noSentinel.real sound.coherent (sound.cached_of_asks asked signedIn)
  rcases request_origin_step found with ⟨old, before, same⟩ | ⟨-, cause⟩
  · rw [same.fromId]
    exact noSentinel.request reqid old before
  · cases cause with
    | friend asked signedIn _ _ _ _ _ _ _ isRow =>
        rw [isRow]
        exact sender asked signedIn
    | invitation asked signedIn _ _ _ _ _ _ _ _ isRow =>
        rw [isRow]
        exact sender asked signedIn
    | application asked signedIn _ _ _ isRow =>
        rw [isRow]
        exact sender asked signedIn

theorem noSentinel_step (sound : w.Sound) (noSentinel : w.store.graph.NoSentinel) :
    (w.step pb label).store.graph.NoSentinel := by
  refine ⟨?_, ?_, ?_⟩
  · exact account_unassigned_step sound (by decide) noSentinel.account
  · intro id owner known
    exact owner_step sound noSentinel known
  · intro key row found
    exact request_sender_step sound noSentinel found

/-! ### Sessions and recipients -/

/-- What the lookups of one step rest on. -/
structure Searchable (w : World) : Prop where
  sound : w.Sound
  keyed : w.Keyed
  noSentinel : w.store.graph.NoSentinel

theorem Searchable.step (searchable : w.Searchable) : (w.step pb label).Searchable :=
  ⟨searchable.sound.step, keyed_step pb w label searchable.keyed,
    noSentinel_step searchable.sound searchable.noSentinel⟩

/-- Nobody is logged in as the sentinel. -/
theorem Searchable.real (searchable : w.Searchable) :
    ∀ session ∈ w.sessions, ∀ user, session.user = some user → user.userid ≠ -1 := by
  intro session member user signedIn
  have onSession : w.userOn session.conn = some user := by
    rw [userOn_of_mem searchable.keyed member, signedIn]
  exact searchable.noSentinel.real searchable.sound.coherent
    (searchable.sound.registered _ _ onSession)

variable {id : Int}

theorem real_of_friendIds {userid : Int} {store : Store} (coherent : store.graph.Coherent)
    (noSentinel : store.graph.NoSentinel) (listed : id ∈ store.friendIds userid) : id ≠ -1 :=
  noSentinel.real coherent (Store.mem_friendIds.mp listed).2

theorem real_of_recipient {user : User} {target : Int} {store : Store}
    (coherent : store.graph.Coherent) (noSentinel : store.graph.NoSentinel)
    (notAgent : target ≠ agentUserId) (recipient : id ∈ chatRecipients user target store) :
    id ≠ -1 := by
  unfold chatRecipients at recipient
  split at recipient
  · rw [List.mem_singleton.mp recipient]
    exact notAgent
  · have listed : id ∈ store.friendIds target := (List.mem_filter.mp recipient).1
    exact real_of_friendIds coherent noSentinel listed

end World

/-- No account or owner in the tables has the sentinel id, and no sender of a
request. -/
structure Tables.NoSentinel (tables : Tables) : Prop where
  account : ∀ row ∈ tables.users.rows, row.userId ≠ -1 ∧ row.ownerId ≠ -1
  request : ∀ key row, tables.friendRequests.find key = some row → row.fromId ≠ -1

theorem World.searchable_boot {tables : Tables} (noSentinel : tables.NoSentinel) :
    (World.boot tables).Searchable := by
  have owners : ∀ id owner, (World.boot tables).store.graph.account id = some owner →
      id ≠ -1 ∧ owner ≠ -1 := by
    intro id owner known
    obtain ⟨row, found, rfl⟩ := Option.map_eq_some_iff.mp known
    have real := noSentinel.account row (mem_of_lookup found)
    rw [← lookup_key found]
    exact real
  refine ⟨World.sound_boot tables, List.nodup_nil, ?_, ?_, noSentinel.request⟩
  · cases known : (World.boot tables).store.graph.account (-1) with
    | none => rfl
    | some owner => exact absurd rfl (owners (-1) owner known).1
  · intro id owner known
    exact (owners id owner known).2

theorem World.searchable_run (pb : ImProto) {tables : Tables} (noSentinel : tables.NoSentinel)
    (steps : List Step) : (World.runFrom pb (World.boot tables) steps).Searchable :=
  run_keeps World.Searchable (fun _ _ searchable => searchable.step)
    (World.searchable_boot noSentinel)

end AimServer
