import AimServer.Session.Replay

/-!
Contract: what a stop of the process leaves of the offline messages.

Owns: the invariant of the replay machine, the exact states in which the
process may stop without losing a container, and the theorem that in a run
every stopped process left every container sent or stored exactly when each
stop was in such a state.

`FetchAndDeleteOfflineMsg` deletes the rows before the caller passes the first
container on. From the `DELETE` to the last `sendRaw` the containers are only
in the memory of the process.
-/

namespace AimServer

open AimServer.Lib

/-- What a login has in hand that its `DELETE` removed from the table. -/
def Replay.taken (replay : Replay) : List OfflineEntry :=
  match replay.phase with
  | .passing _ true inHand => inHand
  | _ => []

namespace OfflineServer

/-- The container was passed to `sendRaw`. -/
def Passed (s : OfflineServer) (entry : OfflineEntry) : Prop :=
  entry ∈ s.passed.map Prod.snd

instance (s : OfflineServer) (entry : OfflineEntry) : Decidable (s.Passed entry) :=
  inferInstanceAs (Decidable (_ ∈ _))

/-- Every container ever stored was passed on or is still a row. -/
def Kept (s : OfflineServer) : Prop :=
  ∀ entry ∈ s.stored, s.Passed entry ∨ entry ∈ s.table.rows

instance (s : OfflineServer) : Decidable s.Kept :=
  inferInstanceAs (Decidable (∀ _ ∈ _, _))

/-- No login has a container in hand that it deleted and nobody passed on. -/
def NothingTaken (s : OfflineServer) : Prop :=
  ∀ conn replay, s.replays conn = some replay → ∀ entry ∈ replay.taken, s.Passed entry

/-- The condition on a step: the process stops only when nothing is taken. -/
def StopsSafely (s : OfflineServer) : OfflineLabel → Prop
  | .stop => s.NothingTaken
  | _ => True

/-- The container was passed on, is a row, or is taken. -/
def Traced (s : OfflineServer) (entry : OfflineEntry) : Prop :=
  s.Passed entry ∨ entry ∈ s.table.rows ∨
    ∃ conn replay, s.replays conn = some replay ∧ entry ∈ replay.taken

/-- Every container ever stored can be traced. -/
def Accounted (s : OfflineServer) : Prop :=
  ∀ entry ∈ s.stored, s.Traced entry

/-- What a replay knows: before its `DELETE` it holds the lock and has in hand
what the table has, and what it took was stored and is no row any more. -/
structure ReplaySound (s : OfflineServer) (conn : Nat) (replay : Replay) : Prop where
  locked : ∀ kind inHand, replay.phase = .deleting kind inHand →
    s.holder = some conn ∧ inHand = s.select kind replay.userid
  gone : ∀ entry ∈ replay.taken, entry ∈ s.stored ∧ entry ∉ s.table.rows

structure Sound (s : OfflineServer) : Prop where
  rowsStored : ∀ entry ∈ s.table.rows, entry ∈ s.stored
  storedBelow : ∀ entry ∈ s.stored, entry.1 < s.table.next
  replaying : ∀ conn replay, s.replays conn = some replay → s.ReplaySound conn replay

section Steps

variable {s : OfflineServer} {conn : Nat} {replay : Replay}

theorem sound_starting (table : AutoTable OfflineMsgRow) : (starting table).Sound where
  rowsStored := fun _ member => member
  storedBelow := table.below
  replaying := fun _ _ running => nomatch running

theorem accounted_starting (table : AutoTable OfflineMsgRow) : (starting table).Accounted :=
  fun _ member => Or.inr (Or.inl member)

/-- After a change of one replay, every replay is the new one or an old one. -/
theorem replays_setReplay {conn' : Nat} {new : Option Replay}
    (running : (s.setReplay conn new).replays conn' = some replay) :
    (conn' = conn ∧ new = some replay) ∨ (conn' ≠ conn ∧ s.replays conn' = some replay) := by
  have found : Function.update s.replays conn new conn' = some replay := running
  by_cases same : conn' = conn
  · subst same
    rw [Function.update_self] at found
    exact Or.inl ⟨rfl, found⟩
  · rw [Function.update_of_ne same] at found
    exact Or.inr ⟨same, found⟩

/-- A replay that has nothing in hand to lose. -/
theorem ReplaySound.fetching (s : OfflineServer) (conn : Nat) (userid : Int)
    (kind : OfflineKind) : s.ReplaySound conn ⟨userid, .fetching kind⟩ where
  locked := fun _ _ phase => nomatch phase
  gone := fun _ member => nomatch member

/-- A step that leaves the table and the lock and moves one replay. -/
theorem Sound.setReplay (sound : s.Sound) {new : Option Replay}
    (moved : ∀ replay, new = some replay → s.ReplaySound conn replay) :
    (s.setReplay conn new).Sound where
  rowsStored := sound.rowsStored
  storedBelow := sound.storedBelow
  replaying := by
    intro conn' replay running
    rcases replays_setReplay running with ⟨rfl, same⟩ | ⟨-, old⟩
    · exact ⟨(moved replay same).locked, (moved replay same).gone⟩
    · exact ⟨(sound.replaying conn' replay old).locked, (sound.replaying conn' replay old).gone⟩

/-- The replay of the next kind starts without anything in hand. -/
theorem Sound.next (sound : s.Sound) (kind : OfflineKind) :
    (s.setReplay conn (replay.next kind)).Sound := by
  apply sound.setReplay
  intro after same
  cases kind with
  | notify =>
      cases same
      exact ReplaySound.fetching s conn replay.userid .chat
  | chat => cases same

theorem Sound.add (sound : s.Sound) (free : s.holder = none) (row : OfflineMsgRow) :
    Sound { s with
      table := s.table.insert row
      stored := s.stored ++ [(s.table.next, row)] } where
  rowsStored := by
    intro entry member
    rcases List.mem_append.mp member with old | new
    · exact List.mem_append_left _ (sound.rowsStored entry old)
    · exact List.mem_append_right _ new
  storedBelow := by
    intro entry member
    show entry.1 < s.table.next + 1
    rcases List.mem_append.mp member with old | new
    · have below := sound.storedBelow entry old
      omega
    · rw [List.mem_singleton.mp new]
      omega
  replaying := by
    intro conn replay running
    obtain ⟨locked, gone⟩ := sound.replaying conn replay running
    refine ⟨?_, ?_⟩
    · intro kind inHand phase
      rw [free] at locked
      exact nomatch (locked kind inHand phase).1
    · intro entry taken
      obtain ⟨stored, notRow⟩ := gone entry taken
      refine ⟨List.mem_append_left _ stored, ?_⟩
      intro member
      rcases List.mem_append.mp member with old | new
      · exact notRow old
      · rw [List.mem_singleton.mp new] at stored
        exact lt_irrefl _ (sound.storedBelow _ stored)

/-- The `SELECT` of a fetch that finds something takes the lock. -/
theorem Sound.select (sound : s.Sound) (free : s.holder = none) (kind : OfflineKind)
    (userid : Int) :
    Sound { s.setReplay conn (some ⟨userid, .deleting kind (s.select kind userid)⟩) with
      holder := some conn } where
  rowsStored := sound.rowsStored
  storedBelow := sound.storedBelow
  replaying := by
    intro conn' replay running
    rcases replays_setReplay running with ⟨rfl, same⟩ | ⟨-, old⟩
    · cases same
      refine ⟨?_, fun _ member => nomatch member⟩
      intro kind' inHand phase
      cases phase
      exact ⟨rfl, rfl⟩
    · obtain ⟨locked, gone⟩ := sound.replaying conn' replay old
      rw [free] at locked
      exact ⟨fun kind' inHand phase => (nomatch (locked kind' inHand phase).1), gone⟩

/-- A row that a `DELETE` leaves was there before. -/
theorem mem_of_mem_deleted {kind : OfflineKind} {userid : Int} {granted : Bool}
    {entry : OfflineEntry}
    (member : entry ∈ (if granted then s.table.deleteWhere (·.isFor kind userid)
      else s.table).rows) : entry ∈ s.table.rows := by
  cases granted with
  | false => exact member
  | true => exact List.mem_of_mem_filter member

/-- The `DELETE` of a fetch removes what the replay has in hand. -/
theorem Sound.delete (sound : s.Sound) {userid : Int} {kind : OfflineKind}
    {inHand : List OfflineEntry} (running : s.replays conn = some ⟨userid, .deleting kind inHand⟩)
    (granted : Bool) :
    Sound { s.setReplay conn (some ⟨userid, .passing kind granted inHand⟩) with
      table := if granted then s.table.deleteWhere (·.isFor kind userid) else s.table
      holder := none } where
  rowsStored := fun entry member => sound.rowsStored entry (mem_of_mem_deleted member)
  storedBelow := by
    intro entry member
    have below := sound.storedBelow entry member
    cases granted with
    | false => exact below
    | true => exact below
  replaying := by
    obtain ⟨held, inTable⟩ := (sound.replaying conn _ running).locked kind inHand rfl
    intro conn' replay running'
    rcases replays_setReplay running' with ⟨rfl, same⟩ | ⟨other, old⟩
    · cases same
      refine ⟨fun _ _ phase => (nomatch phase), ?_⟩
      intro entry taken
      cases granted with
      | false => exact nomatch taken
      | true =>
          have selected : entry ∈ s.select kind userid := inTable ▸ taken
          obtain ⟨isRow, isFor⟩ := List.mem_filter.mp selected
          refine ⟨sound.rowsStored entry isRow, ?_⟩
          intro left
          have notFor : (!entry.2.isFor kind userid) = true := (List.mem_filter.mp left).2
          rw [isFor] at notFor
          cases notFor
    · obtain ⟨locked, gone⟩ := sound.replaying conn' replay old
      refine ⟨?_, fun entry taken =>
        ⟨(gone entry taken).1, fun left => (gone entry taken).2 (mem_of_mem_deleted left)⟩⟩
      -- only one connection can hold the lock
      intro kind' inHand' phase
      have heldToo := (locked kind' inHand' phase).1
      rw [held] at heldToo
      exact absurd (Option.some.inj heldToo).symm other

theorem Sound.pass (sound : s.Sound) {userid : Int} {kind : OfflineKind} {removed : Bool}
    {entry : OfflineEntry} {rest : List OfflineEntry}
    (running : s.replays conn = some ⟨userid, .passing kind removed (entry :: rest)⟩) :
    Sound { s.setReplay conn (some ⟨userid, .passing kind removed rest⟩) with
      passed := s.passed ++ [(conn, entry)] } where
  rowsStored := sound.rowsStored
  storedBelow := sound.storedBelow
  replaying := by
    intro conn' replay running'
    rcases replays_setReplay running' with ⟨rfl, same⟩ | ⟨-, old⟩
    · cases same
      refine ⟨fun _ _ phase => (nomatch phase), ?_⟩
      intro left taken
      cases removed with
      | false => exact nomatch taken
      | true =>
          exact (sound.replaying _ _ running).gone left (List.mem_cons_of_mem entry taken)
    · exact ⟨(sound.replaying conn' replay old).locked, (sound.replaying conn' replay old).gone⟩

theorem Sound.advance (sound : s.Sound) (running : s.replays conn = some replay)
    (granted : Bool) : (s.advance conn granted replay).Sound := by
  obtain ⟨userid, phase⟩ := replay
  unfold OfflineServer.advance
  cases phase with
  | fetching kind =>
      dsimp only
      split
      · exact sound
      · rename_i free
        split
        · exact sound.select (Option.not_isSome_iff_eq_none.mp free) kind userid
        · exact sound.next kind
  | deleting kind inHand => exact sound.delete running granted
  | passing kind removed inHand =>
      cases inHand with
      | nil => exact sound.next kind
      | cons entry rest => exact sound.pass running

/-- Every step keeps the invariant. -/
theorem Sound.step (sound : s.Sound) (label : OfflineLabel) : (s.step label).Sound := by
  cases label with
  | add kind userid cache granted =>
      simp only [OfflineServer.step]
      split
      · rename_i takes
        exact sound.add takes.2.1 _
      · exact sound
  | login conn userid =>
      simp only [OfflineServer.step]
      split
      · apply sound.setReplay
        intro replay same
        cases same
        exact ReplaySound.fetching s conn userid .notify
      · exact sound
  | advance conn granted =>
      simp only [OfflineServer.step]
      split
      · exact sound
      · rename_i replay running
        exact sound.advance running granted
  | stop =>
      refine ⟨sound.rowsStored, sound.storedBelow, ?_⟩
      intro conn replay running
      cases running
  | start =>
      refine ⟨sound.rowsStored, sound.storedBelow, ?_⟩
      intro conn replay running
      have before := sound.replaying conn replay running
      exact ⟨before.locked, before.gone⟩

/-! ### Containers can be traced until the process stops -/

/-- A step that moves a replay which has taken nothing. -/
theorem Traced.setReplay {entry : OfflineEntry} (traced : s.Traced entry) {new : Option Replay}
    (idle : ∀ replay, s.replays conn = some replay → replay.taken = []) :
    (s.setReplay conn new).Traced entry := by
  rcases traced with passed | isRow | ⟨conn', replay, running, taken⟩
  · exact Or.inl passed
  · exact Or.inr (Or.inl isRow)
  · refine Or.inr (Or.inr ⟨conn', replay, ?_, taken⟩)
    have other : conn' ≠ conn := by
      intro same
      subst same
      rw [idle replay running] at taken
      cases taken
    exact (Function.update_of_ne other _ _).trans running

theorem Traced.delete (sound : s.Sound) {userid : Int} {kind : OfflineKind}
    {inHand : List OfflineEntry} (running : s.replays conn = some ⟨userid, .deleting kind inHand⟩)
    (granted : Bool) {entry : OfflineEntry} (traced : s.Traced entry) :
    Traced { s.setReplay conn (some ⟨userid, .passing kind granted inHand⟩) with
      table := if granted then s.table.deleteWhere (·.isFor kind userid) else s.table
      holder := none } entry := by
  have inTable := ((sound.replaying conn _ running).locked kind inHand rfl).2
  rcases traced with passed | isRow | ⟨conn', replay, running', taken⟩
  · exact Or.inl passed
  · -- a row that goes is in the hands of the replay that removed it
    cases granted with
    | false => exact Or.inr (Or.inl isRow)
    | true =>
        by_cases isFor : entry.2.isFor kind userid = true
        · refine Or.inr (Or.inr ⟨conn, ⟨userid, .passing kind true inHand⟩,
            Function.update_self _ _ _, ?_⟩)
          show entry ∈ inHand
          rw [inTable]
          exact List.mem_filter.mpr ⟨isRow, isFor⟩
        · refine Or.inr (Or.inl (List.mem_filter.mpr ⟨isRow, ?_⟩))
          simpa using isFor
  · refine Or.inr (Or.inr ⟨conn', replay, ?_, taken⟩)
    have other : conn' ≠ conn := by
      intro same
      subst same
      rw [running] at running'
      cases running'
      cases taken
    exact (Function.update_of_ne other _ _).trans running'

theorem Traced.pass {userid : Int} {kind : OfflineKind} {removed : Bool}
    {sent : OfflineEntry} {rest : List OfflineEntry}
    (running : s.replays conn = some ⟨userid, .passing kind removed (sent :: rest)⟩)
    {entry : OfflineEntry} (traced : s.Traced entry) :
    Traced { s.setReplay conn (some ⟨userid, .passing kind removed rest⟩) with
      passed := s.passed ++ [(conn, sent)] } entry := by
  have passedSnoc : entry ∈ s.passed.map Prod.snd ∨ entry = sent →
      entry ∈ (s.passed ++ [(conn, sent)]).map Prod.snd := by
    intro either
    rw [List.map_append, List.mem_append]
    exact either.imp id (fun same => by simp [same])
  rcases traced with passed | isRow | ⟨conn', replay, running', taken⟩
  · exact Or.inl (passedSnoc (Or.inl passed))
  · exact Or.inr (Or.inl isRow)
  · by_cases same : conn' = conn
    · subst same
      rw [running] at running'
      cases running'
      cases removed with
      | false => cases taken
      | true =>
          rcases List.mem_cons.mp taken with isSent | left
          · exact Or.inl (passedSnoc (Or.inr isSent))
          · exact Or.inr (Or.inr ⟨conn', _, Function.update_self _ _ _, left⟩)
    · exact Or.inr (Or.inr ⟨conn', replay, (Function.update_of_ne same _ _).trans running', taken⟩)

theorem Traced.advance (sound : s.Sound) (running : s.replays conn = some replay) (granted : Bool)
    {entry : OfflineEntry} (traced : s.Traced entry) :
    (s.advance conn granted replay).Traced entry := by
  obtain ⟨userid, phase⟩ := replay
  have only : ∀ other, s.replays conn = some other → other = ⟨userid, phase⟩ := by
    intro other running'
    exact Option.some.inj (running'.symm.trans running)
  unfold OfflineServer.advance
  cases phase with
  | fetching kind =>
      have idle : ∀ other, s.replays conn = some other → other.taken = [] := by
        intro other running'
        rw [only other running']
        rfl
      dsimp only
      split
      · exact traced
      · split
        · exact traced.setReplay idle
        · exact traced.setReplay idle
  | deleting kind inHand => exact traced.delete sound running granted
  | passing kind removed inHand =>
      cases inHand with
      | nil =>
          apply traced.setReplay
          intro other running'
          rw [only other running']
          cases removed <;> rfl
      | cons sent rest => exact traced.pass running

theorem advance_stored (granted : Bool) :
    (s.advance conn granted replay).stored = s.stored := by
  unfold OfflineServer.advance
  split
  · split
    · rfl
    · split <;> rfl
  all_goals rfl

/-- Every step keeps the containers traceable, but a stop only when nothing
is taken. -/
theorem Accounted.step (sound : s.Sound) (accounted : s.Accounted) {label : OfflineLabel}
    (safely : s.StopsSafely label) : (s.step label).Accounted := by
  cases label with
  | add kind userid cache granted =>
      simp only [OfflineServer.step]
      split
      · intro entry member
        rcases List.mem_append.mp member with old | new
        · exact (accounted entry old).imp id (Or.imp (List.mem_append_left _) id)
        · exact Or.inr (Or.inl (List.mem_append_right _ new))
      · exact accounted
  | login conn userid =>
      simp only [OfflineServer.step]
      split
      · rename_i free
        intro entry member
        apply (accounted entry member).setReplay
        intro replay running
        rw [free.2] at running
        cases running
      · exact accounted
  | advance conn granted =>
      simp only [OfflineServer.step]
      split
      · exact accounted
      · rename_i replay running
        intro entry member
        rw [advance_stored] at member
        exact (accounted entry member).advance sound running granted
  | stop =>
      intro entry member
      rcases accounted entry member with passed | isRow | ⟨conn, replay, running, taken⟩
      · exact Or.inl passed
      · exact Or.inr (Or.inl isRow)
      · exact Or.inl (safely conn replay running entry taken)
  | start => exact accounted

/-- As long as every container can be traced, all are sent or stored exactly
when none is taken. -/
theorem kept_iff_nothingTaken (sound : s.Sound) (accounted : s.Accounted) :
    s.Kept ↔ s.NothingTaken := by
  constructor
  · intro kept conn replay running entry taken
    obtain ⟨stored, notRow⟩ := (sound.replaying conn replay running).gone entry taken
    exact (kept entry stored).resolve_right notRow
  · intro nothing entry member
    rcases accounted entry member with passed | isRow | ⟨conn, replay, running, taken⟩
    · exact Or.inl passed
    · exact Or.inr isRow
    · exact Or.inl (nothing conn replay running entry taken)

end Steps

end OfflineServer

/-- In every run every stop finds all containers sent or stored exactly when
every stop falls outside the time between the `DELETE` of a fetch and the last
`sendRaw` of what it removed. -/
theorem offline_survives_stop_iff (table : AutoTable OfflineMsgRow) (labels : List OfflineLabel) :
    (∀ past rest, labels = past ++ .stop :: rest →
        (run OfflineServer.step (.starting table) past).Kept) ↔
      AllSteps OfflineServer.step OfflineServer.StopsSafely (.starting table) labels := by
  have exact : AllSteps OfflineServer.step OfflineServer.StopsSafely (.starting table) labels ↔
      AllSteps OfflineServer.step (fun s label => label = .stop → s.Kept) (.starting table)
        labels := by
    refine allSteps_congr (fun s => s.Sound ∧ s.Accounted) ?_ ?_
      ⟨OfflineServer.sound_starting table, OfflineServer.accounted_starting table⟩
    · intro s label holds
      rw [OfflineServer.kept_iff_nothingTaken holds.1 holds.2]
      cases label <;> simp [OfflineServer.StopsSafely]
    · intro s label holds safely
      exact ⟨holds.1.step label, holds.2.step holds.1 safely⟩
  rw [exact]
  constructor
  · intro always
    apply allSteps_of_splits
    intro past label rest split isStop
    exact always past rest (isStop ▸ split)
  · intro all past rest split
    exact all.admitted split rfl

namespace OfflineRuns

/-- A chat message waits for user 7, whose login is cut off right after the
`DELETE`. -/
def cutOff : List OfflineLabel :=
  [.add .chat 7 [42] true, .login 1 7, .advance 1 true, .advance 1 true, .advance 1 true, .stop]

end OfflineRuns

/-- The message is neither sent nor stored when the process stops. -/
theorem offline_message_lost :
    (run OfflineServer.step (.starting .empty) OfflineRuns.cutOff).stored =
        [(1, ⟨7, 1, [42]⟩)] ∧
      (run OfflineServer.step (.starting .empty) OfflineRuns.cutOff).passed = [] ∧
      (run OfflineServer.step (.starting .empty) OfflineRuns.cutOff).table.rows = [] ∧
      ¬ ∀ past rest, OfflineRuns.cutOff = past ++ .stop :: rest →
        (run OfflineServer.step (.starting .empty) past).Kept := by
  refine ⟨by decide, by decide, by decide, ?_⟩
  intro always
  have kept := always [.add .chat 7 [42] true, .login 1 7, .advance 1 true, .advance 1 true,
    .advance 1 true] [] rfl
  exact absurd kept (by decide)

end AimServer
