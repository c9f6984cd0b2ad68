import AimServer.Net.TcpConnection

/-!
Contract: what every step of a connection keeps.

Owns: what its output side guarantees, the order of its senders' messages, the
phases of its life, and that each event keeps them and fails no assertion.

Does not own: the results for whole runs.
-/

namespace AimServer.Muduo

open AimServer.Lib ProtobufCodecLite

namespace TcpConnection

variable {μ : Type}

/-! ### What holds of a connection -/

/-- The bytes of the messages taken. -/
def takenBytes (handled : List Handled) : Bytes :=
  (handled.filter Handled.taken).flatMap Handled.message

def ofLoop (handled : List Handled) : List Bytes :=
  (handled.filter Handled.fromLoop).map Handled.message

def ofOthers (handled : List Handled) : List Bytes :=
  (handled.filter fun entry => !entry.fromLoop).map Handled.message

def waiting (pending : List Functor) : List Bytes :=
  pending.filterMap fun functor =>
    match functor with
    | .sendInLoop message => some message
    | _ => none

/-- The part of the state that sending does not change. -/
structure Life where
  state : StateE
  reading : Bool
  pending : List Functor
  inMap : Bool
  removals : Nat
  callbacks : List Bool
  destroyed : Nat

def life (c : TcpConnection μ) : Life :=
  ⟨c.state, c.reading, c.pending, c.inMap, c.removals, c.callbacks, c.destroyed⟩

/-- Only messages wait. -/
def Sends (pending : List Functor) : Prop :=
  ∀ functor ∈ pending, ∃ message, functor = .sendInLoop message

/-- Neither the first nor the last functor of a connection waits. -/
def Plain (pending : List Functor) : Prop :=
  Functor.connectEstablished ∉ pending ∧ Functor.connectDestroyed ∉ pending

/-- The phases of a connection. -/
inductive Phase : Life → Prop where
  | connecting : Phase ⟨.kConnecting, false, [.connectEstablished], true, 0, [], 0⟩
  | connected {pending : List Functor} (sends : Sends pending) :
      Phase ⟨.kConnected, true, pending, true, 0, [true], 0⟩
  | disconnecting {pending : List Functor} (plain : Plain pending) :
      Phase ⟨.kDisconnecting, true, pending, true, 0, [true], 0⟩
  | closed {pending : List Functor} (plain : Plain pending) :
      Phase ⟨.kDisconnected, false, pending, true, 1, [true, false], 0⟩
  | removed {pending : List Functor} (plain : Plain pending) :
      Phase ⟨.kDisconnected, false, pending ++ [.connectDestroyed], false, 0, [true, false], 0⟩
  | destroyed : Phase ⟨.kDisconnected, false, [], false, 0, [true, false], 1⟩

/-- What the output side guarantees. -/
structure Flows (c : TcpConnection μ) : Prop where
  conserved : c.wire ++ c.outputBuffer.contents = takenBytes c.handled
  lost : ∀ entry ∈ c.handled, entry.taken = false →
    c.state = .kDisconnected ∨ c.writeShut = true ∨ c.broken = true
  drains : c.state ≠ .kDisconnected → (c.writing = true ↔ c.outputBuffer.contents ≠ [])
  shut : c.state ≠ .kDisconnected → c.writeShut = true →
    c.state = .kDisconnecting ∧ c.writing = false
  quiet : c.reading = false → c.writing = false

structure Ordered (c : TcpConnection μ) : Prop where
  inLoop : ofLoop c.handled = c.sentInLoop
  elsewhere : ofOthers c.handled ++ waiting c.pending = c.sentElsewhere

structure Sound (c : TcpConnection μ) : Prop where
  flows : c.Flows
  ordered : c.Ordered
  phase : Phase c.life

theorem sound_newConnection : (newConnection : TcpConnection μ).Sound where
  flows :=
    { conserved := Buffer.contents_new _
      lost := fun entry member => absurd member List.not_mem_nil
      drains := fun _ => by
        rw [show (newConnection : TcpConnection μ).outputBuffer.contents = [] from
          Buffer.contents_new _]
        exact iff_of_false Bool.false_ne_true fun isNonempty => isNonempty rfl
      shut := fun _ isShut => absurd isShut Bool.false_ne_true
      quiet := fun _ => rfl }
  ordered := ⟨rfl, rfl⟩
  phase := .connecting

/-! ### Sending -/

/-- `next` has handled one message more. -/
structure Handles (c next : TcpConnection μ) (fromLoop : Bool) (message : Bytes) : Prop where
  flows : next.Flows
  life : next.life = c.life
  sent : next.sentInLoop = c.sentInLoop ∧ next.sentElsewhere = c.sentElsewhere
  handled : ∃ taken, next.handled = c.handled ++ [⟨fromLoop, message, taken⟩]
  input : next.input = c.input

theorem takenBytes_append (handled : List Handled) (fromLoop : Bool) (message : Bytes)
    (taken : Bool) :
    takenBytes (handled ++ [⟨fromLoop, message, taken⟩]) =
      takenBytes handled ++ if taken = true then message else [] := by
  cases taken with
  | true =>
      rw [takenBytes, List.filter_append, List.flatMap_append]
      exact congrArg (takenBytes handled ++ ·) (List.append_nil message)
  | false =>
      rw [takenBytes, List.filter_append, List.flatMap_append]
      rfl

/-- Nothing waits on an idle connection. -/
theorem contents_of_idle {c : TcpConnection μ} (idle : c.idle = true) :
    c.writing = false ∧ c.outputBuffer.contents = [] := by
  obtain ⟨notWriting, empty⟩ := Bool.and_eq_true_iff.mp idle
  refine ⟨by simpa using notWriting, ?_⟩
  apply List.eq_nil_of_length_eq_zero
  rw [Buffer.length_contents]
  exact of_decide_eq_true empty

/-- The outcomes of a try. -/
theorem tryWrite_cases (c : TcpConnection μ) (len : Nat) (result : WriteResult) :
    (∃ n, c.tryWrite len result = (n, false) ∧ (n = 0 ∨ c.idle = true)) ∨
      (c.tryWrite len result = (0, true) ∧ c.idle = true ∧
        (c.writeShut = true ∨ result = .broken)) := by
  unfold tryWrite
  by_cases idle : c.idle = true
  · rw [if_pos idle]
    cases c.socketWrite len result with
    | some n => exact Or.inl ⟨n, rfl, Or.inr idle⟩
    | none =>
        by_cases gone : c.writeShut = true ∨ result = .broken
        · refine Or.inr ⟨?_, idle, gone⟩
          have isFault : (c.writeShut || decide (result = .broken)) = true := by
            simpa using gone
          dsimp only
          rw [isFault]
        · refine Or.inl ⟨0, ?_, Or.inl rfl⟩
          have noFault : (c.writeShut || decide (result = .broken)) = false := by
            simpa using gone
          dsimp only
          rw [noFault]
  · rw [if_neg idle]
    exact Or.inl ⟨0, rfl, Or.inl rfl⟩

/-- A socket that is shut for writing takes nothing more. -/
theorem tryWrite_of_shut {c : TcpConnection μ} (flows : c.Flows)
    (live : c.state ≠ .kDisconnected) (isShut : c.writeShut = true) (len : Nat)
    (result : WriteResult) : c.tryWrite len result = (0, true) := by
  have quiet := (flows.shut live isShut).2
  have empty : c.outputBuffer.contents = [] := by
    by_contra nonempty
    cases quiet.symm.trans ((flows.drains live).mpr nonempty)
  have idle : c.idle = true := by
    rw [idle, quiet, ← Buffer.length_contents, empty]
    rfl
  have refused : c.socketWrite len result = none := by
    unfold socketWrite
    cases result with
    | wrote n => exact if_pos isShut
    | wouldBlock => rfl
    | broken => rfl
    | failed => rfl
  rw [tryWrite, if_pos idle, refused, isShut]
  rfl

/-- A message is dropped. -/
theorem Flows.drop {c next : TcpConnection μ} (flows : c.Flows) {fromLoop : Bool}
    {message : Bytes} (same : next.life = c.life) (wire : next.wire = c.wire)
    (output : next.outputBuffer = c.outputBuffer) (writing : next.writing = c.writing)
    (writeShut : next.writeShut = c.writeShut)
    (handled : next.handled = c.handled ++ [⟨fromLoop, message, false⟩])
    (broken : c.broken = true → next.broken = true)
    (reason : c.state = .kDisconnected ∨ c.writeShut = true ∨ next.broken = true) :
    next.Flows := by
  have state : next.state = c.state := congrArg Life.state same
  have reading : next.reading = c.reading := congrArg Life.reading same
  constructor
  · rw [wire, output, handled, takenBytes_append, flows.conserved]
    exact (List.append_nil _).symm
  · intro entry member notTaken
    rw [state, writeShut]
    rw [handled] at member
    rcases List.mem_append.mp member with old | new
    · exact (flows.lost entry old notTaken).imp_right (Or.imp_right broken)
    · exact reason
  · rw [state, writing, output]
    exact flows.drains
  · rw [state, writing, writeShut]
    exact flows.shut
  · rw [reading, writing]
    exact flows.quiet

/-- What a message does that is taken: so much goes to the socket, and the rest
behind what waits. -/
theorem take_conserved {c : TcpConnection μ} {n : Nat} (place : n = 0 ∨ c.idle = true)
    (message : Bytes) :
    c.wire ++ message.take n ++ (c.outputBuffer.contents ++ message.drop n) =
      c.wire ++ c.outputBuffer.contents ++ message := by
  rcases place with rfl | idle
  · rw [List.take_zero, List.drop_zero, List.append_nil, List.append_assoc]
  · rw [(contents_of_idle idle).2, List.nil_append, List.append_nil, List.append_assoc,
      List.take_append_drop]

theorem sendInLoop_handles {c : TcpConnection μ} (flows : c.Flows)
    (reads : c.state ≠ .kDisconnected → c.reading = true) (fromLoop : Bool)
    (message : Bytes) (result : WriteResult) :
    ∃ next, c.sendInLoop fromLoop message result = some next ∧
      c.Handles next fromLoop message := by
  unfold sendInLoop
  by_cases closed : c.state = .kDisconnected
  · rw [if_pos closed]
    refine ⟨_, rfl, ?_, rfl, ⟨rfl, rfl⟩, ⟨false, rfl⟩, rfl⟩
    exact flows.drop rfl rfl rfl rfl rfl rfl id (Or.inl closed)
  · rw [if_neg closed]
    rcases c.tryWrite_cases message.length result with
      ⟨n, tried, place⟩ | ⟨tried, idle, gone⟩
    · have open' : c.writeShut = false := by
        by_contra isShut
        cases (tryWrite_of_shut flows closed (Bool.eq_true_of_not_eq_false isShut) message.length
          result).symm.trans tried
      have isLost (entry : Handled) (member : entry ∈ c.handled ++ [⟨fromLoop, message, true⟩])
          (notTaken : entry.taken = false) : c.state = .kDisconnected ∨ c.writeShut = true ∨
            (c.broken || (c.idle && decide (result = .broken))) = true := by
        rcases List.mem_append.mp member with old | new
        · refine (flows.lost entry old notTaken).imp_right (Or.imp_right ?_)
          intro wasBroken
          rw [wasBroken]
          rfl
        · rw [List.mem_singleton.mp new] at notTaken
          cases notTaken
      have conserved := takenBytes_append c.handled fromLoop message true
      rw [if_pos rfl, ← flows.conserved, ← take_conserved place] at conserved
      rw [tried]
      by_cases more : n < message.length
      · obtain ⟨output, appended, contents, -⟩ :=
          Buffer.append_eq (message.drop n) c.outputBuffer
        refine ⟨{ c with
            wire := c.wire ++ message.take n
            broken := c.broken || (c.idle && decide (result = .broken))
            handled := c.handled ++ [⟨fromLoop, message, true⟩]
            outputBuffer := output
            writing := true }, ?_, ⟨?_, isLost, ?_, ?_, ?_⟩, rfl, ⟨rfl, rfl⟩, ⟨true, rfl⟩, rfl⟩
        · dsimp only
          rw [if_pos ⟨rfl, more⟩, appended]
          rfl
        · rw [contents, conserved]
        · intro live
          refine iff_of_true rfl ?_
          rw [contents]
          intro isNil
          have short := List.drop_eq_nil_iff.mp (List.append_eq_nil_iff.mp isNil).2
          exact Nat.not_le_of_lt more short
        · intro live isShut
          cases open'.symm.trans isShut
        · intro notReading
          cases (reads closed).symm.trans notReading
      · have all : message.take n = message := List.take_of_length_le (Nat.le_of_not_lt more)
        have rest : message.drop n = [] := List.drop_of_length_le (Nat.le_of_not_lt more)
        rw [rest, List.append_nil] at conserved
        refine ⟨{ c with
            wire := c.wire ++ message.take n
            broken := c.broken || (c.idle && decide (result = .broken))
            handled := c.handled ++ [⟨fromLoop, message, true⟩] }, ?_,
          ⟨conserved.symm, isLost, flows.drains, flows.shut, flows.quiet⟩, rfl, ⟨rfl, rfl⟩,
          ⟨true, rfl⟩, rfl⟩
        dsimp only
        rw [if_neg fun both => more both.2]
        rfl
    · rw [tried]
      dsimp only
      rw [if_neg fun both => Bool.noConfusion both.1]
      refine ⟨_, rfl, ?_, rfl, ⟨rfl, rfl⟩, ⟨false, rfl⟩, rfl⟩
      refine flows.drop rfl ?_ rfl rfl rfl rfl ?_ ?_
      · exact List.append_nil _
      · intro wasBroken
        show (c.broken || (c.idle && decide (result = .broken))) = true
        rw [wasBroken]
        rfl
      · rcases gone with isShut | isBroken
        · exact Or.inr (Or.inl isShut)
        · refine Or.inr (Or.inr ?_)
          show (c.broken || (c.idle && decide (result = .broken))) = true
          rw [idle, isBroken]
          exact Bool.or_true _

/-! ### One step -/

theorem Sends.plain {pending : List Functor} (sends : Sends pending) : Plain pending := by
  constructor
  · intro member
    obtain ⟨message, isSend⟩ := sends _ member
    cases isSend
  · intro member
    obtain ⟨message, isSend⟩ := sends _ member
    cases isSend

theorem Sends.append {pending : List Functor} (sends : Sends pending) (message : Bytes) :
    Sends (pending ++ [.sendInLoop message]) := by
  intro functor member
  rcases List.mem_append.mp member with old | new
  · exact sends functor old
  · exact ⟨message, List.mem_singleton.mp new⟩

theorem Plain.append {pending : List Functor} (plain : Plain pending) {functor : Functor}
    (notFirst : functor ≠ .connectEstablished) (notLast : functor ≠ .connectDestroyed) :
    Plain (pending ++ [functor]) := by
  constructor
  · intro member
    rcases List.mem_append.mp member with old | new
    · exact plain.1 old
    · exact notFirst (List.mem_singleton.mp new).symm
  · intro member
    rcases List.mem_append.mp member with old | new
    · exact plain.2 old
    · exact notLast (List.mem_singleton.mp new).symm

theorem Plain.tail {functor : Functor} {pending : List Functor}
    (plain : Plain (functor :: pending)) : Plain pending :=
  ⟨fun member => plain.1 (List.mem_cons_of_mem _ member),
    fun member => plain.2 (List.mem_cons_of_mem _ member)⟩

theorem ofLoop_append (handled : List Handled) (fromLoop : Bool) (message : Bytes)
    (taken : Bool) :
    ofLoop (handled ++ [⟨fromLoop, message, taken⟩]) =
      ofLoop handled ++ if fromLoop = true then [message] else [] := by
  rw [ofLoop, List.filter_append, List.map_append]
  cases fromLoop with
  | true => rfl
  | false => rfl

theorem ofOthers_append (handled : List Handled) (fromLoop : Bool) (message : Bytes)
    (taken : Bool) :
    ofOthers (handled ++ [⟨fromLoop, message, taken⟩]) =
      ofOthers handled ++ if fromLoop = true then [] else [message] := by
  rw [ofOthers, List.filter_append, List.map_append]
  cases fromLoop with
  | true => rfl
  | false => rfl

/-- A functor that is no message does not count as one. -/
theorem waiting_append (pending : List Functor) (functor : Functor) :
    waiting (pending ++ [functor]) = waiting pending ++ waiting [functor] :=
  List.filterMap_append

/-- A connection reads from its first callback to its last. -/
theorem Phase.open_iff {life : Life} (phase : Phase life) :
    life.reading = true ↔ life.state = .kConnected ∨ life.state = .kDisconnecting := by
  cases phase with
  | connecting => decide
  | connected sends => exact iff_of_true rfl (Or.inl rfl)
  | disconnecting plain => exact iff_of_true rfl (Or.inr rfl)
  | closed plain => simp
  | removed plain => simp
  | destroyed => decide

/-- Between the two callbacks only the state and the queue vary. -/
theorem Phase.of_open {life : Life} (phase : Phase life)
    (isOpen : life.state = .kConnected ∨ life.state = .kDisconnecting) :
    life = ⟨life.state, true, life.pending, true, 0, [true], 0⟩ ∧ Plain life.pending ∧
      (life.state = .kConnected → Sends life.pending) := by
  cases phase with
  | connecting => rcases isOpen with isState | isState <;> cases isState
  | connected sends => exact ⟨rfl, sends.plain, fun _ => sends⟩
  | disconnecting plain =>
      refine ⟨rfl, plain, ?_⟩
      intro isState
      cases isState
  | closed plain => rcases isOpen with isState | isState <;> cases isState
  | removed plain => rcases isOpen with isState | isState <;> cases isState
  | destroyed => rcases isOpen with isState | isState <;> cases isState

/-- What the oldest functor can be. -/
inductive Popped (life : Life) (rest : List Functor) : Functor → Prop where
  | first (isLife : life = ⟨.kConnecting, false, [.connectEstablished], true, 0, [], 0⟩)
      (isRest : rest = []) : Popped life rest .connectEstablished
  | between {functor : Functor} (phase : Phase { life with pending := rest })
      (begun : life.state ≠ .kConnecting)
      (notFirst : functor ≠ .connectEstablished) (notLast : functor ≠ .connectDestroyed)
      (closing : functor = .shutdownInLoop → life.state ≠ .kConnected) : Popped life rest functor
  | last (isLife : life =
      ⟨.kDisconnected, false, [.connectDestroyed], false, 0, [true, false], 0⟩)
      (isRest : rest = []) : Popped life rest .connectDestroyed

theorem Phase.pop {life : Life} (phase : Phase life) {functor : Functor} {rest : List Functor}
    (isHead : life.pending = functor :: rest) : Popped life rest functor := by
  cases phase with
  | connecting =>
      obtain ⟨rfl, rfl⟩ := List.cons.inj isHead
      exact .first rfl rfl
  | @connected pending sends =>
      obtain rfl : pending = functor :: rest := isHead
      have tail : Sends rest := fun other member => sends other (List.mem_cons_of_mem _ member)
      obtain ⟨message, rfl⟩ := sends functor List.mem_cons_self
      exact .between (.connected tail) nofun nofun nofun nofun
  | @disconnecting pending plain =>
      obtain rfl : pending = functor :: rest := isHead
      refine .between (.disconnecting plain.tail) nofun ?_ ?_ fun _ => nofun
      · exact fun isFirst => plain.1 (isFirst ▸ List.mem_cons_self)
      · exact fun isLast => plain.2 (isLast ▸ List.mem_cons_self)
  | @closed pending plain =>
      obtain rfl : pending = functor :: rest := isHead
      refine .between (.closed plain.tail) nofun ?_ ?_ fun _ => nofun
      · exact fun isFirst => plain.1 (isFirst ▸ List.mem_cons_self)
      · exact fun isLast => plain.2 (isLast ▸ List.mem_cons_self)
  | @removed pending plain =>
      cases pending with
      | nil =>
          obtain ⟨rfl, rfl⟩ := List.cons.inj isHead
          exact .last rfl rfl
      | cons head pending =>
          obtain ⟨rfl, rfl⟩ := List.cons.inj isHead
          refine .between (.removed plain.tail) nofun ?_ ?_ fun _ => nofun
          · exact fun isFirst => plain.1 (isFirst ▸ List.mem_cons_self)
          · exact fun isLast => plain.2 (isLast ▸ List.mem_cons_self)
  | destroyed => cases isHead

section Step

variable {c : TcpConnection μ}

theorem Sound.reads_iff (sound : c.Sound) :
    c.reading = true ↔ c.state = .kConnected ∨ c.state = .kDisconnecting :=
  sound.phase.open_iff

/-- The life of an open connection. -/
theorem Sound.open_life (sound : c.Sound)
    (isOpen : c.state = .kConnected ∨ c.state = .kDisconnecting) :
    c.life = ⟨c.state, true, c.pending, true, 0, [true], 0⟩ ∧ Plain c.pending ∧
      (c.state = .kConnected → Sends c.pending) :=
  sound.phase.of_open isOpen

/-! #### Closing -/

theorem handleClose_sound (sound : c.Sound)
    (isOpen : c.state = .kConnected ∨ c.state = .kDisconnecting) :
    ∃ next, c.handleClose = some next ∧ next.Sound := by
  obtain ⟨isLife, plain, -⟩ := sound.open_life isOpen
  refine ⟨_, if_pos isOpen, ⟨?_, ?_, ?_, ?_, ?_⟩, ?_, ?_⟩
  · exact sound.flows.conserved
  · exact fun entry member notTaken => Or.inl rfl
  · exact fun live => absurd rfl live
  · exact fun live => absurd rfl live
  · exact fun _ => rfl
  · exact ⟨sound.ordered.inLoop, sound.ordered.elsewhere⟩
  · have callbacks : c.callbacks = [true] := congrArg Life.callbacks isLife
    have removals : c.removals = 0 := congrArg Life.removals isLife
    have inMap : c.inMap = true := congrArg Life.inMap isLife
    have destroyed : c.destroyed = 0 := congrArg Life.destroyed isLife
    rw [life, callbacks, removals, inMap, destroyed]
    exact .closed plain

/-- An open connection after a change of its state and queue. -/
theorem Sound.reopened {next : TcpConnection μ} (sound : c.Sound)
    (isOpen : c.state = .kConnected ∨ c.state = .kDisconnecting)
    (same : next.life = { c.life with state := .kDisconnecting, pending := next.pending })
    (plain : Plain next.pending) : Phase next.life := by
  obtain ⟨isLife, -⟩ := sound.open_life isOpen
  rw [same, isLife]
  exact .disconnecting plain

theorem shutdownInLoop_flows (flows : c.Flows)
    (closing : c.state ≠ .kDisconnected → c.state = .kDisconnecting) :
    c.shutdownInLoop.Flows := by
  unfold shutdownInLoop
  by_cases writing : c.writing = true
  · rw [if_pos writing]
    exact flows
  · rw [if_neg writing]
    refine ⟨flows.conserved, ?_, flows.drains, ?_, flows.quiet⟩
    · exact fun entry member notTaken => Or.inr (Or.inl rfl)
    · exact fun live _ => ⟨closing live, Bool.eq_false_of_not_eq_true writing⟩

/-- `shutdownInLoop` touches the socket only. -/
theorem shutdownInLoop_sound (sound : c.Sound)
    (closing : c.state ≠ .kDisconnected → c.state = .kDisconnecting) :
    c.shutdownInLoop.Sound := by
  refine ⟨shutdownInLoop_flows sound.flows closing, ?_, ?_⟩
  · unfold shutdownInLoop
    by_cases writing : c.writing = true
    · rw [if_pos writing]
      exact sound.ordered
    · rw [if_neg writing]
      exact ⟨sound.ordered.inLoop, sound.ordered.elsewhere⟩
  · have same : c.shutdownInLoop.life = c.life := by
      unfold shutdownInLoop
      by_cases writing : c.writing = true
      · rw [if_pos writing]
      · rw [if_neg writing]
        rfl
    rw [same]
    exact sound.phase

/-- The output side of an open connection that starts to close. -/
theorem Flows.closing (flows : c.Flows)
    (isOpen : c.state = .kConnected ∨ c.state = .kDisconnecting) (pending : List Functor) :
    { c with state := .kDisconnecting, pending }.Flows := by
  have live : c.state ≠ .kDisconnected := by
    rcases isOpen with isState | isState <;> rw [isState] <;> decide
  refine ⟨flows.conserved, ?_, fun _ => flows.drains live, ?_, flows.quiet⟩
  · intro entry member notTaken
    exact Or.inr ((flows.lost entry member notTaken).resolve_left live)
  · exact fun _ isShut => ⟨rfl, (flows.shut live isShut).2⟩

theorem shutdown_sound (sound : c.Sound) (inLoop : Bool) : (c.shutdown inLoop).Sound := by
  unfold shutdown
  by_cases connected : c.state = .kConnected
  · rw [if_pos connected]
    obtain ⟨-, plain, -⟩ := sound.open_life (Or.inl connected)
    cases inLoop with
    | true =>
        have closing : { c with state := .kDisconnecting }.Sound :=
          ⟨sound.flows.closing (Or.inl connected) c.pending,
            ⟨sound.ordered.inLoop, sound.ordered.elsewhere⟩,
            sound.reopened (Or.inl connected) rfl plain⟩
        exact shutdownInLoop_sound closing fun _ => rfl
    | false =>
        show Sound { c with state := .kDisconnecting, pending := c.pending ++ [.shutdownInLoop] }
        refine ⟨sound.flows.closing (Or.inl connected) (c.pending ++ [.shutdownInLoop]),
          ⟨sound.ordered.inLoop, ?_⟩,
          sound.reopened (Or.inl connected) rfl (plain.append (by decide) (by decide))⟩
        show ofOthers c.handled ++ waiting (c.pending ++ [.shutdownInLoop]) = c.sentElsewhere
        rw [waiting_append, ← sound.ordered.elsewhere]
        exact congrArg (ofOthers c.handled ++ ·) (List.append_nil _)
  · rw [if_neg connected]
    exact sound

theorem forceClose_sound (sound : c.Sound) : c.forceClose.Sound := by
  unfold forceClose
  by_cases isOpen : c.state = .kConnected ∨ c.state = .kDisconnecting
  · rw [if_pos isOpen]
    obtain ⟨-, plain, -⟩ := sound.open_life isOpen
    refine ⟨sound.flows.closing isOpen (c.pending ++ [.forceCloseInLoop]),
      ⟨sound.ordered.inLoop, ?_⟩,
      sound.reopened isOpen rfl (plain.append (by decide) (by decide))⟩
    show ofOthers c.handled ++ waiting (c.pending ++ [.forceCloseInLoop]) = c.sentElsewhere
    rw [waiting_append, ← sound.ordered.elsewhere]
    exact congrArg (ofOthers c.handled ++ ·) (List.append_nil _)
  · rw [if_neg isOpen]
    exact sound

theorem forceCloseInLoop_sound (sound : c.Sound) :
    ∃ next, c.forceCloseInLoop = some next ∧ next.Sound := by
  unfold forceCloseInLoop
  by_cases isOpen : c.state = .kConnected ∨ c.state = .kDisconnecting
  · rw [if_pos isOpen]
    exact handleClose_sound sound isOpen
  · rw [if_neg isOpen]
    exact ⟨c, rfl, sound⟩

/-! #### Sending and receiving -/

theorem send_sound (sound : c.Sound) (inLoop : Bool) (message : Bytes) (result : WriteResult) :
    ∃ next, c.send inLoop message result = some next ∧ next.Sound := by
  unfold send
  by_cases connected : c.state = .kConnected
  · rw [if_pos connected]
    obtain ⟨isLife, plain, onlySends⟩ := sound.open_life (Or.inl connected)
    have sends := onlySends connected
    cases inLoop with
    | true =>
        have flows : { c with sentInLoop := c.sentInLoop ++ [message] }.Flows :=
          ⟨sound.flows.conserved, sound.flows.lost, sound.flows.drains, sound.flows.shut,
            sound.flows.quiet⟩
        have reads : c.state ≠ .kDisconnected → c.reading = true := fun _ =>
          sound.reads_iff.mpr (Or.inl connected)
        obtain ⟨next, sent, handles⟩ := sendInLoop_handles flows reads true message result
        obtain ⟨taken, handled⟩ := handles.handled
        refine ⟨next, sent, handles.flows, ⟨?_, ?_⟩, ?_⟩
        · rw [handled, ofLoop_append, handles.sent.1]
          show ofLoop c.handled ++ [message] = c.sentInLoop ++ [message]
          rw [sound.ordered.inLoop]
        · have pending : next.pending = c.pending := congrArg Life.pending handles.life
          rw [handled, ofOthers_append, handles.sent.2, pending]
          show ofOthers c.handled ++ [] ++ waiting c.pending = c.sentElsewhere
          rw [List.append_nil, sound.ordered.elsewhere]
        · rw [handles.life]
          exact sound.phase
    | false =>
        refine ⟨_, rfl, ⟨sound.flows.conserved, sound.flows.lost, sound.flows.drains,
          sound.flows.shut, sound.flows.quiet⟩, ⟨sound.ordered.inLoop, ?_⟩, ?_⟩
        · show ofOthers c.handled ++ waiting (c.pending ++ [.sendInLoop message]) =
            c.sentElsewhere ++ [message]
          rw [waiting_append, ← List.append_assoc, sound.ordered.elsewhere]
          rfl
        · have same : Life.mk c.state c.reading (c.pending ++ [.sendInLoop message]) c.inMap
              c.removals c.callbacks c.destroyed =
              { c.life with pending := c.pending ++ [.sendInLoop message] } := rfl
          show Phase (Life.mk _ _ _ _ _ _ _)
          rw [same, isLife, connected]
          exact .connected (sends.append message)
  · rw [if_neg connected]
    exact ⟨c, rfl, sound⟩

theorem sendAllInLoop_sound (replies : List (Bytes × WriteResult)) {c : TcpConnection μ}
    (sound : c.Sound) : ∃ next, c.sendAllInLoop replies = some next ∧ next.Sound := by
  induction replies generalizing c with
  | nil => exact ⟨c, rfl, sound⟩
  | cons reply replies inductionHypothesis =>
      obtain ⟨message, result⟩ := reply
      obtain ⟨sent, isSent, sentSound⟩ := send_sound sound true message result
      obtain ⟨next, isNext, nextSound⟩ := inductionHypothesis sentSound
      refine ⟨next, ?_, nextSound⟩
      rw [sendAllInLoop, isSent]
      exact isNext

theorem onInput_sound (codec : ProtobufCodecLite μ) (sound : c.Sound) (data : Bytes)
    (replies : List (Bytes × WriteResult)) :
    ∃ next, c.onInput codec data replies = some next ∧ next.Sound := by
  obtain ⟨left, received, -⟩ := codec.receive_eq c.input data
  have withInput (input : Received μ) : { c with input }.Sound :=
    ⟨⟨sound.flows.conserved, sound.flows.lost, sound.flows.drains, sound.flows.shut,
      sound.flows.quiet⟩, ⟨sound.ordered.inLoop, sound.ordered.elsewhere⟩, sound.phase⟩
  obtain ⟨next, sent, nextSound⟩ := sendAllInLoop_sound replies (withInput _)
  rw [onInput, received]
  dsimp only [Option.bind_eq_bind, Option.bind_some]
  rw [sent]
  by_cases fine : (c.input.errors ++
      (codec.framing.decode (c.input.inputBuffer.contents ++ data)).error.toList).length =
      c.input.errors.length
  · refine ⟨next, ?_, nextSound⟩
    rw [Option.bind_some, if_pos fine]
    rfl
  · refine ⟨next.shutdown true, ?_, shutdown_sound nextSound true⟩
    rw [Option.bind_some, if_neg fine]
    rfl

theorem handleRead_sound (codec : ProtobufCodecLite μ) (sound : c.Sound)
    (reading : c.reading = true) (result : ReadResult) :
    ∃ next, c.handleRead codec result = some next ∧ next.Sound := by
  cases result with
  | failed => exact ⟨c, rfl, sound⟩
  | data bytes replies =>
      by_cases ended : bytes = []
      · obtain ⟨next, closed, nextSound⟩ :=
          handleClose_sound sound (sound.reads_iff.mp reading)
        exact ⟨next, (if_pos ended).trans closed, nextSound⟩
      · obtain ⟨next, read, nextSound⟩ := onInput_sound codec sound bytes replies
        exact ⟨next, (if_neg ended).trans read, nextSound⟩

/-- The socket never takes more than there is. -/
theorem socketWrite_le {len n : Nat} {result : WriteResult}
    (took : c.socketWrite len result = some n) : n ≤ len := by
  unfold socketWrite at took
  cases result with
  | wrote k =>
      dsimp only at took
      by_cases isShut : c.writeShut = true
      · rw [if_pos isShut] at took
        cases took
      · rw [if_neg isShut, Option.some_inj] at took
        rw [← took]
        exact Nat.min_le_right _ _
  | wouldBlock => cases took
  | broken => cases took
  | failed => cases took

/-- Bytes from the output buffer go to the wire, and what is left stays. -/
theorem Sound.moved (sound : c.Sound) (writing : c.writing = true) {n : Nat}
    {output : Buffer} (left : output.contents = c.outputBuffer.contents.drop n) :
    ∀ still, (still = true ↔ output.contents ≠ []) →
      { c with
        wire := c.wire ++ c.outputBuffer.contents.take n
        outputBuffer := output
        writing := still }.Sound := by
  intro still isStill
  have reading : c.reading = true := by
    by_contra notReading
    cases writing.symm.trans (sound.flows.quiet (Bool.eq_false_of_not_eq_true notReading))
  refine ⟨⟨?_, sound.flows.lost, fun _ => isStill, ?_, ?_⟩,
    ⟨sound.ordered.inLoop, sound.ordered.elsewhere⟩, sound.phase⟩
  · show c.wire ++ c.outputBuffer.contents.take n ++ output.contents = takenBytes c.handled
    rw [left, List.append_assoc, List.take_append_drop, sound.flows.conserved]
  · intro live isShut
    cases writing.symm.trans (sound.flows.shut live isShut).2
  · intro notReading
    cases reading.symm.trans notReading

theorem handleWrite_sound (sound : c.Sound) (result : WriteResult) :
    ∃ next, c.handleWrite result = some next ∧ next.Sound := by
  unfold handleWrite
  by_cases writing : c.writing = true
  · rw [if_pos writing]
    cases took : c.socketWrite c.outputBuffer.readableBytes result with
    | none => exact ⟨c, rfl, sound⟩
    | some n =>
        by_cases nothing : n = 0
        · exact ⟨c, if_pos nothing, sound⟩
        · dsimp only
          rw [if_neg nothing]
          have fits : n ≤ c.outputBuffer.contents.length := by
            rw [Buffer.length_contents]
            exact socketWrite_le took
          rcases Buffer.retrieve_cases n c.outputBuffer with
            ⟨-, output, retrieved, left, -⟩ | ⟨short, -⟩
          · rw [retrieved]
            dsimp only [Option.bind_eq_bind, Option.bind_some]
            by_cases empty : output.readableBytes = 0
            · rw [if_pos empty]
              have drained := sound.moved writing left false (by
                rw [iff_false_left Bool.false_ne_true, not_not]
                apply List.eq_nil_of_length_eq_zero
                rw [Buffer.length_contents, empty])
              by_cases closing : c.state = .kDisconnecting
              · rw [if_pos closing]
                exact ⟨_, rfl, shutdownInLoop_sound drained fun _ => closing⟩
              · rw [if_neg closing]
                exact ⟨_, rfl, drained⟩
            · rw [if_neg empty]
              have more := sound.moved writing left true (by
                refine iff_of_true rfl fun isNil => empty ?_
                rw [← Buffer.length_contents, isNil]
                rfl)
              refine ⟨_, rfl, ?_⟩
              rw [← writing] at more
              exact more
          · exact absurd fits (Nat.not_le_of_lt short)
  · rw [if_neg writing]
    exact ⟨c, rfl, sound⟩

theorem handleWritable_sound (sound : c.Sound) (writable : Option WriteResult) :
    ∃ next, c.handleWritable writable = some next ∧ next.Sound := by
  cases writable with
  | none => exact ⟨c, rfl, sound⟩
  | some result => exact handleWrite_sound sound result

theorem handleHup_sound (sound : c.Sound) (reading : c.reading = true) (revents : Revents) :
    ∃ next, c.handleHup revents = some next ∧ next.Sound := by
  unfold handleHup
  by_cases hup : (revents.hup && revents.readable.isNone) = true
  · rw [if_pos hup]
    exact handleClose_sound sound (sound.reads_iff.mp reading)
  · rw [if_neg hup]
    exact ⟨c, rfl, sound⟩

/-- A hang-up closes only when there is nothing to read, so that the connection
is not closed twice. -/
theorem handleEvent_sound (codec : ProtobufCodecLite μ) (sound : c.Sound) (revents : Revents) :
    ∃ next, c.handleEvent codec revents = some next ∧ next.Sound := by
  unfold handleEvent
  by_cases reading : c.reading = true
  · rw [if_pos reading]
    have afterRead : ∃ next, ((c.handleHup revents).bind fun c =>
        c.handleReadable codec revents.readable) = some next ∧ next.Sound := by
      cases readable : revents.readable with
      | none =>
          obtain ⟨next, isNext, nextSound⟩ := handleHup_sound sound reading revents
          refine ⟨next, ?_, nextSound⟩
          rw [isNext]
          rfl
      | some result =>
          have noHup : c.handleHup revents = some c := by
            rw [handleHup, readable, Option.isNone_some, Bool.and_false]
            rfl
          obtain ⟨next, read, nextSound⟩ := handleRead_sound codec sound reading result
          refine ⟨next, ?_, nextSound⟩
          rw [noHup]
          exact read
    obtain ⟨read, isRead, readSound⟩ := afterRead
    obtain ⟨next, wrote, nextSound⟩ := handleWritable_sound readSound revents.writable
    refine ⟨next, ?_, nextSound⟩
    dsimp only [Option.bind_eq_bind]
    rw [← Option.bind_assoc, isRead]
    exact wrote
  · rw [if_neg reading]
    exact ⟨c, rfl, sound⟩

/-! #### The loops -/

theorem connectEstablished_sound (sound : c.Sound)
    (isLife : c.life = ⟨.kConnecting, false, [.connectEstablished], true, 0, [], 0⟩) :
    ∃ next, { c with pending := [] }.connectEstablished = some next ∧ next.Sound := by
  have state : c.state = .kConnecting := congrArg Life.state isLife
  have pending : c.pending = [.connectEstablished] := congrArg Life.pending isLife
  have live : c.state ≠ .kDisconnected := by
    rw [state]
    decide
  refine ⟨_, if_pos state, ⟨sound.flows.conserved, ?_, fun _ => sound.flows.drains live, ?_, ?_⟩,
    ⟨sound.ordered.inLoop, ?_⟩, ?_⟩
  · intro entry member notTaken
    exact Or.inr ((sound.flows.lost entry member notTaken).resolve_left live)
  · intro _ isShut
    have isClosing := (sound.flows.shut live isShut).1
    cases state.symm.trans isClosing
  · intro notReading
    cases notReading
  · have elsewhere := sound.ordered.elsewhere
    rw [pending] at elsewhere
    exact elsewhere
  · have callbacks : c.callbacks = [] := congrArg Life.callbacks isLife
    have removals : c.removals = 0 := congrArg Life.removals isLife
    have inMap : c.inMap = true := congrArg Life.inMap isLife
    have destroyed : c.destroyed = 0 := congrArg Life.destroyed isLife
    rw [life, callbacks, removals, inMap, destroyed]
    exact .connected fun functor member => absurd member List.not_mem_nil

theorem connectDestroyed_sound (sound : c.Sound)
    (isLife : c.life = ⟨.kDisconnected, false, [.connectDestroyed], false, 0, [true, false], 0⟩) :
    ∃ next, { c with pending := [] }.connectDestroyed = some next ∧ next.Sound := by
  have state : c.state = .kDisconnected := congrArg Life.state isLife
  have reading : c.reading = false := congrArg Life.reading isLife
  have pending : c.pending = [.connectDestroyed] := congrArg Life.pending isLife
  have writing := sound.flows.quiet reading
  have notConnected : c.state ≠ .kConnected := by
    rw [state]
    decide
  refine ⟨{ c with pending := [], destroyed := c.destroyed + 1 }, ?_,
    ⟨sound.flows.conserved, sound.flows.lost, sound.flows.drains, sound.flows.shut,
      sound.flows.quiet⟩, ⟨sound.ordered.inLoop, ?_⟩, ?_⟩
  · rw [connectDestroyed]
    dsimp only
    rw [if_neg notConnected]
    refine if_neg ?_
    rw [reading, writing]
    decide
  · have elsewhere := sound.ordered.elsewhere
    rw [pending] at elsewhere
    exact elsewhere
  · have callbacks : c.callbacks = [true, false] := congrArg Life.callbacks isLife
    have removals : c.removals = 0 := congrArg Life.removals isLife
    have inMap : c.inMap = false := congrArg Life.inMap isLife
    have destroyed : c.destroyed = 0 := congrArg Life.destroyed isLife
    rw [life, callbacks, removals, inMap, destroyed, state, reading]
    exact .destroyed

/-- A message that waited goes the way of any other. -/
theorem sendPending_sound (sound : c.Sound) {message : Bytes} {rest : List Functor}
    (isHead : c.pending = .sendInLoop message :: rest)
    (phase : Phase { c.life with pending := rest }) (begun : c.state ≠ .kConnecting)
    (result : WriteResult) :
    ∃ next, { c with pending := rest }.sendInLoop false message result = some next ∧
      next.Sound := by
  have flows : { c with pending := rest }.Flows :=
    ⟨sound.flows.conserved, sound.flows.lost, sound.flows.drains, sound.flows.shut,
      sound.flows.quiet⟩
  have reads : c.state ≠ .kDisconnected → c.reading = true := by
    intro live
    rw [sound.reads_iff]
    cases state : c.state with
    | kDisconnected => exact absurd state live
    | kConnecting => exact absurd state begun
    | kConnected => exact Or.inl rfl
    | kDisconnecting => exact Or.inr rfl
  obtain ⟨next, sent, handles⟩ := sendInLoop_handles flows reads false message result
  obtain ⟨taken, handled⟩ := handles.handled
  have pending : next.pending = rest := congrArg Life.pending handles.life
  refine ⟨next, sent, handles.flows, ⟨?_, ?_⟩, ?_⟩
  · rw [handled, ofLoop_append, handles.sent.1]
    show ofLoop c.handled ++ [] = c.sentInLoop
    rw [List.append_nil, sound.ordered.inLoop]
  · have elsewhere := sound.ordered.elsewhere
    rw [isHead] at elsewhere
    rw [handled, ofOthers_append, handles.sent.2, pending, List.append_assoc]
    exact elsewhere
  · rw [handles.life]
    exact phase

/-- The oldest functor runs. -/
theorem doPendingFunctor_sound (codec : ProtobufCodecLite μ) (sound : c.Sound)
    (result : WriteResult) :
    ∃ next, c.step codec (.doPendingFunctor result) = some next ∧ next.Sound := by
  unfold step
  cases isPending : c.pending with
  | nil => exact ⟨c, rfl, sound⟩
  | cons functor rest =>
      dsimp only
      have popped := sound.phase.pop (show c.life.pending = functor :: rest from isPending)
      cases popped with
      | first isLife isRest =>
          rw [isRest]
          exact connectEstablished_sound sound isLife
      | last isLife isRest =>
          rw [isRest]
          exact connectDestroyed_sound sound isLife
      | between phase begun notFirst notLast closing =>
          cases functor with
          | connectEstablished => exact absurd rfl notFirst
          | connectDestroyed => exact absurd rfl notLast
          | sendInLoop message => exact sendPending_sound sound isPending phase begun result
          | shutdownInLoop =>
              have elsewhere := sound.ordered.elsewhere
              rw [isPending] at elsewhere
              have popped : { c with pending := rest }.Sound :=
                ⟨⟨sound.flows.conserved, sound.flows.lost, sound.flows.drains, sound.flows.shut,
                  sound.flows.quiet⟩, ⟨sound.ordered.inLoop, elsewhere⟩, phase⟩
              refine ⟨_, rfl, shutdownInLoop_sound popped ?_⟩
              intro live
              cases state : c.state with
              | kDisconnected => exact absurd state live
              | kConnecting => exact absurd state begun
              | kConnected => exact absurd state (closing rfl)
              | kDisconnecting => rfl
          | forceCloseInLoop =>
              have elsewhere := sound.ordered.elsewhere
              rw [isPending] at elsewhere
              have popped : { c with pending := rest }.Sound :=
                ⟨⟨sound.flows.conserved, sound.flows.lost, sound.flows.drains, sound.flows.shut,
                  sound.flows.quiet⟩, ⟨sound.ordered.inLoop, elsewhere⟩, phase⟩
              exact forceCloseInLoop_sound popped

/-- A connection whose removal waits is closed and still in the map. -/
theorem Phase.of_removal {life : Life} (phase : Phase life) (waits : life.removals ≠ 0) :
    life = ⟨.kDisconnected, false, life.pending, true, 1, [true, false], 0⟩ ∧
      Plain life.pending := by
  cases phase with
  | closed plain => exact ⟨rfl, plain⟩
  | connecting => exact absurd rfl waits
  | connected sends => exact absurd rfl waits
  | disconnecting plain => exact absurd rfl waits
  | removed plain => exact absurd rfl waits
  | destroyed => exact absurd rfl waits

/-- The server's loop erases the connection once. -/
theorem doRemoval_sound (codec : ProtobufCodecLite μ) (sound : c.Sound) :
    ∃ next, c.step codec .doRemoval = some next ∧ next.Sound := by
  unfold step
  by_cases none : c.removals = 0
  · exact ⟨c, if_pos none, sound⟩
  · obtain ⟨isLife, plain⟩ := sound.phase.of_removal none
    have inMap : c.inMap = true := congrArg Life.inMap isLife
    have state : c.state = .kDisconnected := congrArg Life.state isLife
    have reading : c.reading = false := congrArg Life.reading isLife
    have callbacks : c.callbacks = [true, false] := congrArg Life.callbacks isLife
    have removals : c.removals = 1 := congrArg Life.removals isLife
    have destroyed : c.destroyed = 0 := congrArg Life.destroyed isLife
    refine ⟨{ c with
        removals := c.removals - 1
        inMap := false
        pending := c.pending ++ [.connectDestroyed] }, ?_,
      ⟨sound.flows.conserved, sound.flows.lost, sound.flows.drains, sound.flows.shut,
        sound.flows.quiet⟩, ⟨sound.ordered.inLoop, ?_⟩, ?_⟩
    · dsimp only
      rw [if_neg none]
      exact if_pos inMap
    · show ofOthers c.handled ++ waiting (c.pending ++ [.connectDestroyed]) = c.sentElsewhere
      rw [waiting_append, ← sound.ordered.elsewhere]
      exact congrArg (ofOthers c.handled ++ ·) (List.append_nil _)
    · rw [life, state, reading, callbacks, removals, destroyed]
      exact .removed plain

theorem step_sound (codec : ProtobufCodecLite μ) (sound : c.Sound) (event : Event) :
    ∃ next, c.step codec event = some next ∧ next.Sound := by
  cases event with
  | send inLoop message result => exact send_sound sound inLoop message result
  | shutdown inLoop => exact ⟨_, rfl, shutdown_sound sound inLoop⟩
  | forceClose => exact ⟨_, rfl, forceClose_sound sound⟩
  | handleEvent revents => exact handleEvent_sound codec sound revents
  | doPendingFunctor result => exact doPendingFunctor_sound codec sound result
  | doRemoval => exact doRemoval_sound codec sound

end Step

/-- Every run goes on, and everything holds at its end. -/
theorem runFrom_sound (codec : ProtobufCodecLite μ) (events : List Event) :
    ∃ last, runFrom codec events = some last ∧ last.Sound := by
  induction events using List.reverseRecOn with
  | nil => exact ⟨newConnection, rfl, sound_newConnection⟩
  | append_singleton events event inductionHypothesis =>
      obtain ⟨last, isLast, lastSound⟩ := inductionHypothesis
      obtain ⟨next, stepped, nextSound⟩ := step_sound codec lastSound event
      refine ⟨next, ?_, nextSound⟩
      rw [runFrom, List.foldlM_append, ← runFrom, isLast]
      show step codec last event >>= pure = some next
      rw [stepped]
      rfl

end TcpConnection

end AimServer.Muduo
