import AimServer.Net.ProtobufCodecLite
import AimServer.ProtoWire

/-!
Contract: what the bytes of a connection become.

Owns: the reading of bytes as they arrive, that it does not depend on how they
are cut, which bytes become messages, that what the codec writes is what it
reads, and what happens after a frame that is none.

Does not own: the frame itself, and what is done with a message.
-/

namespace AimServer

open AimServer.Lib AimServer.Muduo

namespace ProtobufCodecLite

variable {μ : Type}

/-- What a connection has read: the messages handed over, its input buffer, and
the errors reported. -/
structure Received (μ : Type) where
  messages : List μ
  inputBuffer : Buffer
  errors : List ErrorCode

/-- A connection that has read nothing. -/
def Received.none : Received μ :=
  ⟨[], .new kInitialSize, []⟩

/-- `handleRead` with so many bytes: `readFd`, then `onMessage`. -/
def receive (codec : ProtobufCodecLite μ) (state : Received μ) (data : Bytes) :
    Option (Received μ) := do
  let buf ← state.inputBuffer.readFd data
  let (messages, buf, error) ← codec.onMessage buf
  return ⟨state.messages ++ messages, buf, state.errors ++ error.toList⟩

def receiveAll (codec : ProtobufCodecLite μ) (pieces : List Bytes) : Option (Received μ) :=
  pieces.foldlM codec.receive .none

/-- The bytes of messages sent one after the other. -/
def sendAll (codec : ProtobufCodecLite μ) (sent : List μ) : Option Bytes :=
  (sent.mapM codec.send).map List.flatten

section Receive

variable (codec : ProtobufCodecLite μ)

/-- What has been read of a stream. -/
def Received.IsOf (state : Received μ) (stream : Bytes) : Prop :=
  state.messages = (codec.framing.decode stream).messages ∧
    state.inputBuffer.contents = (codec.framing.decode stream).rest ∧
    (state.errors = [] ↔ (codec.framing.decode stream).error = .none)

theorem received_none : (Received.none : Received μ).IsOf codec [] := by
  rw [Received.IsOf, codec.framing.decode_of_more codec.framing_waits]
  exact ⟨rfl, Buffer.contents_new _, iff_of_true rfl rfl⟩

/-- What arrives is read behind what is in the buffer, and no assertion fails. -/
theorem receive_eq (state : Received μ) (data : Bytes) :
    ∃ left, codec.receive state data =
        some ⟨state.messages ++
            (codec.framing.decode (state.inputBuffer.contents ++ data)).messages, left,
          state.errors ++
            (codec.framing.decode (state.inputBuffer.contents ++ data)).error.toList⟩ ∧
      left.contents = (codec.framing.decode (state.inputBuffer.contents ++ data)).rest := by
  obtain ⟨filled, read, hasRead, -⟩ := Buffer.readFd_eq data state.inputBuffer
  obtain ⟨left, looped, isLeft⟩ := codec.onMessage_eq filled
  rw [hasRead] at looped isLeft
  refine ⟨left, ?_, isLeft⟩
  rw [receive, read]
  dsimp only [Option.bind_eq_bind, Option.bind_some]
  rw [looped]
  rfl

variable {codec}

/-- What was handed over stays so. -/
theorem receive_messages {state next : Received μ} {data : Bytes}
    (received : codec.receive state data = some next) :
    ∃ fresh, next.messages = state.messages ++ fresh := by
  obtain ⟨left, isNext, -⟩ := codec.receive_eq state data
  cases Option.some.inj (received.symm.trans isNext)
  exact ⟨_, rfl⟩

theorem receive_isOf {state : Received μ} {stream : Bytes} (isOf : state.IsOf codec stream)
    (data : Bytes) :
    ∃ next, codec.receive state data = some next ∧ next.IsOf codec (stream ++ data) := by
  obtain ⟨messages, rest, errors⟩ := isOf
  obtain ⟨left, received, isLeft⟩ := codec.receive_eq state data
  have appended := codec.framing.decode_append stream data
  rw [rest] at received isLeft
  refine ⟨_, received, ?_, ?_, ?_⟩
  · rw [appended, messages]
  · rw [appended, isLeft]
  · dsimp only
    cases outcome : (codec.framing.decode stream).error with
    | none =>
        rw [errors.mpr outcome, List.nil_append, appended]
        exact Option.toList_eq_nil_iff
    | some error =>
        have failed : state.errors ≠ [] := by
          intro isNil
          cases outcome.symm.trans (errors.mp isNil)
        rw [codec.framing.decode_append_of_error outcome]
        constructor
        · intro isNil
          exact absurd (List.append_eq_nil_iff.mp isNil).1 failed
        · intro isNone
          cases isNone

variable (codec) in
/-- However a stream is cut, its reading is that of the whole. -/
theorem receiveAll_isOf (pieces : List Bytes) :
    ∃ state, codec.receiveAll pieces = some state ∧ state.IsOf codec pieces.flatten := by
  induction pieces using List.reverseRecOn with
  | nil => exact ⟨.none, rfl, codec.received_none⟩
  | append_singleton pieces data inductionHypothesis =>
      obtain ⟨state, received, isOf⟩ := inductionHypothesis
      obtain ⟨next, made, isNext⟩ := receive_isOf isOf data
      refine ⟨next, ?_, ?_⟩
      · rw [receiveAll, List.foldlM_append, ← receiveAll, received]
        show codec.receive state data >>= pure = some next
        rw [made]
        rfl
      · rw [List.flatten_append, List.flatten_singleton]
        exact isNext

end Receive

section Frames

variable {codec : ProtobufCodecLite μ}

variable (codec) in
/-- The reader takes the frame of a message. -/
def fits (message : μ) : Bool :=
  codec.frameLength (codec.serialize message) ≤ kMaxMessageLen

theorem sendAll_eq (codec : ProtobufCodecLite μ) (sent : List μ) :
    codec.sendAll sent = some (sent.flatMap fun message =>
      AimServer.fillEmptyBuffer codec.tag (codec.serialize message)) := by
  have each : sent.mapM codec.send = some (sent.map fun message =>
      AimServer.fillEmptyBuffer codec.tag (codec.serialize message)) := by
    induction sent with
    | nil => rfl
    | cons message sent inductionHypothesis =>
        rw [List.mapM_cons, send_eq, inductionHypothesis]
        rfl
  rw [sendAll, each, Option.map_some, List.flatMap_def]

/-- Frames are read up to the first that does not fit. -/
theorem decode_sent {sent : List μ}
    (readsBack : ∀ message ∈ sent,
      codec.parseFromBuffer (codec.serialize message) = some message)
    (written : ∀ message ∈ sent, codec.frameLength (codec.serialize message) < 2 ^ 32) :
    (codec.framing.decode (sent.flatMap fun message =>
        AimServer.fillEmptyBuffer codec.tag (codec.serialize message))).messages =
        sent.takeWhile codec.fits ∧
      ((codec.framing.decode (sent.flatMap fun message =>
        AimServer.fillEmptyBuffer codec.tag (codec.serialize message))).error = none ↔
        ∀ message ∈ sent, codec.fits message = true) := by
  induction sent with
  | nil =>
      rw [List.flatMap_nil, codec.framing.decode_of_more codec.framing_waits]
      exact ⟨rfl, iff_of_true rfl fun message member => absurd member List.not_mem_nil⟩
  | cons message sent inductionHypothesis =>
      obtain ⟨messages, error⟩ := inductionHypothesis
        (fun other member => readsBack other (List.mem_cons_of_mem _ member))
        (fun other member => written other (List.mem_cons_of_mem _ member))
      rw [List.flatMap_cons, List.takeWhile_cons, List.forall_mem_cons]
      by_cases fit : codec.fits message = true
      · have reads := front_frame (of_decide_eq_true fit) (sent.flatMap fun message =>
          AimServer.fillEmptyBuffer codec.tag (codec.serialize message))
        rw [readsBack message List.mem_cons_self] at reads
        rw [codec.framing.decode_of_message reads, List.drop_left, if_pos fit]
        exact ⟨congrArg _ messages, error.trans (and_iff_right fit).symm⟩
      · have large : kMaxMessageLen < codec.frameLength (codec.serialize message) :=
          Nat.lt_of_not_le fun small => fit (decide_eq_true small)
        have isBad := front_large large (written message List.mem_cons_self)
          (sent.flatMap fun message =>
            AimServer.fillEmptyBuffer codec.tag (codec.serialize message))
        rw [codec.framing.decode_of_bad isBad, if_neg fit]
        refine ⟨rfl, iff_of_false ?_ fun all => fit all.1⟩
        intro isNone
        cases isNone

/-- What the codec sends, it reads, however the bytes are cut on the way: the
messages in their order, up to the first whose frame is over the limit, where
the reading ends with an error. -/
theorem sent_received (codec : ProtobufCodecLite μ) {sent : List μ} {pieces : List Bytes}
    (readsBack : ∀ message ∈ sent,
      codec.parseFromBuffer (codec.serialize message) = some message)
    (written : ∀ message ∈ sent, codec.frameLength (codec.serialize message) < 2 ^ 32)
    (cut : codec.sendAll sent = some pieces.flatten) :
    ∃ state, codec.receiveAll pieces = some state ∧
      state.messages = sent.takeWhile codec.fits ∧
      (state.errors = [] ↔ ∀ message ∈ sent, codec.fits message = true) := by
  obtain ⟨state, received, messages, -, errors⟩ := codec.receiveAll_isOf pieces
  obtain ⟨read, outcome⟩ := decode_sent readsBack written
  rw [sendAll_eq, Option.some_inj] at cut
  rw [cut] at read outcome
  exact ⟨state, received, messages.trans read, errors.trans outcome⟩

/-- A login that arrives in two pieces. -/
theorem sent_received_login :
    ∃ state, (IMCodec.codec wireProto).receiveAll
        [(IMCodec.send wireProto (MsgType.login.container [])).take 5,
          (IMCodec.send wireProto (MsgType.login.container [])).drop 5] = some state ∧
      state.messages = [MsgType.login.container []].takeWhile (IMCodec.codec wireProto).fits ∧
      (state.errors = [] ↔ ∀ message ∈ [MsgType.login.container []],
        (IMCodec.codec wireProto).fits message = true) := by
  refine sent_received (IMCodec.codec wireProto) ?_ ?_ ?_
  · decide
  · decide
  · rw [sendAll_eq]
    simp [IMCodec.codec, IMCodec.send]

variable (codec) in
/-- The bytes are the frame of a body that the parser takes for the message. -/
def IsFrame (bytes : Bytes) (message : μ) : Prop :=
  ∃ body, bytes = AimServer.fillEmptyBuffer codec.tag body ∧
    codec.frameLength body ≤ kMaxMessageLen ∧ codec.parseFromBuffer body = some message

theorem isFrame_take {input : Bytes} {message : μ} {length : Nat}
    (reads : codec.framing.front input = .message message length) :
    codec.IsFrame (input.take length) message := by
  obtain ⟨body, fit, parsed, isLength, split⟩ := front_message reads
  refine ⟨body, ?_, fit, parsed⟩
  rw [split, List.take_left' isLength.symm]

/-- The bodies of frames that are read. -/
theorem bodies_of_frames {frames : List Bytes} {messages : List μ}
    (areFrames : List.Forall₂ codec.IsFrame frames messages) :
    ∃ bodies : List Bytes, bodies.mapM codec.parseFromBuffer = some messages ∧
      (∀ body ∈ bodies, codec.frameLength body ≤ kMaxMessageLen) ∧
      frames.flatten = bodies.flatMap (AimServer.fillEmptyBuffer codec.tag) := by
  induction areFrames with
  | nil => exact ⟨[], rfl, fun body member => absurd member List.not_mem_nil, rfl⟩
  | cons isFrame areFrames inductionHypothesis =>
      obtain ⟨body, isBytes, fit, parsed⟩ := isFrame
      obtain ⟨bodies, allParsed, allFit, together⟩ := inductionHypothesis
      refine ⟨body :: bodies, ?_, List.forall_mem_cons.mpr ⟨fit, allFit⟩, ?_⟩
      · rw [List.mapM_cons, parsed, allParsed]
        rfl
      · rw [List.flatten_cons, List.flatMap_cons, isBytes, together]

/-- From any bytes, what is handed over is what stands in frames just as the
codec writes them, one after the other from the start. The rest stays in the
buffer, and no such frame starts it; it is an error or a beginning. -/
theorem received_frames (codec : ProtobufCodecLite μ) (pieces : List Bytes) :
    ∃ (state : Received μ) (bodies : List Bytes),
      codec.receiveAll pieces = some state ∧
      bodies.mapM codec.parseFromBuffer = some state.messages ∧
      (∀ body ∈ bodies, codec.frameLength body ≤ kMaxMessageLen) ∧
      pieces.flatten =
        bodies.flatMap (AimServer.fillEmptyBuffer codec.tag) ++ state.inputBuffer.contents ∧
      (∀ body later,
        state.inputBuffer.contents = AimServer.fillEmptyBuffer codec.tag body ++ later →
        codec.frameLength body ≤ kMaxMessageLen → codec.parseFromBuffer body = none) ∧
      (state.errors = [] ↔ codec.front state.inputBuffer.contents = .more) := by
  obtain ⟨state, received, messages, rest, errors⟩ := codec.receiveAll_isOf pieces
  obtain ⟨frames, areFrames, whole⟩ := codec.framing.decode_frames isFrame_take pieces.flatten
  obtain ⟨bodies, parsed, allFit, together⟩ := bodies_of_frames areFrames
  have stopped : codec.front state.inputBuffer.contents = .more ∧
        (codec.framing.decode pieces.flatten).error = none ∨
      ∃ error, codec.front state.inputBuffer.contents = .bad error ∧
        (codec.framing.decode pieces.flatten).error = some error := by
    rw [rest]
    cases outcome : (codec.framing.decode pieces.flatten).error with
    | none => exact Or.inl ⟨codec.framing.decode_rest_of_none outcome, rfl⟩
    | some error => exact Or.inr ⟨error, codec.framing.decode_rest_of_error outcome, rfl⟩
  refine ⟨state, bodies, received, ?_, allFit, ?_, ?_, ?_⟩
  · rw [parsed, messages]
  · rw [← together, rest, whole]
  · intro body later starts fit
    have reads : codec.front (AimServer.fillEmptyBuffer codec.tag body ++ later) = _ :=
      front_frame fit later
    rw [← starts] at reads
    cases read : codec.parseFromBuffer body with
    | none => rfl
    | some message =>
        rw [read] at reads
        rcases stopped with ⟨isMore, -⟩ | ⟨error, isBad, -⟩
        · cases reads.symm.trans isMore
        · cases reads.symm.trans isBad
  · rw [errors]
    rcases stopped with ⟨isMore, noError⟩ | ⟨error, isBad, failed⟩
    · exact iff_of_true noError isMore
    · rw [failed, isBad]
      refine iff_of_false ?_ ?_
      · intro isNone
        cases isNone
      · intro isMore
        cases isMore

end Frames

end ProtobufCodecLite

end AimServer
