import AimServer.Net.ConnectionSteps
import AimServer.ProtoWire

/-!
Contract: what a connection does over its whole life.

Owns: that every message taken is on the wire or in the buffer, whole and in
the order of its sender, that only a shut or broken connection loses one, that
the write side is shut when all is written, the phases from the first callback
to the destruction, and what the peer reads.

Does not own: the steps, which `Net.ConnectionSteps` settles.
-/

namespace AimServer.Muduo

open AimServer.Lib AimServer.Lib.Framing ProtobufCodecLite

namespace TcpConnection

variable {μ : Type}

section Peer

variable {codec : ProtobufCodecLite μ}

variable (codec) in
/-- The bytes are what the codec sends for a message that can be read. -/
def IsSent (bytes : Bytes) : Prop :=
  ∃ message, bytes = AimServer.fillEmptyBuffer codec.tag (codec.serialize message) ∧
    codec.fits message = true ∧ codec.parseFromBuffer (codec.serialize message) = some message

theorem messages_of_sent {blobs : List Bytes} (allSent : ∀ bytes ∈ blobs, IsSent codec bytes) :
    ∃ messages : List μ,
      blobs = messages.map (fun message =>
        AimServer.fillEmptyBuffer codec.tag (codec.serialize message)) ∧
      ∀ message ∈ messages, codec.framing.Reads
        (fun message => AimServer.fillEmptyBuffer codec.tag (codec.serialize message))
        message := by
  induction blobs with
  | nil => exact ⟨[], rfl, fun message member => absurd member List.not_mem_nil⟩
  | cons bytes blobs inductionHypothesis =>
      obtain ⟨message, isBytes, fit, readsBack⟩ := allSent bytes List.mem_cons_self
      obtain ⟨messages, isBlobs, read⟩ :=
        inductionHypothesis fun other member => allSent other (List.mem_cons_of_mem _ member)
      refine ⟨message :: messages, ?_, List.forall_mem_cons.mpr ⟨?_, read⟩⟩
      · rw [List.map_cons, isBytes, isBlobs]
      · have reads := front_frame (of_decide_eq_true fit) []
        rw [readsBack, List.append_nil] at reads
        exact reads

/-- What was handled came from a sender. -/
theorem mem_sent {c : TcpConnection μ} (ordered : c.Ordered) {entry : Handled}
    (member : entry ∈ c.handled) : entry.message ∈ c.sentInLoop ++ c.sentElsewhere := by
  rw [List.mem_append, ← ordered.inLoop, ← ordered.elsewhere]
  cases fromLoop : entry.fromLoop with
  | true =>
      exact Or.inl (List.mem_map_of_mem (List.mem_filter.mpr ⟨member, fromLoop⟩))
  | false =>
      refine Or.inr (List.mem_append_left _ (List.mem_map_of_mem ?_))
      refine List.mem_filter.mpr ⟨member, ?_⟩
      rw [fromLoop]
      rfl

/-- When everything sent is a frame the codec can read, the peer reads from
what has arrived, however it is cut, the messages taken, in their order, none
twice and none in part; and all of them, when all is written and has arrived. -/
theorem peer_reads {events : List Event} {last : TcpConnection μ}
    (isLast : runFrom codec events = some last)
    (allSent : ∀ bytes ∈ last.sentInLoop ++ last.sentElsewhere, IsSent codec bytes)
    {pieces : List Bytes} (arrived : pieces.flatten <+: last.wire) :
    ∃ (messages : List μ) (state : Received μ),
      (last.handled.filter Handled.taken).map Handled.message =
        messages.map (fun message =>
          AimServer.fillEmptyBuffer codec.tag (codec.serialize message)) ∧
      codec.receiveAll pieces = some state ∧ state.errors = [] ∧
      state.messages <+: messages ∧
      (pieces.flatten = last.wire → last.outputBuffer.contents = [] →
        state.messages = messages) := by
  obtain ⟨other, isOther, flows, ordered, -⟩ := runFrom_sound codec events
  cases Option.some.inj (isLast.symm.trans isOther)
  obtain ⟨state, received, read, -, errors⟩ := codec.receiveAll_isOf pieces
  have taken : ∀ bytes ∈ (last.handled.filter Handled.taken).map Handled.message,
      IsSent codec bytes := by
    intro bytes member
    obtain ⟨entry, isEntry, rfl⟩ := List.mem_map.mp member
    exact allSent _ (mem_sent ordered (List.mem_filter.mp isEntry).1)
  obtain ⟨messages, isFrames, reads⟩ := messages_of_sent taken
  have whole : messages.flatMap (fun message =>
      AimServer.fillEmptyBuffer codec.tag (codec.serialize message)) =
      last.wire ++ last.outputBuffer.contents := by
    rw [flows.conserved, takenBytes, List.flatMap_def, List.flatMap_def, isFrames]
  obtain ⟨missing, isWire⟩ := arrived
  have split : messages.flatMap (fun message =>
      AimServer.fillEmptyBuffer codec.tag (codec.serialize message)) =
      pieces.flatten ++ (missing ++ last.outputBuffer.contents) := by
    rw [whole, ← isWire, List.append_assoc]
  obtain ⟨front, noError⟩ := decode_arrived codec.framing_waits reads split
  refine ⟨messages, state, isFrames, received, errors.mpr noError, ?_, ?_⟩
  · rw [read]
    exact front
  · intro all empty
    have together : messages.flatMap (fun message =>
        AimServer.fillEmptyBuffer codec.tag (codec.serialize message)) = pieces.flatten := by
      rw [whole, empty, List.append_nil, all]
    rw [read, ← together, decode_all codec.framing_waits reads]

/-- A login goes out in two writes, and arrives. -/
theorem peer_reads_login :
    ∃ last, runFrom (IMCodec.codec wireProto)
        [.doPendingFunctor .wouldBlock,
          .send true (IMCodec.send wireProto (MsgType.login.container [])) (.wrote 5),
          .handleEvent ⟨false, none, some (.wrote 100)⟩] = some last ∧
      ∃ (messages : List MessageContainer) (state : Received MessageContainer),
        (IMCodec.codec wireProto).receiveAll [last.wire] = some state ∧
        state.messages <+: messages := by
  obtain ⟨last, isLast, -⟩ := runFrom_sound (IMCodec.codec wireProto)
    [.doPendingFunctor .wouldBlock,
      .send true (IMCodec.send wireProto (MsgType.login.container [])) (.wrote 5),
      .handleEvent ⟨false, none, some (.wrote 100)⟩]
  have sent : (runFrom (IMCodec.codec wireProto)
      [.doPendingFunctor .wouldBlock,
        .send true (IMCodec.send wireProto (MsgType.login.container [])) (.wrote 5),
        .handleEvent ⟨false, none, some (.wrote 100)⟩]).map
      (fun c => c.sentInLoop ++ c.sentElsewhere) =
      some [IMCodec.send wireProto (MsgType.login.container [])] := by decide +kernel
  rw [isLast, Option.map_some, Option.some_inj] at sent
  have arrived : [last.wire].flatten <+: last.wire := by
    rw [List.flatten_singleton]
  obtain ⟨messages, state, -, received, -, front, -⟩ := peer_reads isLast (by
    intro bytes member
    rw [sent] at member
    rw [List.mem_singleton.mp member]
    exact ⟨MsgType.login.container [], rfl, by decide, by decide⟩) arrived
  exact ⟨last, isLast, messages, state, received, front⟩

end Peer

end TcpConnection

end AimServer.Muduo
