import AimServer.Session.World

/-!
Contract: the frames `IMCodec` writes, byte by byte.

Owns: `ProtobufCodecLite::fillEmptyBuffer` with its length and checksum, the
two ways a container is sent, and how the frames of a replay relate to the
bytes written for it.

Does not own: the reading of frames. A connection takes every buffer it is
given.
-/

namespace AimServer

/-- `adler32` of zlib, started at 1. -/
def adler32 (data : Bytes) : UInt32 :=
  let sums := data.foldl
    (fun (sums : Nat × Nat) byte =>
      let low := (sums.1 + byte.toNat) % 65521
      (low, (sums.2 + low) % 65521)) (1, 0)
  UInt32.ofNat (sums.2 * 65536 + sums.1)

example : adler32 (str "Wikipedia") = 0x11E60398 := by decide

/-- The four bytes of a number in network order. -/
def networkInt32 (value : UInt32) : Bytes :=
  [(value >>> 24).toUInt8, (value >>> 16).toUInt8, (value >>> 8).toUInt8, value.toUInt8]

/-- `fillEmptyBuffer`: the tag and the message, their checksum behind them, and
the length of all that in front. -/
def fillEmptyBuffer (tag message : Bytes) : Bytes :=
  let buf := tag ++ message
  let buf := buf ++ networkInt32 (adler32 buf)
  networkInt32 (UInt32.ofNat buf.length) ++ buf

namespace IMCodec

def tag : Bytes := str "IM01"

/-- The bytes `send` writes; `SendContainer` calls it. -/
def send (pb : ImProto) (msg : MessageContainer) : Bytes :=
  fillEmptyBuffer tag (pb.serializeContainer msg)

/-- The bytes `sendRaw` writes. A blob that does not parse is logged and
dropped. -/
def sendRaw (pb : ImProto) (data : Bytes) : Bytes :=
  match pb.parseContainer data with
  | none => []
  | some container => send pb container

/-- A serialised container is sent as the container itself. -/
theorem sendRaw_serialize {pb : ImProto} {msg : MessageContainer}
    (roundTrip : pb.parseContainer (pb.serializeContainer msg) = some msg) :
    sendRaw pb (pb.serializeContainer msg) = send pb msg := by
  rw [sendRaw, roundTrip]

/-- The containers a replay reads are the ones whose bytes it writes, in the
same order. -/
theorem flatMap_sendRaw (pb : ImProto) (blobs : List Bytes) :
    blobs.flatMap (sendRaw pb) = (blobs.filterMap pb.parseContainer).flatMap (send pb) := by
  induction blobs with
  | nil => rfl
  | cons blob rest inductionHypothesis =>
      rw [List.flatMap_cons, inductionHypothesis, sendRaw]
      cases parsed : pb.parseContainer blob with
      | none => rw [List.filterMap_cons_none parsed, List.nil_append]
      | some container => rw [List.filterMap_cons_some parsed, List.flatMap_cons]

end IMCodec

/-- The frames of a replay are those of the containers it sends. -/
theorem World.replayFrames_eq (pb : ImProto) (conn : Nat) (blobs : List Bytes) :
    replayFrames pb conn blobs =
      (blobs.filterMap pb.parseContainer).map fun container => (conn, container.frame) := by
  rw [replayFrames, List.map_filterMap]

end AimServer
