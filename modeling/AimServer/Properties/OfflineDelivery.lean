import AimServer.Persist.OfflineRow
import AimServer.Properties.Client
import AimServer.Session.Codec

/-!
Contract: a container that waited in the database arrives as if it had been
sent at once.

Proves that a container comes back from its row unchanged, that `sendRaw` then
writes the bytes `SendContainer` would have written, that a replay does so for
everything that was queued, in order, and that the two hexadecimal conversions
are inverse to each other.
-/

namespace AimServer

open AimServer.Lib

/-- The containers are queued one after the other. -/
def Store.queueAll (pb : ImProto) (kind : OfflineKind) (userid : Int)
    (containers : List MessageContainer) (s : Store) : Store :=
  containers.foldl
    (fun s container => (s.insertOfflineMsg kind userid (pb.serializeContainer container)).2) s

/-- The bytes the replay of one kind writes to the connection. -/
def Store.replayBytes (pb : ImProto) (kind : OfflineKind) (userid : Int) (s : Store) : Bytes :=
  (s.fetchAndDeleteOfflineMsg kind userid).1.flatMap (IMCodec.sendRaw pb)

/-- The container survives its row and is sent as it would have been. -/
structure OfflineEqualsLive (pb : ImProto) (msg : MessageContainer) : Prop where
  stored : ∀ userid (kind : OfflineKind), ∃ row : OfflineMsgRow,
    offlineRowOfSql (insertOfflineMsgSql userid kind.code (pb.serializeContainer msg)) = some row ∧
      row.content = pb.serializeContainer msg ∧
      ∀ s : Store, s.insertOfflineMsg kind userid (pb.serializeContainer msg) =
        s.execute (.insertOfflineMsg row)
  resent : ∀ row : OfflineMsgRow, row.content = pb.serializeContainer msg →
    pb.parseContainer row.fetched = some msg
  frame : ∀ row : OfflineMsgRow, row.content = pb.serializeContainer msg →
    IMCodec.sendRaw pb row.fetched = IMCodec.send pb msg

theorem offlineEqualsLive {pb : ImProto} {msg : MessageContainer}
    (roundTrip : pb.parseContainer (pb.serializeContainer msg) = some msg) :
    OfflineEqualsLive pb msg := by
  refine ⟨?_, ?_, ?_⟩
  · intro userid kind
    have read := offlineRowOfSql_insert userid kind.code (pb.serializeContainer msg)
    exact ⟨_, read, rfl, Store.insertOfflineMsg_of_sql read⟩
  · intro row content
    rw [row.fetched_eq, content]
    exact roundTrip
  · intro row content
    rw [row.fetched_eq, content]
    exact IMCodec.sendRaw_serialize roundTrip

namespace Store

variable {s : Store}

/-- What waits after the containers were queued. -/
theorem waiting_queueAll (pb : ImProto) (kind : OfflineKind) (userid : Int)
    (containers : List MessageContainer) (granting : s.Granting) :
    (s.queueAll pb kind userid containers).waiting kind userid =
        s.waiting kind userid ++ containers.map pb.serializeContainer ∧
      (s.queueAll pb kind userid containers).Granting := by
  induction containers generalizing s with
  | nil => exact ⟨(List.append_nil _).symm, granting⟩
  | cons container rest inductionHypothesis =>
      have inserted := insertOfflineMsg_eq kind userid (pb.serializeContainer container) s
      have peeled : s.queueAll pb kind userid (container :: rest) =
          (s.execute (.insertOfflineMsg ⟨userid, kind.code,
            pb.serializeContainer container⟩)).2.queueAll pb kind userid rest := by
        rw [queueAll, List.foldl_cons, inserted]
        rfl
      obtain ⟨waits, stillGranting⟩ := inductionHypothesis (granting.execute (.insertOfflineMsg
        ⟨userid, kind.code, pb.serializeContainer container⟩))
      rw [peeled]
      refine ⟨?_, stillGranting⟩
      rw [waits, waiting_insert, if_pos ⟨granting 0, rfl, rfl⟩, List.append_assoc]
      rfl

/-- The replay writes what was there before, then each queued container as a
live one. -/
theorem replayBytes_queueAll {pb : ImProto} (kind : OfflineKind) (userid : Int)
    {containers : List MessageContainer} (granting : s.Granting)
    (roundTrip : ∀ container ∈ containers,
      pb.parseContainer (pb.serializeContainer container) = some container) :
    (s.queueAll pb kind userid containers).replayBytes pb kind userid =
      s.replayBytes pb kind userid ++ containers.flatMap (IMCodec.send pb) := by
  obtain ⟨waits, stillGranting⟩ := waiting_queueAll pb kind userid containers granting
  rw [replayBytes, replayBytes, fetchAndDeleteOfflineMsg_fst, fetchAndDeleteOfflineMsg_fst,
    if_pos (granting 0), if_pos (stillGranting 0), waits, List.flatMap_append, List.flatMap_map]
  congr 1
  refine List.flatMap_congr ?_
  intro container member
  exact IMCodec.sendRaw_serialize (roundTrip container member)

end Store

/-- Offline delivery equals live delivery. -/
theorem offline_delivery_equals_live (pb : ImProto) {msg : MessageContainer}
    (roundTrip : pb.parseContainer (pb.serializeContainer msg) = some msg) :
    OfflineEqualsLive pb msg ∧
      (∀ (s : Store) (kind : OfflineKind) (userid : Int), s.Granting →
        (s.queueAll pb kind userid [msg]).replayBytes pb kind userid =
          s.replayBytes pb kind userid ++ IMCodec.send pb msg) ∧
      (∀ data, fromHex (toHex data) = data) ∧
      ∀ text, Even text.length → (∀ c ∈ text, Hex.IsUpperDigit c) →
        toHex (fromHex text) = text := by
  refine ⟨offlineEqualsLive roundTrip, ?_, fromHex_toHex, fun text => toHex_fromHex⟩
  intro s kind userid granting
  have all : ∀ container ∈ [msg],
      pb.parseContainer (pb.serializeContainer container) = some container := by
    simpa using roundTrip
  have replayed := Store.replayBytes_queueAll kind userid granting all
  simpa using replayed

/-- The payload holds a NUL, a quote, a backslash and a byte above 127. -/
theorem offline_delivery_equals_live_binary :
    OfflineEqualsLive wireProto ⟨MsgType.chat.cmd, 5, 2, [], [0, 39, 92, 255]⟩ := by
  have roundTrip : wireProto.parseContainer (wireProto.serializeContainer
      ⟨MsgType.chat.cmd, 5, 2, [], [0, 39, 92, 255]⟩) =
        some ⟨MsgType.chat.cmd, 5, 2, [], [0, 39, 92, 255]⟩ := by decide
  exact (offline_delivery_equals_live wireProto roundTrip).1

end AimServer
