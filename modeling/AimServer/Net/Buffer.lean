import AimServer.Bytes
import AimServer.Lib.BigEndian

/-!
Contract: `Buffer`, the byte buffer on both sides of a connection.

Owns: the vector with its two indices and what is always true of them, the
operations, which of them run into an assertion, and that any sequence of them
does what a queue of bytes does.

Does not own: what the bytes mean. The searches for line ends are not part of
the server.
-/

namespace AimServer.Muduo

open AimServer.Lib

def kCheapPrepend : Nat := 8

def kInitialSize : Nat := 1024

/-- `std::copy` into a vector. -/
def copyAt (index : Nat) (data buffer : Bytes) : Bytes :=
  buffer.take index ++ data ++ buffer.drop (index + data.length)

/-- `vector::resize`. -/
def resize (size : Nat) (buffer : Bytes) : Bytes :=
  buffer.take size ++ List.replicate (size - buffer.length) 0

theorem length_copyAt {index : Nat} {data buffer : Bytes}
    (fits : index + data.length ≤ buffer.length) :
    (copyAt index data buffer).length = buffer.length := by
  simp only [copyAt, List.length_append, List.length_take, List.length_drop]
  omega

theorem length_resize (size : Nat) (buffer : Bytes) : (resize size buffer).length = size := by
  simp only [resize, List.length_append, List.length_take, List.length_replicate]
  omega

structure Buffer where
  buffer : Bytes
  readerIndex : Nat
  writerIndex : Nat
  cheap_le : kCheapPrepend ≤ buffer.length
  reader_le : readerIndex ≤ writerIndex
  writer_le : writerIndex ≤ buffer.length

namespace Buffer

def new (initialSize : Nat) : Buffer where
  buffer := List.replicate (kCheapPrepend + initialSize) 0
  readerIndex := kCheapPrepend
  writerIndex := kCheapPrepend
  cheap_le := by
    rw [List.length_replicate]
    exact Nat.le_add_right _ _
  reader_le := Nat.le_refl _
  writer_le := by
    rw [List.length_replicate]
    exact Nat.le_add_right _ _

def readableBytes (b : Buffer) : Nat := b.writerIndex - b.readerIndex

def writableBytes (b : Buffer) : Nat := b.buffer.length - b.writerIndex

def prependableBytes (b : Buffer) : Nat := b.readerIndex

/-- The readable bytes, from `peek()` to `beginWrite()`. -/
def contents (b : Buffer) : Bytes :=
  (b.buffer.take b.writerIndex).drop b.readerIndex

@[simp] theorem length_contents (b : Buffer) : b.contents.length = b.readableBytes := by
  rw [contents, List.length_drop, List.length_take, Nat.min_eq_left b.writer_le, readableBytes]

/-! ### Reading -/

def retrieveAll (b : Buffer) : Buffer :=
  { b with
    readerIndex := kCheapPrepend
    writerIndex := kCheapPrepend
    reader_le := Nat.le_refl _
    writer_le := b.cheap_le }

/-- A failed assertion is `none`, here and below. -/
def retrieve (len : Nat) (b : Buffer) : Option Buffer :=
  if fewer : len < b.readableBytes then
    some
      { b with
        readerIndex := b.readerIndex + len
        reader_le := by
          unfold readableBytes at fewer
          omega }
  else if len = b.readableBytes then some b.retrieveAll
  else none

def retrieveAsString (len : Nat) (b : Buffer) : Option (Bytes × Buffer) :=
  (b.retrieve len).map fun next => (b.contents.take len, next)

def retrieveAllAsString (b : Buffer) : Option (Bytes × Buffer) :=
  b.retrieveAsString b.readableBytes

/-- An integer of so many bytes in network order. -/
def peekInt (width : Nat) (b : Buffer) : Option Int :=
  if width ≤ b.readableBytes then
    some (signedOf (8 * width) (ofBigEndian (b.contents.take width)))
  else none

def peekInt64 (b : Buffer) : Option Int := b.peekInt 8
def peekInt32 (b : Buffer) : Option Int := b.peekInt 4
def peekInt16 (b : Buffer) : Option Int := b.peekInt 2
def peekInt8 (b : Buffer) : Option Int := b.peekInt 1

def readInt (width : Nat) (b : Buffer) : Option (Int × Buffer) := do
  let result ← b.peekInt width
  let next ← b.retrieve width
  return (result, next)

def readInt64 (b : Buffer) : Option (Int × Buffer) := b.readInt 8
def readInt32 (b : Buffer) : Option (Int × Buffer) := b.readInt 4
def readInt16 (b : Buffer) : Option (Int × Buffer) := b.readInt 2
def readInt8 (b : Buffer) : Option (Int × Buffer) := b.readInt 1

/-! ### Writing -/

/-- A longer vector, or the readable bytes moved to the front. -/
def makeSpace (len : Nat) (b : Buffer) (short : b.writableBytes < len) : Option Buffer :=
  if b.writableBytes + b.prependableBytes < len + kCheapPrepend then
    some
      { b with
        buffer := resize (b.writerIndex + len) b.buffer
        cheap_le := by
          have cheapLe := b.cheap_le
          unfold writableBytes at short
          rw [length_resize]
          omega
        writer_le := by
          rw [length_resize]
          exact Nat.le_add_right _ _ }
  else if moves : kCheapPrepend < b.readerIndex then
    have fits : kCheapPrepend + b.contents.length ≤ b.buffer.length := by
      have readerLe := b.reader_le
      have writerLe := b.writer_le
      rw [length_contents, readableBytes]
      omega
    some
      { buffer := copyAt kCheapPrepend b.contents b.buffer
        readerIndex := kCheapPrepend
        writerIndex := kCheapPrepend + b.readableBytes
        cheap_le := by
          rw [length_copyAt fits]
          exact b.cheap_le
        reader_le := Nat.le_add_right _ _
        writer_le := by
          rw [length_copyAt fits, ← length_contents]
          exact fits }
  else none

def ensureWritableBytes (len : Nat) (b : Buffer) : Option Buffer := do
  let next ← if short : b.writableBytes < len then b.makeSpace len short else some b
  if len ≤ next.writableBytes then some next else none

/-- Bytes copied to `beginWrite()`, and `hasWritten`. -/
def write (data : Bytes) (b : Buffer) : Option Buffer :=
  if fits : data.length ≤ b.writableBytes then
    have within : b.writerIndex + data.length ≤ b.buffer.length := by
      have writerLe := b.writer_le
      unfold writableBytes at fits
      omega
    some
      { buffer := copyAt b.writerIndex data b.buffer
        readerIndex := b.readerIndex
        writerIndex := b.writerIndex + data.length
        cheap_le := by
          rw [length_copyAt within]
          exact b.cheap_le
        reader_le := Nat.le_trans b.reader_le (Nat.le_add_right _ _)
        writer_le := by
          rw [length_copyAt within]
          exact within }
  else none

def append (data : Bytes) (b : Buffer) : Option Buffer := do
  let b ← b.ensureWritableBytes data.length
  b.write data

def unwrite (len : Nat) (b : Buffer) : Option Buffer :=
  if fits : len ≤ b.readableBytes then
    some
      { b with
        writerIndex := b.writerIndex - len
        reader_le := by
          have readerLe := b.reader_le
          unfold readableBytes at fits
          omega
        writer_le := Nat.le_trans (Nat.sub_le _ _) b.writer_le }
  else none

def prepend (data : Bytes) (b : Buffer) : Option Buffer :=
  if fits : data.length ≤ b.prependableBytes then
    have within : b.readerIndex - data.length + data.length ≤ b.buffer.length := by
      have enough : data.length ≤ b.readerIndex := fits
      rw [Nat.sub_add_cancel enough]
      exact Nat.le_trans b.reader_le b.writer_le
    some
      { buffer := copyAt (b.readerIndex - data.length) data b.buffer
        readerIndex := b.readerIndex - data.length
        writerIndex := b.writerIndex
        cheap_le := by
          rw [length_copyAt within]
          exact b.cheap_le
        reader_le := Nat.le_trans (Nat.sub_le _ _) b.reader_le
        writer_le := by
          rw [length_copyAt within]
          exact b.writer_le }
  else none

/-- The bytes of an integer in network order. -/
def networkBytes (width : Nat) (x : Int) : Bytes :=
  bigEndian width (unsignedOf (8 * width) x)

def appendInt64 (x : Int) (b : Buffer) : Option Buffer := b.append (networkBytes 8 x)
def appendInt32 (x : Int) (b : Buffer) : Option Buffer := b.append (networkBytes 4 x)
def appendInt16 (x : Int) (b : Buffer) : Option Buffer := b.append (networkBytes 2 x)
def appendInt8 (x : Int) (b : Buffer) : Option Buffer := b.append (networkBytes 1 x)

def prependInt64 (x : Int) (b : Buffer) : Option Buffer := b.prepend (networkBytes 8 x)
def prependInt32 (x : Int) (b : Buffer) : Option Buffer := b.prepend (networkBytes 4 x)
def prependInt16 (x : Int) (b : Buffer) : Option Buffer := b.prepend (networkBytes 2 x)
def prependInt8 (x : Int) (b : Buffer) : Option Buffer := b.prepend (networkBytes 1 x)

/-- `swap` with a new buffer that has room behind the readable bytes. -/
def shrink (reserve : Nat) (b : Buffer) : Option Buffer := do
  let other ← (new kInitialSize).ensureWritableBytes (b.readableBytes + reserve)
  other.append b.contents

/-- What `readv` gave: first the room in the vector, then the array on the stack. -/
def readFd (data : Bytes) (b : Buffer) : Option Buffer :=
  if data.length ≤ b.writableBytes then b.write data
  else do
    let full ← b.write (data.take b.writableBytes)
    full.append (data.drop b.writableBytes)

/-! ### What the operations do to the readable bytes -/

section Contents

variable {b next : Buffer} {data : Bytes} {len : Nat}

@[simp] theorem contents_new (initialSize : Nat) : (new initialSize).contents = [] := by
  apply List.eq_nil_of_length_eq_zero
  rw [length_contents]
  rfl

@[simp] theorem contents_retrieveAll (b : Buffer) : b.retrieveAll.contents = [] := by
  apply List.eq_nil_of_length_eq_zero
  rw [length_contents]
  exact Nat.sub_self _

/-- `retrieve` fails exactly when more is asked for than there is. -/
theorem retrieve_cases (len : Nat) (b : Buffer) :
    (len ≤ b.contents.length ∧ ∃ next, b.retrieve len = some next ∧
        next.contents = b.contents.drop len ∧
        min kCheapPrepend b.prependableBytes ≤ next.prependableBytes) ∨
      (b.contents.length < len ∧ b.retrieve len = none) := by
  rw [length_contents]
  unfold retrieve
  by_cases fewer : len < b.readableBytes
  · rw [dif_pos fewer]
    refine Or.inl ⟨Nat.le_of_lt fewer, _, rfl, ?_, ?_⟩
    · rw [contents, contents, List.drop_drop]
    · exact Nat.le_trans (Nat.min_le_right _ _) (Nat.le_add_right _ _)
  · rw [dif_neg fewer]
    by_cases all : len = b.readableBytes
    · rw [if_pos all]
      refine Or.inl ⟨Nat.le_of_eq all, _, rfl, ?_, Nat.min_le_left _ _⟩
      rw [contents_retrieveAll, List.drop_of_length_le]
      rw [length_contents, all]
    · rw [if_neg all]
      exact Or.inr ⟨by omega, rfl⟩

theorem write_cases (data : Bytes) (b : Buffer) :
    (data.length ≤ b.writableBytes ∧ ∃ next, b.write data = some next ∧
        next.contents = b.contents ++ data ∧ next.prependableBytes = b.prependableBytes) ∨
      (b.writableBytes < data.length ∧ b.write data = none) := by
  unfold write
  by_cases fits : data.length ≤ b.writableBytes
  · rw [dif_pos fits]
    refine Or.inl ⟨fits, _, rfl, ?_, rfl⟩
    have readerLe := b.reader_le
    have writerLe := b.writer_le
    have front : (b.buffer.take b.writerIndex ++ data).length = b.writerIndex + data.length := by
      rw [List.length_append, List.length_take, Nat.min_eq_left writerLe]
    show ((copyAt b.writerIndex data b.buffer).take (b.writerIndex + data.length)).drop
      b.readerIndex = b.contents ++ data
    rw [contents, copyAt, List.take_left' front, List.drop_append_of_le_length]
    rw [List.length_take, Nat.min_eq_left writerLe]
    exact readerLe
  · rw [dif_neg fits]
    exact Or.inr ⟨by omega, rfl⟩

/-- The assertion of `makeSpace` never fails, and there is room afterwards. -/
theorem makeSpace_eq (len : Nat) (b : Buffer) (short : b.writableBytes < len) :
    ∃ next, b.makeSpace len short = some next ∧ next.contents = b.contents ∧
      len ≤ next.writableBytes ∧
      min kCheapPrepend b.prependableBytes ≤ next.prependableBytes := by
  have readerLe := b.reader_le
  have writerLe := b.writer_le
  unfold makeSpace
  by_cases grows : b.writableBytes + b.prependableBytes < len + kCheapPrepend
  · rw [if_pos grows]
    refine ⟨_, rfl, ?_, ?_, Nat.min_le_right _ _⟩
    · show ((resize (b.writerIndex + len) b.buffer).take b.writerIndex).drop b.readerIndex =
        b.contents
      rw [contents, resize, List.take_append_of_le_length, List.take_take]
      · rw [Nat.min_eq_left (Nat.le_add_right _ _)]
      · rw [List.length_take]
        omega
    · rw [writableBytes, length_resize]
      exact Nat.le_of_eq (Nat.add_sub_cancel_left _ _).symm
  · rw [if_neg grows]
    have moves : kCheapPrepend < b.readerIndex := by
      unfold writableBytes at short
      unfold writableBytes prependableBytes at grows
      omega
    have cheap : kCheapPrepend ≤ b.buffer.length := b.cheap_le
    rw [dif_pos moves]
    refine ⟨_, rfl, ?_, ?_, Nat.min_le_left _ _⟩
    · have front : (b.buffer.take kCheapPrepend ++ b.contents).length =
          kCheapPrepend + b.readableBytes := by
        rw [List.length_append, List.length_take, Nat.min_eq_left cheap, length_contents]
      have prefixed : (b.buffer.take kCheapPrepend).length = kCheapPrepend := by
        rw [List.length_take, Nat.min_eq_left cheap]
      show ((copyAt kCheapPrepend b.contents b.buffer).take
        (kCheapPrepend + b.readableBytes)).drop kCheapPrepend = b.contents
      rw [copyAt, List.take_left' front, List.drop_left' prefixed]
    · have fits : kCheapPrepend + b.contents.length ≤ b.buffer.length := by
        rw [length_contents, readableBytes]
        omega
      show len ≤ (copyAt kCheapPrepend b.contents b.buffer).length -
        (kCheapPrepend + b.readableBytes)
      rw [length_copyAt fits, readableBytes]
      unfold writableBytes at short
      unfold writableBytes prependableBytes at grows
      omega

theorem ensureWritableBytes_eq (len : Nat) (b : Buffer) :
    ∃ next, b.ensureWritableBytes len = some next ∧ next.contents = b.contents ∧
      len ≤ next.writableBytes ∧
      min kCheapPrepend b.prependableBytes ≤ next.prependableBytes := by
  unfold ensureWritableBytes
  by_cases short : b.writableBytes < len
  · obtain ⟨next, made, same, room, front⟩ := makeSpace_eq len b short
    rw [dif_pos short, made]
    exact ⟨next, if_pos room, same, room, front⟩
  · rw [dif_neg short]
    have room : len ≤ b.writableBytes := Nat.le_of_not_lt short
    exact ⟨b, if_pos room, rfl, room, Nat.min_le_right _ _⟩

/-- `append` never fails. -/
theorem append_eq (data : Bytes) (b : Buffer) :
    ∃ next, b.append data = some next ∧ next.contents = b.contents ++ data ∧
      min kCheapPrepend b.prependableBytes ≤ next.prependableBytes := by
  obtain ⟨ready, ensured, same, room, front⟩ := ensureWritableBytes_eq data.length b
  rcases write_cases data ready with ⟨-, next, written, contents, unmoved⟩ | ⟨full, -⟩
  · refine ⟨next, ?_, ?_, ?_⟩
    · rw [append, ensured]
      exact written
    · rw [contents, same]
    · rw [unmoved]
      exact front
  · exact absurd room (Nat.not_le_of_lt full)

theorem prepend_cases (data : Bytes) (b : Buffer) :
    (data.length ≤ b.prependableBytes ∧ ∃ next, b.prepend data = some next ∧
        next.contents = data ++ b.contents ∧
        next.prependableBytes = b.prependableBytes - data.length) ∨
      (b.prependableBytes < data.length ∧ b.prepend data = none) := by
  unfold prepend
  by_cases fits : data.length ≤ b.prependableBytes
  · rw [dif_pos fits]
    refine Or.inl ⟨fits, _, rfl, ?_, rfl⟩
    have enough : data.length ≤ b.readerIndex := fits
    have readerLe := b.reader_le
    have writerLe := b.writer_le
    have start : (b.buffer.take (b.readerIndex - data.length)).length =
        b.readerIndex - data.length := by
      rw [List.length_take]
      omega
    have header : (b.buffer.take (b.readerIndex - data.length) ++ data).length = b.readerIndex := by
      rw [List.length_append, start]
      omega
    show ((copyAt (b.readerIndex - data.length) data b.buffer).take b.writerIndex).drop
      (b.readerIndex - data.length) = data ++ b.contents
    rw [contents, copyAt, Nat.sub_add_cancel enough, List.take_append, header,
      List.take_of_length_le (by omega), List.append_assoc, List.drop_left' start, List.take_drop,
      Nat.add_sub_cancel' readerLe]
  · rw [dif_neg fits]
    exact Or.inr ⟨by omega, rfl⟩

/-- Whatever `readv` gives is appended. -/
theorem readFd_eq (data : Bytes) (b : Buffer) :
    ∃ next, b.readFd data = some next ∧ next.contents = b.contents ++ data ∧
      min kCheapPrepend b.prependableBytes ≤ next.prependableBytes := by
  unfold readFd
  by_cases fits : data.length ≤ b.writableBytes
  · rw [if_pos fits]
    rcases write_cases data b with ⟨-, next, written, contents, unmoved⟩ | ⟨full, -⟩
    · refine ⟨next, written, contents, ?_⟩
      rw [unmoved]
      exact Nat.min_le_right _ _
    · exact absurd fits (Nat.not_le_of_lt full)
  · rw [if_neg fits]
    have taken : (data.take b.writableBytes).length ≤ b.writableBytes := by
      rw [List.length_take]
      exact Nat.min_le_left _ _
    rcases write_cases (data.take b.writableBytes) b with
      ⟨-, full, written, contents, unmoved⟩ | ⟨spills, -⟩
    · obtain ⟨next, appended, isNext, front⟩ := append_eq (data.drop b.writableBytes) full
      refine ⟨next, ?_, ?_, ?_⟩
      · rw [written]
        exact appended
      · rw [isNext, contents, List.append_assoc, List.take_append_drop]
      · rw [← unmoved]
        exact front
    · exact absurd taken (Nat.not_le_of_lt spills)

end Contents

end Buffer

end AimServer.Muduo
