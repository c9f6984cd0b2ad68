import AimServer.Lib.Framing
import AimServer.Net.Buffer
import AimServer.Session.Codec

/-!
Contract: `ProtobufCodecLite`, between the bytes of a connection and its
messages.

Owns: the check of a frame, the reading loop on a buffer, the writing of a
frame into one, what a stream of bytes decodes to, and that the code's loop
reads just that.

Does not own: the messages. What protobuf makes of a body is the codec's
parameter. The raw message callback is not modelled: nothing here sets one.
-/

namespace AimServer

open AimServer.Lib AimServer.Muduo

/-- A message type with its tag and what protobuf does with it. -/
structure ProtobufCodecLite (μ : Type) where
  tag : Bytes
  parseFromBuffer : Bytes → Option μ
  serialize : μ → Bytes

namespace ProtobufCodecLite

def kHeaderLen : Nat := 4
def kChecksumLen : Nat := 4
def kMaxMessageLen : Nat := 64 * 1024 * 1024

/-- Without `kNoError`, which comes with a message. -/
inductive ErrorCode where
  | invalidLength
  | checkSumError
  | invalidNameLen
  | unknownMessageType
  | parseError
deriving DecidableEq, Repr

def asInt32 (buf : Bytes) : Int :=
  signedOf 32 (ofBigEndian (buf.take 4))

def checksum (buf : Bytes) : Int :=
  signedOf 32 (adler32 buf).toNat

def validateChecksum (buf : Bytes) : Bool :=
  let expectedCheckSum := asInt32 (buf.drop (buf.length - kChecksumLen))
  let checkSum := checksum (buf.take (buf.length - kChecksumLen))
  checkSum = expectedCheckSum

section Codec

variable {μ : Type} (codec : ProtobufCodecLite μ)

def kMinMessageLen : Nat := codec.tag.length + kChecksumLen

def parse (buf : Bytes) : Except ErrorCode μ :=
  if validateChecksum buf then
    if buf.take codec.tag.length = codec.tag then
      let dataLen := buf.length - kChecksumLen - codec.tag.length
      match codec.parseFromBuffer ((buf.drop codec.tag.length).take dataLen) with
      | some message => .ok message
      | none => .error .parseError
    else .error .unknownMessageType
  else .error .checkSumError

/-! ### The reading loop -/

/-- How a turn of the loop ends. -/
inductive Turn (μ : Type) where
  /-- An assertion of the buffer failed. -/
  | aborted
  | ended (error : Option ErrorCode)
  | took (message : μ) (buf : Buffer)

/-- What the loop does with a frame of that length. -/
def onFrame (len : Int) (buf : Buffer) : Turn μ :=
  if (kMaxMessageLen : Int) < len ∨ len < codec.kMinMessageLen then .ended (some .invalidLength)
  else if kHeaderLen + len.toNat ≤ buf.readableBytes then
    match codec.parse ((buf.contents.drop kHeaderLen).take len.toNat) with
    | .ok message =>
        match buf.retrieve (kHeaderLen + len.toNat) with
        | none => .aborted
        | some buf => .took message buf
    | .error errorCode => .ended (some errorCode)
  else .ended none

/-- The body of the loop. -/
def onMessageTurn (buf : Buffer) : Turn μ :=
  if codec.kMinMessageLen + kHeaderLen ≤ buf.readableBytes then
    match buf.peekInt32 with
    | none => .aborted
    | some len => codec.onFrame len buf
  else .ended none

/-- The messages handed to the callback, the buffer, and the error reported. -/
def turns (turn : Buffer → Turn μ) : Nat → Buffer → Option (List μ × Buffer × Option ErrorCode)
  | 0, buf => some ([], buf, none)
  | fuel + 1, buf =>
      match turn buf with
      | .aborted => none
      | .ended error => some ([], buf, error)
      | .took message buf =>
          (turns turn fuel buf).map fun later => (message :: later.1, later.2)

/-- Each turn but the last takes bytes off the buffer. -/
def onMessage (buf : Buffer) : Option (List μ × Buffer × Option ErrorCode) :=
  turns codec.onMessageTurn (buf.readableBytes + 1) buf

/-! ### Writing a frame -/

def serializeToBuffer (message : μ) (buf : Buffer) : Option (Nat × Buffer) := do
  let data := codec.serialize message
  let buf ← buf.ensureWritableBytes (data.length + kChecksumLen)
  let buf ← buf.write data
  return (data.length, buf)

def fillEmptyBuffer (message : μ) (buf : Buffer) : Option Buffer := do
  guard (buf.readableBytes = 0)
  let buf ← buf.append codec.tag
  let (byteSize, buf) ← codec.serializeToBuffer message buf
  let buf ← buf.appendInt32 (checksum buf.contents)
  guard (buf.readableBytes = codec.tag.length + byteSize + kChecksumLen)
  buf.prepend (Buffer.networkBytes 4 (signedOf 32 buf.readableBytes))

/-- The bytes handed to the connection. -/
def send (message : μ) : Option Bytes :=
  (codec.fillEmptyBuffer message (.new kInitialSize)).map Buffer.contents

/-! ### What a stream decodes to -/

/-- What a frame with that length field is. -/
def frontOf (len : Int) (input : Bytes) : Front μ ErrorCode :=
  if (kMaxMessageLen : Int) < len ∨ len < codec.kMinMessageLen then .bad .invalidLength
  else if kHeaderLen + len.toNat ≤ input.length then
    match codec.parse ((input.drop kHeaderLen).take len.toNat) with
    | .ok message => .message message (kHeaderLen + len.toNat)
    | .error errorCode => .bad errorCode
  else .more

/-- What stands at the front of the bytes received. -/
def front (input : Bytes) : Front μ ErrorCode :=
  if codec.kMinMessageLen + kHeaderLen ≤ input.length then codec.frontOf (asInt32 input) input
  else .more

end Codec

theorem asInt32_append {input : Bytes} (long : kHeaderLen ≤ input.length) (later : Bytes) :
    asInt32 (input ++ later) = asInt32 input := by
  have same : (input ++ later).take 4 = input.take 4 := List.take_append_of_le_length long
  rw [asInt32, same, asInt32]

section Framing

variable {μ : Type} {codec : ProtobufCodecLite μ}

theorem header_le_of_long {input : Bytes}
    (long : codec.kMinMessageLen + kHeaderLen ≤ input.length) : kHeaderLen ≤ input.length :=
  Nat.le_trans (Nat.le_add_left _ _) long

theorem frontOf_append {len : Int} {input : Bytes} (header : kHeaderLen ≤ input.length)
    (clear : codec.frontOf len input ≠ .more) (later : Bytes) :
    codec.frontOf len (input ++ later) = codec.frontOf len input := by
  unfold frontOf at clear ⊢
  by_cases outside : (kMaxMessageLen : Int) < len ∨ len < codec.kMinMessageLen
  · rw [if_pos outside, if_pos outside]
  · rw [if_neg outside] at clear
    rw [if_neg outside, if_neg outside]
    by_cases whole : kHeaderLen + len.toNat ≤ input.length
    · have wholeLater : kHeaderLen + len.toNat ≤ (input ++ later).length := by
        rw [List.length_append]
        exact Nat.le_add_right_of_le whole
      have same : ((input ++ later).drop kHeaderLen).take len.toNat =
          (input.drop kHeaderLen).take len.toNat := by
        rw [List.drop_append_of_le_length header, List.take_append_of_le_length]
        rw [List.length_drop]
        omega
      rw [if_pos whole, if_pos wholeLater, same]
    · exact absurd (if_neg whole) clear

/-- What is clear stays so when more arrives. -/
theorem front_append {input : Bytes} (clear : codec.front input ≠ .more) (later : Bytes) :
    codec.front (input ++ later) = codec.front input := by
  unfold front at clear ⊢
  by_cases long : codec.kMinMessageLen + kHeaderLen ≤ input.length
  · have longer : codec.kMinMessageLen + kHeaderLen ≤ (input ++ later).length := by
      rw [List.length_append]
      exact Nat.le_add_right_of_le long
    have header := header_le_of_long long
    rw [if_pos long] at clear
    rw [if_pos long, if_pos longer, asInt32_append header, frontOf_append header clear]
  · exact absurd (if_neg long) clear

/-- A message is the whole of a frame whose inside the parser accepts. -/
theorem frontOf_message {len : Int} {input : Bytes} {message : μ} {length : Nat}
    (reads : codec.frontOf len input = .message message length) :
    codec.kMinMessageLen ≤ len ∧ len ≤ kMaxMessageLen ∧ length = kHeaderLen + len.toNat ∧
      length ≤ input.length ∧
      codec.parse ((input.drop kHeaderLen).take len.toNat) = .ok message := by
  unfold frontOf at reads
  by_cases outside : (kMaxMessageLen : Int) < len ∨ len < codec.kMinMessageLen
  · rw [if_pos outside] at reads
    cases reads
  · rw [if_neg outside] at reads
    by_cases whole : kHeaderLen + len.toNat ≤ input.length
    · rw [if_pos whole] at reads
      cases parsed : codec.parse ((input.drop kHeaderLen).take len.toNat) with
      | error errorCode =>
          rw [parsed] at reads
          cases reads
      | ok read =>
          rw [parsed] at reads
          cases reads
          exact ⟨by omega, by omega, rfl, whole, rfl⟩
    · rw [if_neg whole] at reads
      cases reads

theorem front_positive {input : Bytes} {message : μ} {length : Nat}
    (reads : codec.front input = .message message length) :
    0 < length ∧ length ≤ input.length := by
  unfold front at reads
  by_cases long : codec.kMinMessageLen + kHeaderLen ≤ input.length
  · rw [if_pos long] at reads
    obtain ⟨-, -, isLength, whole, -⟩ := frontOf_message reads
    refine ⟨?_, whole⟩
    rw [isLength]
    exact Nat.lt_of_lt_of_le (by decide) (Nat.le_add_right kHeaderLen _)
  · rw [if_neg long] at reads
    cases reads

variable (codec) in
def framing : Framing UInt8 μ ErrorCode where
  front := codec.front
  positive := front_positive
  message_append later reads := by
    rw [front_append _ later, reads]
    intro isMore
    cases reads.symm.trans isMore
  bad_append later isBad := by
    rw [front_append _ later, isBad]
    intro isMore
    cases isBad.symm.trans isMore

theorem framing_waits (codec : ProtobufCodecLite μ) : codec.framing.Waits := by
  show codec.front [] = .more
  rw [front, if_neg]
  exact Nat.not_le_of_lt (Nat.lt_of_lt_of_le (by decide) (Nat.le_add_left kHeaderLen _))

end Framing

/-! ### Frames as they are written -/

theorem shiftRight_toUInt8 (value : UInt32) {shift : Nat} (small : shift < 32) :
    (value >>> UInt32.ofNat shift).toUInt8 = UInt8.ofNat (value.toNat / 2 ^ shift) := by
  have inRange : shift % 2 ^ 32 % 32 = shift := by omega
  apply UInt8.toNat.inj
  rw [UInt32.toNat_toUInt8, UInt32.toNat_shiftRight, UInt8.toNat_ofNat', UInt32.toNat_ofNat',
    Nat.shiftRight_eq_div_pow, inRange]

theorem networkInt32_eq (value : UInt32) : networkInt32 value = bigEndian 4 value.toNat := by
  have first := shiftRight_toUInt8 value (by decide : 24 < 32)
  have second := shiftRight_toUInt8 value (by decide : 16 < 32)
  have third := shiftRight_toUInt8 value (by decide : 8 < 32)
  have last : value.toUInt8 = UInt8.ofNat value.toNat := rfl
  show [(value >>> UInt32.ofNat 24).toUInt8, (value >>> UInt32.ofNat 16).toUInt8,
    (value >>> UInt32.ofNat 8).toUInt8, value.toUInt8] = _
  rw [first, second, third, last]
  simp only [bigEndian, Nat.div_div_eq_div_mul, List.nil_append, List.cons_append]
  rfl

/-- The frame of a body: its length, the tag, the body and the checksum. -/
theorem fillEmptyBuffer_eq (tag body : Bytes) :
    AimServer.fillEmptyBuffer tag body =
      bigEndian 4 (tag.length + body.length + kChecksumLen) ++
        (tag ++ body ++ bigEndian 4 (adler32 (tag ++ body)).toNat) := by
  have length : (tag ++ body ++ networkInt32 (adler32 (tag ++ body))).length =
      tag.length + body.length + kChecksumLen := by
    rw [List.length_append, List.length_append]
    rfl
  have header : bigEndian 4 (UInt32.ofNat (tag.length + body.length + kChecksumLen)).toNat =
      bigEndian 4 (tag.length + body.length + kChecksumLen) := by
    rw [UInt32.toNat_ofNat']
    exact bigEndian_mod 4 _
  unfold AimServer.fillEmptyBuffer
  dsimp only
  rw [length, networkInt32_eq, networkInt32_eq, header]
@[simp] theorem length_fillEmptyBuffer (tag body : Bytes) :
    (AimServer.fillEmptyBuffer tag body).length =
      kHeaderLen + (tag.length + body.length + kChecksumLen) := by
  rw [fillEmptyBuffer_eq, List.length_append, List.length_append, List.length_append,
    length_bigEndian, length_bigEndian]
  rfl

theorem adler32_lt (data : Bytes) : (adler32 data).toNat < 2 ^ 32 :=
  (adler32 data).toNat_lt

/-- A length in range is read from the header as it is. -/
theorem asInt32_header {length : Nat} (fits : length ≤ kMaxMessageLen) (later : Bytes) :
    asInt32 (bigEndian 4 length ++ later) = length := by
  have small : length < 256 ^ 4 := Nat.lt_of_le_of_lt fits (by decide)
  have bound : (length : Int) < 2 ^ 31 := by
    unfold kMaxMessageLen at fits
    omega
  rw [asInt32, List.take_left' (length_bigEndian 4 length), ofBigEndian_bigEndian_of_lt small,
    signedOf]
  apply Int.bmod_eq_of_le
  · omega
  · omega

/-- The four bytes at the end are the checksum of what stands before them. -/
theorem validateChecksum_iff {checked trailer : Bytes} (four : trailer.length = kChecksumLen) :
    validateChecksum (checked ++ trailer) = true ↔
      trailer = bigEndian 4 (adler32 checked).toNat := by
  have cut : (checked ++ trailer).length - kChecksumLen = checked.length := by
    rw [List.length_append, four, Nat.add_sub_cancel]
  have whole : trailer.take 4 = trailer := List.take_of_length_le (Nat.le_of_eq four)
  have small : ofBigEndian trailer < 2 ^ 32 := by
    have below := ofBigEndian_lt trailer
    rw [four] at below
    exact below
  rw [validateChecksum, cut, List.drop_left, List.take_left, decide_eq_true_iff, checksum, asInt32,
    whole]
  constructor
  · intro same
    have written := bigEndian_ofBigEndian trailer
    rw [four, ← signedOf_inj (adler32_lt checked) small same] at written
    exact written.symm
  · intro isSum
    rw [isSum, ofBigEndian_bigEndian_of_lt (adler32_lt checked)]

section Frames

variable {μ : Type} {codec : ProtobufCodecLite μ}

/-- The parser on what a frame holds. -/
theorem parse_frame (codec : ProtobufCodecLite μ) (body : Bytes) :
    codec.parse (codec.tag ++ body ++ bigEndian 4 (adler32 (codec.tag ++ body)).toNat) =
      match codec.parseFromBuffer body with
      | some message => .ok message
      | none => .error .parseError := by
  have four : (bigEndian 4 (adler32 (codec.tag ++ body)).toNat).length = kChecksumLen :=
    length_bigEndian 4 _
  have dataLen : (codec.tag ++ body ++ bigEndian 4 (adler32 (codec.tag ++ body)).toNat).length -
      kChecksumLen - codec.tag.length = body.length := by
    rw [List.length_append, List.length_append, four]
    omega
  rw [parse, if_pos ((validateChecksum_iff four).mpr rfl)]
  dsimp only
  rw [dataLen, List.append_assoc, List.take_left, if_pos rfl, List.drop_left, List.take_left]

/-- What the parser accepts is the inside of a frame. -/
theorem parse_ok {buf : Bytes} {message : μ} (long : codec.kMinMessageLen ≤ buf.length)
    (parsed : codec.parse buf = .ok message) :
    ∃ body, buf = codec.tag ++ body ++ bigEndian 4 (adler32 (codec.tag ++ body)).toNat ∧
      codec.parseFromBuffer body = some message := by
  have room : codec.tag.length + kChecksumLen ≤ buf.length := long
  obtain ⟨size, isSize⟩ : ∃ size, buf.length - kChecksumLen = codec.tag.length + size :=
    Nat.exists_eq_add_of_le (Nat.le_sub_of_add_le room)
  have split := List.take_append_drop (codec.tag.length + size) buf
  have four : (buf.drop (codec.tag.length + size)).length = kChecksumLen := by
    rw [List.length_drop]
    omega
  by_cases valid : validateChecksum buf = true
  · by_cases tagged : buf.take codec.tag.length = codec.tag
    · have trailer := valid
      rw [← split, validateChecksum_iff four] at trailer
      have checked : buf.take (codec.tag.length + size) =
          codec.tag ++ (buf.drop codec.tag.length).take size := by
        rw [List.take_add, tagged]
      rw [trailer, checked] at split
      rw [← split, parse_frame] at parsed
      refine ⟨(buf.drop codec.tag.length).take size, split.symm, ?_⟩
      cases read : codec.parseFromBuffer ((buf.drop codec.tag.length).take size) with
      | none =>
          rw [read] at parsed
          cases parsed
      | some other =>
          rw [read] at parsed
          cases parsed
          rfl
    · rw [parse, if_pos valid, if_neg tagged] at parsed
      cases parsed
  · rw [parse, if_neg valid] at parsed
    cases parsed

/-- The length field of a body's frame. -/
def frameLength (codec : ProtobufCodecLite μ) (body : Bytes) : Nat :=
  codec.tag.length + body.length + kChecksumLen

theorem frame_eq (codec : ProtobufCodecLite μ) (body : Bytes) :
    AimServer.fillEmptyBuffer codec.tag body =
      bigEndian 4 (codec.frameLength body) ++
        (codec.tag ++ body ++ bigEndian 4 (adler32 (codec.tag ++ body)).toNat) :=
  fillEmptyBuffer_eq codec.tag body

theorem kMinMessageLen_le (codec : ProtobufCodecLite μ) (body : Bytes) :
    codec.kMinMessageLen ≤ codec.frameLength body := by
  unfold kMinMessageLen frameLength
  omega

theorem long_of_frame (codec : ProtobufCodecLite μ) (body later : Bytes) :
    codec.kMinMessageLen + kHeaderLen ≤
      (AimServer.fillEmptyBuffer codec.tag body ++ later).length := by
  have least := codec.kMinMessageLen_le body
  have inside : (AimServer.fillEmptyBuffer codec.tag body).length =
      kHeaderLen + codec.frameLength body :=
    length_fillEmptyBuffer codec.tag body
  rw [List.length_append, inside]
  omega

/-- A frame that fits is read whole, whatever follows it. -/
theorem front_frame {body : Bytes} (fits : codec.frameLength body ≤ kMaxMessageLen)
    (later : Bytes) :
    codec.front (AimServer.fillEmptyBuffer codec.tag body ++ later) =
      match codec.parseFromBuffer body with
      | some message =>
          .message message (AimServer.fillEmptyBuffer codec.tag body).length
      | none => .bad .parseError := by
  have least := codec.kMinMessageLen_le body
  have long := codec.long_of_frame body later
  have inside : (AimServer.fillEmptyBuffer codec.tag body).length =
      kHeaderLen + codec.frameLength body :=
    length_fillEmptyBuffer codec.tag body
  have whole : kHeaderLen + codec.frameLength body ≤
      (AimServer.fillEmptyBuffer codec.tag body ++ later).length := by
    rw [List.length_append, inside]
    exact Nat.le_add_right _ _
  have isLength : asInt32 (AimServer.fillEmptyBuffer codec.tag body ++ later) =
      codec.frameLength body := by
    rw [frame_eq, List.append_assoc, asInt32_header fits]
  have held : ((AimServer.fillEmptyBuffer codec.tag body ++ later).drop kHeaderLen).take
      (codec.frameLength body) =
      codec.tag ++ body ++ bigEndian 4 (adler32 (codec.tag ++ body)).toNat := by
    have size : (codec.tag ++ body ++ bigEndian 4 (adler32 (codec.tag ++ body)).toNat).length =
        codec.frameLength body := by
      rw [List.length_append, List.length_append, length_bigEndian]
      rfl
    have headed : (bigEndian 4 (codec.frameLength body)).length = kHeaderLen :=
      length_bigEndian 4 _
    rw [frame_eq, List.append_assoc, List.drop_left' headed, List.take_left' size]
  rw [front, if_pos long, isLength, frontOf, if_neg (by omega), Int.toNat_natCast, if_pos whole,
    held, parse_frame, inside]
  cases codec.parseFromBuffer body with
  | none => rfl
  | some message => rfl

/-- A frame that does not fit is an error where it starts. -/
theorem front_large {body : Bytes} (large : kMaxMessageLen < codec.frameLength body)
    (written : codec.frameLength body < 2 ^ 32) (later : Bytes) :
    codec.front (AimServer.fillEmptyBuffer codec.tag body ++ later) = .bad .invalidLength := by
  have isLength : asInt32 (AimServer.fillEmptyBuffer codec.tag body ++ later) =
      signedOf 32 (codec.frameLength body) := by
    rw [frame_eq, List.append_assoc, asInt32, List.take_left' (length_bigEndian 4 _),
      ofBigEndian_bigEndian_of_lt written]
  have outside : (kMaxMessageLen : Int) < signedOf 32 (codec.frameLength body) ∨
      signedOf 32 (codec.frameLength body) < codec.kMinMessageLen := by
    by_cases nonneg : 0 ≤ signedOf 32 (codec.frameLength body)
    · have same := toNat_signedOf written nonneg
      exact Or.inl (by omega)
    · exact Or.inr (by omega)
  rw [front, if_pos (codec.long_of_frame body later), isLength, frontOf, if_pos outside]

/-- What is taken for a message is the frame of a body that fits. -/
theorem front_message {input : Bytes} {message : μ} {length : Nat}
    (reads : codec.front input = .message message length) :
    ∃ body, codec.frameLength body ≤ kMaxMessageLen ∧
      codec.parseFromBuffer body = some message ∧
      length = (AimServer.fillEmptyBuffer codec.tag body).length ∧
      input = AimServer.fillEmptyBuffer codec.tag body ++ input.drop length := by
  unfold front at reads
  by_cases long : codec.kMinMessageLen + kHeaderLen ≤ input.length
  · rw [if_pos long] at reads
    obtain ⟨least, most, isTotal, whole, parsed⟩ := frontOf_message reads
    have header : (input.take 4).length = 4 := by
      rw [List.length_take]
      exact Nat.min_eq_left (header_le_of_long long)
    have small : ofBigEndian (input.take 4) < 2 ^ 32 := by
      have below := ofBigEndian_lt (input.take 4)
      rw [header] at below
      exact below
    have isLength : (asInt32 input).toNat = ofBigEndian (input.take 4) :=
      toNat_signedOf small (show 0 ≤ asInt32 input by omega)
    have size : ((input.drop kHeaderLen).take (asInt32 input).toNat).length =
        (asInt32 input).toNat := by
      rw [List.length_take, List.length_drop]
      omega
    obtain ⟨body, inside, read⟩ := parse_ok (by omega) parsed
    have bodySize : codec.frameLength body = (asInt32 input).toNat := by
      rw [← size, inside, List.length_append, List.length_append, length_bigEndian]
      rfl
    have written : bigEndian 4 (codec.frameLength body) = input.take kHeaderLen := by
      have again := bigEndian_ofBigEndian (input.take 4)
      rwa [header, ← isLength, ← bodySize] at again
    refine ⟨body, by omega, read, ?_, ?_⟩
    · rw [isTotal, length_fillEmptyBuffer, ← bodySize]
      rfl
    · rw [isTotal, frame_eq, written, ← inside, List.append_assoc, ← List.drop_drop,
        List.take_append_drop, List.take_append_drop]
  · rw [if_neg long] at reads
    cases reads

/-! ### The code's loop and writer -/

theorem peekInt32_eq {buf : Buffer} (long : kHeaderLen ≤ buf.contents.length) :
    buf.peekInt32 = some (asInt32 buf.contents) := by
  rw [Buffer.length_contents] at long
  exact if_pos long

/-- A turn on `buf` does what stands at the front says. -/
def Turn.Agrees (turn : Turn μ) (buf : Buffer) (atFront : Front μ ErrorCode) : Prop :=
  match atFront with
  | .more => turn = .ended none
  | .bad error => turn = .ended (some error)
  | .message message length =>
      ∃ next, turn = .took message next ∧ next.contents = buf.contents.drop length

theorem onFrame_agrees (codec : ProtobufCodecLite μ) (len : Int) (buf : Buffer) :
    (codec.onFrame len buf).Agrees buf (codec.frontOf len buf.contents) := by
  unfold onFrame frontOf
  rw [← Buffer.length_contents]
  by_cases outside : (kMaxMessageLen : Int) < len ∨ len < codec.kMinMessageLen
  · rw [if_pos outside, if_pos outside]
    rfl
  · rw [if_neg outside, if_neg outside]
    by_cases whole : kHeaderLen + len.toNat ≤ buf.contents.length
    · rw [if_pos whole, if_pos whole]
      cases codec.parse ((buf.contents.drop kHeaderLen).take len.toNat) with
      | error errorCode => rfl
      | ok message =>
          rcases Buffer.retrieve_cases (kHeaderLen + len.toNat) buf with
            ⟨-, next, retrieved, same, -⟩ | ⟨short, -⟩
          · refine ⟨next, ?_, same⟩
            dsimp only
            rw [retrieved]
          · exact absurd whole (Nat.not_le_of_lt short)
    · rw [if_neg whole, if_neg whole]
      rfl

theorem onMessageTurn_of_long {buf : Buffer}
    (long : codec.kMinMessageLen + kHeaderLen ≤ buf.contents.length) :
    codec.onMessageTurn buf = codec.onFrame (asInt32 buf.contents) buf := by
  rw [onMessageTurn, ← Buffer.length_contents, if_pos long, peekInt32_eq (header_le_of_long long)]

/-- No assertion fails in a turn. -/
theorem onMessageTurn_agrees (codec : ProtobufCodecLite μ) (buf : Buffer) :
    (codec.onMessageTurn buf).Agrees buf (codec.front buf.contents) := by
  by_cases long : codec.kMinMessageLen + kHeaderLen ≤ buf.contents.length
  · rw [onMessageTurn_of_long long, front, if_pos long]
    generalize asInt32 buf.contents = len
    exact codec.onFrame_agrees len buf
  · rw [onMessageTurn, front, ← Buffer.length_contents, if_neg long, if_neg long]
    rfl

/-- The loop does what the reading of the buffered bytes says. -/
theorem turns_eq (codec : ProtobufCodecLite μ) (fuel : Nat) (buf : Buffer) :
    ∃ next, turns codec.onMessageTurn fuel buf =
        some ((codec.framing.drain fuel buf.contents).messages, next,
          (codec.framing.drain fuel buf.contents).error) ∧
      next.contents = (codec.framing.drain fuel buf.contents).rest := by
  induction fuel generalizing buf with
  | zero => exact ⟨buf, rfl, rfl⟩
  | succ fuel inductionHypothesis =>
      have turn := codec.onMessageTurn_agrees buf
      have isFront : codec.framing.front buf.contents = codec.front buf.contents := rfl
      rw [turns, Framing.drain, isFront]
      cases atFront : codec.front buf.contents with
      | more =>
          rw [atFront] at turn
          rw [show codec.onMessageTurn buf = .ended none from turn]
          exact ⟨buf, rfl, rfl⟩
      | bad error =>
          rw [atFront] at turn
          rw [show codec.onMessageTurn buf = .ended (some error) from turn]
          exact ⟨buf, rfl, rfl⟩
      | message message length =>
          rw [atFront] at turn
          obtain ⟨rest, took, same⟩ := turn
          obtain ⟨next, looped, left⟩ := inductionHypothesis rest
          rw [same] at looped left
          refine ⟨next, ?_, left⟩
          rw [took]
          dsimp only
          rw [looped]
          rfl

/-- The loop runs until nothing more can be read, and no assertion fails. -/
theorem onMessage_eq (codec : ProtobufCodecLite μ) (buf : Buffer) :
    ∃ next, codec.onMessage buf =
        some ((codec.framing.decode buf.contents).messages, next,
          (codec.framing.decode buf.contents).error) ∧
      next.contents = (codec.framing.decode buf.contents).rest := by
  rw [onMessage, ← Buffer.length_contents]
  exact codec.turns_eq (buf.contents.length + 1) buf

/-- A number read as two's complement is written back as it was. -/
theorem networkBytes_signedOf (value : Nat) :
    Buffer.networkBytes 4 (signedOf 32 value) = bigEndian 4 value := by
  have same : unsignedOf 32 (signedOf 32 value) = value % 256 ^ 4 := unsignedOf_signedOf 32 value
  rw [Buffer.networkBytes, same, bigEndian_mod]

theorem serializeToBuffer_eq (codec : ProtobufCodecLite μ) (message : μ) (buf : Buffer) :
    ∃ next, codec.serializeToBuffer message buf = some ((codec.serialize message).length, next) ∧
      next.contents = buf.contents ++ codec.serialize message ∧
      min kCheapPrepend buf.prependableBytes ≤ next.prependableBytes := by
  obtain ⟨ready, ensured, same, room, front⟩ :=
    Buffer.ensureWritableBytes_eq ((codec.serialize message).length + kChecksumLen) buf
  rcases Buffer.write_cases (codec.serialize message) ready with
    ⟨-, next, wrote, hasBody, unmoved⟩ | ⟨short, -⟩
  · refine ⟨next, ?_, ?_, ?_⟩
    · rw [serializeToBuffer, ensured]
      dsimp only [Option.bind_eq_bind, Option.bind_some]
      rw [wrote]
      rfl
    · rw [hasBody, same]
    · rw [unmoved]
      exact front
  · omega

/-- Both assertions hold, and the message is in the buffer as its frame. -/
theorem fillEmptyBuffer_new (codec : ProtobufCodecLite μ) (message : μ) :
    ∃ next, codec.fillEmptyBuffer message (.new kInitialSize) = some next ∧
      next.contents = AimServer.fillEmptyBuffer codec.tag (codec.serialize message) := by
  obtain ⟨tagged, appended, hasTag, headroom⟩ := Buffer.append_eq codec.tag (.new kInitialSize)
  obtain ⟨filled, serialized, hasBody, still⟩ := codec.serializeToBuffer_eq message tagged
  obtain ⟨summed, sumAppended, hasSum, yet⟩ :=
    Buffer.append_eq (Buffer.networkBytes 4 (checksum filled.contents)) filled
  have inside : summed.contents = codec.tag ++ codec.serialize message ++
      bigEndian 4 (adler32 (codec.tag ++ codec.serialize message)).toNat := by
    rw [hasSum, checksum, networkBytes_signedOf, hasBody, hasTag, Buffer.contents_new,
      List.nil_append]
  have size : summed.readableBytes = codec.frameLength (codec.serialize message) := by
    rw [← Buffer.length_contents, inside, List.length_append, List.length_append, length_bigEndian]
    rfl
  have start : (Buffer.new kInitialSize).prependableBytes = kCheapPrepend := rfl
  have header : (Buffer.networkBytes 4 (signedOf 32 summed.readableBytes)).length ≤
      summed.prependableBytes := by
    rw [networkBytes_signedOf, length_bigEndian]
    rw [start] at headroom
    unfold kCheapPrepend at headroom still yet
    omega
  rcases Buffer.prepend_cases (Buffer.networkBytes 4 (signedOf 32 summed.readableBytes)) summed
    with ⟨-, next, prepended, isNext, -⟩ | ⟨short, -⟩
  · refine ⟨next, ?_, ?_⟩
    · have empty : (Buffer.new kInitialSize).readableBytes = 0 := rfl
      have asserted : summed.readableBytes =
          codec.tag.length + (codec.serialize message).length + kChecksumLen := size
      rw [fillEmptyBuffer, guard, if_pos empty, appended]
      dsimp only [Option.pure_def, Option.bind_eq_bind, Option.bind_some]
      rw [serialized]
      dsimp only [Option.bind_some]
      rw [Buffer.appendInt32, sumAppended]
      dsimp only [Option.bind_some]
      rw [guard, if_pos asserted]
      exact prepended
    · rw [isNext, networkBytes_signedOf, size, inside, frame_eq]
  · exact absurd header (Nat.not_le_of_lt short)

/-- What is handed to the connection is the message's frame. -/
theorem send_eq (codec : ProtobufCodecLite μ) (message : μ) :
    codec.send message =
      some (AimServer.fillEmptyBuffer codec.tag (codec.serialize message)) := by
  obtain ⟨next, filled, isFrame⟩ := codec.fillEmptyBuffer_new message
  rw [send, filled, Option.map_some, isFrame]

end Frames

end ProtobufCodecLite

/-- The codec of a session. -/
def IMCodec.codec (pb : ImProto) : ProtobufCodecLite MessageContainer :=
  ⟨IMCodec.tag, pb.parseContainer, pb.serializeContainer⟩

theorem IMCodec.codec_send (pb : ImProto) (msg : MessageContainer) :
    (IMCodec.codec pb).send msg = some (IMCodec.send pb msg) :=
  ProtobufCodecLite.send_eq (IMCodec.codec pb) msg

end AimServer
