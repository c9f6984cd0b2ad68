import AimServer.Properties.FrameStream

/-!
Contract: `TcpConnection` with its socket, its place in the server's map and
the functors that wait for it in the loops.

Owns: the four states, sending from its own loop and from other threads,
writing when the socket takes bytes, both ways to close, and what the loops do
for a connection.

Does not own: what is sent, and which events happen when. The kernel's answers
are part of the events. Urgent data, the optional callbacks, `startRead`,
`stopRead` and the delayed close are not used by the server and left out.
-/

namespace AimServer.Muduo

open AimServer.Lib ProtobufCodecLite

inductive StateE where
  | kDisconnected
  | kConnecting
  | kConnected
  | kDisconnecting
deriving DecidableEq, Repr

/-- What `write` on the socket gives. -/
inductive WriteResult where
  | wrote (n : Nat)
  | wouldBlock
  /-- `EPIPE` or `ECONNRESET`. -/
  | broken
  /-- Another error. -/
  | failed
deriving DecidableEq, Repr

/-- What a loop does for the connection later. -/
inductive Functor where
  | connectEstablished
  | sendInLoop (message : Bytes)
  | shutdownInLoop
  | forceCloseInLoop
  | connectDestroyed
deriving DecidableEq, Repr

/-- A message `sendInLoop` was called with: by whom, and whether it was taken. -/
structure Handled where
  fromLoop : Bool
  message : Bytes
  taken : Bool
deriving DecidableEq, Repr

structure TcpConnection (μ : Type) where
  state : StateE
  /-- `inputBuffer_`, with what was read from it. -/
  input : Received μ
  outputBuffer : Buffer
  /-- The events of the channel. -/
  reading : Bool
  writing : Bool
  /-- The bytes the socket took, and whether `shutdownWrite` was called. -/
  wire : Bytes
  writeShut : Bool
  /-- The queue of the connection's loop. -/
  pending : List Functor
  /-- `connections_` holds the connection. -/
  inMap : Bool
  /-- Calls of `removeConnectionInLoop` in the queue of the server's loop. -/
  removals : Nat
  /-- For the results: `connected()` in each connection callback, how often the
  channel was removed, whether a write was `broken`, the messages `send` let
  through from the loop and from elsewhere, and what became of them. -/
  callbacks : List Bool
  destroyed : Nat
  broken : Bool
  sentInLoop : List Bytes
  sentElsewhere : List Bytes
  handled : List Handled

namespace TcpConnection

variable {μ : Type}

/-- What `newConnection` makes. -/
def newConnection : TcpConnection μ where
  state := .kConnecting
  input := .none
  outputBuffer := .new kInitialSize
  reading := false
  writing := false
  wire := []
  writeShut := false
  pending := [.connectEstablished]
  inMap := true
  removals := 0
  callbacks := []
  destroyed := 0
  broken := false
  sentInLoop := []
  sentElsewhere := []
  handled := []

section Operations

variable (c : TcpConnection μ)

/-! ### Sending -/

/-- How many of `len` bytes the socket takes, `none` for an error. A socket shut
for writing takes none. -/
def socketWrite (len : Nat) (result : WriteResult) : Option Nat :=
  match result with
  | .wrote n => if c.writeShut then none else some (min n len)
  | _ => none

/-- Nothing is waiting, so that a message is tried at once. -/
def idle : Bool :=
  !c.writing && c.outputBuffer.readableBytes = 0

/-- What `write` was tried on, how much it took and whether the peer is gone. -/
def tryWrite (len : Nat) (result : WriteResult) : Nat × Bool :=
  if c.idle then
    match c.socketWrite len result with
    | some n => (n, false)
    | none => (0, c.writeShut || result = .broken)
  else (0, false)

def sendInLoop (fromLoop : Bool) (message : Bytes) (result : WriteResult) :
    Option (TcpConnection μ) :=
  if c.state = .kDisconnected then
    some { c with handled := c.handled ++ [⟨fromLoop, message, false⟩] }
  else
    let (nwrote, faultError) := c.tryWrite message.length result
    let c :=
      { c with
        wire := c.wire ++ message.take nwrote
        broken := c.broken || (c.idle && result = .broken)
        handled := c.handled ++ [⟨fromLoop, message, !faultError⟩] }
    if faultError = false ∧ nwrote < message.length then do
      let output ← c.outputBuffer.append (message.drop nwrote)
      return { c with
        outputBuffer := output
        writing := true }
    else some c

/-- `send`, called in the loop of the connection or elsewhere. -/
def send (inLoop : Bool) (message : Bytes) (result : WriteResult) : Option (TcpConnection μ) :=
  if c.state = .kConnected then
    if inLoop then
      { c with sentInLoop := c.sentInLoop ++ [message] }.sendInLoop true message result
    else
      some { c with
        sentElsewhere := c.sentElsewhere ++ [message]
        pending := c.pending ++ [.sendInLoop message] }
  else some c

/-! ### Closing -/

def shutdownInLoop : TcpConnection μ :=
  if c.writing then c else { c with writeShut := true }

def shutdown (inLoop : Bool) : TcpConnection μ :=
  if c.state = .kConnected then
    let c := { c with state := .kDisconnecting }
    if inLoop then c.shutdownInLoop else { c with pending := c.pending ++ [.shutdownInLoop] }
  else c

/-- With the connection callback and `removeConnection`, whose loop is another
one. A failed assertion is `none`. -/
def handleClose : Option (TcpConnection μ) :=
  if c.state = .kConnected ∨ c.state = .kDisconnecting then
    some { c with
      state := .kDisconnected
      reading := false
      writing := false
      callbacks := c.callbacks ++ [false]
      removals := c.removals + 1 }
  else none

def forceClose : TcpConnection μ :=
  if c.state = .kConnected ∨ c.state = .kDisconnecting then
    { c with
      state := .kDisconnecting
      pending := c.pending ++ [.forceCloseInLoop] }
  else c

def forceCloseInLoop : Option (TcpConnection μ) :=
  if c.state = .kConnected ∨ c.state = .kDisconnecting then c.handleClose else some c

def connectEstablished : Option (TcpConnection μ) :=
  if c.state = .kConnecting then
    some { c with
      state := .kConnected
      reading := true
      callbacks := c.callbacks ++ [true] }
  else none

/-- `remove` asserts that the channel waits for nothing. -/
def connectDestroyed : Option (TcpConnection μ) :=
  let c :=
    if c.state = .kConnected then
      { c with
        state := .kDisconnected
        reading := false
        writing := false
        callbacks := c.callbacks ++ [false] }
    else c
  if c.reading ∨ c.writing then none else some { c with destroyed := c.destroyed + 1 }

/-- `removeConnectionInLoop` of the server; it asserts that it erased one. -/
def removeConnectionInLoop : Option (TcpConnection μ) :=
  if c.inMap then
    some { c with
      inMap := false
      pending := c.pending ++ [.connectDestroyed] }
  else none

/-! ### Events -/

/-- What the message callbacks send back on the connection while a piece of
input is read. -/
def sendAllInLoop : List (Bytes × WriteResult) → TcpConnection μ → Option (TcpConnection μ)
  | [], c => some c
  | (message, result) :: rest, c => do
      let c ← c.send true message result
      sendAllInLoop rest c

/-- `readFd` and the message callback, with the codec's default error callback
at its end. -/
def onInput (codec : ProtobufCodecLite μ) (data : Bytes) (replies : List (Bytes × WriteResult)) :
    Option (TcpConnection μ) := do
  let input ← codec.receive c.input data
  let next ← sendAllInLoop replies { c with input }
  return if input.errors.length = c.input.errors.length then next else next.shutdown true

/-- What `readFd` gives. -/
inductive ReadResult where
  | data (bytes : Bytes) (replies : List (Bytes × WriteResult))
  | failed

def handleRead (codec : ProtobufCodecLite μ) (result : ReadResult) : Option (TcpConnection μ) :=
  match result with
  | .data bytes replies => if bytes = [] then c.handleClose else c.onInput codec bytes replies
  | .failed => some c

def handleWrite (result : WriteResult) : Option (TcpConnection μ) :=
  if c.writing then
    match c.socketWrite c.outputBuffer.readableBytes result with
    | none => some c
    | some n =>
        if n = 0 then some c
        else do
          let output ← c.outputBuffer.retrieve n
          let next :=
            { c with
              wire := c.wire ++ c.outputBuffer.contents.take n
              outputBuffer := output }
          if output.readableBytes = 0 then
            let next := { next with writing := false }
            return if next.state = .kDisconnecting then next.shutdownInLoop else next
          else return next
  else some c

/-- What `poll` reports for the channel: `POLLHUP`, and what is read and written
when the socket is ready. -/
structure Revents where
  hup : Bool
  readable : Option ReadResult
  writable : Option WriteResult

def handleHup (revents : Revents) : Option (TcpConnection μ) :=
  if revents.hup && revents.readable.isNone then c.handleClose else some c

def handleReadable (codec : ProtobufCodecLite μ) (readable : Option ReadResult) :
    Option (TcpConnection μ) :=
  match readable with
  | none => some c
  | some result => c.handleRead codec result

def handleWritable (writable : Option WriteResult) : Option (TcpConnection μ) :=
  match writable with
  | none => some c
  | some result => c.handleWrite result

/-- `handleEvent` of a channel that waits for input. -/
def handleEvent (codec : ProtobufCodecLite μ) (revents : Revents) :
    Option (TcpConnection μ) :=
  if c.reading then do
    let c ← c.handleHup revents
    let c ← c.handleReadable codec revents.readable
    c.handleWritable revents.writable
  else some c

def runFunctor (functor : Functor) (result : WriteResult) : Option (TcpConnection μ) :=
  match functor with
  | .connectEstablished => c.connectEstablished
  | .sendInLoop message => c.sendInLoop false message result
  | .shutdownInLoop => some c.shutdownInLoop
  | .forceCloseInLoop => c.forceCloseInLoop
  | .connectDestroyed => c.connectDestroyed

end Operations

inductive Event where
  | send (inLoop : Bool) (message : Bytes) (result : WriteResult)
  | shutdown (inLoop : Bool)
  | forceClose
  | handleEvent (revents : Revents)
  /-- The connection's loop runs its oldest functor. -/
  | doPendingFunctor (result : WriteResult)
  /-- The server's loop runs its oldest functor. -/
  | doRemoval

def step (codec : ProtobufCodecLite μ) (c : TcpConnection μ) (event : Event) :
    Option (TcpConnection μ) :=
  match event with
  | .send inLoop message result => c.send inLoop message result
  | .shutdown inLoop => some (c.shutdown inLoop)
  | .forceClose => some c.forceClose
  | .handleEvent revents => c.handleEvent codec revents
  | .doPendingFunctor result =>
      match c.pending with
      | [] => some c
      | functor :: pending => { c with pending }.runFunctor functor result
  | .doRemoval =>
      if c.removals = 0 then some c
      else { c with removals := c.removals - 1 }.removeConnectionInLoop

/-- A connection from its making on. -/
def runFrom (codec : ProtobufCodecLite μ) (events : List Event) : Option (TcpConnection μ) :=
  events.foldlM (step codec) newConnection

end TcpConnection

end AimServer.Muduo
