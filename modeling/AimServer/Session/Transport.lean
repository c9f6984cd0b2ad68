import AimServer.Properties.FrameStream
import AimServer.Session.Dispatch

/-!
Contract: the server as it sees its connections, in bytes.

Owns: what a connection has read so far, which of its bytes are handled as
frames, and a step function over pieces of input as they arrive.

Does not own: the handlers, and the way out, which `Net.TcpConnection` models.
-/

namespace AimServer

open AimServer.Lib

/-- The server with what its open connections have read. -/
structure ByteServer where
  world : World
  inputs : Nat → Option (ProtobufCodecLite.Received MessageContainer)

/-- What happens to the server. A piece of input may hold any number of frames;
each is handled in an environment of its own. -/
inductive ByteEvent where
  | connect (conn : Nat) (env : Env)
  | close (conn : Nat) (env : Env)
  | bytes (conn : Nat) (data : Bytes) (envs : Nat → Env)
  | agentReply (conn : Nat) (ok : Bool) (reply : Bytes) (env : Env)
  | restart (loads : Store.LoadOutcome) (env : Env)

namespace ByteServer

def boot (tables : Tables) : ByteServer :=
  ⟨.boot tables, fun _ => none⟩

/-- The inputs with that of one connection replaced. -/
def setInput (conn : Nat) (input : Option (ProtobufCodecLite.Received MessageContainer))
    (s : ByteServer) : Nat → Option (ProtobufCodecLite.Received MessageContainer) :=
  fun other => if other = conn then input else s.inputs other

/-- The steps of the frames read from one piece. -/
def frameSteps (conn : Nat) (envs : Nat → Env) (messages : List MessageContainer) : List Step :=
  messages.mapIdx fun index msg => ⟨.frame conn msg, envs index⟩

/-- `OnRead` of a session: a piece of input and the frames it completes. A failed
assertion is `none`. -/
def onRead (pb : ImProto) (conn : Nat) (data : Bytes) (envs : Nat → Env) (s : ByteServer) :
    Option ByteServer :=
  match s.inputs conn with
  | none => some s
  | some input => do
      let next ← (IMCodec.codec pb).receive input data
      let fresh := next.messages.drop input.messages.length
      return ⟨s.world.runFrom pb (frameSteps conn envs fresh), s.setInput conn (some next)⟩

def step (pb : ImProto) (s : ByteServer) (event : ByteEvent) : Option ByteServer :=
  match event with
  | .connect conn env =>
      some ⟨s.world.step pb ⟨.connect conn, env⟩, s.setInput conn (some .none)⟩
  | .close conn env => some ⟨s.world.step pb ⟨.close conn, env⟩, s.setInput conn none⟩
  | .bytes conn data envs => s.onRead pb conn data envs
  | .agentReply conn ok reply env =>
      some ⟨s.world.step pb ⟨.agentReply conn ok reply, env⟩, s.inputs⟩
  | .restart loads env => some ⟨s.world.step pb ⟨.restart loads, env⟩, fun _ => none⟩

def runFrom (pb : ImProto) (s : ByteServer) (events : List ByteEvent) : Option ByteServer :=
  events.foldlM (step pb) s

end ByteServer

/-- The step of an event that brings no bytes. -/
def ByteEvent.toStep? (event : ByteEvent) : Option Step :=
  match event with
  | .connect conn env => some ⟨.connect conn, env⟩
  | .close conn env => some ⟨.close conn, env⟩
  | .bytes _ _ _ => none
  | .agentReply conn ok reply env => some ⟨.agentReply conn ok reply, env⟩
  | .restart loads env => some ⟨.restart loads, env⟩

def Step.isFrame (label : Step) : Bool :=
  match label.event with
  | .frame _ _ => true
  | _ => false

/-- The bytes an open connection has sent since it was made. -/
def streamOf (conn : Nat) (events : List ByteEvent) : Option Bytes :=
  events.foldl
    (fun stream event =>
      match event with
      | .connect other _ => if other = conn then some [] else stream
      | .close other _ => if other = conn then none else stream
      | .bytes other data _ => if other = conn then stream.map (· ++ data) else stream
      | .agentReply _ _ _ _ => stream
      | .restart _ _ => none) none

/-- The frames an open connection has sent since it was made. -/
def framesOf (conn : Nat) (steps : List Step) : Option (List MessageContainer) :=
  steps.foldl
    (fun frames label =>
      match label.event with
      | .connect other => if other = conn then some [] else frames
      | .close other => if other = conn then none else frames
      | .frame other msg => if other = conn then frames.map (· ++ [msg]) else frames
      | .agentReply _ _ _ => frames
      | .restart _ => none) none

end AimServer
