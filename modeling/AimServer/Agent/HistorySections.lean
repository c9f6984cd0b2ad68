import AimServer.Agent.Cache
import AimServer.Lib.Run

/-!
Contract: concurrent `AppendHistory` and `GetHistory` calls on one `MemoryCache`.

Owns: the two sections of `AppendHistory`, the calls between them, the calls
that have stored, and the step of one section of one call.

Does not own: the other calls of the cache. No entry of a history is changed in
place, so what a call reads from an entry after its section is what the section
found.

The calls are numbered in the order they start in. The numbers and the two lists
of calls are not read by any call.
-/

namespace AimServer

open AimServer.Lib

namespace MemoryCache

variable (json : MessageJson)

/-- The second section of `AppendHistory`, with the messages the first one read. -/
def storeHistory (userID : Int) (msgs : List Message) (msg : Message) (maxLen : Nat)
    (m : MemoryCache) : MemoryCache :=
  let msgs := msgs ++ [msg]
  let msgs := if msgs.length > maxLen then lastOf maxLen msgs else msgs
  m.put (historyKey userID) ⟨json.marshalList msgs, none⟩

/-- `AppendHistory` is `GetHistory` and the second section. -/
theorem storeHistory_getHistory (userID : Int) (msg : Message) (maxLen : Nat) (m : MemoryCache) :
    m.storeHistory json userID (m.getHistory json userID maxLen) msg maxLen =
      m.appendHistory json userID msg maxLen := rfl

end MemoryCache

structure AppendCall where
  number : Nat
  userID : Int
  msg : Message
deriving DecidableEq, Repr

/-- A call between its sections, with what it has read. -/
structure Appending where
  call : AppendCall
  msgs : List Message
deriving DecidableEq

inductive HistorySection where
  | getHistory (userID : Int) (limit : Nat)
  | readHistory (userID : Int) (msg : Message)
  | storeHistory (number : Nat)
deriving DecidableEq, Repr

structure HistoryCalls where
  memory : MemoryCache
  started : List AppendCall
  between : List Appending
  stored : List AppendCall

namespace HistoryCalls

def new : HistoryCalls := ⟨MemoryCache.new, [], [], []⟩

variable (json : MessageJson) (maxLen : Nat)

def step (s : HistoryCalls) : HistorySection → HistoryCalls
  | .getHistory _ _ => s
  | .readHistory userID msg =>
      let call : AppendCall := ⟨s.started.length, userID, msg⟩
      { s with
        started := s.started ++ [call]
        between := s.between ++ [⟨call, s.memory.getHistory json userID maxLen⟩] }
  | .storeHistory number =>
      match s.between.find? fun appending => appending.call.number = number with
      | none => s
      | some ⟨call, msgs⟩ =>
          { s with
            memory := s.memory.storeHistory json call.userID msgs call.msg maxLen
            between := s.between.filter fun appending => appending.call.number ≠ number
            stored := s.stored ++ [call] }

/-- The calls for a user. -/
def callsOf (userID : Int) (calls : List AppendCall) : List AppendCall :=
  calls.filter fun call => call.userID = userID

/-- No other call for the user is between its sections when one starts. -/
def alone (userID : Int) (s : HistoryCalls) (label : HistorySection) : Bool :=
  match label with
  | .readHistory other _ =>
      other ≠ userID ∨ ∀ appending ∈ s.between, appending.call.userID ≠ userID
  | _ => true

/-- The call had returned when the other one had not started. -/
def ReturnedBefore (labels : List HistorySection) (call other : AppendCall) : Prop :=
  ∃ past rest, labels = past ++ rest ∧
    call ∈ (run (step json maxLen) new past).stored ∧
    other ∉ (run (step json maxLen) new past).started

end HistoryCalls

end AimServer
