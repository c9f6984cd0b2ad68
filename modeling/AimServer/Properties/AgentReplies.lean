import AimServer.Properties.Client
import AimServer.Session.AgentAnswers

/-!
Contract: which question an agent answer is pushed for.

Proves that in every run every pushed answer carries the sequence number and
the user of its question exactly when no answer arrives after another message
with another number, or a login as another account, was handled on its
connection.

The callback of the agent call reads the session when the answer arrives, so
whatever was handled in between shows in the container.
-/

namespace AimServer

open AimServer.Lib

/-- The pushed container carries what its question was asked with. -/
def Matches (question : Question) (entry : Nat × Frame) : Prop :=
  entry.1 = question.conn ∧ entry.2.seq = question.seq ∧ entry.2.targetId = question.userid ∧
    ∃ message, entry.2.body = .chatMsg message ∧ message.targetid = question.userid

namespace AgentServer

/-- Every answer pushed so far matches its question. -/
def AllMatch (m : AgentServer) : Prop :=
  ∀ answered ∈ m.pushed, Matches answered.1 answered.2

/-- An answer that arrives while the server lives finds that the last message
handled on its connection since it was asked for, if any, had the same sequence
number, and that the last login there that named an account named the one that
asked. -/
def Undisturbed (m : AgentServer) : AgentLabel → Prop
  | .event _ => True
  | .answer index _ _ _ =>
      m.world.fault = none → ∀ o, m.outstanding[index]? = some o →
        (∀ seq ∈ o.lastSeq, seq = o.question.seq) ∧ ∀ id ∈ o.lastNamed, id = o.question.userid

section Steps

variable {pb : ImProto} {m : AgentServer}

theorem getD_eq_iff {α : Type} {last : Option α} {asked : α} :
    last.getD asked = asked ↔ ∀ value ∈ last, value = asked := by
  cases last with
  | none => simp
  | some value => simp

/-- Nothing but an answer pushes. -/
theorem pushed_event (label : Step) : (m.step pb (.event label)).pushed = m.pushed := by
  simp only [step]
  split
  · rfl
  · rfl

/-- An answer in a process that has ended pushes nothing. -/
theorem pushed_dead {index : Nat} {o : Outstanding} {ok : Bool} {reply : Bytes} {env : Env}
    (dead : m.world.fault ≠ none) :
    (m.answer pb index o ⟨.agentReply o.question.conn ok reply, env⟩).pushed = m.pushed := by
  have isDead : (m.world.withEnv env).fault.isSome = true := Option.isSome_iff_ne_none.mpr dead
  have unsent : (m.world.step pb ⟨.agentReply o.question.conn ok reply, env⟩).outbox =
      m.world.outbox := by
    simp only [World.step, isDead, if_true]
    rfl
  simp only [answer, unsent, List.drop_length, List.map_nil, List.append_nil]

/-- One answer matches exactly when nothing disturbed it. -/
theorem allMatch_answer {index : Nat} {o : Outstanding} {ok : Bool} {reply : Bytes} {env : Env}
    (tracks : m.Tracks) (live : m.world.fault = none)
    (isOutstanding : m.outstanding[index]? = some o) (soFar : m.AllMatch) :
    (m.answer pb index o ⟨.agentReply o.question.conn ok reply, env⟩).AllMatch ↔
      (∀ seq ∈ o.lastSeq, seq = o.question.seq) ∧
        ∀ id ∈ o.lastNamed, id = o.question.userid := by
  obtain ⟨content, sent⟩ := answer_sent pb ok reply env tracks live isOutstanding
  rw [← getD_eq_iff, ← getD_eq_iff]
  simp only [AllMatch, answer, sent, List.drop_left, List.map_cons, List.map_nil,
    List.forall_mem_append, List.forall_mem_singleton]
  constructor
  · intro both
    obtain ⟨-, -, seq, target, -⟩ := both
    exact ⟨seq, target⟩
  · intro same
    obtain ⟨seq, userid⟩ := same
    exact ⟨soFar, rfl, seq, userid, _, rfl, userid⟩

/-- A step keeps all answers matching exactly when it is no disturbed answer. -/
theorem allMatch_step (tracks : m.Tracks) (soFar : m.AllMatch) (label : AgentLabel) :
    (m.step pb label).AllMatch ↔ m.Undisturbed label := by
  cases label with
  | event label =>
      refine iff_of_true ?_ trivial
      rw [AllMatch, pushed_event]
      exact soFar
  | answer index ok reply env =>
      cases isOutstanding : m.outstanding[index]? with
      | none =>
          refine iff_of_true ?_ ?_
          · simp only [step, isOutstanding]
            exact soFar
          · intro _ o found
            rw [isOutstanding] at found
            cases found
      | some o =>
          simp only [step, isOutstanding, Undisturbed, Option.some.injEq, forall_eq']
          by_cases live : m.world.fault = none
          · rw [allMatch_answer tracks live isOutstanding soFar]
            exact ⟨fun both _ => both, fun both => both live⟩
          · refine iff_of_true ?_ (fun lives => absurd lives live)
            rw [AllMatch, pushed_dead live]
            exact soFar

end Steps

end AgentServer

/-- Every answer pushed in a run matches its question exactly when no answer of
the run was disturbed. -/
theorem agent_answers_match_iff (pb : ImProto) (tables : Tables) (labels : List AgentLabel) :
    (∀ past rest, labels = past ++ rest →
        (run (AgentServer.step pb) (.boot tables) past).AllMatch) ↔
      AllSteps (AgentServer.step pb) AgentServer.Undisturbed (.boot tables) labels :=
  always_iff_allSteps AgentServer.AllMatch AgentServer.Tracks
    (fun m label tracks => AgentServer.tracks_step pb m label tracks)
    (fun _ label tracks soFar => AgentServer.allMatch_step tracks soFar label)
    (fun _ member => absurd member List.not_mem_nil) (AgentServer.tracks_boot tables)

namespace AgentRuns

/-- The agent client exists. -/
def withAgent : Env := { Env.plain with grpc := .ready }

def question (seq : Int) : MessageContainer :=
  ⟨MsgType.chat.cmd, seq, agentUserId, [], Client.chatMsg 1 (-1) (str "hi")⟩

/-- Alice asks with number 7, sends a heartbeat with number 8, and is
answered. -/
def labels : List AgentLabel :=
  Sample.aliceLogsIn.map AgentLabel.event ++
    [.event ⟨.frame 0 (question 7), withAgent⟩,
      .event ⟨.frame 0 ⟨MsgType.heartbeat.cmd, 8, 0, [], []⟩, withAgent⟩,
      .answer 0 true (str "hello") withAgent]

end AgentRuns

open AgentRuns in
theorem agent_answer_mismatch :
    ¬ (run (AgentServer.step wireProto) (.boot Sample.aliceAlone) labels).AllMatch := by
  intro all
  have pushed : (run (AgentServer.step wireProto) (.boot Sample.aliceAlone) labels).pushed =
      [(⟨0, 7, 1⟩, 0, ⟨MsgType.chat.cmd, 8, 1,
        .chatMsg (World.agentReply 1 (str "hello") 0)⟩)] := by decide
  have matched := all _ (pushed ▸ List.mem_cons_self)
  exact absurd matched.2.1 (by decide)

end AimServer
