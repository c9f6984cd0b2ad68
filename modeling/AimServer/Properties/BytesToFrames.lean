import AimServer.Session.Transport

/-!
Contract: the byte server is the frame server.

Owns: that every run over bytes is a run over frames, with for each connection
just the frames its bytes decode to, and that nothing else is added, lost or
moved.

Does not own: the decoding, and the results about frame runs, which hold for
byte runs by this.
-/

namespace AimServer

open AimServer.Lib ProtobufCodecLite

/-! ### One step more -/

theorem streamOf_snoc (conn : Nat) (past : List ByteEvent) (event : ByteEvent) :
    streamOf conn (past ++ [event]) =
      match event with
      | .connect other _ => if other = conn then some [] else streamOf conn past
      | .close other _ => if other = conn then none else streamOf conn past
      | .bytes other data _ =>
          if other = conn then (streamOf conn past).map (· ++ data) else streamOf conn past
      | .agentReply _ _ _ _ => streamOf conn past
      | .restart _ _ => none := by
  rw [streamOf, List.foldl_append]
  rfl

theorem framesOf_snoc (conn : Nat) (past : List Step) (label : Step) :
    framesOf conn (past ++ [label]) =
      match label.event with
      | .connect other => if other = conn then some [] else framesOf conn past
      | .close other => if other = conn then none else framesOf conn past
      | .frame other msg =>
          if other = conn then (framesOf conn past).map (· ++ [msg]) else framesOf conn past
      | .agentReply _ _ _ => framesOf conn past
      | .restart _ => none := by
  rw [framesOf, List.foldl_append]
  rfl

namespace ByteServer

theorem frameSteps_snoc (conn : Nat) (envs : Nat → Env) (messages : List MessageContainer)
    (msg : MessageContainer) :
    frameSteps conn envs (messages ++ [msg]) =
      frameSteps conn envs messages ++ [⟨.frame conn msg, envs messages.length⟩] := by
  rw [frameSteps, List.mapIdx_append, List.mapIdx_cons, List.mapIdx_nil, Nat.zero_add]
  rfl

theorem framesOf_frameSteps (conn : Nat) (past : List Step) (envs : Nat → Env)
    (messages : List MessageContainer) :
    framesOf conn (past ++ frameSteps conn envs messages) =
      (framesOf conn past).map (· ++ messages) := by
  induction messages using List.reverseRecOn with
  | nil =>
      have none : past ++ frameSteps conn envs [] = past := List.append_nil past
      rw [none]
      cases framesOf conn past with
      | none => rfl
      | some frames => rw [Option.map_some, List.append_nil]
  | append_singleton messages msg inductionHypothesis =>
      rw [frameSteps_snoc, ← List.append_assoc, framesOf_snoc, inductionHypothesis]
      dsimp only
      rw [if_pos rfl, Option.map_map]
      cases framesOf conn past with
      | none => rfl
      | some frames =>
          rw [Option.map_some, Option.map_some, Function.comp_apply, List.append_assoc]

theorem framesOf_frameSteps_other {conn other : Nat} (different : conn ≠ other)
    (past : List Step) (envs : Nat → Env) (messages : List MessageContainer) :
    framesOf other (past ++ frameSteps conn envs messages) = framesOf other past := by
  induction messages using List.reverseRecOn with
  | nil =>
      have none : past ++ frameSteps conn envs [] = past := List.append_nil past
      rw [none]
  | append_singleton messages msg inductionHypothesis =>
      rw [frameSteps_snoc, ← List.append_assoc, framesOf_snoc, inductionHypothesis]
      exact if_neg different

theorem filter_frameSteps (conn : Nat) (envs : Nat → Env) (messages : List MessageContainer) :
    (frameSteps conn envs messages).filter (fun label => !label.isFrame) = [] := by
  apply List.filter_eq_nil_iff.mpr
  intro label member
  obtain ⟨index, bound, rfl⟩ := List.mem_mapIdx.mp member
  exact nofun

/-! ### The two runs -/

/-- What an open connection has read, against its bytes and its frames. -/
inductive Reads (pb : ImProto) :
    Option (Received MessageContainer) → Option Bytes → Option (List MessageContainer) → Prop where
  | closed : Reads pb none none none
  | opened {input : Received MessageContainer} {stream : Bytes}
      (isOf : input.IsOf (IMCodec.codec pb) stream) :
      Reads pb (some input) (some stream) (some input.messages)

/-- A byte run and the frame run it amounts to. -/
structure Amounts (pb : ImProto) (start : World) (s : ByteServer) (events : List ByteEvent)
    (steps : List Step) : Prop where
  world : s.world = World.runFrom pb start steps
  others : steps.filter (fun label => !label.isFrame) = events.filterMap ByteEvent.toStep?
  reads : ∀ conn, Reads pb (s.inputs conn) (streamOf conn events) (framesOf conn steps)

section Step

variable {pb : ImProto} {start : World} {s : ByteServer} {events : List ByteEvent}
  {steps : List Step}

/-- An event that brings no bytes is a step of the frame run. -/
theorem Amounts.other (amounts : Amounts pb start s events steps) {event : ByteEvent}
    {label : Step} (isStep : event.toStep? = some label) (notFrame : label.isFrame = false)
    (inputs : Nat → Option (Received MessageContainer))
    (reads : ∀ conn, Reads pb (inputs conn) (streamOf conn (events ++ [event]))
      (framesOf conn (steps ++ [label]))) :
    Amounts pb start ⟨s.world.step pb label, inputs⟩ (events ++ [event]) (steps ++ [label]) where
  world := by rw [World.runFrom_snoc, ← amounts.world]
  others := by
    rw [List.filter_append, List.filterMap_append, amounts.others, List.filter_cons,
      List.filterMap_cons, isStep, notFrame]
    rfl
  reads := reads

/-- The reading of a connection after its input was replaced, and of the others. -/
theorem reads_setInput {input : Option (Received MessageContainer)} {conn other : Nat}
    {stream otherStream : Option Bytes} {frames otherFrames : Option (List MessageContainer)}
    (replaced : Reads pb input stream frames)
    (kept : conn ≠ other → Reads pb (s.inputs other) otherStream otherFrames)
    (isStream : conn = other → otherStream = stream)
    (isFrames : conn = other → otherFrames = frames) :
    Reads pb (s.setInput conn input other) otherStream otherFrames := by
  unfold setInput
  by_cases same : conn = other
  · rw [if_pos same.symm, isStream same, isFrames same]
    exact replaced
  · rw [if_neg (Ne.symm same)]
    exact kept same

/-- The frames that a piece completes are the steps of it. -/
theorem Amounts.piece (amounts : Amounts pb start s events steps) (conn : Nat) (data : Bytes)
    (envs : Nat → Env) :
    ∃ next more, s.step pb (.bytes conn data envs) = some next ∧
      Amounts pb start next (events ++ [.bytes conn data envs]) (steps ++ more) := by
  have read := amounts.reads conn
  unfold step onRead
  dsimp only
  generalize isInput : s.inputs conn = input at read
  generalize isStream : streamOf conn events = stream at read
  generalize isFrames : framesOf conn steps = frames at read
  cases read with
  | closed =>
      -- Nobody is there to read the bytes.
      refine ⟨s, [], rfl, ?_, ?_, ?_⟩
      · rw [List.append_nil]
        exact amounts.world
      · rw [List.append_nil, List.filterMap_append, amounts.others]
        exact (List.append_nil _).symm
      · intro other
        rw [List.append_nil, streamOf_snoc]
        dsimp only
        by_cases same : conn = other
        · subst same
          rw [if_pos rfl, isStream, isInput, isFrames]
          exact .closed
        · rw [if_neg same]
          exact amounts.reads other
  | @opened input stream isOf =>
      obtain ⟨next, received, nextIsOf⟩ := receive_isOf isOf data
      obtain ⟨fresh, isFresh⟩ := receive_messages received
      have isMore : next.messages.drop input.messages.length = fresh := by
        rw [isFresh, List.drop_left]
      refine ⟨⟨s.world.runFrom pb (frameSteps conn envs fresh), s.setInput conn (some next)⟩,
        frameSteps conn envs fresh, ?_, ?_, ?_, ?_⟩
      · dsimp only
        rw [received, ← isMore]
        rfl
      · rw [amounts.world]
        exact (run_append steps (frameSteps conn envs fresh)).symm
      · rw [List.filter_append, filter_frameSteps, List.filterMap_append, amounts.others]
        rfl
      · intro other
        rw [streamOf_snoc]
        dsimp only
        refine reads_setInput (.opened nextIsOf) ?_ ?_ ?_
        · intro different
          rw [if_neg different, framesOf_frameSteps_other different]
          exact amounts.reads other
        · intro same
          subst same
          rw [if_pos rfl, isStream]
          rfl
        · intro same
          subst same
          rw [framesOf_frameSteps, isFrames, isFresh]
          rfl

theorem Amounts.step (amounts : Amounts pb start s events steps) (event : ByteEvent) :
    ∃ next more, s.step pb event = some next ∧
      Amounts pb start next (events ++ [event]) (steps ++ more) := by
  cases event with
  | bytes conn data envs => exact amounts.piece conn data envs
  | connect conn env =>
      refine ⟨_, [⟨.connect conn, env⟩], rfl, amounts.other rfl rfl _ ?_⟩
      intro other
      rw [streamOf_snoc, framesOf_snoc]
      dsimp only
      refine reads_setInput (.opened (received_none (IMCodec.codec pb)))
        ?_ (fun same => if_pos same) (fun same => if_pos same)
      intro different
      rw [if_neg different, if_neg different]
      exact amounts.reads other
  | close conn env =>
      refine ⟨_, [⟨.close conn, env⟩], rfl, amounts.other rfl rfl _ ?_⟩
      intro other
      rw [streamOf_snoc, framesOf_snoc]
      dsimp only
      refine reads_setInput .closed ?_ (fun same => if_pos same) (fun same => if_pos same)
      intro different
      rw [if_neg different, if_neg different]
      exact amounts.reads other
  | agentReply conn ok reply env =>
      refine ⟨_, [⟨.agentReply conn ok reply, env⟩], rfl, amounts.other rfl rfl _ ?_⟩
      intro other
      rw [streamOf_snoc, framesOf_snoc]
      exact amounts.reads other
  | restart loads env =>
      refine ⟨_, [⟨.restart loads, env⟩], rfl, amounts.other rfl rfl _ ?_⟩
      intro other
      rw [streamOf_snoc, framesOf_snoc]
      exact .closed

end Step

/-- A run of bytes with the steps that each of its events amounts to. -/
theorem Amounts.run (pb : ImProto) (tables : Tables) (events : List ByteEvent) :
    ∃ chunks : List (List Step), chunks.length = events.length ∧
      ∀ n, ∃ s, runFrom pb (.boot tables) (events.take n) = some s ∧
        Amounts pb (.boot tables) s (events.take n) (chunks.take n).flatten := by
  induction events using List.reverseRecOn with
  | nil =>
      refine ⟨[], rfl, fun n => ⟨.boot tables, ?_, ?_⟩⟩
      · rw [List.take_nil]
        rfl
      · rw [List.take_nil, List.take_nil]
        exact ⟨rfl, rfl, fun conn => .closed⟩
  | append_singleton events event inductionHypothesis =>
      obtain ⟨chunks, lengths, stages⟩ := inductionHypothesis
      obtain ⟨s, ran, amounts⟩ := stages events.length
      rw [List.take_length] at ran amounts
      rw [← lengths, List.take_length] at amounts
      obtain ⟨next, more, stepped, later⟩ := amounts.step event
      refine ⟨chunks ++ [more], ?_, ?_⟩
      · rw [List.length_append, List.length_append, lengths]
        rfl
      · intro n
        by_cases within : n ≤ events.length
        · rw [List.take_append_of_le_length within,
            List.take_append_of_le_length (lengths ▸ within)]
          exact stages n
        · have whole : (events ++ [event]).length ≤ n := by
            rw [List.length_append, List.length_singleton]
            omega
          have wholeChunks : (chunks ++ [more]).length ≤ n := by
            rw [List.length_append, List.length_singleton]
            omega
          refine ⟨next, ?_, ?_⟩
          · rw [List.take_of_length_le whole, runFrom, List.foldlM_append, ← runFrom, ran]
            show s.step pb event >>= pure = some next
            rw [stepped]
            rfl
          · rw [List.take_of_length_le whole, List.take_of_length_le wholeChunks,
              List.flatten_append, List.flatten_singleton]
            exact later

end ByteServer

/-- Whatever arrives on whichever connections, in whatever pieces: event by
event the server is where the frame server is after the same connections,
closes, answers and restarts and, of each open connection, the frames that its
bytes so far decode to. -/
theorem bytes_amount_to_frames (pb : ImProto) (tables : Tables) (events : List ByteEvent) :
    ∃ chunks : List (List Step), chunks.length = events.length ∧
      ∀ n, ∃ s, ByteServer.runFrom pb (.boot tables) (events.take n) = some s ∧
        s.world = World.runFrom pb (.boot tables) (chunks.take n).flatten ∧
        (chunks.take n).flatten.filter (fun label => !label.isFrame) =
          (events.take n).filterMap ByteEvent.toStep? ∧
        ∀ conn, framesOf conn (chunks.take n).flatten =
          (streamOf conn (events.take n)).map fun stream =>
            ((IMCodec.codec pb).framing.decode stream).messages := by
  obtain ⟨chunks, lengths, stages⟩ := ByteServer.Amounts.run pb tables events
  refine ⟨chunks, lengths, ?_⟩
  intro n
  obtain ⟨s, ran, world, others, reads⟩ := stages n
  refine ⟨s, ran, world, others, ?_⟩
  intro conn
  have read := reads conn
  generalize s.inputs conn = input at read
  generalize streamOf conn (events.take n) = stream at read
  generalize framesOf conn (chunks.take n).flatten = frames at read
  cases read with
  | closed => rfl
  | opened isOf => exact congrArg some isOf.1

end AimServer
