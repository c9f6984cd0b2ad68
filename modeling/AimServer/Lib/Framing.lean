import Mathlib.Data.List.Basic

/-!
Contract: decoders of a stream that arrives in pieces.

Owns: what a decoder says about the front of a stream and why that answer is
final, the decoding of a stream as far as it goes, what a later piece adds to
it, and what encoders such a decoder reads back.

Does not own: any format, and what is done with a message.
-/

namespace AimServer.Lib

universe u v w

/-- What stands at the front of a stream. -/
inductive Front (μ : Type v) (ε : Type w) where
  /-- Too little to tell. -/
  | more
  | message (value : μ) (length : Nat)
  | bad (error : ε)
deriving DecidableEq, Repr

/-- A decoder whose answers do not change when more arrives. -/
structure Framing (α : Type u) (μ : Type v) (ε : Type w) where
  front : List α → Front μ ε
  positive : ∀ {input : List α} {value : μ} {length : Nat},
    front input = .message value length → 0 < length ∧ length ≤ input.length
  message_append : ∀ {input : List α} {value : μ} {length : Nat} (later : List α),
    front input = .message value length → front (input ++ later) = .message value length
  bad_append : ∀ {input : List α} {error : ε} (later : List α),
    front input = .bad error → front (input ++ later) = .bad error

/-- The messages read, what is left, and the error that stopped the reading. -/
structure Decoded (α : Type u) (μ : Type v) (ε : Type w) where
  messages : List μ
  rest : List α
  error : Option ε
deriving DecidableEq, Repr

namespace Framing

variable {α : Type u} {μ : Type v} {ε : Type w}

section Decode

variable (framing : Framing α μ ε)

/-- Messages from the front while there are any; each takes one step of the fuel. -/
def drain : Nat → List α → Decoded α μ ε
  | 0, input => ⟨[], input, none⟩
  | fuel + 1, input =>
      match framing.front input with
      | .more => ⟨[], input, none⟩
      | .bad error => ⟨[], input, some error⟩
      | .message value length =>
          let later := drain fuel (input.drop length)
          { later with messages := value :: later.messages }

/-- The reading of a whole stream; the extra step is for an error at its end. -/
def decode (input : List α) : Decoded α μ ε :=
  framing.drain (input.length + 1) input

theorem drain_agree {first second : Nat} {input : List α} (enough : input.length < first)
    (enoughToo : input.length < second) :
    framing.drain first input = framing.drain second input := by
  induction first generalizing second input with
  | zero => exact absurd enough (Nat.not_lt_zero _)
  | succ first inductionHypothesis =>
      cases second with
      | zero => exact absurd enoughToo (Nat.not_lt_zero _)
      | succ second =>
          unfold drain
          cases atFront : framing.front input with
          | more => rfl
          | bad error => rfl
          | message value length =>
              have positive := framing.positive atFront
              have shorter : (input.drop length).length < input.length := by
                rw [List.length_drop]
                omega
              dsimp only
              rw [@inductionHypothesis second _ (by omega) (by omega)]

/-- Enough fuel is as good as any more. -/
theorem drain_of_lt {fuel : Nat} {input : List α} (enough : input.length < fuel) :
    framing.drain fuel input = framing.decode input :=
  framing.drain_agree enough (Nat.lt_succ_self _)

/-! ### One step of the reading -/

theorem decode_of_more {input : List α} (isMore : framing.front input = .more) :
    framing.decode input = ⟨[], input, none⟩ := by
  rw [decode, drain, isMore]

theorem decode_of_bad {input : List α} {error : ε} (isBad : framing.front input = .bad error) :
    framing.decode input = ⟨[], input, some error⟩ := by
  rw [decode, drain, isBad]

theorem decode_of_message {input : List α} {value : μ} {length : Nat}
    (isMessage : framing.front input = .message value length) :
    framing.decode input =
      { framing.decode (input.drop length) with
        messages := value :: (framing.decode (input.drop length)).messages } := by
  have positive := framing.positive isMessage
  rw [decode, drain, isMessage]
  dsimp only
  rw [drain_of_lt]
  rw [List.length_drop]
  omega

/-- The induction over what a stream starts with. -/
theorem decode_induction {claim : List α → Prop}
    (more : ∀ input, framing.front input = .more → claim input)
    (bad : ∀ input error, framing.front input = .bad error → claim input)
    (message : ∀ input value length, framing.front input = .message value length →
      claim (input.drop length) → claim input) (input : List α) : claim input := by
  induction size : input.length using Nat.strongRecOn generalizing input with
  | ind size inductionHypothesis =>
      cases atFront : framing.front input with
      | more => exact more input atFront
      | bad error => exact bad input error atFront
      | message value length =>
          have positive := framing.positive atFront
          refine message input value length atFront ?_
          refine inductionHypothesis (input.drop length).length ?_ _ rfl
          rw [List.length_drop]
          omega

/-- What is read is cut into the frames of the messages. -/
theorem decode_frames {isFrame : List α → μ → Prop}
    (isFrame_take : ∀ {input : List α} {value : μ} {length : Nat},
      framing.front input = .message value length → isFrame (input.take length) value)
    (input : List α) :
    ∃ frames, List.Forall₂ isFrame frames (framing.decode input).messages ∧
      frames.flatten ++ (framing.decode input).rest = input := by
  induction input using framing.decode_induction with
  | more input isMore =>
      rw [framing.decode_of_more isMore]
      exact ⟨[], .nil, rfl⟩
  | bad input error isBad =>
      rw [framing.decode_of_bad isBad]
      exact ⟨[], .nil, rfl⟩
  | message input value length isMessage inductionHypothesis =>
      obtain ⟨frames, areFrames, whole⟩ := inductionHypothesis
      rw [framing.decode_of_message isMessage]
      refine ⟨input.take length :: frames, .cons (isFrame_take isMessage) areFrames, ?_⟩
      rw [List.flatten_cons, List.append_assoc, whole, List.take_append_drop]

/-! ### Pieces -/

/-- What arrives later is read from where the reading stopped. -/
theorem decode_append (first second : List α) :
    framing.decode (first ++ second) =
      let later := framing.decode ((framing.decode first).rest ++ second)
      { later with messages := (framing.decode first).messages ++ later.messages } := by
  induction first using framing.decode_induction with
  | more input isMore =>
      rw [framing.decode_of_more isMore]
      rfl
  | bad input error isBad =>
      rw [framing.decode_of_bad isBad]
      rfl
  | message input value length isMessage inductionHypothesis =>
      have positive := framing.positive isMessage
      rw [framing.decode_of_message (framing.message_append second isMessage),
        framing.decode_of_message isMessage, List.drop_append_of_le_length positive.2,
        inductionHypothesis]
      rfl

/-- What is left after an error is the error and what followed it. -/
theorem decode_rest_of_error {input : List α} {error : ε}
    (failed : (framing.decode input).error = some error) :
    framing.front (framing.decode input).rest = .bad error := by
  induction input using framing.decode_induction with
  | more input isMore =>
      rw [framing.decode_of_more isMore] at failed
      cases failed
  | bad input error isBad =>
      rw [framing.decode_of_bad isBad] at failed ⊢
      cases failed
      exact isBad
  | message input value length isMessage inductionHypothesis =>
      rw [framing.decode_of_message isMessage] at failed ⊢
      exact inductionHypothesis failed

/-- After an error nothing is read any more, whatever arrives. -/
theorem decode_append_of_error {input : List α} {error : ε}
    (failed : (framing.decode input).error = some error) (later : List α) :
    framing.decode (input ++ later) =
      ⟨(framing.decode input).messages, (framing.decode input).rest ++ later, some error⟩ := by
  have stays := framing.bad_append later (framing.decode_rest_of_error failed)
  rw [decode_append]
  dsimp only
  rw [framing.decode_of_bad stays, List.append_nil]

/-- Without an error, what is left is the front of one message. -/
theorem decode_rest_of_none {input : List α} (fine : (framing.decode input).error = none) :
    framing.front (framing.decode input).rest = .more := by
  induction input using framing.decode_induction with
  | more input isMore =>
      rw [framing.decode_of_more isMore]
      exact isMore
  | bad input error isBad =>
      rw [framing.decode_of_bad isBad] at fine
      cases fine
  | message input value length isMessage inductionHypothesis =>
      rw [framing.decode_of_message isMessage] at fine ⊢
      exact inductionHypothesis fine

end Decode

/-! ### Encoders -/

section Encode

variable (framing : Framing α μ ε)

/-- The encoding of a message is read as that message, whatever follows. -/
def Reads (encode : μ → List α) (message : μ) : Prop :=
  framing.front (encode message) = .message message (encode message).length

variable {framing} {encode : μ → List α}

theorem Reads.decode_append {message : μ} (reads : framing.Reads encode message)
    (later : List α) :
    framing.decode (encode message ++ later) =
      { framing.decode later with messages := message :: (framing.decode later).messages } := by
  rw [framing.decode_of_message (framing.message_append later reads), List.drop_left]

/-- Messages that are read are read in order, up to what follows them. -/
theorem decode_flatMap {messages : List μ}
    (reads : ∀ message ∈ messages, framing.Reads encode message) (later : List α) :
    framing.decode (messages.flatMap encode ++ later) =
      { framing.decode later with
        messages := messages ++ (framing.decode later).messages } := by
  induction messages with
  | nil => rfl
  | cons message messages inductionHypothesis =>
      rw [List.flatMap_cons, List.append_assoc, (reads message List.mem_cons_self).decode_append,
        inductionHypothesis fun other member => reads other (List.mem_cons_of_mem _ member)]
      rfl

variable (framing) in
/-- Nothing has arrived. -/
def Waits : Prop :=
  framing.front [] = .more

/-- All of the stream has arrived. -/
theorem decode_all (waits : framing.Waits) {messages : List μ}
    (reads : ∀ message ∈ messages, framing.Reads encode message) :
    framing.decode (messages.flatMap encode) = ⟨messages, [], none⟩ := by
  have all := decode_flatMap reads []
  rwa [framing.decode_of_more waits, List.append_nil, List.append_nil] at all

/-- When a part of the stream has arrived, a part of the messages is read, in
order and without an error. -/
theorem decode_arrived (waits : framing.Waits) {messages : List μ}
    (reads : ∀ message ∈ messages, framing.Reads encode message) {arrived missing : List α}
    (split : messages.flatMap encode = arrived ++ missing) :
    (framing.decode arrived).messages <+: messages ∧ (framing.decode arrived).error = none := by
  have whole := decode_all waits reads
  rw [split] at whole
  constructor
  · rw [decode_append] at whole
    have same := congrArg Decoded.messages whole
    exact ⟨_, same⟩
  · cases outcome : (framing.decode arrived).error with
    | none => rfl
    | some error =>
        rw [framing.decode_append_of_error outcome] at whole
        cases congrArg Decoded.error whole

end Encode

end Framing

end AimServer.Lib
