import Mathlib.Data.List.Basic

/-!
Contract: machines that answer.

Owns: the answers of a machine to inputs one after the other with the state it
is left in, and simulation: when every step of one machine answers as the step
of another does and keeps a relation between their states, so does every run.

Does not own: machines without answers, which `Lib.Run` is about.
-/

namespace AimServer.Lib

variable {σ τ ι κ α : Type*}

/-- The answers to inputs in their order, and the last state. -/
def serveAll (serve : ι → σ → α × σ) : List ι → σ → List α × σ
  | [], state => ([], state)
  | input :: rest, state =>
      let (answer, next) := serve input state
      let (answers, last) := serveAll serve rest next
      (answer :: answers, last)

theorem serveAll_cons (serve : ι → σ → α × σ) (input : ι) (rest : List ι) (state : σ) :
    serveAll serve (input :: rest) state =
      ((serve input state).1 :: (serveAll serve rest (serve input state).2).1,
        (serveAll serve rest (serve input state).2).2) :=
  rfl

/-- Answers that are looked at through a function. -/
theorem serveAll_map {β : Type*} (serve : ι → σ → α × σ) (view : α → β) (inputs : List ι)
    (state : σ) :
    serveAll (fun input state => Prod.map view id (serve input state)) inputs state =
      Prod.map (List.map view) id (serveAll serve inputs state) := by
  induction inputs generalizing state with
  | nil => rfl
  | cons input rest inductionHypothesis =>
      rw [serveAll_cons, serveAll_cons, Prod.map_snd, id_eq, inductionHypothesis]
      rfl

/-- Each input of the first machine has its image for the second; the answers are
the same and related states stay related. -/
structure Simulates (serve : ι → σ → α × σ) (image : ι → κ) (spec : κ → τ → α × τ)
    (shows : σ → τ → Prop) : Prop where
  answer : ∀ input {s t}, shows s t → (serve input s).1 = (spec (image input) t).1
  next : ∀ input {s t}, shows s t → shows (serve input s).2 (spec (image input) t).2

namespace Simulates

variable {serve : ι → σ → α × σ} {image : ι → κ} {spec : κ → τ → α × τ} {shows : σ → τ → Prop}

theorem run (simulates : Simulates serve image spec shows) (inputs : List ι) {s : σ} {t : τ}
    (start : shows s t) :
    (serveAll serve inputs s).1 = (serveAll spec (inputs.map image) t).1 ∧
      shows (serveAll serve inputs s).2 (serveAll spec (inputs.map image) t).2 := by
  induction inputs generalizing s t with
  | nil => exact ⟨rfl, start⟩
  | cons input rest inductionHypothesis =>
      obtain ⟨same, related⟩ := inductionHypothesis (simulates.next input start)
      rw [List.map_cons, serveAll_cons, serveAll_cons, simulates.answer input start, same]
      exact ⟨rfl, related⟩

end Simulates

end AimServer.Lib
