import AimServer.GoText
import AimServer.Lib.GoMap
import AimServer.Lib.Run

/-!
Contract: the verification codes of GoMailServer.

Owns: `Generate`, `Verify` and `cleanupExpired` of `CodeStore`, the calls on
one store as a machine, and what one email address sees of a run.

Does not own: mail delivery, and the random source: the number `rand.Int`
draws is an input of `Generate`.

Instants and durations are nanoseconds. Every method holds the lock from its
first line to its last, so a call is one step at the instant it reads.
-/

namespace AimServer

open AimServer.Lib

/-- `codeEntry`. -/
structure CodeEntry where
  code : Bytes
  expireAt : Int
  lastSent : Int
  attempts : Nat
deriving DecidableEq, Repr

def maxVerifyAttempts : Nat := 5

structure CodeStore where
  codes : GoMap Bytes CodeEntry
  ttl : Int
  cool : Int
  digits : Nat

/-- The three results of `Generate`. -/
structure Generated where
  code : Bytes
  ok : Bool
  cooldownRemaining : Int
deriving DecidableEq, Repr

/-- `randomDigits`: the drawn number with leading zeros. -/
def randomDigits (digits draw : Nat) : Bytes :=
  paddedText digits draw

namespace CodeStore

/-- `NewCodeStore`. -/
def new (ttl cooldown : Int) (digits : Nat) : CodeStore :=
  ⟨∅, ttl, cooldown, digits⟩

/-- How much of the cooldown after the last code is left. -/
def cooldownLeft (email : Bytes) (now : Int) (s : CodeStore) : Option Int :=
  match s.codes.lookup email with
  | none => none
  | some entry =>
      if now - entry.lastSent < s.cool then some (s.cool - (now - entry.lastSent)) else none

def generate (email : Bytes) (draw : Nat) (now : Int) (s : CodeStore) : Generated × CodeStore :=
  match s.cooldownLeft email now with
  | some remaining => (⟨[], false, remaining / 1000000000 + 1⟩, s)
  | none =>
      let code := randomDigits s.digits draw
      (⟨code, true, 0⟩, { s with codes := s.codes.insert email ⟨code, now + s.ttl, now, 0⟩ })

def verify (email code : Bytes) (now : Int) (s : CodeStore) : Bool × CodeStore :=
  match s.codes.lookup email with
  | none => (false, s)
  | some entry =>
      if entry.expireAt < now then (false, { s with codes := s.codes.erase email })
      else if entry.code ≠ code then
        let attempts := entry.attempts + 1
        if attempts ≥ maxVerifyAttempts then (false, { s with codes := s.codes.erase email })
        else (false, { s with codes := s.codes.insert email { entry with attempts } })
      else (true, { s with codes := s.codes.erase email })

/-- `cleanupExpired`, with the number of codes it removes. -/
def cleanupExpired (now : Int) (s : CodeStore) : Nat × CodeStore :=
  let codes := GoMap.keepIf (fun _ entry => ¬ entry.expireAt < now) s.codes
  (s.codes.entries.length - codes.entries.length, { s with codes })

end CodeStore

/-! ### Runs -/

inductive CodeCall where
  | generate (email : Bytes) (draw : Nat)
  | verify (email code : Bytes)
  | cleanupExpired
deriving DecidableEq, Repr

/-- A call and the instant `time.Now()` gives in it. -/
structure CodeStep where
  call : CodeCall
  now : Int
deriving DecidableEq, Repr

/-- What the calls for one email address returned: a code that was sent, or
the verdict on a code that was tried. -/
inductive CodeRecord where
  | sent (code : Bytes) (sentAt : Int)
  | tried (code : Bytes) (ok : Bool)
deriving DecidableEq, Repr

namespace CodeStore

def step (s : CodeStore) (label : CodeStep) : CodeStore :=
  match label.call with
  | .generate email draw => (s.generate email draw label.now).2
  | .verify email code => (s.verify email code label.now).2
  | .cleanupExpired => (s.cleanupExpired label.now).2

@[simp] theorem step_generate (s : CodeStore) (email : Bytes) (draw : Nat) (now : Int) :
    s.step ⟨.generate email draw, now⟩ = (s.generate email draw now).2 := rfl

@[simp] theorem step_verify (s : CodeStore) (email code : Bytes) (now : Int) :
    s.step ⟨.verify email code, now⟩ = (s.verify email code now).2 := rfl

@[simp] theorem step_cleanup (s : CodeStore) (now : Int) :
    s.step ⟨.cleanupExpired, now⟩ = (s.cleanupExpired now).2 := rfl

/-- What a call adds to the record of an email address. A refused `Generate`
and every call for another address add nothing. -/
def recordOf (email : Bytes) (s : CodeStore) (label : CodeStep) : List CodeRecord :=
  match label.call with
  | .generate email' draw =>
      let result := (s.generate email' draw label.now).1
      if email' = email ∧ result.ok then [.sent result.code label.now] else []
  | .verify email' code =>
      if email' = email then [.tried code (s.verify email' code label.now).1] else []
  | .cleanupExpired => []

/-- The record of an email address over a run. -/
def records (email : Bytes) : CodeStore → List CodeStep → List CodeRecord
  | _, [] => []
  | s, label :: rest => s.recordOf email label ++ records email (s.step label) rest

/-! ### What each call does to an entry -/

section Entries

variable {s : CodeStore} {email other : Bytes} {now : Int}

theorem cooldownLeft_eq_none_iff :
    s.cooldownLeft email now = none ↔
      ∀ entry, s.codes.lookup email = some entry → s.cool ≤ now - entry.lastSent := by
  unfold cooldownLeft
  split
  · rename_i absent
    simp [absent]
  · rename_i entry found
    rw [found]
    simp

/-- A sent code replaces the entry of its address; a refused request and the
requests for other addresses leave the entry. -/
theorem generate_lookup (s : CodeStore) (email : Bytes) (draw : Nat) (now : Int) :
    ((s.generate email draw now).1.ok = true ∧
        (s.generate email draw now).1.code = randomDigits s.digits draw ∧
        s.cooldownLeft email now = none ∧
        ∀ other, (s.generate email draw now).2.codes.lookup other =
          if other = email then some ⟨randomDigits s.digits draw, now + s.ttl, now, 0⟩
          else s.codes.lookup other) ∨
      ((s.generate email draw now).1.ok = false ∧ s.cooldownLeft email now ≠ none ∧
        (s.generate email draw now).2 = s) := by
  unfold generate
  split
  · rename_i remaining left
    exact Or.inr ⟨rfl, by rw [left]; exact Option.some_ne_none _, rfl⟩
  · rename_i none
    refine Or.inl ⟨rfl, rfl, none, ?_⟩
    intro other
    exact GoMap.lookup_insert _ _ _ _

/-- The calls for another address leave the entry. -/
theorem verify_lookup_other (s : CodeStore) (code : Bytes) (now : Int)
    (different : other ≠ email) :
    (s.verify email code now).2.codes.lookup other = s.codes.lookup other := by
  unfold verify
  split
  · rfl
  · split
    · exact AList.lookup_erase_ne different
    · split
      · dsimp only
        split
        · exact AList.lookup_erase_ne different
        · exact AList.lookup_insert_ne different
      · exact AList.lookup_erase_ne different

/-- The four ends of a `Verify` on its own entry. -/
theorem verify_cases (s : CodeStore) (email code : Bytes) (now : Int) :
    (s.codes.lookup email = none ∧ s.verify email code now = (false, s)) ∨
      ∃ entry, s.codes.lookup email = some entry ∧
        ((entry.expireAt < now ∧ (s.verify email code now).1 = false ∧
            (s.verify email code now).2.codes.lookup email = none) ∨
          (now ≤ entry.expireAt ∧ entry.code = code ∧ (s.verify email code now).1 = true ∧
            (s.verify email code now).2.codes.lookup email = none) ∨
          (now ≤ entry.expireAt ∧ entry.code ≠ code ∧ (s.verify email code now).1 = false ∧
            maxVerifyAttempts ≤ entry.attempts + 1 ∧
            (s.verify email code now).2.codes.lookup email = none) ∨
          (now ≤ entry.expireAt ∧ entry.code ≠ code ∧ (s.verify email code now).1 = false ∧
            entry.attempts + 1 < maxVerifyAttempts ∧
            (s.verify email code now).2.codes.lookup email =
              some { entry with attempts := entry.attempts + 1 })) := by
  unfold verify
  cases found : s.codes.lookup email with
  | none => exact Or.inl ⟨rfl, rfl⟩
  | some entry =>
      refine Or.inr ⟨entry, rfl, ?_⟩
      dsimp only
      by_cases expired : entry.expireAt < now
      · rw [if_pos expired]
        exact Or.inl ⟨expired, rfl, AList.lookup_erase _ _⟩
      · rw [if_neg expired]
        have inTime : now ≤ entry.expireAt := not_lt.mp expired
        by_cases same : entry.code = code
        · rw [if_neg (not_not.mpr same)]
          exact Or.inr (Or.inl ⟨inTime, same, rfl, AList.lookup_erase _ _⟩)
        · rw [if_pos same]
          by_cases last : entry.attempts + 1 ≥ maxVerifyAttempts
          · rw [if_pos last]
            exact Or.inr (Or.inr (Or.inl ⟨inTime, same, rfl, last, AList.lookup_erase _ _⟩))
          · rw [if_neg last]
            exact Or.inr (Or.inr (Or.inr ⟨inTime, same, rfl, not_le.mp last,
              AList.lookup_insert _⟩))

theorem cleanup_lookup (s : CodeStore) (email : Bytes) (now : Int) :
    (s.cleanupExpired now).2.codes.lookup email =
      (s.codes.lookup email).filter fun entry => ¬ entry.expireAt < now :=
  GoMap.lookup_keepIf _ _ _

/-- The settings stay what they are. -/
theorem step_settings (s : CodeStore) (label : CodeStep) :
    (s.step label).ttl = s.ttl ∧ (s.step label).cool = s.cool ∧
      (s.step label).digits = s.digits := by
  obtain ⟨call, now⟩ := label
  cases call with
  | generate email draw =>
      simp only [step, generate]
      split <;> exact ⟨rfl, rfl, rfl⟩
  | verify email code =>
      simp only [step, verify]
      split
      · exact ⟨rfl, rfl, rfl⟩
      · split
        · exact ⟨rfl, rfl, rfl⟩
        · split
          · split <;> exact ⟨rfl, rfl, rfl⟩
          · exact ⟨rfl, rfl, rfl⟩
  | cleanupExpired => exact ⟨rfl, rfl, rfl⟩

end Entries

end CodeStore

end AimServer
