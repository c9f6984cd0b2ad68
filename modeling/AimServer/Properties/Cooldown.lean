import AimServer.Mail.CodeStore
import Mathlib.Data.Finset.Dedup
import Mathlib.Data.Finset.Order

/-!
Contract: the distance between two codes sent to one email address.

Owns: the condition under which codes are sent at least the cooldown apart,
the invariant behind it, and the run in which a code is used and the next one
is sent at once.

The instant of the last code is a field of the entry. Whatever deletes the
entry takes the cooldown with it: a successful `Verify`, the fifth wrong one,
one that finds the code expired, and a cleanup.
-/

namespace AimServer

open AimServer.Lib

namespace CodeStore

/-- The call sends a code to the address. -/
def SendsCode (email : Bytes) (s : CodeStore) (label : CodeStep) : Prop :=
  ∃ draw, label.call = .generate email draw ∧ (s.generate email draw label.now).1.ok = true

/-- The call does not delete an entry within its cooldown: the code it is
compared with has not expired, is not the right one, and has guesses left; a
cleanup finds it unexpired. -/
def KeepsCooling (s : CodeStore) (label : CodeStep) : Prop :=
  match label.call with
  | .generate _ _ => True
  | .verify email code => ∀ entry, s.codes.lookup email = some entry →
      label.now - entry.lastSent < s.cool →
        label.now ≤ entry.expireAt ∧ entry.code ≠ code ∧ entry.attempts + 1 < maxVerifyAttempts
  | .cleanupExpired => ∀ email entry, s.codes.lookup email = some entry →
      label.now - entry.lastSent < s.cool → label.now ≤ entry.expireAt

/-- A wrong guess at a live code of the address before a given instant. -/
def wrongGuess (email : Bytes) (before : Int) (s : CodeStore) (label : CodeStep) : Bool :=
  match label.call with
  | .verify asked code =>
      match s.codes.lookup email with
      | some entry => asked = email ∧ label.now < before ∧ label.now ≤ entry.expireAt ∧
          entry.code ≠ code
      | none => false
  | _ => false

/-- After a code was sent at `sentAt` its entry stays for the cooldown, with as
many attempts as wrong guesses were made. -/
structure Cooling (email : Bytes) (sentAt : Int) (guesses : Nat) (now : Int) (s : CodeStore) :
    Prop where
  few : guesses < maxVerifyAttempts
  entry : now < sentAt + s.cool → ∃ entry, s.codes.lookup email = some entry ∧
    entry.lastSent = sentAt ∧ entry.attempts = guesses

section Steps

variable {email : Bytes} {sentAt before now : Int} {guesses : Nat} {s next : CodeStore}

theorem Cooling.mono (cooling : Cooling email sentAt guesses before s) (later : before ≤ now) :
    Cooling email sentAt guesses now s :=
  ⟨cooling.few, fun early => cooling.entry (lt_of_le_of_lt later early)⟩

/-- A call that leaves the entry. -/
theorem Cooling.congr (cooling : Cooling email sentAt guesses now s) (cool : next.cool = s.cool)
    (same : now < sentAt + s.cool → next.codes.lookup email = s.codes.lookup email) :
    Cooling email sentAt guesses now next := by
  refine ⟨cooling.few, ?_⟩
  intro early
  rw [cool] at early
  rw [same early]
  exact cooling.entry early

/-- Within the cooldown no other code is sent. -/
theorem not_sends_of_cooling (cooling : Cooling email sentAt guesses now s)
    (early : now < sentAt + s.cool) : s.cooldownLeft email now ≠ none := by
  obtain ⟨entry, found, isSent, -⟩ := cooling.entry early
  intro none
  have passed := cooldownLeft_eq_none_iff.mp none entry found
  rw [isSent] at passed
  omega

theorem cooling_generate (cooling : Cooling email sentAt guesses now s) (asked : Bytes)
    (draw : Nat) : Cooling email sentAt guesses now (s.step ⟨.generate asked draw, now⟩) := by
  apply cooling.congr (step_settings s _).2.1
  intro early
  rw [step_generate]
  rcases generate_lookup s asked draw now with ⟨-, -, none, entries⟩ | ⟨-, -, same⟩
  · rw [entries email, if_neg]
    intro own
    subst own
    exact not_sends_of_cooling cooling early none
  · rw [same]

/-- A guess within the cooldown is counted in the entry. -/
theorem cooling_guess (cooling : Cooling email sentAt guesses now s) (code : Bytes)
    (keeps : s.KeepsCooling ⟨.verify email code, now⟩) (early : now < sentAt + s.cool) :
    s.wrongGuess email (sentAt + s.cool) ⟨.verify email code, now⟩ = true ∧
      Cooling email sentAt (guesses + 1) now (s.step ⟨.verify email code, now⟩) := by
  obtain ⟨entry, found, isSent, isCount⟩ := cooling.entry early
  have inCooldown : now - entry.lastSent < s.cool := by omega
  obtain ⟨inTime, wrong, left⟩ := keeps entry found inCooldown
  refine ⟨by simp [wrongGuess, found, early, inTime, wrong], ?_, ?_⟩
  · rw [← isCount]
    exact left
  · intro _
    rw [step_verify]
    rcases verify_cases s email code now with ⟨gone, -⟩ | ⟨same, isSame, ends⟩
    · rw [gone] at found
      cases found
    · rw [found] at isSame
      cases isSame
      rcases ends with ⟨expired, -⟩ | ⟨-, isCode, -⟩ | ⟨-, -, -, last, -⟩ | ⟨-, -, -, -, kept⟩
      · exact absurd inTime (not_le.mpr expired)
      · exact absurd isCode wrong
      · exact absurd left (not_lt.mpr last)
      · exact ⟨_, kept, isSent, congrArg (· + 1) isCount⟩

theorem cooling_verify (cooling : Cooling email sentAt guesses now s) (asked code : Bytes)
    (keeps : s.KeepsCooling ⟨.verify asked code, now⟩) :
    Cooling email sentAt
      (guesses + if s.wrongGuess email (sentAt + s.cool) ⟨.verify asked code, now⟩ then 1 else 0)
      now (s.step ⟨.verify asked code, now⟩) := by
  by_cases own : asked = email
  · subst own
    by_cases early : now < sentAt + s.cool
    · obtain ⟨isGuess, next⟩ := cooling_guess cooling code keeps early
      rw [if_pos isGuess]
      exact next
    · have noGuess : s.wrongGuess asked (sentAt + s.cool) ⟨.verify asked code, now⟩ = false := by
        unfold wrongGuess
        dsimp only
        split
        · simp [early]
        · rfl
      rw [noGuess]
      exact cooling.congr (step_settings s _).2.1 fun isEarly => absurd isEarly early
  · have noGuess : s.wrongGuess email (sentAt + s.cool) ⟨.verify asked code, now⟩ = false := by
      unfold wrongGuess
      dsimp only
      split
      · simp [own]
      · rfl
    rw [noGuess]
    apply cooling.congr (step_settings s _).2.1
    intro _
    rw [step_verify, verify_lookup_other s code now (Ne.symm own)]

theorem cooling_cleanup (cooling : Cooling email sentAt guesses now s)
    (keeps : s.KeepsCooling ⟨.cleanupExpired, now⟩) :
    Cooling email sentAt guesses now (s.step ⟨.cleanupExpired, now⟩) := by
  apply cooling.congr (step_settings s _).2.1
  intro early
  obtain ⟨entry, found, isSent, -⟩ := cooling.entry early
  have inCooldown : now - entry.lastSent < s.cool := by omega
  have inTime := keeps email entry found inCooldown
  rw [step_cleanup, cleanup_lookup, found, Option.filter_some, if_pos]
  simpa using inTime

theorem cooling_step (cooling : Cooling email sentAt guesses before s) (label : CodeStep)
    (later : before ≤ label.now) (keeps : s.KeepsCooling label) :
    Cooling email sentAt
      (guesses + if s.wrongGuess email (sentAt + s.cool) label then 1 else 0) label.now
      (s.step label) := by
  obtain ⟨call, now⟩ := label
  have current := cooling.mono later
  cases call with
  | generate asked draw => exact cooling_generate current asked draw
  | verify asked code => exact cooling_verify current asked code keeps
  | cleanupExpired => exact cooling_cleanup current keeps

/-- Along a run. -/
theorem cooling_run (labels : List CodeStep) (cooling : Cooling email sentAt guesses before s)
    (clock : (before :: (labels.map CodeStep.now ++ [now])).Pairwise (· ≤ ·))
    (keeps : AllSteps step KeepsCooling s labels) :
    Cooling email sentAt
      (guesses + countSteps step (wrongGuess email (sentAt + s.cool)) s labels) now
      (run step s labels) := by
  induction labels generalizing before s guesses with
  | nil => exact cooling.mono (List.rel_of_pairwise_cons clock List.mem_cons_self)
  | cons label rest inductionHypothesis =>
      have later : before ≤ label.now := List.rel_of_pairwise_cons clock List.mem_cons_self
      have next := inductionHypothesis (cooling_step cooling label later keeps.1)
        (List.pairwise_cons.mp clock).2 keeps.2
      rw [(step_settings s label).2.1] at next
      rw [countSteps, ← Nat.add_assoc]
      exact next

/-- A code that was just sent. -/
theorem cooling_of_sends {label : CodeStep} (sends : SendsCode email s label) :
    Cooling email label.now 0 label.now (s.step label) := by
  obtain ⟨call, now⟩ := label
  obtain ⟨draw, isCall, ok⟩ := sends
  dsimp only at isCall ok
  subst isCall
  rcases generate_lookup s email draw now with ⟨-, -, -, entries⟩ | ⟨refused, -, -⟩
  · refine ⟨Nat.zero_lt_succ 4, ?_⟩
    intro _
    refine ⟨⟨randomDigits s.digits draw, now + s.ttl, now, 0⟩, ?_, rfl, rfl⟩
    rw [step_generate, entries email, if_pos rfl]
  · rw [ok] at refused
    cases refused

theorem cool_run (s : CodeStore) (labels : List CodeStep) : (run step s labels).cool = s.cool := by
  refine run_keeps (fun next : CodeStore => next.cool = s.cool) ?_ rfl
  intro next label same
  rw [(step_settings next label).2.1, same]

end Steps

/-- In a run that deletes no entry within its cooldown, two codes sent to one
address are at least the cooldown apart, and within the cooldown of a code at
most the allowed number of wrong guesses is made at live codes of the address. -/
theorem codes_cooldown_apart {ttl cooldown : Int} {digits : Nat} {email : Bytes}
    {labels past rest : List CodeStep} {first : CodeStep}
    (clock : (labels.map CodeStep.now).Pairwise (· ≤ ·))
    (keeps : AllSteps step KeepsCooling (new ttl cooldown digits) labels)
    (split : labels = past ++ first :: rest)
    (sends : SendsCode email (run step (new ttl cooldown digits) past) first) :
    (∀ between second later, rest = between ++ second :: later →
        SendsCode email (run step (new ttl cooldown digits) (past ++ first :: between)) second →
        first.now + cooldown ≤ second.now) ∧
      countSteps step (wrongGuess email (first.now + cooldown))
        (run step (new ttl cooldown digits) (past ++ [first])) rest ≤ maxVerifyAttempts := by
  subst split
  rw [allSteps_append] at keeps
  have cool : ∀ labels, (run step (new ttl cooldown digits) labels).cool = cooldown :=
    cool_run (new ttl cooldown digits)
  have started := cooling_of_sends sends
  have laterClock : (first.now :: rest.map CodeStep.now).Pairwise (· ≤ ·) := by
    rw [List.map_append, List.map_cons] at clock
    exact (List.pairwise_append.mp clock).2.1
  have isStep : (run step (new ttl cooldown digits) past).step first =
      run step (new ttl cooldown digits) (past ++ [first]) := by
    rw [run_append]
    rfl
  rw [isStep] at started
  have laterKeeps : AllSteps step KeepsCooling (run step (new ttl cooldown digits)
      (past ++ [first])) rest := by
    rw [← isStep]
    exact keeps.2.2
  constructor
  · intro between second later isRest sendsAgain
    subst isRest
    rw [allSteps_append] at laterKeeps
    have clockBetween : (first.now :: (between.map CodeStep.now ++ [second.now])).Pairwise
        (· ≤ ·) := by
      rw [List.map_append, List.map_cons] at laterClock
      refine laterClock.sublist (List.Sublist.cons_cons _ ?_)
      exact (List.Sublist.refl _).append (List.singleton_sublist.mpr List.mem_cons_self)
    have cooling := cooling_run between started clockBetween laterKeeps.1
    rw [← run_append, List.append_assoc] at cooling
    obtain ⟨draw, -, ok⟩ := sendsAgain
    by_contra early
    have inCooldown : second.now < first.now +
        (run step (new ttl cooldown digits) (past ++ ([first] ++ between))).cool := by
      rw [cool]
      omega
    have left := not_sends_of_cooling cooling inCooldown
    rcases generate_lookup (run step (new ttl cooldown digits) (past ++ first :: between)) email
        draw second.now with ⟨-, -, none, -⟩ | ⟨refused, -, -⟩
    · exact left none
    · rw [ok] at refused
      cases refused
  · -- A clock that stands still after the run.
    obtain ⟨last, isLast⟩ : ∃ last, ∀ time ∈ first.now :: rest.map CodeStep.now, time ≤ last := by
      obtain ⟨last, isLast⟩ := (first.now :: rest.map CodeStep.now).toFinset.exists_le
      exact ⟨last, fun time member => isLast time (List.mem_toFinset.mpr member)⟩
    have clockToEnd : (first.now :: (rest.map CodeStep.now ++ [last])).Pairwise (· ≤ ·) := by
      rw [← List.cons_append, List.pairwise_append]
      refine ⟨laterClock, List.pairwise_singleton _ _, ?_⟩
      intro time member other isOther
      rw [List.mem_singleton.mp isOther]
      exact isLast time member
    have cooling := cooling_run rest started clockToEnd laterKeeps
    rw [cool, Nat.zero_add] at cooling
    exact le_of_lt cooling.few

/-! ### Two runs -/

namespace CooldownSample

/-- A code, a wrong guess, and the next code a minute later. -/
def waits : List CodeStep :=
  [⟨.generate (str "a@x.com") 123456, 0⟩, ⟨.verify (str "a@x.com") (str "000000"), 1⟩,
    ⟨.generate (str "a@x.com") 654321, 60⟩]

/-- A code that is used, and the next code right after it. -/
def atOnce : List CodeStep :=
  [⟨.generate (str "a@x.com") 123456, 0⟩, ⟨.verify (str "a@x.com") (str "123456"), 1⟩,
    ⟨.generate (str "a@x.com") 654321, 2⟩]

end CooldownSample

theorem codes_cooldown_apart_waits :
    AllSteps step KeepsCooling (new 300 60 6) CooldownSample.waits ∧ (0 : Int) + 60 ≤ 60 := by
  have keeps : AllSteps step KeepsCooling (new 300 60 6) CooldownSample.waits := by
    refine ⟨trivial, ?_, trivial, trivial⟩
    intro entry found _
    have isEntry : ((new 300 60 6).step ⟨.generate (str "a@x.com") 123456, 0⟩).codes.lookup
        (str "a@x.com") = some ⟨str "123456", 300, 0, 0⟩ := by decide +kernel
    rw [isEntry] at found
    cases found
    decide +kernel
  have sends : SendsCode (str "a@x.com") (run step (new 300 60 6) [])
      ⟨.generate (str "a@x.com") 123456, 0⟩ := ⟨123456, rfl, by decide +kernel⟩
  refine ⟨keeps, (codes_cooldown_apart (by decide) keeps rfl sends).1
    [⟨.verify (str "a@x.com") (str "000000"), 1⟩] ⟨.generate (str "a@x.com") 654321, 60⟩ [] rfl ?_⟩
  exact ⟨654321, rfl, by decide +kernel⟩

/-- A code that is used makes room for the next one at once. -/
theorem codes_sent_at_once :
    ¬ ∀ (ttl cooldown : Int) (digits : Nat) (email : Bytes) (labels past between later :
        List CodeStep) (first second : CodeStep), (labels.map CodeStep.now).Pairwise (· ≤ ·) →
      labels = past ++ first :: (between ++ second :: later) →
      SendsCode email (run step (new ttl cooldown digits) past) first →
      SendsCode email (run step (new ttl cooldown digits) (past ++ first :: between)) second →
      first.now + cooldown ≤ second.now := by
  intro apart
  have distance := apart 300 60 6 (str "a@x.com") CooldownSample.atOnce []
    [⟨.verify (str "a@x.com") (str "123456"), 1⟩] []
    ⟨.generate (str "a@x.com") 123456, 0⟩ ⟨.generate (str "a@x.com") 654321, 2⟩
    (by decide) rfl ⟨123456, rfl, by decide +kernel⟩ ⟨654321, rfl, by decide +kernel⟩
  exact absurd distance (by decide)

end CodeStore

end AimServer
