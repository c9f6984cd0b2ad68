import AimServer.Mail.Service

/-!
Contract: what a `SendCode` that answers with an error leaves behind.

Owns: when two stores cannot be told apart, the exact condition under which a
failed request leaves the store as it was, and the failed mail that does not.

`Generate` replaces the code and starts the cooldown before the mailer is
called, and nothing takes this back.
-/

namespace AimServer

open AimServer.Lib

/-- Both stores have the same settings and entries, so they verify the same
codes and hold back the same requests. -/
structure CodeStore.Same (before after : CodeStore) : Prop where
  ttl : after.ttl = before.ttl
  cool : after.cool = before.cool
  digits : after.digits = before.digits
  entries : ∀ email, after.codes.lookup email = before.codes.lookup email
  verdicts : ∀ email code now, (after.verify email code now).1 = (before.verify email code now).1
  cooldowns : ∀ email now, after.cooldownLeft email now = before.cooldownLeft email now

/-- The request is refused before a code is made, or its mail is sent, or the
new entry is the one that was there. -/
def MailService.FailsCleanly (network : Network) (email : Bytes) (draw : Nat) (now : Int)
    (s : MailService) : Prop :=
  emailPattern email = false ∨ s.store.cooldownLeft email now ≠ none ∨
    s.mailed network email draw = none ∨
    s.store.codes.lookup email = some ⟨randomDigits s.store.digits draw, now + s.store.ttl, now, 0⟩

namespace CodeStore

variable {before after : CodeStore}

/-- Settings and entries are all a store shows. -/
theorem same_of_entries (ttl : after.ttl = before.ttl) (cool : after.cool = before.cool)
    (digits : after.digits = before.digits)
    (entries : ∀ email, after.codes.lookup email = before.codes.lookup email) :
    Same before after := by
  refine ⟨ttl, cool, digits, entries, ?_, ?_⟩
  · intro email code now
    have verdict : ∀ s : CodeStore, (s.verify email code now).1 =
        (s.codes.lookup email).elim false fun entry =>
          decide (now ≤ entry.expireAt ∧ entry.code = code) := by
      intro s
      rcases s.verify_cases email code now with ⟨absent, result⟩ | ⟨entry, found, ends⟩
      · rw [absent, result]
        rfl
      · rw [found, Option.elim_some]
        rcases ends with ⟨expired, result, -⟩ | ⟨inTime, isCode, result, -⟩ |
          ⟨inTime, notCode, result, -⟩ | ⟨inTime, notCode, result, -⟩
        · rw [result]
          simp [not_le.mpr expired]
        · rw [result]
          simp [inTime, isCode]
        · rw [result]
          simp [notCode]
        · rw [result]
          simp [notCode]
    rw [verdict, verdict, entries]
  · intro email now
    rw [cooldownLeft, entries, cool]
    rfl

theorem Same.refl (s : CodeStore) : Same s s :=
  same_of_entries rfl rfl rfl fun _ => rfl

/-- A code that was made shows, unless it was there. -/
theorem same_generate_iff {email : Bytes} {draw : Nat} {now : Int}
    (granted : before.cooldownLeft email now = none) :
    Same before (before.generate email draw now).2 ↔
      before.codes.lookup email =
        some ⟨randomDigits before.digits draw, now + before.ttl, now, 0⟩ := by
  rcases before.generate_lookup email draw now with ⟨-, -, -, entries⟩ | ⟨-, held, -⟩
  · constructor
    · intro same
      have own := same.entries email
      rw [entries, if_pos rfl] at own
      exact own.symm
    · intro already
      have settings := before.step_settings ⟨.generate email draw, now⟩
      refine same_of_entries settings.1 settings.2.1 settings.2.2 ?_
      intro other
      rw [entries]
      split
      · rename_i isEmail
        rw [isEmail, already]
      · rfl
  · exact absurd granted held

end CodeStore

/-- A `SendCode` answered with an error leaves the store as it was exactly when
the error is not that of the mailer. -/
theorem sendCode_failure_clean_iff (network : Network) (email : Bytes) (draw : Nat) (now : Int)
    (s : MailService) :
    ((s.sendCode network email draw now).1.code ≠ 0 →
        CodeStore.Same s.store (s.sendCode network email draw now).2.store) ↔
      s.FailsCleanly network email draw now := by
  unfold MailService.FailsCleanly
  rcases s.sendCode_cases network email draw now with
    ⟨refused, -, unchanged⟩ | ⟨wellFormed, granted, code, stored⟩
  · rw [unchanged]
    refine iff_of_true (fun _ => CodeStore.Same.refl s.store) ?_
    rcases refused with malformed | cooling
    · exact Or.inl malformed
    · exact Or.inr (Or.inl cooling)
  · rw [stored, CodeStore.same_generate_iff granted, ← not_imp_not, ne_eq, not_not]
    simp only [wellFormed, granted, Bool.true_eq_false, ne_eq, not_true_eq_false, false_or]
    rw [← code]
    tauto

namespace Sample

/-- The default configuration has no SMTP server. -/
def noServer : SmtpConfig := ⟨[], 465, [], [], [], true⟩

/-- A network that is never asked. -/
def silent : Network := fun _ _ _ =>
  ⟨none, none, none, none, none, none, none, none, none, none⟩

def minute : Int := 60000000000

/-- A code that is valid for five minutes was sent to `a@b.c` at the beginning. -/
def delivered : MailService :=
  ⟨((CodeStore.new (5 * minute) minute 6).generate (str "a@b.c") 123456 0).2, noServer, 5 * minute⟩

end Sample

open Sample in
/-- After two minutes a new mail cannot be sent: the old code is gone, and the
next request has to wait. -/
theorem failed_mail_replaces_code :
    (delivered.sendCode silent (str "a@b.c") 654321 (2 * minute)).1.code = 3 ∧
      (delivered.store.verify (str "a@b.c") (str "123456") (2 * minute)).1 = true ∧
      ((delivered.sendCode silent (str "a@b.c") 654321 (2 * minute)).2.store.verify (str "a@b.c")
        (str "123456") (2 * minute)).1 = false ∧
      ((delivered.sendCode silent (str "a@b.c") 654321 (2 * minute)).2.sendCode silent
        (str "a@b.c") 111111 (2 * minute + 1)).1.code = 1 ∧
      ¬ ∀ (network : Network) (email : Bytes) (draw : Nat) (now : Int) (s : MailService),
        (s.sendCode network email draw now).1.code ≠ 0 →
          CodeStore.Same s.store (s.sendCode network email draw now).2.store := by
  have failed : (delivered.sendCode silent (str "a@b.c") 654321 (2 * minute)).1.code = 3 := by
    decide +kernel
  have verified : (delivered.store.verify (str "a@b.c") (str "123456") (2 * minute)).1 = true := by
    decide +kernel
  have lost : ((delivered.sendCode silent (str "a@b.c") 654321 (2 * minute)).2.store.verify
      (str "a@b.c") (str "123456") (2 * minute)).1 = false := by decide +kernel
  refine ⟨failed, verified, lost, by decide +kernel, ?_⟩
  intro always
  have same := always silent (str "a@b.c") 654321 (2 * minute) delivered (by rw [failed]; decide)
  have verdict := same.verdicts (str "a@b.c") (str "123456") (2 * minute)
  rw [lost, verified] at verdict
  cases verdict

end AimServer
