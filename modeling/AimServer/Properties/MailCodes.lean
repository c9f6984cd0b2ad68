import AimServer.Mail.CodeStore

/-!
Contract: when a verification code is accepted.

Owns: the history of one email address as its calls see it, the theorem that
`Verify` decides by that history alone, and the invariant that ties an entry
of the store to it.

The store forgets an entry when it is used up, guessed at too often, or found
expired; the history does not. An entry that is gone stands for a code that
can no longer be accepted, and with a clock that does not run backwards it
stays so.
-/

namespace AimServer

open AimServer.Lib

/-- A try with another code than `code`. -/
def CodeRecord.isWrong (code : Bytes) : CodeRecord → Bool
  | .sent _ _ => false
  | .tried other _ => other ≠ code

def CodeRecord.isSent : CodeRecord → Bool
  | .sent _ _ => true
  | .tried _ _ => false

/-- A successful try. -/
def CodeRecord.isAccepted : CodeRecord → Bool
  | .sent _ _ => false
  | .tried _ ok => ok

/-- The history of an address admits a code now: it is the code sent last, it
has not expired, no try has succeeded since, and fewer than the allowed number
of tries with another code were made since. -/
def AdmitsCode (ttl : Int) (history : List CodeRecord) (code : Bytes) (now : Int) : Prop :=
  ∃ before sentAt since, history = before ++ .sent code sentAt :: since ∧
    (∀ record ∈ since, record.isSent = false) ∧ now ≤ sentAt + ttl ∧
    (∀ record ∈ since, record.isAccepted = false) ∧
    since.countP (CodeRecord.isWrong code) < maxVerifyAttempts

/-! ### The code sent last -/

/-- The code sent last and what became of it. -/
structure CodeStatus where
  code : Bytes
  sentAt : Int
  used : Bool
  wrong : Nat
deriving DecidableEq, Repr

namespace CodeStatus

def next (status : Option CodeStatus) : CodeRecord → Option CodeStatus
  | .sent code sentAt => some ⟨code, sentAt, false, 0⟩
  | .tried code ok => status.map fun status =>
      { status with
        used := status.used || ok
        wrong := status.wrong + if code ≠ status.code then 1 else 0 }

def ofHistory (history : List CodeRecord) : Option CodeStatus :=
  history.foldl next none

@[simp] theorem ofHistory_snoc (history : List CodeRecord) (record : CodeRecord) :
    ofHistory (history ++ [record]) = next (ofHistory history) record := by
  simp [ofHistory]

/-- Tries after the code was sent. -/
theorem foldl_tries {since : List CodeRecord} (tries : ∀ record ∈ since, record.isSent = false)
    (status : CodeStatus) :
    since.foldl next (some status) = some
      { status with
        used := status.used || since.any CodeRecord.isAccepted
        wrong := status.wrong + since.countP (CodeRecord.isWrong status.code) } := by
  induction since generalizing status with
  | nil => simp
  | cons record rest inductionHypothesis =>
      have later := inductionHypothesis fun other member =>
        tries other (List.mem_cons_of_mem record member)
      cases record with
      | sent code sentAt => cases tries _ List.mem_cons_self
      | tried code ok =>
          simp only [List.foldl_cons, next, Option.map_some]
          rw [later]
          by_cases same : code = status.code
          · simp [CodeRecord.isAccepted, CodeRecord.isWrong, same, Bool.or_assoc]
          · simp [CodeRecord.isAccepted, CodeRecord.isWrong, same, Bool.or_assoc]
            omega

/-- A history with a sent code ends with the one sent last and tries. -/
theorem split_of_ofHistory {history : List CodeRecord} {status : CodeStatus}
    (found : ofHistory history = some status) :
    ∃ before since, history = before ++ .sent status.code status.sentAt :: since ∧
      ∀ record ∈ since, record.isSent = false := by
  induction history using List.reverseRecOn generalizing status with
  | nil => cases found
  | append_singleton past record inductionHypothesis =>
      rw [ofHistory_snoc] at found
      cases record with
      | sent code sentAt =>
          cases found
          refine ⟨past, [], rfl, ?_⟩
          intro record member
          cases member
      | tried code ok =>
          obtain ⟨earlier, isEarlier, rfl⟩ := Option.map_eq_some_iff.mp found
          obtain ⟨before, since, rfl, tries⟩ := inductionHypothesis isEarlier
          refine ⟨before, since ++ [.tried code ok], by simp, ?_⟩
          intro record member
          rcases List.mem_append.mp member with isOld | isNew
          · exact tries record isOld
          · rw [List.mem_singleton.mp isNew]
            rfl

theorem ofHistory_split {before since : List CodeRecord} {code : Bytes} {sentAt : Int}
    (tries : ∀ record ∈ since, record.isSent = false) :
    ofHistory (before ++ .sent code sentAt :: since) =
      some ⟨code, sentAt, since.any CodeRecord.isAccepted,
        since.countP (CodeRecord.isWrong code)⟩ := by
  unfold ofHistory
  rw [List.foldl_append, List.foldl_cons]
  show since.foldl next (some ⟨code, sentAt, false, 0⟩) = _
  rw [foldl_tries tries]
  simp

/-- What the history admits, by the code sent last. -/
theorem admitsCode_iff {ttl : Int} {history : List CodeRecord} {code : Bytes} {now : Int} :
    AdmitsCode ttl history code now ↔
      ∃ status, ofHistory history = some status ∧ status.code = code ∧
        now ≤ status.sentAt + ttl ∧ status.used = false ∧ status.wrong < maxVerifyAttempts := by
  constructor
  · intro admits
    obtain ⟨before, sentAt, since, rfl, tries, inTime, unused, few⟩ := admits
    refine ⟨_, ofHistory_split tries, rfl, inTime, ?_, few⟩
    rw [List.any_eq_false]
    intro record member
    simp [unused record member]
  · intro found
    obtain ⟨status, isStatus, rfl, inTime, unused, few⟩ := found
    obtain ⟨before, since, rfl, tries⟩ := split_of_ofHistory isStatus
    rw [ofHistory_split tries, Option.some.injEq] at isStatus
    rw [← isStatus] at unused few
    refine ⟨before, _, since, rfl, tries, inTime, ?_, few⟩
    intro record member
    simpa using List.any_eq_false.mp unused record member

end CodeStatus

/-! ### The entry and the history -/

namespace CodeStore

/-- The entry of an address stands for the code sent last. Without an entry
that code has been used, guessed at too often, or has expired by `now`. -/
structure Tracks (email : Bytes) (now : Int) (s : CodeStore) (history : List CodeRecord) :
    Prop where
  present : ∀ entry, s.codes.lookup email = some entry →
    ∃ status, CodeStatus.ofHistory history = some status ∧
      entry = ⟨status.code, status.sentAt + s.ttl, status.sentAt, status.wrong⟩ ∧
      status.used = false ∧ status.wrong < maxVerifyAttempts
  absent : s.codes.lookup email = none → ∀ status, CodeStatus.ofHistory history = some status →
    status.used = true ∨ maxVerifyAttempts ≤ status.wrong ∨ status.sentAt + s.ttl < now

section Steps

variable {email : Bytes} {before now : Int} {s next : CodeStore} {history : List CodeRecord}

theorem Tracks.mono (tracks : Tracks email before s history) (later : before ≤ now) :
    Tracks email now s history := by
  refine ⟨tracks.present, ?_⟩
  intro gone status isStatus
  rcases tracks.absent gone status isStatus with used | wrong | expired
  · exact Or.inl used
  · exact Or.inr (Or.inl wrong)
  · exact Or.inr (Or.inr (lt_of_lt_of_le expired later))

/-- A call that leaves the entry and the history. -/
theorem Tracks.congr (tracks : Tracks email now s history) (ttl : next.ttl = s.ttl)
    (same : next.codes.lookup email = s.codes.lookup email) : Tracks email now next history := by
  refine ⟨?_, ?_⟩
  · intro entry found
    rw [same] at found
    rw [ttl]
    exact tracks.present entry found
  · intro gone
    rw [same] at gone
    rw [ttl]
    exact tracks.absent gone

theorem tracks_generate (tracks : Tracks email now s history) (asked : Bytes) (draw : Nat) :
    Tracks email now (s.step ⟨.generate asked draw, now⟩)
      (history ++ s.recordOf email ⟨.generate asked draw, now⟩) := by
  have settings := step_settings s ⟨.generate asked draw, now⟩
  simp only [recordOf]
  rcases generate_lookup s asked draw now with ⟨ok, isCode, -, entries⟩ | ⟨refused, -, same⟩
  · rw [ok, isCode]
    by_cases own : asked = email
    · subst own
      rw [if_pos ⟨rfl, rfl⟩]
      have entry := entries asked
      rw [if_pos rfl] at entry
      refine ⟨?_, ?_⟩
      · intro found isFound
        rw [step_generate, entry] at isFound
        cases isFound
        refine ⟨⟨randomDigits s.digits draw, now, false, 0⟩, CodeStatus.ofHistory_snoc _ _, ?_, rfl,
          Nat.zero_lt_succ 4⟩
        rw [settings.1]
      · intro gone
        rw [step_generate, entry] at gone
        cases gone
    · rw [if_neg (fun both => own both.1), List.append_nil]
      apply tracks.congr settings.1
      rw [step_generate, entries email, if_neg (Ne.symm own)]
  · rw [refused, if_neg (fun both => Bool.false_ne_true both.2), List.append_nil]
    apply tracks.congr settings.1
    rw [step_generate, same]

/-- A try on the entry of its address. -/
theorem tracks_verify_own (tracks : Tracks email now s history) (code : Bytes) :
    Tracks email now (s.step ⟨.verify email code, now⟩)
      (history ++ [.tried code (s.verify email code now).1]) := by
  have settings := step_settings s ⟨.verify email code, now⟩
  rw [step_verify] at settings ⊢
  rcases verify_cases s email code now with ⟨gone, same⟩ | ⟨entry, found, ends⟩
  · rw [same]
    refine ⟨?_, ?_⟩
    · intro entry found
      rw [gone] at found
      cases found
    · intro _ status isStatus
      rw [CodeStatus.ofHistory_snoc] at isStatus
      obtain ⟨earlier, isEarlier, rfl⟩ := Option.map_eq_some_iff.mp isStatus
      rcases tracks.absent gone earlier isEarlier with used | wrong | expired
      · exact Or.inl (by simp [used])
      · exact Or.inr (Or.inl (le_trans wrong (Nat.le_add_right _ _)))
      · exact Or.inr (Or.inr expired)
  · obtain ⟨status, isStatus, rfl, unused, few⟩ := tracks.present entry found
    have history' : CodeStatus.ofHistory
        (history ++ [.tried code (s.verify email code now).1]) = some
          { status with
            used := status.used || (s.verify email code now).1
            wrong := status.wrong + if code ≠ status.code then 1 else 0 } := by
      rw [CodeStatus.ofHistory_snoc, isStatus]
      rfl
    -- A deleted entry leaves a code that is used, guessed at too often, or expired.
    have deleted : (s.verify email code now).2.codes.lookup email = none →
        ((status.used || (s.verify email code now).1) = true ∨
          maxVerifyAttempts ≤ status.wrong + (if code ≠ status.code then 1 else 0) ∨
          status.sentAt + s.ttl < now) →
        Tracks email now (s.verify email code now).2
          (history ++ [.tried code (s.verify email code now).1]) := by
      intro gone dead
      refine ⟨?_, ?_⟩
      · intro entry isEntry
        rw [gone] at isEntry
        cases isEntry
      · intro _ last isLast
        rw [history', Option.some.injEq] at isLast
        rw [← isLast, settings.1]
        exact dead
    rcases ends with ⟨expired, -, gone⟩ | ⟨-, -, accepted, gone⟩ | ⟨-, wrong, -, last, gone⟩ |
      ⟨-, wrong, refused, notLast, kept⟩
    · exact deleted gone (Or.inr (Or.inr expired))
    · exact deleted gone (Or.inl (by simp [accepted]))
    · refine deleted gone (Or.inr (Or.inl ?_))
      rw [if_pos (Ne.symm wrong)]
      exact last
    · refine ⟨?_, ?_⟩
      · intro entry isEntry
        rw [kept] at isEntry
        cases isEntry
        refine ⟨_, history', ?_, ?_, ?_⟩
        · rw [settings.1, if_pos (Ne.symm wrong)]
        · rw [unused, refused]
          rfl
        · rw [if_pos (Ne.symm wrong)]
          exact notLast
      · intro gone
        rw [kept] at gone
        cases gone

theorem tracks_verify (tracks : Tracks email now s history) (asked code : Bytes) :
    Tracks email now (s.step ⟨.verify asked code, now⟩)
      (history ++ s.recordOf email ⟨.verify asked code, now⟩) := by
  simp only [recordOf]
  by_cases own : asked = email
  · subst own
    rw [if_pos rfl]
    exact tracks_verify_own tracks code
  · rw [if_neg own, List.append_nil]
    apply tracks.congr (step_settings s _).1
    rw [step_verify, verify_lookup_other s code now (Ne.symm own)]

theorem tracks_cleanup (tracks : Tracks email now s history) :
    Tracks email now (s.step ⟨.cleanupExpired, now⟩)
      (history ++ s.recordOf email ⟨.cleanupExpired, now⟩) := by
  have kept := cleanup_lookup s email now
  rw [← step_cleanup] at kept
  rw [recordOf, List.append_nil]
  refine ⟨?_, ?_⟩
  · intro entry found
    rw [kept, Option.filter_eq_some_iff] at found
    exact tracks.present entry found.1
  · intro gone status isStatus
    rw [kept, Option.filter_eq_none_iff] at gone
    cases found : s.codes.lookup email with
    | none => exact tracks.absent found status isStatus
    | some entry =>
        obtain ⟨last, isLast, rfl, -⟩ := tracks.present entry found
        have expired : last.sentAt + s.ttl < now := by simpa using gone _ found
        rw [isLast] at isStatus
        cases isStatus
        exact Or.inr (Or.inr expired)

theorem tracks_step (tracks : Tracks email before s history) (label : CodeStep)
    (later : before ≤ label.now) :
    Tracks email label.now (s.step label) (history ++ s.recordOf email label) := by
  obtain ⟨call, now⟩ := label
  have current := tracks.mono later
  cases call with
  | generate asked draw => exact tracks_generate current asked draw
  | verify asked code => exact tracks_verify current asked code
  | cleanupExpired => exact tracks_cleanup current

/-- Along a run whose clock does not run backwards. -/
theorem tracks_run (labels : List CodeStep) (tracks : Tracks email before s history)
    (clock : (before :: (labels.map CodeStep.now ++ [now])).Pairwise (· ≤ ·)) :
    Tracks email now (run step s labels) (history ++ s.records email labels) := by
  induction labels generalizing before s history with
  | nil =>
      rw [records, List.append_nil]
      exact tracks.mono (List.rel_of_pairwise_cons clock List.mem_cons_self)
  | cons label rest inductionHypothesis =>
      rw [records, ← List.append_assoc]
      have later : before ≤ label.now := List.rel_of_pairwise_cons clock List.mem_cons_self
      exact inductionHypothesis (tracks_step tracks label later) (List.pairwise_cons.mp clock).2

/-- The verdict of `Verify` on a tracked entry. -/
theorem verify_iff_admits (tracks : Tracks email now s history) (code : Bytes) :
    (s.verify email code now).1 = true ↔ AdmitsCode s.ttl history code now := by
  rw [CodeStatus.admitsCode_iff]
  rcases verify_cases s email code now with ⟨gone, same⟩ | ⟨entry, found, ends⟩
  · rw [same]
    refine iff_of_false Bool.false_ne_true ?_
    intro admits
    obtain ⟨status, isStatus, -, inTime, unused, few⟩ := admits
    rcases tracks.absent gone status isStatus with used | wrong | expired
    · rw [unused] at used
      cases used
    · exact absurd few (not_lt.mpr wrong)
    · exact absurd inTime (not_le.mpr expired)
  · obtain ⟨status, isStatus, rfl, unused, few⟩ := tracks.present entry found
    have only : ∀ other, CodeStatus.ofHistory history = some other → other = status := by
      intro other isOther
      rw [isStatus] at isOther
      exact (Option.some.inj isOther).symm
    rcases ends with ⟨expired, refused, -⟩ | ⟨inTime, isCode, accepted, -⟩ |
      ⟨-, wrong, refused, -, -⟩ | ⟨-, wrong, refused, -, -⟩
    · rw [refused]
      refine iff_of_false Bool.false_ne_true ?_
      intro admits
      obtain ⟨other, isOther, -, inTime, -⟩ := admits
      rw [only other isOther] at inTime
      exact absurd inTime (not_le.mpr expired)
    · rw [accepted]
      exact iff_of_true rfl ⟨status, isStatus, isCode, inTime, unused, few⟩
    · rw [refused]
      refine iff_of_false Bool.false_ne_true ?_
      intro admits
      obtain ⟨other, isOther, isCode, -⟩ := admits
      rw [only other isOther] at isCode
      exact wrong isCode
    · rw [refused]
      refine iff_of_false Bool.false_ne_true ?_
      intro admits
      obtain ⟨other, isOther, isCode, -⟩ := admits
      rw [only other isOther] at isCode
      exact wrong isCode

theorem ttl_run (s : CodeStore) (labels : List CodeStep) : (run step s labels).ttl = s.ttl := by
  refine run_keeps (fun next : CodeStore => next.ttl = s.ttl) ?_ rfl
  intro next label same
  rw [(step_settings next label).1, same]

end Steps

/-- `Verify` accepts a code exactly when it is the one sent last to the address,
in time, unused since and with fewer than five other codes tried since. Two
runs in which the calls for the address returned the same agree on it: calls
for other addresses and cleanups have no say. -/
theorem verify_accepts_iff (ttl cooldown : Int) (digits : Nat) (email code : Bytes) (now : Int)
    (labels : List CodeStep)
    (clock : (labels.map CodeStep.now ++ [now]).Pairwise (· ≤ ·)) :
    (((run step (new ttl cooldown digits) labels).verify email code now).1 = true ↔
        AdmitsCode ttl ((new ttl cooldown digits).records email labels) code now) ∧
      ∀ others : List CodeStep, (others.map CodeStep.now ++ [now]).Pairwise (· ≤ ·) →
        (new ttl cooldown digits).records email others =
          (new ttl cooldown digits).records email labels →
        ((run step (new ttl cooldown digits) others).verify email code now).1 =
          ((run step (new ttl cooldown digits) labels).verify email code now).1 := by
  have decides : ∀ labels : List CodeStep, (labels.map CodeStep.now ++ [now]).Pairwise (· ≤ ·) →
      (((run step (new ttl cooldown digits) labels).verify email code now).1 = true ↔
        AdmitsCode ttl ((new ttl cooldown digits).records email labels) code now) := by
    intro labels clock
    -- The clock starts at the instant of the first call.
    obtain ⟨first, rest, times⟩ := List.exists_cons_of_ne_nil
      (List.append_ne_nil_of_right_ne_nil (labels.map CodeStep.now) (List.cons_ne_nil now []))
    have started : (first :: (labels.map CodeStep.now ++ [now])).Pairwise (· ≤ ·) := by
      rw [times] at clock ⊢
      refine List.pairwise_cons.mpr ⟨?_, clock⟩
      intro time member
      rcases List.mem_cons.mp member with rfl | later
      · exact le_refl _
      · exact List.rel_of_pairwise_cons clock later
    have initial : Tracks email first (new ttl cooldown digits) [] := by
      refine ⟨?_, ?_⟩
      · intro entry found
        cases found
      · intro _ status isStatus
        cases isStatus
    have tracks := tracks_run labels initial started
    rw [verify_iff_admits tracks code, ttl_run]
    rfl
  refine ⟨decides labels clock, ?_⟩
  intro others otherClock same
  rw [Bool.eq_iff_iff, decides others otherClock, decides labels clock, same]

/-- One wrong try, a code for another address and a cleanup before the right
try. -/
def secondTry : List CodeStep :=
  [⟨.generate (str "a@x.com") 123456, 0⟩, ⟨.verify (str "a@x.com") (str "000000"), 1⟩,
    ⟨.generate (str "b@x.com") 654321, 1⟩, ⟨.cleanupExpired, 2⟩]

theorem verify_accepts_secondTry :
    (secondTry.map CodeStep.now ++ [3]).Pairwise (· ≤ ·) ∧
      AdmitsCode 10 ((new 10 60 6).records (str "a@x.com") secondTry) (str "123456") 3 := by
  have clock : (secondTry.map CodeStep.now ++ [3]).Pairwise (· ≤ ·) := by decide
  have accepted : ((run step (new 10 60 6) secondTry).verify (str "a@x.com") (str "123456") 3).1 =
      true := by decide +kernel
  exact ⟨clock, (verify_accepts_iff 10 60 6 (str "a@x.com") (str "123456") 3 secondTry
    clock).1.mp accepted⟩

end CodeStore

end AimServer
