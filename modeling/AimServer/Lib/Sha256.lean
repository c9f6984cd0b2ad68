import Mathlib.Analysis.SpecialFunctions.Pow.NthRootLemmas
import Mathlib.Data.Nat.Prime.Nth
import Mathlib.Tactic.Ring

/-!
Contract: the SHA-256 of FIPS 180-4.

Owns: the six functions, the constants as fractions of roots of primes, padding
and parsing of a bit string, the message schedule, the compression of a block,
and the digest; how numbers and bytes are written as bits.

Does not own: any implementation. Nothing here evaluates the digest; the
constants are computed from the primes they come from.
-/

namespace AimServer.Lib.Sha256

abbrev Word := BitVec 32

/-! ### Functions and constants -/

def ch (x y z : Word) : Word :=
  (x &&& y) ^^^ (~~~x &&& z)

def maj (x y z : Word) : Word :=
  (x &&& y) ^^^ (x &&& z) ^^^ (y &&& z)

def bigSigma0 (x : Word) : Word :=
  x.rotateRight 2 ^^^ x.rotateRight 13 ^^^ x.rotateRight 22

def bigSigma1 (x : Word) : Word :=
  x.rotateRight 6 ^^^ x.rotateRight 11 ^^^ x.rotateRight 25

def smallSigma0 (x : Word) : Word :=
  x.rotateRight 7 ^^^ x.rotateRight 18 ^^^ (x >>> 3)

def smallSigma1 (x : Word) : Word :=
  x.rotateRight 17 ^^^ x.rotateRight 19 ^^^ (x >>> 10)

/-- The first 32 bits of the fractional part of a root. -/
def rootFraction (degree n : Nat) : Word :=
  BitVec.ofNat 32 (Nat.nthRoot degree (n * 2 ^ (32 * degree)))

/-- `K_t`: of the cube root of a prime. -/
noncomputable def roundConstant (t : Nat) : Word :=
  rootFraction 3 (Nat.nth Nat.Prime t)

/-- The working variables `a` to `h`, and the eight words of a hash value. -/
structure Variables where
  a : Word
  b : Word
  c : Word
  d : Word
  e : Word
  f : Word
  g : Word
  h : Word
deriving DecidableEq, Repr

/-- `H^(0)`: of the square roots of the first eight primes. -/
noncomputable def initialHash : Variables :=
  let word := fun t => rootFraction 2 (Nat.nth Nat.Prime t)
  ⟨word 0, word 1, word 2, word 3, word 4, word 5, word 6, word 7⟩

/-! ### Bit strings -/

/-- So many low bits of a number, the highest first. -/
def bigEndian (width n : Nat) : List Bool :=
  (List.range width).map fun i => n.testBit (width - 1 - i)

/-- The number a bit string writes. -/
def value (bits : List Bool) : Nat :=
  bits.foldl (fun n bit => 2 * n + bit.toNat) 0

/-- Bytes as bits. -/
def bits (bytes : List UInt8) : List Bool :=
  bytes.flatMap fun byte => bigEndian 8 byte.toNat

/-! ### Preprocessing -/

theorem exists_zeroBits (l : Nat) : ∃ k, (l + 1 + k) % 512 = 448 :=
  ⟨(959 - l % 512) % 512, by omega⟩

/-- The smallest solution `k` of `l + 1 + k = 448 mod 512`. -/
def zeroBits (l : Nat) : Nat :=
  Nat.find (exists_zeroBits l)

/-- The message, a one bit, zeros, and its length in 64 bits. -/
def pad (message : List Bool) : List Bool :=
  message ++ true :: List.replicate (zeroBits message.length) false ++
    bigEndian 64 message.length

/-- Word `j` of a block. -/
def blockWord (block : List Bool) (j : Nat) : Word :=
  BitVec.ofNat 32 (value ((block.drop (32 * j)).take 32))

/-- The padded message in blocks of 512 bits. -/
def parse (padded : List Bool) : List (List Bool) :=
  (List.range (padded.length / 512)).map fun i => (padded.drop (512 * i)).take 512

/-! ### Hash computation -/

/-- `W_t`. -/
def schedule (block : Nat → Word) (t : Nat) : Word :=
  if t < 16 then block t
  else
    smallSigma1 (schedule block (t - 2)) + schedule block (t - 7) +
      smallSigma0 (schedule block (t - 15)) + schedule block (t - 16)
termination_by t

/-- One round with `K_t` and `W_t`. -/
def round (constant word : Word) (v : Variables) : Variables :=
  let t1 := v.h + bigSigma1 v.e + ch v.e v.f v.g + constant + word
  let t2 := bigSigma0 v.a + maj v.a v.b v.c
  ⟨t1 + t2, v.a, v.b, v.c, v.d + t1, v.e, v.f, v.g⟩

/-- The hash value after one more block. -/
noncomputable def compress (hash : Variables) (block : List Bool) : Variables :=
  let v := (List.range 64).foldl
    (fun v t => round (roundConstant t) (schedule (blockWord block) t) v) hash
  ⟨v.a + hash.a, v.b + hash.b, v.c + hash.c, v.d + hash.d, v.e + hash.e, v.f + hash.f,
    v.g + hash.g, v.h + hash.h⟩

/-- The message digest. -/
noncomputable def digest (message : List Bool) : List Bool :=
  let hash := (parse (pad message)).foldl compress initialHash
  [hash.a, hash.b, hash.c, hash.d, hash.e, hash.f, hash.g, hash.h].flatMap fun word =>
    bigEndian 32 word.toNat

/-! ### The constants -/

/-- Below `18 ^ 2` a number without a small proper divisor is prime. -/
theorem prime_iff_small {n : Nat} (small : n < 324) :
    n.Prime ↔ 2 ≤ n ∧ ∀ m < 18, 2 ≤ m → m ∣ n → m = n := by
  constructor
  · intro isPrime
    refine ⟨isPrime.two_le, ?_⟩
    intro m _ proper divides
    exact (Nat.dvd_prime_two_le isPrime proper).mp divides
  · intro noDivisor
    obtain ⟨atLeast, none⟩ := noDivisor
    by_contra composite
    have squared := Nat.minFac_sq_le_self (by omega) composite
    have bounded : n.minFac < 18 := by nlinarith
    have proper : 2 ≤ n.minFac := (Nat.minFac_prime (by omega)).two_le
    have isSelf := none n.minFac bounded proper n.minFac_dvd
    exact composite (isSelf ▸ Nat.minFac_prime (by omega))

/-- The numbers with a property in the order they are met. -/
theorem nth_eq_getElem (p : Nat → Prop) [DecidablePred p] {bound t : Nat}
    (small : t < ((List.range bound).filter p).length) :
    Nat.nth p t = ((List.range bound).filter p)[t] := by
  have counted : Nat.count p (((List.range bound).filter p)[t]) = t := by
    induction bound with
    | zero => cases small
    | succ bound inductionHypothesis =>
        have split : (List.range (bound + 1)).filter p =
            (List.range bound).filter p ++ [bound].filter p := by
          rw [List.range_succ, List.filter_append]
        by_cases earlier : t < ((List.range bound).filter p).length
        · have sameElement : ((List.range (bound + 1)).filter p)[t] =
              ((List.range bound).filter p)[t] := by
            simp only [split]
            exact List.getElem_append_left earlier
          rw [sameElement]
          exact inductionHypothesis earlier
        · have isLast : p bound := by
            by_contra absent
            rw [split, List.filter_singleton, decide_eq_false absent] at small
            simp at small
            omega
          have lengths : t = ((List.range bound).filter p).length := by
            rw [split, List.filter_singleton, decide_eq_true isLast] at small
            simp at small
            omega
          have sameElement : ((List.range (bound + 1)).filter p)[t] = bound := by
            simp [split, lengths, isLast]
          rw [sameElement, lengths, ← List.countP_eq_length_filter]
          rfl
  have holds := List.of_mem_filter (List.getElem_mem small)
  have isNth := Nat.nth_count (of_decide_eq_true holds)
  rwa [counted] at isNth

/-- A word is the fraction of a root when it lies between the bounds. -/
theorem rootFraction_eq {degree n : Nat} {word : Word}
    (low : (Nat.nthRoot degree n * 2 ^ 32 + word.toNat) ^ degree ≤ n * 2 ^ (32 * degree))
    (high : n * 2 ^ (32 * degree) < (Nat.nthRoot degree n * 2 ^ 32 + word.toNat + 1) ^ degree) :
    rootFraction degree n = word := by
  rw [rootFraction, Nat.nthRoot_eq_of_le_of_lt low high]
  apply BitVec.eq_of_toNat_eq
  rw [BitVec.toNat_ofNat, Nat.mul_add_mod', Nat.mod_eq_of_lt word.isLt]

/-! ### Padding -/

theorem zeroBits_eq (l : Nat) : zeroBits l = (959 - l % 512) % 512 := by
  rw [zeroBits, Nat.find_eq_iff]
  refine ⟨by omega, ?_⟩
  intro k smaller
  omega

@[simp] theorem length_bigEndian (width n : Nat) : (bigEndian width n).length = width := by
  simp [bigEndian]

/-- A number in two parts. -/
theorem bigEndian_add (high low n : Nat) :
    bigEndian (high + low) n = bigEndian high (n / 2 ^ low) ++ bigEndian low n := by
  unfold bigEndian
  rw [List.range_add, List.map_append, List.map_map]
  congr 1
  · refine List.map_congr_left ?_
    intro i small
    rw [List.mem_range] at small
    rw [Nat.testBit_div_two_pow]
    congr 1
    omega
  · refine List.map_congr_left ?_
    intro i _
    rw [Function.comp_apply]
    congr 1
    omega

/-- Bits above the width are not written. -/
theorem bigEndian_mod (width n : Nat) : bigEndian width (n % 2 ^ width) = bigEndian width n := by
  unfold bigEndian
  refine List.map_congr_left ?_
  intro i small
  rw [List.mem_range] at small
  rw [Nat.testBit_mod_two_pow, decide_eq_true (by omega), Bool.true_and]

/-! ### Bytes as bits -/

@[simp] theorem bits_nil : bits [] = [] := rfl

theorem bits_cons (byte : UInt8) (rest : List UInt8) :
    bits (byte :: rest) = bigEndian 8 byte.toNat ++ bits rest := rfl

@[simp] theorem bits_append (first second : List UInt8) :
    bits (first ++ second) = bits first ++ bits second :=
  List.flatMap_append

@[simp] theorem length_bits (bytes : List UInt8) : (bits bytes).length = 8 * bytes.length := by
  induction bytes with
  | nil => rfl
  | cons byte rest inductionHypothesis =>
      rw [bits_cons, List.length_append, length_bigEndian, inductionHypothesis, List.length_cons]
      omega

theorem bits_replicate_zero (count : Nat) :
    bits (List.replicate count 0) = List.replicate (8 * count) false := by
  induction count with
  | zero => rfl
  | succ count inductionHypothesis =>
      have byte : bigEndian 8 (0 : UInt8).toNat = List.replicate 8 false := by decide
      rw [List.replicate_succ, bits_cons, inductionHypothesis, byte,
        List.replicate_append_replicate]
      congr 1
      omega

theorem bits_drop (bytes : List UInt8) (count : Nat) :
    bits (bytes.drop count) = (bits bytes).drop (8 * count) := by
  induction count generalizing bytes with
  | zero => rfl
  | succ count inductionHypothesis =>
      cases bytes with
      | nil => simp
      | cons byte rest =>
          have split : 8 * (count + 1) = (bigEndian 8 byte.toNat).length + 8 * count := by
            rw [length_bigEndian]
            omega
          rw [List.drop_succ_cons, inductionHypothesis, bits_cons, split,
            List.drop_length_add_append]

theorem bits_take (bytes : List UInt8) (count : Nat) :
    bits (bytes.take count) = (bits bytes).take (8 * count) := by
  induction count generalizing bytes with
  | zero => rfl
  | succ count inductionHypothesis =>
      cases bytes with
      | nil => simp
      | cons byte rest =>
          have split : 8 * (count + 1) = (bigEndian 8 byte.toNat).length + 8 * count := by
            rw [length_bigEndian]
            omega
          rw [List.take_succ_cons, bits_cons, inductionHypothesis, bits_cons, split,
            List.take_length_add_append]

/-! ### Numbers as bits -/

theorem value_append (first second : List Bool) :
    value (first ++ second) = value first * 2 ^ second.length + value second := by
  induction second using List.reverseRecOn with
  | nil => simp [value]
  | append_singleton second last inductionHypothesis =>
      have snoc : ∀ bits : List Bool, value (bits ++ [last]) = 2 * value bits + last.toNat := by
        intro bits
        simp [value, List.foldl_append]
      rw [← List.append_assoc, snoc, snoc, inductionHypothesis, List.length_append,
        List.length_singleton, Nat.pow_succ]
      ring

/-- Bits read back as the number they write. -/
theorem value_bigEndian (width n : Nat) : value (bigEndian width n) = n % 2 ^ width := by
  induction width with
  | zero =>
      rw [Nat.pow_zero, Nat.mod_one]
      rfl
  | succ width inductionHypothesis =>
      have first : value (bigEndian 1 (n / 2 ^ width)) = n / 2 ^ width % 2 := by
        have oneBit : value (bigEndian 1 (n / 2 ^ width)) = ((n / 2 ^ width).testBit 0).toNat := by
          simp [value, bigEndian]
        rw [oneBit, Nat.toNat_testBit, Nat.pow_zero, Nat.div_one]
      rw [Nat.add_comm, bigEndian_add, value_append, inductionHypothesis, length_bigEndian, first,
        Nat.pow_add, Nat.pow_one, Nat.mul_comm 2, Nat.mod_mul]
      ring

end AimServer.Lib.Sha256
