import Mathlib.Algebra.Order.Ring.Int
import Mathlib.Data.List.Induction

/-!
Contract: integers of a fixed number of bytes, most significant byte first.

Owns: writing and reading them, that each undoes the other, and the two's
complement reading of as many bytes.

Does not own: where such bytes stand.
-/

namespace AimServer.Lib

/-- The low bytes of a number, most significant first. -/
def bigEndian : Nat → Nat → List UInt8
  | 0, _ => []
  | width + 1, value => bigEndian width (value / 256) ++ [UInt8.ofNat value]

def ofBigEndian (bytes : List UInt8) : Nat :=
  bytes.foldl (fun value byte => value * 256 + byte.toNat) 0

@[simp] theorem length_bigEndian (width value : Nat) : (bigEndian width value).length = width := by
  induction width generalizing value with
  | zero => rfl
  | succ width inductionHypothesis =>
      rw [bigEndian, List.length_append, inductionHypothesis, List.length_singleton]

theorem ofBigEndian_append_singleton (bytes : List UInt8) (byte : UInt8) :
    ofBigEndian (bytes ++ [byte]) = ofBigEndian bytes * 256 + byte.toNat := by
  rw [ofBigEndian, List.foldl_append]
  rfl

/-- What was written is read back, up to the bytes there is room for. -/
theorem ofBigEndian_bigEndian (width value : Nat) :
    ofBigEndian (bigEndian width value) = value % 256 ^ width := by
  induction width generalizing value with
  | zero => rw [Nat.pow_zero, Nat.mod_one]; rfl
  | succ width inductionHypothesis =>
      have low : (UInt8.ofNat value).toNat = value % 256 := UInt8.toNat_ofNat'
      have split : value % 256 ^ (width + 1) = value % 256 + 256 * (value / 256 % 256 ^ width) := by
        rw [Nat.pow_succ', Nat.mod_mul]
      rw [bigEndian, ofBigEndian_append_singleton, inductionHypothesis, low, split]
      omega

theorem ofBigEndian_bigEndian_of_lt {width value : Nat} (fits : value < 256 ^ width) :
    ofBigEndian (bigEndian width value) = value := by
  rw [ofBigEndian_bigEndian, Nat.mod_eq_of_lt fits]

theorem ofBigEndian_lt (bytes : List UInt8) : ofBigEndian bytes < 256 ^ bytes.length := by
  induction bytes using List.reverseRecOn with
  | nil => exact Nat.one_pos
  | append_singleton bytes byte inductionHypothesis =>
      have low := byte.toNat_lt
      rw [ofBigEndian_append_singleton, List.length_append, List.length_singleton, Nat.pow_succ]
      omega

/-- The bytes of the number they stand for. -/
theorem bigEndian_ofBigEndian (bytes : List UInt8) :
    bigEndian bytes.length (ofBigEndian bytes) = bytes := by
  induction bytes using List.reverseRecOn with
  | nil => rfl
  | append_singleton bytes byte inductionHypothesis =>
      have low := byte.toNat_lt
      have high : (ofBigEndian bytes * 256 + byte.toNat) / 256 = ofBigEndian bytes := by omega
      have last : UInt8.ofNat (ofBigEndian bytes * 256 + byte.toNat) = byte := by
        apply UInt8.toNat.inj
        rw [UInt8.toNat_ofNat']
        omega
      rw [List.length_append, List.length_singleton, ofBigEndian_append_singleton, bigEndian, high,
        inductionHypothesis, last]

/-- Only the low bytes of a number are written. -/
theorem bigEndian_mod (width value : Nat) :
    bigEndian width (value % 256 ^ width) = bigEndian width value := by
  have again := bigEndian_ofBigEndian (bigEndian width value)
  rwa [length_bigEndian, ofBigEndian_bigEndian] at again

/-- The number of `bits` bits as two's complement. -/
def signedOf (bits value : Nat) : Int :=
  Int.bmod value (2 ^ bits)

/-- The low bits of a two's complement number. -/
def unsignedOf (bits : Nat) (value : Int) : Nat :=
  (value % 2 ^ bits).toNat

theorem unsignedOf_lt (bits : Nat) (value : Int) : unsignedOf bits value < 2 ^ bits := by
  have positive : (0 : Int) < 2 ^ bits := Int.pow_pos (by decide)
  have low := Int.emod_nonneg value (Int.ne_of_gt positive)
  have high := Int.emod_lt_of_pos value positive
  rw [unsignedOf, Int.toNat_lt low]
  push_cast
  exact high

/-- Different numbers stay different. -/
theorem signedOf_inj {bits first second : Nat} (firstFits : first < 2 ^ bits)
    (secondFits : second < 2 ^ bits) (same : signedOf bits first = signedOf bits second) :
    first = second := by
  have congruent := congrArg (· % ((2 ^ bits : Nat) : Int)) same
  simp only [signedOf, Int.bmod_emod] at congruent
  norm_cast at congruent
  rwa [Nat.mod_eq_of_lt firstFits, Nat.mod_eq_of_lt secondFits] at congruent

/-- A number that comes out as no less than zero is the number itself. -/
theorem toNat_signedOf {bits value : Nat} (fits : value < 2 ^ bits)
    (nonneg : 0 ≤ signedOf bits value) : (signedOf bits value).toNat = value := by
  have isMod : (value : Int) % ((2 ^ bits : Nat) : Int) = value :=
    Int.emod_eq_of_lt (Int.natCast_nonneg _) (Int.ofNat_lt.mpr fits)
  by_cases low : (value : Int) % ((2 ^ bits : Nat) : Int) < ((2 ^ bits : Nat) + 1) / 2
  · rw [signedOf, Int.bmod_eq_emod_of_lt low, isMod, Int.toNat_natCast]
  · rw [signedOf, Int.bmod_neg _ _ (Int.not_lt.mp low), isMod] at nonneg
    omega

/-- Back from two's complement, the low bits are the same. -/
theorem unsignedOf_signedOf (bits value : Nat) :
    unsignedOf bits (signedOf bits value) = value % 2 ^ bits := by
  have congruent : signedOf bits value % ((2 ^ bits : Nat) : Int) =
      (value : Int) % ((2 ^ bits : Nat) : Int) := Int.bmod_emod
  push_cast at congruent
  rw [unsignedOf, congruent]
  norm_cast

/-- A number in range is read back. -/
theorem signedOf_unsignedOf {bits : Nat} {value : Int} (low : -(2 ^ bits) ≤ value)
    (high : value < 2 ^ bits) : signedOf (bits + 1) (unsignedOf (bits + 1) value) = value := by
  have positive : (0 : Int) < 2 ^ (bits + 1) := Int.pow_pos (by decide)
  have isMod : ((unsignedOf (bits + 1) value : Nat) : Int) =
      value % ((2 ^ (bits + 1) : Nat) : Int) := by
    rw [unsignedOf, Int.toNat_of_nonneg (Int.emod_nonneg value (Int.ne_of_gt positive))]
    push_cast
    rfl
  rw [signedOf, isMod, Int.emod_bmod]
  apply Int.bmod_eq_of_le
  · push_cast
    omega
  · push_cast
    omega

end AimServer.Lib
