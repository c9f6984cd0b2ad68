import AimServer.Lib.Sha256
import AimServer.PasswordUtil

/-!
Contract: `sha256_raw` computes SHA-256.

Owns: the padding loop as an equation, the words of a block, and the agreement
of constants, schedule, rounds and digest with the standard.

The header works on bytes and on words that wrap; the standard on bits and on
words modulo `2^32`.
-/

namespace AimServer.PasswordUtil

open AimServer.Lib

/-! ### Padding -/

/-- The loop stops after at most 63 zeros, so the fuel does not show. -/
theorem padLoop_eq (fuel : Nat) (data : Bytes) (enough : (120 - data.length % 64) % 64 ≤ fuel) :
    padLoop fuel data = data ++ List.replicate ((120 - data.length % 64) % 64) 0 := by
  induction fuel generalizing data with
  | zero =>
      rw [Nat.le_zero.mp enough, List.replicate_zero, List.append_nil]
      rfl
  | succ fuel inductionHypothesis =>
      rw [padLoop]
      by_cases aligned : data.length % 64 = 56
      · rw [if_neg (not_not.mpr aligned), aligned]
        simp
      · have shorter : (120 - (data ++ [0]).length % 64) % 64 + 1 =
            (120 - data.length % 64) % 64 := by
          rw [List.length_append, List.length_singleton]
          omega
        rw [if_pos aligned, inductionHypothesis _ (by omega), ← shorter, List.replicate_succ,
          List.append_assoc, List.singleton_append]

/-- The zeros between the `0x80` byte and the length. -/
def padZeros (message : Bytes) : Nat :=
  (120 - (message.length + 1) % 64) % 64

theorem padded_eq (message : Bytes) :
    padded message = message ++ 0x80 :: List.replicate (padZeros message) 0 ++
      [7, 6, 5, 4, 3, 2, 1, 0].map fun i : UInt64 =>
        (UInt64.ofNat (message.length * 8) >>> (i * 8)).toUInt8 := by
  have enough : (120 - (message ++ [0x80]).length % 64) % 64 ≤ 64 := by omega
  rw [padded, padLoop_eq 64 _ enough, padZeros]
  simp

theorem length_padded (message : Bytes) : (padded message).length % 64 = 0 := by
  rw [padded_eq, padZeros]
  simp only [List.length_append, List.length_cons, List.length_replicate, List.length_map,
    List.length_nil]
  omega

/-- The eight length bytes. -/
theorem bits_length {n : Nat} (small : n < 2 ^ 64) :
    Sha256.bits ([7, 6, 5, 4, 3, 2, 1, 0].map fun i : UInt64 =>
      (UInt64.ofNat n >>> (i * 8)).toUInt8) = Sha256.bigEndian 64 n := by
  have byte : ∀ i : UInt64, i.toNat ≤ 7 → Sha256.bigEndian 8
      (UInt64.ofNat n >>> (i * 8)).toUInt8.toNat = Sha256.bigEndian 8 (n / 2 ^ (8 * i.toNat)) := by
    intro i inWord
    have shift : (i * 8).toNat % 64 = 8 * i.toNat := by
      rw [UInt64.toNat_mul]
      change i.toNat * 8 % 2 ^ 64 % 64 = _
      omega
    rw [UInt64.toNat_toUInt8, UInt64.toNat_shiftRight, UInt64.toNat_ofNat', Nat.mod_eq_of_lt small,
      shift, Nat.shiftRight_eq_div_pow, Sha256.bigEndian_mod]
  simp only [List.map_cons, List.map_nil, Sha256.bits_cons, Sha256.bits_nil, List.append_nil]
  rw [byte 7 (by decide), byte 6 (by decide), byte 5 (by decide), byte 4 (by decide),
    byte 3 (by decide), byte 2 (by decide), byte 1 (by decide), byte 0 (by decide)]
  rw [Sha256.bigEndian_add 8 56, Sha256.bigEndian_add 8 48, Sha256.bigEndian_add 8 40,
    Sha256.bigEndian_add 8 32, Sha256.bigEndian_add 8 24, Sha256.bigEndian_add 8 16,
    Sha256.bigEndian_add 8 8]
  simp only [UInt64.reduceToNat, Nat.mul_zero, Nat.pow_zero, Nat.div_one]

theorem bits_padded {message : Bytes} (small : message.length < 2 ^ 61) :
    Sha256.bits (padded message) = Sha256.pad (Sha256.bits message) := by
  have first : Sha256.bits [0x80] = true :: List.replicate 7 false := by decide
  have zeros : Sha256.zeroBits (8 * message.length) = 7 + 8 * padZeros message := by
    rw [Sha256.zeroBits_eq, padZeros]
    omega
  have split : (0x80 : UInt8) :: List.replicate (padZeros message) 0 =
      [0x80] ++ List.replicate (padZeros message) 0 := rfl
  rw [padded_eq, split, Sha256.bits_append, Sha256.bits_append, Sha256.bits_append, first,
    Sha256.bits_replicate_zero, bits_length (by omega), Sha256.pad, Sha256.length_bits, zeros,
    List.cons_append, List.replicate_append_replicate, Nat.mul_comm message.length 8]

/-! ### Words -/

theorem rotr_toBitVec (x : UInt32) {n : Nat} (positive : 0 < n) (small : n < 32) :
    (rotr x (UInt32.ofNat n)).toBitVec = x.toBitVec.rotateRight n := by
  have right : (UInt32.ofNat n).toBitVec % 32 = BitVec.ofNat 32 n := by
    apply BitVec.eq_of_toNat_eq
    simp
    omega
  have left : (32 - UInt32.ofNat n).toBitVec % 32 = BitVec.ofNat 32 (32 - n) := by
    apply BitVec.eq_of_toNat_eq
    simp
    omega
  rw [rotr, UInt32.toBitVec_or, UInt32.toBitVec_shiftRight, UInt32.toBitVec_shiftLeft, right, left,
    BitVec.rotateRight_def, Nat.mod_eq_of_lt small, BitVec.shiftLeft_eq', BitVec.ushiftRight_eq',
    BitVec.toNat_ofNat, BitVec.toNat_ofNat, Nat.mod_eq_of_lt (by omega),
    Nat.mod_eq_of_lt (by omega)]

theorem smallSigma0_toBitVec (x : UInt32) :
    (rotr x 7 ^^^ rotr x 18 ^^^ (x >>> 3)).toBitVec = Sha256.smallSigma0 x.toBitVec := by
  have first : (rotr x 7).toBitVec = _ := rotr_toBitVec x (n := 7) (by decide) (by decide)
  have second : (rotr x 18).toBitVec = _ := rotr_toBitVec x (n := 18) (by decide) (by decide)
  rw [UInt32.toBitVec_xor, UInt32.toBitVec_xor, first, second]
  rfl

theorem smallSigma1_toBitVec (x : UInt32) :
    (rotr x 17 ^^^ rotr x 19 ^^^ (x >>> 10)).toBitVec = Sha256.smallSigma1 x.toBitVec := by
  have first : (rotr x 17).toBitVec = _ := rotr_toBitVec x (n := 17) (by decide) (by decide)
  have second : (rotr x 19).toBitVec = _ := rotr_toBitVec x (n := 19) (by decide) (by decide)
  rw [UInt32.toBitVec_xor, UInt32.toBitVec_xor, first, second]
  rfl

theorem bigSigma0_toBitVec (x : UInt32) :
    (rotr x 2 ^^^ rotr x 13 ^^^ rotr x 22).toBitVec = Sha256.bigSigma0 x.toBitVec := by
  have first : (rotr x 2).toBitVec = _ := rotr_toBitVec x (n := 2) (by decide) (by decide)
  have second : (rotr x 13).toBitVec = _ := rotr_toBitVec x (n := 13) (by decide) (by decide)
  have third : (rotr x 22).toBitVec = _ := rotr_toBitVec x (n := 22) (by decide) (by decide)
  rw [UInt32.toBitVec_xor, UInt32.toBitVec_xor, first, second, third]
  rfl

theorem bigSigma1_toBitVec (x : UInt32) :
    (rotr x 6 ^^^ rotr x 11 ^^^ rotr x 25).toBitVec = Sha256.bigSigma1 x.toBitVec := by
  have first : (rotr x 6).toBitVec = _ := rotr_toBitVec x (n := 6) (by decide) (by decide)
  have second : (rotr x 11).toBitVec = _ := rotr_toBitVec x (n := 11) (by decide) (by decide)
  have third : (rotr x 25).toBitVec = _ := rotr_toBitVec x (n := 25) (by decide) (by decide)
  rw [UInt32.toBitVec_xor, UInt32.toBitVec_xor, first, second, third]
  rfl

/-- Four bytes shifted together are the number their bits write. -/
theorem joinBytes_toBitVec (b0 b1 b2 b3 : UInt8) :
    ((b0.toUInt32 <<< 24) ||| (b1.toUInt32 <<< 16) ||| (b2.toUInt32 <<< 8) |||
        b3.toUInt32).toBitVec =
      BitVec.ofNat 32 (Sha256.value (Sha256.bits [b0, b1, b2, b3])) := by
  have bound0 := b0.toNat_lt
  have bound1 := b1.toNat_lt
  have bound2 := b2.toNat_lt
  have bound3 := b3.toNat_lt
  have written : Sha256.value (Sha256.bits [b0, b1, b2, b3]) =
      ((b0.toNat * 2 ^ 8 + b1.toNat) * 2 ^ 8 + b2.toNat) * 2 ^ 8 + b3.toNat := by
    simp only [Sha256.bits_cons, Sha256.bits_nil, Sha256.value_append, Sha256.value_bigEndian,
      Sha256.length_bigEndian, List.length_append, List.length_nil]
    simp [Sha256.value]
    omega
  have joined : ∀ high low width : Nat, low < 2 ^ width →
      high * 2 ^ width ||| low = high * 2 ^ width + low := by
    intro high low width small
    rw [← Nat.shiftLeft_eq, Nat.shiftLeft_add_eq_or_of_lt small]
  have first := joined b0.toNat (b1.toNat * 2 ^ 16) 24 (by omega)
  have second := joined (b0.toNat * 2 ^ 8 + b1.toNat) (b2.toNat * 2 ^ 8) 16 (by omega)
  have third := joined ((b0.toNat * 2 ^ 8 + b1.toNat) * 2 ^ 8 + b2.toNat) b3.toNat 8 (by omega)
  have regroup : b0.toNat * 2 ^ 24 + b1.toNat * 2 ^ 16 =
      (b0.toNat * 2 ^ 8 + b1.toNat) * 2 ^ 16 := by ring
  have regroup' : (b0.toNat * 2 ^ 8 + b1.toNat) * 2 ^ 16 + b2.toNat * 2 ^ 8 =
      ((b0.toNat * 2 ^ 8 + b1.toNat) * 2 ^ 8 + b2.toNat) * 2 ^ 8 := by ring
  have shifted : ∀ (b : UInt8) (count : UInt32), count.toNat ≤ 24 →
      (b.toUInt32 <<< count).toNat = b.toNat * 2 ^ count.toNat := by
    intro b count small
    have bound := b.toNat_lt
    have inWord : count.toNat % 32 = count.toNat := Nat.mod_eq_of_lt (by omega)
    rw [UInt32.toNat_shiftLeft, UInt8.toNat_toUInt32, inWord, Nat.shiftLeft_eq]
    apply Nat.mod_eq_of_lt
    calc b.toNat * 2 ^ count.toNat < 2 ^ 8 * 2 ^ count.toNat :=
          Nat.mul_lt_mul_of_pos_right bound (Nat.two_pow_pos _)
      _ = 2 ^ (8 + count.toNat) := (Nat.pow_add ..).symm
      _ ≤ 2 ^ 32 := Nat.pow_le_pow_right (by decide) (by omega)
  have counts : UInt32.toNat 24 = 24 ∧ UInt32.toNat 16 = 16 ∧ UInt32.toNat 8 = 8 := by decide
  apply BitVec.eq_of_toNat_eq
  rw [written, UInt32.toNat_toBitVec, UInt32.toNat_or, UInt32.toNat_or, UInt32.toNat_or,
    shifted b0 24 (by decide), shifted b1 16 (by decide), shifted b2 8 (by decide),
    UInt8.toNat_toUInt32, BitVec.toNat_ofNat, counts.1, counts.2.1, counts.2.2, first, regroup,
    second, regroup', third, Nat.mod_eq_of_lt]
  omega

theorem blockWord_toBitVec {block : Bytes} (length : block.length = 64) {j : Nat} (small : j < 16) :
    (blockWord block j).toBitVec = Sha256.blockWord (Sha256.bits block) j := by
  have four : ∃ b0 b1 b2 b3 rest, block.drop (4 * j) = b0 :: b1 :: b2 :: b3 :: rest := by
    have enough : 4 ≤ (block.drop (4 * j)).length := by
      rw [List.length_drop]
      omega
    match block.drop (4 * j), enough with
    | b0 :: b1 :: b2 :: b3 :: rest, _ => exact ⟨b0, b1, b2, b3, rest, rfl⟩
  obtain ⟨b0, b1, b2, b3, rest, word⟩ := four
  have byte : ∀ k, block.getD (4 * j + k) 0 = (b0 :: b1 :: b2 :: b3 :: rest).getD k 0 := by
    intro k
    rw [List.getD_eq_getElem?_getD, ← List.getElem?_drop, word, List.getD_eq_getElem?_getD]
  have wordBits : Sha256.bits [b0, b1, b2, b3] =
      ((Sha256.bits block).drop (32 * j)).take 32 := by
    have start : 32 * j = 8 * (4 * j) := by omega
    rw [start, ← Sha256.bits_drop, word]
    exact Sha256.bits_take (b0 :: b1 :: b2 :: b3 :: rest) 4
  rw [Sha256.blockWord, ← wordBits, ← joinBytes_toBitVec, blockWord, byte 1, byte 2, byte 3]
  have zeroth := byte 0
  rw [Nat.add_zero] at zeroth
  rw [zeroth]
  rfl

/-! ### Constants -/

/-- The first 64 primes. -/
def smallPrimes : List Nat :=
  [2, 3, 5, 7, 11, 13, 17, 19, 23, 29, 31, 37, 41, 43, 47, 53, 59, 61, 67, 71, 73, 79, 83, 89, 97,
    101, 103, 107, 109, 113, 127, 131, 137, 139, 149, 151, 157, 163, 167, 173, 179, 181, 191, 193,
    197, 199, 211, 223, 227, 229, 233, 239, 241, 251, 257, 263, 269, 271, 277, 281, 283, 293, 307,
    311]

theorem nth_prime {t : Nat} (small : t < 64) : Nat.nth Nat.Prime t = smallPrimes.getD t 0 := by
  have sifted : (List.range 312).filter (fun n => Nat.Prime n) = smallPrimes := by
    have computed : (List.range 312).filter
        (fun n => 2 ≤ n ∧ ∀ m < 18, 2 ≤ m → m ∣ n → m = n) = smallPrimes := by decide +kernel
    rw [← computed]
    refine List.filter_congr ?_
    intro n member
    have small : n < 324 := (List.mem_range.mp member).trans (by decide)
    exact decide_eq_decide.mpr (Sha256.prime_iff_small small)
  have inList : t < ((List.range 312).filter fun n => Nat.Prime n).length := by
    rw [sifted]
    exact small
  rw [Sha256.nth_eq_getElem Nat.Prime inList, List.getD_eq_getElem _ _ small]
  simp only [sifted]
  rfl

/-- The words are where the roots are. -/
theorem rootFraction_nth_prime {degree t : Nat} {word : UInt32} (small : t < 64)
    (low : (Nat.nthRoot degree (smallPrimes.getD t 0) * 2 ^ 32 + word.toNat) ^ degree ≤
      smallPrimes.getD t 0 * 2 ^ (32 * degree))
    (high : smallPrimes.getD t 0 * 2 ^ (32 * degree) <
      (Nat.nthRoot degree (smallPrimes.getD t 0) * 2 ^ 32 + word.toNat + 1) ^ degree) :
    Sha256.rootFraction degree (Nat.nth Nat.Prime t) = word.toBitVec := by
  rw [nth_prime small]
  exact Sha256.rootFraction_eq low high

theorem roundConstants_toBitVec {t : Nat} (small : t < 64) :
    (roundConstants.getD t 0).toBitVec = Sha256.roundConstant t := by
  have bounds : ∀ t < 64,
      (Nat.nthRoot 3 (smallPrimes.getD t 0) * 2 ^ 32 + (roundConstants.getD t 0).toNat) ^ 3 ≤
          smallPrimes.getD t 0 * 2 ^ (32 * 3) ∧
        smallPrimes.getD t 0 * 2 ^ (32 * 3) <
          (Nat.nthRoot 3 (smallPrimes.getD t 0) * 2 ^ 32 + (roundConstants.getD t 0).toNat + 1) ^
            3 := by decide +kernel
  exact (rootFraction_nth_prime small (bounds t small).1 (bounds t small).2).symm

/-- The words of the header as the variables of the standard. -/
def Words.variables (s : Words) : Sha256.Variables where
  a := s.a.toBitVec
  b := s.b.toBitVec
  c := s.c.toBitVec
  d := s.d.toBitVec
  e := s.e.toBitVec
  f := s.f.toBitVec
  g := s.g.toBitVec
  h := s.h.toBitVec

theorem initialWords_variables : initialWords.variables = Sha256.initialHash := by
  have root : ∀ (t : Nat) (word : UInt32), t < 64 →
      (Nat.nthRoot 2 (smallPrimes.getD t 0) * 2 ^ 32 + word.toNat) ^ 2 ≤
          smallPrimes.getD t 0 * 2 ^ (32 * 2) ∧
        smallPrimes.getD t 0 * 2 ^ (32 * 2) <
          (Nat.nthRoot 2 (smallPrimes.getD t 0) * 2 ^ 32 + word.toNat + 1) ^ 2 →
      Sha256.rootFraction 2 (Nat.nth Nat.Prime t) = word.toBitVec := by
    intro t word small bounds
    exact rootFraction_nth_prime small bounds.1 bounds.2
  simp only [Sha256.initialHash]
  rw [root 0 0x6a09e667 (by decide) (by decide +kernel),
    root 1 0xbb67ae85 (by decide) (by decide +kernel),
    root 2 0x3c6ef372 (by decide) (by decide +kernel),
    root 3 0xa54ff53a (by decide) (by decide +kernel),
    root 4 0x510e527f (by decide) (by decide +kernel),
    root 5 0x9b05688c (by decide) (by decide +kernel),
    root 6 0x1f83d9ab (by decide) (by decide +kernel),
    root 7 0x5be0cd19 (by decide) (by decide +kernel)]
  rfl

/-! ### Schedule and rounds -/

/-- The schedule after some extensions. -/
theorem extended_eq (block : Bytes) {words : Nat → Sha256.Word}
    (first : ∀ j < 16, (blockWord block j).toBitVec = words j) (count : Nat) :
    ((List.range' 16 count).foldl extendSchedule
        ((List.range 16).map (blockWord block))).length = 16 + count ∧
      ∀ t < 16 + count, (((List.range' 16 count).foldl extendSchedule
        ((List.range 16).map (blockWord block))).getD t 0).toBitVec = Sha256.schedule words t := by
  induction count with
  | zero =>
      refine ⟨by simp, ?_⟩
      intro t small
      have word : ((List.range 16).map (blockWord block)).getD t 0 = blockWord block t := by
        rw [List.getD_eq_getElem?_getD, List.getElem?_map, List.getElem?_range small]
        rfl
      rw [List.range'_zero, List.foldl_nil, word, first t small, Sha256.schedule, if_pos small]
  | succ count inductionHypothesis =>
      obtain ⟨length, earlier⟩ := inductionHypothesis
      rw [List.range'_concat, List.foldl_append, Nat.one_mul]
      generalize (List.range' 16 count).foldl extendSchedule
        ((List.range 16).map (blockWord block)) = w at length earlier
      refine ⟨?_, ?_⟩
      · rw [List.foldl_cons, List.foldl_nil, extendSchedule, List.length_append, length,
          List.length_singleton]
        omega
      · intro t small
        rw [List.foldl_cons, List.foldl_nil, extendSchedule, List.getD_eq_getElem?_getD]
        by_cases isLast : t = 16 + count
        · rw [List.getElem?_append_right (by omega), isLast, length, Nat.sub_self]
          simp only [List.getElem?_cons_zero, Option.getD_some, UInt32.toBitVec_add]
          rw [smallSigma0_toBitVec, smallSigma1_toBitVec, earlier _ (by omega),
            earlier (16 + count - 7) (by omega), earlier (16 + count - 15) (by omega),
            earlier (16 + count - 2) (by omega), Sha256.schedule.eq_1 words (16 + count),
            if_neg (by omega)]
          ac_rfl
        · rw [List.getElem?_append_left (by omega), ← List.getD_eq_getElem?_getD]
          exact earlier t (by omega)

theorem round_variables (s : Words) (constant word : UInt32) :
    (round s (constant, word)).variables =
      Sha256.round constant.toBitVec word.toBitVec s.variables := by
  simp only [round, Words.variables, UInt32.toBitVec_add, bigSigma0_toBitVec, bigSigma1_toBitVec]
  rfl

theorem rounds_variables {block : Bytes} (length : block.length = 64) (s : Words) :
    ((roundConstants.zip (schedule block)).foldl round s).variables =
      (List.range 64).foldl (fun v t => Sha256.round (Sha256.roundConstant t)
        (Sha256.schedule (Sha256.blockWord (Sha256.bits block)) t) v) s.variables := by
  obtain ⟨scheduled, words⟩ := extended_eq block (fun j => blockWord_toBitVec length) 48
  have paired : roundConstants.zip (schedule block) = (List.range 64).map fun t =>
      (roundConstants.getD t 0, (schedule block).getD t 0) := by
    have lengths : roundConstants.length = 64 ∧ (schedule block).length = 64 :=
      ⟨by decide, scheduled⟩
    apply List.ext_getElem
    · rw [List.length_zip, lengths.1, lengths.2, List.length_map, List.length_range]
      rfl
    · intro t inZip inMap
      rw [List.length_map, List.length_range] at inMap
      rw [List.getElem_zip, List.getElem_map, List.getElem_range,
        List.getD_eq_getElem _ _ (by rw [lengths.1]; exact inMap),
        List.getD_eq_getElem _ _ (by rw [lengths.2]; exact inMap)]
  rw [paired, List.foldl_map]
  have eachRound : ∀ (v : Words), ∀ t ∈ List.range 64,
      (round v (roundConstants.getD t 0, (schedule block).getD t 0)).variables =
        Sha256.round (Sha256.roundConstant t)
          (Sha256.schedule (Sha256.blockWord (Sha256.bits block)) t) v.variables := by
    intro v t member
    rw [List.mem_range] at member
    rw [round_variables, roundConstants_toBitVec member, ← words t (by omega)]
    rfl
  generalize List.range 64 = rounds at eachRound
  induction rounds generalizing s with
  | nil => rfl
  | cons t rest inductionHypothesis =>
      rw [List.foldl_cons, List.foldl_cons, ← eachRound s t List.mem_cons_self]
      refine inductionHypothesis _ ?_
      intro v later member
      exact eachRound v later (List.mem_cons_of_mem _ member)

theorem compress_variables {block : Bytes} (length : block.length = 64) (s : Words) :
    (compress s block).variables = Sha256.compress s.variables (Sha256.bits block) := by
  have rounds := rounds_variables length s
  unfold compress Sha256.compress
  rw [← rounds]
  simp only [Words.variables, UInt32.toBitVec_add, BitVec.add_comm]

/-! ### Digest -/

theorem bits_wordBytes (w : UInt32) :
    Sha256.bits (wordBytes w) = Sha256.bigEndian 32 w.toBitVec.toNat := by
  have byte : ∀ count : UInt32, count.toNat < 32 →
      Sha256.bigEndian 8 (w >>> count).toUInt8.toNat =
        Sha256.bigEndian 8 (w.toNat / 2 ^ count.toNat) := by
    intro count small
    rw [UInt32.toNat_toUInt8, UInt32.toNat_shiftRight, Nat.mod_eq_of_lt small,
      Nat.shiftRight_eq_div_pow, Sha256.bigEndian_mod]
  rw [wordBytes, Sha256.bits_cons, Sha256.bits_cons, Sha256.bits_cons, Sha256.bits_cons,
    byte 24 (by decide), byte 16 (by decide), byte 8 (by decide), UInt32.toNat_toUInt8,
    Sha256.bigEndian_mod, Sha256.bigEndian_add 8 24, Sha256.bigEndian_add 8 16,
    Sha256.bigEndian_add 8 8, Sha256.bits_nil, List.append_nil]
  rfl

/-- The blocks of the padded message are those of the standard. -/
theorem parse_bits (data : Bytes) :
    Sha256.parse (Sha256.bits data) = (List.range (data.length / 64)).map fun chunk =>
      Sha256.bits ((data.drop (64 * chunk)).take 64) := by
  have blocks : 8 * data.length / 512 = data.length / 64 := by omega
  rw [Sha256.parse, Sha256.length_bits, blocks]
  refine List.map_congr_left ?_
  intro chunk _
  have start : 512 * chunk = 8 * (64 * chunk) := by omega
  rw [Sha256.bits_take, Sha256.bits_drop, start]

/-- The chaining of blocks. -/
theorem chunks_variables (data : Bytes) {count : Nat} (enough : 64 * count ≤ data.length)
    (s : Words) :
    ((List.range count).foldl
        (fun state chunk => compress state ((data.drop (64 * chunk)).take 64)) s).variables =
      ((List.range count).map fun chunk =>
        Sha256.bits ((data.drop (64 * chunk)).take 64)).foldl Sha256.compress s.variables := by
  induction count with
  | zero => rfl
  | succ count inductionHypothesis =>
      have full : ((data.drop (64 * count)).take 64).length = 64 := by
        rw [List.length_take, List.length_drop]
        omega
      rw [List.range_succ, List.foldl_append, List.map_append, List.foldl_append,
        ← inductionHypothesis (by omega)]
      exact compress_variables full _

/-- `sha256_raw` returns the digest of the standard in 32 bytes, and its padding
loop ends with whole blocks. -/
theorem sha256Raw_eq_digest (message : Bytes) (small : message.length < 2 ^ 61) :
    Sha256.bits (sha256Raw message) = Sha256.digest (Sha256.bits message) ∧
      (sha256Raw message).length = 32 ∧ (padded message).length % 64 = 0 := by
  refine ⟨?_, rfl, length_padded message⟩
  have whole := length_padded message
  have enough : 64 * ((padded message).length / 64) ≤ (padded message).length := by omega
  have chained := chunks_variables (padded message) enough initialWords
  rw [initialWords_variables, ← parse_bits, bits_padded small] at chained
  unfold sha256Raw Sha256.digest
  rw [← chained]
  simp only [List.flatMap_cons, List.flatMap_nil, Sha256.bits_append, Sha256.bits_nil,
    bits_wordBytes]
  rfl

/-- The digest of `abc`, in one block. -/
theorem sha256Raw_eq_digest_abc :
    Sha256.digest (Sha256.bits (str "abc")) = Sha256.bits
      [0xba, 0x78, 0x16, 0xbf, 0x8f, 0x01, 0xcf, 0xea, 0x41, 0x41, 0x40, 0xde, 0x5d, 0xae, 0x22,
        0x23, 0xb0, 0x03, 0x61, 0xa3, 0x96, 0x17, 0x7a, 0x9c, 0xb4, 0x10, 0xff, 0x61, 0xf2, 0x00,
        0x15, 0xad] := by
  rw [← (sha256Raw_eq_digest (str "abc") (by decide)).1]
  decide +kernel

end AimServer.PasswordUtil
