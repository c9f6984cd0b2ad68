import Mathlib.Algebra.Group.Nat.Even
import Mathlib.Data.Fintype.Basic
import Mathlib.Data.List.Basic

/-!
Contract: hexadecimal text of a byte string, two digits for each byte.

Owns: digits and their values in both letter cases, the upper-case writer, the
strict reader that takes digit pairs only, the round trips between the two, and
the characters the writer uses.

Does not own: readers that accept other characters or a single last digit.
-/

namespace AimServer.Lib.Hex

/-- The upper-case digit of a value. -/
def digit (value : Fin 16) : UInt8 :=
  if value.val < 10 then UInt8.ofNat (48 + value.val) else UInt8.ofNat (55 + value.val)

/-- The value of a digit in either letter case. -/
def digitValue (c : UInt8) : Option (Fin 16) :=
  if 48 ≤ c ∧ c ≤ 57 then some (Fin.ofNat 16 (c.toNat - 48))
  else if 65 ≤ c ∧ c ≤ 70 then some (Fin.ofNat 16 (c.toNat - 55))
  else if 97 ≤ c ∧ c ≤ 102 then some (Fin.ofNat 16 (c.toNat - 87))
  else none

/-- `0` to `9` and `A` to `F`. -/
def IsUpperDigit (c : UInt8) : Prop :=
  (48 ≤ c ∧ c ≤ 57) ∨ (65 ≤ c ∧ c ≤ 70)

instance (c : UInt8) : Decidable (IsUpperDigit c) :=
  inferInstanceAs (Decidable (_ ∨ _))

def high (byte : UInt8) : Fin 16 := Fin.ofNat 16 (byte.toNat / 16)

def low (byte : UInt8) : Fin 16 := Fin.ofNat 16 byte.toNat

/-- The byte of two digits. -/
def join (first second : Fin 16) : UInt8 := UInt8.ofNat (16 * first.val + second.val)

def encode (data : List UInt8) : List UInt8 :=
  data.flatMap fun byte => [digit (high byte), digit (low byte)]

/-- Only whole pairs of digits are read. -/
def decode : List UInt8 → Option (List UInt8)
  | [] => some []
  | [_] => none
  | first :: second :: rest =>
      (digitValue first).bind fun firstValue =>
        (digitValue second).bind fun secondValue =>
          (decode rest).map fun data => join firstValue secondValue :: data

/-! ### Digits -/

theorem digitValue_digit : ∀ value : Fin 16, digitValue (digit value) = some value := by decide

theorem digit_isUpper : ∀ value : Fin 16, IsUpperDigit (digit value) := by decide

theorem join_high_low (byte : UInt8) : join (high byte) (low byte) = byte := by
  have halves : 16 * (byte.toNat / 16 % 16) + byte.toNat % 16 = byte.toNat := by
    have small := byte.toNat_lt
    omega
  show UInt8.ofNat (16 * (byte.toNat / 16 % 16) + byte.toNat % 16) = byte
  rw [halves, UInt8.ofNat_toNat]

theorem high_join (first second : Fin 16) : high (join first second) = first := by
  have whole : (join first second).toNat = 16 * first.val + second.val := by
    rw [join, UInt8.toNat_ofNat']
    omega
  apply Fin.ext
  show (join first second).toNat / 16 % 16 = first.val
  rw [whole]
  omega

theorem low_join (first second : Fin 16) : low (join first second) = second := by
  have whole : (join first second).toNat = 16 * first.val + second.val := by
    rw [join, UInt8.toNat_ofNat']
    omega
  apply Fin.ext
  show (join first second).toNat % 16 = second.val
  rw [whole]
  omega

/-- An upper-case digit is the one its value is written as. -/
theorem digit_of_digitValue {c : UInt8} {value : Fin 16} (isUpper : IsUpperDigit c)
    (isValue : digitValue c = some value) : digit value = c := by
  have all : ∀ bits : Fin 256, IsUpperDigit (UInt8.ofFin bits) →
      (digitValue (UInt8.ofFin bits)).map digit = some (UInt8.ofFin bits) := by decide +kernel
  have written := all c.toFin isUpper
  rw [show UInt8.ofFin c.toFin = c from rfl, isValue] at written
  exact Option.some.inj written

theorem digitValue_isSome {c : UInt8} (isUpper : IsUpperDigit c) : (digitValue c).isSome := by
  unfold digitValue
  rcases isUpper with isDigit | isLetter
  · rw [if_pos isDigit]
    rfl
  · have notDigit : ¬ (48 ≤ c ∧ c ≤ 57) := by
      intro isDigit
      exact absurd (UInt8.le_trans isLetter.1 isDigit.2) (by decide)
    rw [if_neg notDigit, if_pos isLetter]
    rfl

/-! ### Round trips -/

theorem decode_encode (data : List UInt8) : decode (encode data) = some data := by
  induction data with
  | nil => rfl
  | cons byte rest inductionHypothesis =>
      unfold encode at inductionHypothesis ⊢
      simp only [List.flatMap_cons, List.cons_append, List.nil_append, decode, digitValue_digit,
        Option.bind_some, inductionHypothesis, Option.map_some, join_high_low]

/-- Upper-case text is what its bytes are written as. -/
theorem encode_of_decode {text data : List UInt8} (read : decode text = some data)
    (upper : ∀ c ∈ text, IsUpperDigit c) : encode data = text := by
  induction text using decode.induct generalizing data with
  | case1 =>
      cases read
      rfl
  | case2 single => cases read
  | case3 first second rest inductionHypothesis =>
      obtain ⟨firstValue, isFirst, read⟩ := Option.bind_eq_some_iff.mp read
      obtain ⟨secondValue, isSecond, read⟩ := Option.bind_eq_some_iff.mp read
      obtain ⟨others, readRest, same⟩ := Option.map_eq_some_iff.mp read
      cases same
      have later := inductionHypothesis readRest fun c member =>
        upper c (List.mem_cons_of_mem _ (List.mem_cons_of_mem _ member))
      have firstDigit := digit_of_digitValue (upper first List.mem_cons_self) isFirst
      have secondDigit := digit_of_digitValue
        (upper second (List.mem_cons_of_mem _ List.mem_cons_self)) isSecond
      unfold encode at later ⊢
      rw [List.flatMap_cons, later, high_join, low_join, firstDigit, secondDigit]
      rfl

/-- Digit pairs are read. -/
theorem decode_isSome {text : List UInt8} (even : Even text.length)
    (upper : ∀ c ∈ text, IsUpperDigit c) : ∃ data, decode text = some data := by
  induction text using decode.induct with
  | case1 => exact ⟨[], rfl⟩
  | case2 single => exact absurd even Nat.not_even_one
  | case3 first second rest inductionHypothesis =>
      have evenRest : Even rest.length := by
        rw [List.length_cons, List.length_cons] at even
        obtain ⟨half, lengths⟩ := even
        exact ⟨half - 1, by omega⟩
      obtain ⟨data, readRest⟩ := inductionHypothesis evenRest fun c member =>
        upper c (List.mem_cons_of_mem _ (List.mem_cons_of_mem _ member))
      obtain ⟨firstValue, isFirst⟩ :=
        Option.isSome_iff_exists.mp (digitValue_isSome (upper first List.mem_cons_self))
      obtain ⟨secondValue, isSecond⟩ := Option.isSome_iff_exists.mp (digitValue_isSome
        (upper second (List.mem_cons_of_mem _ List.mem_cons_self)))
      exact ⟨join firstValue secondValue :: data, by
        rw [decode, isFirst, isSecond, readRest]
        rfl⟩

/-- The writer uses upper-case digits only. -/
theorem encode_isUpper {data : List UInt8} {c : UInt8} (member : c ∈ encode data) :
    IsUpperDigit c := by
  obtain ⟨byte, -, isDigit⟩ := List.mem_flatMap.mp member
  simp only [List.mem_cons, List.not_mem_nil, or_false] at isDigit
  rcases isDigit with rfl | rfl
  · exact digit_isUpper _
  · exact digit_isUpper _

end AimServer.Lib.Hex
