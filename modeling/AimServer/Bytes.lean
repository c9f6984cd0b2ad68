import Mathlib.Data.List.Basic
import Mathlib.Data.Nat.Digits.Defs

/-!
Contract: byte strings as `std::string` holds them.

Owns: literals, C strings, hexadecimal text in both letter cases, and the
number syntax of `std::stoi` and of `ostream`.

Does not own: protobuf encoding and SQL text.
-/

namespace AimServer

/-- `std::string`: a byte sequence that may hold NUL bytes. -/
abbrev Bytes := List UInt8

/-- A source literal as the bytes of its UTF-8 text. -/
def str (text : String) : Bytes :=
  text.toList.flatMap String.utf8EncodeChar

/-- The bytes of a literal as they are stored, which evaluates faster than its
characters do. -/
theorem str_eq_bytes (text : String) : str text = text.toByteArray.data.toList := by
  rw [← String.utf8Encode_toList]
  simp [str, List.utf8Encode]

theorem str_injective : Function.Injective str := by
  intro first second same
  rw [str_eq_bytes, str_eq_bytes, Array.toList_inj] at same
  exact String.toByteArray_inj.mp (ByteArray.ext same)

/-- `std::string(s.c_str())`: the bytes before the first NUL. -/
def cStr (bytes : Bytes) : Bytes :=
  bytes.takeWhile (· ≠ 0)

/-! ### Hexadecimal text -/

/-- The bytes of `digits` at both nibbles of every byte. -/
def hexText (digits : Bytes) (data : Bytes) : Bytes :=
  data.flatMap fun byte : UInt8 =>
    [digits.getD (byte >>> (4 : UInt8)).toNat 0, digits.getD (byte &&& (0x0F : UInt8)).toNat 0]

/-- Every byte of the text is a digit, or the zero of a missing one. -/
theorem mem_hexText {digits data : Bytes} {c : UInt8} (member : c ∈ hexText digits data) :
    c = 0 ∨ c ∈ digits := by
  have digitAt : ∀ n, digits.getD n 0 = 0 ∨ digits.getD n 0 ∈ digits := by
    intro n
    rw [List.getD_eq_getElem?_getD]
    cases found : digits[n]? with
    | none => exact Or.inl rfl
    | some digit => exact Or.inr (List.mem_of_getElem? found)
  obtain ⟨byte, -, isDigit⟩ := List.mem_flatMap.mp member
  rcases List.mem_cons.mp isDigit with rfl | low
  · exact digitAt _
  · rw [List.mem_singleton.mp low]
    exact digitAt _

/-- `ToHex` of the offline message store. -/
def toHex (data : Bytes) : Bytes :=
  hexText (str "0123456789ABCDEF") data

/-- `HexVal`: other characters count as zero. -/
def hexVal (c : UInt8) : UInt8 :=
  if 48 ≤ c ∧ c ≤ 57 then c - 48
  else if 65 ≤ c ∧ c ≤ 70 then c - 65 + 10
  else if 97 ≤ c ∧ c ≤ 102 then c - 97 + 10
  else 0

/-- `FromHex`: an odd last digit is dropped. -/
def fromHex : Bytes → Bytes
  | high :: low :: rest => ((hexVal high <<< 4) ||| hexVal low) :: fromHex rest
  | _ => []

private theorem hexPair_roundtrip :
    ∀ byte : UInt8,
      ((hexVal ((str "0123456789ABCDEF").getD (byte >>> 4).toNat 0) <<< 4) |||
        hexVal ((str "0123456789ABCDEF").getD (byte &&& 0x0F).toNat 0)) = byte := by
  intro byte
  obtain ⟨bits⟩ := byte
  revert bits
  decide +kernel

/-- What the offline store encodes it decodes to the same bytes. -/
theorem fromHex_toHex (data : Bytes) : fromHex (toHex data) = data := by
  induction data with
  | nil => rfl
  | cons byte rest inductionHypothesis =>
      unfold toHex hexText at inductionHypothesis ⊢
      simp only [List.flatMap_cons, List.cons_append, List.nil_append, fromHex,
        inductionHypothesis, hexPair_roundtrip]

/-! ### Numbers -/

/-- `isspace` in the C locale. -/
def isSpace (c : UInt8) : Bool :=
  c = 32 ∨ (9 ≤ c ∧ c ≤ 13)

def isDigit (c : UInt8) : Bool :=
  48 ≤ c ∧ c ≤ 57

def decimalValue (digits : Bytes) : Nat :=
  digits.foldl (fun value digit => value * 10 + (digit.toNat - 48)) 0

/-- `std::stoi`: leading blanks, an optional sign, then digits; anything after
them is ignored. `none` is a thrown `invalid_argument` or `out_of_range`. -/
def stoi (text : Bytes) : Option Int :=
  let body := text.dropWhile isSpace
  let (negative, unsigned) :=
    match body with
    | 45 :: rest => (true, rest)
    | 43 :: rest => (false, rest)
    | _ => (false, body)
  let digits := unsigned.takeWhile isDigit
  if digits = [] then none
  else
    let value : Int := if negative then -(decimalValue digits) else decimalValue digits
    if -2147483648 ≤ value ∧ value ≤ 2147483647 then some value else none

example : stoi (str " -42x") = some (-42) := by decide

/-- `ostream << n` for an unsigned number. -/
def decimalText (n : Nat) : Bytes :=
  if n = 0 then [48] else (Nat.digits 10 n).reverse.map fun digit => UInt8.ofNat (48 + digit)

/-- `ostream << n`. -/
def intText (n : Int) : Bytes :=
  if n < 0 then 45 :: decimalText n.natAbs else decimalText n.natAbs

theorem decimalValue_ofDigits (digits : List Nat) (small : ∀ digit ∈ digits, digit < 10) :
    decimalValue (digits.reverse.map fun digit => UInt8.ofNat (48 + digit)) =
      Nat.ofDigits 10 digits := by
  induction digits with
  | nil => rfl
  | cons digit rest inductionHypothesis =>
      have smallRest := inductionHypothesis fun other member =>
        small other (List.mem_cons_of_mem digit member)
      have isSmall := small digit List.mem_cons_self
      have value : (UInt8.ofNat (48 + digit)).toNat - 48 = digit := by
        rw [UInt8.toNat_ofNat']
        omega
      unfold decimalValue at smallRest ⊢
      rw [List.reverse_cons, List.map_append, List.foldl_append, smallRest, Nat.ofDigits_cons]
      simp only [List.map_cons, List.map_nil, List.foldl_cons, List.foldl_nil, value]
      omega

/-- Decimal text reads back as its number. -/
theorem decimalValue_decimalText (n : Nat) : decimalValue (decimalText n) = n := by
  unfold decimalText
  split
  · rename_i zero
    rw [zero]
    rfl
  · rw [decimalValue_ofDigits _ fun digit member => Nat.digits_lt_base (by decide) member,
      Nat.ofDigits_digits]

private theorem isDigit_of_lt :
    ∀ digit < 10, isDigit (UInt8.ofNat (48 + digit)) = true := by decide

theorem isDigit_decimalText (n : Nat) : ∀ c ∈ decimalText n, isDigit c = true := by
  intro c member
  unfold decimalText at member
  split at member
  · rw [List.mem_singleton.mp member]
    decide
  · obtain ⟨digit, isDigit, rfl⟩ := List.mem_map.mp member
    have small : digit < 10 := Nat.digits_lt_base (by decide) (List.mem_reverse.mp isDigit)
    exact isDigit_of_lt digit small

theorem decimalText_ne_nil (n : Nat) : decimalText n ≠ [] := by
  unfold decimalText
  split
  · simp
  · rename_i positive
    simp [Nat.digits_eq_nil_iff_eq_zero, positive]

theorem decimalText_injective : Function.Injective decimalText := by
  intro first second same
  rw [← decimalValue_decimalText first, same, decimalValue_decimalText]

/-- Decimal text has no sign. -/
theorem decimalText_ne_sign (n : Nat) (rest : Bytes) : decimalText n ≠ 45 :: rest := by
  intro signed
  have digit := isDigit_decimalText n 45 (by rw [signed]; exact List.mem_cons_self)
  exact absurd digit (by decide)

theorem intText_injective : Function.Injective intText := by
  intro first second same
  unfold intText at same
  by_cases firstNegative : first < 0
  · by_cases secondNegative : second < 0
    · rw [if_pos firstNegative, if_pos secondNegative] at same
      have sameAbs := decimalText_injective (List.cons.inj same).2
      omega
    · rw [if_pos firstNegative, if_neg secondNegative] at same
      exact absurd same.symm (decimalText_ne_sign _ _)
  · by_cases secondNegative : second < 0
    · rw [if_neg firstNegative, if_pos secondNegative] at same
      exact absurd same (decimalText_ne_sign _ _)
    · rw [if_neg firstNegative, if_neg secondNegative] at same
      have sameAbs := decimalText_injective same
      omega

/-- The characters of a number. -/
theorem mem_intText {n : Int} {c : UInt8} (member : c ∈ intText n) : c = 45 ∨ isDigit c = true := by
  unfold intText at member
  split at member
  · rcases List.mem_cons.mp member with sign | digit
    · exact Or.inl sign
    · exact Or.inr (isDigit_decimalText _ _ digit)
  · exact Or.inr (isDigit_decimalText _ _ member)

end AimServer
