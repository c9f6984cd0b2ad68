import AimServer.Bytes
import Mathlib.Data.List.TakeWhile

/-!
Contract: text functions of the Go standard library as the services use them.

Owns: Unicode white space in UTF-8 text, the test of `strings.TrimSpace`
against the empty string, `strings.TrimRight` of one character, the runes of a
text and the first so many of them, `%d` of `fmt.Sscanf`, numbers with leading
zeros, and texts that are joined from a number and a rest.

Does not own: `%d` of `fmt.Sprintf`, which writes what `ostream` does.
-/

namespace AimServer

/-- The UTF-8 texts of the characters with the property White_Space. -/
def whiteSpace : List Bytes :=
  [[9], [10], [11], [12], [13], [32], [0xC2, 0x85], [0xC2, 0xA0], [0xE1, 0x9A, 0x80],
    [0xE2, 0x80, 0x80], [0xE2, 0x80, 0x81], [0xE2, 0x80, 0x82], [0xE2, 0x80, 0x83],
    [0xE2, 0x80, 0x84], [0xE2, 0x80, 0x85], [0xE2, 0x80, 0x86], [0xE2, 0x80, 0x87],
    [0xE2, 0x80, 0x88], [0xE2, 0x80, 0x89], [0xE2, 0x80, 0x8A], [0xE2, 0x80, 0xA8],
    [0xE2, 0x80, 0xA9], [0xE2, 0x80, 0xAF], [0xE2, 0x81, 0x9F], [0xE3, 0x80, 0x80]]

/-- The text after a leading white-space character (`unicode.IsSpace`). -/
def afterSpace (text : Bytes) : Option Bytes :=
  (whiteSpace.find? fun space => space <+: text).map fun space => text.drop space.length

/-- White space up to so many characters, and nothing else. -/
def blankWithin : Nat → Bytes → Bool
  | _, [] => true
  | 0, _ :: _ => false
  | fuel + 1, text =>
      match afterSpace text with
      | none => false
      | some rest => blankWithin fuel rest

/-- `strings.TrimSpace(text) == ""`. -/
def isBlank (text : Bytes) : Bool :=
  blankWithin text.length text

example : isBlank (str " \t　\n") = true ∧ isBlank (str " x ") = false := by decide +kernel

/-- `strings.TrimRight(text, string(c))`. -/
def trimRight (c : UInt8) (text : Bytes) : Bytes :=
  (text.reverse.dropWhile (· = c)).reverse

/-- How many bytes follow the first byte of a rune, and between which two the
second one lies. -/
def runeStart (c : UInt8) : Option (Nat × UInt8 × UInt8) :=
  if c < 0x80 then some (0, 0x80, 0xBF)
  else if c < 0xC2 then none
  else if c < 0xE0 then some (1, 0x80, 0xBF)
  else if c = 0xE0 then some (2, 0xA0, 0xBF)
  else if c = 0xED then some (2, 0x80, 0x9F)
  else if c < 0xF0 then some (2, 0x80, 0xBF)
  else if c = 0xF0 then some (3, 0x90, 0xBF)
  else if c < 0xF4 then some (3, 0x80, 0xBF)
  else if c = 0xF4 then some (3, 0x80, 0x8F)
  else none

/-- How many bytes of the rest belong to the rune that starts with a byte. -/
def runeRest (c : UInt8) (rest : Bytes) : Option Nat :=
  match runeStart c, rest with
  | none, _ => none
  | some (0, _, _), _ => some 0
  | some (_ + 1, _, _), [] => none
  | some (count + 1, low, high), second :: others =>
      if low ≤ second ∧ second ≤ high ∧ count ≤ others.length ∧
          (others.take count).all fun c => 0x80 ≤ c ∧ c ≤ 0xBF then some (count + 1)
      else none

/-- `[]rune(text)`, each as its bytes; a byte that starts no rune is U+FFFD. -/
def runesWithin : Nat → Bytes → List Bytes
  | 0, _ => []
  | _, [] => []
  | fuel + 1, c :: rest =>
      match runeRest c rest with
      | none => [0xEF, 0xBF, 0xBD] :: runesWithin fuel rest
      | some count => (c :: rest.take count) :: runesWithin fuel (rest.drop count)

/-- The first so many runes of a longer text, and three dots. -/
def truncateRunes (text : Bytes) (maxLen : Nat) : Bytes :=
  let runes := runesWithin text.length text
  if runes.length ≤ maxLen then text else (runes.take maxLen).flatten ++ str "..."

example : truncateRunes (str "你好吗") 2 = str "你好..." := by decide +kernel

/-- `SkipSpace` of `fmt.Sscanf`: a newline that the format does not have is an
error. -/
def skipSpace : Nat → Bytes → Option Bytes
  | 0, text => some text
  | fuel + 1, text =>
      match text with
      | 10 :: _ => none
      | _ =>
          match afterSpace text with
          | none => some text
          | some rest => skipSpace fuel rest

/-- `fmt.Sscanf(text, "%d", &n)`; `none` is an error, which leaves `n` as it was.
The ends of an `int64` are left out. -/
def sscanfInt (text : Bytes) : Option Int := do
  let body ← skipSpace text.length text
  let (negative, unsigned) :=
    match body with
    | 45 :: rest => (true, rest)
    | 43 :: rest => (false, rest)
    | _ => (false, body)
  let digits := unsigned.takeWhile isDigit
  if digits = [] then none
  else some (if negative then -(decimalValue digits) else decimalValue digits)

private theorem whiteSpace_start :
    ∀ space ∈ whiteSpace, ∀ first ∈ space.head?, first ≠ 45 ∧ isDigit first = false := by
  decide +kernel

/-- A sign or a digit is no white space. -/
theorem afterSpace_of_number {c : UInt8} (number : c = 45 ∨ isDigit c = true) (rest : Bytes) :
    afterSpace (c :: rest) = none := by
  have noSpace : whiteSpace.find? (fun space => space <+: c :: rest) = none := by
    rw [List.find?_eq_none]
    intro space member isStart
    have notEmpty : space ≠ [] := by
      rintro rfl
      exact absurd member (by decide +kernel)
    obtain ⟨first, others, rfl⟩ := List.exists_cons_of_ne_nil notEmpty
    obtain ⟨notSign, notDigit⟩ := whiteSpace_start _ member first rfl
    have same : first = c := (List.cons_prefix_cons.mp (of_decide_eq_true isStart)).1
    subst same
    rcases number with isSign | digit
    · exact notSign isSign
    · rw [notDigit] at digit
      cases digit
  rw [afterSpace, noSpace]
  rfl

theorem skipSpace_of_number {c : UInt8} (number : c = 45 ∨ isDigit c = true) (fuel : Nat)
    (rest : Bytes) : skipSpace fuel (c :: rest) = some (c :: rest) := by
  cases fuel with
  | zero => rfl
  | succ fuel =>
      have notNewline : c ≠ 10 := by
        rintro rfl
        exact absurd number (by decide)
      unfold skipSpace
      split
      · rename_i isNewline
        exact absurd (List.cons.inj isNewline).1 notNewline
      · rw [afterSpace_of_number number]

/-- A number that was written is read back. -/
theorem sscanfInt_intText (n : Int) : sscanfInt (intText n) = some n := by
  have digits := isDigit_decimalText n.natAbs
  have all : (decimalText n.natAbs).takeWhile isDigit = decimalText n.natAbs :=
    List.takeWhile_eq_self_iff.mpr digits
  have nonempty := decimalText_ne_nil n.natAbs
  unfold sscanfInt intText
  split
  · rename_i negative
    have value : -((decimalValue (decimalText n.natAbs) : Nat) : Int) = n := by
      rw [decimalValue_decimalText]
      omega
    rw [skipSpace_of_number (Or.inl rfl)]
    simp only [Option.bind_eq_bind, Option.bind_some, all, if_neg nonempty, if_true, value]
  · rename_i positive
    have value : ((decimalValue (decimalText n.natAbs) : Nat) : Int) = n := by
      rw [decimalValue_decimalText]
      omega
    obtain ⟨c, rest, isText⟩ := List.exists_cons_of_ne_nil nonempty
    have isNumber := digits c (by rw [isText]; exact List.mem_cons_self)
    have unsigned : c ≠ 45 ∧ c ≠ 43 := by
      constructor
      · rintro rfl
        exact absurd isNumber (by decide)
      · rintro rfl
        exact absurd isNumber (by decide)
    rw [isText] at all value ⊢
    rw [skipSpace_of_number (Or.inr isNumber)]
    simp only [Option.bind_eq_bind, Option.bind_some]
    split
    · rename_i isSign
      exact absurd (List.cons.inj isSign).1 unsigned.1
    · rename_i isSign
      exact absurd (List.cons.inj isSign).1 unsigned.2
    · simp only [all, Bool.false_eq_true, if_false, value, List.cons_ne_nil]

/-- `%0*d` of a number that is not negative. -/
def paddedText (width n : Nat) : Bytes :=
  List.replicate (width - (decimalText n).length) 48 ++ decimalText n

theorem decimalValue_paddedText (width n : Nat) : decimalValue (paddedText width n) = n := by
  have zeros : ∀ count : Nat, (List.replicate count (48 : UInt8)).foldl
      (fun value digit => value * 10 + (digit.toNat - 48)) 0 = 0 := by
    intro count
    induction count with
    | zero => rfl
    | succ count inductionHypothesis => exact inductionHypothesis
  rw [decimalValue, paddedText, List.foldl_append, zeros]
  exact decimalValue_decimalText n

theorem paddedText_injective (width : Nat) : Function.Injective (paddedText width) := by
  intro first second same
  rw [← decimalValue_paddedText width first, same, decimalValue_paddedText]

theorem paddedText_ne_sign (width n : Nat) (rest : Bytes) : paddedText width n ≠ 45 :: rest := by
  intro signed
  have member : (45 : UInt8) ∈ paddedText width n := by
    rw [signed]
    exact List.mem_cons_self
  rcases List.mem_append.mp member with zero | digit
  · exact absurd (List.eq_of_mem_replicate zero) (by decide)
  · exact absurd (isDigit_decimalText n 45 digit) (by decide)

/-- A number and what follows a character that no number has can be told apart. -/
theorem intText_separated_inj {c : UInt8} (separates : c ≠ 45 ∧ isDigit c = false)
    {first second : Int} {rest other : Bytes}
    (same : intText first ++ c :: rest = intText second ++ c :: other) :
    first = second ∧ rest = other := by
  have number : ∀ (n : Int) (rest : Bytes),
      (intText n ++ c :: rest).takeWhile (· ≠ c) = intText n := by
    intro n rest
    rw [List.takeWhile_append_of_pos]
    · simp
    · intro d member
      rw [decide_eq_true_eq]
      rintro rfl
      rcases mem_intText member with isSign | digit
      · exact separates.1 isSign
      · rw [separates.2] at digit
        cases digit
  have sameText : intText first = intText second := by
    rw [← number first rest, same, number]
  rw [sameText, List.append_right_inj] at same
  exact ⟨intText_injective sameText, (List.cons.inj same).2⟩

/-- A number and what follows a colon can be told apart. -/
theorem intText_colon_inj {first second : Int} {rest other : Bytes}
    (same : intText first ++ 58 :: rest = intText second ++ 58 :: other) :
    first = second ∧ rest = other :=
  intText_separated_inj (by decide) same

end AimServer
