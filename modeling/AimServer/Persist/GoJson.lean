import AimServer.GoText
import AimServer.Persist.ChatRow

/-!
Contract: how `encoding/json` reads an object of numbers and strings.

Owns: the escapes of strings with surrogate pairs, integers, and the members of
an object in the order of the text.

Does not own: values of other kinds, which make the reading fail here, and how
members find their fields.
-/

namespace AimServer.GoJson

def replacementRune : Bytes := [0xEF, 0xBF, 0xBD]

/-- `utf8.EncodeRune`. -/
def encodeRune (r : Nat) : Bytes :=
  if r.isValidChar then String.utf8EncodeChar (Char.ofNat r) else replacementRune

def hexDigitValue (c : UInt8) : Option Nat :=
  if 48 ≤ c ∧ c ≤ 57 then some (c.toNat - 48)
  else if 97 ≤ c ∧ c ≤ 102 then some (c.toNat - 97 + 10)
  else if 65 ≤ c ∧ c ≤ 70 then some (c.toNat - 65 + 10)
  else none

/-- `getu4`: the value of an escape with four digits, and what follows it. -/
def getu4 : Bytes → Option (Nat × Bytes)
  | 92 :: 117 :: first :: second :: third :: fourth :: rest => do
      let a ← hexDigitValue first
      let b ← hexDigitValue second
      let c ← hexDigitValue third
      let d ← hexDigitValue fourth
      return (((a * 16 + b) * 16 + c) * 16 + d, rest)
  | _ => none

/-- `utf16.DecodeRune` of a pair. -/
def decodeSurrogates (high low : Nat) : Option Nat :=
  if 0xD800 ≤ high ∧ high < 0xDC00 ∧ 0xDC00 ≤ low ∧ low < 0xE000 then
    some (((high - 0xD800) <<< 10 ||| (low - 0xDC00)) + 0x10000)
  else none

/-- The character of a short escape. -/
def shortUnescape (c : UInt8) : Option UInt8 :=
  if c = 34 ∨ c = 92 ∨ c = 47 then some c
  else if c = 98 then some 8
  else if c = 102 then some 12
  else if c = 110 then some 10
  else if c = 114 then some 13
  else if c = 116 then some 9
  else none

/-- The escape at the front: what it stands for, and what follows it. -/
def unescape (text : Bytes) : Option (Bytes × Bytes) :=
  match (text.drop 1).head?.bind shortUnescape with
  | some c => some ([c], text.drop 2)
  | none =>
      match getu4 text with
      | none => none
      | some (rune, rest) =>
          if 0xD800 ≤ rune ∧ rune < 0xE000 then
            match (getu4 rest).bind fun next => (decodeSurrogates rune next.1).map (·, next.2) with
            | some (pair, rest) => some (encodeRune pair, rest)
            | none => some (replacementRune, rest)
          else some (encodeRune rune, rest)

/-- A string behind its opening quote: its bytes, and what follows it. -/
def readString : Nat → Bytes → Option (Bytes × Bytes)
  | 0, _ => none
  | _ + 1, [] => none
  | fuel + 1, c :: rest =>
      if c = 34 then some ([], rest)
      else if c = 92 then
        (unescape (c :: rest)).bind fun (bytes, rest) =>
          (readString fuel rest).map fun (more, rest) => (bytes ++ more, rest)
      else if c < 0x20 then none
      else
        match runeRest c rest with
        | none => (readString fuel rest).map fun (more, rest) => (replacementRune ++ more, rest)
        | some count =>
            (readString fuel (rest.drop count)).map fun (more, after) =>
              (c :: rest.take count ++ more, after)

/-- White space between the parts. -/
def skipBlanks (text : Bytes) : Bytes :=
  text.dropWhile fun c => c = 32 ∨ c = 9 ∨ c = 10 ∨ c = 13

/-- The digits of an integer; a fraction or an exponent behind it is refused. -/
def readDigits (text : Bytes) : Option (Nat × Bytes) :=
  let digits := text.takeWhile isDigit
  let rest := text.dropWhile isDigit
  if digits = [] ∨ (1 < digits.length ∧ digits.head? = some 48) then none
  else if rest.head? = some 46 ∨ rest.head? = some 101 ∨ rest.head? = some 69 then none
  else some (decimalValue digits, rest)

def readInt (text : Bytes) : Option (Int × Bytes) :=
  if text.head? = some 45 then (readDigits (text.drop 1)).map fun (value, rest) => (-value, rest)
  else (readDigits text).map fun (value, rest) => (value, rest)

def readValue (text : Bytes) : Option (JsonValue × Bytes) :=
  match text with
  | 34 :: rest => (readString rest.length rest).map fun (bytes, rest) => (.string bytes, rest)
  | _ => (readInt text).map fun (value, rest) => (.int value, rest)

/-- A member behind its opening quote. -/
def readMember (text : Bytes) : Option ((String × JsonValue) × Bytes) := do
  let (name, rest) ← readString text.length text
  let key ← String.fromUTF8? ⟨name.toArray⟩
  match skipBlanks rest with
  | 58 :: rest =>
      let (value, rest) ← readValue (skipBlanks rest)
      return ((key, value), rest)
  | _ => none

/-- Members up to the closing brace. -/
def readMembers : Nat → Bytes → Option (JsonObject × Bytes)
  | 0, _ => none
  | fuel + 1, text =>
      match skipBlanks text with
      | 34 :: rest =>
          (readMember rest).bind fun (member, rest) =>
            match skipBlanks rest with
            | 44 :: rest =>
                (readMembers fuel rest).map fun (members, rest) => (member :: members, rest)
            | 125 :: rest => some ([member], rest)
            | _ => none
      | _ => none

/-- The object of a text. -/
def parse (text : Bytes) : Option JsonObject :=
  match skipBlanks text with
  | 123 :: rest =>
      let members :=
        match skipBlanks rest with
        | 125 :: rest => some ([], rest)
        | _ => readMembers rest.length rest
      members.bind fun (members, rest) => if skipBlanks rest = [] then some members else none
  | _ => none

example : parse (str "\x7b \"a\" : \"\\u00e9\\ud83d\\ude00\\/\", \"b\":-7\x7d\n") =
    some [("a", .string (str "é😀/")), ("b", .int (-7))] := by decide +kernel

end AimServer.GoJson
