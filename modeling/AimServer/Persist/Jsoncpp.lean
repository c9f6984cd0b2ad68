import AimServer.Persist.ChatRow

/-!
Contract: the JSON text that jsoncpp writes for an event.

Owns: `utf8ToCodepoint`, the quoting of strings with its table of hexadecimal
digits, and the writer without indentation for objects whose members are numbers
and strings.

Does not own: arrays, objects in objects, fractions and comments, which no event
has. Members come in the order of their names' bytes, as in the map of a
`Json::Value`.
-/

namespace AimServer.Jsoncpp

def doesAnyCharRequireEscaping (text : Bytes) : Bool :=
  text.any fun c => c = 92 ∨ c = 34 ∨ c < 0x20 ∨ 0x7F < c

def replacementCharacter : Nat := 0xFFFD

/-- `utf8ToCodepoint`: the code point, and what stands behind the character. -/
def utf8ToCodepoint (first : UInt8) (rest : Bytes) : Nat × Bytes :=
  let firstByte := first.toNat
  if firstByte < 0x80 then (firstByte, rest)
  else if firstByte < 0xE0 then
    match rest with
    | s1 :: rest =>
        let calculated := (firstByte &&& 0x1F) <<< 6 ||| s1.toNat &&& 0x3F
        (if calculated < 0x80 then replacementCharacter else calculated, rest)
    | rest => (replacementCharacter, rest)
  else if firstByte < 0xF0 then
    match rest with
    | s1 :: s2 :: rest =>
        let calculated :=
          (firstByte &&& 0x0F) <<< 12 ||| (s1.toNat &&& 0x3F) <<< 6 ||| s2.toNat &&& 0x3F
        (if 0xD800 ≤ calculated ∧ calculated ≤ 0xDFFF then replacementCharacter
          else if calculated < 0x800 then replacementCharacter else calculated, rest)
    | rest => (replacementCharacter, rest)
  else if firstByte < 0xF8 then
    match rest with
    | s1 :: s2 :: s3 :: rest =>
        let calculated := (firstByte &&& 0x07) <<< 18 ||| (s1.toNat &&& 0x3F) <<< 12 |||
          (s2.toNat &&& 0x3F) <<< 6 ||| s3.toNat &&& 0x3F
        (if calculated < 0x10000 then replacementCharacter else calculated, rest)
    | rest => (replacementCharacter, rest)
  else (replacementCharacter, rest)

/-- All pairs of digits in a row. -/
def hex2 : Bytes :=
  ["000102030405060708090a0b0c0d0e0f", "101112131415161718191a1b1c1d1e1f",
    "202122232425262728292a2b2c2d2e2f", "303132333435363738393a3b3c3d3e3f",
    "404142434445464748494a4b4c4d4e4f", "505152535455565758595a5b5c5d5e5f",
    "606162636465666768696a6b6c6d6e6f", "707172737475767778797a7b7c7d7e7f",
    "808182838485868788898a8b8c8d8e8f", "909192939495969798999a9b9c9d9e9f",
    "a0a1a2a3a4a5a6a7a8a9aaabacadaeaf", "b0b1b2b3b4b5b6b7b8b9babbbcbdbebf",
    "c0c1c2c3c4c5c6c7c8c9cacbcccdcecf", "d0d1d2d3d4d5d6d7d8d9dadbdcdddedf",
    "e0e1e2e3e4e5e6e7e8e9eaebecedeeef", "f0f1f2f3f4f5f6f7f8f9fafbfcfdfeff"].flatMap str

def toHex16Bit (x : Nat) : Bytes :=
  let hi := (x >>> 8) &&& 0xFF
  let lo := x &&& 0xFF
  [hex2.getD (2 * hi) 0, hex2.getD (2 * hi + 1) 0, hex2.getD (2 * lo) 0, hex2.getD (2 * lo + 1) 0]

def appendHex (ch : Nat) : Bytes :=
  92 :: 117 :: toHex16Bit ch

/-- The letter behind the backslash of a short escape. -/
def shortEscape (c : UInt8) : Option UInt8 :=
  if c = 34 then some 34
  else if c = 92 then some 92
  else if c = 8 then some 98
  else if c = 12 then some 102
  else if c = 10 then some 110
  else if c = 13 then some 114
  else if c = 9 then some 116
  else none

/-- A code point in ASCII. -/
def codepointText (codepoint : Nat) : Bytes :=
  if codepoint < 0x20 then appendHex codepoint
  else if codepoint < 0x80 then [UInt8.ofNat codepoint]
  else if codepoint < 0x10000 then appendHex codepoint
  else
    let codepoint := codepoint - 0x10000
    appendHex (0xD800 + ((codepoint >>> 10) &&& 0x3FF)) ++
      appendHex (0xDC00 + (codepoint &&& 0x3FF))

/-- The loop over a string; every turn takes one character. -/
def escapeLoop : Nat → Bytes → Bytes
  | 0, _ => []
  | _ + 1, [] => []
  | fuel + 1, c :: rest =>
      match shortEscape c with
      | some letter => 92 :: letter :: escapeLoop fuel rest
      | none =>
          let (codepoint, rest) := utf8ToCodepoint c rest
          codepointText codepoint ++ escapeLoop fuel rest

/-- `valueToQuotedStringN`, whose parameter `emitUTF8` is false. -/
def valueToQuotedStringN (value : Bytes) : Bytes :=
  if doesAnyCharRequireEscaping value then 34 :: escapeLoop value.length value ++ [34]
  else 34 :: value ++ [34]

def writeValue : JsonValue → Bytes
  | .int value => intText value
  | .string text => valueToQuotedStringN text

def writeMember (member : String × JsonValue) : Bytes :=
  valueToQuotedStringN (str member.1) ++ 58 :: writeValue member.2

/-- The members up to the closing brace. -/
def writeMembers : JsonObject → Bytes
  | [] => [125]
  | [member] => writeMember member ++ [125]
  | member :: next :: rest => writeMember member ++ 44 :: writeMembers (next :: rest)

/-- The members in the order of the map. -/
def sortMembers (object : JsonObject) : JsonObject :=
  object.insertionSort fun first second => str first.1 ≤ str second.1

/-- `Json::writeString`. -/
def writeString (object : JsonObject) : Bytes :=
  123 :: writeMembers (sortMembers object)

example : writeString [("b", .int (-7)), ("a", .string (str "\"\n/"))] =
    str "\x7b\"a\":\"\\\"\\n/\",\"b\":-7\x7d" := by decide +kernel

end AimServer.Jsoncpp
