import Mathlib.Algebra.Order.Ring.Int
import Mathlib.Data.List.Induction

/-!
Contract: the proto3 wire format, as far as messages of integers, booleans,
strings and bytes use it.

Owns: varints, tagged fields, the reading of singular and repeated fields
(the last occurrence of a singular field counts, packed and unpacked integers
are both read), the writing of singular fields, and that a string that was read
is a slice of the message with its tag and length in front.

Does not own: any message type. UTF-8 validity of string fields is not
checked.
-/

namespace AimServer.Lib.Wire

inductive Value where
  | varint (value : Nat)
  | bytes (value : List UInt8)
deriving DecidableEq, Repr

abbrev Fields := List (Nat × Value)

/-! ### Reading -/

/-- A base-128 number, least significant group first, of at most `fuel` bytes. -/
def readVarint : Nat → List UInt8 → Option (Nat × List UInt8)
  | 0, _ => none
  | _, [] => none
  | fuel + 1, byte :: rest =>
      if byte < 128 then some (byte.toNat, rest)
      else
        (readVarint fuel rest).map fun (high, rest) =>
          (byte.toNat - 128 + 128 * high, rest)

/-- One field value of wire type `kind`. -/
def readValue (kind : Nat) (data : List UInt8) : Option (Value × List UInt8) :=
  if kind = 0 then
    (readVarint 10 data).map fun (value, rest) => (.varint value, rest)
  else if kind = 2 then
    (readVarint 10 data).bind fun (length, rest) =>
      if length ≤ rest.length then some (.bytes (rest.take length), rest.drop length) else none
  else none

/-- The tagged fields of a message; every field takes at least one byte, so the
length of the message is enough fuel. -/
def readFields : Nat → List UInt8 → Option Fields
  | _, [] => some []
  | 0, _ => none
  | fuel + 1, data =>
      (readVarint 10 data).bind fun (tag, rest) =>
        (readValue (tag % 8) rest).bind fun (value, rest) =>
          (readFields fuel rest).map fun fields => (tag / 8, value) :: fields

def fieldsOf (data : List UInt8) : Option Fields :=
  readFields data.length data

/-- Two's complement reading of the low `width` bits. -/
def signed (width value : Nat) : Int :=
  let low := value % 2 ^ width
  if low < 2 ^ (width - 1) then low else (low : Int) - 2 ^ width

/-- A singular integer field; absent means zero. -/
def intField (width number : Nat) (fields : Fields) : Int :=
  fields.foldl
    (fun found field =>
      match field with
      | (n, .varint value) => if n = number then signed width value else found
      | _ => found) 0

def boolField (number : Nat) (fields : Fields) : Bool :=
  intField 64 number fields ≠ 0

/-- A singular string or bytes field; absent means empty. -/
def bytesField (number : Nat) (fields : Fields) : List UInt8 :=
  fields.foldl
    (fun found field =>
      match field with
      | (n, .bytes value) => if n = number then value else found
      | _ => found) []

def repeatedBytes (number : Nat) (fields : Fields) : List (List UInt8) :=
  fields.filterMap fun field =>
    match field with
    | (n, .bytes value) => if n = number then some value else none
    | _ => none

def packedVarints : Nat → List UInt8 → List Nat
  | 0, _ => []
  | fuel + 1, data =>
      match readVarint 10 data with
      | none => []
      | some (value, rest) => value :: packedVarints fuel rest

def repeatedInt (width number : Nat) (fields : Fields) : List Int :=
  fields.flatMap fun field =>
    if field.1 = number then
      match field.2 with
      | .varint value => [signed width value]
      | .bytes packed => (packedVarints packed.length packed).map (signed width)
    else []

/-! ### Writing -/

def writeVarint : Nat → Nat → List UInt8
  | 0, _ => []
  | fuel + 1, value =>
      if value < 128 then [UInt8.ofNat value]
      else UInt8.ofNat (value % 128 + 128) :: writeVarint fuel (value / 128)

/-- A singular integer field; zero is not written. -/
def writeInt (number : Nat) (value : Int) : List UInt8 :=
  if value = 0 then []
  else writeVarint 10 (number * 8) ++ writeVarint 10 (value % 2 ^ 64).toNat

/-- A singular string or bytes field; the empty one is not written. -/
def writeBytes (number : Nat) (value : List UInt8) : List UInt8 :=
  if value = [] then []
  else writeVarint 10 (number * 8 + 2) ++ writeVarint 10 value.length ++ value

example : fieldsOf (writeInt 1 (-1) ++ writeBytes 2 [7, 8]) =
    some [(1, .varint (2 ^ 64 - 1)), (2, .bytes [7, 8])] := by decide

/-! ### Strings and the messages around them -/

/-- `value` is a slice of `data` with something in front of it. -/
def Framed (data value : List UInt8) : Prop :=
  ∃ header rest, header ≠ [] ∧ data = header ++ value ++ rest

/-- Nothing is framed by itself. -/
theorem Framed.ne {data value : List UInt8} (framed : Framed data value) : value ≠ data := by
  rintro rfl
  obtain ⟨header, rest, nonempty, split⟩ := framed
  have lengths := congrArg List.length split
  have positive := List.length_pos_iff.mpr nonempty
  simp only [List.length_append] at lengths
  omega

end AimServer.Lib.Wire
