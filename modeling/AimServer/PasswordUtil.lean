import Mathlib.Logic.Function.Iterate
import AimServer.Bytes

/-!
Contract: `PasswordUtil.h`, the salted and stretched password hash.

Owns: SHA-256 as the header computes it, the stored format
`v1$<saltHex>$<hashHex>`, and verification with the plaintext fallback for
accounts older than the hash.

The salt is drawn from `std::random_device`, so it is an argument here.
-/

namespace AimServer.PasswordUtil

def rotr (x n : UInt32) : UInt32 :=
  (x >>> n) ||| (x <<< (32 - n))

/-- Round constants `k[64]`. -/
def roundConstants : List UInt32 :=
  [0x428a2f98, 0x71374491, 0xb5c0fbcf, 0xe9b5dba5, 0x3956c25b, 0x59f111f1, 0x923f82a4, 0xab1c5ed5,
   0xd807aa98, 0x12835b01, 0x243185be, 0x550c7dc3, 0x72be5d74, 0x80deb1fe, 0x9bdc06a7, 0xc19bf174,
   0xe49b69c1, 0xefbe4786, 0x0fc19dc6, 0x240ca1cc, 0x2de92c6f, 0x4a7484aa, 0x5cb0a9dc, 0x76f988da,
   0x983e5152, 0xa831c66d, 0xb00327c8, 0xbf597fc7, 0xc6e00bf3, 0xd5a79147, 0x06ca6351, 0x14292967,
   0x27b70a85, 0x2e1b2138, 0x4d2c6dfc, 0x53380d13, 0x650a7354, 0x766a0abb, 0x81c2c92e, 0x92722c85,
   0xa2bfe8a1, 0xa81a664b, 0xc24b8b70, 0xc76c51a3, 0xd192e819, 0xd6990624, 0xf40e3585, 0x106aa070,
   0x19a4c116, 0x1e376c08, 0x2748774c, 0x34b0bcb5, 0x391c0cb3, 0x4ed8aa4a, 0x5b9cca4f, 0x682e6ff3,
   0x748f82ee, 0x78a5636f, 0x84c87814, 0x8cc70208, 0x90befffa, 0xa4506ceb, 0xbef9a3f7, 0xc67178f2]

/-- The eight words `h[0] .. h[7]` (and `a .. hh` inside a block). -/
structure Words where
  a : UInt32
  b : UInt32
  c : UInt32
  d : UInt32
  e : UInt32
  f : UInt32
  g : UInt32
  h : UInt32
deriving DecidableEq, Repr

def initialWords : Words :=
  ⟨0x6a09e667, 0xbb67ae85, 0x3c6ef372, 0xa54ff53a, 0x510e527f, 0x9b05688c, 0x1f83d9ab, 0x5be0cd19⟩

/-- `while (data.size() % 64 != 56) data.push_back(0)`; 64 rounds are enough. -/
def padLoop : Nat → Bytes → Bytes
  | 0, data => data
  | fuel + 1, data => if data.length % 64 ≠ 56 then padLoop fuel (data ++ [0]) else data

/-- The message, the `0x80` byte, zeros, and the 64-bit big-endian bit length. -/
def padded (message : Bytes) : Bytes :=
  let bitLength : UInt64 := UInt64.ofNat (message.length * 8)
  padLoop 64 (message ++ [0x80]) ++
    [7, 6, 5, 4, 3, 2, 1, 0].map fun i : UInt64 => (bitLength >>> (i * 8)).toUInt8

/-- Big-endian word `i` of a block. -/
def blockWord (block : Bytes) (i : Nat) : UInt32 :=
  ((block.getD (4 * i) 0).toUInt32 <<< 24) ||| ((block.getD (4 * i + 1) 0).toUInt32 <<< 16) |||
    ((block.getD (4 * i + 2) 0).toUInt32 <<< 8) ||| (block.getD (4 * i + 3) 0).toUInt32

/-- One more word of the message schedule. -/
def extendSchedule (w : List UInt32) (i : Nat) : List UInt32 :=
  let w15 := w.getD (i - 15) 0
  let w2 := w.getD (i - 2) 0
  let s0 := rotr w15 7 ^^^ rotr w15 18 ^^^ (w15 >>> 3)
  let s1 := rotr w2 17 ^^^ rotr w2 19 ^^^ (w2 >>> 10)
  w ++ [w.getD (i - 16) 0 + s0 + w.getD (i - 7) 0 + s1]

def schedule (block : Bytes) : List UInt32 :=
  (List.range' 16 48).foldl extendSchedule ((List.range 16).map (blockWord block))

/-- One compression round with round constant and schedule word. -/
def round (s : Words) (kw : UInt32 × UInt32) : Words :=
  let S1 := rotr s.e 6 ^^^ rotr s.e 11 ^^^ rotr s.e 25
  let ch := (s.e &&& s.f) ^^^ ((~~~ s.e) &&& s.g)
  let t1 := s.h + S1 + ch + kw.1 + kw.2
  let S0 := rotr s.a 2 ^^^ rotr s.a 13 ^^^ rotr s.a 22
  let maj := (s.a &&& s.b) ^^^ (s.a &&& s.c) ^^^ (s.b &&& s.c)
  let t2 := S0 + maj
  ⟨t1 + t2, s.a, s.b, s.c, s.d + t1, s.e, s.f, s.g⟩

def compress (s : Words) (block : Bytes) : Words :=
  let r := (roundConstants.zip (schedule block)).foldl round s
  ⟨s.a + r.a, s.b + r.b, s.c + r.c, s.d + r.d, s.e + r.e, s.f + r.f, s.g + r.g, s.h + r.h⟩

def wordBytes (w : UInt32) : Bytes :=
  [(w >>> 24).toUInt8, (w >>> 16).toUInt8, (w >>> 8).toUInt8, w.toUInt8]

/-- `sha256_raw`: the 32 digest bytes. -/
def sha256Raw (message : Bytes) : Bytes :=
  let data := padded message
  let s := (List.range (data.length / 64)).foldl
    (fun state chunk => compress state ((data.drop (64 * chunk)).take 64)) initialWords
  [s.a, s.b, s.c, s.d, s.e, s.f, s.g, s.h].flatMap wordBytes

/-- `to_hex`: lower-case digits. -/
def toHexLower (raw : Bytes) : Bytes :=
  hexText (str "0123456789abcdef") raw

def sha256Hex (message : Bytes) : Bytes :=
  toHexLower (sha256Raw message)

def kIterations : Nat := 10000

/-- The stretched hash both functions below compute. -/
def stretch (saltHex plain : Bytes) : Bytes :=
  Nat.iterate sha256Hex (kIterations - 1) (sha256Hex (saltHex ++ plain))

/-- `HashPassword`, with the 16 bytes `random_device` delivered. -/
def hashPassword (salt plain : Bytes) : Bytes :=
  let saltHex := toHexLower salt
  str "v1$" ++ saltHex ++ str "$" ++ stretch saltHex plain

def isHashed (stored : Bytes) : Bool :=
  3 < stored.length ∧ stored.take 3 = str "v1$"

/-- `VerifyPassword`: a stored value that is not in the hashed format is
compared as plaintext. -/
def verifyPassword (plain stored : Bytes) : Bool :=
  if ¬ isHashed stored then plain = stored
  else
    let body := stored.drop 3
    match body.idxOf? 36 with
    | none => false
    | some p2 => stretch (body.take p2) plain = body.drop (p2 + 1)

/-! ### A hash verifies its password -/

/-- The separator is no hexadecimal digit. -/
theorem separator_not_mem_toHexLower (raw : Bytes) : 36 ∉ toHexLower raw := by
  intro member
  rcases mem_hexText member with none | digit
  · exact absurd none (by decide)
  · exact absurd digit (by decide)

/-- The stored value behind its prefix. -/
theorem hashPassword_eq (salt plain : Bytes) :
    hashPassword salt plain =
      str "v1$" ++ (toHexLower salt ++ 36 :: stretch (toHexLower salt) plain) := by
  have separator : str "$" = [36] := by decide
  simp only [hashPassword, separator, List.append_assoc, List.singleton_append]

theorem body_hashPassword (salt plain : Bytes) :
    (hashPassword salt plain).drop 3 =
      toHexLower salt ++ 36 :: stretch (toHexLower salt) plain := by
  have prefixed : (str "v1$").length = 3 := by decide
  rw [hashPassword_eq, ← prefixed, List.drop_left]

theorem isHashed_hashPassword (salt plain : Bytes) : isHashed (hashPassword salt plain) = true := by
  have prefixed : (str "v1$").length = 3 := by decide
  rw [hashPassword_eq]
  simp only [isHashed, decide_eq_true_eq, List.length_append, prefixed]
  refine ⟨by simp, ?_⟩
  rw [← prefixed, List.take_left]

/-- The first separator of the body is the one behind the salt. -/
theorem separator_hashPassword (salt plain : Bytes) :
    ((hashPassword salt plain).drop 3).idxOf? 36 = some (toHexLower salt).length := by
  rw [body_hashPassword, List.idxOf?_eq_some_iff]
  refine ⟨by simp, by simp, ?_⟩
  intro j before same
  rw [List.getElem_append_left before] at same
  exact separator_not_mem_toHexLower salt (same ▸ List.getElem_mem before)

/-- A password is compared with the stored one by their hashes under its salt. -/
theorem verifyPassword_hashPassword_iff (salt plain tried : Bytes) :
    verifyPassword tried (hashPassword salt plain) = true ↔
      stretch (toHexLower salt) tried = stretch (toHexLower salt) plain := by
  unfold verifyPassword
  rw [isHashed_hashPassword]
  simp only [not_true_eq_false, if_false, separator_hashPassword]
  rw [body_hashPassword, List.take_left, ← List.drop_drop, List.drop_left, List.drop_one,
    List.tail_cons, decide_eq_true_eq]

theorem verifyPassword_hashPassword (salt plain : Bytes) :
    verifyPassword plain (hashPassword salt plain) = true :=
  (verifyPassword_hashPassword_iff salt plain plain).mpr rfl

end AimServer.PasswordUtil
