import Mathlib.Data.List.Basic

/-!
Contract: the MD5 message digest.

Owns: padding, the sixty-four operations on a block, and the digest of a byte
string.

Does not own: any use of the digest. Nothing is proved about it here but its
length; that it keeps given texts apart is for its users to assume or to check.
-/

namespace AimServer.Lib.Md5

/-- The four words of the running digest. -/
structure Digest where
  a : UInt32
  b : UInt32
  c : UInt32
  d : UInt32
deriving DecidableEq, Repr

def initial : Digest := ⟨0x67452301, 0xefcdab89, 0x98badcfe, 0x10325476⟩

/-- The binary fractions of the sines of 1 to 64. -/
def sines : List UInt32 :=
  [0xd76aa478, 0xe8c7b756, 0x242070db, 0xc1bdceee, 0xf57c0faf, 0x4787c62a,
    0xa8304613, 0xfd469501, 0x698098d8, 0x8b44f7af, 0xffff5bb1, 0x895cd7be,
    0x6b901122, 0xfd987193, 0xa679438e, 0x49b40821, 0xf61e2562, 0xc040b340,
    0x265e5a51, 0xe9b6c7aa, 0xd62f105d, 0x02441453, 0xd8a1e681, 0xe7d3fbc8,
    0x21e1cde6, 0xc33707d6, 0xf4d50d87, 0x455a14ed, 0xa9e3e905, 0xfcefa3f8,
    0x676f02d9, 0x8d2a4c8a, 0xfffa3942, 0x8771f681, 0x6d9d6122, 0xfde5380c,
    0xa4beea44, 0x4bdecfa9, 0xf6bb4b60, 0xbebfbc70, 0x289b7ec6, 0xeaa127fa,
    0xd4ef3085, 0x04881d05, 0xd9d4d039, 0xe6db99e5, 0x1fa27cf8, 0xc4ac5665,
    0xf4292244, 0x432aff97, 0xab9423a7, 0xfc93a039, 0x655b59c3, 0x8f0ccc92,
    0xffeff47d, 0x85845dd1, 0x6fa87e4f, 0xfe2ce6e0, 0xa3014314, 0x4e0811a1,
    0xf7537e82, 0xbd3af235, 0x2ad7d2bb, 0xeb86d391]

/-- The rotation of an operation. -/
def rotation (index : Nat) : UInt32 :=
  let rotations : List UInt32 :=
    [7, 12, 17, 22, 5, 9, 14, 20, 4, 11, 16, 23, 6, 10, 15, 21]
  rotations.getD (index / 16 * 4 + index % 4) 0

def rotateLeft (word count : UInt32) : UInt32 :=
  (word <<< count) ||| (word >>> (32 - count))

/-- The function of the round an operation belongs to, and the word it takes. -/
def mixed (index : Nat) (b c d : UInt32) : UInt32 × Nat :=
  if index < 16 then ((b &&& c) ||| (~~~b &&& d), index)
  else if index < 32 then ((d &&& b) ||| (~~~d &&& c), (5 * index + 1) % 16)
  else if index < 48 then (b ^^^ c ^^^ d, (3 * index + 5) % 16)
  else (c ^^^ (b ||| ~~~d), 7 * index % 16)

/-- One of the sixty-four operations. -/
def operation (words : List UInt32) (digest : Digest) (index : Nat) : Digest :=
  let (f, g) := mixed index digest.b digest.c digest.d
  let sum := digest.a + f + sines.getD index 0 + words.getD g 0
  ⟨digest.d, digest.b + rotateLeft sum (rotation index), digest.b, digest.c⟩

/-- Little-endian words. -/
def wordsOf : List UInt8 → List UInt32
  | b₀ :: b₁ :: b₂ :: b₃ :: rest =>
      (b₀.toUInt32 ||| b₁.toUInt32 <<< 8 ||| b₂.toUInt32 <<< 16 ||| b₃.toUInt32 <<< 24) ::
        wordsOf rest
  | _ => []

/-- All operations on a block, added to the digest before it. -/
def addBlock (digest : Digest) (block : List UInt8) : Digest :=
  let next := (List.range 64).foldl (operation (wordsOf block)) digest
  ⟨digest.a + next.a, digest.b + next.b, digest.c + next.c, digest.d + next.d⟩

/-- A number in so many bytes, little end first. -/
def littleEndian : Nat → Nat → List UInt8
  | 0, _ => []
  | count + 1, n => UInt8.ofNat n :: littleEndian count (n / 256)

/-- The text, a one bit, zeros, and the number of bits. -/
def padded (text : List UInt8) : List UInt8 :=
  text ++ 0x80 :: List.replicate ((119 - text.length % 64) % 64) 0 ++
    littleEndian 8 (8 * text.length)

def blocksOf : Nat → List UInt8 → List (List UInt8)
  | 0, _ => []
  | count + 1, bytes => bytes.take 64 :: blocksOf count (bytes.drop 64)

def wordBytes (word : UInt32) : List UInt8 :=
  littleEndian 4 word.toNat

/-- The digest in sixteen bytes. -/
def sum (text : List UInt8) : List UInt8 :=
  let bytes := padded text
  let digest := (blocksOf (bytes.length / 64) bytes).foldl addBlock initial
  wordBytes digest.a ++ wordBytes digest.b ++ wordBytes digest.c ++ wordBytes digest.d

theorem length_littleEndian (count n : Nat) : (littleEndian count n).length = count := by
  induction count generalizing n with
  | zero => rfl
  | succ count inductionHypothesis =>
      rw [littleEndian, List.length_cons, inductionHypothesis]

theorem length_sum (text : List UInt8) : (sum text).length = 16 := by
  simp [sum, wordBytes, length_littleEndian]

-- The digest of `abc`.
example : sum [97, 98, 99] =
    [0x90, 0x01, 0x50, 0x98, 0x3c, 0xd2, 0x4f, 0xb0, 0xd6, 0x96, 0x3f, 0x7d, 0x28, 0xe1, 0x7f,
      0x72] := by decide +kernel

end AimServer.Lib.Md5
