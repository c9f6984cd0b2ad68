import AimServer.Persist.ChatRow

/-!
Contract: the string `HashPassword` builds is one `VerifyPassword` reads.

Owns: the characters and the length of a stored password, and the equivalence of
a verification with the equality of two hashes.

Does not own: that different passwords have different hashes.
-/

namespace AimServer.PasswordUtil

/-! ### Lengths -/

theorem length_toHexLower (raw : Bytes) : (toHexLower raw).length = 2 * raw.length := by
  rw [toHexLower, hexText]
  induction raw with
  | nil => rfl
  | cons byte rest inductionHypothesis =>
      rw [List.flatMap_cons, List.length_append, inductionHypothesis, List.length_cons]
      simp only [List.length_cons, List.length_nil]
      omega

theorem length_sha256Hex (message : Bytes) : (sha256Hex message).length = 64 :=
  length_toHexLower _

/-- The loop of the header starts with the second of its hashes. -/
theorem stretch_eq (saltHex plain : Bytes) :
    stretch saltHex plain = sha256Hex^[10000] (saltHex ++ plain) := by
  have rounds : (kIterations - 1).succ = 10000 := rfl
  rw [stretch, ← Function.iterate_succ_apply, rounds]

/-- The last hash is a hexadecimal digest. -/
theorem stretch_isDigest (saltHex plain : Bytes) :
    ∃ message, stretch saltHex plain = sha256Hex message := by
  rw [stretch_eq, Function.iterate_succ_apply']
  exact ⟨_, rfl⟩

theorem length_hashPassword {salt : Bytes} (length : salt.length = 16) (plain : Bytes) :
    (hashPassword salt plain).length = 100 := by
  obtain ⟨message, isDigest⟩ := stretch_isDigest (toHexLower salt) plain
  have prefixed : (str "v1$").length = 3 := by decide
  rw [hashPassword_eq, List.length_append, List.length_append, List.length_cons, prefixed,
    length_toHexLower, length, isDigest, length_sha256Hex]

/-! ### Characters -/

theorem mem_toHexLower {raw : Bytes} {c : UInt8} (member : c ∈ toHexLower raw) :
    c ∈ str "0123456789abcdef" := by
  have digits : ∀ byte : UInt8,
      (str "0123456789abcdef").getD (byte >>> (4 : UInt8)).toNat 0 ∈ str "0123456789abcdef" ∧
        (str "0123456789abcdef").getD (byte &&& (0x0F : UInt8)).toNat 0 ∈
          str "0123456789abcdef" := by
    intro byte
    obtain ⟨bits⟩ := byte
    revert bits
    decide +kernel
  obtain ⟨byte, -, isDigit⟩ := List.mem_flatMap.mp member
  rcases List.mem_cons.mp isDigit with rfl | low
  · exact (digits byte).1
  · rw [List.mem_singleton.mp low]
    exact (digits byte).2

/-- Prefix, separator and digits are the characters of a stored password. -/
theorem mem_hashPassword {salt plain : Bytes} {c : UInt8} (member : c ∈ hashPassword salt plain) :
    c ∈ str "v1$0123456789abcdef" := by
  have digit : ∀ c ∈ str "0123456789abcdef", c ∈ str "v1$0123456789abcdef" := by
    decide +kernel
  have marks : ∀ c ∈ 36 :: str "v1$", c ∈ str "v1$0123456789abcdef" := by decide +kernel
  rw [hashPassword_eq, List.mem_append, List.mem_append, List.mem_cons] at member
  rcases member with isPrefix | inSalt | rfl | inHash
  · exact marks c (List.mem_cons_of_mem _ isPrefix)
  · exact digit c (mem_toHexLower inSalt)
  · exact marks 36 List.mem_cons_self
  · obtain ⟨message, isDigest⟩ := stretch_isDigest (toHexLower salt) plain
    rw [isDigest] at inHash
    exact digit c (mem_toHexLower inHash)

/-- Text without quotes and backslashes is written as it is. -/
theorem escapeSqlString_eq_self {text : Bytes} (plain : ∀ c ∈ text, c ≠ 39 ∧ c ≠ 92) :
    escapeSqlString text = text := by
  unfold escapeSqlString
  induction text with
  | nil => rfl
  | cons c rest inductionHypothesis =>
      have first := plain c List.mem_cons_self
      rw [List.flatMap_cons, if_neg first.2, if_neg first.1, List.singleton_append,
        inductionHypothesis fun other member => plain other (List.mem_cons_of_mem c member)]

/-! ### Verification -/

/-- What `VerifyPassword` and the `UPDATE` see of a stored password. -/
structure Readable (salt plain stored : Bytes) : Prop where
  hashed : isHashed stored = true
  separator : (stored.drop 3).idxOf? 36 = some 32
  saltHex : (stored.drop 3).take 32 = toHexLower salt
  hashHex : (stored.drop 3).drop 33 = sha256Hex^[10000] (toHexLower salt ++ plain)
  noQuote : 39 ∉ stored
  noBackslash : 92 ∉ stored
  noNul : 0 ∉ stored
  escaped : escapeSqlString stored = stored
  fits : stored.length ≤ 128

theorem readable_hashPassword {salt : Bytes} (length : salt.length = 16) (plain : Bytes) :
    Readable salt plain (hashPassword salt plain) := by
  have ordinary : ∀ c ∈ hashPassword salt plain, c ≠ 39 ∧ c ≠ 92 ∧ c ≠ 0 := by
    intro c member
    have characters : ∀ c ∈ str "v1$0123456789abcdef", c ≠ 39 ∧ c ≠ 92 ∧ c ≠ 0 := by
      decide +kernel
    exact characters c (mem_hashPassword member)
  have saltLength : (toHexLower salt).length = 32 := by rw [length_toHexLower, length]
  refine ⟨isHashed_hashPassword salt plain, ?_, ?_, ?_, ?_, ?_, ?_, ?_, ?_⟩
  · rw [separator_hashPassword, saltLength]
  · rw [body_hashPassword, ← saltLength, List.take_left]
  · have behind : 33 = (toHexLower salt).length + 1 := by rw [saltLength]
    rw [body_hashPassword, behind, ← List.drop_drop, List.drop_left, List.drop_one, List.tail_cons,
      stretch_eq]
  · exact fun member => (ordinary 39 member).1 rfl
  · exact fun member => (ordinary 92 member).2.1 rfl
  · exact fun member => (ordinary 0 member).2.2 rfl
  · exact escapeSqlString_eq_self fun c member => ⟨(ordinary c member).1, (ordinary c member).2.1⟩
  · rw [length_hashPassword length]
    decide

/-- A stored password verifies its own password and every other one with the
same hash, and is read back as it was built. -/
theorem hashPassword_verifies (salt plain tried : Bytes) (length : salt.length = 16) :
    verifyPassword plain (hashPassword salt plain) = true ∧
      (verifyPassword tried (hashPassword salt plain) = true ↔
        sha256Hex^[10000] (toHexLower salt ++ tried) =
          sha256Hex^[10000] (toHexLower salt ++ plain)) ∧
      Readable salt plain (hashPassword salt plain) := by
  refine ⟨verifyPassword_hashPassword salt plain, ?_, readable_hashPassword length plain⟩
  rw [verifyPassword_hashPassword_iff, stretch_eq, stretch_eq]

/-- A password that looks like a stored one. -/
theorem hashPassword_verifies_dollars :
    verifyPassword (str "v1$a$b") (hashPassword (List.replicate 16 7) (str "v1$a$b")) = true ∧
      (verifyPassword (str "v1$") (hashPassword (List.replicate 16 7) (str "v1$a$b")) = true ↔
        sha256Hex^[10000] (toHexLower (List.replicate 16 7) ++ str "v1$") =
          sha256Hex^[10000] (toHexLower (List.replicate 16 7) ++ str "v1$a$b")) ∧
      Readable (List.replicate 16 7) (str "v1$a$b")
        (hashPassword (List.replicate 16 7) (str "v1$a$b")) :=
  hashPassword_verifies (List.replicate 16 7) (str "v1$a$b") (str "v1$") rfl

end AimServer.PasswordUtil
