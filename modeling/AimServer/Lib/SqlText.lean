import AimServer.Lib.Run

/-!
Contract: the tokens of an SQL statement.

Owns: a scanner that reads one byte at a time, words, single-quoted literals
with doubled quotes and backslash escapes, symbols, and how the scanner
behaves on a literal that is written out with both escapes.

Does not own: any statement. Digits are word characters, so an unsigned number
is a word; a sign is a symbol.
-/

namespace AimServer.Lib.Sql

inductive Token where
  | word (letters : List UInt8)
  | text (content : List UInt8)
  | symbol (char : UInt8)
deriving DecidableEq, Repr

/-- Where the scanner is: between tokens, in a word, in a literal, after a
backslash in it, or after a quote that may close it. -/
inductive Mode where
  | between
  | word (letters : List UInt8)
  | quoted (content : List UInt8)
  | escaped (content : List UInt8)
  | closing (content : List UInt8)
deriving DecidableEq, Repr

structure Scanner where
  tokens : List Token
  mode : Mode
deriving DecidableEq, Repr

def isBlank (c : UInt8) : Bool :=
  c = 32 ∨ (9 ≤ c ∧ c ≤ 13)

def isWordChar (c : UInt8) : Bool :=
  (48 ≤ c ∧ c ≤ 57) ∨ (65 ≤ c ∧ c ≤ 90) ∨ (97 ≤ c ∧ c ≤ 122) ∨ c = 95

/-- What a backslash and this byte stand for. -/
def unescape (c : UInt8) : List UInt8 :=
  match c with
  | 48 => [0]
  | 98 => [8]
  | 110 => [10]
  | 114 => [13]
  | 116 => [9]
  | 90 => [26]
  | 37 => [92, 37]
  | 95 => [92, 95]
  | other => [other]

namespace Scanner

/-- A byte at the start of a token. -/
def start (tokens : List Token) (c : UInt8) : Scanner :=
  if c = 39 then ⟨tokens, .quoted []⟩
  else if isBlank c then ⟨tokens, .between⟩
  else if isWordChar c then ⟨tokens, .word [c]⟩
  else ⟨tokens ++ [.symbol c], .between⟩

def step (scanner : Scanner) (c : UInt8) : Scanner :=
  match scanner.mode with
  | .between => start scanner.tokens c
  | .word letters =>
      if isWordChar c then ⟨scanner.tokens, .word (letters ++ [c])⟩
      else start (scanner.tokens ++ [.word letters]) c
  | .quoted content =>
      if c = 39 then ⟨scanner.tokens, .closing content⟩
      else if c = 92 then ⟨scanner.tokens, .escaped content⟩
      else ⟨scanner.tokens, .quoted (content ++ [c])⟩
  | .escaped content => ⟨scanner.tokens, .quoted (content ++ unescape c)⟩
  | .closing content =>
      if c = 39 then ⟨scanner.tokens, .quoted (content ++ [39])⟩
      else start (scanner.tokens ++ [.text content]) c

/-- The tokens at the end of the text. A literal must have been closed. -/
def finish (scanner : Scanner) : Option (List Token) :=
  match scanner.mode with
  | .between => some scanner.tokens
  | .word letters => some (scanner.tokens ++ [.word letters])
  | .closing content => some (scanner.tokens ++ [.text content])
  | .quoted _ => none
  | .escaped _ => none

end Scanner

def scan (bytes : List UInt8) : Option (List Token) :=
  (run Scanner.step ⟨[], .between⟩ bytes).finish

/-- Both escapes of a literal: quotes are doubled, backslashes too. -/
def escapeByte (c : UInt8) : List UInt8 :=
  if c = 92 then [92, 92] else if c = 39 then [39, 39] else [c]

section Scan

variable {tokens : List Token}

/-- Word characters stay in the word. -/
theorem run_word (letters : List UInt8) (more : List UInt8)
    (all : ∀ c ∈ more, isWordChar c = true) :
    run Scanner.step ⟨tokens, .word letters⟩ more = ⟨tokens, .word (letters ++ more)⟩ := by
  induction more generalizing letters with
  | nil => simp
  | cons c rest inductionHypothesis =>
      have isWord := all c List.mem_cons_self
      have stepped : Scanner.step ⟨tokens, .word letters⟩ c = ⟨tokens, .word (letters ++ [c])⟩ :=
        if_pos isWord
      have rest := inductionHypothesis (letters ++ [c])
        fun d member => all d (List.mem_cons_of_mem _ member)
      rw [run_cons, stepped, rest, List.append_assoc]
      rfl

/-- A word after a token boundary. -/
theorem run_between_word {letters : List UInt8} (nonempty : letters ≠ [])
    (all : ∀ c ∈ letters, isWordChar c = true) :
    run Scanner.step ⟨tokens, .between⟩ letters = ⟨tokens, .word letters⟩ := by
  obtain ⟨c, rest, rfl⟩ := List.exists_cons_of_ne_nil nonempty
  have isWord := all c List.mem_cons_self
  have notQuote : c ≠ 39 := by
    intro same
    subst same
    exact absurd isWord (by decide)
  have notBlank : isBlank c = false := by
    revert isWord
    simp only [isWordChar, isBlank, decide_eq_true_eq, decide_eq_false_iff_not]
    intro isWord blank
    simp only [UInt8.le_iff_toNat_le, ← UInt8.toNat_inj] at isWord blank
    simp only [UInt8.reduceToNat] at isWord blank
    omega
  have stepped : Scanner.step ⟨tokens, .between⟩ c = ⟨tokens, .word [c]⟩ := by
    simp [Scanner.step, Scanner.start, notQuote, notBlank, isWord]
  rw [run_cons, stepped, run_word _ _ fun d member => all d (List.mem_cons_of_mem _ member)]
  rfl

/-- Inside a literal the escaped bytes of a content read as the content. -/
theorem run_quoted (before content : List UInt8) :
    run Scanner.step ⟨tokens, .quoted before⟩ (content.flatMap escapeByte) =
      ⟨tokens, .quoted (before ++ content)⟩ := by
  induction content generalizing before with
  | nil => simp
  | cons c rest inductionHypothesis =>
      have escaped : run Scanner.step ⟨tokens, .quoted before⟩ (escapeByte c) =
          ⟨tokens, .quoted (before ++ [c])⟩ := by
        unfold escapeByte
        by_cases isBackslash : c = 92
        · subst isBackslash
          rfl
        · by_cases isQuote : c = 39
          · subst isQuote
            rfl
          · rw [if_neg isBackslash, if_neg isQuote]
            simp [Scanner.step, isBackslash, isQuote]
      rw [List.flatMap_cons, run_append, escaped, inductionHypothesis, List.append_assoc]
      rfl

end Scan

end AimServer.Lib.Sql
