import Mathlib.Data.List.Basic
import AimServer.Lib.SqlText

/-!
Contract: pieces of an SQL text and the tokens each of them stands for.

Owns: the relation between a piece and its tokens, the pieces it starts from
(words, literals with both escapes), how two pieces compose at a delimiter,
lists with separators, and what a C string makes of a piece with a NUL byte.

Does not own: any statement.

A NUL byte can only stand inside a literal. The C string ends there, so the
scanner reaches the end with that literal open.
-/

namespace AimServer.Lib.Sql

/-- A text that starts at a token boundary reads as `tokens`. As a C string it
does so too unless it holds a NUL byte; then one of its literals holds it and
stays open. -/
structure Fragment (text : List UInt8) (tokens : List Token) : Prop where
  reads : ∀ before, (run Scanner.step ⟨before, .between⟩ text).finish = some (before ++ tokens)
  cut : 0 ∈ text →
    ∀ before, (run Scanner.step ⟨before, .between⟩ (text.takeWhile (· ≠ 0))).finish = none
  nul : 0 ∈ text → ∃ content, Token.text content ∈ tokens ∧ 0 ∈ content

/-- A byte that ends words and literals. -/
def IsDelimiter (c : UInt8) : Prop :=
  c ≠ 0 ∧ c ≠ 39 ∧ isWordChar c = false

instance (c : UInt8) : Decidable (IsDelimiter c) :=
  inferInstanceAs (Decidable (_ ∧ _))

def delimiterTokens (c : UInt8) : List Token :=
  if isBlank c then [] else [.symbol c]

section NulBytes

theorem takeWhile_append_of_nul {first : List UInt8} (nul : 0 ∈ first) (second : List UInt8) :
    (first ++ second).takeWhile (· ≠ 0) = first.takeWhile (· ≠ 0) := by
  induction first with
  | nil => cases nul
  | cons c rest inductionHypothesis =>
      by_cases isNul : c = 0
      · simp [isNul]
      · have later : 0 ∈ rest := by
          rcases List.mem_cons.mp nul with here | later
          · exact absurd here.symm isNul
          · exact later
        simpa [isNul] using inductionHypothesis later

theorem takeWhile_append_of_not_nul {first : List UInt8} (nulFree : 0 ∉ first)
    (second : List UInt8) :
    (first ++ second).takeWhile (· ≠ 0) = first ++ second.takeWhile (· ≠ 0) := by
  apply List.takeWhile_append_of_pos
  intro c member
  simp only [decide_eq_true_eq]
  intro isNul
  exact nulFree (isNul ▸ member)

/-- Escaping adds no NUL byte and keeps those there are. -/
theorem nul_mem_flatMap_escapeByte {content : List UInt8} :
    0 ∈ content.flatMap escapeByte ↔ 0 ∈ content := by
  constructor
  · intro member
    obtain ⟨c, inContent, escaped⟩ := List.mem_flatMap.mp member
    unfold escapeByte at escaped
    split at escaped
    · simp at escaped
    · split at escaped
      · simp at escaped
      · exact List.mem_singleton.mp escaped ▸ inContent
  · intro member
    exact List.mem_flatMap.mpr ⟨0, member, by decide⟩

/-- The C string of an escaped content ends between two bytes of the content. -/
theorem takeWhile_flatMap_escapeByte (content : List UInt8) :
    (content.flatMap escapeByte).takeWhile (· ≠ 0) =
      (content.takeWhile (· ≠ 0)).flatMap escapeByte := by
  induction content with
  | nil => rfl
  | cons c rest inductionHypothesis =>
      by_cases isNul : c = 0
      · subst isNul
        rfl
      · have nulFree : (0 : UInt8) ∉ escapeByte c := by
          unfold escapeByte
          split
          · decide
          · split
            · decide
            · simpa using Ne.symm isNul
        rw [List.flatMap_cons, takeWhile_append_of_not_nul nulFree, inductionHypothesis,
          List.takeWhile_cons_of_pos (by simpa using isNul), List.flatMap_cons]

end NulBytes

section Scan

variable {tokens : List Token} {c : UInt8}

/-- At a delimiter the scanner closes the token it is in. -/
theorem step_delimiter {scanner : Scanner} (finished : scanner.finish = some tokens)
    (delimits : IsDelimiter c) :
    scanner.step c = ⟨tokens ++ delimiterTokens c, .between⟩ := by
  obtain ⟨-, notQuote, notWord⟩ := delimits
  have started : ∀ before, Scanner.start before c = ⟨before ++ delimiterTokens c, .between⟩ := by
    intro before
    unfold Scanner.start delimiterTokens
    rw [if_neg notQuote]
    split
    · simp
    · simp [notWord]
  obtain ⟨before, mode⟩ := scanner
  cases mode with
  | between =>
      cases finished
      exact started _
  | word letters =>
      cases finished
      exact (if_neg (by simp [notWord])).trans (started (before ++ [.word letters]))
  | closing content =>
      cases finished
      exact (if_neg notQuote).trans (started (before ++ [.text content]))
  | quoted content => cases finished
  | escaped content => cases finished

end Scan

namespace Fragment

variable {first second text letters : List UInt8} {firstTokens secondTokens tokens : List Token}
  {c : UInt8}

theorem nil : Fragment [] [] where
  reads before := by simp [Scanner.finish]
  cut member := by cases member
  nul member := by cases member

theorem word (nonempty : letters ≠ []) (all : ∀ c ∈ letters, isWordChar c = true) :
    Fragment letters [.word letters] := by
  have nulFree : 0 ∉ letters := by
    intro member
    exact absurd (all 0 member) (by decide)
  refine ⟨?_, fun member => absurd member nulFree, fun member => absurd member nulFree⟩
  intro before
  rw [run_between_word nonempty all]
  rfl

/-- A literal with both escapes reads as its content. -/
theorem quoted (content : List UInt8) :
    Fragment (39 :: (content.flatMap escapeByte ++ [39])) [.text content] := by
  have opened : ∀ before rest, run Scanner.step ⟨before, .between⟩ (39 :: rest) =
      run Scanner.step ⟨before, .quoted []⟩ rest := fun _ _ => rfl
  have held : 0 ∈ (39 :: (content.flatMap escapeByte ++ [39]) : List UInt8) → 0 ∈ content := by
    intro member
    have inEscaped : 0 ∈ content.flatMap escapeByte := by
      simpa only [List.mem_cons, List.mem_append, List.not_mem_nil, or_false,
        show (0 : UInt8) ≠ 39 by decide, false_or] using member
    exact nul_mem_flatMap_escapeByte.mp inEscaped
  refine ⟨?_, ?_, ?_⟩
  · intro before
    rw [opened, run_append, run_quoted]
    rfl
  · intro member before
    have inEscaped : 0 ∈ content.flatMap escapeByte := nul_mem_flatMap_escapeByte.mpr (held member)
    rw [List.takeWhile_cons_of_pos (by decide), takeWhile_append_of_nul inEscaped,
      takeWhile_flatMap_escapeByte, opened, run_quoted]
    rfl
  · intro member
    exact ⟨content, List.mem_singleton_self _, held member⟩

/-- A literal right behind a word, such as `X'41'`. -/
theorem word_quoted {plain : List UInt8} (nonempty : letters ≠ [])
    (all : ∀ c ∈ letters, isWordChar c = true) (allPlain : ∀ c ∈ plain, isWordChar c = true) :
    Fragment (letters ++ 39 :: (plain ++ [39])) [.word letters, .text plain] := by
  have notWord : ∀ c : UInt8, isWordChar c = true → c ≠ 0 ∧ c ≠ 39 ∧ c ≠ 92 := by
    intro c isWord
    refine ⟨?_, ?_, ?_⟩
    · rintro rfl
      exact absurd isWord (by decide)
    · rintro rfl
      exact absurd isWord (by decide)
    · rintro rfl
      exact absurd isWord (by decide)
  have unescaped : plain.flatMap escapeByte = plain := by
    refine (List.flatMap_congr fun c member => ?_).trans (List.flatMap_singleton' plain)
    obtain ⟨-, notQuote, notBackslash⟩ := notWord c (allPlain c member)
    rw [escapeByte, if_neg notBackslash, if_neg notQuote]
  have nulFree : 0 ∉ letters ++ 39 :: (plain ++ [39]) := by
    intro member
    simp only [List.mem_append, List.mem_cons, List.not_mem_nil, or_false,
      show (0 : UInt8) ≠ 39 by decide, false_or] at member
    rcases member with inWord | inText
    · exact (notWord 0 (all 0 inWord)).1 rfl
    · exact (notWord 0 (allPlain 0 inText)).1 rfl
  refine ⟨?_, fun member => absurd member nulFree, fun member => absurd member nulFree⟩
  intro before
  have opened : ∀ rest, run Scanner.step ⟨before, .word letters⟩ (39 :: rest) =
      run Scanner.step ⟨before ++ [.word letters], .quoted []⟩ rest := fun _ => rfl
  have quoted : run Scanner.step ⟨before ++ [.word letters], .quoted []⟩
      (plain.flatMap escapeByte) = _ := run_quoted [] plain
  rw [unescaped] at quoted
  rw [run_append, run_between_word nonempty all, opened, run_append, quoted]
  show some (before ++ [.word letters] ++ [.text plain]) = _
  rw [List.append_assoc]
  rfl

/-- Two pieces with a delimiter between them. -/
theorem append (firstReads : Fragment first firstTokens) (delimits : IsDelimiter c)
    (secondReads : Fragment second secondTokens) :
    Fragment (first ++ c :: second) (firstTokens ++ (delimiterTokens c ++ secondTokens)) := by
  have delimited : ∀ before, run Scanner.step ⟨before, .between⟩ (first ++ [c]) =
      ⟨before ++ firstTokens ++ delimiterTokens c, .between⟩ := by
    intro before
    rw [run_append]
    exact step_delimiter (firstReads.reads before) delimits
  have split : ∀ rest, first ++ c :: rest = (first ++ [c]) ++ rest := by simp
  refine ⟨?_, ?_, ?_⟩
  · intro before
    rw [split, run_append, delimited, secondReads.reads]
    simp
  · intro member before
    by_cases inFirst : 0 ∈ first
    · rw [takeWhile_append_of_nul inFirst]
      exact firstReads.cut inFirst before
    · have inSecond : 0 ∈ second := by
        simpa [inFirst, Ne.symm delimits.1] using member
      rw [takeWhile_append_of_not_nul inFirst,
        List.takeWhile_cons_of_pos (by simpa using delimits.1), split, run_append, delimited]
      exact secondReads.cut inSecond _
  · intro member
    by_cases inFirst : 0 ∈ first
    · obtain ⟨content, isToken, held⟩ := firstReads.nul inFirst
      exact ⟨content, List.mem_append_left _ isToken, held⟩
    · have inSecond : 0 ∈ second := by
        simpa [inFirst, Ne.symm delimits.1] using member
      obtain ⟨content, isToken, held⟩ := secondReads.nul inSecond
      exact ⟨content, List.mem_append_right _ (List.mem_append_right _ isToken), held⟩

/-- A piece that starts with a delimiter. -/
theorem cons (delimits : IsDelimiter c) (reads : Fragment text tokens) :
    Fragment (c :: text) (delimiterTokens c ++ tokens) :=
  nil.append delimits reads

/-- A blank between two pieces is no token. -/
theorem append_blank (firstReads : Fragment first firstTokens)
    (secondReads : Fragment second secondTokens) :
    Fragment (first ++ 32 :: second) (firstTokens ++ secondTokens) :=
  firstReads.append (by decide) secondReads

/-- Pieces with a comma and a blank between them. -/
theorem separated {texts : List (List UInt8)} {tokenLists : List (List Token)}
    (all : List.Forall₂ Fragment texts tokenLists) :
    Fragment ([44, 32].intercalate texts) ([Token.symbol 44].intercalate tokenLists) := by
  induction all with
  | nil => exact nil
  | cons headReads tailReads inductionHypothesis =>
      cases tailReads with
      | nil => simpa using headReads
      | cons nextReads moreReads =>
          have joined := headReads.append (c := 44) (by decide) (inductionHypothesis.cons (c := 32)
            (by decide))
          simpa [delimiterTokens, isBlank] using joined

/-- What MySQL is given: the tokens, or a literal that is never closed. -/
theorem scan_cStr (reads : Fragment text tokens) :
    scan (text.takeWhile (· ≠ 0)) = if 0 ∈ text then none else some tokens := by
  unfold scan
  split
  · next nul => exact reads.cut nul []
  · next nulFree =>
      have whole := takeWhile_append_of_not_nul nulFree []
      rw [List.append_nil] at whole
      rw [whole, List.takeWhile_nil, List.append_nil, reads.reads]
      rfl

end Fragment

end AimServer.Lib.Sql
