import AimServer.Persist.ChatRow
import AimServer.Lib.SqlFragment

/-!
Contract: the two kinds of statement the server writes strings with, as text
and as what MySQL reads.

Owns: `INSERT` and `UPDATE` statements with their tables, columns and values,
a writer, a reader of the whole token list, and the round trip between them
for every value.

Does not own: which statement a method of `UserManager` writes.
-/

namespace AimServer

open AimServer.Lib
open AimServer.Lib.Sql (Token Scanner Fragment IsDelimiter delimiterTokens)

/-- A statement that adds one row, or that sets columns where another column
has a value. -/
inductive SqlStatement where
  | insert (table : Bytes) (columns : List Bytes) (values : List SqlValue)
  | update (table : Bytes) (assignments : List (Bytes × SqlValue)) (key : Bytes × SqlValue)
deriving DecidableEq, Repr

/-! ### How MySQL reads it -/

/-- The tokens behind `head`. -/
def expect (head tokens : List Token) : Option (List Token) :=
  if head <+: tokens then some (tokens.drop head.length) else none

def readName : List Token → Option (Bytes × List Token)
  | .word name :: rest => some (name, rest)
  | _ => none

/-- `column = value`. -/
def readAssignment (tokens : List Token) : Option ((Bytes × SqlValue) × List Token) := do
  let (column, rest) ← readName tokens
  let rest ← expect [.symbol 61] rest
  let (value, rest) ← readValue rest
  return ((column, value), rest)

/-- One or more items with commas between them, at most `limit`. -/
def readList {α : Type} (readItem : List Token → Option (α × List Token)) :
    Nat → List Token → Option (List α × List Token)
  | 0, _ => none
  | limit + 1, tokens =>
      match readItem tokens with
      | none => none
      | some (item, .symbol 44 :: rest) =>
          (readList readItem limit rest).map fun (items, rest) => (item :: items, rest)
      | some (item, rest) => some ([item], rest)

def readInsert (tokens : List Token) : Option SqlStatement := do
  let rest ← expect [.word (str "INSERT"), .word (str "INTO")] tokens
  let (table, rest) ← readName rest
  let rest ← expect [.symbol 40] rest
  let (columns, rest) ← readList readName rest.length rest
  let rest ← expect [.symbol 41, .word (str "VALUES"), .symbol 40] rest
  let (values, rest) ← readList readValue rest.length rest
  if rest = [.symbol 41] ∧ columns.length = values.length then
    some (.insert table columns values)
  else none

def readUpdate (tokens : List Token) : Option SqlStatement := do
  let rest ← expect [.word (str "UPDATE")] tokens
  let (table, rest) ← readName rest
  let rest ← expect [.word (str "SET")] rest
  let (assignments, rest) ← readList readAssignment rest.length rest
  let rest ← expect [.word (str "WHERE")] rest
  let (key, rest) ← readAssignment rest
  if rest = [] then some (.update table assignments key) else none

/-- The one statement that the whole token list is. -/
def readStatement (tokens : List Token) : Option SqlStatement :=
  (readInsert tokens).or (readUpdate tokens)

/-! ### Its text -/

def SqlValue.sqlText : SqlValue → Bytes
  | .int value => intText value
  | .text content => 39 :: (escapeSqlString content ++ [39])
  | .fromUnixTime seconds => str "FROM_UNIXTIME" ++ 40 :: (intText seconds ++ [41])
  | .now => str "NOW" ++ [40, 41]

def listText (items : List Bytes) : Bytes :=
  [44, 32].intercalate items

def assignmentText (assignment : Bytes × SqlValue) : Bytes :=
  assignment.1 ++ 32 :: 61 :: 32 :: assignment.2.sqlText

/-- `INSERT INTO table (columns)`, then `gap`, then `VALUES (values)`. -/
def insertText (table : Bytes) (columns : List Bytes) (gap : Bytes) (values : List SqlValue) :
    Bytes :=
  str "INSERT" ++ 32 :: (str "INTO" ++ 32 :: (table ++ 32 :: 40 :: (listText columns ++
    41 :: (gap ++ (str "VALUES" ++ 32 :: 40 :: (listText (values.map SqlValue.sqlText) ++ [41]))))))

/-- `UPDATE table SET assignments WHERE key`. -/
def updateText (table : Bytes) (assignments : List (Bytes × SqlValue)) (key : Bytes × SqlValue) :
    Bytes :=
  str "UPDATE" ++ 32 :: (table ++ 32 :: (str "SET" ++ 32 ::
    (listText (assignments.map assignmentText) ++ 32 :: (str "WHERE" ++ 32 :: assignmentText key))))

/-! ### Its tokens -/

/-- The tokens of a number. -/
def intTokens (n : Int) : List Token :=
  if n < 0 then [.symbol 45, .word (decimalText n.natAbs)] else [.word (decimalText n.natAbs)]

def SqlValue.tokens : SqlValue → List Token
  | .int value => intTokens value
  | .text content => [.text content]
  | .fromUnixTime seconds =>
      [.word (str "FROM_UNIXTIME"), .symbol 40] ++ intTokens seconds ++ [.symbol 41]
  | .now => [.word (str "NOW"), .symbol 40, .symbol 41]

def listTokens (items : List (List Token)) : List Token :=
  [.symbol 44].intercalate items

def nameTokens (name : Bytes) : List Token :=
  [.word name]

def assignmentTokens (assignment : Bytes × SqlValue) : List Token :=
  .word assignment.1 :: .symbol 61 :: assignment.2.tokens

def SqlStatement.tokens : SqlStatement → List Token
  | .insert table columns values =>
      .word (str "INSERT") :: .word (str "INTO") :: .word table :: .symbol 40 ::
        (listTokens (columns.map nameTokens) ++ .symbol 41 :: .word (str "VALUES") :: .symbol 40 ::
          (listTokens (values.map SqlValue.tokens) ++ [.symbol 41]))
  | .update table assignments key =>
      .word (str "UPDATE") :: .word table :: .word (str "SET") ::
        (listTokens (assignments.map assignmentTokens) ++
          .word (str "WHERE") :: assignmentTokens key)

/-! ### The tokens of the text -/

def IsName (name : Bytes) : Prop :=
  name ≠ [] ∧ ∀ c ∈ name, Sql.isWordChar c = true

instance (name : Bytes) : Decidable (IsName name) :=
  inferInstanceAs (Decidable (_ ∧ _))

theorem IsName.fragment {name : Bytes} (isName : IsName name) :
    Fragment name [.word name] :=
  Fragment.word isName.1 isName.2

/-- The keywords and the two functions. -/
theorem isName_keywords :
    (IsName (str "INSERT") ∧ IsName (str "INTO") ∧ IsName (str "VALUES")) ∧
      (IsName (str "UPDATE") ∧ IsName (str "SET") ∧ IsName (str "WHERE")) ∧
      IsName (str "FROM_UNIXTIME") ∧ IsName (str "NOW") := by
  simp only [str_eq_bytes]
  decide +kernel

theorem isName_decimalText (n : Nat) : IsName (decimalText n) := by
  refine ⟨decimalText_ne_nil n, ?_⟩
  intro c member
  have digit := isDigit_decimalText n c member
  simp only [isDigit, decide_eq_true_eq] at digit
  simp only [Sql.isWordChar, decide_eq_true_eq]
  exact Or.inl digit

theorem fragment_intText (n : Int) : Fragment (intText n) (intTokens n) := by
  have digits := (isName_decimalText n.natAbs).fragment
  unfold intText intTokens
  split
  · exact digits.cons (by decide)
  · exact digits

theorem SqlValue.fragment (value : SqlValue) : Fragment value.sqlText value.tokens := by
  obtain ⟨-, -, fromUnixTime, now⟩ := isName_keywords
  cases value with
  | int value => exact fragment_intText value
  | text content => exact Fragment.quoted content
  | fromUnixTime seconds =>
      have argument := (fragment_intText seconds).append (c := 41) (by decide) Fragment.nil
      exact fromUnixTime.fragment.append (c := 40) (by decide) argument
  | now => exact now.fragment.append (c := 40) (by decide) (Fragment.nil.cons (c := 41) (by decide))

theorem fragment_assignment {assignment : Bytes × SqlValue} (isName : IsName assignment.1) :
    Fragment (assignmentText assignment) (assignmentTokens assignment) := by
  have value := assignment.2.fragment.cons (c := 32) (by decide)
  exact isName.fragment.append_blank (value.cons (c := 61) (by decide))

/-- The pieces of a list, one by one. -/
theorem fragment_list {α : Type} {items : List α} (text : α → Bytes) (tokens : α → List Token)
    (reads : ∀ item ∈ items, Fragment (text item) (tokens item)) :
    Fragment (listText (items.map text)) (listTokens (items.map tokens)) := by
  apply Fragment.separated
  rw [List.forall₂_map_left_iff, List.forall₂_map_right_iff, List.forall₂_same]
  exact reads

theorem fragment_gap {gap text : Bytes} {tokens : List Token}
    (blank : ∀ c ∈ gap, c = 32) (reads : Fragment text tokens) :
    Fragment (gap ++ text) tokens := by
  induction gap with
  | nil => exact reads
  | cons c rest inductionHypothesis =>
      have here : c = 32 := blank c List.mem_cons_self
      subst here
      exact (inductionHypothesis fun d member => blank d (List.mem_cons_of_mem _ member)).cons
        (c := 32) (by decide)

/-- An `INSERT` with any pieces as its values. -/
theorem fragment_insert {table : Bytes} {columns : List Bytes} {gap valuesText : Bytes}
    {valuesTokens : List Token} (tableName : IsName table)
    (columnNames : ∀ column ∈ columns, IsName column) (blank : ∀ c ∈ gap, c = 32)
    (valueList : Fragment valuesText valuesTokens) :
    Fragment (str "INSERT" ++ 32 :: (str "INTO" ++ 32 :: (table ++ 32 :: 40 :: (listText columns ++
        41 :: (gap ++ (str "VALUES" ++ 32 :: 40 :: (valuesText ++ [41])))))))
      (.word (str "INSERT") :: .word (str "INTO") :: .word table :: .symbol 40 ::
        (listTokens (columns.map nameTokens) ++ .symbol 41 :: .word (str "VALUES") :: .symbol 40 ::
          (valuesTokens ++ [.symbol 41]))) := by
  obtain ⟨⟨insert, into, valuesWord⟩, -⟩ := isName_keywords
  have columnList : Fragment (listText columns) (listTokens (columns.map nameTokens)) := by
    have named := fragment_list id nameTokens
      fun column member => (columnNames column member).fragment
    rwa [List.map_id] at named
  have closed := (valueList.append (c := 41) (by decide) Fragment.nil).cons (c := 40) (by decide)
  have second := (fragment_gap blank (valuesWord.fragment.append_blank closed))
  have first := (columnList.append (c := 41) (by decide) second).cons (c := 40) (by decide)
  exact insert.fragment.append_blank
    (into.fragment.append_blank (tableName.fragment.append_blank first))

theorem fragment_insertText {table : Bytes} {columns : List Bytes} {gap : Bytes}
    {values : List SqlValue} (tableName : IsName table)
    (columnNames : ∀ column ∈ columns, IsName column) (blank : ∀ c ∈ gap, c = 32) :
    Fragment (insertText table columns gap values)
      (SqlStatement.insert table columns values).tokens :=
  fragment_insert tableName columnNames blank
    (fragment_list SqlValue.sqlText SqlValue.tokens fun value _ => value.fragment)

theorem fragment_updateText {table : Bytes} {assignments : List (Bytes × SqlValue)}
    {key : Bytes × SqlValue} (tableName : IsName table)
    (columnNames : ∀ column ∈ assignments.map Prod.fst, IsName column) (keyName : IsName key.1) :
    Fragment (updateText table assignments key)
      (SqlStatement.update table assignments key).tokens := by
  obtain ⟨-, ⟨update, set, whereWord⟩, -⟩ := isName_keywords
  have assigned := fragment_list assignmentText assignmentTokens
    fun assignment member => fragment_assignment
      (columnNames assignment.1 (List.mem_map_of_mem member))
  have filtered := whereWord.fragment.append_blank (fragment_assignment keyName)
  exact update.fragment.append_blank (tableName.fragment.append_blank
    (set.fragment.append_blank (assigned.append_blank filtered)))

/-! ### The literals -/

/-- The values of a statement. -/
def SqlStatement.values : SqlStatement → List SqlValue
  | .insert _ _ values => values
  | .update _ assignments key => assignments.map Prod.snd ++ [key.2]

theorem text_mem_listTokens {content : Bytes} {lists : List (List Token)}
    (member : Token.text content ∈ listTokens lists) :
    ∃ tokens ∈ lists, Token.text content ∈ tokens := by
  unfold listTokens at member
  induction lists with
  | nil => cases member
  | cons first rest inductionHypothesis =>
      cases rest with
      | nil => exact ⟨first, List.mem_cons_self, by simpa using member⟩
      | cons next more =>
          rw [List.intercalate_cons_cons] at member
          simp only [List.mem_append, List.mem_singleton, reduceCtorEq, or_false] at member
          rcases member with here | later
          · exact ⟨first, List.mem_cons_self, here⟩
          · obtain ⟨tokens, isOther, held⟩ := inductionHypothesis later
            exact ⟨tokens, List.mem_cons_of_mem _ isOther, held⟩

theorem text_mem_intTokens {content : Bytes} {n : Int} : Token.text content ∉ intTokens n := by
  unfold intTokens
  split <;> simp

theorem SqlValue.text_mem_tokens {content : Bytes} {value : SqlValue}
    (member : Token.text content ∈ value.tokens) : value = .text content := by
  cases value with
  | int value => exact absurd member text_mem_intTokens
  | text other =>
      cases List.mem_singleton.mp member
      rfl
  | fromUnixTime seconds =>
      simp [SqlValue.tokens, text_mem_intTokens] at member
  | now => simp [SqlValue.tokens] at member

theorem text_mem_assignmentTokens {content : Bytes} {assignment : Bytes × SqlValue}
    (member : Token.text content ∈ assignmentTokens assignment) :
    assignment.2 = .text content := by
  simp only [assignmentTokens, List.mem_cons, reduceCtorEq, false_or] at member
  exact SqlValue.text_mem_tokens member

/-- Every literal of a statement is one of its values. -/
theorem SqlStatement.text_mem_tokens {content : Bytes} {statement : SqlStatement}
    (member : Token.text content ∈ statement.tokens) :
    SqlValue.text content ∈ statement.values := by
  cases statement with
  | insert table columns values =>
      simp only [SqlStatement.tokens, List.mem_cons, List.mem_append, reduceCtorEq, false_or,
        List.not_mem_nil, or_false] at member
      rcases member with inColumns | inValues
      · obtain ⟨tokens, isColumn, held⟩ := text_mem_listTokens inColumns
        obtain ⟨column, -, rfl⟩ := List.mem_map.mp isColumn
        simp [nameTokens] at held
      · obtain ⟨tokens, isValue, held⟩ := text_mem_listTokens inValues
        obtain ⟨value, inList, rfl⟩ := List.mem_map.mp isValue
        rw [← SqlValue.text_mem_tokens held]
        exact inList
  | update table assignments key =>
      simp only [SqlStatement.tokens, List.mem_cons, List.mem_append, reduceCtorEq,
        false_or] at member
      rcases member with inAssignments | inKey
      · obtain ⟨tokens, isAssignment, held⟩ := text_mem_listTokens inAssignments
        obtain ⟨assignment, inList, rfl⟩ := List.mem_map.mp isAssignment
        rw [← text_mem_assignmentTokens held]
        exact List.mem_append_left _ (List.mem_map_of_mem inList)
      · rw [← text_mem_assignmentTokens inKey]
        exact List.mem_append_right _ (List.mem_singleton_self _)

/-! ### What the tokens read as -/

section Read

theorem expect_append (head rest : List Token) : expect head (head ++ rest) = some rest := by
  rw [expect, if_pos (List.prefix_append _ _), List.drop_left]

theorem isNumeral_decimalText (n : Nat) : isNumeral (decimalText n) = true := by
  have digits : (decimalText n).all isDigit = true := List.all_eq_true.mpr (isDigit_decimalText n)
  simp [isNumeral, digits, decimalText_ne_nil]

theorem readNumber_intTokens (n : Int) (rest : List Token) :
    readNumber (intTokens n ++ rest) = some (n, rest) := by
  unfold intTokens
  split
  · have value : -((decimalValue (decimalText n.natAbs) : Nat) : Int) = n := by
      rw [decimalValue_decimalText]
      omega
    simp [readNumber, isNumeral_decimalText, value]
  · have value : ((decimalValue (decimalText n.natAbs) : Nat) : Int) = n := by
      rw [decimalValue_decimalText]
      omega
    simp [readNumber, isNumeral_decimalText, value]

/-- No opening bracket follows, which would make a word before it a function. -/
def NoBracket (rest : List Token) : Prop :=
  ∀ more, rest ≠ .symbol 40 :: more

/-- A number is no function call. -/
theorem readValue_int (n : Int) {rest : List Token} (noBracket : NoBracket rest) :
    readValue (intTokens n ++ rest) = some (.int n, rest) := by
  have number := readNumber_intTokens n rest
  have plain : readValue (intTokens n ++ rest) =
      (readNumber (intTokens n ++ rest)).map fun read => (.int read.1, read.2) := by
    unfold intTokens
    split
    · rfl
    · cases rest with
      | nil => rfl
      | cons token more =>
          cases token with
          | word letters => rfl
          | text content => rfl
          | symbol c =>
              have notBracket : c ≠ 40 := by
                intro isBracket
                exact noBracket more (isBracket ▸ rfl)
              simp [readValue, notBracket]
  rw [plain, number]
  rfl

theorem str_functions_ne : str "FROM_UNIXTIME" ≠ str "NOW" := by decide +kernel

theorem readValue_tokens (value : SqlValue) {rest : List Token} (noBracket : NoBracket rest) :
    readValue (value.tokens ++ rest) = some (value, rest) := by
  cases value with
  | int value => exact readValue_int value noBracket
  | text content => rfl
  | fromUnixTime seconds =>
      have number := readNumber_intTokens seconds (Token.symbol 41 :: rest)
      simp only [SqlValue.tokens, List.append_assoc, List.cons_append, List.nil_append, readValue]
      rw [if_neg str_functions_ne, if_pos trivial, number]
      rfl
  | now => simp only [SqlValue.tokens, List.cons_append, List.nil_append, readValue, if_true]

/-- `readItem` reads the tokens of every item up to what follows. -/
def ReadsItems {α : Type} (readItem : List Token → Option (α × List Token))
    (itemTokens : α → List Token) : Prop :=
  ∀ item {rest : List Token}, NoBracket rest →
    readItem (itemTokens item ++ rest) = some (item, rest)

theorem readsItems_name : ReadsItems readName nameTokens := by
  intro name rest noBracket
  rfl

theorem readsItems_value : ReadsItems readValue SqlValue.tokens := by
  intro value rest noBracket
  exact readValue_tokens value noBracket

theorem readsItems_assignment : ReadsItems readAssignment assignmentTokens := by
  intro assignment rest noBracket
  have equals := expect_append [.symbol 61] (assignment.2.tokens ++ rest)
  have value := readValue_tokens assignment.2 noBracket
  unfold readAssignment assignmentTokens
  simp only [List.cons_append, List.nil_append] at equals ⊢
  simp only [readName, Option.bind_eq_bind, Option.bind_some, equals, value]
  rfl

/-- What follows a list: neither a comma nor an opening bracket. -/
structure EndsList (rest : List Token) : Prop where
  nonempty : rest ≠ []
  noBracket : NoBracket rest
  noComma : ∀ more, rest ≠ .symbol 44 :: more

theorem endsList_word (letters : Bytes) (rest : List Token) :
    EndsList (.word letters :: rest) := by
  refine ⟨List.cons_ne_nil _ _, ?_, ?_⟩
  · intro more same
    cases same
  · intro more same
    cases same

theorem endsList_close (rest : List Token) : EndsList (.symbol 41 :: rest) := by
  refine ⟨List.cons_ne_nil _ _, ?_, ?_⟩
  · intro more same
    cases same
  · intro more same
    cases same

section Lists

variable {α : Type} {readItem : List Token → Option (α × List Token)} {item : α}
  {itemTokens : α → List Token} {items : List α} {tokens rest : List Token}

theorem readList_last (limit : Nat) (read : readItem tokens = some (item, rest))
    (ends : EndsList rest) : readList readItem (limit + 1) tokens = some ([item], rest) := by
  unfold readList
  rw [read]
  cases rest with
  | nil => rfl
  | cons token more =>
      cases token with
      | word letters => rfl
      | text content => rfl
      | symbol c =>
          have notComma : c ≠ 44 := by
            intro isComma
            exact ends.noComma more (isComma ▸ rfl)
          simp [notComma]

theorem readList_comma (limit : Nat) (read : readItem tokens = some (item, .symbol 44 :: rest)) :
    readList readItem (limit + 1) tokens =
      (readList readItem limit rest).map fun read => (item :: read.1, read.2) := by
  rw [readList, read]
  rfl

/-- The items of a list are read one by one up to what follows it. -/
theorem ReadsItems.list_within (reads : ReadsItems readItem itemTokens) {limit : Nat}
    (nonempty : items ≠ []) (enough : items.length ≤ limit) (ends : EndsList rest) :
    readList readItem limit (listTokens (items.map itemTokens) ++ rest) = some (items, rest) := by
  induction items generalizing limit with
  | nil => exact absurd rfl nonempty
  | cons item items inductionHypothesis =>
      rw [List.length_cons] at enough
      obtain ⟨fewer, rfl⟩ : ∃ fewer, limit = fewer + 1 := ⟨limit - 1, by omega⟩
      have fewerEnough : items.length ≤ fewer := by omega
      cases items with
      | nil =>
          have last : listTokens ([item].map itemTokens) ++ rest = itemTokens item ++ rest := by
            simp [listTokens]
          rw [last]
          exact readList_last fewer (reads item ends.noBracket) ends
      | cons next more =>
          have comma : listTokens ((item :: next :: more).map itemTokens) ++ rest =
              itemTokens item ++
                .symbol 44 :: (listTokens ((next :: more).map itemTokens) ++ rest) := by
            simp [listTokens]
          have followed : NoBracket
              (.symbol 44 :: (listTokens ((next :: more).map itemTokens) ++ rest)) := by
            intro after same
            cases same
          have others := inductionHypothesis (List.cons_ne_nil next more) fewerEnough
          rw [comma, readList_comma fewer (reads item followed), others]
          rfl

/-- There are no more items than tokens with what follows. -/
theorem length_le_listTokens (itemTokens : α → List Token) (items : List α) :
    items.length ≤ (listTokens (items.map itemTokens)).length + 1 := by
  unfold listTokens
  induction items with
  | nil => simp
  | cons item items inductionHypothesis =>
      cases items with
      | nil => simp
      | cons next more =>
          simp only [List.map_cons, List.length_cons] at inductionHypothesis ⊢
          rw [List.intercalate_cons_cons]
          simp only [List.length_append, List.length_cons, List.length_nil]
          omega

/-- A list is read with the number of its tokens for a limit. -/
theorem ReadsItems.list (reads : ReadsItems readItem itemTokens) (nonempty : items ≠ [])
    (ends : EndsList rest) :
    readList readItem (listTokens (items.map itemTokens) ++ rest).length
      (listTokens (items.map itemTokens) ++ rest) = some (items, rest) := by
  have fewItems := length_le_listTokens itemTokens items
  have someRest := List.length_pos_iff.mpr ends.nonempty
  apply reads.list_within nonempty _ ends
  rw [List.length_append]
  omega

end Lists

/-- The tokens of an `INSERT` read as that statement. -/
theorem readStatement_insert {table : Bytes} {columns : List Bytes} {values : List SqlValue}
    (nonempty : values ≠ []) (sameLength : columns.length = values.length) :
    readStatement (SqlStatement.insert table columns values).tokens =
      some (.insert table columns values) := by
  have someColumns : columns ≠ [] := by
    intro empty
    subst empty
    exact nonempty (List.length_eq_zero_iff.mp sameLength.symm)
  have head := expect_append [.word (str "INSERT"), .word (str "INTO")]
  have opening := expect_append [.symbol 40]
  have middle := expect_append [.symbol 41, .word (str "VALUES"), .symbol 40]
  simp only [List.cons_append, List.nil_append] at head opening middle
  have read : readInsert (SqlStatement.insert table columns values).tokens =
      some (.insert table columns values) := by
    unfold readInsert SqlStatement.tokens
    simp only [Option.bind_eq_bind, head, Option.bind_some, readName, opening]
    rw [readsItems_name.list someColumns (endsList_close _)]
    simp only [Option.bind_some, middle]
    rw [readsItems_value.list nonempty (endsList_close _)]
    simp [sameLength]
  rw [readStatement, read]
  rfl

/-- The tokens of an `UPDATE` read as that statement. -/
theorem readStatement_update {table : Bytes} {assignments : List (Bytes × SqlValue)}
    {key : Bytes × SqlValue} (nonempty : assignments ≠ []) :
    readStatement (SqlStatement.update table assignments key).tokens =
      some (.update table assignments key) := by
  have keyRead : readAssignment (assignmentTokens key) = some (key, []) := by
    have noBracket : NoBracket [] := by
      intro more same
      cases same
    have read := readsItems_assignment key noBracket
    rwa [List.append_nil] at read
  have head := expect_append [.word (str "UPDATE")]
  have set := expect_append [.word (str "SET")]
  have filter := expect_append [.word (str "WHERE")]
  simp only [List.cons_append, List.nil_append] at head set filter
  have read : readUpdate (SqlStatement.update table assignments key).tokens =
      some (.update table assignments key) := by
    unfold readUpdate SqlStatement.tokens
    simp only [Option.bind_eq_bind, head, Option.bind_some, readName, set]
    rw [readsItems_assignment.list nonempty (endsList_word _ _)]
    simp only [Option.bind_some, filter, keyRead]
    rfl
  have noInsert : readInsert (SqlStatement.update table assignments key).tokens = none := by
    have notInsert : ¬ [.word (str "INSERT"), .word (str "INTO")] <+:
        (SqlStatement.update table assignments key).tokens := by
      intro starts
      have same := (List.cons_prefix_cons.mp starts).1
      exact absurd same (by decide +kernel)
    unfold readInsert expect
    rw [if_neg notInsert]
    rfl
  rw [readStatement, noInsert, read]
  rfl

end Read

end AimServer
