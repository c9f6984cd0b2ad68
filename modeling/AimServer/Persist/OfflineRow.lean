import AimServer.Persist.WriteCalls
import AimServer.Store.OfflineQueue
import AimServer.Lib.Hex

/-!
Contract: the way of an offline container through the database, as text.

Owns: the `INSERT` of `InsertOfflineMsg` with its `X'..'` literal, how MySQL
reads it, the field a row of `SELECT HEX(f_content)` arrives in, the blob
`FromHex` makes of it, and that both ends agree with the statements of
`MsgCacheManager`.

Does not own: what the blob is. MySQL stores the bytes of the literal and
`HEX` writes them with upper-case digits. A blank between the `X` and the quote,
which MySQL would not accept, is not seen.
-/

namespace AimServer

open AimServer.Lib
open AimServer.Lib.Sql (Token Fragment)

/-! ### The program's digits -/

theorem hexDigits_eq (value : Fin 16) :
    (str "0123456789ABCDEF").getD value.val 0 = Hex.digit value := by
  rw [str_eq_bytes]
  revert value
  decide +kernel

/-- `ToHex` writes upper-case digit pairs. -/
theorem toHex_eq_encode (data : Bytes) : toHex data = Hex.encode data := by
  refine List.flatMap_congr ?_
  intro byte _
  have highNibble : (byte >>> (4 : UInt8)).toNat = (Hex.high byte).val := by
    have small := byte.toNat_lt
    show (byte >>> (4 : UInt8)).toNat = byte.toNat / 16 % 16
    rw [UInt8.toNat_shiftRight]
    show byte.toNat >>> 4 = byte.toNat / 16 % 16
    rw [Nat.shiftRight_eq_div_pow]
    omega
  have lowNibble : (byte &&& (0x0F : UInt8)).toNat = (Hex.low byte).val := by
    show (byte &&& (0x0F : UInt8)).toNat = byte.toNat % 16
    rw [UInt8.toNat_and]
    exact Nat.and_two_pow_sub_one_eq_mod byte.toNat 4
  rw [highNibble, lowNibble, hexDigits_eq, hexDigits_eq]

theorem hexVal_of_digitValue {c : UInt8} {value : Fin 16}
    (isValue : Hex.digitValue c = some value) :
    (hexVal c).toNat = value.val := by
  have all : ∀ bits : Fin 256, ∀ value : Fin 16,
      Hex.digitValue (UInt8.ofFin bits) = some value →
        (hexVal (UInt8.ofFin bits)).toNat = value.val := by decide +kernel
  exact all c.toFin value isValue

private theorem shift_or_eq_join :
    ∀ first second : Fin 16, (UInt8.ofNat first.val <<< 4) ||| UInt8.ofNat second.val =
      Hex.join first second := by decide +kernel

/-- `FromHex` reads whole pairs of digits as they are meant. -/
theorem fromHex_of_decode {text data : Bytes} (read : Hex.decode text = some data) :
    fromHex text = data := by
  induction text using Hex.decode.induct generalizing data with
  | case1 =>
      cases read
      rfl
  | case2 single => cases read
  | case3 first second rest inductionHypothesis =>
      obtain ⟨firstValue, isFirst, read⟩ := Option.bind_eq_some_iff.mp read
      obtain ⟨secondValue, isSecond, read⟩ := Option.bind_eq_some_iff.mp read
      obtain ⟨others, readRest, same⟩ := Option.map_eq_some_iff.mp read
      cases same
      have firstByte : hexVal first = UInt8.ofNat firstValue.val := by
        rw [← hexVal_of_digitValue isFirst, UInt8.ofNat_toNat]
      have secondByte : hexVal second = UInt8.ofNat secondValue.val := by
        rw [← hexVal_of_digitValue isSecond, UInt8.ofNat_toNat]
      rw [fromHex, inductionHypothesis readRest, firstByte, secondByte, shift_or_eq_join]

/-- Upper-case text of whole pairs is what its bytes are written as. -/
theorem toHex_fromHex {text : Bytes} (even : Even text.length)
    (upper : ∀ c ∈ text, Hex.IsUpperDigit c) : toHex (fromHex text) = text := by
  obtain ⟨data, read⟩ := Hex.decode_isSome even upper
  rw [fromHex_of_decode read, toHex_eq_encode]
  exact Hex.encode_of_decode read upper

/-! ### The statement -/

/-- The text `InsertOfflineMsg` executes. -/
def insertOfflineMsgSql (userid msgtype : Int) (blob : Bytes) : Bytes :=
  str "INSERT INTO t_offline_msg (f_userid, f_msgtype, f_content) VALUES (" ++
    (intText userid ++ (str ", " ++ (intText msgtype ++ (str ", X'" ++ (toHex blob ++ str "')")))))

def offlineMsgColumns : List String := ["f_userid", "f_msgtype", "f_content"]

/-- `INSERT INTO t_offline_msg (..) VALUES (`. -/
def offlineMsgHeadTokens : List Token :=
  .word (str "INSERT") :: .word (str "INTO") :: .word (str "t_offline_msg") :: .symbol 40 ::
    (listTokens ((offlineMsgColumns.map str).map nameTokens) ++
      [.symbol 41, .word (str "VALUES"), .symbol 40])

/-- `X'..'`: digit pairs in either letter case. -/
def readHexLiteral : List Token → Option (Bytes × List Token)
  | .word [88] :: .text digits :: rest => (Hex.decode digits).map fun content => (content, rest)
  | _ => none

def readInsertOfflineMsg (tokens : List Token) : Option OfflineMsgRow := do
  let rest ← expect offlineMsgHeadTokens tokens
  let (userid, rest) ← readNumber rest
  let rest ← expect [.symbol 44] rest
  let (msgtype, rest) ← readNumber rest
  let rest ← expect [.symbol 44] rest
  let (content, rest) ← readHexLiteral rest
  if rest = [.symbol 41] then some ⟨userid, msgtype, content⟩ else none

/-- The row `mysql_query` inserts for a text, read up to its first NUL. -/
def offlineRowOfSql (sql : Bytes) : Option OfflineMsgRow :=
  (Sql.scan (cStr sql)).bind readInsertOfflineMsg

/-- The tokens of the three values. -/
def offlineMsgValueTokens (userid msgtype : Int) (blob : Bytes) : List (List Token) :=
  [intTokens userid, intTokens msgtype, [.word [88], .text (toHex blob)]]

theorem isWordChar_of_isUpper {c : UInt8} (isUpper : Hex.IsUpperDigit c) :
    Sql.isWordChar c = true := by
  rw [Sql.isWordChar, decide_eq_true_iff]
  rcases isUpper with isDigit | isLetter
  · exact Or.inl isDigit
  · exact Or.inr (Or.inl ⟨isLetter.1, UInt8.le_trans isLetter.2 (by decide)⟩)

theorem fragment_hexLiteral (blob : Bytes) :
    Fragment ([88] ++ 39 :: (toHex blob ++ [39])) [.word [88], .text (toHex blob)] := by
  have letter : ∀ c ∈ ([88] : Bytes), Sql.isWordChar c = true := by
    intro c member
    rw [List.mem_singleton.mp member]
    rfl
  refine Fragment.word_quoted (List.cons_ne_nil _ _) letter ?_
  intro c member
  rw [toHex_eq_encode] at member
  exact isWordChar_of_isUpper (Hex.encode_isUpper member)

/-- The text stands for these tokens. -/
theorem fragment_insertOfflineMsgSql (userid msgtype : Int) (blob : Bytes) :
    Fragment (insertOfflineMsgSql userid msgtype blob) (offlineMsgHeadTokens ++
      (listTokens (offlineMsgValueTokens userid msgtype blob) ++ [.symbol 41])) := by
  have names : IsName (str "t_offline_msg") ∧
      ∀ column ∈ offlineMsgColumns.map str, IsName column := by
    simp only [offlineMsgColumns, List.map, str_eq_bytes]
    decide +kernel
  have values : Fragment (listText [intText userid, intText msgtype,
      [88] ++ 39 :: (toHex blob ++ [39])])
      (listTokens (offlineMsgValueTokens userid msgtype blob)) := by
    apply Fragment.separated
    exact .cons (fragment_intText userid) (.cons (fragment_intText msgtype)
      (.cons (fragment_hexLiteral blob) .nil))
  have oneBlank : ∀ c ∈ [(32 : UInt8)], c = 32 := by simp
  have text : insertOfflineMsgSql userid msgtype blob =
      insertHead (str "t_offline_msg") (offlineMsgColumns.map str) [32] ++
        (listText [intText userid, intText msgtype, [88] ++ 39 :: (toHex blob ++ [39])] ++
          [41]) := by
    have head : str "INSERT INTO t_offline_msg (f_userid, f_msgtype, f_content) VALUES (" =
        insertHead (str "t_offline_msg") (offlineMsgColumns.map str) [32] := by
      simp only [insertHead, offlineMsgColumns, List.map, str_eq_bytes]
      rfl
    have ends : str ", X'" = [44, 32, 88, 39] ∧ str "')" = [39, 41] := by
      simp only [str_eq_bytes]
      exact ⟨rfl, rfl⟩
    unfold insertOfflineMsgSql
    rw [head, str_separator, ends.1, ends.2]
    simp [listText]
  rw [text]
  simpa [insertHead, offlineMsgHeadTokens] using
    fragment_insert names.1 names.2 oneBlank values

/-- The only literal in it is the hexadecimal one. -/
theorem text_mem_offlineMsgTokens {userid msgtype : Int} {blob content : Bytes}
    (member : Token.text content ∈ offlineMsgHeadTokens ++
      (listTokens (offlineMsgValueTokens userid msgtype blob) ++ [.symbol 41])) :
    content = toHex blob := by
  rcases List.mem_append.mp member with inHead | inValues
  · simp only [offlineMsgHeadTokens, List.mem_cons, List.mem_append, reduceCtorEq, false_or,
      List.not_mem_nil, or_false] at inHead
    obtain ⟨tokens, isColumn, held⟩ := text_mem_listTokens inHead
    obtain ⟨column, -, rfl⟩ := List.mem_map.mp isColumn
    simp [nameTokens] at held
  · have inList : Token.text content ∈
        listTokens (offlineMsgValueTokens userid msgtype blob) := by simpa using inValues
    obtain ⟨tokens, isValue, held⟩ := text_mem_listTokens inList
    simp only [offlineMsgValueTokens, List.mem_cons, List.not_mem_nil, or_false] at isValue
    rcases isValue with rfl | rfl | rfl
    · exact absurd held text_mem_intTokens
    · exact absurd held text_mem_intTokens
    · simpa using held

/-- MySQL reads the row with the blob itself. -/
theorem offlineRowOfSql_insert (userid msgtype : Int) (blob : Bytes) :
    offlineRowOfSql (insertOfflineMsgSql userid msgtype blob) =
      some ⟨userid, msgtype, blob⟩ := by
  have fragment := fragment_insertOfflineMsgSql userid msgtype blob
  have nulFree : 0 ∉ insertOfflineMsgSql userid msgtype blob := by
    intro nul
    obtain ⟨content, isToken, held⟩ := fragment.nul nul
    rw [text_mem_offlineMsgTokens isToken, toHex_eq_encode] at held
    exact absurd (Hex.encode_isUpper held) (by decide)
  have scanned : Sql.scan (cStr (insertOfflineMsgSql userid msgtype blob)) = _ :=
    fragment.scan_cStr
  have values : listTokens (offlineMsgValueTokens userid msgtype blob) ++ [.symbol 41] =
      intTokens userid ++ ([.symbol 44] ++ (intTokens msgtype ++ ([.symbol 44] ++
        [.word [88], .text (toHex blob), .symbol 41]))) := by
    simp [listTokens, offlineMsgValueTokens]
  have literal : readHexLiteral [.word [88], .text (toHex blob), .symbol 41] =
      some (blob, [.symbol 41]) := by
    rw [readHexLiteral, toHex_eq_encode, Hex.decode_encode]
    rfl
  rw [offlineRowOfSql, scanned, if_neg nulFree, Option.bind_some, values, readInsertOfflineMsg]
  simp only [expect_append, readNumber_intTokens, literal, Option.bind_eq_bind, Option.bind_some,
    if_true]

/-! ### The column -/

/-- `Field`: a value that is absent or empty counts as NULL and reads as the
empty string. -/
structure Field where
  value : Bytes
  isnull : Bool
deriving DecidableEq, Repr

/-- `SetValue`. -/
def Field.setValue : Option Bytes → Field
  | none => ⟨[], true⟩
  | some value => if value = [] then ⟨[], true⟩ else ⟨value, false⟩

def Field.getString (field : Field) : Bytes := field.value

/-- `SELECT HEX(f_content)` as the row cursor holds it. -/
def OfflineMsgRow.hexField (row : OfflineMsgRow) : Field :=
  .setValue (some (Hex.encode row.content))

/-- The blob `FetchAndDeleteOfflineMsg` hands on for a row. -/
def OfflineMsgRow.fetched (row : OfflineMsgRow) : Bytes :=
  fromHex row.hexField.getString

theorem Field.getString_setValue (value : Bytes) :
    (Field.setValue (some value)).getString = value := by
  by_cases empty : value = []
  · rw [empty]
    rfl
  · rw [setValue, if_neg empty]
    rfl

/-- The blob is what the row holds. -/
theorem OfflineMsgRow.fetched_eq (row : OfflineMsgRow) : row.fetched = row.content := by
  rw [fetched, hexField, Field.getString_setValue]
  exact fromHex_of_decode (Hex.decode_encode row.content)

/-! ### The store model -/

namespace Store

variable {kind : OfflineKind} {userid : Int} {blob : Bytes} {row : OfflineMsgRow} {s : Store}

/-- `InsertOfflineMsg` executes what MySQL reads of its text. -/
theorem insertOfflineMsg_of_sql
    (read : offlineRowOfSql (insertOfflineMsgSql userid kind.code blob) = some row) (s : Store) :
    s.insertOfflineMsg kind userid blob = s.execute (.insertOfflineMsg row) := by
  rw [offlineRowOfSql_insert] at read
  rw [← Option.some.inj read]
  exact insertOfflineMsg_eq kind userid blob s

/-- The fetch hands on what the fields of its rows are decoded to. -/
theorem fetchAndDeleteOfflineMsg_fetched (granted : s.db.outcomes 0 = true) :
    (s.fetchAndDeleteOfflineMsg kind userid).1 =
      (offlineRows kind userid s.db.tables).map OfflineMsgRow.fetched := by
  rw [fetchAndDeleteOfflineMsg_fst, if_pos granted]
  exact List.map_congr_left fun row _ => row.fetched_eq.symm

end Store

end AimServer
