import AimServer.Store.Schema

/-!
Contract: the schema check is exact.

Owns: the columns that are missing and those whose type differs, the statements
that are due, when these are the statements `CheckTable` issues, and the
statements it issues for the declared tables when they are up to date.

`CheckTable` compares the type that `desc` lists with the text of the column in a
statement, not with its short type.
-/

namespace AimServer

open Std (ExtTreeMap)

/-! ### The rows of `desc` -/

/-- No row lists the column. -/
def isMissing (rows : List DescRow) (column : Bytes × FieldInfo) : Bool :=
  rows.all fun row => row.name ≠ column.1

/-- A row lists the column with another type than this text of its field. -/
def differs (declared : FieldInfo → Bytes) (rows : List DescRow) (column : Bytes × FieldInfo) :
    Bool :=
  rows.any fun row => row.name = column.1 ∧ declared column.2 ≠ row.type

/-- After the loop, `rest` holds the columns that no row lists and `mapChange`
those that a row lists with another text. -/
structure HasRead (mapField : FieldMap) (rows : List DescRow) (check : SchemaCheck) : Prop where
  rest : ∀ name, check.rest[name]? =
    (mapField[name]?).filter fun field => isMissing rows (name, field)
  mapChange : ∀ name, check.mapChange[name]? =
    (mapField[name]?).filter fun field => differs FieldInfo.sType rows (name, field)

theorem isMissing_append (rows : List DescRow) (row : DescRow) (column : Bytes × FieldInfo) :
    isMissing (rows ++ [row]) column =
      (isMissing rows column && decide (row.name ≠ column.1)) := by
  rw [isMissing, isMissing, List.all_append, List.all_cons, List.all_nil, Bool.and_true]

theorem differs_append (declared : FieldInfo → Bytes) (rows : List DescRow) (row : DescRow)
    (column : Bytes × FieldInfo) :
    differs declared (rows ++ [row]) column =
      (differs declared rows column ||
        decide (row.name = column.1 ∧ declared column.2 ≠ row.type)) := by
  rw [differs, differs, List.any_append, List.any_cons, List.any_nil, Bool.or_false]

/-- A row of another name changes nothing for a column. -/
theorem filter_isMissing_of_ne {rows : List DescRow} {row : DescRow} {name : Bytes}
    (other : row.name ≠ name) (field : Option FieldInfo) :
    (field.filter fun field => isMissing (rows ++ [row]) (name, field)) =
      field.filter fun field => isMissing rows (name, field) := by
  cases field with
  | none => rfl
  | some field =>
      rw [Option.filter_some, Option.filter_some, isMissing_append]
      simp [other]

theorem filter_differs_of_ne {declared : FieldInfo → Bytes} {rows : List DescRow} {row : DescRow}
    {name : Bytes} (other : row.name ≠ name) (field : Option FieldInfo) :
    (field.filter fun field => differs declared (rows ++ [row]) (name, field)) =
      field.filter fun field => differs declared rows (name, field) := by
  cases field with
  | none => rfl
  | some field =>
      rw [Option.filter_some, Option.filter_some, differs_append]
      simp [other]

/-- A row of a column that is not declared. -/
theorem HasRead.undeclared {mapField : FieldMap} {rows : List DescRow} {check : SchemaCheck}
    (read : HasRead mapField rows check) {row : DescRow} (unknown : mapField[row.name]? = none) :
    HasRead mapField (rows ++ [row]) check := by
  constructor
  · intro name
    rw [read.rest name]
    by_cases same : row.name = name
    · rw [← same, unknown]
      rfl
    · rw [filter_isMissing_of_ne same]
  · intro name
    rw [read.mapChange name]
    by_cases same : row.name = name
    · rw [← same, unknown]
      rfl
    · rw [filter_differs_of_ne same]

/-- A change is listed under its column, whether or not an earlier row listed it. -/
theorem HasRead.insertChange {mapField : FieldMap} {rows : List DescRow} {check : SchemaCheck}
    (read : HasRead mapField rows check) {row : DescRow} {found : FieldInfo}
    (declared : mapField[row.name]? = some found) :
    (check.mapChange.insertIfNew row.name found)[row.name]? = some found := by
  have before := read.mapChange row.name
  rw [declared] at before
  simp only [ExtTreeMap.getElem?_insertIfNew, Std.compare_eq_iff_eq, true_and]
  split
  · rfl
  · rename_i isThere
    have isSome := ExtTreeMap.isSome_getElem?_iff_mem.mpr (not_not.mp isThere)
    rw [before, Option.filter_some] at isSome
    rw [before, Option.filter_some]
    split at isSome
    · rename_i holds
      rw [if_pos holds]
    · cases isSome

theorem HasRead.readRow {mapField : FieldMap} {rows : List DescRow} {check : SchemaCheck}
    (read : HasRead mapField rows check) (row : DescRow) :
    HasRead mapField (rows ++ [row]) (check.readRow mapField row) := by
  unfold SchemaCheck.readRow
  cases declared : mapField[row.name]? with
  | none => exact read.undeclared declared
  | some found =>
      dsimp only
      constructor
      · intro name
        simp only [ExtTreeMap.getElem?_erase, Std.compare_eq_iff_eq]
        by_cases same : row.name = name
        · rw [if_pos same, ← same, declared, Option.filter_some, isMissing_append]
          simp
        · rw [if_neg same, read.rest name, filter_isMissing_of_ne same]
      · intro name
        by_cases same : row.name = name
        · subst same
          by_cases other : found.sType = row.type
          · rw [if_neg (not_not.mpr other), read.mapChange, declared, Option.filter_some,
              Option.filter_some, differs_append]
            simp [other]
          · rw [if_pos other, read.insertChange declared, declared, Option.filter_some,
              differs_append]
            simp [other]
        · rw [filter_differs_of_ne same, ← read.mapChange name]
          split
          · simp only [ExtTreeMap.getElem?_insertIfNew, Std.compare_eq_iff_eq]
            rw [if_neg fun both => same both.1]
          · rfl

theorem hasRead_loop (mapField : FieldMap) (rows : List DescRow) :
    HasRead mapField rows ((QueryResult.ofRows rows).foldRows
      (SchemaCheck.readRow mapField) ⟨mapField, ∅⟩) := by
  rw [QueryResult.foldRows_ofRows]
  induction rows using List.reverseRecOn with
  | nil =>
      constructor
      · intro name
        show mapField[name]? = _
        cases mapField[name]? <;> rfl
      · intro name
        show (∅ : FieldMap)[name]? = _
        rw [ExtTreeMap.getElem?_empty]
        cases mapField[name]? <;> rfl
  | append_singleton rows row inductionHypothesis =>
      rw [List.foldl_append]
      exact inductionHypothesis.readRow row

/-- The entries of a part of a map are those of the map that are in it, in the
same order. -/
theorem toList_part {whole part : FieldMap} (keep : Bytes × FieldInfo → Bool)
    (isPart : ∀ name, part[name]? = (whole[name]?).filter fun field => keep (name, field)) :
    part.toList = whole.toList.filter keep := by
  have same : part = whole.filter fun name field => keep (name, field) := by
    apply ExtTreeMap.ext_getElem?
    intro name
    rw [isPart name, ExtTreeMap.getElem?_filter']
  rw [same, ExtTreeMap.toList_filter]

/-! ### The statements -/

namespace TableInfo

variable (info : TableInfo) (rows : List DescRow)

def missing : List (Bytes × FieldInfo) :=
  info.mapField.toList.filter (isMissing rows)

/-- The listed columns whose type is not this text, in the order of their names. -/
def changed (declared : FieldInfo → Bytes) : List (Bytes × FieldInfo) :=
  info.mapField.toList.filter (differs declared rows)

/-- One statement for each column that is missing and one for each whose type
differs. -/
def alters (declared : FieldInfo → Bytes) : List SchemaStmt :=
  (info.missing rows).map .addColumn ++ (info.changed rows declared).map .modifyColumn

/-- The statements of `CheckTable` on a table that exists. -/
def issued (granted : Nat → Bool) : List SchemaStmt :=
  (info.checkTable (some ⟨some rows, granted⟩)).2

end TableInfo

section Execute

variable {granted : Nat → Bool} (stmt : SchemaStmt) (rest : List SchemaStmt)

theorem executeAll_granted (first : granted 0 = true) :
    executeAll granted (stmt :: rest) =
      (executeAll (fun i => granted (i + 1)) rest).map id (stmt :: ·) := by
  rw [executeAll, if_pos first]

theorem executeAll_refused (first : granted 0 = false) :
    executeAll granted (stmt :: rest) = (false, [stmt]) := by
  rw [executeAll, first]
  rfl

end Execute

/-- Two lists of statements one after the other, the second only when no
statement of the first was refused. -/
theorem executeAll_append (granted : Nat → Bool) (first second : List SchemaStmt) :
    (executeAll granted (first ++ second)).2 =
      (if (executeAll granted first).1 then
        (executeAll (fun i => granted (i + (executeAll granted first).2.length)) second).map id
          ((executeAll granted first).2 ++ ·)
      else (false, (executeAll granted first).2)).2 := by
  induction first generalizing granted with
  | nil => rfl
  | cons stmt rest inductionHypothesis =>
      rw [List.cons_append]
      cases isGranted : granted 0 with
      | true =>
          rw [executeAll_granted _ _ isGranted, executeAll_granted _ _ isGranted]
          dsimp only [Prod.map, id]
          rw [inductionHypothesis]
          split <;> rfl
      | false =>
          rw [executeAll_refused _ _ isGranted, executeAll_refused _ _ isGranted]
          rfl

theorem issued_eq (info : TableInfo) (rows : List DescRow) (granted : Nat → Bool) :
    info.issued rows granted = (executeAll granted (info.alters rows FieldInfo.sType)).2 := by
  have read := hasRead_loop info.mapField rows
  have adds := toList_part (isMissing rows) read.rest
  have changes := toList_part (differs FieldInfo.sType rows) read.mapChange
  rw [TableInfo.alters, executeAll_append]
  unfold TableInfo.issued TableInfo.checkTable TableInfo.missing TableInfo.changed
  dsimp only
  rw [adds, changes]

theorem executeAll_issues_first (granted : Nat → Bool) (stmts : List SchemaStmt) :
    (executeAll granted stmts).2 <+: stmts := by
  induction stmts generalizing granted with
  | nil => exact List.prefix_refl _
  | cons stmt rest inductionHypothesis =>
      cases isGranted : granted 0 with
      | true =>
          rw [executeAll_granted _ _ isGranted]
          exact (List.prefix_cons_inj stmt).mpr (inductionHypothesis _)
      | false =>
          rw [executeAll_refused _ _ isGranted]
          exact ⟨rest, rfl⟩

/-- So many statements are issued when none of them but the last is refused, and
that one is unless it is the last of all. -/
theorem length_executeAll_iff (granted : Nat → Bool) (stmts : List SchemaStmt) (count : Nat) :
    (executeAll granted stmts).2.length = count ↔
      (∀ i, i + 1 < count → granted i = true) ∧
        (count = stmts.length ∨
          0 < count ∧ count < stmts.length ∧ granted (count - 1) = false) := by
  induction stmts generalizing granted count with
  | nil =>
      show 0 = count ↔ _
      simp only [List.length_nil, Nat.not_lt_zero, false_and, and_false, or_false]
      constructor
      · rintro rfl
        exact ⟨fun i less => absurd less (Nat.not_lt_zero _), rfl⟩
      · exact fun holds => holds.2.symm
  | cons stmt rest inductionHypothesis =>
      cases isGranted : granted 0 with
      | true =>
          rw [executeAll_granted _ _ isGranted]
          show (executeAll (fun i => granted (i + 1)) rest).2.length + 1 = count ↔ _
          cases count with
          | zero => simp
          | succ count =>
              rw [Nat.add_right_cancel_iff, inductionHypothesis, List.length_cons]
              have before : (∀ i, i + 1 < count → granted (i + 1) = true) ↔
                  ∀ i, i + 1 < count + 1 → granted i = true := by
                constructor
                · intro all i less
                  cases i with
                  | zero => exact isGranted
                  | succ i => exact all i (by omega)
                · intro all i less
                  exact all (i + 1) (by omega)
              rw [before, Nat.add_right_cancel_iff, Nat.add_lt_add_iff_right, Nat.add_sub_cancel]
              cases count with
              | zero => simp [isGranted]
              | succ count => simp
      | false =>
          rw [executeAll_refused _ _ isGranted]
          show 1 = count ↔ _
          constructor
          · rintro rfl
            refine ⟨fun i less => absurd less (by omega), ?_⟩
            cases rest with
            | nil => exact Or.inl rfl
            | cons second others => exact Or.inr ⟨by decide, by simp, isGranted⟩
          · rintro ⟨before, last⟩
            by_contra other
            rw [List.length_cons] at last
            have many : 0 + 1 < count := by omega
            rw [before 0 many] at isGranted
            cases isGranted

/-- Two parts of a map with the same entries are the same list. -/
theorem sublist_toList_eq {mapField : FieldMap} {first second : List (Bytes × FieldInfo)}
    (isFirst : first.Sublist mapField.toList) (isSecond : second.Sublist mapField.toList)
    (same : first.Perm second) : first = second := by
  have sorted := ExtTreeMap.ordered_keys_toList (t := mapField)
  refine same.eq_of_pairwise ?_ (sorted.sublist isFirst) (sorted.sublist isSecond)
  intro a b _ _ less greater
  have transitive := Std.TransCmp.lt_trans less greater
  have self : compare a.1 a.1 = .eq := Std.ReflCmp.compare_self
  rw [self] at transitive
  cases transitive

theorem modifyColumn_injective : Function.Injective SchemaStmt.modifyColumn := by
  intro first second same
  cases same
  rfl

/-- The statements issued are those that are due exactly when the columns whose
short type differs come first among the columns whose text differs, all due
statements but the last are granted, and no other column follows or the last due
statement is refused. -/
theorem checkTable_exact_iff (info : TableInfo) (rows : List DescRow) (granted : Nat → Bool) :
    (info.issued rows granted).Perm (info.alters rows FieldInfo.sDesc) ↔
      info.changed rows FieldInfo.sDesc <+: info.changed rows FieldInfo.sType ∧
      (∀ i, i + 1 < (info.alters rows FieldInfo.sDesc).length → granted i = true) ∧
      (info.changed rows FieldInfo.sDesc = info.changed rows FieldInfo.sType ∨
        0 < (info.alters rows FieldInfo.sDesc).length ∧
          granted ((info.alters rows FieldInfo.sDesc).length - 1) = false) := by
  have lengths := length_executeAll_iff granted (info.alters rows FieldInfo.sType)
    (info.alters rows FieldInfo.sDesc).length
  have isTake := List.prefix_iff_eq_take.mp
    (executeAll_issues_first granted (info.alters rows FieldInfo.sType))
  rw [← issued_eq] at lengths isTake
  have dueLength : (info.alters rows FieldInfo.sDesc).length =
      (info.missing rows).length + (info.changed rows FieldInfo.sDesc).length := by
    simp only [TableInfo.alters, List.length_append, List.length_map]
  have planLength : (info.alters rows FieldInfo.sType).length =
      (info.missing rows).length + (info.changed rows FieldInfo.sType).length := by
    simp only [TableInfo.alters, List.length_append, List.length_map]
  have cut : (info.issued rows granted).length = (info.alters rows FieldInfo.sDesc).length →
      info.issued rows granted = (info.missing rows).map SchemaStmt.addColumn ++
        ((info.changed rows FieldInfo.sType).take
          (info.changed rows FieldInfo.sDesc).length).map SchemaStmt.modifyColumn := by
    intro isLength
    have addLength : ((info.missing rows).map SchemaStmt.addColumn).length =
        (info.missing rows).length := List.length_map _
    rw [isTake, isLength, dueLength, TableInfo.alters, ← addLength, List.take_length_add_append,
      List.map_take]
  constructor
  · intro exact
    obtain ⟨before, last⟩ := lengths.mp exact.length_eq
    rw [cut exact.length_eq] at exact
    have sameColumns := (List.map_perm_map_iff modifyColumn_injective).mp
      ((List.perm_append_left_iff _).mp exact)
    have isPrefix : info.changed rows FieldInfo.sDesc <+: info.changed rows FieldInfo.sType := by
      rw [List.prefix_iff_eq_take]
      refine (sublist_toList_eq ?_ List.filter_sublist sameColumns).symm
      exact (List.take_sublist _ _).trans List.filter_sublist
    refine ⟨isPrefix, before, ?_⟩
    rcases last with all | ⟨positive, -, refused⟩
    · left
      apply isPrefix.eq_of_length
      omega
    · exact Or.inr ⟨positive, refused⟩
  · rintro ⟨isPrefix, before, last⟩
    have few := isPrefix.length_le
    have isLength : (info.issued rows granted).length =
        (info.alters rows FieldInfo.sDesc).length := by
      refine lengths.mpr ⟨before, ?_⟩
      rcases last with same | ⟨positive, refused⟩
      · left
        rw [dueLength, planLength, same]
      · by_cases all : (info.alters rows FieldInfo.sDesc).length =
            (info.alters rows FieldInfo.sType).length
        · exact Or.inl all
        · exact Or.inr ⟨positive, by omega, refused⟩
    rw [cut isLength, ← List.prefix_iff_eq_take.mp isPrefix]
    exact List.Perm.refl _

/-! ### Tables that are up to date -/

namespace TableInfo

/-- What `desc` lists when every declared column has its declared type. -/
def upToDate (info : TableInfo) : List DescRow :=
  info.mapField.toList.map fun column => ⟨column.1, column.2.sDesc⟩

variable {info : TableInfo}

/-- Nothing is due. -/
theorem alters_upToDate (info : TableInfo) :
    info.alters info.upToDate FieldInfo.sDesc = [] := by
  have noneMissing : info.missing info.upToDate = [] := by
    apply List.filter_eq_nil_iff.mpr
    intro column member missing
    have apart := List.all_eq_true.mp missing ⟨column.1, column.2.sDesc⟩
      (List.mem_map_of_mem member)
    exact absurd rfl (of_decide_eq_true apart)
  have noneChanged : info.changed info.upToDate FieldInfo.sDesc = [] := by
    apply List.filter_eq_nil_iff.mpr
    intro column member differ
    obtain ⟨row, isRow, other⟩ := List.any_eq_true.mp differ
    obtain ⟨listed, isListed, rfl⟩ := List.mem_map.mp isRow
    obtain ⟨sameName, otherType⟩ := of_decide_eq_true other
    have field := ExtTreeMap.mem_toList_iff_getElem?_eq_some.mp member
    have listedField := ExtTreeMap.mem_toList_iff_getElem?_eq_some.mp isListed
    dsimp only at sameName
    rw [sameName, field] at listedField
    exact otherType (congrArg FieldInfo.sDesc (Option.some.inj listedField))
  rw [alters, noneMissing, noneChanged]
  rfl

/-- Every column is modified whose text is more than its type. -/
theorem alters_upToDate_sType
    (texts : ∀ column ∈ info.mapField.toList, column.2.sType ≠ column.2.sDesc) :
    info.alters info.upToDate FieldInfo.sType = info.mapField.toList.map .modifyColumn := by
  have noneMissing : info.missing info.upToDate = [] := by
    have nothing := info.alters_upToDate
    rw [alters, List.append_eq_nil_iff] at nothing
    exact List.map_eq_nil_iff.mp nothing.1
  have allChanged : info.changed info.upToDate FieldInfo.sType = info.mapField.toList := by
    apply List.filter_eq_self.mpr
    intro column member
    apply List.any_eq_true.mpr
    exact ⟨⟨column.1, column.2.sDesc⟩, List.mem_map_of_mem member,
      decide_eq_true ⟨rfl, texts column member⟩⟩
  rw [alters, noneMissing, allChanged]
  rfl

end TableInfo

/-- The columns of a declared table are those it is declared with. -/
theorem mem_of_mem_tableInfo {name key : String} {fields : List (Bytes × FieldInfo)}
    {column : Bytes × FieldInfo} (member : column ∈ (tableInfo name fields key).mapField.toList) :
    column ∈ fields := by
  have field := ExtTreeMap.mem_toList_iff_getElem?_eq_some.mp member
  rw [tableInfo, ExtTreeMap.ofList_eq_insertMany_empty, ExtTreeMap.getElem?_insertMany_list,
    List.findSomeRev?_eq_findSome?_reverse] at field
  simp only [ExtTreeMap.getElem?_empty, Option.or_none] at field
  obtain ⟨entry, isEntry, isField⟩ := List.exists_of_findSome?_eq_some field
  split at isField
  · rename_i sameKey
    have same : entry = column :=
      Prod.ext (Std.LawfulEqCmp.eq_of_compare sameKey) (Option.some.inj isField)
    rw [← same]
    exact List.mem_reverse.mp isEntry
  · cases isField

/-- No declared column has its short type for a text. -/
theorem mapTable_texts : ∀ info ∈ MySqlManager.mapTable, ∀ column ∈ info.mapField.toList,
    column.2.sType ≠ column.2.sDesc := by
  have ofFields : ∀ {name key : String} {fields : List (Bytes × FieldInfo)},
      (∀ column ∈ fields, column.2.sType ≠ column.2.sDesc) →
        ∀ column ∈ (tableInfo name fields key).mapField.toList, column.2.sType ≠ column.2.sDesc :=
    fun texts column member => texts column (mem_of_mem_tableInfo member)
  intro info isTable
  simp only [MySqlManager.mapTable, List.mem_cons, List.not_mem_nil, or_false] at isTable
  rcases isTable with rfl | rfl | rfl | rfl | rfl | rfl
  all_goals
    apply ofFields
    simp [fieldInfo, str_injective.eq_iff]

theorem executeAll_all (stmts : List SchemaStmt) :
    (executeAll (fun _ => true) stmts).2 = stmts := by
  induction stmts with
  | nil => rfl
  | cons stmt rest inductionHypothesis =>
      rw [executeAll_granted _ _ rfl]
      show stmt :: (executeAll (fun _ => true) rest).2 = _
      rw [inductionHypothesis]

/-- At every start each column of each table is modified. -/
theorem mapTable_modified {info : TableInfo} (isTable : info ∈ MySqlManager.mapTable) :
    info.issued info.upToDate (fun _ => true) = info.mapField.toList.map .modifyColumn := by
  rw [issued_eq, executeAll_all, TableInfo.alters_upToDate_sType (mapTable_texts info isTable)]

/-- A table that is up to date gets a `MODIFY` for each of its four columns. -/
theorem checkTable_needless :
    ¬ ∀ (info : TableInfo) (rows : List DescRow) (granted : Nat → Bool),
      (info.issued rows granted).Perm (info.alters rows FieldInfo.sDesc) := by
  intro exact
  have lengths := (exact MySqlManager.groupAdmin MySqlManager.groupAdmin.upToDate
    fun _ => true).length_eq
  have isTable : MySqlManager.groupAdmin ∈ MySqlManager.mapTable := by
    simp [MySqlManager.mapTable]
  have four : MySqlManager.groupAdmin.mapField.toList.length = 4 := by decide +kernel
  rw [mapTable_modified isTable, TableInfo.alters_upToDate, List.length_map, four] at lengths
  cases lengths

example : MySqlManager.groupAdmin.text
    (.modifyColumn (fieldInfo "f_user_id" "bigint(20) NOT NULL" "bigint(20)")) =
      str "alter table t_group_admin modify column f_user_id bigint(20) NOT NULL;" := by
  decide +kernel

end AimServer
