import Ormpp.Sql.Conjunction
import Ormpp.Statement.Query
import Ormpp.Store.Insert

/-!
# Conditions as SQLite reads them

The texts of a deletion and of a query with the condition that the caller has given. The query puts
it behind `1=1 and`, whatever it is, and says by that of every row what the condition says.
-/

namespace Ormpp

open Sql hiding isBlank

/-- `generate_delete_sql`, with the condition if one is given. -/
def generateDeleteSql (tableName : Bytes) (whereConditon : Option Bytes) : Bytes :=
  let sql := appendArgs (ascii "delete from ") [tableName]
  match whereConditon with
  | some c => if c ≠ [] then appendArgs sql [ascii "where", c] else sql
  | none => sql

/-- The text is nothing but an expression, whether or not it can be read. -/
def IsCondition (c : Bytes) : Prop := (clauses (parts 0 (statementTokens c))).2 = []

instance (c : Bytes) : Decidable (IsCondition c) :=
  decidable_of_iff ((clauses (parts 0 (statementTokens c))).2.isEmpty = true) List.isEmpty_iff

/-- The tokens of a condition. -/
def conditionTokens (c : Bytes) : List Token := (clauses (parts 0 (statementTokens c))).1

theorem parts_of_isCondition {c : Bytes} (h : IsCondition c) :
    parts 0 (statementTokens c) = (conditionTokens c).map .token := eq_map_of_clauses h

theorem readCondition_of_isCondition {c : Bytes} (h : IsCondition c) :
    readCondition c = parseTokens (conditionTokens c) := by
  rw [readCondition, parts_of_isCondition h, clauses_map]

/-! ## Deletions -/

section Delete

variable (T : StoredClass)

theorem readsAs_delete :
    ReadsAs (ascii "delete from " ++ T.table ++ ascii " ")
      [.word (ascii "delete"), .word (ascii "from"), .word T.table] := by
  have hdelete : ReadsAs (ascii "delete from ") [.word (ascii "delete"), .word (ascii "from")] :=
    ⟨by decide, rfl, by decide, by decide⟩
  have hblank : ReadsAs (ascii " ") [] := ⟨by decide, rfl, by decide, by decide⟩
  have h := hdelete.append (readsAs_name T.structName.name hblank rfl)
  rw [List.append_assoc]
  exact h

theorem parts_delete (ts : List RawToken) :
    parts 0 ([.word (ascii "delete"), .word (ascii "from"), .word T.table] ++ ts)
      = .reserved .delete :: .reserved .from :: .token (.name T.table) :: parts 0 ts := by
  have hdelete : (RawToken.word (ascii "delete")).part = .reserved .delete := by decide
  have hfrom : (RawToken.word (ascii "from")).part = .reserved .from := by decide
  rw [parts_append_of_notMem (by simp [placeholder])]
  simp only [List.map_cons, List.map_nil, hdelete, hfrom, part_of_readsAsName T.readsTable,
    List.cons_append, List.nil_append]

theorem generateDeleteSql_condition {c : Bytes} (h : c ≠ []) :
    generateDeleteSql T.table (some c)
      = ascii "delete from " ++ T.table ++ ascii " " ++ (ascii "where " ++ (c ++ [blank])) := by
  rw [generateDeleteSql, if_pos h]
  simp [appendArgs, ascii, blank]

theorem statementTokens_delete (c : Bytes) :
    statementTokens (generateDeleteSql T.table (some c))
      = [.word (ascii "delete"), .word (ascii "from"), .word T.table]
        ++ if c = [] then [] else .word (ascii "where") :: statementTokens c := by
  have hwhere : ReadsAs (ascii "where ") [.word (ascii "where")] :=
    ⟨by decide, rfl, by decide, by decide⟩
  split_ifs with h
  · have htext : generateDeleteSql T.table (some c)
        = ascii "delete from " ++ T.table ++ ascii " " := by
      rw [generateDeleteSql, if_neg (not_not_intro h)]
      simp [appendArgs]
    rw [htext, (readsAs_delete T).statementTokens_eq, List.append_nil]
  · rw [generateDeleteSql_condition T h, (readsAs_delete T).statementTokens_append,
      hwhere.statementTokens_append, statementTokens_blank]
    rfl

/-- **The deletion as SQLite reads it.** Its condition is the one that is given. -/
theorem readStatement_generateDeleteSql (c : Bytes) :
    readStatement (generateDeleteSql T.table (some c))
      = if c = [] then some (.delete T.table none)
        else (readCondition c).map fun e ↦ .delete T.table (some e) := by
  have hwhere : (RawToken.word (ascii "where")).part = .reserved .where := by decide
  rw [readStatement, statementTokens_delete, parts_delete]
  split_ifs with h
  · rfl
  · have hword : parts 0 (.word (ascii "where") :: statementTokens c)
        = .reserved .where :: parts 0 (statementTokens c) := by
      rw [parts, if_neg (by simp [placeholder]), hwhere]
    rw [hword, readCondition, readParts_reserved (by decide), clauses, clauses, clauses, clauses]
    simp only [Statement.readClauses, Statement.readDelete, Statement.whereClause]
    rcases clauses (parts 0 (statementTokens c)) with ⟨ts, _ | ⟨clause, more⟩⟩
    · dsimp only
      rcases parseTokens ts <;> rfl
    · dsimp only
      rcases parseTokens ts <;> rfl

theorem parameterCount_generateDeleteSql (c : Bytes) :
    parameterCount (generateDeleteSql T.table (some c)) = parameterCount c := by
  have hfront : [RawToken.word (ascii "delete"), .word (ascii "from"), .word T.table].count
      placeholder = 0 := List.count_eq_zero_of_not_mem (by simp [placeholder])
  rw [parameterCount, statementTokens_delete, List.count_append, hfront, Nat.zero_add]
  split_ifs with h
  · rw [h]
    rfl
  · rw [List.count_cons_of_ne (by simp [placeholder])]
    rfl

end Delete

/-! ## Queries -/

/-- The class by the names of its table and its columns. -/
def DiscreteClass.named (T : DiscreteClass) : NamedClass where
  tableName := T.table
  columns := T.indices.map T.column
  columns_ne_nil := by
    rw [T.map_column]
    exact List.map_eq_nil_iff.not.mpr T.aliased.entity.fields_ne_nil

section Query

variable (T : StoredClass)

theorem indices_ne_nil : T.indices ≠ [] := List.map_eq_nil_iff.not.mp T.named.columns_ne_nil

/-- The tokens in front of the condition. -/
def selectTokens : List RawToken :=
  [.word (ascii "select")]
    ++ ([RawToken.symbol .comma].intercalate
      (T.indices.map fun i ↦ [RawToken.word (T.column i)])
    ++ [.word (ascii "from")] ++ [.word T.table])

theorem readsAs_select :
    ReadsAs (selectFront T.named .sqlite ++ ascii " ") (selectTokens T) := by
  have hselect : ReadsAs (ascii "select ") [.word (ascii "select")] :=
    ⟨by decide, rfl, by decide, by decide⟩
  have hcomma : ReadsAs (ascii ",") [.symbol .comma] := ⟨by decide, rfl, by decide, by decide⟩
  have hfrom : ReadsAs (ascii "  from ") [.word (ascii "from")] :=
    ⟨by decide, rfl, by decide, by decide⟩
  have hblank : ReadsAs (ascii " ") [] := ⟨by decide, rfl, by decide, by decide⟩
  have hquote : quoteName .sqlite = id := by
    funext name
    exact if_neg nofun
  have hcolumns : ReadsAs
      ((ascii ",").intercalate (T.indices.map T.column) ++ ascii "  from ")
      ([RawToken.symbol .comma].intercalate (T.indices.map fun i ↦ [RawToken.word (T.column i)])
        ++ [.word (ascii "from")]) :=
    readsAs_intercalate (indices_ne_nil T)
      (fun i _ ↦ readsAs_name (T.member i).column hcomma rfl)
      fun i _ ↦ readsAs_name (T.member i).column hfrom rfl
  have htable : ReadsAs (T.table ++ ascii " ") [.word T.table] :=
    readsAs_name T.structName.name hblank rfl
  have hall := hselect.append (hcolumns.append htable)
  rw [selectFront, hquote, List.map_id, selectTokens]
  simp only [List.append_assoc] at hall ⊢
  exact hall

/-- The tokens of the columns that are selected. -/
def itemTokens : List Token :=
  [Token.symbol .comma].intercalate (T.indices.map fun i ↦ [Token.name (T.column i)])

theorem parts_selectTokens (ts : List RawToken) :
    parts 0 (selectTokens T ++ ts)
      = .reserved .select :: ((itemTokens T).map .token ++ .reserved .from ::
          .token (.name T.table) :: parts 0 ts) := by
  have hselect : (RawToken.word (ascii "select")).part = .reserved .select := by decide
  have hfrom : (RawToken.word (ascii "from")).part = .reserved .from := by decide
  have hcolumns : ([RawToken.symbol .comma].intercalate
        (T.indices.map fun i ↦ [RawToken.word (T.column i)])).map RawToken.part
      = (itemTokens T).map .token := by
    rw [itemTokens, map_intercalate, map_intercalate, List.map_map, List.map_map]
    congr 1
    refine List.map_congr_left fun i _ ↦ ?_
    exact congrArg (fun p ↦ [p]) (part_of_readsAsName (T.readsAsName_column i))
  have hnames : placeholder ∉ [RawToken.symbol .comma].intercalate
      (T.indices.map fun i ↦ [RawToken.word (T.column i)]) := by
    apply notMem_intercalate (by decide)
    intro item hitem
    obtain ⟨i, -, rfl⟩ := List.mem_map.mp hitem
    simp [placeholder]
  rw [selectTokens, List.append_assoc, List.append_assoc, List.append_assoc,
    parts_append_of_notMem (by simp [placeholder]), parts_append_of_notMem hnames,
    parts_append_of_notMem (by simp [placeholder]), parts_append_of_notMem (by simp [placeholder]),
    hcolumns]
  simp only [List.map_cons, List.map_nil, hselect, hfrom, part_of_readsAsName T.readsTable,
    List.cons_append, List.nil_append]

/-- The rows of the class that fulfil a condition. -/
def selection (condition : Option Expr) : Selection where
  columns := T.indices.map fun i ↦ (none, T.column i)
  table := T.table
  condition := condition
  order := []
  limit := none
  offset := none

theorem whole_itemTokens :
    Statement.whole Statement.columnName (itemTokens T)
      = some (T.indices.map fun i ↦ (none, T.column i)) := by
  have hlength : T.indices.length ≤ (itemTokens T).length := by
    have hitems := length_le_intercalate [Token.symbol .comma]
      (T.indices.map fun i ↦ [Token.name (T.column i)]) (by simp)
    rwa [List.length_map] at hitems
  have hlist : commaList (Token.symbol .comma) Statement.columnName (itemTokens T).length
      (itemTokens T ++ []) = some (T.indices.map fun i ↦ (none, T.column i), []) :=
    commaList_intercalate (by decide) (indices_ne_nil T) (fun _ _ _ ↦ rfl) (fun _ _ ↦ rfl) hlength
  rw [List.append_nil] at hlist
  rw [Statement.whole, hlist]

theorem readParts_select {ps : List Part} (h : (clauses ps).1 = []) :
    readParts (.reserved .select :: ((itemTokens T).map .token ++ .reserved .from ::
        .token (.name T.table) :: ps))
      = Statement.readSelect (itemTokens T) T.table (clauses ps).2 := by
  rw [readParts_reserved (by decide), clauses, clauses_append, clauses, clauses, List.append_nil, h]
  rfl

/-- What the query puts in front of the condition. -/
def whereTokens : List RawToken :=
  [.word (ascii "where"), .word (ascii "1"), .symbol (.compare .eq), .word (ascii "1"),
    .word (ascii "and")]

theorem parts_whereTokens (ts : List RawToken) :
    parts 0 (whereTokens ++ ts)
      = .reserved .where :: (Parser.oneIsOneAnd.map .token ++ parts 0 ts) := by
  have hwhere : whereTokens.map RawToken.part
      = .reserved .where :: Parser.oneIsOneAnd.map .token := by decide
  rw [parts_append_of_notMem (by decide), hwhere]
  rfl

variable {c : Bytes}

theorem statementTokens_query (hselect : containsSelect c = false) (htail : ¬ReadsTail c) :
    statementTokens (querySText T.named .sqlite c)
      = selectTokens T ++ if c = [] then [] else whereTokens ++ statementTokens c := by
  have hwhere : ReadsAs (ascii "where 1=1 and  ") whereTokens :=
    ⟨by decide, rfl, by decide, by decide⟩
  rw [querySText_eq, generateQuerySql_condition T.named .sqlite hselect htail]
  split_ifs
  · rw [selectText, List.append_nil]
    change statementTokens (_ ++ [blank]) = _
    rw [statementTokens_blank, (readsAs_select T).statementTokens_eq, List.append_nil]
  · rw [selectText]
    change statementTokens (_ ++ [blank]) = _
    rw [statementTokens_blank, (readsAs_select T).statementTokens_append,
      hwhere.statementTokens_append]

/-- The condition of a call, which has none if the text is empty. -/
def callCondition (c : Bytes) : Option (Option Expr) :=
  if c = [] then some none else (readCondition c).map some

theorem readStatement_delete (c : Bytes) :
    readStatement (generateDeleteSql T.table (some c))
      = (callCondition c).map (Statement.delete T.table) := by
  rw [readStatement_generateDeleteSql, callCondition]
  split_ifs
  · rfl
  · rw [Option.map_map]
    rfl

/-- **The query as SQLite reads it.** It selects all members of the class, and its condition is the
one that is given, which says the same behind `1=1 and`. A condition that cannot be read makes a
query that cannot be read. -/
theorem readStatement_query (hselect : containsSelect c = false) (htail : ¬ReadsTail c)
    (hcondition : IsCondition c) :
    Option.Rel (fun o s ↦ ∃ o', Option.Rel Expr.Same o o' ∧ s = Statement.select (selection T o'))
      (callCondition c) (readStatement (querySText T.named .sqlite c)) := by
  rw [callCondition, readStatement, statementTokens_query T hselect htail, parts_selectTokens]
  split_ifs with hc
  · have hread : readParts (.reserved .select :: ((itemTokens T).map .token ++ .reserved .from ::
          .token (.name T.table) :: parts 0 []))
        = some (.select (selection T none)) := by
      rw [readParts_select T rfl, Statement.readSelect, whole_itemTokens]
      rfl
    rw [hread]
    exact .some ⟨none, .none, rfl⟩
  · have hclauses : clauses (parts 0 (whereTokens ++ statementTokens c))
        = ([], [(.where, Parser.oneIsOneAnd ++ conditionTokens c)]) := by
      rw [parts_whereTokens, parts_of_isCondition hcondition, clauses, ← List.map_append,
        clauses_map]
    have hread : readParts (.reserved .select :: ((itemTokens T).map .token ++ .reserved .from ::
          .token (.name T.table) :: parts 0 (whereTokens ++ statementTokens c)))
        = (parseTokens (Parser.oneIsOneAnd ++ conditionTokens c)).map fun e ↦
            .select (selection T (some e)) := by
      rw [readParts_select T (by rw [hclauses]), hclauses, Statement.readSelect, whole_itemTokens]
      rcases hparse : parseTokens (Parser.oneIsOneAnd ++ conditionTokens c) with _ | e
      · simp only [Statement.whereClause, hparse]
        rfl
      · simp only [Statement.whereClause, hparse]
        rfl
    rw [hread, readCondition_of_isCondition hcondition]
    have hsame := same_parseTokens (conditionTokens c)
    generalize parseTokens (conditionTokens c) = p at hsame ⊢
    generalize parseTokens (Parser.oneIsOneAnd ++ conditionTokens c) = q at hsame ⊢
    cases hsame with
    | none => exact .none
    | some hsame => exact .some ⟨_, .some hsame, rfl⟩

theorem parameterCount_query (hselect : containsSelect c = false) (htail : ¬ReadsTail c) :
    parameterCount (querySText T.named .sqlite c) = parameterCount c := by
  have hnames : placeholder ∉ [RawToken.symbol .comma].intercalate
      (T.indices.map fun i ↦ [RawToken.word (T.column i)]) := by
    apply notMem_intercalate (by decide)
    intro item hitem
    obtain ⟨i, -, rfl⟩ := List.mem_map.mp hitem
    simp [placeholder]
  have hfront : (selectTokens T).count placeholder = 0 := by
    apply List.count_eq_zero_of_not_mem
    rw [selectTokens]
    simp only [List.mem_append, not_or]
    refine ⟨by simp [placeholder], ⟨hnames, by simp [placeholder]⟩, by simp [placeholder]⟩
  rw [parameterCount, statementTokens_query T hselect htail, List.count_append, hfront,
    Nat.zero_add]
  split_ifs with h
  · rw [h]
    rfl
  · rw [List.count_append, List.count_eq_zero_of_not_mem (by decide), Nat.zero_add]
    rfl

end Query

end Ormpp
