import Ormpp.Store.Class

/-!
# The insert as SQLite reads it

The text of an insert or a replace is read as the statement that gives each of its columns the value
of one parameter, in the order in which the values are bound.
-/

namespace Ormpp

open Sql hiding isBlank

namespace Sql

/-! ## Names and parameters -/

theorem readsAs_name (n : Name) {b : Byte} {text : Bytes} {ts : List RawToken}
    (h : ReadsAs (b :: text) ts) (hb : isWordByte b = false) :
    ReadsAs (n.text ++ b :: text) (.word n.text :: ts) :=
  h.word_append hb n.text_ne_nil fun c hc ↦ isWordByte_of_isNameByte (n.plain c hc)

theorem part_of_readsAsName {word : Bytes} (h : ReadsAsName word) :
    (RawToken.word word).part = .token (.name word) := by
  rw [RawToken.part, show wordToken word = .name word from h, if_neg]
  rintro ⟨⟩

namespace Parser

theorem expr_parameter (n k : ℕ) {level : ℕ} {ts : List Token} (h : Stops level ts) :
    expr (n + 1) level (parameterTokens k ++ ts) = some (parameter k, ts) :=
  expr_primary rfl h

theorem stops_symbol {s : Symbol} (h : ∀ op, s ≠ .compare op) (level : ℕ) (ts : List Token) :
    Stops level (.symbol s :: ts) := by
  apply stops_of_none
  cases s with
  | compare op => exact absurd rfl (h op)
  | openParen | closeParen | comma | dot | minus | other => rfl

/-- Parameters up to a closing parenthesis. -/
theorem list_parameters {sub : ℕ → Reader Expr}
    (hsub : ∀ k s ts, (∀ op, s ≠ .compare op) →
      sub 0 (parameterTokens k ++ .symbol s :: ts) = some (parameter k, .symbol s :: ts))
    {ks : List ℕ} (hne : ks ≠ []) {n : ℕ} (hn : ks.length ≤ n) (rest : List Token) :
    list sub n ([.symbol .comma].intercalate (ks.map parameterTokens) ++ .symbol .closeParen :: rest)
      = some (ks.map parameter, rest) := by
  have hclose (op : Comparison) : Symbol.closeParen ≠ .compare op := by rintro ⟨⟩
  have hcomma (op : Comparison) : Symbol.comma ≠ .compare op := by rintro ⟨⟩
  induction ks generalizing n with
  | nil => exact absurd rfl hne
  | cons k ks ih =>
    obtain ⟨n, rfl⟩ : ∃ m, n = m + 1 := ⟨n - 1, by rw [List.length_cons] at hn; omega⟩
    rw [List.length_cons, Nat.add_le_add_iff_right] at hn
    obtain _ | ⟨k', ks⟩ := ks
    · rw [List.map_singleton, List.intercalate_singleton, list, hsub k .closeParen rest hclose]
      rfl
    · rw [List.map_cons, List.map_cons, List.intercalate_cons_cons, List.append_assoc,
        List.append_assoc, list]
      rw [List.singleton_append, hsub k .comma _ hcomma]
      have hrest := ih (List.cons_ne_nil _ _) hn
      rw [List.map_cons] at hrest
      simp only [Option.bind_eq_bind, Option.bind_some, hrest]
      rfl

theorem parenthesized_parameters {sub : ℕ → Reader Expr}
    (hsub : ∀ k s ts, (∀ op, s ≠ .compare op) →
      sub 0 (parameterTokens k ++ .symbol s :: ts) = some (parameter k, .symbol s :: ts))
    {ks : List ℕ} (hne : ks ≠ []) (rest : List Token) :
    parenthesized sub (.symbol .openParen ::
        ([.symbol .comma].intercalate (ks.map parameterTokens) ++ .symbol .closeParen :: rest))
      = some (ks.map parameter, rest) := by
  have hlength : ks.length ≤ ([Token.symbol .comma].intercalate (ks.map parameterTokens)
      ++ .symbol .closeParen :: rest).length := by
    have hitems := length_le_intercalate [Token.symbol .comma] (ks.map parameterTokens)
      (by simp [parameterTokens])
    rw [List.length_map] at hitems
    rw [List.length_append]
    omega
  have hlist := list_parameters hsub hne hlength rest
  obtain ⟨k, ks, rfl⟩ := List.exists_cons_of_ne_nil hne
  obtain ⟨more, hmore⟩ := exists_intercalate_cons [Token.symbol .comma] (parameterTokens k)
    (ks.map parameterTokens)
  rw [List.map_cons, hmore, List.append_assoc] at hlist ⊢
  exact hlist

end Parser

end Sql

/-! ## The text of an insert -/

section

variable (T : StoredClass) (insert : Bool)

/-- The word in front of `into`. -/
def insertWord : Bytes := if insert then ascii "insert" else ascii "replace"

/-- The tokens of an insert, or of a replace. -/
def insertTokens : List RawToken :=
  [.word (insertWord insert), .word (ascii "into"), .word T.table, .symbol .openParen]
    ++ ([RawToken.symbol .comma].intercalate
      ((T.statementIndices insert).map fun i ↦ [RawToken.word (T.column i)])
    ++ [.symbol .closeParen, .word (ascii "values"), .symbol .openParen]
    ++ ([RawToken.symbol .comma].intercalate
      ((T.statementIndices insert).map fun _ ↦ [placeholder]) ++ [.symbol .closeParen]))

theorem generateInsertSql_sqlite :
    generateInsertSql T.aliased.registry T.aliased.entity .sqlite insert []
      = insertWord insert ++ ascii " into " ++ T.table ++ ascii " ("
        ++ ((ascii ",").intercalate ((T.statementIndices insert).map T.column) ++ ascii ") values("
        ++ ((ascii ",").intercalate ((T.statementIndices insert).map fun _ ↦ ascii "?")
        ++ ascii ") ")) := by
  have hplain : generateInsertSql T.aliased.registry T.aliased.entity .sqlite insert []
      = generatePlainInsertSql T.aliased.registry T.aliased.entity .sqlite insert :=
    if_neg fun h ↦ nomatch h.1
  have htable : T.aliased.entity.tableName = T.table := getShortStructName_eq T.structName
  have hquote : quoteName .sqlite = id := by
    funext name
    exact if_neg nofun
  have hvalue : valuePlaceholder .sqlite = fun _ ↦ ascii "?" := by
    funext index
    exact if_neg nofun
  have hlength : ((List.range' 1 (T.statementIndices insert).length).map fun _ ↦ ascii "?")
      = (T.statementIndices insert).map fun _ ↦ ascii "?" := by
    rw [List.map_const', List.map_const', List.length_range']
  have hne := T.statementIndices_ne_nil insert
  rw [hplain, generatePlainInsertSql_columns, T.statementColumns_eq, htable, hquote, hvalue,
    List.map_id, List.length_map, hlength, listText, listText,
    if_neg (List.map_eq_nil_iff.not.mpr hne), if_neg (List.map_eq_nil_iff.not.mpr hne), insertWord]
  cases insert <;> simp [ascii, closingParenthesis]

theorem readsAs_insert :
    ReadsAs (generateInsertSql T.aliased.registry T.aliased.entity .sqlite insert [])
      (insertTokens T insert) := by
  have hne := T.statementIndices_ne_nil insert
  have hword : ReadsAs (insertWord insert ++ ascii " into ")
      [.word (insertWord insert), .word (ascii "into")] := by
    cases insert
    · exact ⟨by decide, rfl, by decide, by decide⟩
    · exact ⟨by decide, rfl, by decide, by decide⟩
  have hopen : ReadsAs (ascii " (") [.symbol .openParen] := ⟨by decide, rfl, by decide, by decide⟩
  have hcomma : ReadsAs (ascii ",") [.symbol .comma] := ⟨by decide, rfl, by decide, by decide⟩
  have hvalues : ReadsAs (ascii ") values(")
      [.symbol .closeParen, .word (ascii "values"), .symbol .openParen] :=
    ⟨by decide, rfl, by decide, by decide⟩
  have hplaceholder : ReadsAs (ascii "?,") [placeholder, .symbol .comma] :=
    ⟨by decide, rfl, by decide, by decide⟩
  have hclose : ReadsAs (ascii "?) ") [placeholder, .symbol .closeParen] :=
    ⟨by decide, rfl, by decide, by decide⟩
  have htable : ReadsAs (T.table ++ ascii " (") [.word T.table, .symbol .openParen] :=
    readsAs_name T.structName.name hopen rfl
  have hcolumns : ReadsAs
      ((ascii ",").intercalate ((T.statementIndices insert).map T.column) ++ ascii ") values(")
      ([RawToken.symbol .comma].intercalate
          ((T.statementIndices insert).map fun i ↦ [RawToken.word (T.column i)])
        ++ [.symbol .closeParen, .word (ascii "values"), .symbol .openParen]) :=
    readsAs_intercalate hne (fun i _ ↦ readsAs_name (T.member i).column hcomma rfl)
      fun i _ ↦ readsAs_name (T.member i).column hvalues rfl
  have hplaceholders : ReadsAs
      ((ascii ",").intercalate ((T.statementIndices insert).map fun _ ↦ ascii "?") ++ ascii ") ")
      ([RawToken.symbol .comma].intercalate ((T.statementIndices insert).map fun _ ↦ [placeholder])
        ++ [.symbol .closeParen]) :=
    readsAs_intercalate hne (fun _ _ ↦ hplaceholder) fun _ _ ↦ hclose
  have hall := (hword.append htable).append (hcolumns.append hplaceholders)
  rw [generateInsertSql_sqlite, insertTokens]
  simp only [List.append_assoc] at hall ⊢
  exact hall

/-! ## What is read -/

/-- The tokens behind `into`. -/
def intoTokens : List Token :=
  .name T.table :: .symbol .openParen ::
    ([Token.symbol .comma].intercalate
      ((T.statementIndices insert).map fun i ↦ [Token.name (T.column i)]) ++ [.symbol .closeParen])

/-- The tokens behind `values`. -/
def valuesTokens : List Token :=
  .symbol .openParen ::
    ([Token.symbol .comma].intercalate
      ((List.range (T.statementIndices insert).length).map parameterTokens)
        ++ [.symbol .closeParen])

theorem parts_insertTokens :
    parts 0 (insertTokens T insert)
      = (RawToken.word (insertWord insert)).part :: .reserved .into ::
        ((intoTokens T insert).map .token ++ .reserved .values ::
          (valuesTokens T insert).map .token) := by
  have hnames : placeholder ∉ [RawToken.symbol .comma].intercalate
      ((T.statementIndices insert).map fun i ↦ [RawToken.word (T.column i)]) := by
    apply notMem_intercalate (by decide)
    intro item hitem
    obtain ⟨i, -, rfl⟩ := List.mem_map.mp hitem
    simp [placeholder]
  have hplaceholders : parts 0 ([RawToken.symbol .comma].intercalate
        ((T.statementIndices insert).map fun _ ↦ [placeholder]))
      = ([Token.symbol .comma].intercalate
          ((List.range (T.statementIndices insert).length).map parameterTokens)).map .token := by
    have hparts := parts_intercalate (fun _ : T.Index ↦ []) [RawToken.symbol .comma]
      (T.statementIndices insert) (fun _ _ ↦ List.not_mem_nil) (by decide) 0
    rw [map_intercalate, List.map_map, List.range_eq_range', ← List.zipIdx_map_snd 0,
      List.map_map]
    exact hparts
  have hfront : placeholder ∉ [RawToken.word (insertWord insert), .word (ascii "into"),
      .word T.table, .symbol .openParen] := by simp [placeholder]
  have hmiddle : placeholder ∉ [RawToken.symbol .closeParen, .word (ascii "values"),
      .symbol .openParen] := by decide
  have hclose : placeholder ∉ [RawToken.symbol .closeParen] := by decide
  have hcolumns : ([RawToken.symbol .comma].intercalate
        ((T.statementIndices insert).map fun i ↦ [RawToken.word (T.column i)])).map RawToken.part
      = ([Token.symbol .comma].intercalate
          ((T.statementIndices insert).map fun i ↦ [Token.name (T.column i)])).map .token := by
    rw [map_intercalate, map_intercalate, List.map_map, List.map_map]
    congr 1
    refine List.map_congr_left fun i _ ↦ ?_
    exact congrArg (fun p ↦ [p]) (part_of_readsAsName (T.readsAsName_column i))
  have htable := part_of_readsAsName T.readsTable
  have hinto : (RawToken.word (ascii "into")).part = .reserved .into := by decide
  have hvalues : (RawToken.word (ascii "values")).part = .reserved .values := by decide
  rw [insertTokens, parts_append_of_notMem hfront, List.append_assoc, parts_append_of_notMem hnames,
     parts_append_of_notMem hmiddle, parts_append, hplaceholders,
    parts_of_notMem hclose, hcolumns]
  simp only [List.map_cons, List.map_nil, List.map_append, htable, hinto, hvalues, intoTokens,
    valuesTokens, List.cons_append, List.nil_append, List.append_assoc]
  rfl

theorem target_intoTokens :
    Statement.target (intoTokens T insert)
      = some (T.table, (T.statementIndices insert).map T.column) := by
  have hlength : (T.statementIndices insert).length
      ≤ ([Token.symbol .comma].intercalate
        ((T.statementIndices insert).map fun i ↦ [Token.name (T.column i)])
          ++ [Token.symbol .closeParen]).length := by
    have hitems := length_le_intercalate [Token.symbol .comma]
      ((T.statementIndices insert).map fun i ↦ [Token.name (T.column i)]) (by simp)
    rw [List.length_map] at hitems
    rw [List.length_append]
    omega
  have hlist : commaList (Token.symbol .comma) Statement.name _
        ([Token.symbol .comma].intercalate
          ((T.statementIndices insert).map fun i ↦ [Token.name (T.column i)])
          ++ [.symbol .closeParen])
      = some ((T.statementIndices insert).map T.column, [Token.symbol .closeParen]) :=
    commaList_intercalate (by decide) (T.statementIndices_ne_nil insert) (fun _ _ _ ↦ rfl)
      (fun _ _ ↦ rfl) hlength
  rw [intoTokens, Statement.target, hlist]

theorem values_valuesTokens :
    Statement.values (valuesTokens T insert)
      = some ((List.range (T.statementIndices insert).length).map parameter) := by
  have hne : List.range (T.statementIndices insert).length ≠ [] := by
    rw [ne_eq, List.range_eq_nil, List.length_eq_zero_iff]
    exact T.statementIndices_ne_nil insert
  rw [Statement.values, valuesTokens, Parser.parenthesized_parameters _ hne]
  intro k s ts hs
  exact Parser.expr_parameter _ k (Parser.stops_symbol hs 0 ts)

/-- **The insert as SQLite reads it.** Every column of the statement is given the value of the
parameter in its place. -/
theorem readStatement_generateInsertSql :
    readStatement (generateInsertSql T.aliased.registry T.aliased.entity .sqlite insert [])
      = some (.insert (!insert) T.table ((T.statementIndices insert).map T.column)
          ((List.range (T.statementIndices insert).length).map parameter)) := by
  have hclauses : clauses ((intoTokens T insert).map .token ++ .reserved .values ::
        (valuesTokens T insert).map .token)
      = (intoTokens T insert, [(.values, valuesTokens T insert)]) := by
    rw [clauses_append, clauses, clauses_map, List.append_nil]
  have hread (replace : Bool) :
      Statement.readInsert replace (intoTokens T insert) (valuesTokens T insert)
        = some (.insert replace T.table ((T.statementIndices insert).map T.column)
            ((List.range (T.statementIndices insert).length).map parameter)) := by
    rw [Statement.readInsert, target_intoTokens, values_valuesTokens]
    rfl
  rw [readStatement, (readsAs_insert T insert).statementTokens_eq, parts_insertTokens]
  cases insert with
  | true =>
    have hword : (RawToken.word (insertWord true)).part = .reserved .insert := by decide
    rw [hword, readParts_reserved (by decide), clauses, clauses, hclauses]
    exact hread false
  | false =>
    have hword : (RawToken.word (insertWord false)).part = .token (.name (ascii "replace")) := by
      decide
    have hsoft : isSoft "REPLACE" (ascii "replace") = true := by decide
    rw [hword]
    change Statement.readClauses (clauses _) = _
    rw [clauses, clauses, hclauses]
    simp only [Statement.readClauses, hsoft, if_true]
    exact hread true

theorem parameterCount_generateInsertSql :
    parameterCount (generateInsertSql T.aliased.registry T.aliased.entity .sqlite insert [])
      = (T.statementIndices insert).length := by
  have hnames : ([RawToken.symbol .comma].intercalate
      ((T.statementIndices insert).map fun i ↦ [RawToken.word (T.column i)])).count placeholder
        = 0 := by
    apply List.count_eq_zero_of_not_mem
    apply notMem_intercalate (by decide)
    intro item hitem
    obtain ⟨i, -, rfl⟩ := List.mem_map.mp hitem
    simp [placeholder]
  have hplaceholders : ([RawToken.symbol .comma].intercalate
        ((T.statementIndices insert).map fun _ ↦ [placeholder])).count placeholder
      = (T.statementIndices insert).length :=
    count_intercalate (fun _ : T.Index ↦ []) _ _ (fun _ _ ↦ List.not_mem_nil) (by decide)
  rw [parameterCount, (readsAs_insert T insert).statementTokens_eq, insertTokens]
  simp only [List.count_append, hnames, hplaceholders]
  simp [placeholder]

end

end Ormpp
