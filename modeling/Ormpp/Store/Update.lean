import Ormpp.Store.Condition

/-!
# The update as SQLite reads it

The text of an update by its keys is read as the statement that gives every column the value of the
parameter in its place, in the rows whose keys are equal to the parameters behind those.
-/

namespace Ormpp

open Sql hiding isBlank

section

variable (T : StoredClass)

/-- A column with the parameter that it is given, or that it is compared with. -/
def equationsFrom (is : List T.Index) (k : ℕ) : List Equation :=
  (is.zipIdx k).map fun p ↦ (T.column p.1, p.2)

/-- The equations of the keys. -/
def keyEquations : List Equation := equationsFrom T T.keyIndices T.indices.length

/-- A column in front of its placeholder. -/
def columnTokens (i : T.Index) : List RawToken := [.word (T.column i), .symbol (.compare .eq)]

def updateTokens : List RawToken :=
  [.word (ascii "update")] ++ ([.word T.table, .word (ascii "set")]
    ++ ([RawToken.symbol .comma].intercalate
      (T.indices.map fun i ↦ columnTokens T i ++ [placeholder]) ++ whereTokens
    ++ [RawToken.word (ascii "and")].intercalate
      (T.keyIndices.map fun i ↦ columnTokens T i ++ [placeholder])))

theorem generateUpdateSql_sqlite (h : T.keyIndices ≠ []) :
    generateUpdateSql T.aliased.reflected .sqlite
      = ascii "update " ++ (T.table ++ ascii " set ")
        ++ ((ascii ",").intercalate (T.indices.map fun i ↦ T.column i ++ ascii "=?")
          ++ ascii " where 1=1 and ")
        ++ (ascii "  and ").intercalate (T.keyIndices.map fun i ↦ T.column i ++ ascii "=?") := by
  have hkeys : T.aliased.reflected.keyNames ≠ [] := by
    rw [T.keyNames_eq]
    exact List.map_eq_nil_iff.not.mpr h
  have hcolumns (is : List T.Index) (k : ℕ) :
      ((is.map T.column).zipIdx k).map (columnText .sqlite)
        = is.map fun i ↦ T.column i ++ ascii "=?" := by
    have htext : columnText .sqlite = (fun name ↦ name ++ ascii "=?") ∘ Prod.fst := by
      funext p
      rfl
    rw [htext, ← List.map_map, List.zipIdx_map_fst, List.map_map]
    rfl
  rw [generateUpdateSql_eq _ _ hkeys, T.fieldNames_reflected, T.cutNames_eq, hcolumns, hcolumns]
  simp only [List.append_assoc]
  rfl

theorem readsAs_update (h : T.keyIndices ≠ []) :
    ReadsAs (generateUpdateSql T.aliased.reflected .sqlite) (updateTokens T) := by
  have hupdate : ReadsAs (ascii "update ") [.word (ascii "update")] :=
    ⟨by decide, rfl, by decide, by decide⟩
  have hset : ReadsAs (ascii " set ") [.word (ascii "set")] :=
    ⟨by decide, rfl, by decide, by decide⟩
  have hcomma : ReadsAs (ascii "=?,") [.symbol (.compare .eq), placeholder, .symbol .comma] :=
    ⟨by decide, rfl, by decide, by decide⟩
  have hwhere : ReadsAs (ascii "=? where 1=1 and ")
      ([.symbol (.compare .eq), placeholder] ++ whereTokens) :=
    ⟨by decide, rfl, by decide, by decide⟩
  have hand : ReadsAs (ascii "=?  and ")
      [.symbol (.compare .eq), placeholder, .word (ascii "and")] :=
    ⟨by decide, rfl, by decide, by decide⟩
  have hend : ReadsAs (ascii "=?") [.symbol (.compare .eq), placeholder] :=
    ⟨by decide, rfl, by decide, by decide⟩
  have hname (i : T.Index) {b : Byte} {text : Bytes} {ts : List RawToken}
      (h : ReadsAs (b :: text) ts) (hb : isWordByte b = false) :
      ReadsAs (T.column i ++ b :: text) (.word (T.column i) :: ts) :=
    readsAs_name (T.member i).column h hb
  have htable : ReadsAs (T.table ++ ascii " set ") [.word T.table, .word (ascii "set")] :=
    readsAs_name T.structName.name hset rfl
  have hassignments : ReadsAs
      ((ascii ",").intercalate (T.indices.map fun i ↦ T.column i ++ ascii "=?")
        ++ ascii " where 1=1 and ")
      ([RawToken.symbol .comma].intercalate
        (T.indices.map fun i ↦ columnTokens T i ++ [placeholder]) ++ whereTokens) := by
    refine readsAs_intercalate (indices_ne_nil T) (fun i _ ↦ ?_) fun i _ ↦ ?_
    · rw [List.append_assoc]
      exact hname i hcomma rfl
    · rw [List.append_assoc]
      exact hname i hwhere rfl
  have hkeys : ReadsAs
      ((ascii "  and ").intercalate (T.keyIndices.map fun i ↦ T.column i ++ ascii "=?") ++ [])
      ([RawToken.word (ascii "and")].intercalate
        (T.keyIndices.map fun i ↦ columnTokens T i ++ [placeholder]) ++ []) := by
    refine readsAs_intercalate h (fun i _ ↦ ?_) fun i _ ↦ ?_
    · rw [List.append_assoc]
      exact hname i hand rfl
    · rw [List.append_nil]
      exact hname i hend rfl
  rw [List.append_nil, List.append_nil] at hkeys
  have hall := (hupdate.append htable).append (hassignments.append hkeys)
  rw [generateUpdateSql_sqlite T h, updateTokens]
  simp only [List.append_assoc] at hall ⊢
  exact hall

/-! ## What is read -/

theorem placeholder_notMem_columnTokens (i : T.Index) : placeholder ∉ columnTokens T i := by
  simp [columnTokens, placeholder]

theorem parts_columnTokens {between : List RawToken} (betweenTokens : List Token)
    (hbetween : placeholder ∉ between) (htokens : between.map RawToken.part
      = betweenTokens.map .token) (is : List T.Index) (k : ℕ) :
    parts k (between.intercalate (is.map fun i ↦ columnTokens T i ++ [placeholder]))
      = (betweenTokens.intercalate ((equationsFrom T is k).map Equation.tokens)).map .token := by
  rw [parts_intercalate _ _ _ (fun i _ ↦ placeholder_notMem_columnTokens T i) hbetween, htokens,
    map_intercalate, equationsFrom, List.map_map, List.map_map]
  congr 1
  refine List.map_congr_left fun p _ ↦ ?_
  have hname := part_of_readsAsName (T.readsAsName_column p.1)
  simp only [columnTokens, List.map_cons, List.map_nil, hname, Function.comp_apply,
    Equation.tokens]
  rfl

/-- The tokens of what is set. -/
def setTokens : List Token :=
  [Token.symbol .comma].intercalate ((equationsFrom T T.indices 0).map Equation.tokens)

/-- The tokens of the condition. -/
def keyTokens : List Token :=
  Parser.oneIsOneAnd
    ++ [Token.keyword .and].intercalate ((keyEquations T).map Equation.tokens)

theorem parts_updateTokens :
    parts 0 (updateTokens T)
      = .reserved .update :: .token (.name T.table) :: .reserved .set ::
        ((setTokens T).map .token ++ .reserved .where :: (keyTokens T).map .token) := by
  have hupdate : (RawToken.word (ascii "update")).part = .reserved .update := by decide
  have hset : (RawToken.word (ascii "set")).part = .reserved .set := by decide
  have hand : [RawToken.word (ascii "and")].map RawToken.part
      = [Token.keyword .and].map .token := by decide
  have hcount : ([RawToken.symbol .comma].intercalate
      (T.indices.map fun i ↦ columnTokens T i ++ [placeholder])).count placeholder
        = T.indices.length :=
    count_intercalate _ _ _ (fun i _ ↦ placeholder_notMem_columnTokens T i) (by decide)
  have hwhere (k : ℕ) (ts : List RawToken) : parts k (whereTokens ++ ts)
      = .reserved .where :: (Parser.oneIsOneAnd.map .token ++ parts k ts) := by
    have hmap : whereTokens.map RawToken.part
        = .reserved .where :: Parser.oneIsOneAnd.map .token := by decide
    rw [parts_append_of_notMem (by decide), hmap]
    rfl
  rw [updateTokens, parts_append_of_notMem (by simp [placeholder]),
    parts_append_of_notMem (by simp [placeholder]), List.append_assoc, parts_append,
    parts_columnTokens T [Token.symbol .comma] (by decide) rfl, hcount, hwhere,
    parts_columnTokens T [Token.keyword .and] (by decide) hand, Nat.zero_add,
    ← List.map_append]
  simp only [List.map_cons, List.map_nil, hupdate, hset, part_of_readsAsName T.readsTable,
    List.cons_append, List.nil_append]
  rfl

theorem whole_setTokens :
    Statement.whole Statement.assignment (setTokens T)
      = some ((equationsFrom T T.indices 0).map fun p ↦ (p.1, parameter p.2)) := by
  have hne : equationsFrom T T.indices 0 ≠ [] := by
    rw [equationsFrom, ne_eq, List.map_eq_nil_iff, List.zipIdx_eq_nil_iff]
    exact indices_ne_nil T
  have hlength : (equationsFrom T T.indices 0).length ≤ (setTokens T).length := by
    have hitems := length_le_intercalate [Token.symbol .comma]
      ((equationsFrom T T.indices 0).map Equation.tokens) fun item hitem ↦ by
        obtain ⟨p, -, rfl⟩ := List.mem_map.mp hitem
        exact List.cons_ne_nil _ _
    rwa [List.length_map] at hitems
  have hread (p : Equation) (rest : List Token) (hstops : Parser.Stops 0 rest) :
      Statement.assignment (p.tokens ++ rest) = some ((p.1, parameter p.2), rest) := by
    have hexpr := Parser.expr_parameter (parameterTokens p.2 ++ rest).length p.2 hstops
    change (Parser.expr ((parameterTokens p.2 ++ rest).length + 1) 0
      (parameterTokens p.2 ++ rest)).bind _ = _
    rw [hexpr]
    rfl
  have hlist : commaList (Token.symbol .comma) Statement.assignment (setTokens T).length
        (setTokens T ++ [])
      = some ((equationsFrom T T.indices 0).map fun p ↦ (p.1, parameter p.2), []) :=
    commaList_intercalate (by decide) hne
      (fun p _ rest ↦ hread p _ (Parser.stops_of_none rfl))
      (fun p _ ↦ hread p [] (Parser.stops_of_none rfl)) hlength
  rw [List.append_nil] at hlist
  rw [Statement.whole, hlist]

/-- **The update as SQLite reads it.** Every column is given the value of the parameter in its
place, in the rows whose keys are equal to the parameters behind those. -/
theorem readStatement_generateUpdateSql (h : T.keyIndices ≠ []) :
    ∃ e, readStatement (generateUpdateSql T.aliased.reflected .sqlite)
        = some (.update T.table ((equationsFrom T T.indices 0).map fun p ↦ (p.1, parameter p.2))
            (some e)) ∧
      e.columns = (keyEquations T).flatMap
        (fun p ↦ [(none, p.1), (some parameterTable, natText p.2)]) ∧
      ∀ env, (∀ p ∈ keyEquations T, Alike (p.left env) (p.right env)) →
        e.truthIn env = some (.ofBool ((keyEquations T).all fun p ↦ p.left env = p.right env)) := by
  have hne : keyEquations T ≠ [] := by
    rw [keyEquations, equationsFrom, ne_eq, List.map_eq_nil_iff, List.zipIdx_eq_nil_iff]
    exact h
  obtain ⟨p, ps, hequations⟩ := List.exists_cons_of_ne_nil hne
  have hparse := same_parseTokens
    ([Token.keyword .and].intercalate ((p :: ps).map Equation.tokens))
  rw [parseTokens_equations] at hparse
  have hclauses : clauses (parts 0 (updateTokens T))
      = ([], [(.update, [.name T.table]), (.set, setTokens T), (.where, keyTokens T)]) := by
    rw [parts_updateTokens, clauses, clauses, clauses, clauses_append, clauses, clauses_map,
      List.append_nil]
  obtain ⟨e, he, hsame⟩ : ∃ e, parseTokens (keyTokens T) = some e ∧ (p.all ps).Same e := by
    rw [keyTokens, hequations]
    generalize parseTokens (Parser.oneIsOneAnd ++ _) = q at hparse
    cases hparse with
    | some hsame => exact ⟨_, rfl, hsame⟩
  refine ⟨e, ?_, ?_, fun env halike ↦ ?_⟩
  · rw [readStatement, (readsAs_update T h).statementTokens_eq, parts_updateTokens,
      readParts_reserved (by decide), ← parts_updateTokens, hclauses]
    simp only [Statement.readClauses, Statement.readUpdate, whole_setTokens, Statement.whereClause,
      he]
    rfl
  · rw [← hsame.columns, Equation.columns_all, hequations]
  · rw [← hsame.truthIn, hequations, Equation.truthIn_all]
    rwa [hequations] at halike

theorem parameterCount_generateUpdateSql (h : T.keyIndices ≠ []) :
    parameterCount (generateUpdateSql T.aliased.reflected .sqlite)
      = T.indices.length + T.keyIndices.length := by
  have hcount (is : List T.Index) (between : List RawToken) (hbetween : placeholder ∉ between) :
      (between.intercalate (is.map fun i ↦ columnTokens T i ++ [placeholder])).count placeholder
        = is.length :=
    count_intercalate _ _ _ (fun i _ ↦ placeholder_notMem_columnTokens T i) hbetween
  have hwhere : whereTokens.count placeholder = 0 := by decide
  rw [parameterCount, (readsAs_update T h).statementTokens_eq, updateTokens]
  simp only [List.count_append, hcount _ [RawToken.symbol .comma] (by decide),
    hcount _ [RawToken.word (ascii "and")] (by decide), hwhere]
  simp [placeholder]

end

end Ormpp
