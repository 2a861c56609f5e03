import Ormpp.Schema.ColumnList
import Ormpp.Schema.Insert
import Ormpp.Update.Binding

/-!
# The values of an insert

The columns of an insert are listed by `generate_insert_sql`, and their values are bound by another
walk over the fields in each backend. Both leave out the auto key where the statement inserts, so
that every column is given the value of its own field.
-/

namespace Ormpp

open Sql

/-! ## The lists as the server reads them -/

def openingParenthesis : Byte := 0x28

/-- What stands between the first parentheses, and what follows them. -/
def parenthesized (text : Bytes) : Bytes × Bytes :=
  let inside := (text.dropWhile fun b ↦ b ≠ openingParenthesis).drop 1
  (inside.takeWhile fun b ↦ b ≠ closingParenthesis,
    (inside.dropWhile fun b ↦ b ≠ closingParenthesis).drop 1)

/-- The columns and the values of a statement. -/
def readInsert (sql : Bytes) : Option (List Bytes × List Bytes) :=
  let (columns, behind) := parenthesized sql
  if (ascii " values(").isPrefixOf behind then
    some (columnList columns, columnList (parenthesized behind).1)
  else none

/-! ## The walks over the fields -/

/-- The loop over the fields, which leaves out the auto key where the statement inserts. -/
def insertWalk (r : Registry) (T : Entity) (t : Record) (insert : Bool) : List Bytes → List QueryArg
  | [] => []
  | name :: names =>
    if insert && r.isAutoKey T.structName name then insertWalk r T t insert names
    else t name :: insertWalk r T t insert names

section

variable (r : Registry) (T : Entity) (t : Record) (insert : Bool)

/-- `sqlite::stmt_execute`. -/
def sqliteInsertValues : List QueryArg := insertWalk r T t insert T.columnNames

/-- `mysql::stmt_execute`. -/
def mysqlInsertValues : List QueryArg := insertWalk r T t insert T.columnNames

/-- `postgresql::stmt_execute`. -/
def postgresqlInsertValues : List QueryArg := insertWalk r T t insert T.columnNames

/-- `format_struct_sql`. -/
def formatInsertSql (sql : Bytes) (noBackslashEscapes : Bool) : Except String Bytes :=
  formatValues sql noBackslashEscapes
    ((insertWalk r T t insert T.columnNames).map (toQueryArg noBackslashEscapes))

end

/-! ## What is bound -/

/-- The value at a placeholder: the one of its number, and otherwise the one in its place. -/
def placeholderValue (values : List QueryArg) (i : ℕ) (placeholder : Bytes) : Option QueryArg :=
  if placeholder = [questionMark] then values[i]?
  else values[decimalValue (placeholder.drop 1) - 1]?

/-- There are as many values as placeholders, and these are given the expected ones. -/
def GivesValues (placeholders : List Bytes) (values expected : List QueryArg) : Prop :=
  values.length = placeholders.length ∧
    placeholders.mapIdx (placeholderValue values) = expected.map some

/-- The statement is executed with the expected values at its placeholders. The asynchronous client
writes them into the text. -/
def Backend.ExecutesInsert (b : Backend) (r : Registry) (T : Entity) (t : Record) (insert : Bool)
    (sql : Bytes) (placeholders : List Bytes) (expected : List QueryArg) : Prop :=
  match b with
  | sqlite => GivesValues placeholders (sqliteInsertValues r T t insert) expected
  | mysql => GivesValues placeholders (mysqlInsertValues r T t insert) expected
  | postgresql => GivesValues placeholders (postgresqlInsertValues r T t insert) expected
  | mysqlAsync noBackslashEscapes =>
    ∃ front, sql = front ++ ascii "values(" ++ (ascii ",").intercalate placeholders ++ ascii ") " ∧
      formatInsertSql r T t insert sql noBackslashEscapes
        = .ok (front ++ ascii "values(" ++
          (ascii ",").intercalate (expected.map (toQueryArg noBackslashEscapes)) ++ ascii ") ")

/-- The columns of a statement and the values that are bound belong together. -/
structure ValuesAgree (b : Backend) (r : Registry) (T : Entity) (t : Record) (insert : Bool)
    (sql : Bytes) (columns placeholders : List Bytes) : Prop where
  read : readInsert sql = some (columns, placeholders)
  length : columns.length = placeholders.length
  items : ∀ item ∈ columns ++ placeholders, item ≠ []
  /-- The fields in order, without the auto key where the statement inserts. -/
  fields : columns = (statementColumns r T insert).map (quoteName b.dbType)
  numbers : b.dbType = .postgresql →
    placeholders = (List.range' 1 columns.length).map fun k ↦ ascii "$" ++ natText k
  values : b.ExecutesInsert r T t insert sql placeholders ((statementColumns r T insert).map t)

/-! ## Reading -/

theorem parenthesized_append {front inside : Bytes} (hfront : openingParenthesis ∉ front)
    (hinside : closingParenthesis ∉ inside) (behind : Bytes) :
    parenthesized (front ++ openingParenthesis :: (inside ++ closingParenthesis :: behind))
      = (inside, behind) := by
  have hopen : ∀ b ∈ front, decide (b ≠ openingParenthesis) = true :=
    fun b hb ↦ decide_eq_true fun h ↦ hfront (h ▸ hb)
  have hclose : ∀ b ∈ inside, decide (b ≠ closingParenthesis) = true :=
    fun b hb ↦ decide_eq_true fun h ↦ hinside (h ▸ hb)
  have hdrop : (front ++ openingParenthesis :: (inside ++ closingParenthesis :: behind)).dropWhile
        (fun b ↦ b ≠ openingParenthesis)
      = openingParenthesis :: (inside ++ closingParenthesis :: behind) := by
    rw [List.dropWhile_append_of_pos hopen]
    exact List.dropWhile_cons_of_neg (by decide)
  have htake : (inside ++ closingParenthesis :: behind).takeWhile (fun b ↦ b ≠ closingParenthesis)
      = inside := by
    rw [List.takeWhile_append_of_pos hclose, List.takeWhile_cons_of_neg (by decide),
      List.append_nil]
  have hrest : (inside ++ closingParenthesis :: behind).dropWhile (fun b ↦ b ≠ closingParenthesis)
      = closingParenthesis :: behind := by
    rw [List.dropWhile_append_of_pos hclose]
    exact List.dropWhile_cons_of_neg (by decide)
  rw [parenthesized, hdrop, List.drop_one, List.tail_cons, htake, hrest]
  rfl

/-- A text that stands for one item of a list. -/
structure IsItem (text : Bytes) : Prop where
  ne_nil : text ≠ []
  plain : ∀ b ∈ text, isWordByte b = true ∨ b = backtick ∨ b = questionMark

theorem IsItem.isWord {text : Bytes} (h : IsItem text) : IsWord text := by
  intro b hb
  constructor
  · rintro rfl
    exact absurd (h.plain blank hb) (by decide)
  · rintro rfl
    exact absurd (h.plain commaByte hb) (by decide)

theorem parenthesis_notMem_intercalate {items : List Bytes} (h : ∀ x ∈ items, IsItem x) :
    closingParenthesis ∉ (ascii ",").intercalate items := by
  have hitem {x : Bytes} (hx : IsItem x) : closingParenthesis ∉ x := fun hmem ↦
    absurd (hx.plain closingParenthesis hmem) (by decide)
  have hcomma : closingParenthesis ∉ ascii "," := by decide
  induction items with
  | nil => exact List.not_mem_nil
  | cons x items ih =>
    obtain ⟨hx, hitems⟩ := List.forall_mem_cons.mp h
    rcases items with _ | ⟨y, items⟩
    · rw [List.intercalate_singleton]
      exact hitem hx
    · rw [List.intercalate_cons_cons, List.mem_append, List.mem_append, not_or, not_or]
      exact ⟨⟨hitem hx, hcomma⟩, ih hitems⟩

theorem columnList_intercalate {items : List Bytes} (hne : items ≠ [])
    (h : ∀ x ∈ items, IsItem x) : columnList ((ascii ",").intercalate items) = items := by
  have hread := columnList_joinNames hne fun x hx ↦ ⟨(h x hx).isWord.comma_notMem, (h x hx).ne_nil⟩
  rw [joinNames, dropLast_flatMap_comma] at hread
  rw [hread]
  refine List.map_congr_left (fun x hx ↦ ?_) |>.trans (List.map_id items)
  have htrim := trimBlanks_word (h x hx).isWord false
  rwa [show optionalBlank false = [] from rfl, List.append_nil] at htrim

/-- The two lists are read as what they were written for. -/
theorem readInsert_append {front : Bytes} (hfront : openingParenthesis ∉ front)
    {columns values : List Bytes} (hcolumns : columns ≠ []) (hvalues : values ≠ [])
    (hcolumn : ∀ x ∈ columns, IsItem x) (hvalue : ∀ x ∈ values, IsItem x) (rest : Bytes) :
    readInsert (front ++ listText (ascii "(") columns ++ ascii " "
      ++ listText (ascii "values(") values ++ rest) = some (columns, values) := by
  let behind := ascii " values" ++ openingParenthesis ::
    ((ascii ",").intercalate values ++ closingParenthesis :: rest)
  have htext : front ++ listText (ascii "(") columns ++ ascii " "
        ++ listText (ascii "values(") values ++ rest
      = front ++ openingParenthesis ::
        ((ascii ",").intercalate columns ++ closingParenthesis :: behind) := by
    rw [listText, if_neg hcolumns, listText, if_neg hvalues]
    simp [behind, ascii, openingParenthesis]
  have hopening : openingParenthesis ∉ ascii " values" := by decide
  have hvaluesBehind : (ascii " values(").isPrefixOf behind = true :=
    List.isPrefixOf_iff_prefix.mpr (List.prefix_append (ascii " values(") _)
  rw [htext, readInsert, parenthesized_append hfront (parenthesis_notMem_intercalate hcolumn)]
  simp only [hvaluesBehind, if_true]
  rw [parenthesized_append hopening (parenthesis_notMem_intercalate hvalue),
    columnList_intercalate hcolumns hcolumn, columnList_intercalate hvalues hvalue]

/-! ## The statement -/

theorem isItem_quoteName (db : DBType) (n : Name) : IsItem (quoteName db n.text) := by
  have hword : ∀ b ∈ n.text, isWordByte b = true :=
    fun b hb ↦ isWordByte_of_isNameByte (n.plain b hb)
  rw [quoteName]
  split_ifs
  · refine ⟨List.append_ne_nil_of_right_ne_nil _ (List.cons_ne_nil _ _), fun b hb ↦ ?_⟩
    rw [List.mem_append, List.mem_append] at hb
    obtain (hb | hb) | hb := hb
    · exact .inr (.inl (List.mem_singleton.mp hb))
    · exact .inl (hword b hb)
    · exact .inr (.inl (List.mem_singleton.mp hb))
  · exact ⟨n.text_ne_nil, fun b hb ↦ .inl (hword b hb)⟩

theorem isItem_valuePlaceholder (db : DBType) (k : ℕ) : IsItem (valuePlaceholder db k) := by
  rw [valuePlaceholder]
  split_ifs
  · refine ⟨List.cons_ne_nil _ _, fun b hb ↦ ?_⟩
    obtain rfl | hb := List.mem_cons.mp hb
    · exact .inl (by decide)
    · exact .inl (isWordByte_of_isDigit (isDigit_of_mem_natText hb))
  · exact ⟨List.cons_ne_nil _ _, fun b hb ↦ .inr (.inr (List.mem_singleton.mp hb))⟩

section

variable {r : Registry} {T : Entity} {insert : Bool}

theorem exists_name_of_mem {name : Bytes} (h : name ∈ statementColumns r T insert) :
    ∃ n : Name, name = n.text := by
  obtain ⟨f, -, rfl⟩ := List.mem_map.mp (List.mem_filter.mp h).1
  exact ⟨f.name, rfl⟩

/-- The placeholders of a statement. -/
def placeholderList (db : DBType) (n : ℕ) : List Bytes :=
  (List.range' 1 n).map (valuePlaceholder db)

theorem appended_never (item : Bytes → ℕ → Bytes) {names : List Bytes} (hne : names ≠ [])
    (index : ℕ) :
    ∃ front, appended (fun _ ↦ false) item names index = front ++ ascii ")" := by
  induction names generalizing index with
  | nil => exact absurd rfl hne
  | cons name names ih =>
    rcases names with _ | ⟨next, names⟩
    · exact ⟨item name (index + 1), rfl⟩
    · obtain ⟨front, hfront⟩ := ih (List.cons_ne_nil _ _) (index + 1)
      refine ⟨item name (index + 1) ++ ascii "," ++ front, ?_⟩
      rw [appended_cons_cons, if_neg Bool.false_ne_true, hfront]
      simp only [List.append_assoc]

/-- Where no field is left out, the lists are closed when the loop ends. -/
theorem run_never_eq (db : DBType) :
    (InsertLists.run db (fun _ ↦ false) T.columnNames InsertLists.start).fields
        = listText (ascii "(") (T.columnNames.map (quoteName db)) ∧
      (InsertLists.run db (fun _ ↦ false) T.columnNames InsertLists.start).values
        = listText (ascii "values(") (placeholderList db T.columnNames.length) := by
  have hne : T.columnNames ≠ [] := List.map_eq_nil_iff.not.mpr T.fields_ne_nil
  obtain ⟨hclosedFields, hclosedValues⟩ := closeList_run T db fun _ ↦ false
  obtain ⟨hfields, hvalues⟩ :=
    @InsertLists.run_eq db (fun _ ↦ false) T.columnNames InsertLists.start
  obtain ⟨frontFields, hfrontFields⟩ :=
    appended_never (fun name _ ↦ quoteName db name) hne InsertLists.start.index
  obtain ⟨frontValues, hfrontValues⟩ :=
    appended_never (fun _ index ↦ valuePlaceholder db index) hne InsertLists.start.index
  have hall : (T.columnNames.filter fun _ ↦ !false) = T.columnNames :=
    List.filter_eq_self.mpr fun _ _ ↦ rfl
  rw [hall] at hclosedFields hclosedValues
  constructor
  · rw [← hclosedFields, hfields, hfrontFields, ← List.append_assoc, closeList_of_closed]
  · rw [placeholderList, ← hclosedValues, hvalues, hfrontValues, ← List.append_assoc,
      closeList_of_closed]

/-- The words in front of the table. -/
def insertWords (db : DBType) (insert : Bool) : Bytes :=
  if db = .postgresql ∨ insert = true then ascii "insert into " else ascii "replace into "

/-- What stands in front of the lists. -/
def insertFront (db : DBType) (T : Entity) (insert : Bool) : Bytes :=
  insertWords db insert ++ T.tableName ++ ascii " "

/-- The text of the statement up to the end of its lists. -/
def insertText (db : DBType) (r : Registry) (T : Entity) (insert : Bool) : Bytes :=
  insertFront db T insert ++ listText (ascii "(") ((statementColumns r T insert).map (quoteName db))
    ++ ascii " " ++ listText (ascii "values(")
      (placeholderList db (statementColumns r T insert).length)

theorem generateInsertSql_of_plain {db : DBType} (h : ¬(db = .postgresql ∧ insert = false))
    (args : List Bytes) :
    generateInsertSql r T db insert args = insertText db r T insert ++ ascii " " := by
  have hwords : insertWords db insert
      = if insert then ascii "insert into " else ascii "replace into " := by
    rw [insertWords]
    rcases insert with _ | _
    · exact if_neg fun hor ↦ hor.elim (fun hdb ↦ h ⟨hdb, rfl⟩) nofun
    · exact if_pos (.inr rfl)
  rw [generateInsertSql, if_neg h, generatePlainInsertSql_columns, insertText, insertFront, hwords]
  rfl

/-- The lists of an upsert are those of a statement that leaves out nothing. -/
theorem exists_generateInsertSql (db : DBType) (args : List Bytes) :
    ∃ rest, generateInsertSql r T db insert args = insertText db r T insert ++ rest := by
  by_cases h : db = .postgresql ∧ insert = false
  · obtain ⟨rfl, rfl⟩ := h
    obtain ⟨hfields, hvalues⟩ := run_never_eq (T := T) .postgresql
    have hcolumns : statementColumns r T false = T.columnNames :=
      List.filter_eq_self.mpr fun _ _ ↦ rfl
    rw [generateInsertSql, if_pos ⟨rfl, rfl⟩, generateUpsertSql, hfields, hvalues, insertText,
      hcolumns]
    refine ⟨ascii " " ++ (ascii "on conflict(" ++ conflictTarget r T args ++ ascii ")") ++ ascii " "
      ++ ascii "do update set" ++ ascii " " ++ upsertSet T.columnNames 1 ++ ascii " ", ?_⟩
    simp [appendArgs, insertFront, insertWords]
  · exact ⟨ascii " ", generateInsertSql_of_plain h args⟩

theorem opening_notMem_insertFront (db : DBType) :
    openingParenthesis ∉ insertFront db T insert := by
  have hwords : openingParenthesis ∉ insertWords db insert := by
    rw [insertWords]
    split_ifs <;> decide
  have htable : openingParenthesis ∉ T.tableName := by
    intro hmem
    rw [Entity.tableName, getShortStructName_eq] at hmem
    exact absurd (T.structName.name.plain openingParenthesis hmem) (by decide)
  rw [insertFront, List.mem_append, List.mem_append, not_or, not_or]
  exact ⟨⟨hwords, htable⟩, by decide⟩

theorem placeholderList_ne_nil (db : DBType) {n : ℕ} (h : n ≠ 0) : placeholderList db n ≠ [] := by
  rwa [placeholderList, ne_eq, List.map_eq_nil_iff, List.range'_eq_nil_iff]

theorem isItem_of_mem_columns (db : DBType) :
    ∀ x ∈ (statementColumns r T insert).map (quoteName db), IsItem x := by
  intro x hx
  obtain ⟨name, hname, rfl⟩ := List.mem_map.mp hx
  obtain ⟨n, rfl⟩ := exists_name_of_mem hname
  exact isItem_quoteName db n

theorem isItem_of_mem_placeholderList (db : DBType) (n : ℕ) :
    ∀ x ∈ placeholderList db n, IsItem x := by
  intro x hx
  obtain ⟨k, -, rfl⟩ := List.mem_map.mp hx
  exact isItem_valuePlaceholder db k

theorem readInsert_generateInsertSql (db : DBType) (args : List Bytes)
    (hne : statementColumns r T insert ≠ []) :
    readInsert (generateInsertSql r T db insert args)
      = some ((statementColumns r T insert).map (quoteName db),
          placeholderList db (statementColumns r T insert).length) := by
  obtain ⟨rest, hrest⟩ : ∃ rest, generateInsertSql r T db insert args
      = insertText db r T insert ++ rest := exists_generateInsertSql db args
  rw [hrest, insertText]
  exact readInsert_append (opening_notMem_insertFront db) (List.map_eq_nil_iff.not.mpr hne)
    (placeholderList_ne_nil db (mt List.length_eq_zero_iff.mp hne)) (isItem_of_mem_columns db)
    (isItem_of_mem_placeholderList db _) rest

/-! ## The values -/

theorem insertWalk_eq (t : Record) (names : List Bytes) :
    insertWalk r T t insert names
      = (names.filter fun name ↦ !(insert && r.isAutoKey T.structName name)).map t := by
  induction names with
  | nil => rfl
  | cons name names ih =>
    rw [insertWalk]
    rcases h : insert && r.isAutoKey T.structName name with _ | _
    · rw [List.filter_cons_of_pos (by simp [h]), if_neg Bool.false_ne_true, ih]
      rfl
    · rw [List.filter_cons_of_neg (by simp [h]), if_pos rfl, ih]

theorem insertWalk_columnNames (t : Record) :
    insertWalk r T t insert T.columnNames = (statementColumns r T insert).map t :=
  insertWalk_eq t T.columnNames

/-- With numbers or without, the placeholders take the values one after the other. -/
theorem givesValues_placeholderList (db : DBType) (values : List QueryArg) :
    GivesValues (placeholderList db values.length) values values := by
  have hlength : (placeholderList db values.length).length = values.length := by
    rw [placeholderList, List.length_map, List.length_range']
  refine ⟨hlength.symm, List.ext_getElem (by simp [hlength]) fun i _ hi ↦ ?_⟩
  have hlt : i < values.length := by simpa using hi
  have hvalue : values[i]? = some values[i] := List.getElem?_eq_getElem hlt
  simp only [List.getElem_mapIdx, placeholderList, List.getElem_map, List.getElem_range',
    placeholderValue, valuePlaceholder]
  split_ifs
  · exact hvalue
  · have hnumber : decimalValue ((ascii "$" ++ natText (1 + 1 * i)).drop 1) - 1 = i := by
      change decimalValue (natText (1 + 1 * i)) - 1 = i
      rw [decimalValue_natText]
      omega
    rw [hnumber, hvalue]
  · exact hvalue
  · rename_i hmark
    exact absurd rfl hmark

/-! ## The text of the asynchronous client -/

theorem places_insertFront (noBackslashEscapes : Bool) :
    (mysqlScanner noBackslashEscapes).Places (insertFront .mysql T insert) 0 := by
  apply Scanner.places_code
  intro b hb
  rw [insertFront, List.mem_append, List.mem_append] at hb
  obtain (hb | hb) | hb := hb
  · have hwords : ∀ b ∈ insertWords .mysql insert, isCodeByte b = true ∧ b ≠ questionMark := by
      rw [insertWords]
      split_ifs <;> decide
    exact hwords b hb
  · rw [Entity.tableName, getShortStructName_eq] at hb
    have hword : isWordByte b = true := isWordByte_of_isNameByte (T.structName.name.plain b hb)
    refine ⟨isCodeByte_of_isWordByte hword, ?_⟩
    rintro rfl
    exact absurd hword (by decide)
  · obtain rfl := List.mem_singleton.mp hb
    decide

/-- A list of quoted names, with the parenthesis that closes it. -/
theorem places_quotedNames (noBackslashEscapes : Bool) {names : List Bytes} (hne : names ≠ [])
    (h : ∀ name ∈ names, ∀ b ∈ name, b ≠ backtick) :
    (mysqlScanner noBackslashEscapes).Places
      ((ascii ",").intercalate (names.map (quoteName .mysql)) ++ ascii ")") 0 := by
  have hname {name : Bytes} (hname : ∀ b ∈ name, b ≠ backtick) {c : Byte}
      (hc : isCodeByte c = true) (hmark : c ≠ questionMark) :
      (mysqlScanner noBackslashEscapes).Places (quoteName .mysql name ++ [c]) 0 := by
    have htext : quoteName .mysql name ++ [c] = backtick :: name ++ [backtick, c] := by
      simp [quoteName, ascii, backtick]
    rw [htext]
    exact Scanner.places_backticks rfl hname hc hmark
  induction names with
  | nil => exact absurd rfl hne
  | cons name names ih =>
    obtain ⟨hfirst, hnames⟩ := List.forall_mem_cons.mp h
    rcases names with _ | ⟨next, names⟩
    · rw [List.map_singleton, List.intercalate_singleton]
      exact hname hfirst (by decide) (by decide)
    · rw [List.map_cons, List.map_cons, List.intercalate_cons_cons, List.append_assoc]
      exact (hname hfirst (by decide) (by decide)).append (ih (List.cons_ne_nil _ _) hnames)

theorem placeholderList_mysql (names : List Bytes) :
    placeholderList .mysql names.length = names.map fun _ ↦ [questionMark] := by
  rw [List.map_const', placeholderList, List.eq_replicate_iff]
  refine ⟨by rw [List.length_map, List.length_range'], fun x hx ↦ ?_⟩
  obtain ⟨k, -, rfl⟩ := List.mem_map.mp hx
  rfl

/-- The values are written where the placeholders stand. -/
theorem formatInsertSql_eq (t : Record) (noBackslashEscapes : Bool) (args : List Bytes)
    (hne : statementColumns r T insert ≠ []) :
    ∃ front, generateInsertSql r T .mysql insert args = front ++ ascii "values("
        ++ (ascii ",").intercalate (placeholderList .mysql (statementColumns r T insert).length)
        ++ ascii ") " ∧
      formatInsertSql r T t insert (generateInsertSql r T .mysql insert args) noBackslashEscapes
        = .ok (front ++ ascii "values(" ++ (ascii ",").intercalate
          (((statementColumns r T insert).map t).map (toQueryArg noBackslashEscapes))
            ++ ascii ") ") := by
  let columns := (ascii ",").intercalate ((statementColumns r T insert).map (quoteName .mysql))
  let front := insertFront .mysql T insert ++ ascii "(" ++ (columns ++ ascii ")") ++ ascii " "
  have hplaceholders :
      placeholderList .mysql (statementColumns r T insert).length ≠ [] :=
    placeholderList_ne_nil .mysql (mt List.length_eq_zero_iff.mp hne)
  have hsql : generateInsertSql r T .mysql insert args = front ++ ascii "values("
        ++ (ascii ",").intercalate (placeholderList .mysql (statementColumns r T insert).length)
        ++ ascii ") " := by
    have hplain : ¬(DBType.mysql = .postgresql ∧ insert = false) := fun h ↦ nomatch h.1
    rw [generateInsertSql_of_plain hplain, insertText, listText,
      if_neg (List.map_eq_nil_iff.not.mpr hne), listText, if_neg hplaceholders]
    simp [front, columns, ascii, closingParenthesis]
  have hnames : ∀ name ∈ statementColumns r T insert, ∀ b ∈ name, b ≠ backtick := by
    intro name hname
    obtain ⟨n, rfl⟩ := exists_name_of_mem hname
    exact ne_backtick_of_mem_name n
  have hcode (text : Bytes) (h : ∀ b ∈ text, isCodeByte b = true ∧ b ≠ questionMark) :
      (mysqlScanner noBackslashEscapes).Fills text [] text := (Scanner.places_code h).fills
  have hfront : (mysqlScanner noBackslashEscapes).Fills front [] front :=
    (((places_insertFront noBackslashEscapes).fills.append (hcode (ascii "(") (by decide))).append
      (places_quotedNames noBackslashEscapes hne hnames).fills).append
        (hcode (ascii " ") (by decide))
  have hcomma : (mysqlScanner noBackslashEscapes).Places (ascii ",") 0 :=
    Scanner.places_code (by decide)
  have hvalues : (mysqlScanner noBackslashEscapes).Fills
      ((ascii ",").intercalate ((statementColumns r T insert).map fun _ ↦ [questionMark]))
      ((statementColumns r T insert).map fun name ↦ toQueryArg noBackslashEscapes (t name))
      ((ascii ",").intercalate
        ((statementColumns r T insert).map fun name ↦ toQueryArg noBackslashEscapes (t name))) :=
    Scanner.fills_intercalate hcomma hne fun _ _ ↦ Scanner.fills_questionMark _
  have hall := ((hfront.append (hcode (ascii "values(") (by decide))).append hvalues).append
    (hcode (ascii ") ") (by decide))
  simp only [List.nil_append, List.append_nil] at hall
  refine ⟨front, hsql, ?_⟩
  rw [formatInsertSql, insertWalk_columnNames, hsql, placeholderList_mysql, List.map_map]
  exact formatValues_of_fills hall

/-- **Insert columns and values.** On every backend, an insert or a replacement with a column names
the columns of its fields and gives each of them the value of its field. -/
theorem valuesAgree (b : Backend) (r : Registry) (T : Entity) (t : Record) (insert : Bool)
    (args : List Bytes) (h : ∃ name ∈ T.columnNames, r.isAutoKey T.structName name = false) :
    ∃ columns placeholders, ValuesAgree b r T t insert
      (generateInsertSql r T b.dbType insert args) columns placeholders := by
  have hne : statementColumns r T insert ≠ [] := by
    obtain ⟨name, hname, hkey⟩ := h
    refine List.ne_nil_of_mem (List.mem_filter.mpr ⟨hname, ?_⟩)
    rw [hkey, Bool.and_false]
    rfl
  have hlength : ((statementColumns r T insert).map (quoteName b.dbType)).length
      = (placeholderList b.dbType (statementColumns r T insert).length).length := by
    rw [placeholderList, List.length_map, List.length_map, List.length_range']
  have hgives : GivesValues (placeholderList b.dbType (statementColumns r T insert).length)
      (insertWalk r T t insert T.columnNames) ((statementColumns r T insert).map t) := by
    have hplaceholders := givesValues_placeholderList b.dbType ((statementColumns r T insert).map t)
    rw [List.length_map] at hplaceholders
    rwa [insertWalk_columnNames]
  refine ⟨_, _, readInsert_generateInsertSql b.dbType args hne, hlength, ?_, rfl, ?_, ?_⟩
  · intro item hitem
    obtain hitem | hitem := List.mem_append.mp hitem
    · exact (isItem_of_mem_columns b.dbType item hitem).ne_nil
    · exact (isItem_of_mem_placeholderList b.dbType _ item hitem).ne_nil
  · intro hdb
    rw [placeholderList, List.length_map, hdb]
    exact List.map_congr_left fun k _ ↦ if_pos rfl
  · obtain _ | _ | noBackslashEscapes | _ := b
    · exact hgives
    · exact hgives
    · exact formatInsertSql_eq t noBackslashEscapes args hne
    · exact hgives

end

/-- A class whose auto key is its last field. -/
def keyLast : Entity where
  structName := ⟨[], .lit (ascii "t")⟩
  fields := [⟨.lit (ascii "a"), .value (.integral .int), Eq.refl true⟩,
    ⟨.lit (ascii "id"), .value (.integral .int), Eq.refl true⟩]
  fields_ne_nil := List.cons_ne_nil _ _
  nodup := by decide

theorem valuesAgree_keyLast :
    let r := Registry.empty.addAutoKeyField (ascii "t") (ascii "id")
    generateInsertSql r keyLast .postgresql true [] = ascii "insert into t (a) values($1) " ∧
      ∃ columns placeholders, ValuesAgree .postgresql r keyLast (fun _ ↦ .integer 1) true
        (generateInsertSql r keyLast .postgresql true []) columns placeholders :=
  ⟨by decide, valuesAgree .postgresql (Registry.empty.addAutoKeyField (ascii "t") (ascii "id"))
    keyLast (fun _ ↦ .integer 1) true [] ⟨ascii "a", by decide, by decide⟩⟩

end Ormpp
