import Ormpp.Schema.CreateTable

/-!
# The statement of an insert

`generate_insert_sql` names the columns in the order of the fields, without the auto key where the
statement inserts. PostgreSQL has no `replace`: there the statement names every column, and behind
`on conflict` the columns by which it tells that a row is already there.
-/

namespace Ormpp

/-! ## The text -/

/-- The two lists of an insert while they are written. -/
structure InsertLists where
  fields : Bytes
  values : Bytes
  index : ℕ

/-- What stands for a value. PostgreSQL numbers its placeholders. -/
def valuePlaceholder (db : DBType) (index : ℕ) : Bytes :=
  if db = .postgresql then ascii "$" ++ natText index else ascii "?"

/-- The loop body, which goes on without a field that is left out. -/
def InsertLists.add (db : DBType) (leftOut : Bytes → Bool) (separator : Bytes) (s : InsertLists)
    (fieldName : Bytes) : InsertLists :=
  if leftOut fieldName then s
  else
    { fields := s.fields ++ quoteName db fieldName ++ separator
      values := s.values ++ valuePlaceholder db (s.index + 1) ++ separator
      index := s.index + 1 }

/-- The loop over the fields. The last one is followed by a parenthesis. -/
def InsertLists.run (db : DBType) (leftOut : Bytes → Bool) : List Bytes → InsertLists → InsertLists
  | [], s => s
  | [name], s => s.add db leftOut (ascii ")") name
  | name :: rest, s => run db leftOut rest (s.add db leftOut (ascii ",") name)

/-- The lists in front of the loop. -/
def InsertLists.start : InsertLists := ⟨ascii "(", ascii "values(", 0⟩

def closingParenthesis : Byte := 0x29

/-- `if (fields.back() != ')') fields.back() = ')'`. -/
def closeList (text : Bytes) : Bytes :=
  if text.getLast? = some closingParenthesis then text else text.dropLast ++ [closingParenthesis]

/-- The assignments of an upsert. -/
def upsertSet : List Bytes → ℕ → Bytes
  | [], _ => []
  | [name], index => appendArgs [] [name, ascii "=", ascii "$" ++ natText index] ++ ascii ";"
  | name :: rest, index =>
    appendArgs [] [name, ascii "=", ascii "$" ++ natText index] ++ ascii "," ++
      upsertSet rest (index + 1)

section

variable (r : Registry) (T : Entity)

/-- What stands between the parentheses of `on conflict`: the arguments, or the conflict keys. -/
def conflictTarget (args : List Bytes) : Bytes :=
  if args = [] then r.getConflictKey T.structName else appendArgs [] (args.filter fun a ↦ a ≠ [])

/-- `generate_insert_sql` where PostgreSQL replaces. -/
def generateUpsertSql (args : List Bytes) : Bytes :=
  let lists := InsertLists.run .postgresql (fun _ ↦ false) T.columnNames InsertLists.start
  let conflict := ascii "on conflict(" ++ conflictTarget r T args ++ ascii ")"
  appendArgs (appendArgs (ascii "insert into ") [T.tableName])
    [lists.fields, lists.values, conflict, ascii "do update set", upsertSet T.columnNames 1]

/-- `generate_insert_sql` everywhere else. -/
def generatePlainInsertSql (db : DBType) (insert : Bool) : Bytes :=
  let leftOut := fun name ↦ insert && r.isAutoKey T.structName name
  let lists := InsertLists.run db leftOut T.columnNames InsertLists.start
  appendArgs (appendArgs (if insert then ascii "insert into " else ascii "replace into ")
    [T.tableName]) [closeList lists.fields, closeList lists.values]

/-- `generate_insert_sql`. -/
def generateInsertSql (db : DBType) (insert : Bool) (args : List Bytes) : Bytes :=
  if db = .postgresql ∧ insert = false then generateUpsertSql r T args
  else generatePlainInsertSql r T db insert

end

/-! ## The lists of an insert -/

/-- A list of columns or of values. Where nothing is listed, its parenthesis is closed before it is
opened. -/
def listText (front : Bytes) (items : List Bytes) : Bytes :=
  if items = [] then front.dropLast ++ [closingParenthesis]
  else front ++ (ascii ",").intercalate items ++ [closingParenthesis]

/-- What the loop appends to one of the lists, with `item` for a field and its number. -/
def appended (leftOut : Bytes → Bool) (item : Bytes → ℕ → Bytes) : List Bytes → ℕ → Bytes
  | [], _ => []
  | [name], index => if leftOut name then [] else item name (index + 1) ++ ascii ")"
  | name :: rest, index =>
    if leftOut name then appended leftOut item rest index
    else item name (index + 1) ++ ascii "," ++ appended leftOut item rest (index + 1)

variable {db : DBType} {leftOut : Bytes → Bool}

theorem appended_cons_cons (item : Bytes → ℕ → Bytes) (name next : Bytes) (rest : List Bytes)
    (index : ℕ) :
    appended leftOut item (name :: next :: rest) index
      = if leftOut name then appended leftOut item (next :: rest) index
        else item name (index + 1) ++ ascii ","
          ++ appended leftOut item (next :: rest) (index + 1) := rfl

theorem InsertLists.run_cons_cons (name next : Bytes) (rest : List Bytes) (s : InsertLists) :
    run db leftOut (name :: next :: rest) s
      = run db leftOut (next :: rest) (s.add db leftOut (ascii ",") name) := rfl

/-- The loop appends to both lists. -/
theorem InsertLists.run_eq (names : List Bytes) (s : InsertLists) :
    (s.run db leftOut names).fields
        = s.fields ++ appended leftOut (fun name _ ↦ quoteName db name) names s.index ∧
      (s.run db leftOut names).values
        = s.values ++ appended leftOut (fun _ index ↦ valuePlaceholder db index) names s.index := by
  induction names generalizing s with
  | nil => exact ⟨(List.append_nil _).symm, (List.append_nil _).symm⟩
  | cons name names ih =>
    rcases names with _ | ⟨next, names⟩
    · rw [run, add, appended, appended]
      split_ifs
      · exact ⟨(List.append_nil _).symm, (List.append_nil _).symm⟩
      · exact ⟨List.append_assoc _ _ _, List.append_assoc _ _ _⟩
    · obtain ⟨hfields, hvalues⟩ := ih (s.add db leftOut (ascii ",") name)
      rw [run_cons_cons, hfields, hvalues, add, appended_cons_cons, appended_cons_cons]
      split_ifs
      · exact ⟨rfl, rfl⟩
      · simp only [List.append_assoc, and_self]

theorem closeList_of_open {front : Bytes} (h : front.getLast? ≠ some closingParenthesis) :
    closeList front = listText front [] := if_neg h

theorem closeList_of_closed (text : Bytes) : closeList (text ++ ascii ")") = text ++ ascii ")" :=
  if_pos List.getLast?_concat

/-- The list is closed where its last item stands, whether or not the last field is left out. -/
theorem closeList_appended (item : Bytes → ℕ → Bytes) {names : List Bytes} (hne : names ≠ [])
    {front : Bytes} (hfront : front.getLast? ≠ some closingParenthesis) (index : ℕ) :
    closeList (front ++ appended leftOut item names index)
      = listText front (((names.filter fun name ↦ !leftOut name).zipIdx (index + 1)).map
          fun p ↦ item p.1 p.2) := by
  induction names generalizing front index with
  | nil => exact absurd rfl hne
  | cons name names ih =>
    by_cases hleft : leftOut name = true
    · rw [List.filter_cons_of_neg (by simp [hleft])]
      rcases names with _ | ⟨next, names⟩
      · rw [appended, if_pos hleft, List.append_nil]
        exact closeList_of_open hfront
      · rw [appended_cons_cons, if_pos hleft]
        exact ih (List.cons_ne_nil _ _) hfront index
    · rw [List.filter_cons_of_pos (by simp [hleft])]
      rcases names with _ | ⟨next, names⟩
      · rw [appended, if_neg hleft, ← List.append_assoc, closeList_of_closed, List.filter_nil,
          List.zipIdx_singleton, List.map_singleton, listText, if_neg (List.cons_ne_nil _ _),
          List.intercalate_singleton]
        rfl
      · -- The item and its comma are in front of what the rest of the loop appends.
        have hcomma : (front ++ item name (index + 1) ++ ascii ",").getLast?
            ≠ some closingParenthesis := by
          have hlast : (front ++ item name (index + 1) ++ ascii ",").getLast? = some 0x2c :=
            List.getLast?_concat
          rw [hlast]
          decide
        rw [appended_cons_cons, if_neg hleft, ← List.append_assoc, ← List.append_assoc,
          ih (List.cons_ne_nil _ _) hcomma, List.zipIdx_cons, List.map_cons]
        rcases ((next :: names).filter fun name ↦ !leftOut name).zipIdx (index + 1 + 1) with
          _ | ⟨p, ps⟩
        · have hdrop : (front ++ item name (index + 1) ++ ascii ",").dropLast
              = front ++ item name (index + 1) := List.dropLast_concat
          rw [List.map_nil, listText, if_pos rfl, hdrop, listText, if_neg (List.cons_ne_nil _ _),
            List.intercalate_singleton]
        · rw [List.map_cons, listText, if_neg (List.cons_ne_nil _ _), listText,
            if_neg (List.cons_ne_nil _ _), List.intercalate_cons_cons]
          simp only [List.append_assoc]

/-! ## The columns of an insert -/

section

variable (r : Registry) (T : Entity)

/-- The columns that an insert leaves out. -/
def omittedColumns : List Bytes := T.columnNames.filter fun name ↦ r.isAutoKey T.structName name

/-- The columns that it names. -/
def insertColumns : List Bytes := T.columnNames.filter fun name ↦ !r.isAutoKey T.structName name

/-- The columns that a statement names. -/
def statementColumns (insert : Bool) : List Bytes :=
  T.columnNames.filter fun name ↦ !(insert && r.isAutoKey T.structName name)

/-- The lists that the loop has written. -/
theorem closeList_run (db : DBType) (leftOut : Bytes → Bool) :
    closeList (InsertLists.run db leftOut T.columnNames InsertLists.start).fields
        = listText (ascii "(")
            ((T.columnNames.filter fun name ↦ !leftOut name).map (quoteName db)) ∧
      closeList (InsertLists.run db leftOut T.columnNames InsertLists.start).values
        = listText (ascii "values(")
            ((List.range' 1 (T.columnNames.filter fun name ↦ !leftOut name).length).map
              (valuePlaceholder db)) := by
  have hne : T.columnNames ≠ [] := List.map_eq_nil_iff.not.mpr T.fields_ne_nil
  have hopen : (ascii "(").getLast? ≠ some closingParenthesis := by decide
  have hvaluesOpen : (ascii "values(").getLast? ≠ some closingParenthesis := by decide
  obtain ⟨hrunFields, hrunValues⟩ :=
    @InsertLists.run_eq db leftOut T.columnNames InsertLists.start
  constructor
  · have hnames (names : List Bytes) :
        (names.zipIdx 1).map (fun p ↦ quoteName db p.1) = names.map (quoteName db) := by
      rw [← List.zipIdx_map_fst 1 names, List.map_map, List.zipIdx_map_fst]
      rfl
    rw [hrunFields, ← hnames]
    exact closeList_appended _ hne hopen 0
  · rw [hrunValues, ← List.zipIdx_map_snd, List.map_map]
    exact closeList_appended _ hne hvaluesOpen 0

/-- The statement is that of its columns. -/
theorem generatePlainInsertSql_columns (db : DBType) (insert : Bool) :
    generatePlainInsertSql r T db insert
      = (if insert then ascii "insert into " else ascii "replace into ") ++ T.tableName
        ++ ascii " " ++ listText (ascii "(") ((statementColumns r T insert).map (quoteName db))
        ++ ascii " " ++ listText (ascii "values(")
            ((List.range' 1 (statementColumns r T insert).length).map (valuePlaceholder db))
        ++ ascii " " := by
  obtain ⟨hfields, hvalues⟩ :=
    closeList_run T db fun name ↦ insert && r.isAutoKey T.structName name
  rw [generatePlainInsertSql, hfields, hvalues]
  simp [appendArgs, statementColumns]

/-- The statement of an insert is that of its columns. -/
theorem generatePlainInsertSql_eq (db : DBType) :
    generatePlainInsertSql r T db true
      = ascii "insert into " ++ T.tableName ++ ascii " "
        ++ listText (ascii "(") ((insertColumns r T).map (quoteName db)) ++ ascii " "
        ++ listText (ascii "values(")
            ((List.range' 1 (insertColumns r T).length).map (valuePlaceholder db))
        ++ ascii " " :=
  generatePlainInsertSql_columns r T db true

end

end Ormpp
