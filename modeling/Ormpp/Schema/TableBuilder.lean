import Ormpp.Partition.Statement
import Ormpp.Schema.CreateTable

/-!
# The builder of a table

The calls on `create_table_builder` collect the parts of a `CREATE TABLE`, which `execute` writes
and sends once the partitions are valid. The primary key is a set of columns that two calls add to.
It is declared behind the columns, but for SQLite, where it stands beside the auto-increment column
when the table has one.
-/

namespace Ormpp

/-! ## Calls -/

/-- A call on `create_table_builder`. Both forms of `check` come down to a text. -/
inductive TableCall
  | autoIncrement (field : Name)
  | primaryKey (fields : List Name)
  | notNull (fields : List Name)
  | unique (fields : List Name)
  | foreignKey (localName refClass refName : Bytes)
  | defaultValue (field : Name) (val : Value)
  | check (expr : Bytes)
  | charset (cs : Bytes)
  | engine (eng : Bytes)
  | partitionByRange (field : Bytes)
  | partition (partition : RangePartitionDesc)

/-- `create_table_builder`. -/
structure TableBuilder where
  autoIncrementField : Bytes := []
  primaryKeys : StringSet := []
  notNullFields : StringSet := []
  uniqueConstraints : List Bytes := []
  defaultValues : Bytes → Option Bytes := fun _ ↦ none
  checkConstraints : List Bytes := []
  foreignKeys : List (Bytes × Bytes) := []
  charset : Bytes := []
  engine : Bytes := []
  rangePartitionField : Bytes := []
  rangePartitions : List RangePartitionDesc := []

namespace TableBuilder

/-- What a call does to the builder. -/
def call (b : TableBuilder) : TableCall → TableBuilder
  | .autoIncrement field =>
    { b with
      autoIncrementField := field.text
      primaryKeys := b.primaryKeys.add field.text }
  | .primaryKey fields =>
    { b with primaryKeys := fields.foldl (fun s f ↦ s.add f.text) b.primaryKeys }
  | .notNull fields =>
    { b with notNullFields := fields.foldl (fun s f ↦ s.add f.text) b.notNullFields }
  | .unique fields =>
    { b with uniqueConstraints := b.uniqueConstraints ++ [columnsText fields] }
  | .foreignKey localName refClass refName =>
    { b with foreignKeys := b.foreignKeys ++
        [(localName, refClass ++ ascii "(" ++ refName ++ ascii ")")] }
  | .defaultValue field val =>
    { b with defaultValues := fun name ↦
        if name = field.text then some val.toText else b.defaultValues name }
  | .check expr => { b with checkConstraints := b.checkConstraints ++ [expr] }
  | .charset cs => { b with charset := cs }
  | .engine eng => { b with engine := eng }
  | .partitionByRange field => { b with rangePartitionField := field }
  | .partition partition => { b with rangePartitions := b.rangePartitions ++ [partition] }

/-- The builder after some calls. -/
def ofCalls (calls : List TableCall) : TableBuilder := calls.foldl call {}

variable (b : TableBuilder) (db : DBType) (T : Entity)

/-! ## What is written -/

/-- `validate_partition_config`. -/
def validatePartitionConfig : Bool :=
  if b.rangePartitionField = [] then b.rangePartitions = []
  else if !isValidSqlIdentifier b.rangePartitionField then false
  else if db = .mysql ∧ b.rangePartitions = [] then false
  else b.rangePartitions.all isValidPartition

/-- The column is the one of `auto_increment_field_`. -/
def isAuto (name : Bytes) : Bool := b.autoIncrementField ≠ [] ∧ name = b.autoIncrementField

/-- The body of the loop over the fields: the text, and `auto_inline_pk`. -/
def declare (s : Bytes × Bool) (f : Field) : Bytes × Bool :=
  let (sql, autoInlinePk) := s
  let fieldName := f.name.text
  let isAuto := b.isAuto fieldName
  let typeStr := f.typeName db
  let typeStr :=
    if db = .postgresql ∧ isAuto then
      if typeStr = ascii "bigint" then ascii "bigserial" else ascii "serial"
    else typeStr
  let sql := sql ++ fieldName ++ ascii " " ++ typeStr
  let sql :=
    if db = .sqlite ∧ isAuto then sql ++ ascii " PRIMARY KEY AUTOINCREMENT"
    else if db = .mysql ∧ isAuto then sql ++ ascii " AUTO_INCREMENT"
    else sql
  let sql := if fieldName ∈ b.notNullFields then sql ++ ascii " NOT NULL" else sql
  let sql :=
    match b.defaultValues fieldName with
    | some val => sql ++ ascii " DEFAULT " ++ val
    | none => sql
  (sql ++ ascii ",", autoInlinePk || (db = .sqlite ∧ isAuto))

/-- A loop that writes a comma in front of every item but the first. -/
def separated (items : List Bytes) : Bytes :=
  (items.foldl (fun (s : Bytes × Bool) item ↦
    (s.1 ++ (if s.2 then [] else ascii ",") ++ item, false)) ([], true)).1

/-- What is written behind the parenthesis. -/
def tableOptions : Bytes :=
  match db with
  | .mysql =>
    (if b.engine ≠ [] then ascii " ENGINE=" ++ b.engine else []) ++
      (if b.charset ≠ [] then ascii " DEFAULT CHARSET=" ++ b.charset
        else ascii " DEFAULT CHARSET=utf8mb4") ++
      (if b.rangePartitionField ≠ [] then
        ascii " PARTITION BY RANGE COLUMNS(" ++ b.rangePartitionField ++ ascii ") (" ++
          separated (b.rangePartitions.map mysqlPartitionDefinition) ++ ascii ")"
        else [])
  | .postgresql =>
    if b.rangePartitionField ≠ [] then
      ascii " PARTITION BY RANGE (" ++ b.rangePartitionField ++ ascii ")"
    else []
  | .sqlite => []

/-- `generate_sql`, up to the comma behind the last constraint. -/
def generateConstraints : Bytes :=
  let sql := ascii "CREATE TABLE IF NOT EXISTS " ++ T.tableName ++ ascii "("
  let (sql, autoInlinePk) := T.fields.foldl (b.declare db) (sql, false)
  let sql :=
    if !autoInlinePk ∧ b.primaryKeys ≠ [] then
      sql ++ ascii "PRIMARY KEY (" ++ separated b.primaryKeys ++ ascii "),"
    else sql
  let sql := sql ++ b.uniqueConstraints.flatMap fun u ↦ ascii "UNIQUE (" ++ u ++ ascii "),"
  let sql := sql ++ b.foreignKeys.flatMap fun key ↦
    ascii "FOREIGN KEY (" ++ key.1 ++ ascii ") REFERENCES " ++ key.2 ++ ascii ","
  sql ++ b.checkConstraints.flatMap fun chk ↦ ascii "CHECK (" ++ chk ++ ascii "),"

/-- `generate_sql`. -/
def generateSql : Bytes :=
  let sql := b.generateConstraints db T
  let sql := if sql.getLast? = some 0x2c then sql.dropLast else sql
  sql ++ ascii ")" ++ b.tableOptions db

/-- `generate_sqls`. -/
def generateSqls : List Bytes :=
  b.generateSql db T ::
    (if b.rangePartitionField ≠ [] then
      match db with
      | .postgresql => b.rangePartitions.map (postgresqlPartitionDefinitionSql T.tableName)
      | .sqlite => [sqlitePartitionIndexSql T.tableName b.rangePartitionField]
      | .mysql => []
    else [])

/-- The statements that `execute` sends, as long as none of them fails. -/
def executedSqls : List Bytes :=
  if b.validatePartitionConfig db then b.generateSqls db T else []

end TableBuilder

/-! ## The statement -/

/-- A column of the statement. -/
structure BuilderColumn where
  name : Bytes
  typeName : Bytes
  autoIncrement : Bool
  notNull : Bool
  default : Option Bytes

/-- The type of an auto-increment column, and what goes with it. -/
def autoColumnText (db : DBType) (typeName : Bytes) : Bytes :=
  match db with
  | .sqlite => typeName ++ ascii " PRIMARY KEY AUTOINCREMENT"
  | .mysql => typeName ++ ascii " AUTO_INCREMENT"
  | .postgresql => if typeName = ascii "bigint" then ascii "bigserial" else ascii "serial"

def BuilderColumn.text (db : DBType) (c : BuilderColumn) : Bytes :=
  c.name ++ ascii " " ++ (if c.autoIncrement then autoColumnText db c.typeName else c.typeName) ++
    (if c.notNull then ascii " NOT NULL" else []) ++
    (c.default.map fun val ↦ ascii " DEFAULT " ++ val).getD []

/-- A `CREATE TABLE`. -/
structure TableStatement where
  table : Bytes
  columns : List BuilderColumn
  /-- The columns of the `PRIMARY KEY` behind the columns, if there is one. -/
  keyClause : List Bytes
  constraints : List Bytes
  options : Bytes

namespace TableStatement

/-- The elements between the parentheses. -/
def elements (db : DBType) (s : TableStatement) : List Bytes :=
  s.columns.map (BuilderColumn.text db) ++
    (if s.keyClause = [] then []
      else [ascii "PRIMARY KEY (" ++ (ascii ",").intercalate s.keyClause ++ ascii ")"]) ++
    s.constraints

def text (db : DBType) (s : TableStatement) : Bytes :=
  ascii "CREATE TABLE IF NOT EXISTS " ++ s.table ++ ascii "(" ++
    (ascii ",").intercalate (s.elements db) ++ ascii ")" ++ s.options

/-- The primary key that the statement declares: the auto-increment columns of SQLite, which have it
beside them, and the columns of the clause. -/
def primaryKey (db : DBType) (s : TableStatement) : List Bytes :=
  (s.columns.filter fun c ↦ c.autoIncrement ∧ db = .sqlite).map BuilderColumn.name ++ s.keyClause

end TableStatement

namespace TableBuilder

variable (b : TableBuilder) (db : DBType) (T : Entity)

/-- The key stands beside a column. -/
def inlineKey : Bool := db = .sqlite ∧ (T.columnNames.any b.isAuto)

/-- A field as a column of the statement. -/
def column (f : Field) : BuilderColumn where
  name := f.name.text
  typeName := f.typeName db
  autoIncrement := b.isAuto f.name.text
  notNull := f.name.text ∈ b.notNullFields
  default := b.defaultValues f.name.text

/-- What `generate_sql` writes, as a statement. -/
def statement : TableStatement where
  table := T.tableName
  columns := T.fields.map (b.column db)
  keyClause := if b.inlineKey db T then [] else b.primaryKeys
  constraints := b.uniqueConstraints.map (fun u ↦ ascii "UNIQUE (" ++ u ++ ascii ")") ++
    b.foreignKeys.map (fun key ↦
      ascii "FOREIGN KEY (" ++ key.1 ++ ascii ") REFERENCES " ++ key.2) ++
    b.checkConstraints.map fun chk ↦ ascii "CHECK (" ++ chk ++ ascii ")"
  options := b.tableOptions db

/-- The statement that `execute` sends first, if it sends any. -/
def executes : Option TableStatement :=
  if b.validatePartitionConfig db then some (b.statement db T) else none

/-! ## The text is that of the statement -/

theorem separated_eq (items : List Bytes) : separated items = (ascii ",").intercalate items := by
  have hmore (items : List Bytes) (sql : Bytes) :
      (items.foldl (fun (s : Bytes × Bool) item ↦
          (s.1 ++ (if s.2 then [] else ascii ",") ++ item, false)) (sql, false)).1
        = (ascii ",").intercalate (sql :: items) := by
    induction items generalizing sql with
    | nil => exact List.intercalate_singleton.symm
    | cons item items ih =>
      rw [List.foldl_cons, if_neg Bool.false_ne_true, ih, List.intercalate_cons_cons]
      rcases items with _ | ⟨next, items⟩ <;> simp [List.intercalate_cons_cons]
  rcases items with _ | ⟨item, items⟩
  · rfl
  · rw [separated, List.foldl_cons, if_pos rfl, List.append_nil, List.nil_append, hmore]

/-- One turn of the loop writes the column of the field. -/
theorem declare_eq (s : Bytes × Bool) (f : Field) :
    b.declare db s f = (s.1 ++ (b.column db f).text db ++ ascii ",",
      s.2 || (db = .sqlite ∧ b.isAuto f.name.text)) := by
  obtain ⟨sql, autoInlinePk⟩ := s
  rcases hdefault : b.defaultValues f.name.text with _ | val <;>
    by_cases hnull : f.name.text ∈ b.notNullFields <;>
    rcases hauto : b.isAuto f.name.text <;> cases db <;>
    simp [declare, column, BuilderColumn.text, autoColumnText, hdefault, hnull, hauto]

theorem foldl_declare (fields : List Field) (s : Bytes × Bool) :
    fields.foldl (b.declare db) s
      = (s.1 ++ (fields.map fun f ↦ (b.column db f).text db).flatMap fun c ↦ c ++ ascii ",",
        s.2 || (db = .sqlite ∧ (fields.map fun f ↦ f.name.text).any b.isAuto)) := by
  induction fields generalizing s with
  | nil => simp
  | cons f fields ih =>
    rw [List.foldl_cons, ih, declare_eq]
    rcases s.2 <;> cases db <;> simp

theorem getLast?_flatMap_comma {xs : List Bytes} (h : xs ≠ []) :
    (xs.flatMap fun x ↦ x ++ ascii ",").getLast? = some 0x2c := by
  have hlast : xs.flatMap (fun x ↦ x ++ ascii ",")
      = xs.dropLast.flatMap (fun x ↦ x ++ ascii ",") ++ xs.getLast h ++ [0x2c] := by
    nth_rewrite 1 [← List.dropLast_append_getLast h]
    rw [List.flatMap_append, List.append_assoc]
    simp [ascii]
  rw [hlast, List.getLast?_concat]

/-- Every element is written with a comma behind it. -/
theorem generateConstraints_eq :
    b.generateConstraints db T
      = ascii "CREATE TABLE IF NOT EXISTS " ++ T.tableName ++ ascii "(" ++
          ((b.statement db T).elements db).flatMap fun c ↦ c ++ ascii "," := by
  have hinline : (false || decide (db = .sqlite ∧
      (T.fields.map fun f ↦ f.name.text).any b.isAuto = true)) = b.inlineKey db T :=
    Bool.false_or _
  have hkey (sql : Bytes) :
      (if !(b.inlineKey db T) ∧ b.primaryKeys ≠ [] then
          sql ++ ascii "PRIMARY KEY (" ++ separated b.primaryKeys ++ ascii ")," else sql)
        = sql ++ (if (b.statement db T).keyClause = [] then []
            else [ascii "PRIMARY KEY (" ++ (ascii ",").intercalate (b.statement db T).keyClause ++
              ascii ")"]).flatMap fun c ↦ c ++ ascii "," := by
    rw [separated_eq, statement]
    rcases b.inlineKey db T
    · by_cases hkeys : b.primaryKeys = [] <;> simp [hkeys, ascii]
    · simp
  rw [generateConstraints, foldl_declare, hinline]
  dsimp only
  rw [hkey, TableStatement.elements, List.flatMap_append, List.flatMap_append]
  simp [statement, List.flatMap_map, ascii]

theorem generateSql_eq : b.generateSql db T = (b.statement db T).text db := by
  have helements : (b.statement db T).elements db ≠ [] := by
    obtain ⟨f, fields, hfields⟩ := List.exists_cons_of_ne_nil T.fields_ne_nil
    simp [TableStatement.elements, statement, hfields]
  have hlast := getLast?_flatMap_comma helements
  have hne : ((b.statement db T).elements db).flatMap (fun c ↦ c ++ ascii ",") ≠ [] := by
    rintro hnil
    rw [hnil] at hlast
    exact absurd hlast (by simp)
  rw [generateSql, generateConstraints_eq, List.getLast?_append_of_ne_nil _ hne, if_pos hlast,
    List.dropLast_append_of_ne_nil hne, dropLast_flatMap_comma]
  rfl

/-- The first statement that is sent. -/
theorem head?_executedSqls :
    (b.executedSqls db T).head? = (b.executes db T).map (TableStatement.text db) := by
  rw [executedSqls, executes]
  split_ifs
  · exact congrArg some (b.generateSql_eq db T)
  · rfl

end TableBuilder

end Ormpp
