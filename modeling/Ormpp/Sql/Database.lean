import Ormpp.Sql.Table

/-!
# Databases

What a connection does with a text that it prepares and executes: the text is read, the names in it
are looked up, and the statement is executed with the values that are bound to its parameters. A
statement that fails leaves the database as it is, and so does every statement of a transaction that
is rolled back. The rows that are found come in no order but the one that is asked for. Nothing is
said of the limits of SQLite, nor of the locks of other connections.
-/

namespace Ormpp

namespace Sql

abbrev SqlDatabase := Bytes → Option SqlTable

/-! ## Names -/

/-- The columns are parameters, or columns of the table. -/
def Resolved (table : Bytes) (t : SqlTable) (columns : List ColumnName) : Prop :=
  ∀ c ∈ columns, c.1 = some parameterTable ∨
    (∀ owner, c.1 = some owner → foldCase owner = foldCase table) ∧ t.has c.2 = true

instance (table : Bytes) (t : SqlTable) (columns : List ColumnName) :
    Decidable (Resolved table t columns) :=
  inferInstanceAs (Decidable (∀ c ∈ columns, c.1 = some parameterTable ∨
    (∀ owner, c.1 = some owner → foldCase owner = foldCase table) ∧ t.has c.2 = true))

/-- The columns that a statement names, with those that it writes. -/
def Statement.names : Statement → List ColumnName
  | .insert _ _ columns values => columns.map (none, ·) ++ values.flatMap Expr.columns
  | .update _ assignments condition =>
    assignments.flatMap (fun a ↦ (none, a.1) :: a.2.columns)
      ++ condition.toList.flatMap Expr.columns
  | .delete _ condition => condition.toList.flatMap Expr.columns
  | .select s =>
    s.columns ++ s.condition.toList.flatMap Expr.columns ++ s.order.map Prod.fst
      ++ (s.limit.toList ++ s.offset.toList).flatMap Expr.columns
  | .create _ _ | .begin | .commit | .rollback => []

/-- The table that a statement is about. -/
def Statement.table? : Statement → Option Bytes
  | .create table _ | .insert _ table _ _ | .update table _ _ | .delete table _ => some table
  | .select s => some s.table
  | .begin | .commit | .rollback => none

/-- The names of the statement are those of a table, or a table can be made. -/
def Statement.resolves (db : SqlDatabase) : Statement → Bool
  | .create table elements =>
    (db (foldCase table)).isSome || !isInternal table && (SqlTable.define elements).isSome
  | s =>
    match s.table? with
    | none => true
    | some table =>
      match db (foldCase table) with
      | none => false
      | some t => Resolved table t s.names

/-- A statement that can be executed. -/
structure Prepared where
  statement : Statement
  /-- `sqlite3_bind_parameter_count`. -/
  parameters : ℕ

/-- `sqlite3_prepare_v2`. -/
def prepare (db : SqlDatabase) (sql : Bytes) : Option Prepared :=
  match readStatement sql with
  | some s => if s.resolves db then some ⟨s, parameterCount sql⟩ else none
  | none => none

/-! ## Rows that are selected -/

/-- A row with the values of the parameters beside it. -/
def environment (bound : ℕ → Sqlite.Cell) (row : SqlRow) : Environment :=
  fun table name ↦ if table = some parameterTable then bound (decimalValue name)
    else row (foldCase name)

/-- The condition of a statement, of a row. -/
def test (bound : ℕ → Sqlite.Cell) (condition : Option Expr) (row : SqlRow) : Option Bool :=
  match condition with
  | none => some true
  | some e => (e.truthIn (environment bound row)).map fun t ↦ t = .yes

/-- Which of two values comes first. Values of different kinds are in the order of the kinds. -/
def cmp : Sqlite.Cell → Sqlite.Cell → Ordering
  | .null, .null => .eq
  | .null, _ => .lt
  | _, .null => .gt
  | .integer m, .integer n => compare m n
  | .integer _, _ => .lt
  | _, .integer _ => .gt
  | .text x, .text y => if x < y then .lt else if x = y then .eq else .gt
  | .text _, .blob _ => .lt
  | .blob _, .text _ => .gt
  | .blob x, .blob y => if x < y then .lt else if x = y then .eq else .gt

/-- A row that may come in front of another. -/
def comesFirst : List (ColumnName × Bool) → SqlRow → SqlRow → Bool
  | [], _, _ => true
  | (c, descending) :: keys, row, row' =>
    let value := row (foldCase c.2)
    let value' := row' (foldCase c.2)
    match if descending then cmp value' value else cmp value value' with
    | .lt => true
    | .eq => comesFirst keys row row'
    | .gt => false

/-- The number that bounds the rows, if there is one. A limit below zero is none. -/
def bound? (bound : ℕ → Sqlite.Cell) (e : Expr) : Option ℤ :=
  match e.value (environment bound fun _ ↦ .null) with
  | some (.integer n) => some n
  | _ => none

def limited (bound : ℕ → Sqlite.Cell) (limit offset : Option Expr) (rows : List SqlRow) :
    Option (List SqlRow) := do
  let rows ← match offset with
    | none => some rows
    | some e => (bound? bound e).map fun m ↦ rows.drop m.toNat
  match limit with
  | none => some rows
  | some e => (bound? bound e).map fun n ↦ if n < 0 then rows else rows.take n.toNat

section

-- the order in which a table gives its rows
variable (scan : List SqlRow → List SqlRow)

/-- `SELECT`. -/
def Selection.run (s : Selection) (t : SqlTable) (bound : ℕ → Sqlite.Cell) :
    Option (List (List Sqlite.Cell)) := do
  let (found, _) ← t.split (test bound s.condition)
  let rows ← limited bound s.limit s.offset ((scan found).mergeSort (comesFirst s.order))
  some (rows.map fun row ↦ s.columns.map fun c ↦ row (foldCase c.2))

/-! ## Connections -/

structure SqlConnection where
  database : SqlDatabase
  /-- The database as it was when the open transaction began. -/
  saved : Option SqlDatabase := none
  /-- `sqlite3_changes`. -/
  changes : ℤ := 0
  /-- `sqlite3_last_insert_rowid`, where the row has a column for its number. -/
  lastInsertRowid : Option ℤ := some 0

namespace SqlConnection

variable (c : SqlConnection)

def setTable (name : Bytes) (t : SqlTable) : SqlConnection :=
  { c with database := Function.update c.database (foldCase name) (some t) }

/-- A statement is executed with the values of its parameters, and gives rows, or fails. -/
def execute (bound : ℕ → Sqlite.Cell) : Statement → Option (SqlConnection × List (List Sqlite.Cell))
  | .create table elements =>
    match c.database (foldCase table) with
    | some _ => some (c, [])
    | none => (SqlTable.define elements).map fun t ↦ (c.setTable table t, [])
  | .insert replace table names values => do
    let t ← c.database (foldCase table)
    let values ← values.mapM fun e ↦ e.value (environment bound fun _ ↦ .null)
    let (t, rowid) ← t.insert replace names values
    some ({ c.setTable table t with
      changes := 1
      lastInsertRowid := rowid }, [])
  | .update table assignments condition => do
    let t ← c.database (foldCase table)
    let (t, n) ← t.update
      (assignments.map fun a ↦ (a.1, fun row ↦ a.2.value (environment bound row)))
      (test bound condition)
    some ({ c.setTable table t with changes := n }, [])
  | .delete table condition => do
    let t ← c.database (foldCase table)
    let (t, n) ← t.delete (test bound condition)
    some ({ c.setTable table t with changes := n }, [])
  | .select s => do
    let t ← c.database (foldCase s.table)
    let rows ← s.run scan t bound
    some (c, rows)
  | .begin => if c.saved.isNone then some ({ c with saved := some c.database }, []) else none
  | .commit => if c.saved.isSome then some ({ c with saved := none }, []) else none
  | .rollback => c.saved.map fun db ↦ ({ c with database := db, saved := none }, [])

end SqlConnection

end

end Sql

end Ormpp
