import Ormpp.Codec.Sqlite
import Ormpp.Sql.Evaluation
import Ormpp.Sql.Statement

/-!
# Tables

What SQLite does to one table. Names are the same in capitals and in small letters. A value that is
stored is converted as the type of its column asks for; where that could make a real number of it,
and where a comparison has no meaning of its own, nothing is said. An `INTEGER PRIMARY KEY` is the
number of the row, and is given one where none is given for it.
-/

namespace Ormpp

/-- The value as a condition sees it. -/
def Sqlite.Cell.datum? : Sqlite.Cell → Option Sql.Datum
  | .null => some .null
  | .integer n => some (.integer n)
  | .text t => some (.text t)
  | .blob _ => none

/-- The number, if the value is one. -/
def Sqlite.Cell.integer? : Sqlite.Cell → Option ℤ
  | .integer n => some n
  | _ => none

namespace Sql

/-! ## Values -/

/-- Where the columns of an expression have their values. -/
abbrev Environment := Option Bytes → Bytes → Sqlite.Cell

namespace Expr

/-- The value of an operand. -/
def value (env : Environment) : Expr → Option Sqlite.Cell
  | .column table name => some (env table name)
  | .integer n => some (.integer n)
  | .text value => some (.text value)
  | .null => some .null
  | .negate e =>
    match e.value env with
    | some (.integer n) => some (.integer (-n))
    | some .null => some .null
    | _ => none
  | _ => none

/-- The columns of an operand. -/
def operandColumns : Expr → List ColumnName
  | .column table name => [(table, name)]
  | .negate e => e.operandColumns
  | _ => []

/-- The columns of a condition. -/
def columns : Expr → List ColumnName
  | .not e => e.columns
  | .or lhs rhs | .and lhs rhs => lhs.columns ++ rhs.columns
  | .compare _ lhs rhs | .is _ lhs rhs | .like _ lhs rhs =>
    lhs.operandColumns ++ rhs.operandColumns
  | .between _ e lo hi => e.operandColumns ++ lo.operandColumns ++ hi.operandColumns
  | .isIn _ e list => e.operandColumns ++ list.flatMap operandColumns
  | .column table name => [(table, name)]
  | .negate e => e.operandColumns
  | .integer _ | .text _ | .null => []

/-- What a condition says where its columns have these values. -/
def truthIn (env : Environment) (e : Expr) : Option Truth :=
  if e.columns.all fun c ↦ (env c.1 c.2).datum?.isSome then
    e.truth fun table name ↦ (env table name).datum?.getD .null
  else none

end Expr

/-! ## Types of columns -/

/-- What a column makes of the values that are stored in it. -/
inductive Affinity
  | integer
  | text
  | blob
  | real
  | numeric
  deriving DecidableEq

/-- The rules by which the name of a type is read. -/
def affinity (typeName : Bytes) : Affinity :=
  let upper := typeName.map upperByte
  if ascii "INT" <:+: upper then .integer
  else if ascii "CHAR" <:+: upper ∨ ascii "CLOB" <:+: upper ∨ ascii "TEXT" <:+: upper then .text
  else if ascii "BLOB" <:+: upper ∨ upper = [] then .blob
  else if ascii "REAL" <:+: upper ∨ ascii "FLOA" <:+: upper ∨ ascii "DOUB" <:+: upper then .real
  else .numeric

/-- The value that is stored. A text in a column of numbers may be one, and then real. -/
def Affinity.apply : Affinity → Sqlite.Cell → Option Sqlite.Cell
  | .text, .integer n => some (.text (intText n))
  | .integer, .text _ | .numeric, .text _ | .real, .text _ | .real, .integer _ => none
  | _, v => some v

/-! ## Tables -/

/-- A name without its capitals. -/
def foldCase (name : Bytes) : Bytes := name.map upperByte

/-- A name that is kept for the tables of SQLite itself. -/
def isInternal (table : Bytes) : Bool := (ascii "SQLITE_").isPrefixOf (foldCase table)

abbrev SqlRow := Bytes → Sqlite.Cell

structure SqlTable where
  columns : List (Bytes × Affinity)
  /-- The column that is the number of the row. -/
  rowid : Option Bytes
  autoIncrement : Bool
  /-- Columns that no two rows have in common. -/
  unique : List (List Bytes)
  notNull : List Bytes
  rows : List SqlRow
  /-- The greatest number that a row has been given, where the table keeps it. -/
  last : ℤ

namespace TableElement

def column? : TableElement → Option ColumnDefinition
  | column c => some c
  | _ => none

def primaryKey? : TableElement → Option (List Bytes)
  | primaryKey names => some (names.map foldCase)
  | _ => none

def unique? : TableElement → Option (List Bytes)
  | unique names => some (names.map foldCase)
  | _ => none

end TableElement

namespace SqlTable

def isIntegerType (c : ColumnDefinition) : Bool := foldCase c.typeName = ascii "INTEGER"

/-- The column that is the number of the row: the one that is declared so, or the only one of the
primary key if it is declared an `INTEGER`. -/
def rowidColumn (defs : List ColumnDefinition) (keys : List (List Bytes)) : Option Bytes :=
  match defs.filter fun c ↦ c.autoIncrement, keys with
  | c :: _, _ => some (foldCase c.name)
  | [], [[name]] =>
    if defs.any fun c ↦ foldCase c.name = name && isIntegerType c then some name else none
  | _, _ => none

/-- The table of a definition. -/
def define (elements : List TableElement) : Option SqlTable :=
  let defs := elements.filterMap TableElement.column?
  let keys := elements.filterMap TableElement.primaryKey?
  let groups := elements.filterMap TableElement.unique?
  let names := defs.map fun c ↦ foldCase c.name
  let auto := defs.filter fun c ↦ c.autoIncrement
  let rowid := rowidColumn defs keys
  if names ≠ [] ∧ names.Nodup ∧ auto.length + keys.length ≤ 1 ∧ auto.all isIntegerType ∧
      (keys ++ groups).all fun group ↦ group.all fun name ↦ name ∈ names then
    some
      { columns := defs.map fun c ↦ (foldCase c.name, affinity c.typeName)
        rowid := rowid
        autoIncrement := auto ≠ []
        unique := rowid.toList.map (fun name ↦ [name]) ++ keys ++ groups
        notNull := (defs.filter fun c ↦ c.notNull).map fun c ↦ foldCase c.name
        rows := []
        last := 0 }
  else none

section

variable (t : SqlTable)

def has (name : Bytes) : Bool := foldCase name ∈ t.columns.map Prod.fst

/-- The rows have the same values in columns that no two rows have in common. `NULL` is the same as
nothing. -/
def Collides (row row' : SqlRow) : Prop :=
  ∃ group ∈ t.unique, ∀ c ∈ group, row c ≠ .null ∧ row c = row' c

instance (row row' : SqlRow) : Decidable (t.Collides row row') :=
  inferInstanceAs (Decidable (∃ group ∈ t.unique, ∀ c ∈ group, row c ≠ .null ∧ row c = row' c))

/-- What the constraints on a column ask of a row. -/
def Admits (row : SqlRow) : Prop := ∀ c ∈ t.notNull, row c ≠ .null

instance (row : SqlRow) : Decidable (t.Admits row) :=
  inferInstanceAs (Decidable (∀ c ∈ t.notNull, row c ≠ .null))

/-- A row as its columns store it. -/
def storedRow (given : SqlRow) : Option SqlRow :=
  if t.columns.all fun c ↦ (c.2.apply (given c.1)).isSome then
    some fun name ↦ ((t.columns.lookup name).bind fun a ↦ a.apply (given name)).getD .null
  else none

/-! ## Numbers of rows -/

/-- The next number of a row, unless there is none. -/
def nextRowid (c : Bytes) : Option ℤ :=
  let used := t.rows.filterMap fun row ↦ (row c).integer?
  let next := (((if t.autoIncrement then t.last :: used else used).max?).map (· + 1)).getD 1
  if next < 2 ^ 63 then some next else none

/-- The row with its number. -/
def numbered (row : SqlRow) : Option (SqlRow × Option ℤ) :=
  match t.rowid with
  | none => some (row, none)
  | some c =>
    match row c with
    | .null => (t.nextRowid c).map fun n ↦ (Function.update row c (.integer n), some n)
    | .integer n => some (row, some n)
    | _ => none

/-! ## Statements -/

/-- A row is inserted, where `replace` says that the rows in its way are deleted. -/
def insertRow (replace : Bool) (row : SqlRow) (rowid : Option ℤ) : Option SqlTable :=
  if t.Admits row ∧ (replace ∨ ∀ row' ∈ t.rows, ¬t.Collides row row') then
    some
      { t with
        rows := t.rows.filter (fun row' ↦ ¬t.Collides row row') ++ [row]
        last := if t.autoIncrement then max t.last (rowid.getD t.last) else t.last }
  else none

/-- `INSERT` and `REPLACE`, with the number of the row. -/
def insert (replace : Bool) (names : List Bytes) (values : List Sqlite.Cell) :
    Option (SqlTable × Option ℤ) := do
  let names := names.map foldCase
  if names.length = values.length ∧ names.Nodup then
    let row ← t.storedRow fun c ↦ ((names.zip values).lookup c).getD .null
    let (row, rowid) ← t.numbered row
    let t' ← t.insertRow replace row rowid
    some (t', rowid)
  else none

/-- The rows for which a test comes out, and those for which it does not. Every row has to have an
outcome. -/
def split (test : SqlRow → Option Bool) : Option (List SqlRow × List SqlRow) :=
  if t.rows.all fun row ↦ (test row).isSome then
    some (t.rows.filter fun row ↦ test row = some true,
      t.rows.filter fun row ↦ ¬test row = some true)
  else none

/-- `DELETE`, with the number of rows that are gone. -/
def delete (test : SqlRow → Option Bool) : Option (SqlTable × ℕ) := do
  let (gone, kept) ← t.split test
  some ({ t with rows := kept }, gone.length)

/-- The row with new values in some columns. The number of a row stays a number. -/
def assign (assignments : List (Bytes × (SqlRow → Option Sqlite.Cell))) (row : SqlRow) :
    Option SqlRow := do
  let values ← assignments.mapM fun a ↦ (a.2 row).map fun v ↦ (foldCase a.1, v)
  let row ← t.storedRow fun c ↦ (values.lookup c).getD (row c)
  match t.rowid with
  | none => some row
  | some c =>
    match row c with
    | .integer _ => some row
    | _ => none

/-- `UPDATE`, with the number of rows that are found. Rows may not collide when all of them have
their values; nothing is said of rows that collide before that. -/
def update (assignments : List (Bytes × (SqlRow → Option Sqlite.Cell)))
    (test : SqlRow → Option Bool) : Option (SqlTable × ℕ) := do
  let (found, _) ← t.split test
  let rows ← t.rows.mapM fun row ↦
    if test row = some true then t.assign assignments row else some row
  if (∀ row ∈ rows, t.Admits row) ∧ rows.Pairwise fun row row' ↦ ¬t.Collides row row' then
    some ({ t with rows := rows }, found.length)
  else none

end

end SqlTable

end Sql

end Ormpp
