import Ormpp.Bulk.Action
import Ormpp.Data.Mealy
import Ormpp.Sql.Database
import Ormpp.Store.Condition

/-!
# The SQLite client

`sqlite.hpp` on a connection: the texts are generated, prepared, given their values and executed,
a vector in a transaction if that is enabled, and whether there was an error is kept in
`has_error_`. What is left out is the text of the error.
-/

namespace Ormpp

open Sql hiding isBlank
open Bulk (OptType intMin)

/-- The values of an object's members. -/
abbrev DiscreteClass.Values (T : DiscreteClass) : Type := (i : T.Index) → (T.member i).type.Value

/-- An argument behind a condition. -/
abbrev Argument : Type := (f : DiscreteField) × f.Value

/-- A connection, with what the class `sqlite` keeps beside its handle. -/
structure SqliteClient where
  handle : SqlConnection
  /-- `transaction_`. -/
  transaction : Bool := true
  /-- `has_error_`. -/
  hasError : Bool := false
  /-- `sqlite3_finalize` will give an error, that of the last step of `stmt_`. -/
  failed : Bool := false

/-! ## Texts -/

namespace DiscreteClass

variable (T : DiscreteClass)

/-- `generate_createtb_sql`. -/
def createSql : Bytes := (generateCreatetbSql .sqlite T.aliased.registry T.aliased.entity []).1

/-- `generate_insert_sql`, which says `replace` for another type than an insert. -/
def insertSql (type : OptType) : Bytes :=
  generateInsertSql T.aliased.registry T.aliased.entity .sqlite (type == .insert) []

/-- `generate_update_sql`. -/
def updateSql : Bytes := generateUpdateSql T.aliased.reflected .sqlite

/-- `generate_delete_sql`. -/
def deleteSql (str : Bytes) : Bytes := generateDeleteSql T.table (some str)

/-- What `query_s` prepares. -/
def querySql (str : Bytes) : Bytes := querySText T.named .sqlite str

/-- The values that `stmt_execute` binds: those of all members, but for the auto key in an insert,
and in an update those of the conflict keys once more. -/
def boundValues {T : DiscreteClass} (allocated : Bool) (type : OptType) (t : T.Values) :
    List Sqlite.Cell :=
  let cell (i : T.Index) := Sqlite.setParamBind allocated (T.member i).type (t i)
  let fields := T.indices.filter fun i ↦
    !(type == .insert && T.aliased.registry.isAutoKey T.structName (T.column i))
  let keys := if type = .update then
    T.indices.filter fun i ↦ isConflictKey T.aliased.reflected (T.column i) .sqlite else []
  fields.map cell ++ keys.map cell

/-- An object from the columns of a row. -/
def readObject (beyond : ℕ → Byte) (row : List Sqlite.Cell) : T.Values :=
  fun i ↦ Sqlite.assign beyond (row.getD i .null) (T.member i).type

end DiscreteClass

/-- The parameters that are bound. The others are `NULL`. -/
def parameterValues (values : List Sqlite.Cell) (k : ℕ) : Sqlite.Cell := values.getD k .null

/-! ## Calls -/

/-- What is called on a connection for the classes of a program, where `X` has the objects. -/
inductive StoreCall (ι : Type) (X : ι → Type)
  | createDatatable (i : ι)
  | save (i : ι) (type : OptType) (x : X i)
  | saveAll (i : ι) (type : OptType) (v : List (X i))
  | getInsertIdAfterInsert (i : ι) (x : X i)
  | getInsertIdAfterInsertAll (i : ι) (v : List (X i))
  | deleteRecordsS (i : ι) (str : Bytes) (args : List Argument)
  | queryS (i : ι) (str : Bytes) (args : List Argument)
  | begin
  | commit
  | rollback
  | setEnableTransaction (enable : Bool)

/-- What a call returns. -/
inductive StoreAnswer (ι : Type) (X : ι → Type)
  | done (ok : Bool)
  | count (n : ℤ)
  | id (n : Option ℤ)
  | objects (i : ι) (v : List (X i))

/-- A call with other objects. -/
def StoreCall.map {ι : Type} {X Y : ι → Type} (f : (i : ι) → X i → Y i) :
    StoreCall ι X → StoreCall ι Y
  | createDatatable i => createDatatable i
  | save i type x => save i type (f i x)
  | saveAll i type v => saveAll i type (v.map (f i))
  | getInsertIdAfterInsert i x => getInsertIdAfterInsert i (f i x)
  | getInsertIdAfterInsertAll i v => getInsertIdAfterInsertAll i (v.map (f i))
  | deleteRecordsS i str args => deleteRecordsS i str args
  | queryS i str args => queryS i str args
  | begin => begin
  | commit => commit
  | rollback => rollback
  | setEnableTransaction enable => setEnableTransaction enable

namespace SqliteClient

section

-- the order of the rows in a table, the data of empty vectors, and the memory behind a text
variable (scan : List SqlRow → List SqlRow) (allocated : Bool) (beyond : ℕ → Byte)
  (c : SqliteClient) {T : DiscreteClass}

def resetError : SqliteClient := { c with hasError := false }

def setLastError : SqliteClient := { c with hasError := true }

/-! ## Calls of SQLite -/

/-- `sqlite3_exec`. -/
def exec (sql : Bytes) : Option SqliteClient := do
  let stmt ← prepare c.handle.database sql
  let (handle, _) ← c.handle.execute scan (parameterValues []) stmt.statement
  some { c with handle := handle }

/-- `sqlite3_exec` between `reset_error` and the report of its failure. -/
def execReporting (sql : Bytes) : SqliteClient × Bool :=
  match c.resetError.exec scan sql with
  | some c => (c, true)
  | none => (c.resetError.setLastError, false)

/-- `sqlite3_prepare_v2`. -/
def prepareV2 (sql : Bytes) : SqliteClient × Option Prepared :=
  match prepare c.handle.database sql with
  | some stmt => ({ c with failed := false }, some stmt)
  | none => (c.setLastError, none)

/-- `sqlite3_step` until there are no more rows. -/
def step (stmt : Prepared) (values : List Sqlite.Cell) :
    SqliteClient × Option (List (List Sqlite.Cell)) :=
  match c.handle.execute scan (parameterValues (values.take stmt.parameters)) stmt.statement with
  | some (handle, rows) => ({ c with handle := handle, failed := false }, some rows)
  | none => ({ c with failed := true }, none)

/-- The scope of a `guard_statment`. -/
def guardStatment {α : Type} (work : SqliteClient → SqliteClient × α) : SqliteClient × α :=
  let (c, a) := work c.resetError
  (if c.failed then c.setLastError else c, a)

/-! ## Tables and transactions -/

def createDatatable (T : DiscreteClass) : SqliteClient × Bool := c.execReporting scan T.createSql

def begin : SqliteClient × Bool := c.execReporting scan (ascii "BEGIN")

def commit : SqliteClient × Bool := c.execReporting scan (ascii "COMMIT")

def rollback : SqliteClient × Bool := c.execReporting scan (ascii "ROLLBACK")

def setEnableTransaction (enable : Bool) : SqliteClient := { c with transaction := enable }

/-! ## Objects that are written -/

/-- `stmt_execute`, where binding a value fails if there is no parameter for it. -/
def stmtExecute (stmt : Prepared) (type : OptType) (t : T.Values) : SqliteClient × ℤ :=
  let values := DiscreteClass.boundValues allocated type t
  if stmt.parameters < values.length then (c.setLastError, intMin)
  else
    match c.step scan stmt values with
    | (c, none) => (c.setLastError, intMin)
    | (c, some _) =>
      (c, if c.handle.changes = 0 then if type = .update then 0 else intMin else 1)

/-- `insert_or_update_impl`, as far as the question whether it has a value. -/
def insertOrUpdateImpl (sql : Bytes) (type : OptType) (t : T.Values) : SqliteClient × Bool :=
  match c.prepareV2 sql with
  | (c, none) => (c, false)
  | (c, some stmt) =>
    c.guardStatment fun c ↦
      let (c, count) := c.stmtExecute scan allocated stmt type t
      (c, count ≠ intMin)

/-- The loop of `insert_or_update_impl` for a vector. A statement that was executed can be reset. -/
def executeAll (stmt : Prepared) (type : OptType) :
    List T.Values → SqliteClient → SqliteClient × Bool
  | [], c => (c, true)
  | t :: v, c =>
    let (c, count) := c.stmtExecute scan allocated stmt type t
    if count = intMin then (if c.transaction then (c.rollback scan).1 else c, false)
    else executeAll stmt type v c

/-- What `insert_or_update_impl` for a vector does while its statement is prepared. -/
def executeBegun (stmt : Prepared) (type : OptType) (v : List T.Values) : SqliteClient × Bool :=
  let (c, begun) := if c.transaction then c.begin scan else (c, true)
  if begun then
    let (c, taken) := executeAll scan allocated stmt type v c
    if taken then if c.transaction then c.commit scan else (c, true) else (c, false)
  else (c, false)

/-- `insert_or_update_impl` for a vector. -/
def insertOrUpdateAll (sql : Bytes) (type : OptType) (v : List T.Values) : SqliteClient × Bool :=
  match c.prepareV2 sql with
  | (c, none) => (c, false)
  | (c, some stmt) => c.guardStatment fun c ↦ c.executeBegun scan allocated stmt type v

/-- What `insert`, `replace` and `update` do with the text that is generated for them. There is no
text for an update without keys. -/
def writing (T : DiscreteClass) (type : OptType) (write : Bytes → SqliteClient × Bool) :
    SqliteClient × Bool :=
  if type = .update then
    if T.updateSql = [] then (c.setLastError, false) else write T.updateSql
  else write (T.insertSql type)

/-- `insert`, `replace` and `update`. -/
def save (type : OptType) (t : T.Values) : SqliteClient × ℤ :=
  let (c, value) := c.writing T type fun sql ↦ c.insertOrUpdateImpl scan allocated sql type t
  (c, if value then 1 else intMin)

/-- `insert`, `replace` and `update` of a vector. -/
def saveAll (type : OptType) (v : List T.Values) : SqliteClient × ℤ :=
  let (c, value) := c.writing T type fun sql ↦ c.insertOrUpdateAll scan allocated sql type v
  (c, if value then castInt v.length else intMin)

/-- `sqlite3_last_insert_rowid` as it is returned. -/
def insertId (value : Bool) : Option ℤ :=
  if value then c.handle.lastInsertRowid.map (· % 2 ^ 64) else some 0

/-- `get_insert_id_after_insert`. -/
def getInsertIdAfterInsert (t : T.Values) : SqliteClient × Option ℤ :=
  let (c, value) := c.insertOrUpdateImpl scan allocated (T.insertSql .insert) .insert t
  (c, c.insertId value)

/-- `get_insert_id_after_insert` of a vector. -/
def getInsertIdAfterInsertAll (v : List T.Values) : SqliteClient × Option ℤ :=
  let (c, value) := c.insertOrUpdateAll scan allocated (T.insertSql .insert) .insert v
  (c, c.insertId value)

/-! ## Objects that are found -/

/-- The values of the arguments. -/
def argumentValues (args : List Argument) : List Sqlite.Cell :=
  args.map fun arg ↦ Sqlite.setParamBind allocated arg.1 arg.2

/-- `delete_records_s`. -/
def deleteRecordsS (T : DiscreteClass) (str : Bytes) (args : List Argument) : SqliteClient × ℤ :=
  match c.prepareV2 (T.deleteSql str) with
  | (c, none) => (c, 0)
  | (c, some stmt) =>
    c.guardStatment fun c ↦
      match c.step scan stmt (argumentValues allocated args) with
      | (c, none) => (c.setLastError, 0)
      | (c, some _) => (c, c.handle.changes)

/-- `query_s`. -/
def queryS (T : DiscreteClass) (str : Bytes) (args : List Argument) :
    SqliteClient × List T.Values :=
  match c.prepareV2 (T.querySql str) with
  | (c, none) => (c, [])
  | (c, some stmt) =>
    c.guardStatment fun c ↦
      match c.step scan stmt (argumentValues allocated args) with
      | (c, none) => (c, [])
      | (c, some rows) => (c, rows.map (T.readObject beyond))

/-! ## The client as a machine -/

variable {ι : Type} (T : ι → DiscreteClass)

def call : StoreCall ι (fun i ↦ (T i).Values) → SqliteClient × StoreAnswer ι fun i ↦ (T i).Values
  | .createDatatable i => (c.createDatatable scan (T i)).map id .done
  | .save _ type t => (c.save scan allocated type t).map id .count
  | .saveAll _ type v => (c.saveAll scan allocated type v).map id .count
  | .getInsertIdAfterInsert _ t => (c.getInsertIdAfterInsert scan allocated t).map id .id
  | .getInsertIdAfterInsertAll _ v => (c.getInsertIdAfterInsertAll scan allocated v).map id .id
  | .deleteRecordsS i str args => (c.deleteRecordsS scan allocated (T i) str args).map id .count
  | .queryS i str args => (c.queryS scan allocated beyond (T i) str args).map id (.objects i)
  | .begin => (c.begin scan).map id .done
  | .commit => (c.commit scan).map id .done
  | .rollback => (c.rollback scan).map id .done
  | .setEnableTransaction enable => (c.setEnableTransaction enable, .done true)

/-- The client, which tells by `has_error` after every call whether there was an error. -/
def machine : Mealy SqliteClient (StoreCall ι fun i ↦ (T i).Values)
    (StoreAnswer ι (fun i ↦ (T i).Values) × Bool) where
  step c request :=
    let (c, answer) := c.call scan allocated beyond T request
    (c, answer, c.hasError)

end

end SqliteClient

end Ormpp
