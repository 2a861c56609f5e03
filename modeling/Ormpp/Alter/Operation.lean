import Ormpp.Data.Search
import Ormpp.Partition.Statement
import Ormpp.Schema.CreateTable

/-!
# The operations of an altered table

The calls on `alter_table_builder` queue operations, from each of which `build_operation_sql` makes
a statement. The operations about partitions keep their arguments and are checked when the statement
is made. All others are one text, the clause of `ALTER TABLE`; on SQLite and PostgreSQL, where an
index has a statement of its own, the text is a marker with the arguments behind it.
-/

namespace Ormpp

open Sql Search

/-! ## Calls -/

/-- A call on `alter_table_builder`. Columns are given by their names. -/
inductive AlterCall
  /-- `add_column` for a field of the class. -/
  | addField (name extra : Bytes)
  | addColumn (name typeAndConstraints : Bytes)
  | dropColumn (name : Bytes)
  | renameColumn (name newName : Bytes)
  | modifyColumn (name newType : Bytes)
  | addIndex (indexName : Bytes) (fields : List Name)
  | dropIndex (indexName : Bytes)
  | addUnique (constraintName : Bytes) (fields : List Name)
  | dropConstraint (constraintName : Bytes)
  | addForeignKey (constraintName localName refClass refName : Bytes)
  | addCheck (constraintName expr : Bytes)
  | raw (clause : Bytes)
  | clearPartition (field : Bytes) (partition : RangePartitionDesc)
  | addPartition (field : Bytes) (partition : RangePartitionDesc)
  | dropPartition (partition : RangePartitionDesc)

/-- An operation that is queued: `alter_op`, of the kind `alter_clause` or about a partition. -/
inductive AlterOperation
  | clause (sql : Bytes)
  | partition (op : AlterOp)

/-- The type of the field at `target_idx`, the first one if none has the name. -/
def fieldTypeName (T : Entity) (db : DBType) (name : Bytes) : Bytes :=
  ((T.fields.reverse.find? fun f ↦ f.name.text = name).getD
    (T.fields.head T.fields_ne_nil)).typeName db

/-- `ci_prefix`. -/
def createIndexMarker : Bytes := ascii "_CREATE__INDEX__ "

/-- `di_prefix`. -/
def dropIndexMarker : Bytes := ascii "_DROP_INDEX__ "

namespace AlterCall

variable (T : Entity) (db : DBType)

/-- The clause of a call that is not about a partition. -/
def clause : AlterCall → Bytes
  | addField name extra =>
    ascii "ADD COLUMN " ++ name ++ ascii " " ++ fieldTypeName T db name ++
      (if extra = [] then [] else ascii " " ++ extra)
  | addColumn name typeAndConstraints =>
    ascii "ADD COLUMN " ++ name ++ ascii " " ++ typeAndConstraints
  | dropColumn name => ascii "DROP COLUMN " ++ name
  | renameColumn name newName => ascii "RENAME COLUMN " ++ name ++ ascii " TO " ++ newName
  | modifyColumn name newType =>
    match db with
    | .mysql => ascii "MODIFY COLUMN " ++ name ++ ascii " " ++ newType
    | .postgresql => ascii "ALTER COLUMN " ++ name ++ ascii " TYPE " ++ newType
    | .sqlite => []
  | addIndex indexName fields =>
    if db = .mysql then
      ascii "ADD INDEX " ++ indexName ++ ascii " (" ++ columnsText fields ++ ascii ")"
    else createIndexMarker ++ indexName ++ ascii " " ++ columnsText fields
  | dropIndex indexName =>
    if db = .mysql then ascii "DROP INDEX " ++ indexName else dropIndexMarker ++ indexName
  | addUnique constraintName fields =>
    ascii "ADD CONSTRAINT " ++ constraintName ++ ascii " UNIQUE (" ++ columnsText fields ++
      ascii ")"
  | dropConstraint constraintName =>
    (if db = .mysql then ascii "DROP INDEX " else ascii "DROP CONSTRAINT ") ++ constraintName
  | addForeignKey constraintName localName refClass refName =>
    ascii "ADD CONSTRAINT " ++ constraintName ++ ascii " FOREIGN KEY (" ++ localName ++
      ascii ") REFERENCES " ++ refClass ++ ascii "(" ++ refName ++ ascii ")"
  | addCheck constraintName expr =>
    ascii "ADD CONSTRAINT " ++ constraintName ++ ascii " CHECK (" ++ expr ++ ascii ")"
  | raw clause => clause
  | clearPartition _ _ | addPartition _ _ | dropPartition _ => []

/-- What the call queues. -/
def operation : AlterCall → AlterOperation
  | clearPartition field partition => .partition ⟨.clearPartition, field, partition⟩
  | addPartition field partition => .partition ⟨.addPartition, field, partition⟩
  | dropPartition partition => .partition ⟨.dropPartition, [], partition⟩
  | call => .clause (call.clause T db)

end AlterCall

/-! ## Statements -/

/-- `ALTER TABLE`, with a clause. -/
def alterTableSql (tableName sql : Bytes) : Bytes :=
  ascii "ALTER TABLE " ++ tableName ++ ascii " " ++ sql

/-- `CREATE INDEX`, for the texts of a name and of columns. -/
def createIndexSql (db : DBType) (idxName tableName cols : Bytes) : Bytes :=
  (if db = .postgresql then ascii "CREATE INDEX IF NOT EXISTS " else ascii "CREATE INDEX ") ++
    idxName ++ ascii " ON " ++ tableName ++ ascii "(" ++ cols ++ ascii ")"

/-- What stands in front of the first blank and what stands behind it. At `npos` both are all of
the text. -/
def cutAtBlank (rest : Bytes) : Bytes × Bytes :=
  match find [blank] rest with
  | some sp => (rest.take sp, rest.drop (sp + 1))
  | none => (rest, rest)

/-- The statement of an operation that is not about a partition. -/
def clauseSql (db : DBType) (tableName sql : Bytes) : Bytes :=
  if createIndexMarker <+: sql then
    let (idxName, cols) := cutAtBlank (sql.drop createIndexMarker.length)
    createIndexSql db idxName tableName cols
  else if dropIndexMarker <+: sql then
    ascii "DROP INDEX " ++ sql.drop dropIndexMarker.length
  else alterTableSql tableName sql

/-- `build_operation_sql`, or `none` where it returns false. -/
def AlterOperation.buildOperationSql (db : DBType) (tableName : Bytes) :
    AlterOperation → Option Bytes
  | .clause sql => some (clauseSql db tableName sql)
  | .partition op => op.buildOperationSql db tableName

end Ormpp
