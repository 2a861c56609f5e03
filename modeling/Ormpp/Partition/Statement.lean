import Ormpp.Query.Builder
import Ormpp.Query.Tree

/-!
# Statements about partitions

A description of a partition is a name and the texts of two bounds. From it the builder makes the
declaration of the partition, the statement that deletes from it and the one that empties it: MySQL
is given a name and an upper bound, PostgreSQL a table for the partition, which is addressed as a
table of its own, and SQLite, which has no partitions, a predicate on the field.
-/

namespace Ormpp

/-! ## Descriptions -/

/-- `range_partition_desc`. -/
structure RangePartitionDesc where
  name : Bytes
  fromText : Bytes
  toText : Bytes
  maxvalue : Bool := false
  deriving DecidableEq

/-- `partition_sql_literal`. -/
def partitionSqlLiteral : SetValue → Bytes
  | .raw sql => sql
  | .value val => val.toText

/-- `range_partition`. -/
def rangePartition (name : Bytes) (lower upper : SetValue) : RangePartitionDesc :=
  { name, fromText := partitionSqlLiteral lower, toText := partitionSqlLiteral upper }

/-- `maxvalue_partition`. -/
def maxvaluePartition (name : Bytes) (lower : SetValue) : RangePartitionDesc :=
  { name, fromText := partitionSqlLiteral lower, toText := ascii "MAXVALUE", maxvalue := true }

def isSqlIdentifierStart (c : Byte) : Bool :=
  (0x61 ≤ c && c ≤ 0x7a) || (0x41 ≤ c && c ≤ 0x5a) || c == 0x5f

/-- `is_sql_identifier_char`. -/
def isSqlIdentifierChar (c : Byte) : Bool := isSqlIdentifierStart c || isDigit c

/-- `is_valid_sql_identifier`. -/
def isValidSqlIdentifier (name : Bytes) : Bool :=
  name.head?.any isSqlIdentifierStart && name.all isSqlIdentifierChar

/-- `is_valid_partition`. -/
def isValidPartition (p : RangePartitionDesc) : Bool :=
  isValidSqlIdentifier p.name && p.fromText != [] && (p.toText != [] || p.maxvalue)

theorem Value.toText_ne_nil (val : Value) : val.toText ≠ [] := by
  cases val with
  | integer n =>
    rcases n with n | n
    · exact natText_ne_nil n
    · exact List.cons_ne_nil _ _
  | real v => exact List.append_ne_nil_of_right_ne_nil _ v.body_ne_nil
  | string s => exact List.cons_ne_nil _ _

/-- Of a partition between two values, the name decides. -/
theorem isValidPartition_rangePartition (name : Bytes) (lower upper : Value) :
    isValidPartition (rangePartition name (.value lower) (.value upper))
      = isValidSqlIdentifier name := by
  have hne (val : Value) : (val.toText != []) = true := bne_iff_ne.mpr val.toText_ne_nil
  simp [isValidPartition, rangePartition, partitionSqlLiteral, hne]

/-! ## Declarations -/

/-- `partition_child_table_name`. -/
def partitionChildTableName (tableName partitionName : Bytes) : Bytes :=
  tableName ++ ascii "_" ++ partitionName

/-- `partition_range_predicate`. -/
def partitionRangePredicate (fieldName : Bytes) (p : RangePartitionDesc) : Bytes :=
  fieldName ++ ascii ">=" ++ p.fromText ++
    (if p.maxvalue then [] else ascii " AND " ++ fieldName ++ ascii "<" ++ p.toText)

/-- The upper bound as MySQL and PostgreSQL are given it. -/
def upperBoundText (p : RangePartitionDesc) : Bytes :=
  if p.maxvalue then ascii "MAXVALUE" else p.toText

/-- `mysql_partition_definition`. -/
def mysqlPartitionDefinition (p : RangePartitionDesc) : Bytes :=
  ascii "PARTITION " ++ p.name ++ ascii " VALUES LESS THAN (" ++ upperBoundText p ++ ascii ")"

/-- `postgresql_partition_definition_sql`. -/
def postgresqlPartitionDefinitionSql (tableName : Bytes) (p : RangePartitionDesc) : Bytes :=
  ascii "CREATE TABLE IF NOT EXISTS " ++ partitionChildTableName tableName p.name ++
    ascii " PARTITION OF " ++ tableName ++ ascii " FOR VALUES FROM (" ++ p.fromText ++
    ascii ") TO (" ++ upperBoundText p ++ ascii ")"

/-- `sqlite_partition_index_sql`. -/
def sqlitePartitionIndexSql (tableName fieldName : Bytes) : Bytes :=
  ascii "CREATE INDEX IF NOT EXISTS idx_" ++ tableName ++ ascii "_" ++ fieldName ++
    ascii "_partition ON " ++ tableName ++ ascii "(" ++ fieldName ++ ascii ")"

/-! ## Altering a table -/

/-- The kinds of `alter_op_kind` that are about partitions. -/
inductive AlterOpKind
  | clearPartition
  | addPartition
  | dropPartition
  deriving DecidableEq

/-- `alter_op`. -/
structure AlterOp where
  kind : AlterOpKind
  partitionField : Bytes
  partition : RangePartitionDesc

/-- `alter_table_builder::build_operation_sql`. -/
def AlterOp.buildOperationSql (op : AlterOp) (db : DBType) (tableName : Bytes) : Option Bytes :=
  if !isValidPartition op.partition then none
  else if op.kind ≠ .dropPartition ∧ !isValidSqlIdentifier op.partitionField then none
  else match op.kind, db with
    | .clearPartition, .mysql =>
      some (ascii "ALTER TABLE " ++ tableName ++ ascii " TRUNCATE PARTITION " ++ op.partition.name)
    | .clearPartition, .postgresql =>
      some (ascii "TRUNCATE TABLE " ++ partitionChildTableName tableName op.partition.name)
    | .clearPartition, .sqlite =>
      some (ascii "DELETE FROM " ++ tableName ++ ascii " WHERE " ++
        partitionRangePredicate op.partitionField op.partition)
    | .addPartition, .mysql =>
      some (ascii "ALTER TABLE " ++ tableName ++ ascii " ADD PARTITION (" ++
        mysqlPartitionDefinition op.partition ++ ascii ")")
    | .addPartition, .postgresql => some (postgresqlPartitionDefinitionSql tableName op.partition)
    | .addPartition, .sqlite => some (sqlitePartitionIndexSql tableName op.partitionField)
    | .dropPartition, .mysql =>
      some (ascii "ALTER TABLE " ++ tableName ++ ascii " DROP PARTITION " ++ op.partition.name)
    | .dropPartition, .postgresql =>
      some (ascii "DROP TABLE IF EXISTS " ++ partitionChildTableName tableName op.partition.name)
    | .dropPartition, .sqlite => none

/-! ## Deleting -/

/-- `delete_context`, for a class of the given name. -/
structure DeleteContext where
  tableName : Bytes
  whereClause : Bytes := []
  /-- `partition_field_` and `partition_`, where `use_partition_` is set. -/
  partition : Option (Bytes × RangePartitionDesc) := none

namespace DeleteContext

/-- The clause that goes behind `WHERE`. -/
def whereText (ctx : DeleteContext) (db : DBType) : Bytes :=
  match ctx.partition, db with
  | some (field, p), .sqlite =>
    let partitionWhere := partitionRangePredicate field p
    if ctx.whereClause = [] then partitionWhere
    else ascii "(" ++ partitionWhere ++ ascii ") AND " ++ ctx.whereClause
  | _, _ => ctx.whereClause

/-- `delete_context::build_sql`. -/
def buildSql (ctx : DeleteContext) (db : DBType) : Bytes :=
  (match ctx.partition, db with
    | some (_, p), .mysql =>
      ascii "DELETE FROM " ++ ctx.tableName ++ ascii " PARTITION (" ++ p.name ++ ascii ")"
    | some (_, p), .postgresql =>
      ascii "DELETE FROM " ++ partitionChildTableName ctx.tableName p.name
    | _, _ => ascii "DELETE FROM " ++ ctx.tableName) ++
    (if ctx.whereText db ≠ [] then ascii " WHERE " ++ ctx.whereText db else [])

/-- `validate_partition_config`. -/
def validatePartitionConfig (ctx : DeleteContext) : Bool :=
  ctx.partition.all fun (field, p) ↦ isValidSqlIdentifier field && isValidPartition p

/-- The statement that `execute_impl` sends, if it sends one. -/
def sentSql (ctx : DeleteContext) (db : DBType) : Option Bytes :=
  if ctx.validatePartitionConfig then some (ctx.buildSql db) else none

end DeleteContext

/-! ## The two removals -/

/-- What removes rows from a partition: `remove().partition(field, p)`, with or without `where`, and
`alter_table().clear_partition(field, p)`. -/
inductive PartitionRemoval
  | delete (condition : Option ConditionTree)
  | clear

/-- The statement that the builder sends, if it sends one. -/
def PartitionRemoval.sentSql (removal : PartitionRemoval) (db : DBType) (tableName field : Bytes)
    (p : RangePartitionDesc) : Option Bytes :=
  match removal with
  | .delete condition =>
    let whereClause := (condition.map fun c ↦ c.build.toSql).getD []
    DeleteContext.sentSql { tableName, whereClause, partition := some (field, p) } db
  | .clear => AlterOp.buildOperationSql ⟨.clearPartition, field, p⟩ db tableName

/-! ## What the statements say -/

/-- A statement that removes rows. -/
inductive RemovalStatement
  /-- `DELETE FROM table PARTITION (partition)`. -/
  | deletePartition (table partition : Bytes) (condition : Option ConditionTree)
  /-- `DELETE FROM table`, of a range and of a condition. -/
  | deleteFrom (table : Bytes) (range : Option (Bytes × RangePartitionDesc))
      (condition : Option ConditionTree)
  /-- `ALTER TABLE table TRUNCATE PARTITION partition`. -/
  | truncatePartition (table partition : Bytes)
  /-- `TRUNCATE TABLE table`. -/
  | truncateTable (table : Bytes)

namespace RemovalStatement

/-- A range and a condition, behind `WHERE`. -/
def whereText : Option (Bytes × RangePartitionDesc) → Option ConditionTree → Bytes
  | none, none => []
  | none, some c => ascii " WHERE " ++ c.build.toSql
  | some (field, p), none => ascii " WHERE " ++ partitionRangePredicate field p
  | some (field, p), some c =>
    ascii " WHERE " ++ (ascii "(" ++ partitionRangePredicate field p ++ ascii ") AND " ++
      c.build.toSql)

/-- The text of the statement. -/
def text : RemovalStatement → Bytes
  | .deletePartition table partition condition =>
    ascii "DELETE FROM " ++ table ++ ascii " PARTITION (" ++ partition ++ ascii ")" ++
      whereText none condition
  | .deleteFrom table range condition =>
    ascii "DELETE FROM " ++ table ++ whereText range condition
  | .truncatePartition table partition =>
    ascii "ALTER TABLE " ++ table ++ ascii " TRUNCATE PARTITION " ++ partition
  | .truncateTable table => ascii "TRUNCATE TABLE " ++ table

end RemovalStatement

/-- The statement, by what it says. -/
def PartitionRemoval.statement (removal : PartitionRemoval) (db : DBType) (tableName field : Bytes)
    (p : RangePartitionDesc) : RemovalStatement :=
  match removal, db with
  | .delete condition, .mysql => .deletePartition tableName p.name condition
  | .delete condition, .postgresql =>
    .deleteFrom (partitionChildTableName tableName p.name) none condition
  | .delete condition, .sqlite => .deleteFrom tableName (some (field, p)) condition
  | .clear, .mysql => .truncatePartition tableName p.name
  | .clear, .postgresql => .truncateTable (partitionChildTableName tableName p.name)
  | .clear, .sqlite => .deleteFrom tableName (some (field, p)) none

theorem WhereCondition.toSql_ne_nil (c : WhereCondition) : c.toSql ≠ [] := by
  simp [toSql, ascii]

theorem partitionRangePredicate_ne_nil (field : Bytes) (p : RangePartitionDesc) :
    partitionRangePredicate field p ≠ [] := by
  simp [partitionRangePredicate, ascii]

/-- What is sent for a field and a description that are valid. -/
theorem PartitionRemoval.sentSql_eq {field : Bytes} {p : RangePartitionDesc}
    (hfield : isValidSqlIdentifier field = true) (hp : isValidPartition p = true)
    (removal : PartitionRemoval) (db : DBType) (tableName : Bytes) :
    removal.sentSql db tableName field p = some (removal.statement db tableName field p).text := by
  obtain condition | _ := removal
  · have hvalid (whereClause : Bytes) :
        DeleteContext.validatePartitionConfig
          { tableName, whereClause, partition := some (field, p) } = true := by
      simp [DeleteContext.validatePartitionConfig, hfield, hp]
    rw [sentSql, DeleteContext.sentSql, if_pos (hvalid _), Option.some_inj]
    rcases condition with _ | c <;> cases db <;>
      simp [DeleteContext.buildSql, DeleteContext.whereText, statement, RemovalStatement.text,
        RemovalStatement.whereText, WhereCondition.toSql_ne_nil, partitionRangePredicate_ne_nil,
        ascii]
  · cases db <;>
      simp [sentSql, AlterOp.buildOperationSql, hp, hfield, statement, RemovalStatement.text,
        RemovalStatement.whereText]

end Ormpp
