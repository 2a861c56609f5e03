import Ormpp.Data.Range
import Ormpp.Partition.Statement

/-!
# Partitions on a server

How the three servers read what the builder says about partitions. MySQL knows the upper bounds: a
row is in the first partition that ends above it, and a `NULL` is below everything. PostgreSQL knows
both bounds, and keeps each partition in a table of its own, whose name is the only one in scope
when the statement is about that table. SQLite has one table and compares.

What a server makes of an identifier, of a bound and of a condition is left open.
-/

namespace Ormpp

open Sql

/-! ## Bounds -/

/-- The value of a field that a text stands for: a string, and anything else. -/
structure BoundValues (α : Type) where
  string : Bytes → α
  other : Bytes → α

/-- The dialect of a server. -/
def DBType.dialect : DBType → Dialect
  | .mysql => mysqlDefault
  | .sqlite | .postgresql => standard

/-- The value of a bound. -/
def BoundValues.read {α : Type} (V : BoundValues α) (d : Dialect) (text : Bytes) : α :=
  match d.lex text with
  | [.literal s] => V.string s
  | _ => V.other text

/-- The range of a partition. -/
def RangePartitionDesc.range {α : Type} (V : BoundValues α) (d : Dialect) (p : RangePartitionDesc) :
    Range α where
  lower := V.read d p.fromText
  upper := if p.maxvalue then ⊤ else V.read d p.toText

/-- A number is read as what it says. -/
theorem BoundValues.read_of_isCode {α : Type} (V : BoundValues α) (d : Dialect) {text : Bytes}
    (h : IsCode text) : V.read d text = V.other text := by
  have hlex : d.lex text = text.map .code := by
    have hout := d.lexer.output_append_of_run (h.codeText d) []
    rw [List.append_nil] at hout
    exact hout.trans (List.append_nil _)
  rw [read, hlex]
  rcases text with _ | ⟨b, bs⟩ <;> rfl

/-- A string that the dialect keeps is read as that string. -/
theorem BoundValues.read_formatString {α : Type} (V : BoundValues α) {d : Dialect} {s : Bytes}
    (h : d.Keeps s) : V.read d (formatString s) = V.string s := by
  have hlex : d.lex (formatString s) = [.literal s] := d.output_doubled h [] (by simp)
  rw [read, hlex]

/-- The value of a bound that the builder renders. -/
def BoundValues.ofValue {α : Type} (V : BoundValues α) : Value → α
  | .string s => V.string s
  | val => V.other val.toText

/-- The strings of a value are kept. -/
def Value.Kept (d : Dialect) : Value → Prop
  | .integer _ | .real _ => True
  | .string s => d.Keeps s

theorem BoundValues.read_toText {α : Type} (V : BoundValues α) {d : Dialect} {val : Value}
    (h : val.Kept d) : V.read d val.toText = V.ofValue val := by
  cases val with
  | integer n => exact V.read_of_isCode d (isCode_intText n)
  | real v => exact V.read_of_isCode d v.isCode
  | string s => exact V.read_formatString h

/-- The range that a pair of values is meant to give. -/
theorem range_rangePartition {α : Type} (V : BoundValues α) {d : Dialect} {lower upper : Value}
    (hlower : lower.Kept d) (hupper : upper.Kept d) (name : Bytes) :
    (rangePartition name (.value lower) (.value upper)).range V d
      = ⟨V.ofValue lower, V.ofValue upper⟩ := by
  have hlower := V.read_toText hlower
  have hupper := V.read_toText hupper
  rw [RangePartitionDesc.range]
  simp [rangePartition, partitionSqlLiteral, hlower, hupper]

/-! ## Tables -/

/-- A table and the partitions declared for it; `ident` is the identifier that the server reads in a
name. -/
structure PartitionedTable {α : Type} [LinearOrder α] (V : BoundValues α) (ident : Bytes → Bytes)
    where
  name : Bytes
  field : Bytes
  partitions : List RangePartitionDesc
  field_valid : isValidSqlIdentifier field = true
  valid : ∀ p ∈ partitions, isValidPartition p = true
  contiguous : Range.Contiguous (RangePartitionDesc.range V standard) partitions
  names_nodup : (partitions.map fun p ↦ ident p.name).Nodup
  tables_nodup :
    (ident name :: partitions.map fun p ↦ ident (partitionChildTableName name p.name)).Nodup

/-! ## Conditions -/

/-- The string that is written without quotes. -/
def Value.isPlaceholder : Value → Bool
  | .integer _ | .real _ => false
  | .string s => s == placeholderText

/-- Whether a server takes a condition, given the columns that are in scope. There are no groups to
aggregate over, and no value comes with the statement for a parameter, which only SQLite lets
pass. -/
def ConditionTree.accepted (db : DBType) (inScope : Column → Bool) : ConditionTree → Bool
  | .param c => inScope c && db == .sqlite
  | .compare (.column c) _ v => inScope c && (db == .sqlite || !v.isPlaceholder)
  | .compare (.aggregate _) _ _ => false
  | .isIn c vs | .notIn c vs => vs.isEmpty || inScope c
  | .null c | .notNull c | .between c _ _ | .like c _ => inScope c
  | .or lhs rhs | .and lhs rhs => lhs.accepted db inScope && rhs.accepted db inScope

/-- The columns in scope of a statement about a table: those without a class name, and those whose
class is named like the table. -/
def inScope (ident : Bytes → Bytes) (table : Bytes) (c : Column) : Bool :=
  c.className == [] || ident c.className == ident table

/-- A condition, if there is one, is taken in a statement about a table. -/
def accepts (ident : Bytes → Bytes) (db : DBType) (table : Bytes)
    (condition : Option ConditionTree) : Bool :=
  condition.all fun c ↦ c.accepted db (inScope ident table)

/-! ## Rows -/

section

variable {α : Type} [LinearOrder α] {V : BoundValues α} {ident : Bytes → Bytes} {Row : Type}

/-- The rows of a table: the field that the table is partitioned by, if it is not `NULL`, and
whether a condition holds. -/
structure RowReading (α Row : Type) where
  value : Row → Option α
  holds : ConditionTree → Row → Bool

namespace RowReading

variable (R : RowReading α Row)

/-- The row is in the range. -/
def InRange (r : Range α) (row : Row) : Prop := ∃ v, R.value row = some v ∧ r.Contains v

instance (r : Range α) (row : Row) : Decidable (R.InRange r row) :=
  decidable_of_iff ((R.value row).any fun v ↦ r.Contains v) <| by
    simp [InRange, Option.any_eq_true]

/-- The row satisfies a condition, if there is one. -/
def satisfies (condition : Option ConditionTree) (row : Row) : Bool :=
  condition.all fun c ↦ R.holds c row

end RowReading

namespace PartitionedTable

variable (t : PartitionedTable V ident) (R : RowReading α Row)

/-- The partition in which MySQL keeps a row. -/
def mysqlPartition (row : Row) : Option RangePartitionDesc :=
  match R.value row with
  | none => t.partitions.head?
  | some v => t.partitions.find? fun p ↦ (v : WithTop α) < (p.range V mysqlDefault).upper

/-- The partition in which PostgreSQL keeps a row. -/
def postgresqlPartition (row : Row) : Option RangePartitionDesc :=
  (R.value row).bind fun v ↦ t.partitions.find? fun p ↦ (p.range V standard).Contains v

/-- The partition that a name stands for. -/
def findPartition (name : Bytes) : Option RangePartitionDesc :=
  t.partitions.find? fun p ↦ ident p.name = ident name

/-- The partition whose table a name stands for. -/
def findChild (table : Bytes) : Option RangePartitionDesc :=
  t.partitions.find? fun p ↦ ident (partitionChildTableName t.name p.name) = ident table

/-- The rows that a statement about a table is about: all of them, or on PostgreSQL those of one
partition. -/
def tableRows (db : DBType) (table : Bytes) : Option (Row → Bool) :=
  if ident table = ident t.name then some fun _ ↦ true
  else if db = .postgresql then
    (t.findChild table).map fun p row ↦ t.postgresqlPartition R row = some p
  else none

/-- The rows of a partition by its name. -/
def partitionRows (db : DBType) (name : Bytes) : Option (Row → Bool) :=
  if db = .mysql then (t.findPartition name).map fun p row ↦ t.mysqlPartition R row = some p
  else none

/-- The rows that a statement removes, if the server accepts it. -/
def selected (db : DBType) : RemovalStatement → Option (Row → Bool)
  | .deletePartition table name condition =>
    if ident table = ident t.name ∧ accepts ident db table condition = true then
      (t.partitionRows R db name).map fun among row ↦ among row && R.satisfies condition row
    else none
  | .deleteFrom table range condition =>
    if accepts ident db table condition = true then
      (t.tableRows R db table).map fun among row ↦
        among row && (range.all fun (_, p) ↦ R.InRange (p.range V db.dialect) row) &&
          R.satisfies condition row
    else none
  | .truncatePartition table name =>
    if ident table = ident t.name then t.partitionRows R db name else none
  | .truncateTable table => t.tableRows R db table

/-- The rows that are left when the builder's statement has been sent. -/
def after (db : DBType) (removal : PartitionRemoval) (p : RangePartitionDesc) (rows : List Row) :
    List Row :=
  match t.selected R db (removal.statement db t.name t.field p) with
  | none => rows
  | some among => rows.filter fun row ↦ !among row

end PartitionedTable

end

end Ormpp
