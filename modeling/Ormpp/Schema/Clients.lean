import Ormpp.Codec.CString
import Ormpp.Schema.AutoKey

/-!
# The table of the asynchronous client

The asynchronous MySQL client has a generator of its own for the statement that creates a table,
which keeps the same sets and writes the same text in other steps: a comma is overwritten where the
synchronous client takes it away and appends a parenthesis.

The texts are the same. What is executed is the whole text in the asynchronous client, which sends
it with its length, and the text up to its first NUL in the other one.
-/

namespace Ormpp

namespace MysqlAsync

/-! ## The generator -/

/-- `sql.back() = c`. -/
def setBack (sql : Bytes) (c : Byte) : Bytes := sql.dropLast ++ [c]

/-- One argument, where `pks` are the conflict keys of the class. -/
def readConstraint (pks : List Bytes) (s : ConstraintSets) : Constraint → ConstraintSets
  | .autoKey fields => { s with autoPrimaryKey := s.autoPrimaryKey.add fields }
  | .key fields => if pks = [] then { s with primaryKeys := s.primaryKeys.add fields } else s
  | .notNull fields => { s with notNull := fields.foldl StringSet.add s.notNull }
  | .unique first rest =>
    if (first :: rest).length > 1 then
      let names := (first :: rest).foldl (fun names name ↦ names ++ name ++ ascii ",") []
      { s with unique := s.unique.add names.dropLast }
    else { s with unique := s.unique.add first }

/-- What the loop over the fields changes. -/
structure TableLoop where
  sql : Bytes
  autoKey : Bytes
  autoPrimaryKey : StringSet
  notNull : StringSet

/-- The loop body. -/
def TableLoop.declare (dbType : DBType) (s : TableLoop) (f : Field) : TableLoop :=
  let strName := f.name.text
  let sql := s.sql ++ strName ++ ascii " " ++ f.typeName dbType
  if s.autoPrimaryKey ≠ [] ∧ strName ∈ s.autoPrimaryKey then
    { s with
      sql := sql ++ ascii " AUTO_INCREMENT " ++ ascii ","
      autoKey := strName
      autoPrimaryKey := [] }
  else if s.notNull ≠ [] ∧ strName ∈ s.notNull then
    { s with
      sql := sql ++ ascii " NOT NULL" ++ ascii ","
      notNull := s.notNull.erase strName }
  else { s with sql := sql ++ ascii "," }

/-- The clause for the primary key. -/
def appendPrimaryKey (sql autoKey : Bytes) (primaryKeys : StringSet) : Bytes :=
  if autoKey ≠ [] then sql ++ ascii "PRIMARY KEY (" ++ autoKey ++ ascii "),"
  else if primaryKeys ≠ [] then
    let sql := primaryKeys.foldl (fun sql key ↦ sql ++ key ++ ascii ",")
      (sql ++ ascii "PRIMARY KEY (")
    setBack sql 0x29 ++ ascii ","
  else sql

/-- The clauses for the unique columns. -/
def appendUnique (sql : Bytes) (unique : StringSet) : Bytes :=
  unique.foldl (fun sql name ↦ sql ++ ascii "UNIQUE (" ++ name ++ ascii "),") sql

variable (dbType : DBType) (appendMysqlCharset : Bool) (r : Registry) (T : Entity)
  (args : List Constraint)

/-- The sets of the class. -/
def tableSets : ConstraintSets :=
  let autoKey := r.getAutoKey T.structName
  let pks := (r.getConflictKeys T.structName dbType).1
  args.foldl (readConstraint pks)
    { notNull := []
      unique := []
      autoPrimaryKey := if autoKey ≠ [] then [autoKey] else []
      primaryKeys := pks.foldl StringSet.add [] }

/-- The state behind the loop over the fields. -/
def tableLoop : TableLoop :=
  T.fields.foldl (TableLoop.declare dbType)
    { sql := ascii "CREATE TABLE IF NOT EXISTS " ++ T.tableName ++ ascii "("
      autoKey := r.getAutoKey T.structName
      autoPrimaryKey := (tableSets dbType r T args).autoPrimaryKey
      notNull := (tableSets dbType r T args).notNull }

/-- `generate_create_table_sql`. -/
def generateCreateTableSql : Bytes :=
  let loop := tableLoop dbType r T args
  let sets := tableSets dbType r T args
  let sql := setBack (appendUnique (appendPrimaryKey loop.sql loop.autoKey sets.primaryKeys)
    sets.unique) 0x29
  if appendMysqlCharset then sql ++ ascii " DEFAULT CHARSET=utf8mb4" else sql

end MysqlAsync

/-! ## What is executed -/

/-- The statement that `create_datatable` of the synchronous client makes. -/
def Mysql.createDatatableSql (r : Registry) (T : Entity) (args : List Constraint) : Bytes :=
  (generateCreatetbSql .mysql r T args).1 ++ ascii " DEFAULT CHARSET=utf8mb4"

/-- The statement that it executes: `mysql_query` takes a C string. -/
def Mysql.createDatatable (r : Registry) (T : Entity) (args : List Constraint) : Bytes :=
  untilNul (createDatatableSql r T args)

/-- The statement that `create_datatable` of the asynchronous client executes. -/
def MysqlAsync.createDatatable (r : Registry) (T : Entity) (args : List Constraint) : Bytes :=
  generateCreateTableSql .mysql true r T args

/-! ## The same text -/

namespace MysqlAsync

theorem foldl_append_comma (names : List Bytes) (front : Bytes) :
    names.foldl (fun sql name ↦ sql ++ name ++ ascii ",") front
      = front ++ names.flatMap fun name ↦ name ++ ascii "," := by
  induction names generalizing front with
  | nil => exact (List.append_nil front).symm
  | cons name names ih =>
    rw [List.foldl_cons, ih, List.flatMap_cons, ← List.append_assoc, ← List.append_assoc]

theorem appendUnique_eq (sql : Bytes) (unique : StringSet) :
    appendUnique sql unique
      = sql ++ (unique.map uniqueClause).flatMap fun c ↦ c ++ ascii "," := by
  induction unique generalizing sql with
  | nil => exact (List.append_nil sql).symm
  | cons name unique ih =>
    have hclause : ascii "UNIQUE (" ++ (name ++ ascii "),") = uniqueClause name ++ ascii "," := by
      rw [uniqueClause, List.append_assoc, List.append_assoc]
      rfl
    have hstep : appendUnique sql (name :: unique)
        = appendUnique (sql ++ ascii "UNIQUE (" ++ name ++ ascii "),") unique := rfl
    rw [hstep, ih, List.map_cons, List.flatMap_cons, ← hclause]
    simp only [List.append_assoc]

theorem readConstraint_eq (pks : List Bytes) (s : ConstraintSets) (c : Constraint) :
    readConstraint pks s c = s.addConstraint pks c := by
  obtain fields | fields | fields | ⟨first, rest⟩ := c
  · rfl
  · rfl
  · rfl
  · obtain _ | ⟨second, rest⟩ := rest
    · rfl
    · have hmany : (first :: second :: rest).length > 1 := Nat.one_lt_succ_succ rest.length
      rw [readConstraint, ConstraintSets.addConstraint, if_pos hmany,
        if_neg (List.cons_ne_nil second rest), joinNames, foldl_append_comma, List.nil_append]

theorem tableSets_eq (dbType : DBType) (r : Registry) (T : Entity) (args : List Constraint) :
    tableSets dbType r T args = constraintSets dbType r T args := by
  have hread : readConstraint (r.getConflictKeys T.structName dbType).1
      = ConstraintSets.addConstraint (r.getConflictKeys T.structName dbType).1 := by
    funext s c
    exact readConstraint_eq _ s c
  rw [tableSets, constraintSets, ConstraintSets.collect, hread, ConstraintSets.registered, ite_not]
  rfl

/-- What the loop of the synchronous client keeps beside the registry. -/
def TableLoop.ofCreateLoop (s : CreateLoop) : TableLoop :=
  ⟨s.sql, s.autoKey, s.autoPrimaryKey, s.notNull⟩

theorem declare_ofCreateLoop (tableName : Bytes) (s : CreateLoop) (f : Field) :
    (TableLoop.ofCreateLoop s).declare .mysql f
      = TableLoop.ofCreateLoop (s.declare .mysql tableName f) := by
  have hmem (set : StringSet) : set ≠ [] ∧ f.name.text ∈ set ↔ f.name.text ∈ set :=
    and_iff_right_of_imp List.ne_nil_of_mem
  have htext : autoKeyText .mysql (f.typeName .mysql)
      = f.typeName .mysql ++ ascii " AUTO_INCREMENT " := rfl
  by_cases hauto : f.name.text ∈ s.autoPrimaryKey
  · simp only [TableLoop.declare, TableLoop.ofCreateLoop, hmem, CreateLoop.declare, if_pos hauto,
      htext, List.append_assoc]
  · by_cases hnull : f.name.text ∈ s.notNull
    · simp only [TableLoop.declare, TableLoop.ofCreateLoop, hmem, CreateLoop.declare, if_neg hauto,
        if_pos hnull]
    · simp only [TableLoop.declare, TableLoop.ofCreateLoop, hmem, CreateLoop.declare, if_neg hauto,
        if_neg hnull]

theorem tableLoop_eq (r : Registry) (T : Entity) (args : List Constraint) :
    tableLoop .mysql r T args = TableLoop.ofCreateLoop (createLoop .mysql r T args) := by
  have hrun : T.fields.foldl (TableLoop.declare .mysql)
        (TableLoop.ofCreateLoop (createLoopStart .mysql r T args))
      = TableLoop.ofCreateLoop (createLoop .mysql r T args) :=
    List.foldl_hom TableLoop.ofCreateLoop (declare_ofCreateLoop T.tableName)
  rw [tableLoop, tableSets_eq]
  exact hrun

theorem appendPrimaryKey_eq (sql autoKey : Bytes) (primaryKeys : StringSet) :
    appendPrimaryKey sql autoKey primaryKeys
      = sql ++ (primaryKeyClause (primaryKeyNames .mysql autoKey primaryKeys)).flatMap
        fun c ↦ c ++ ascii "," := by
  rw [appendPrimaryKey, primaryKeyNames]
  split_ifs with hkey hdb hkeys
  · exact absurd hdb (by decide)
  · have hname : joinNames [autoKey] = autoKey := by
      rw [joinNames, List.flatMap_singleton]
      exact List.dropLast_concat
    rw [primaryKeyClause, if_neg (List.cons_ne_nil autoKey []), List.flatMap_singleton, hname]
    simp only [List.append_assoc]
    rfl
  · have hne : (primaryKeys.flatMap fun name ↦ name ++ ascii ",") ≠ [] := by
      obtain ⟨key, keys, rfl⟩ := List.exists_cons_of_ne_nil hkeys
      simp [ascii]
    have hback : setBack (sql ++ ascii "PRIMARY KEY ("
          ++ primaryKeys.flatMap fun name ↦ name ++ ascii ",") 0x29
        = sql ++ ascii "PRIMARY KEY (" ++ joinNames primaryKeys ++ ascii ")" := by
      rw [setBack, List.dropLast_append_of_ne_nil hne]
      rfl
    rw [primaryKeyClause, if_neg hkeys, List.flatMap_singleton, foldl_append_comma]
    simp only [hback]
    simp only [List.append_assoc]
  · rw [not_not.mp hkeys]
    exact (List.append_nil sql).symm

/-- Both generators write the same text. -/
theorem generateCreateTableSql_eq (r : Registry) (T : Entity) (args : List Constraint) :
    generateCreateTableSql .mysql true r T args = Mysql.createDatatableSql r T args := by
  rw [generateCreateTableSql, if_pos rfl, Mysql.createDatatableSql, generateCreatetbSql,
    tableLoop_eq, tableSets_eq, appendPrimaryKey_eq, appendUnique_eq, List.append_assoc,
    ← List.flatMap_append]
  rfl

end MysqlAsync

/-! ## The same table -/

/-- The statements of the two clients are the same, and so is what is executed exactly where no NUL
stands in the statement. -/
structure CreatesSameTable (r : Registry) (T : Entity) (args : List Constraint) : Prop where
  generated :
    MysqlAsync.generateCreateTableSql .mysql true r T args = Mysql.createDatatableSql r T args
  executed : MysqlAsync.createDatatable r T args = Mysql.createDatatable r T args ↔
    NulFree (Mysql.createDatatableSql r T args)

/-- The two MySQL clients create the same table. -/
theorem createsSameTable (r : Registry) (T : Entity) (args : List Constraint) :
    CreatesSameTable r T args := by
  have hgenerated := MysqlAsync.generateCreateTableSql_eq r T args
  refine ⟨hgenerated, ?_⟩
  rw [MysqlAsync.createDatatable, hgenerated, Mysql.createDatatable, eq_comm]
  exact untilNul_eq_iff

/-- A name with a NUL ends the statement of the synchronous client. -/
theorem not_createDatatable_eq :
    Mysql.createDatatable .empty aliasEntity [.unique [0x61, 0, 0x62] []]
        = ascii "CREATE TABLE IF NOT EXISTS t_alias(alias_id INTEGER,alias_name TEXT,UNIQUE (a" ∧
      ¬ ∀ (r : Registry) (T : Entity) (args : List Constraint),
        MysqlAsync.createDatatable r T args = Mysql.createDatatable r T args := by
  refine ⟨by decide, fun h ↦ ?_⟩
  exact absurd (h .empty aliasEntity [.unique [0x61, 0, 0x62] []]) (by decide)

end Ormpp
