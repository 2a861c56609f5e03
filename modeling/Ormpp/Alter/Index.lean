import Ormpp.Alter.Operation

/-!
# Index operations

On SQLite and PostgreSQL the name of an index and its columns are queued as one text, with a blank
between them, and taken apart at the first blank. They come out as they went in where the name has
no blank, which a quoted identifier may have. A clause is taken for an index operation where it
begins with a marker, and of the calls only `raw` queues such a clause.
-/

namespace Ormpp

open Sql Search

namespace AlterCall

variable (T : Entity) (db : DBType) (tableName : Bytes)

/-- The statement that a call stands for: an index has one of its own where the database is not
MySQL, and other calls are clauses of `ALTER TABLE`. -/
def statement : AlterCall → Option Bytes
  | addIndex indexName fields =>
    let cols := (ascii ",").intercalate (fields.map Name.text)
    if db = .mysql then
      some (alterTableSql tableName
        (ascii "ADD INDEX " ++ indexName ++ ascii " (" ++ cols ++ ascii ")"))
    else some (createIndexSql db indexName tableName cols)
  | dropIndex indexName =>
    if db = .mysql then some (alterTableSql tableName (ascii "DROP INDEX " ++ indexName))
    else some (ascii "DROP INDEX " ++ indexName)
  | clearPartition field partition =>
    AlterOp.buildOperationSql ⟨.clearPartition, field, partition⟩ db tableName
  | addPartition field partition =>
    AlterOp.buildOperationSql ⟨.addPartition, field, partition⟩ db tableName
  | dropPartition partition =>
    AlterOp.buildOperationSql ⟨.dropPartition, [], partition⟩ db tableName
  | call => some (alterTableSql tableName (call.clause T db))

/-- The name of an index has no blank, where it is taken apart from the columns, and a raw clause
does not begin with a marker. -/
def Encodable : AlterCall → Prop
  | addIndex indexName _ => db ≠ .mysql → blank ∉ indexName
  | raw clause => ¬createIndexMarker <+: clause ∧ ¬dropIndexMarker <+: clause
  | _ => True

end AlterCall

/-! ## Clauses -/

/-- A clause that does not begin with an underscore is one of `ALTER TABLE`. -/
theorem clauseSql_eq_alterTableSql {sql : Bytes} (h : sql.head? ≠ some 0x5f) (db : DBType)
    (tableName : Bytes) : clauseSql db tableName sql = alterTableSql tableName sql := by
  have hmarker {marker : Bytes} (hmarker : marker.head? = some 0x5f) : ¬marker <+: sql := by
    rintro ⟨rest, rfl⟩
    rw [List.head?_append_of_ne_nil _ (by rintro rfl; simp at hmarker)] at h
    exact h hmarker
  rw [clauseSql, if_neg (hmarker rfl), if_neg (hmarker rfl)]

theorem clauseSql_createIndex (db : DBType) (tableName rest : Bytes) :
    clauseSql db tableName (createIndexMarker ++ rest)
      = createIndexSql db (cutAtBlank rest).1 tableName (cutAtBlank rest).2 := by
  rw [clauseSql, if_pos (List.prefix_append _ _), List.drop_left]

theorem clauseSql_dropIndex (db : DBType) (tableName rest : Bytes) :
    clauseSql db tableName (dropIndexMarker ++ rest) = ascii "DROP INDEX " ++ rest := by
  have hcreate : ¬createIndexMarker <+: dropIndexMarker ++ rest := by
    rintro ⟨more, hmore⟩
    have hsecond := congrArg (fun text ↦ text[1]?) hmore
    rw [List.getElem?_append_left (by decide), List.getElem?_append_left (by decide)] at hsecond
    exact absurd hsecond (by decide)
  rw [clauseSql, if_neg hcreate, if_pos (List.prefix_append _ _), List.drop_left]

/-- A raw clause is taken for an index operation where it begins with a marker. -/
theorem clauseSql_eq_alterTableSql_iff (db : DBType) (tableName sql : Bytes) :
    clauseSql db tableName sql = alterTableSql tableName sql ↔
      ¬createIndexMarker <+: sql ∧ ¬dropIndexMarker <+: sql := by
  have hhead : (alterTableSql tableName sql).head? = some 0x41 := rfl
  constructor
  · intro heq
    rw [← heq] at hhead
    constructor
    · rintro ⟨rest, rfl⟩
      rw [clauseSql_createIndex, createIndexSql] at hhead
      split_ifs at hhead <;> simp [ascii] at hhead
    · rintro ⟨rest, rfl⟩
      rw [clauseSql_dropIndex] at hhead
      simp [ascii] at hhead
  · rintro ⟨hcreate, hdrop⟩
    rw [clauseSql, if_neg hcreate, if_neg hdrop]

/-! ## Names of indexes -/

theorem cutAtBlank_append {name : Bytes} (h : blank ∉ name) (cols : Bytes) :
    cutAtBlank (name ++ blank :: cols) = (name, cols) := by
  rw [cutAtBlank, find_singleton_append h]
  simp

/-- The name comes out as it went in where it has no blank. -/
theorem createIndexSql_cutAtBlank_iff (db : DBType) (tableName name cols : Bytes) :
    createIndexSql db (cutAtBlank (name ++ blank :: cols)).1 tableName
        (cutAtBlank (name ++ blank :: cols)).2
      = createIndexSql db name tableName cols ↔ blank ∉ name := by
  constructor
  · intro heq hblank
    obtain ⟨front, behind, rfl, hfront⟩ := List.eq_append_cons_of_mem hblank
    rw [List.append_assoc, List.cons_append, cutAtBlank_append hfront] at heq
    simp only [createIndexSql, List.append_assoc, List.append_cancel_left_eq] at heq
    -- What the cut moved stands in front of the columns here and in front of the table there.
    have hmiddle : ascii " ON " ++ tableName ++ ascii "(" ++ behind ++ [blank]
        = [blank] ++ behind ++ ascii " ON " ++ tableName ++ ascii "(" := by
      refine List.append_cancel_right (?_ : _ ++ (cols ++ ascii ")") = _ ++ (cols ++ ascii ")"))
      simpa using heq
    have hlast := congrArg List.getLast? hmiddle
    rw [List.getLast?_append_of_ne_nil _ (by decide),
      List.getLast?_append_of_ne_nil _ (by decide)] at hlast
    exact absurd hlast (by decide)
  · intro h
    rw [cutAtBlank_append h]

/-- The statement of an operation is the one that its call stands for, where the name of an index
has no blank and a raw clause no marker. -/
theorem buildOperationSql_operation_iff (T : Entity) (db : DBType) (tableName : Bytes)
    (call : AlterCall) :
    (call.operation T db).buildOperationSql db tableName = call.statement T db tableName ↔
      call.Encodable db := by
  have hclause {sql : Bytes} (h : sql.head? ≠ some 0x5f) :
      some (clauseSql db tableName sql) = some (alterTableSql tableName sql) :=
    congrArg some (clauseSql_eq_alterTableSql h db tableName)
  cases call with
  | addIndex indexName fields =>
    simp only [AlterCall.operation, AlterCall.statement, AlterCall.clause, columnsText_eq]
    by_cases hdb : db = .mysql
    · rw [if_pos hdb, if_pos hdb]
      exact iff_of_true (hclause (by simp [ascii])) fun hne ↦ absurd hdb hne
    · have htext (cols : Bytes) : createIndexMarker ++ indexName ++ ascii " " ++ cols
          = createIndexMarker ++ (indexName ++ blank :: cols) := by
        simp [ascii, blank]
      rw [if_neg hdb, if_neg hdb, AlterOperation.buildOperationSql, htext, clauseSql_createIndex,
        Option.some_inj, createIndexSql_cutAtBlank_iff]
      exact ⟨fun h _ ↦ h, fun h ↦ h hdb⟩
  | dropIndex indexName =>
    simp only [AlterCall.operation, AlterCall.statement, AlterCall.clause]
    refine iff_of_true ?_ trivial
    split_ifs
    · exact hclause (by simp [ascii])
    · exact congrArg some (clauseSql_dropIndex db tableName indexName)
  | raw clause =>
    exact Option.some_inj.trans (clauseSql_eq_alterTableSql_iff db tableName clause)
  | clearPartition | addPartition | dropPartition => exact iff_of_true rfl trivial
  | modifyColumn name newType =>
    refine iff_of_true (hclause ?_) trivial
    cases db <;> simp [AlterCall.clause, ascii]
  | dropConstraint constraintName =>
    refine iff_of_true (hclause ?_) trivial
    rw [AlterCall.clause]
    split_ifs <;> simp [ascii]
  | addField | addColumn | dropColumn | renameColumn | addUnique | addForeignKey | addCheck =>
    exact iff_of_true (hclause (by simp [AlterCall.clause, ascii])) trivial

/-- The class of the test of indexes. -/
def builderPerson : Entity where
  structName := ⟨[], .lit (ascii "builder_person")⟩
  fields := [⟨.lit (ascii "name"), .value .string, Eq.refl true⟩]
  fields_ne_nil := List.cons_ne_nil _ _
  nodup := by decide

/-- Half of a quoted name becomes a column. -/
theorem buildOperationSql_quotedName :
    ((AlterCall.addIndex (ascii "`my idx`") [⟨ascii "name", by decide, by decide⟩]).operation
        builderPerson .sqlite).buildOperationSql .sqlite (ascii "builder_person")
      = some (ascii "CREATE INDEX `my ON builder_person(idx` name)") := by
  decide

end Ormpp
