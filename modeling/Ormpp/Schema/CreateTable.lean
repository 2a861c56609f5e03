import Ormpp.Field.Type
import Ormpp.Registry.Registry
import Ormpp.Update.Statement

/-!
# The statement that creates a table

`generate_createtb_sql` collects the constraints of a class into sets, from what is registered for
the class and from its own arguments, and writes the columns one after the other. At the first
column that is an auto key the set of auto keys is emptied, so that at most one column is declared
as one. The three backends differ in what they write there, in whether the auto key is a primary key
of its own, and in that SQLite registers a key that was only given as an argument.
-/

namespace Ormpp

/-! ## Sets of names -/

/-- A `std::set<std::string>`, as the list of its elements in their order. -/
abbrev StringSet := List Bytes

/-- `std::set::insert`. -/
def StringSet.add (s : StringSet) (name : Bytes) : StringSet :=
  if name ∈ s then s else List.orderedInsert (· ≤ ·) name s

theorem StringSet.mem_add {s : StringSet} {name name' : Bytes} :
    name' ∈ s.add name ↔ name' = name ∨ name' ∈ s := by
  rw [add]
  split_ifs with hmem
  · constructor
    · exact .inr
    · rintro (rfl | h)
      · exact hmem
      · exact h
  · exact List.mem_orderedInsert _

theorem StringSet.nodup_add {s : StringSet} (h : s.Nodup) (name : Bytes) : (s.add name).Nodup := by
  rw [add]
  split_ifs with hmem
  · exact h
  · exact (List.perm_orderedInsert _ name s).nodup_iff.mpr (List.nodup_cons.mpr ⟨hmem, h⟩)

theorem StringSet.pairwise_add {s : StringSet} (h : s.Pairwise (· ≤ ·)) (name : Bytes) :
    (s.add name).Pairwise (· ≤ ·) := by
  rw [add]
  split_ifs
  · exact h
  · exact h.orderedInsert name s

/-- A set that is filled from a list. -/
def StringSet.addAll (s : StringSet) (names : List Bytes) : StringSet := names.foldl add s

theorem StringSet.mem_addAll {s : StringSet} {names : List Bytes} {name : Bytes} :
    name ∈ s.addAll names ↔ name ∈ names ∨ name ∈ s := by
  induction names generalizing s with
  | nil => exact ⟨.inr, fun h ↦ h.resolve_left List.not_mem_nil⟩
  | cons n names ih =>
    have hstep : s.addAll (n :: names) = (s.add n).addAll names := rfl
    rw [hstep, ih, mem_add, List.mem_cons, or_assoc, or_left_comm]

theorem StringSet.nodup_addAll {s : StringSet} (h : s.Nodup) (names : List Bytes) :
    (s.addAll names).Nodup := by
  induction names generalizing s with
  | nil => exact h
  | cons n names ih => exact ih (nodup_add h n)

theorem StringSet.pairwise_addAll {s : StringSet} (h : s.Pairwise (· ≤ ·)) (names : List Bytes) :
    (s.addAll names).Pairwise (· ≤ ·) := by
  induction names generalizing s with
  | nil => exact h
  | cons n names ih => exact ih (pairwise_add h n)

/-- The names in the order in which they come first. -/
def firstNamed (names : List Bytes) : List Bytes := names.reverse.dedup.reverse

theorem mem_firstNamed {names : List Bytes} {name : Bytes} :
    name ∈ firstNamed names ↔ name ∈ names := by
  simp [firstNamed]

/-- A set lists its elements as they came only where they came in order. -/
theorem StringSet.addAll_eq_firstNamed_iff (names : List Bytes) :
    StringSet.addAll [] names = firstNamed names ↔ (firstNamed names).Pairwise (· ≤ ·) := by
  have hsorted : (StringSet.addAll [] names).Pairwise (· ≤ ·) := pairwise_addAll .nil names
  constructor
  · intro h
    rwa [h] at hsorted
  · intro h
    have hnodup : (firstNamed names).Nodup := List.nodup_reverse.mpr (List.nodup_dedup _)
    have hperm : (StringSet.addAll [] names).Perm (firstNamed names) := by
      refine (List.perm_ext_iff_of_nodup (nodup_addAll .nil names) hnodup).mpr fun name ↦ ?_
      rw [mem_addAll, mem_firstNamed, or_iff_left List.not_mem_nil]
    exact hperm.eq_of_pairwise' hsorted h

/-- `str.append(name).append(",")` for every name, and `str.pop_back()`. -/
def joinNames (names : List Bytes) : Bytes := (names.flatMap fun name ↦ name ++ ascii ",").dropLast

/-- The loop over the fields of a call that fills `cols`. -/
def columnsText (fields : List Name) : Bytes :=
  fields.foldl (fun cols f ↦ if cols = [] then f.text else cols ++ ascii "," ++ f.text) []

theorem columnsText_eq (fields : List Name) :
    columnsText fields = (ascii ",").intercalate (fields.map Name.text) := by
  have hmore (fields : List Name) {cols : Bytes} (hcols : cols ≠ []) :
      fields.foldl (fun cols f ↦ if cols = [] then f.text else cols ++ ascii "," ++ f.text) cols
        = (ascii ",").intercalate (cols :: fields.map Name.text) := by
    induction fields generalizing cols with
    | nil => exact (List.intercalate_singleton).symm
    | cons f fields ih =>
      have hne : cols ++ ascii "," ++ f.text ≠ [] :=
        List.append_ne_nil_of_right_ne_nil _ f.text_ne_nil
      rw [List.foldl_cons, if_neg hcols, ih hne, List.map_cons, List.intercalate_cons_cons]
      rcases fields with _ | ⟨g, fields⟩ <;> simp [List.intercalate_cons_cons]
  rcases fields with _ | ⟨f, fields⟩
  · rfl
  · rw [columnsText, List.foldl_cons, if_pos rfl, hmore fields f.text_ne_nil, List.map_cons]

/-! ## Classes and constraints -/

/-- A reflected class with the columns of its table. -/
structure Entity where
  structName : StructName
  fields : List Field
  fields_ne_nil : fields ≠ []
  nodup : (fields.map fun f ↦ f.name.text).Nodup

namespace Entity

/-- `name_of<T>`, field by field. -/
def columnNames (T : Entity) : List Bytes := T.fields.map fun f ↦ f.name.text

def tableName (T : Entity) : Bytes := getShortStructName T.structName

end Entity

/-- An argument of `create_datatable`. -/
inductive Constraint where
  /-- `ormpp_not_null`. -/
  | notNull (fields : StringSet)
  /-- `ormpp_key`. -/
  | key (fields : Bytes)
  /-- `ormpp_auto_key`. -/
  | autoKey (fields : Bytes)
  /-- `ormpp_unique`, of which the first element is read. -/
  | unique (first : Bytes) (rest : StringSet)

/-- The keys that the arguments declare as auto keys. -/
def autoKeys (args : List Constraint) : List Bytes :=
  args.filterMap fun
    | .autoKey fields => some fields
    | _ => none

/-- The sets at the beginning of `generate_createtb_sql`. -/
structure ConstraintSets where
  notNull : StringSet
  unique : StringSet
  autoPrimaryKey : StringSet
  primaryKeys : StringSet

namespace ConstraintSets

/-- One argument, where `pks` are the conflict keys of the class. -/
def addConstraint (pks : List Bytes) (s : ConstraintSets) : Constraint → ConstraintSets
  | .autoKey fields => { s with autoPrimaryKey := s.autoPrimaryKey.add fields }
  | .key fields => if pks = [] then { s with primaryKeys := s.primaryKeys.add fields } else s
  | .notNull fields => { s with notNull := s.notNull.addAll fields }
  | .unique first rest =>
    { s with unique := s.unique.add (if rest = [] then first else joinNames (first :: rest)) }

/-- What is registered for the class: its auto key and its conflict keys. -/
def registered (autoKey : Bytes) (pks : List Bytes) : ConstraintSets where
  notNull := []
  unique := []
  autoPrimaryKey := if autoKey = [] then [] else [autoKey]
  primaryKeys := StringSet.addAll [] pks

/-- The sets once all arguments are read. -/
def collect (autoKey : Bytes) (pks : List Bytes) (args : List Constraint) : ConstraintSets :=
  args.foldl (addConstraint pks) (registered autoKey pks)

theorem mem_autoPrimaryKey_foldl (pks : List Bytes) (args : List Constraint) (s : ConstraintSets)
    (name : Bytes) :
    name ∈ (args.foldl (addConstraint pks) s).autoPrimaryKey ↔
      name ∈ s.autoPrimaryKey ∨ name ∈ autoKeys args := by
  induction args generalizing s with
  | nil => exact ⟨.inl, fun h ↦ h.resolve_right List.not_mem_nil⟩
  | cons c args ih =>
    rw [List.foldl_cons, ih]
    obtain fields | fields | fields | ⟨first, rest⟩ := c
    · exact Iff.rfl
    · have hkept : (s.addConstraint pks (.key fields)).autoPrimaryKey = s.autoPrimaryKey := by
        rw [addConstraint]
        split_ifs <;> rfl
      rw [hkept]
      exact Iff.rfl
    · have hkeys : autoKeys (.autoKey fields :: args) = fields :: autoKeys args := rfl
      rw [addConstraint, StringSet.mem_add, hkeys, List.mem_cons, or_assoc, or_left_comm]
    · exact Iff.rfl

/-- The auto keys: the registered one, and those that are given as arguments. -/
theorem mem_autoPrimaryKey_collect {autoKey : Bytes} {pks : List Bytes} {args : List Constraint}
    {name : Bytes} :
    name ∈ (collect autoKey pks args).autoPrimaryKey ↔
      (name = autoKey ∧ autoKey ≠ []) ∨ name ∈ autoKeys args := by
  rw [collect, mem_autoPrimaryKey_foldl, registered]
  apply or_congr_left
  split_ifs with hkey
  · exact iff_of_false List.not_mem_nil fun h ↦ h.2 hkey
  · rw [List.mem_singleton]
    exact (and_iff_left hkey).symm

end ConstraintSets

/-! ## The text -/

/-- What the loop over the fields changes. -/
structure CreateLoop where
  sql : Bytes
  autoKey : Bytes
  autoPrimaryKey : StringSet
  notNull : StringSet
  registry : Registry

/-- What is written behind the name of an auto key. PostgreSQL takes the type away again. -/
def autoKeyText (db : DBType) (typeName : Bytes) : Bytes :=
  match db with
  | .sqlite => typeName ++ ascii " PRIMARY KEY AUTOINCREMENT "
  | .mysql => typeName ++ ascii " AUTO_INCREMENT "
  | .postgresql => if typeName = ascii "bigint" then ascii " bigserial " else ascii " serial "

namespace CreateLoop

/-- The loop body. -/
def declare (db : DBType) (tableName : Bytes) (s : CreateLoop) (f : Field) : CreateLoop :=
  let name := f.name.text
  let front := s.sql ++ name ++ ascii " "
  if name ∈ s.autoPrimaryKey then
    { s with
      sql := front ++ autoKeyText db (f.typeName db) ++ ascii ","
      autoKey := name
      autoPrimaryKey := []
      registry := if db = .sqlite ∧ s.autoKey = [] then s.registry.addAutoKeyField tableName name
        else s.registry }
  else if name ∈ s.notNull then
    { s with
      sql := front ++ f.typeName db ++ ascii " NOT NULL" ++ ascii ","
      notNull := s.notNull.erase name }
  else { s with sql := front ++ f.typeName db ++ ascii "," }

end CreateLoop

/-- The clause for the primary key behind the columns. -/
def primaryKeyNames (db : DBType) (autoKey : Bytes) (primaryKeys : StringSet) : List Bytes :=
  if autoKey ≠ [] then (if db = .sqlite then [] else [autoKey]) else primaryKeys

def primaryKeyClause (names : List Bytes) : List Bytes :=
  if names = [] then [] else [ascii "PRIMARY KEY (" ++ joinNames names ++ ascii ")"]

def uniqueClause (names : Bytes) : Bytes := ascii "UNIQUE (" ++ names ++ ascii ")"

section

variable (db : DBType) (r : Registry) (T : Entity) (args : List Constraint)

/-- The sets of the class. -/
def constraintSets : ConstraintSets :=
  ConstraintSets.collect (r.getAutoKey T.structName) (r.getConflictKeys T.structName db).1 args

/-- The state in front of the loop. -/
def createLoopStart : CreateLoop where
  sql := ascii "CREATE TABLE IF NOT EXISTS " ++ T.tableName ++ ascii "("
  autoKey := r.getAutoKey T.structName
  autoPrimaryKey := (constraintSets db r T args).autoPrimaryKey
  notNull := (constraintSets db r T args).notNull
  registry := (r.getConflictKeys T.structName db).2

/-- The state behind the loop. -/
def createLoop : CreateLoop :=
  T.fields.foldl (CreateLoop.declare db T.tableName) (createLoopStart db r T args)

/-- `generate_createtb_sql`, with the registry that it leaves. -/
def generateCreatetbSql : Bytes × Registry :=
  let loop := createLoop db r T args
  let sets := constraintSets db r T args
  let clauses := primaryKeyClause (primaryKeyNames db loop.autoKey sets.primaryKeys)
    ++ sets.unique.map uniqueClause
  ((loop.sql ++ clauses.flatMap fun c ↦ c ++ ascii ",").dropLast ++ ascii ")", loop.registry)

end

/-! ## The statement -/

inductive ColumnOption
  | none
  | notNull
  /-- `AUTOINCREMENT`, `AUTO_INCREMENT` or `serial`. -/
  | autoIncrement
  deriving DecidableEq

/-- A column of the statement. -/
structure TableColumn where
  name : Bytes
  typeName : Bytes
  option : ColumnOption

def TableColumn.text (db : DBType) (c : TableColumn) : Bytes :=
  c.name ++ ascii " " ++
    match c.option with
    | .none => c.typeName
    | .notNull => c.typeName ++ ascii " NOT NULL"
    | .autoIncrement => autoKeyText db c.typeName

/-- A `CREATE TABLE`. -/
structure CreateStatement where
  table : Bytes
  columns : List TableColumn
  primaryKey : List Bytes
  unique : List Bytes

namespace CreateStatement

/-- The elements between the parentheses. -/
def elements (db : DBType) (s : CreateStatement) : List Bytes :=
  s.columns.map (TableColumn.text db) ++ primaryKeyClause s.primaryKey
    ++ s.unique.map uniqueClause

def text (db : DBType) (s : CreateStatement) : Bytes :=
  ascii "CREATE TABLE IF NOT EXISTS " ++ s.table ++ ascii "("
    ++ (ascii ",").intercalate (s.elements db) ++ ascii ")"

/-- The columns that are declared as auto-increment. -/
def autoIncrement (s : CreateStatement) : List Bytes :=
  (s.columns.filter fun c ↦ c.option = .autoIncrement).map TableColumn.name

end CreateStatement

/-- The columns, with the auto keys and the names that are not null. -/
def declareColumns (db : DBType) : List Field → StringSet → StringSet → List TableColumn
  | [], _, _ => []
  | f :: rest, autoPrimaryKey, notNull =>
    if f.name.text ∈ autoPrimaryKey then
      ⟨f.name.text, f.typeName db, .autoIncrement⟩ :: declareColumns db rest [] notNull
    else if f.name.text ∈ notNull then
      ⟨f.name.text, f.typeName db, .notNull⟩
        :: declareColumns db rest autoPrimaryKey (notNull.erase f.name.text)
    else ⟨f.name.text, f.typeName db, .none⟩ :: declareColumns db rest autoPrimaryKey notNull

/-- The first field that is an auto key. -/
def firstAutoKey (fields : List Field) (autoPrimaryKey : StringSet) : Option Bytes :=
  (fields.map fun f ↦ f.name.text).find? fun name ↦ name ∈ autoPrimaryKey

section

variable (db : DBType) (r : Registry) (T : Entity) (args : List Constraint)

/-- The auto key of the statement: the first field among the auto keys, and otherwise the one that
is registered. -/
def statementAutoKey : Bytes :=
  (firstAutoKey T.fields (constraintSets db r T args).autoPrimaryKey).getD
    (r.getAutoKey T.structName)

/-- What `generate_createtb_sql` writes, as a statement. -/
def createStatement : CreateStatement where
  table := T.tableName
  columns := declareColumns db T.fields (constraintSets db r T args).autoPrimaryKey
    (constraintSets db r T args).notNull
  primaryKey := primaryKeyNames db (statementAutoKey db r T args)
    (constraintSets db r T args).primaryKeys
  unique := (constraintSets db r T args).unique

end

/-! ## The loop over the fields -/

section Loop

variable {db : DBType} {tableName : Bytes}

theorem firstAutoKey_nil (fields : List Field) : firstAutoKey fields [] = none := by
  rw [firstAutoKey, List.find?_eq_none]
  intro name _ h
  exact List.not_mem_nil (of_decide_eq_true h)

theorem firstAutoKey_cons (f : Field) (fields : List Field) (autoPrimaryKey : StringSet) :
    firstAutoKey (f :: fields) autoPrimaryKey
      = if f.name.text ∈ autoPrimaryKey then some f.name.text
        else firstAutoKey fields autoPrimaryKey := by
  rw [firstAutoKey, List.map_cons, List.find?_cons]
  by_cases h : f.name.text ∈ autoPrimaryKey
  · rw [if_pos h, decide_eq_true h]
  · rw [if_neg h, decide_eq_false h]
    rfl

/-- The registry behind the loop. -/
def declaredRegistry (db : DBType) (tableName : Bytes) (r : Registry) (autoKey : Bytes)
    (declared : Option Bytes) : Registry :=
  match declared with
  | some name => if db = .sqlite ∧ autoKey = [] then r.addAutoKeyField tableName name else r
  | none => r

/-- What the loop over the fields does to its state: it writes the columns, keeps the first auto key
and registers it on SQLite. -/
structure DeclaredFrom (db : DBType) (tableName : Bytes) (fields : List Field)
    (s loop : CreateLoop) : Prop where
  sql : loop.sql = s.sql ++ (declareColumns db fields s.autoPrimaryKey s.notNull).flatMap
    fun c ↦ c.text db ++ ascii ","
  autoKey : loop.autoKey = (firstAutoKey fields s.autoPrimaryKey).getD s.autoKey
  registry : loop.registry
    = declaredRegistry db tableName s.registry s.autoKey (firstAutoKey fields s.autoPrimaryKey)

theorem declaredFrom_foldl (fields : List Field) (s : CreateLoop) :
    DeclaredFrom db tableName fields s (fields.foldl (CreateLoop.declare db tableName) s) := by
  induction fields generalizing s with
  | nil => exact ⟨(List.append_nil _).symm, rfl, rfl⟩
  | cons f fields ih =>
    obtain ⟨hsql, hkey, hregistry⟩ := ih (s.declare db tableName f)
    rw [List.foldl_cons]
    -- A field is an auto key, which ends the search, or not null, or neither.
    by_cases hauto : f.name.text ∈ s.autoPrimaryKey
    · simp only [CreateLoop.declare, if_pos hauto, firstAutoKey_nil] at hsql hkey hregistry ⊢
      constructor
      · rw [hsql, declareColumns, if_pos hauto]
        simp [TableColumn.text]
      · rw [hkey, firstAutoKey_cons, if_pos hauto]
        rfl
      · rw [hregistry, firstAutoKey_cons, if_pos hauto]
        rfl
    · by_cases hnull : f.name.text ∈ s.notNull
      · simp only [CreateLoop.declare, if_neg hauto, if_pos hnull] at hsql hkey hregistry ⊢
        constructor
        · rw [hsql, declareColumns, if_neg hauto, if_pos hnull]
          simp [TableColumn.text]
        · rw [hkey, firstAutoKey_cons, if_neg hauto]
        · rw [hregistry, firstAutoKey_cons, if_neg hauto]
      · simp only [CreateLoop.declare, if_neg hauto, if_neg hnull] at hsql hkey hregistry ⊢
        constructor
        · rw [hsql, declareColumns, if_neg hauto, if_neg hnull]
          simp [TableColumn.text]
        · rw [hkey, firstAutoKey_cons, if_neg hauto]
        · rw [hregistry, firstAutoKey_cons, if_neg hauto]

theorem autoIncrement_declareColumns (fields : List Field) (autoPrimaryKey notNull : StringSet) :
    ((declareColumns db fields autoPrimaryKey notNull).filter
        fun c ↦ c.option = .autoIncrement).map TableColumn.name
      = (firstAutoKey fields autoPrimaryKey).toList := by
  induction fields generalizing autoPrimaryKey notNull with
  | nil => rfl
  | cons f fields ih =>
    rw [declareColumns, firstAutoKey_cons]
    split_ifs with hauto hnull
    · rw [List.filter_cons_of_pos (by rfl), List.map_cons, ih, firstAutoKey_nil]
      rfl
    · rw [List.filter_cons_of_neg (by simp), ih]
    · rw [List.filter_cons_of_neg (by simp), ih]

theorem declareColumns_ne_nil (db : DBType) {fields : List Field} (h : fields ≠ [])
    (autoPrimaryKey notNull : StringSet) :
    declareColumns db fields autoPrimaryKey notNull ≠ [] := by
  obtain ⟨f, rest, rfl⟩ := List.exists_cons_of_ne_nil h
  rw [declareColumns]
  split_ifs <;> exact List.cons_ne_nil _ _

end Loop

/-! ## The statement that is written -/

section Statement

variable (db : DBType) (r : Registry) (T : Entity) (args : List Constraint)

theorem autoKey_createLoop : (createLoop db r T args).autoKey = statementAutoKey db r T args :=
  (declaredFrom_foldl T.fields (createLoopStart db r T args)).autoKey

/-- The text that is written is that of the statement. -/
theorem generateCreatetbSql_fst :
    (generateCreatetbSql db r T args).1 = (createStatement db r T args).text db := by
  have hloop : DeclaredFrom db T.tableName T.fields _ (createLoop db r T args) :=
    declaredFrom_foldl T.fields (createLoopStart db r T args)
  have hne : ((createStatement db r T args).elements db).flatMap (fun c ↦ c ++ ascii ",") ≠ [] := by
    obtain ⟨c, columns, hcolumns⟩ := List.exists_cons_of_ne_nil
      (declareColumns_ne_nil db T.fields_ne_nil
        (constraintSets db r T args).autoPrimaryKey (constraintSets db r T args).notNull)
    rw [CreateStatement.elements, createStatement, hcolumns]
    simp [ascii]
  have htext : (createStatement db r T args).text db
      = (ascii "CREATE TABLE IF NOT EXISTS " ++ T.tableName ++ ascii "("
          ++ ((createStatement db r T args).elements db).flatMap fun c ↦ c ++ ascii ",").dropLast
        ++ ascii ")" := by
    rw [List.dropLast_append_of_ne_nil hne, dropLast_flatMap_comma]
    rfl
  rw [generateCreatetbSql, hloop.sql, autoKey_createLoop, htext, createLoopStart]
  simp only [CreateStatement.elements, createStatement, List.flatMap_append, List.flatMap_map,
    List.append_assoc]

/-- At most one column is declared as auto-increment, the first one that is an auto key. -/
theorem autoIncrement_createStatement :
    (createStatement db r T args).autoIncrement
      = (firstAutoKey T.fields (constraintSets db r T args).autoPrimaryKey).toList :=
  autoIncrement_declareColumns T.fields _ _

theorem generateCreatetbSql_snd :
    (generateCreatetbSql db r T args).2
      = declaredRegistry db T.tableName (r.getConflictKeys T.structName db).2
          (r.getAutoKey T.structName)
          (firstAutoKey T.fields (constraintSets db r T args).autoPrimaryKey) :=
  (declaredFrom_foldl T.fields (createLoopStart db r T args)).registry

end Statement

end Ormpp
