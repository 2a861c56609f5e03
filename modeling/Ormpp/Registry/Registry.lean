import Ormpp.Data.Dictionary
import Ormpp.Registry.StructName
import Ormpp.Update.Key

/-!
# The registry of keys

What is registered for the classes of a program lies in two dictionaries, and what was once found
for a class in the static variables of a function. A macro files a key under the qualified name of
its class, the builder and `create_datatable` of SQLite file the field under the short one.
-/

namespace Ormpp

/-- The dictionaries, and the static variables of `get_conflict_keys` for each class: `res_mysql`
and `res_other`. -/
structure Registry where
  autoKeyMap : Dictionary Bytes Bytes
  conflictMap : Dictionary Bytes Bytes
  results : StructName → Bool → List Bytes

namespace Registry

/-- The registry before anything is registered. -/
def empty : Registry where
  autoKeyMap := ∅
  conflictMap := ∅
  results := fun _ _ ↦ []

variable (r : Registry)

/-- `add_auto_key_field`. -/
def addAutoKeyField (key value : Bytes) : Registry :=
  { r with autoKeyMap := r.autoKeyMap.emplace key value }

/-- `add_conflict_key_field`. -/
def addConflictKeyField (key value : Bytes) : Registry :=
  { r with conflictMap := r.conflictMap.emplace key value }

/-! ## The consumers -/

/-- `get_auto_key`. -/
def getAutoKey (T : StructName) : Bytes :=
  match r.autoKeyMap.lookup (getShortStructName T) with
  | none => []
  | some value => value

/-- `is_auto_key`. -/
def isAutoKey (T : StructName) (fieldName : Bytes) : Bool :=
  match r.autoKeyMap.lookup (getShortStructName T) with
  | none => false
  | some value => value == fieldName

/-- `get_conflict_key`. -/
def getConflictKey (T : StructName) : Bytes :=
  match r.conflictMap.lookup (getStructName T) with
  | none =>
    match r.autoKeyMap.lookup (getStructName T) with
    | none => []
    | some value => value
  | some value => value

/-- What `get_conflict_keys` puts together for a class. -/
def quotedKeys (T : StructName) (db : DBType) : List Bytes :=
  (split (r.getConflictKey T)).map (quoteName db)

/-- `res.push_back` until all the keys are there. -/
def setResult (T : StructName) (mysql : Bool) (keys : List Bytes) : Registry :=
  { r with
    results := fun T' mysql' ↦ if T' = T ∧ mysql' = mysql then keys else r.results T' mysql' }

/-- `get_conflict_keys`. -/
def getConflictKeys (T : StructName) (db : DBType) : List Bytes × Registry :=
  let res := r.results T (db = .mysql)
  if res ≠ [] then (res, r)
  else if split (r.getConflictKey T) = [] then ([], r)
  else (r.quotedKeys T db, r.setResult T (db = .mysql) (r.quotedKeys T db))

/-! ## The macros -/

/-- A macro that stands in the source. Its variable is initialized before `main` is called. -/
inductive KeyMacro where
  | registerAutoKey (T : StructName) (key : Key)
  | registerConflictKey (T : StructName) (keys : Registration)

def register : KeyMacro → Registry
  | .registerAutoKey T key => r.addAutoKeyField (getStructName T) key.text
  | .registerConflictKey T keys => r.addConflictKeyField (getStructName T) keys.text

/-! ## The calls -/

section Calls

-- What reflection finds in the classes.
variable (fields : StructName → List Key)

/-- `register_auto_increment_field`. -/
def registerAutoIncrementField (T : StructName) (autoIncrementField : Bytes) : Registry :=
  if autoIncrementField = [] then r
  else (fields T).foldl (fun r name ↦
    if name.text = autoIncrementField then r.addAutoKeyField (getShortStructName T) name.text
    else r) r

/-- The loop of `generate_createtb_sql` over the fields: the first one among the auto keys ends the
search, and is registered where no key was found before. -/
def createtbLoop (tableName : Bytes) :
    List Key → (autoKey : Bytes) → (autoPrimaryKey : List Bytes) → Registry → Registry
  | [], _, _, r => r
  | name :: rest, autoKey, autoPrimaryKey, r =>
    if name.text ∈ autoPrimaryKey then
      createtbLoop tableName rest name.text []
        (if autoKey = [] then r.addAutoKeyField tableName name.text else r)
    else createtbLoop tableName rest autoKey autoPrimaryKey r

/-- `generate_createtb_sql` of SQLite, as far as it reads and writes the registry. -/
def generateCreatetbSql (T : StructName) (autoKeys : List Bytes) : Registry :=
  let autoKey := r.getAutoKey T
  let autoPrimaryKey := (if autoKey = [] then [] else [autoKey]) ++ autoKeys
  createtbLoop (getShortStructName T) (fields T) autoKey autoPrimaryKey
    (r.getConflictKeys T .sqlite).2

/-- What a program does with the registry once it runs: it executes a `create_table_builder`, whose
partitions may be refused, it creates a table of SQLite with some `ormpp_auto_key`s, or it makes a
statement for which the conflict keys are looked up. -/
inductive Call where
  | createTable (T : StructName) (autoIncrementField : Bytes) (validPartitions : Bool)
  | createDatatable (T : StructName) (autoKeys : List Bytes)
  | getConflictKeys (T : StructName) (db : DBType)

def call : Call → Registry
  | .createTable T field valid => if valid then r.registerAutoIncrementField fields T field else r
  | .createDatatable T autoKeys => r.generateCreatetbSql fields T autoKeys
  | .getConflictKeys T db => (r.getConflictKeys T db).2

end Calls

/-! ## What the operations leave -/

section Operations

variable {r}

/-- A name under which a key is filed keeps it. -/
theorem addAutoKeyField_of_isSome {key : Bytes} (h : (r.autoKeyMap.lookup key).isSome)
    (value : Bytes) : r.addAutoKeyField key value = r := by
  rw [addAutoKeyField, Dictionary.emplace_of_isSome h]

theorem isSome_lookup_addAutoKeyField (r : Registry) (key value : Bytes) :
    ((r.addAutoKeyField key value).autoKeyMap.lookup key).isSome := by
  have hlookup : (r.addAutoKeyField key value).autoKeyMap.lookup key
      = (r.autoKeyMap.lookup key).or (some value) := by
    rw [addAutoKeyField, Dictionary.lookup_emplace, if_pos rfl]
  rw [hlookup, Option.isSome_or]
  exact Bool.or_true _

/-- `get_conflict_keys` keeps its result, or leaves everything as it is. -/
theorem getConflictKeys_snd (r : Registry) (T : StructName) (db : DBType) :
    (r.getConflictKeys T db).2 = r ∨
      (r.getConflictKeys T db).2 = r.setResult T (db = .mysql) (r.quotedKeys T db) := by
  simp only [getConflictKeys]
  split_ifs
  · exact .inl rfl
  · exact .inl rfl
  · exact .inr rfl

theorem autoKeyMap_getConflictKeys (T : StructName) (db : DBType) :
    (r.getConflictKeys T db).2.autoKeyMap = r.autoKeyMap := by
  obtain h | h := r.getConflictKeys_snd T db <;> rw [h]
  rfl

theorem conflictMap_getConflictKeys (T : StructName) (db : DBType) :
    (r.getConflictKeys T db).2.conflictMap = r.conflictMap := by
  obtain h | h := r.getConflictKeys_snd T db <;> rw [h]
  rfl

end Operations

end Registry

end Ormpp
