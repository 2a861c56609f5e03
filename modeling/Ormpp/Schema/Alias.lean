import Ormpp.Schema.Upsert
import Ormpp.Update.Binding

/-!
# Columns with other names

The columns of a class may have other names than its members. The macros that register its keys keep
what is written there, the name of a member, and the statements are written and their values bound
by comparing it with the names of the columns. A key meets its column only where the column kept the
name of the member.
-/

namespace Ormpp

open Registry Sql

/-- A reflected class whose members have columns of whatever names, with the keys that the macros
register for it: an auto key, and conflict keys, each by the name of a member. -/
structure AliasedType where
  structName : StructName
  members : List (Key × Field)
  members_ne_nil : members ≠ []
  nodup_members : (members.map fun m ↦ m.1.text).Nodup
  nodup_columns : (members.map fun m ↦ m.2.name.text).Nodup
  autoKey : Option Key
  conflictKey : Option Registration
  autoKey_mem : ∀ k, autoKey = some k → ∃ m ∈ members, m.1.text = k.text
  conflictKey_mem : ∀ reg, conflictKey = some reg → ∀ k ∈ reg.keys, ∃ m ∈ members, m.1.text = k.text

namespace AliasedType

variable (A : AliasedType)

/-- What the tables are made of. -/
def entity : Entity where
  structName := A.structName
  fields := A.members.map Prod.snd
  fields_ne_nil := List.map_eq_nil_iff.not.mpr A.members_ne_nil
  nodup := by
    rw [List.map_map]
    exact A.nodup_columns

/-- What an update is made of. -/
def reflected : ReflectedType where
  name := A.structName.name
  members := A.members.map fun m ↦ m.2.name
  members_ne_nil := List.map_eq_nil_iff.not.mpr A.members_ne_nil
  nodup := by
    rw [List.map_map]
    exact A.nodup_columns
  conflictKey := A.conflictKey
  autoKey := A.autoKey

/-- `REGISTER_AUTO_KEY` and `REGISTER_CONFLICT_KEY` for the class. -/
def macros : List KeyMacro :=
  A.autoKey.toList.map (KeyMacro.registerAutoKey A.structName)
    ++ A.conflictKey.toList.map (KeyMacro.registerConflictKey A.structName)

def registry : Registry := A.macros.foldl Registry.register .empty

/-- The column of the member of that name. -/
def columnOf (k : Key) : Bytes :=
  ((A.members.find? fun m ↦ m.1.text = k.text).map fun m ↦ m.2.name.text).getD []

/-- The conflict keys, for which the auto key stands in. -/
def keys : List Key := A.reflected.keys

/-- The columns of the conflict keys. -/
def keyColumns : List Bytes := A.keys.map A.columnOf

end AliasedType

/-! ## The statements and what is bound -/

/-- The backend of an update. -/
def DBType.backend : DBType → Backend
  | .mysql => .mysql
  | .sqlite => .sqlite
  | .postgresql => .postgresql

/-- `stmt_execute` for an update. -/
def stmtExecute (db : DBType) (T : ReflectedType) (t : Record) : List QueryArg :=
  match db with
  | .mysql => mysqlStmtExecute T t
  | .sqlite => sqliteStmtExecute T t
  | .postgresql => postgresqlStmtExecute T t

/-- The columns that an update compares, behind those that it sets. -/
def keyPredicates (db : DBType) (T : ReflectedType) : List Bytes :=
  (db.backend.columns T).drop T.members.length

/-- The values that are bound for them. -/
def keyValues (db : DBType) (T : ReflectedType) (t : Record) : List QueryArg :=
  (stmtExecute db T t).drop T.members.length

/-- The columns that a statement declares as a primary key of the class: the auto key by itself,
which has its place beside the column on SQLite, or else the conflict keys. -/
def AliasedType.primaryColumns (A : AliasedType) (db : DBType) : List Bytes :=
  match A.autoKey with
  | some k => if db = .sqlite then [] else [A.columnOf k]
  | none => A.keyColumns.map (quoteName db)

/-- Every statement names the keys of the class by their columns. -/
structure KeysNamed (A : AliasedType) (db : DBType) : Prop where
  /-- An insert leaves out the column of the auto key. -/
  insert : omittedColumns A.registry A.entity = (A.autoKey.map A.columnOf).toList
  /-- An update compares the columns of the keys. -/
  update : keyPredicates db A.reflected = A.keyColumns
  /-- It has as many values for them. -/
  bound : ∀ t, (keyValues db A.reflected t).length = (keyPredicates db A.reflected).length
  /-- An upsert is about the columns of the keys. -/
  conflict : db = .postgresql →
    columnList (conflictTarget A.registry A.entity []) = A.keyColumns
  /-- The statement that creates the table declares the column of the auto key. -/
  autoIncrement : (createStatement db A.registry A.entity []).autoIncrement
    = (A.autoKey.map A.columnOf).toList
  primaryKey : ∀ name, name ∈ (createStatement db A.registry A.entity []).primaryKey ↔
    name ∈ A.primaryColumns db

/-- The columns of the keys kept the names of the members, and the keys are registered so that they
are found: an auto key for a class of the global namespace, conflict keys without a blank in front
of a comma and each of them once. -/
structure NamesKept (A : AliasedType) : Prop where
  auto : ∀ k, A.autoKey = some k → A.columnOf k = k.text ∧ A.structName.Global
  keys : ∀ k ∈ A.keys, A.columnOf k = k.text
  commas : A.reflected.CommasFollow
  nodup : A.reflected.keyNames.Nodup

namespace AliasedType

variable (A : AliasedType)

/-! ## The registry of the class -/

theorem getConflictKey_registry :
    A.registry.getConflictKey A.structName = Ormpp.getConflictKey A.reflected := by
  have hauto : A.reflected.autoKey = A.autoKey := rfl
  have hconflict : A.reflected.conflictKey = A.conflictKey := rfl
  rw [Ormpp.getConflictKey, hauto, hconflict, registry, macros]
  obtain _ | k := A.autoKey
  · obtain _ | reg := A.conflictKey
    · rfl
    · simp [Registry.getConflictKey, register, addConflictKeyField, Dictionary.lookup_emplace,
        empty]
  · obtain _ | reg := A.conflictKey
    · simp [Registry.getConflictKey, register, addAutoKeyField, Dictionary.lookup_emplace, empty]
    · simp [Registry.getConflictKey, register, addAutoKeyField, addConflictKeyField,
        Dictionary.lookup_emplace, empty]

theorem lookup_autoKeyMap_registry (key : Bytes) :
    A.registry.autoKeyMap.lookup key
      = if getStructName A.structName = key then A.autoKey.map fun k ↦ k.text else none := by
  rw [registry, macros]
  obtain _ | k := A.autoKey
  · obtain _ | reg := A.conflictKey <;> simp [register, addConflictKeyField, empty]
  · obtain _ | reg := A.conflictKey <;>
      simp [register, addAutoKeyField, addConflictKeyField, Dictionary.lookup_emplace, empty]

/-- The auto key is found in the global namespace. -/
theorem getAutoKey_registry :
    A.registry.getAutoKey A.structName
      = if A.structName.Global then (A.autoKey.map fun k ↦ k.text).getD [] else [] := by
  have hglobal : getStructName A.structName = getShortStructName A.structName ↔
      A.structName.Global := by
    rw [getShortStructName_eq, getStructName_eq_text_iff]
    exact and_iff_left rfl
  rw [getAutoKey_eq, A.lookup_autoKeyMap_registry]
  by_cases h : A.structName.Global
  · rw [if_pos (hglobal.mpr h), if_pos h]
  · rw [if_neg (mt hglobal.mp h), if_neg h]
    rfl

theorem results_registry : A.registry.results = fun _ _ ↦ [] := by
  rw [registry, macros]
  obtain _ | k := A.autoKey <;> obtain _ | reg := A.conflictKey <;> rfl

/-- The conflict keys as they are found. -/
theorem getConflictKeys_registry (db : DBType) :
    (A.registry.getConflictKeys A.structName db).1 = A.reflected.cutNames.map (quoteName db) := by
  rw [(coherent_of_results_eq A.results_registry).getConflictKeys_fst, quotedKeys,
    A.getConflictKey_registry, split_getConflictKey]

/-! ## Columns of members -/

theorem columnNames_entity : A.entity.columnNames = A.members.map fun m ↦ m.2.name.text :=
  List.map_map

theorem fieldNames_reflected : A.reflected.fieldNames = A.members.map fun m ↦ m.2.name.text :=
  List.map_map

/-- The name of a member leads to a column of the class. -/
theorem exists_columnOf {k : Key} (h : ∃ m ∈ A.members, m.1.text = k.text) :
    ∃ m ∈ A.members, A.columnOf k = m.2.name.text := by
  rcases hfind : A.members.find? (fun m ↦ m.1.text = k.text) with _ | m
  · obtain ⟨m, hm, hk⟩ := h
    exact absurd (decide_eq_true hk) (List.find?_eq_none.mp hfind m hm)
  · refine ⟨m, List.mem_of_find?_eq_some hfind, ?_⟩
    rw [columnOf, hfind]
    rfl

/-- A key of the class is the name of a member. -/
theorem exists_member {k : Key} (h : k ∈ A.keys) : ∃ m ∈ A.members, m.1.text = k.text := by
  rcases hconflict : A.conflictKey with _ | reg
  · have hkeys : A.keys = A.autoKey.toList := by
      rw [keys, ReflectedType.keys, reflected]
      simp [hconflict]
    rw [hkeys] at h
    exact A.autoKey_mem k (Option.mem_toList.mp h)
  · have hkeys : A.keys = reg.keys := by
      rw [keys, ReflectedType.keys, reflected]
      simp [hconflict]
    rw [hkeys] at h
    exact A.conflictKey_mem reg hconflict k h

theorem columnOf_mem_fieldNames {k : Key} (h : ∃ m ∈ A.members, m.1.text = k.text) :
    A.columnOf k ∈ A.reflected.fieldNames := by
  obtain ⟨m, hm, hcolumn⟩ := A.exists_columnOf h
  rw [hcolumn, fieldNames_reflected]
  exact List.mem_map_of_mem hm

theorem isWord_columnOf (k : Key) : IsWord (A.columnOf k) := by
  rw [columnOf]
  generalize A.members.find? _ = found
  obtain _ | m := found
  · exact isWord_nil
  · exact m.2.name.isWord

end AliasedType

/-! ## The predicates and the values -/

section Update

variable {A : AliasedType} {db : DBType}

theorem keyNames_reflected : A.reflected.keyNames = A.keys.map fun k ↦ k.text := rfl

/-- The predicates are what `split` found, as far as the server reads it. -/
theorem keyPredicates_eq (h : A.keys ≠ []) :
    keyPredicates db A.reflected
      = A.reflected.cutNames.filter (readsColumn db.backend.dbType) := by
  have hne : A.reflected.keyNames ≠ [] := List.map_eq_nil_iff.not.mpr h
  rw [keyPredicates, Backend.columns_eq _ hne, ← length_fieldNames, List.drop_left]

theorem keyPredicates_of_nil (h : A.keys = []) : keyPredicates db A.reflected = [] := by
  have hnone : getConflictKeys A.reflected db.backend.dbType = [] := by
    rw [getConflictKeys_eq_nil_iff, keyNames_reflected, h]
    rfl
  have hsql : db.backend.updateSql A.reflected = [] := by
    rw [Backend.updateSql, generateUpdateSql]
    exact if_pos hnone
  have hparameters : Sql.parameters db.backend.dialect [] = [] := by
    obtain _ | _ | _ := db <;> rfl
  rw [keyPredicates, Backend.columns, hsql, hparameters, List.map_nil, List.drop_nil]

/-- The values for the keys are those of the columns that `split` found. -/
theorem keyValues_eq (t : Record) :
    keyValues db A.reflected t
      = (A.reflected.fieldNames.filter fun name ↦ name ∈ A.reflected.cutNames).map t := by
  have hwalk : stmtExecute db A.reflected t = A.reflected.walked.map t := by
    obtain _ | _ | _ := db
    · exact mysqlStmtExecute_eq A.reflected t
    · exact sqliteStmtExecute_eq A.reflected t
    · exact postgresqlStmtExecute_eq A.reflected t
  rw [keyValues, hwalk, ReflectedType.walked, List.map_append, ← length_fieldNames,
    ← List.length_map t, List.drop_left]

/-- Among the columns there is one for each of the keys exactly where no key is there twice. -/
theorem length_filter_eq_iff {α : Type*} [DecidableEq α] {l names : List α} {p : α → Bool}
    (hl : l.Nodup) (hsub : ∀ name ∈ names, name ∈ l) (hp : ∀ name, p name = true ↔ name ∈ names) :
    (l.filter p).length = names.length ↔ names.Nodup := by
  have hperm : (l.filter p).Perm names.dedup := by
    rw [List.perm_ext_iff_of_nodup (hl.filter _) names.nodup_dedup]
    intro name
    rw [List.mem_filter, hp, List.mem_dedup]
    exact and_iff_right_of_imp (hsub name)
  rw [hperm.length_eq, ← List.dedup_eq_self]
  exact ⟨(List.dedup_sublist names).eq_of_length, congrArg List.length⟩

/-- Where the predicates are the columns of the keys, no key was cut and every one is the name of
its column. -/
theorem cutNames_of_keyPredicates (hne : A.keys ≠ [])
    (h : keyPredicates db A.reflected = A.keyColumns) :
    A.reflected.cutNames = A.reflected.keyNames ∧ ∀ k ∈ A.keys, A.columnOf k = k.text := by
  rw [keyPredicates_eq hne] at h
  have hlength : A.reflected.cutNames.length = A.keys.length := by
    rw [length_cutNames, keyNames_reflected, List.length_map]
  have hall : A.reflected.cutNames.filter (readsColumn db.backend.dbType)
      = A.reflected.cutNames := by
    apply List.filter_eq_self.mpr
    apply List.length_filter_eq_length_iff.mp
    rw [h, AliasedType.keyColumns, List.length_map, hlength]
  have hcolumns : A.reflected.cutNames = A.keyColumns := hall.symm.trans h
  have hcut : A.reflected.cutNames = A.reflected.keyNames := by
    rw [cutNames_eq_iff]
    intro reg hreg
    rw [← reg.forall_mem_cuts]
    rintro ⟨k, _ | _⟩ hc
    · rfl
    · -- A key that was cut ends in a blank, and the name of a column has none.
      have hmem : cutKey k true ∈ A.reflected.cutNames := by
        have hnames : A.reflected.cutNames = cutKeys reg.first reg.rest := by
          rw [ReflectedType.cutNames, hreg]
        rw [hnames, ← reg.map_cutKey_cuts]
        exact List.mem_map_of_mem hc
      rw [hcolumns] at hmem
      obtain ⟨k', -, hk'⟩ := List.mem_map.mp hmem
      have hblank : blank ∈ A.columnOf k' := by
        rw [hk', cutKey, if_pos rfl]
        exact List.mem_append_right _ List.mem_cons_self
      exact absurd rfl (A.isWord_columnOf k' blank hblank).1
  refine ⟨hcut, fun k hk ↦ ?_⟩
  have hmap : A.keys.map A.columnOf = A.keys.map fun k ↦ k.text := hcolumns.symm.trans hcut
  exact List.map_inj_left.mp hmap k hk

/-- There are as many values as predicates exactly where no key is there twice. -/
theorem length_keyValues_iff (hcut : A.reflected.cutNames = A.reflected.keyNames)
    (hnames : ∀ k ∈ A.keys, A.columnOf k = k.text) (t : Record) :
    (keyValues db A.reflected t).length = A.reflected.keyNames.length ↔
      A.reflected.keyNames.Nodup := by
  rw [keyValues_eq, List.length_map, hcut]
  apply length_filter_eq_iff A.reflected.nodup
  · intro name hname
    obtain ⟨k, hk, rfl⟩ := List.mem_map.mp hname
    rw [← hnames k hk]
    exact A.columnOf_mem_fieldNames (A.exists_member hk)
  · exact fun _ ↦ decide_eq_true_iff

theorem keyColumns_eq (hnames : ∀ k ∈ A.keys, A.columnOf k = k.text) :
    A.keyColumns = A.reflected.keyNames := List.map_congr_left hnames

/-- Where no key was cut the server reads a predicate for each of them. -/
theorem keyPredicates_of_cut (hcut : A.reflected.cutNames = A.reflected.keyNames) :
    keyPredicates db A.reflected = A.reflected.keyNames := by
  by_cases hne : A.keys = []
  · rw [keyPredicates_of_nil hne, keyNames_reflected, hne]
    rfl
  · rw [keyPredicates_eq hne, hcut, List.filter_eq_self]
    exact A.reflected.readsColumn_keyNames _

end Update

/-! ## Where the keys are named -/

section Named

variable {A : AliasedType} {db : DBType}

/-- A key that an insert leaves out is found, and is the name of its column. -/
theorem auto_of_omitted {k : Key} (hauto : A.autoKey = some k)
    (h : omittedColumns A.registry A.entity = [A.columnOf k]) :
    A.columnOf k = k.text ∧ A.structName.Global := by
  have hmem : A.columnOf k ∈ omittedColumns A.registry A.entity := h ▸ List.mem_cons_self
  rw [omittedColumns_eq, List.mem_filter, decide_eq_true_iff] at hmem
  obtain ⟨hcolumn, hfound⟩ := hmem
  have hne : A.columnOf k ≠ [] := Entity.ne_nil_of_mem hcolumn
  have hkey : A.registry.getAutoKey A.structName = if A.structName.Global then k.text else [] := by
    rw [A.getAutoKey_registry, hauto]
    rfl
  rw [show A.entity.structName = A.structName from rfl, hkey] at hfound
  split_ifs at hfound with hglobal
  · exact ⟨hfound, hglobal⟩
  · exact absurd hfound hne

theorem namesKept_of_keysNamed (h : KeysNamed A db) : NamesKept A := by
  have hauto (k : Key) (hk : A.autoKey = some k) : A.columnOf k = k.text ∧ A.structName.Global := by
    apply auto_of_omitted hk
    rw [h.insert, hk]
    rfl
  by_cases hne : A.keys = []
  · have hnone : A.conflictKey = none := by
      rcases hconflict : A.conflictKey with _ | reg
      · rfl
      · have hkeys : A.keys = reg.keys := by
          rw [AliasedType.keys, ReflectedType.keys, show A.reflected.conflictKey = _ from hconflict]
        exact absurd (hkeys.symm.trans hne) (List.cons_ne_nil _ _)
    constructor
    · exact hauto
    · rw [hne]
      exact fun _ hk ↦ absurd hk List.not_mem_nil
    · intro reg hreg
      rw [show A.reflected.conflictKey = _ from hnone] at hreg
      cases hreg
    · rw [keyNames_reflected, hne]
      exact List.nodup_nil
  · obtain ⟨hcut, hnames⟩ := cutNames_of_keyPredicates hne h.update
    constructor
    · exact hauto
    · exact hnames
    · exact (cutNames_eq_iff A.reflected).mp hcut
    · have hbound := h.bound fun _ ↦ .integer 0
      rw [keyPredicates_of_cut hcut] at hbound
      exact (length_keyValues_iff hcut hnames _).mp hbound

/-- The auto key that is found, where the column kept its name. -/
theorem getAutoKey_of_namesKept (h : NamesKept A) :
    A.registry.getAutoKey A.structName = (A.autoKey.map A.columnOf).getD [] := by
  rw [A.getAutoKey_registry]
  rcases hauto : A.autoKey with _ | k
  · exact ite_self _
  · obtain ⟨hcolumn, hglobal⟩ := h.auto k hauto
    rw [if_pos hglobal, Option.map_some, Option.map_some, hcolumn]

theorem omittedColumns_of_namesKept (h : NamesKept A) :
    omittedColumns A.registry A.entity = (A.autoKey.map A.columnOf).toList := by
  rw [omittedColumns_eq, show A.entity.structName = A.structName from rfl,
    getAutoKey_of_namesKept h]
  rcases hauto : A.autoKey with _ | k
  · apply List.filter_eq_nil_iff.mpr
    intro name hname hnil
    exact Entity.ne_nil_of_mem hname (of_decide_eq_true hnil)
  · have hcolumn : A.columnOf k ∈ A.entity.columnNames := by
      rw [A.columnNames_entity, ← A.fieldNames_reflected]
      exact A.columnOf_mem_fieldNames (A.autoKey_mem k hauto)
    exact filter_eq_singleton A.entity.nodup hcolumn

/-- Without arguments the statement declares the column that an insert leaves out. -/
theorem autoIncrement_nil (db : DBType) (r : Registry) (T : Entity) :
    (createStatement db r T []).autoIncrement = omittedColumns r T := by
  have hnodup : T.columnNames.Nodup := T.nodup
  rw [autoIncrement_createStatement, firstAutoKey_constraintSets, omittedColumns_eq,
    toList_find?_eq_filter_iff hnodup (fun _ ↦ decide_eq_true_iff) fun _ ↦ decide_eq_true_iff]
  exact fun name hname ↦ absurd hname List.not_mem_nil

theorem columnList_conflictTarget_reflected (A : AliasedType) :
    columnList (conflictTarget A.registry A.entity []) = A.reflected.keyNames := by
  have htarget : conflictTarget A.registry A.entity [] = Ormpp.getConflictKey A.reflected :=
    A.getConflictKey_registry
  rw [htarget, Ormpp.getConflictKey, ReflectedType.keyNames, ReflectedType.keys]
  rcases A.reflected.conflictKey with _ | reg
  · rcases A.reflected.autoKey with _ | k
    · rfl
    · exact columnList_text ⟨k, []⟩
  · exact columnList_text reg

theorem primaryKey_of_namesKept (h : NamesKept A) (name : Bytes) :
    name ∈ (createStatement db A.registry A.entity []).primaryKey ↔ name ∈ A.primaryColumns db := by
  rw [primaryKey_createStatement_nil, show A.entity.structName = A.structName from rfl,
    getAutoKey_of_namesKept h, A.getConflictKeys_registry, AliasedType.primaryColumns,
    primaryKeyNames]
  rcases hauto : A.autoKey with _ | k
  · rw [Option.map_none, Option.getD_none, if_neg (by simp), StringSet.mem_addAll,
      (cutNames_eq_iff A.reflected).mpr h.commas, keyColumns_eq h.keys]
    exact or_iff_left List.not_mem_nil
  · have hne : A.columnOf k ≠ [] := by
      rw [(h.auto k hauto).1]
      exact k.text_ne_nil
    rw [Option.map_some, Option.getD_some, if_pos hne]

/-- **Keys of aliased columns.** The statements of a backend name the keys of a class by their
columns, and bind a value for each of them, exactly where these columns kept the names of their
members, and the keys are found at all. -/
theorem keysNamed_iff (A : AliasedType) (db : DBType) : KeysNamed A db ↔ NamesKept A := by
  constructor
  · exact namesKept_of_keysNamed
  · intro h
    have hcut : A.reflected.cutNames = A.reflected.keyNames :=
      (cutNames_eq_iff A.reflected).mpr h.commas
    have homitted := omittedColumns_of_namesKept h
    constructor
    · exact homitted
    · rw [keyPredicates_of_cut hcut, keyColumns_eq h.keys]
    · intro t
      rw [keyPredicates_of_cut hcut]
      exact (length_keyValues_iff hcut h.keys t).mpr h.nodup
    · intro _
      rw [columnList_conflictTarget_reflected, keyColumns_eq h.keys]
    · exact (autoIncrement_nil db A.registry A.entity).trans homitted
    · exact primaryKey_of_namesKept h

/-- The class of the guide: the auto key `id` and the conflict key `name`, and columns with other
names. -/
def aliasedPerson : AliasedType where
  structName := ⟨[], .lit (ascii "CUSTOM_TABLE_NAME")⟩
  members := [
    (.lit (ascii "id"),
      ⟨.lit (ascii "person_id"), .value (.integral .int), Eq.refl true⟩),
    (.lit (ascii "name"),
      ⟨.lit (ascii "person_name"), .value .string, Eq.refl true⟩),
    (.lit (ascii "age"),
      ⟨.lit (ascii "person_age"), .optional (.integral .int), Eq.refl true⟩)]
  members_ne_nil := List.cons_ne_nil _ _
  nodup_members := by decide
  nodup_columns := by decide
  autoKey := some (.lit (ascii "id"))
  conflictKey := some ⟨.lit (ascii "name"), []⟩
  autoKey_mem := by
    rintro _ ⟨⟩
    exact ⟨_, List.mem_cons_self, rfl⟩
  conflictKey_mem := by
    rintro _ ⟨⟩ k hk
    obtain rfl := List.mem_singleton.mp hk
    exact ⟨_, List.mem_cons_of_mem _ List.mem_cons_self, rfl⟩

/-- The update compares a column `name`, for which no value is bound, and the insert does not leave
out the column of the auto key. -/
theorem not_keysNamed_aliasedPerson :
    generateUpdateSql aliasedPerson.reflected .sqlite
        = ascii "update CUSTOM_TABLE_NAME set person_id=?,person_name=?,person_age=? "
          ++ ascii "where 1=1 and name=?" ∧
      (sqliteStmtExecute aliasedPerson.reflected fun _ ↦ .integer 0).length = 3 ∧
      generateInsertSql aliasedPerson.registry aliasedPerson.entity .sqlite true []
        = ascii "insert into CUSTOM_TABLE_NAME (person_id,person_name,person_age) "
          ++ ascii "values(?,?,?) " ∧
      ¬ ∀ (A : AliasedType) (db : DBType), KeysNamed A db := by
  refine ⟨by decide, by decide, by decide, fun h ↦ ?_⟩
  exact absurd (h aliasedPerson .sqlite).insert (by decide)

end Named

end Ormpp
