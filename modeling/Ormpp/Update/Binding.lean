import Ormpp.Bind.Format
import Ormpp.Update.Statement

/-!
# The values of an update

Behind the statement, each backend walks over the fields of the object: it binds every field, and
then once more the fields that are keys. The placeholders of the keys stand in the order in which
the keys were registered, and the values come in the order of the fields; the statement selects the
row of the object exactly when the two are the same.
-/

namespace Ormpp

open Sql

/-- An object: the values of its fields. -/
abbrev Record := Bytes → QueryArg

/-! ## The walk of every backend -/

/-- The two loops over the fields: all of them, and then those that are keys. -/
def walk (T : ReflectedType) (t : Record) (isKey : Bytes → Bool) : List QueryArg :=
  T.fieldNames.map t ++ (T.fieldNames.filter isKey).map t

/-- `sqlite::stmt_execute` for an update. -/
def sqliteStmtExecute (T : ReflectedType) (t : Record) : List QueryArg :=
  walk T t fun name ↦ isConflictKey T name .sqlite

/-- `mysql::stmt_execute` for an update. -/
def mysqlStmtExecute (T : ReflectedType) (t : Record) : List QueryArg :=
  walk T t fun name ↦ isConflictKey T (ascii "`" ++ name ++ ascii "`") .mysql

/-- `postgresql::stmt_execute` for an update. -/
def postgresqlStmtExecute (T : ReflectedType) (t : Record) : List QueryArg :=
  walk T t fun name ↦ isConflictKey T name .postgresql

/-- `escape_identifier`. -/
def escapeIdentifier (input : Bytes) : Bytes :=
  ascii "`" ++ input.flatMap (fun ch ↦ if ch = backtick then [backtick, backtick] else [ch])
    ++ ascii "`"

/-- `format_struct_sql` for an update. -/
def formatStructSql (T : ReflectedType) (sql : Bytes) (t : Record) (noBackslashEscapes : Bool) :
    Except String Bytes :=
  formatValues sql noBackslashEscapes
    ((walk T t fun name ↦ isConflictKey T (escapeIdentifier name) .mysql).map
      (toQueryArg noBackslashEscapes))

inductive Backend
  | sqlite
  | mysql
  | mysqlAsync (noBackslashEscapes : Bool)
  | postgresql

namespace Backend

def dbType : Backend → DBType
  | sqlite => .sqlite
  | mysql | mysqlAsync _ => .mysql
  | postgresql => .postgresql

/-- How the server reads a statement. -/
def dialect : Backend → Dialect
  | sqlite | postgresql => standard
  | mysql => mysqlDefault
  | mysqlAsync noBackslashEscapes => mysqlDialect noBackslashEscapes

/-- The statement of `update`. -/
def updateSql (b : Backend) (T : ReflectedType) : Bytes := generateUpdateSql T b.dbType

/-- The columns that stand with its placeholders. -/
def columns (b : Backend) (T : ReflectedType) : List Bytes :=
  (parameters b.dialect (b.updateSql T)).map Prod.fst

end Backend

/-! ## What is bound -/

/-- The value at a parameter: the one of its number, and otherwise the one in its place. -/
def valueAt (values : List QueryArg) (i : ℕ) (p : Parameter) : Option QueryArg :=
  match p.2 with
  | some k => values[k - 1]?
  | none => values[i]?

/-- The values that are bound are as many as the parameters, and these are those at the
parameters. -/
def BindsTo (ps : List Parameter) (values expected : List QueryArg) : Prop :=
  values.length = ps.length ∧ ps.mapIdx (valueAt values) = expected.map some

/-- The statement is executed with the given values at its placeholders. The asynchronous client
writes them into the text. -/
def Backend.Executes (b : Backend) (T : ReflectedType) (t : Record)
    (expected : List QueryArg) : Prop :=
  match b with
  | sqlite => BindsTo (parameters standard (b.updateSql T)) (sqliteStmtExecute T t) expected
  | mysql => BindsTo (parameters mysqlDefault (b.updateSql T)) (mysqlStmtExecute T t) expected
  | postgresql => BindsTo (parameters standard (b.updateSql T)) (postgresqlStmtExecute T t) expected
  | mysqlAsync noBackslashEscapes =>
    ∃ text, formatStructSql T (b.updateSql T) t noBackslashEscapes = .ok text ∧
      formatValues (b.updateSql T) noBackslashEscapes (expected.map (toQueryArg noBackslashEscapes))
        = .ok text

/-- The rows of which the columns have the given values, in the sense in which the server
compares. -/
def Selects (equal : QueryArg → QueryArg → Prop) (bound : List (Bytes × QueryArg)) (row : Record) :
    Prop :=
  ∀ p ∈ bound, equal (row p.1) p.2

/-- The update of an object goes to the rows that have its keys. -/
structure KeysBound (b : Backend) (T : ReflectedType) (t : Record) : Prop where
  /-- Behind the fields, the placeholders stand with the keys as they were registered. -/
  keys : (b.columns T).drop T.members.length = T.keyNames
  /-- Every placeholder is given the value of the column that it stands with. -/
  values : b.Executes T t ((b.columns T).map t)
  rows : ∀ (equal : QueryArg → QueryArg → Prop) (row : Record),
    Selects equal (((b.columns T).map fun c ↦ (c, t c)).drop T.members.length) row ↔
      ∀ k ∈ T.keyNames, equal (row k) (t k)

/-- The keys were registered without a blank in front of a comma, and they are fields, each of them
once and in the order of the fields. -/
structure ReflectedType.KeysInFieldOrder (T : ReflectedType) : Prop where
  commas : T.CommasFollow
  order : T.keyNames = T.fieldNames.filter fun name ↦ name ∈ T.keyNames

/-! ## The fields that are keys -/

theorem isConflictKey_quoteName (T : ReflectedType) (db : DBType) (name : Bytes) :
    isConflictKey T (quoteName db name) db = decide (name ∈ T.cutNames) := by
  rw [isConflictKey, getConflictKeys_eq]
  exact decide_eq_decide.mpr (List.mem_map_of_injective (quoteName_injective db))

theorem ne_backtick_of_mem_name (n : Name) : ∀ b ∈ n.text, b ≠ backtick := by
  rintro b hb rfl
  exact absurd (n.plain backtick hb) (by decide)

/-- The name of a field has nothing to escape. -/
theorem escapeIdentifier_eq {name : Bytes} (h : ∀ b ∈ name, b ≠ backtick) :
    escapeIdentifier name = quoteName .mysql name := by
  have hescape : name.flatMap (fun ch ↦ if ch = backtick then [backtick, backtick] else [ch])
      = name := by
    induction name with
    | nil => rfl
    | cons b name ih =>
      obtain ⟨hb, hname⟩ := List.forall_mem_cons.mp h
      rw [List.flatMap_cons, if_neg hb, ih hname]
      rfl
  rw [escapeIdentifier, hescape]
  rfl

/-- The columns whose values a walk binds. -/
def ReflectedType.walked (T : ReflectedType) : List Bytes :=
  T.fieldNames ++ T.fieldNames.filter fun name ↦ name ∈ T.cutNames

theorem walk_eq (T : ReflectedType) (t : Record) {isKey : Bytes → Bool}
    (h : ∀ name ∈ T.fieldNames, isKey name = decide (name ∈ T.cutNames)) :
    walk T t isKey = T.walked.map t := by
  rw [walk, ReflectedType.walked, List.map_append, List.filter_congr h]

theorem sqliteStmtExecute_eq (T : ReflectedType) (t : Record) :
    sqliteStmtExecute T t = T.walked.map t :=
  walk_eq T t fun name _ ↦ isConflictKey_quoteName T .sqlite name

theorem mysqlStmtExecute_eq (T : ReflectedType) (t : Record) :
    mysqlStmtExecute T t = T.walked.map t :=
  walk_eq T t fun name _ ↦ isConflictKey_quoteName T .mysql name

theorem postgresqlStmtExecute_eq (T : ReflectedType) (t : Record) :
    postgresqlStmtExecute T t = T.walked.map t :=
  walk_eq T t fun name _ ↦ isConflictKey_quoteName T .postgresql name

theorem formatStructSql_eq (T : ReflectedType) (sql : Bytes) (t : Record)
    (noBackslashEscapes : Bool) :
    formatStructSql T sql t noBackslashEscapes
      = formatValues sql noBackslashEscapes
          ((T.walked.map t).map (toQueryArg noBackslashEscapes)) := by
  rw [formatStructSql, walk_eq]
  intro name hname
  obtain ⟨n, -, rfl⟩ := List.mem_map.mp hname
  rw [escapeIdentifier_eq (ne_backtick_of_mem_name n), isConflictKey_quoteName]

/-! ## The columns of the statement -/

theorem map_fst_columnParameters (db : DBType) (texts : List Bytes) (k : ℕ) :
    ((texts.zipIdx k).flatMap (columnParameters db)).map Prod.fst
      = texts.filter (readsColumn db) := by
  induction texts generalizing k with
  | nil => rfl
  | cons text texts ih =>
    rw [List.zipIdx_cons, List.flatMap_cons, List.map_append, ih, columnParameters]
    cases hreads : readsColumn db text with
    | false => rw [List.filter_cons_of_neg (by simp [hreads])]; rfl
    | true => rw [List.filter_cons_of_pos hreads]; rfl

theorem readsColumn_name (db : DBType) {word : Bytes} (h : ∀ b ∈ word, isWordByte b = true) :
    readsColumn db word = true := by
  rw [readsColumn, List.all_eq_true.mpr h, Bool.or_true]

theorem ReflectedType.readsColumn_fieldNames (T : ReflectedType) (db : DBType) :
    ∀ name ∈ T.fieldNames, readsColumn db name = true := by
  intro name hname
  obtain ⟨n, -, rfl⟩ := List.mem_map.mp hname
  exact readsColumn_name db fun b hb ↦ isWordByte_of_isNameByte (n.plain b hb)

theorem ReflectedType.readsColumn_keyNames (T : ReflectedType) (db : DBType) :
    ∀ name ∈ T.keyNames, readsColumn db name = true := by
  intro name hname
  obtain ⟨k, -, rfl⟩ := List.mem_map.mp hname
  exact readsColumn_name db fun b hb ↦ isWordByte_of_isKeyByte (k.isKey b hb)

theorem Backend.columns_eq (b : Backend) {T : ReflectedType} (h : T.keyNames ≠ []) :
    b.columns T = T.fieldNames ++ T.cutNames.filter (readsColumn b.dbType) := by
  have hfields : T.fieldNames.filter (readsColumn b.dbType) = T.fieldNames :=
    List.filter_eq_self.mpr (T.readsColumn_fieldNames b.dbType)
  rw [columns, updateSql, parameters_generateUpdateSql _ T _ h, List.map_append,
    map_fst_columnParameters, map_fst_columnParameters, hfields]

theorem length_fieldNames (T : ReflectedType) : T.fieldNames.length = T.members.length :=
  List.length_map _

/-- Where the statement has a placeholder for every key, `split` found the keys. -/
theorem cutNames_eq_of_drop {b : Backend} {T : ReflectedType} (h : T.keyNames ≠ [])
    (hkeys : (b.columns T).drop T.members.length = T.keyNames) : T.cutNames = T.keyNames := by
  rw [b.columns_eq h, ← length_fieldNames, List.drop_left] at hkeys
  have hlength : (T.cutNames.filter (readsColumn b.dbType)).length = T.cutNames.length := by
    rw [hkeys, length_cutNames]
  have hall : T.cutNames.filter (readsColumn b.dbType) = T.cutNames :=
    List.filter_eq_self.mpr (List.length_filter_eq_length_iff.mp hlength)
  exact hall.symm.trans hkeys

/-! ## Values and parameters -/

theorem flatMap_columnParameters (db : DBType) {texts : List Bytes}
    (h : ∀ text ∈ texts, readsColumn db text = true) (k : ℕ) :
    (texts.zipIdx k).flatMap (columnParameters db)
      = (texts.zipIdx k).map fun p ↦ (p.1, placeholderNumber db p.2) := by
  induction texts generalizing k with
  | nil => rfl
  | cons text texts ih =>
    obtain ⟨hreads, htexts⟩ := List.forall_mem_cons.mp h
    rw [List.zipIdx_cons, List.flatMap_cons, List.map_cons, ih htexts, columnParameters,
      if_pos hreads]
    rfl

/-- With numbers or without, the parameters take the values one after the other. -/
theorem mapIdx_valueAt (db : DBType) {columns : List Bytes} {values : List QueryArg}
    (h : values.length = columns.length) :
    ((columns.zipIdx 1).map fun p ↦ (p.1, placeholderNumber db p.2)).mapIdx (valueAt values)
      = values.map some := by
  apply List.ext_getElem (by simp [h])
  intro i _ hi
  have hlt : i < values.length := by simpa using hi
  have hvalue : values[i]? = some values[i] := List.getElem?_eq_getElem hlt
  simp only [List.getElem_mapIdx, List.getElem_map, List.getElem_zipIdx, valueAt, placeholderNumber]
  split_ifs
  · have hnumber : 1 + i - 1 = i := Nat.add_sub_cancel_left 1 i
    change values[1 + i - 1]? = _
    rw [hnumber, hvalue]
  · exact hvalue

theorem bindsTo_iff (db : DBType) {columns : List Bytes} {values expected : List QueryArg}
    (h : expected.length = columns.length) :
    BindsTo ((columns.zipIdx 1).map fun p ↦ (p.1, placeholderNumber db p.2)) values expected ↔
      values = expected := by
  rw [BindsTo, List.length_map, List.length_zipIdx]
  constructor
  · rintro ⟨hlength, hvalues⟩
    rw [mapIdx_valueAt db hlength] at hvalues
    exact List.map_injective_iff.mpr (Option.some_injective _) hvalues
  · rintro rfl
    exact ⟨h, mapIdx_valueAt db h⟩

/-! ## Places in the text -/

theorem places_columnText (noBackslashEscapes : Bool) {p : Bytes × ℕ} (h : IsToken p.1) :
    (mysqlScanner noBackslashEscapes).Places (columnText .mysql p) 1 := by
  have htext : columnText .mysql p
      = (backtick :: p.1 ++ [backtick, equalsSign]) ++ [questionMark] := by
    rw [columnText_mysql]
    simp [ascii, backtick, equalsSign]
  rw [htext]
  exact (Scanner.places_backticks rfl h.ne_backtick (by decide) (by decide)).append
    Scanner.places_questionMark

theorem places_columns (noBackslashEscapes : Bool) {sep : Bytes}
    (hsep : (mysqlScanner noBackslashEscapes).Places sep 0) {texts : List Bytes} (hne : texts ≠ [])
    (h : ∀ text ∈ texts, IsToken text) (k : ℕ) :
    (mysqlScanner noBackslashEscapes).Places
      (sep.intercalate ((texts.zipIdx k).map (columnText .mysql))) texts.length := by
  have hlength : ((texts.zipIdx k).map (columnText .mysql)).length = texts.length := by
    rw [List.length_map, List.length_zipIdx]
  rw [← hlength]
  apply Scanner.places_intercalate hsep
  · rwa [ne_eq, ← List.length_eq_zero_iff, hlength, List.length_eq_zero_iff]
  · intro x hx
    obtain ⟨p, hp, rfl⟩ := List.mem_map.mp hx
    exact places_columnText noBackslashEscapes (isToken_of_mem_zipIdx h hp)

/-- The client finds a placeholder for every field and for every key. -/
theorem length_placeholders {T : ReflectedType} (h : T.keyNames ≠ []) (noBackslashEscapes : Bool) :
    (placeholders (generateUpdateSql T .mysql) noBackslashEscapes 0).length
      = T.fieldNames.length + T.cutNames.length := by
  have hfields : T.fieldNames ≠ [] := List.map_eq_nil_iff.not.mpr T.members_ne_nil
  have hcut : T.cutNames ≠ [] := by
    rwa [ne_eq, ← List.length_eq_zero_iff, length_cutNames, List.length_eq_zero_iff]
  have hcode (text : Bytes) (h : ∀ b ∈ text, isCodeByte b = true ∧ b ≠ questionMark) :
      (mysqlScanner noBackslashEscapes).Places text 0 := Scanner.places_code h
  have hname : ∀ b ∈ T.name.text, isCodeByte b = true ∧ b ≠ questionMark := by
    intro b hb
    have hword : isWordByte b = true := isWordByte_of_isNameByte (T.name.plain b hb)
    refine ⟨isCodeByte_of_isWordByte hword, ?_⟩
    rintro rfl
    exact absurd hword (by decide)
  have hcount := ((((hcode (ascii "update ") (by decide)).append (hcode _ hname)).append
    (hcode (ascii " set ") (by decide))).append
      (places_columns _ (hcode (ascii ",") (by decide)) hfields T.isToken_fieldNames 1)).append
        (hcode (ascii " where 1=1 and ") (by decide)) |>.append
          (places_columns _ (hcode (ascii "  and ") (by decide)) hcut T.isToken_cutNames
            (T.members.length + 1))
  rw [placeholders_eq, generateUpdateSql_eq T .mysql h]
  simpa using hcount.2 0

/-! ## What the backends execute -/

section

variable {T : ReflectedType} (hne : T.keyNames ≠ []) (hcut : T.cutNames = T.keyNames)

include hne hcut

theorem Backend.columns_of_cut (b : Backend) : b.columns T = T.fieldNames ++ T.keyNames := by
  rw [b.columns_eq hne, hcut, List.filter_eq_self.mpr (T.readsColumn_keyNames b.dbType)]

theorem Backend.parameters_of_cut (b : Backend) :
    parameters b.dialect (b.updateSql T)
      = ((b.columns T).zipIdx 1).map fun p ↦ (p.1, placeholderNumber b.dbType p.2) := by
  rw [b.columns_of_cut hne hcut, updateSql, parameters_generateUpdateSql _ T _ hne, hcut,
    flatMap_columnParameters _ (T.readsColumn_fieldNames _),
    flatMap_columnParameters _ (T.readsColumn_keyNames _), List.zipIdx_append, List.map_append,
    length_fieldNames, Nat.add_comm 1]

theorem Backend.bindsTo_walked (b : Backend) (t : Record) :
    BindsTo (parameters b.dialect (b.updateSql T)) (T.walked.map t) ((b.columns T).map t) ↔
      T.walked.map t = (b.columns T).map t := by
  rw [b.parameters_of_cut hne hcut]
  exact bindsTo_iff b.dbType (List.length_map _)

theorem Backend.length_placeholders_of_cut (b : Backend) (noBackslashEscapes : Bool) :
    (placeholders (generateUpdateSql T .mysql) noBackslashEscapes 0).length
      = (b.columns T).length := by
  rw [length_placeholders hne, b.columns_of_cut hne hcut, hcut, List.length_append]

/-- Every placeholder is given its value where the walk follows the columns of the statement. -/
theorem Backend.executes_of_walked (b : Backend) (t : Record) (h : T.walked = b.columns T) :
    b.Executes T t ((b.columns T).map t) := by
  have hbinds := (b.bindsTo_walked hne hcut t).mpr (congrArg (List.map t) h)
  cases b with
  | sqlite => rwa [← sqliteStmtExecute_eq] at hbinds
  | mysql => rwa [← mysqlStmtExecute_eq] at hbinds
  | postgresql => rwa [← postgresqlStmtExecute_eq] at hbinds
  | mysqlAsync noBackslashEscapes =>
    have hcount := Backend.length_placeholders_of_cut hne hcut (.mysqlAsync noBackslashEscapes)
      noBackslashEscapes
    have hok := formatValues_eq (generateUpdateSql T .mysql) noBackslashEscapes
      (((Backend.columns (.mysqlAsync noBackslashEscapes) T).map t).map
        (toQueryArg noBackslashEscapes))
    rw [if_pos (by rw [hcount, List.length_map, List.length_map])] at hok
    refine ⟨_, ?_, hok⟩
    rw [formatStructSql_eq, h]
    exact hok

/-- The object with a one in the given column and zeros in the others. -/
def mark (c : Bytes) : Record := fun name ↦ if name = c then .integer 1 else .integer 0

omit hne hcut in
/-- The objects with a single one tell every two lists of columns apart. -/
theorem eq_of_map_mark {β : Type} (f : QueryArg → β) (hf : f (.integer 0) ≠ f (.integer 1))
    {xs ys : List Bytes} (h : ∀ c, (xs.map (mark c)).map f = (ys.map (mark c)).map f) :
    xs = ys := by
  have hlength : xs.length = ys.length := by
    simpa using congrArg List.length (h [])
  apply List.ext_getElem hlength
  intro i hx hy
  -- In place `i`, the object with its one in the first list's column has one in the second too.
  have hi := List.getElem_of_eq (h xs[i]) (by simpa using hx)
  simp only [List.getElem_map, mark, if_true] at hi
  by_contra hne
  rw [if_neg fun heq ↦ hne heq.symm] at hi
  exact hf hi.symm

omit hne hcut in
theorem length_toQueryArg_mark (noBackslashEscapes : Bool) (c name : Bytes) :
    (toQueryArg noBackslashEscapes (mark c name)).length = 1 := by
  rw [mark]
  split_ifs <;> rfl

/-- The values of these objects show in which order a backend binds the columns. -/
theorem Backend.walked_of_executes (b : Backend)
    (h : ∀ c, b.Executes T (mark c) ((b.columns T).map (mark c))) : T.walked = b.columns T := by
  have hbinds (hb : ∀ c, BindsTo (parameters b.dialect (b.updateSql T)) (T.walked.map (mark c))
      ((b.columns T).map (mark c))) : T.walked = b.columns T := by
    apply eq_of_map_mark (toQueryArg false) (by decide)
    intro c
    exact congrArg _ ((b.bindsTo_walked hne hcut (mark c)).mp (hb c))
  cases b with
  | sqlite => exact hbinds fun c ↦ sqliteStmtExecute_eq T (mark c) ▸ h c
  | mysql => exact hbinds fun c ↦ mysqlStmtExecute_eq T (mark c) ▸ h c
  | postgresql => exact hbinds fun c ↦ postgresqlStmtExecute_eq T (mark c) ▸ h c
  | mysqlAsync noBackslashEscapes =>
    have hdigits : intText 0 ≠ intText 1 := by decide
    apply eq_of_map_mark (toQueryArg noBackslashEscapes) hdigits
    intro c
    obtain ⟨text, hstruct, hcolumns⟩ := h c
    rw [formatStructSql_eq, formatValues_eq] at hstruct
    rw [formatValues_eq] at hcolumns
    -- Both formats succeed, so both lists have as many values as there are placeholders.
    split_ifs at hstruct hcolumns with hwalked hcount
    have hsame := (Except.ok.inj hstruct).trans (Except.ok.inj hcolumns).symm
    rw [placeholders_eq] at hsame hwalked hcount
    have hone (names : List Bytes) :
        ∀ x ∈ (names.map (mark c)).map (toQueryArg noBackslashEscapes), x.length = 1 := by
      intro x hx
      rw [List.map_map] at hx
      obtain ⟨name, -, rfl⟩ := List.mem_map.mp hx
      exact length_toQueryArg_mark noBackslashEscapes c name
    exact Regions.substitute_inj hwalked.symm hcount.symm (hone _) (hone _) hsame

end

theorem ReflectedType.walked_eq_iff {T : ReflectedType} (hcut : T.cutNames = T.keyNames) :
    T.walked = T.fieldNames ++ T.keyNames ↔
      T.keyNames = T.fieldNames.filter fun name ↦ name ∈ T.keyNames := by
  rw [walked, hcut, List.append_cancel_left_eq]
  exact eq_comm

theorem selects_map (equal : QueryArg → QueryArg → Prop) (names : List Bytes) (t row : Record) :
    Selects equal (names.map fun c ↦ (c, t c)) row ↔ ∀ k ∈ names, equal (row k) (t k) := by
  simp [Selects]

/-- Without a key there is nothing to be out of order. -/
theorem keysInFieldOrder_of_nil {T : ReflectedType} (h : T.keyNames = []) : T.KeysInFieldOrder where
  commas := by
    intro r hr
    rw [ReflectedType.keyNames, ReflectedType.keys, hr] at h
    cases h
  order := by
    rw [h, List.filter_eq_nil_iff.mpr (by simp)]

/-- **Updates by key.** On every backend, the update of an object goes to the rows with its keys
exactly where the keys were registered in the order of the fields. -/
theorem keysBound_iff (b : Backend) (T : ReflectedType) :
    (∀ t : Record, T.keyNames ≠ [] → KeysBound b T t) ↔ T.KeysInFieldOrder := by
  constructor
  · intro h
    by_cases hne : T.keyNames = []
    · exact keysInFieldOrder_of_nil hne
    -- The columns show that no key was cut off, and the values in which order they are bound.
    · have hcut : T.cutNames = T.keyNames := cutNames_eq_of_drop hne (h (mark []) hne).keys
      have hwalked : T.walked = b.columns T :=
        b.walked_of_executes hne hcut fun c ↦ (h (mark c) hne).values
      rw [b.columns_of_cut hne hcut] at hwalked
      exact ⟨(cutNames_eq_iff T).mp hcut, (ReflectedType.walked_eq_iff hcut).mp hwalked⟩
  · rintro ⟨hcommas, horder⟩ t hne
    have hcut : T.cutNames = T.keyNames := (cutNames_eq_iff T).mpr hcommas
    have hcolumns := b.columns_of_cut hne hcut
    have hwalked : T.walked = b.columns T :=
      ((ReflectedType.walked_eq_iff hcut).mpr horder).trans hcolumns.symm
    have hkeys : (b.columns T).drop T.members.length = T.keyNames := by
      rw [hcolumns, ← length_fieldNames, List.drop_left]
    constructor
    · exact hkeys
    · exact b.executes_of_walked hne hcut t hwalked
    · intro equal row
      rw [← List.map_drop, hkeys]
      exact selects_map equal T.keyNames t row

/-- The fields `a` and `b`, with `b` registered before `a`. -/
def keysOutOfOrder : ReflectedType where
  name := .lit (ascii "t")
  members := [.lit (ascii "a"), .lit (ascii "b")]
  members_ne_nil := List.cons_ne_nil _ _
  nodup := by decide
  conflictKey := some ⟨.lit (ascii "b"),
    [(⟨false, true⟩, .lit (ascii "a"))]⟩
  autoKey := none

/-- The statement names `b` first, and the first value is that of `a`. -/
theorem not_keysBound_keysOutOfOrder :
    generateUpdateSql keysOutOfOrder .sqlite
        = ascii "update t set a=?,b=? where 1=1 and b=?  and a=?" ∧
      (sqliteStmtExecute keysOutOfOrder fun name ↦ .string name).map (toQueryArg true)
        = [ascii "'a'", ascii "'b'", ascii "'a'", ascii "'b'"] ∧
      ¬ ∀ (b : Backend) (T : ReflectedType) (t : Record), T.keyNames ≠ [] → KeysBound b T t := by
  refine ⟨by decide, by decide, fun h ↦ ?_⟩
  obtain ⟨-, hvalues⟩ := (h .sqlite keysOutOfOrder (mark (ascii "a")) (by decide)).values
  have hthird := congrArg (fun values ↦ (values[2]?.bind id).map (toQueryArg true)) hvalues
  have hne : ((((parameters standard (Backend.sqlite.updateSql keysOutOfOrder)).mapIdx
        (valueAt (sqliteStmtExecute keysOutOfOrder (mark (ascii "a")))))[2]?.bind id).map
          (toQueryArg true))
      ≠ (((((Backend.sqlite.columns keysOutOfOrder).map (mark (ascii "a"))).map some)[2]?.bind
          id).map (toQueryArg true)) := by
    decide
  exact hne hthird

end Ormpp
