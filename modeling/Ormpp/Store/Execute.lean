import Ormpp.Store.Client
import Ormpp.Store.Object
import Ormpp.Store.Update

/-!
# The statements of a class on its table

What SQLite does with the texts of a class, on a database in which the table of the class has some
objects, or is missing.
-/

namespace Ormpp

open Sql hiding isBlank
open Bulk (OptType)

/-! ## Conditions -/

namespace DiscreteClass

variable (T : DiscreteClass)

/-- The columns are members of the class, or parameters. -/
def Resolves (columns : List ColumnName) : Prop :=
  ∀ c ∈ columns, c.1 = some parameterTable ∨
    (∀ owner, c.1 = some owner → foldCase owner = foldCase T.table) ∧
      ∃ i, T.folded i = foldCase c.2

instance (columns : List ColumnName) : Decidable (T.Resolves columns) :=
  inferInstanceAs (Decidable (∀ c ∈ columns, c.1 = some parameterTable ∨
    (∀ owner, c.1 = some owner → foldCase owner = foldCase T.table) ∧
      ∃ i, T.folded i = foldCase c.2))

/-- The condition that a text is on the objects of the class. Without a text there is none. -/
def condition (c : Bytes) : Option (Option Expr) :=
  (callCondition c).filter fun e ↦ T.Resolves (e.toList.flatMap Expr.columns)

/-- Whether an object fulfils the condition, if it can be told. -/
def outcome {T : DiscreteClass} {allocated : Bool} (values : List Sqlite.Cell) (e : Option Expr)
    (x : T.Object allocated) : Option Bool := Sql.test (parameterValues values) e x.row

end DiscreteClass

/-- The table of the class in a database. -/
def HasTable {T : StoredClass} {allocated : Bool} (db : SqlDatabase)
    (o : Option (ObjectTable T allocated)) : Prop :=
  db (foldCase T.table) = o.map ObjectTable.toSql

section

variable {T : StoredClass} {allocated : Bool} {db : SqlDatabase}
  {o : Option (ObjectTable T allocated)}

theorem has_toSql (t : ObjectTable T allocated) (name : Bytes) :
    t.toSql.has name = true ↔ ∃ i, T.folded i = foldCase name := by
  have hcolumns : t.toSql.columns.map Prod.fst = T.indices.map T.folded := List.map_map
  rw [SqlTable.has, hcolumns, decide_eq_true_iff, List.mem_map]
  exact exists_congr fun i ↦ and_iff_right (T.mem_indices i)

theorem resolved_toSql (t : ObjectTable T allocated) (columns : List ColumnName) :
    Resolved T.table t.toSql columns ↔ T.Resolves columns :=
  forall₂_congr fun c _ ↦ or_congr_right (and_congr_right fun _ ↦ has_toSql t c.2)

/-- A statement on the table of the class is prepared if the table is there and has the columns. -/
theorem prepare_eq (h : HasTable db o) {sql : Bytes} {s : Statement}
    (hread : readStatement sql = some s) (htable : s.table? = some T.table)
    (hcreate : ∀ table elements, s ≠ .create table elements) :
    prepare db sql
      = if T.Resolves s.names then o.map fun _ ↦ ⟨s, parameterCount sql⟩ else none := by
  have hresolves {table : Bytes} (htable : s.table? = some table) :
      s.resolves db = (db (foldCase table)).any fun t ↦ Resolved table t s.names := by
    cases s with
    | create table elements => exact absurd rfl (hcreate table elements)
    | insert | update | delete | select =>
      cases htable
      dsimp only [Statement.resolves, Statement.table?]
      generalize db (foldCase _) = t
      cases t <;> rfl
    | begin | commit | rollback => cases htable
  rw [prepare, hread]
  simp only [hresolves htable]
  rw [h]
  cases o with
  | none => exact (ite_self _).symm
  | some t =>
    simp only [Option.map_some, Option.any_some, decide_eq_true_eq, resolved_toSql]

/-! ## Creating the table -/

theorem prepare_createSql (allocated : Bool) (db : SqlDatabase) :
    prepare db T.createSql
      = some ⟨.create T.table (tableElements T), parameterCount T.createSql⟩ := by
  have hresolves : (Statement.create T.table (tableElements T)).resolves db = true := by
    rw [Statement.resolves, T.notInternal, define_tableElements T allocated]
    exact Bool.or_true _
  have hread : readStatement T.createSql = some (.create T.table (tableElements T)) :=
    readStatement_generateCreatetbSql T
  rw [prepare, hread]
  exact if_pos hresolves

/-! ## Writing objects -/

theorem resolves_column (i : T.Index) : T.Resolves [(none, T.column i)] := by
  intro c hc
  obtain rfl := List.mem_singleton.mp hc
  exact .inr ⟨fun _ h ↦ (Option.some_ne_none _ h.symm).elim, i, rfl⟩

theorem resolves_parameter (k : ℕ) : T.Resolves (parameter k).columns := by
  intro c hc
  obtain rfl := List.mem_singleton.mp hc
  exact .inl rfl

theorem resolves_append {columns columns' : List ColumnName} (h : T.Resolves columns)
    (h' : T.Resolves columns') : T.Resolves (columns ++ columns') :=
  fun c hc ↦ (List.mem_append.mp hc).elim (h c) (h' c)

theorem resolves_flatMap {α : Type} {columns : α → List ColumnName} {xs : List α}
    (h : ∀ x ∈ xs, T.Resolves (columns x)) : T.Resolves (xs.flatMap columns) := by
  intro c hc
  obtain ⟨x, hx, hc⟩ := List.mem_flatMap.mp hc
  exact h x hx c hc

theorem value_parameter (values : List Sqlite.Cell) (row : SqlRow) (k : ℕ) :
    (parameter k).value (environment (parameterValues values) row)
      = some (values.getD k .null) := by
  change some (environment (parameterValues values) row (some parameterTable) (natText k)) = _
  rw [environment, if_pos rfl, decimalValue_natText]
  rfl

theorem prepare_insertSql (h : HasTable db o) {type : OptType} :
    prepare db (T.insertSql type) = o.map fun _ ↦
      ⟨.insert (!(type == .insert)) T.table
          ((T.statementIndices (type == .insert)).map T.column)
          ((List.range (T.statementIndices (type == .insert)).length).map parameter),
        (T.statementIndices (type == .insert)).length⟩ := by
  have hnames : T.Resolves (Statement.insert (!(type == .insert)) T.table
      ((T.statementIndices (type == .insert)).map T.column)
      ((List.range (T.statementIndices (type == .insert)).length).map parameter)).names := by
    refine resolves_append (fun c hc ↦ ?_) (resolves_flatMap fun e he ↦ ?_)
    · obtain ⟨name, hname, rfl⟩ := List.mem_map.mp hc
      obtain ⟨i, -, rfl⟩ := List.mem_map.mp hname
      exact resolves_column i _ (List.mem_singleton.mpr rfl)
    · obtain ⟨k, -, rfl⟩ := List.mem_map.mp he
      exact resolves_parameter k
  have hread : readStatement (T.insertSql type) = some _ :=
    readStatement_generateInsertSql T (type == .insert)
  have hcount : parameterCount (T.insertSql type) = _ :=
    parameterCount_generateInsertSql T (type == .insert)
  rw [prepare_eq h hread rfl fun _ _ ↦ nofun, if_pos hnames, hcount]

/-- Every parameter has the value in its place. -/
theorem mapM_parameter (values : List Sqlite.Cell) (row : SqlRow) :
    ((List.range values.length).map parameter).mapM
        (fun e ↦ e.value (environment (parameterValues values) row)) = some values := by
  have hvalues : (List.range values.length).map (fun k ↦ values.getD k .null) = values :=
    List.ext_getElem (by simp) fun k _ hk ↦ by simp [List.getD_eq_getElem?_getD, hk]
  rw [List.mapM_map]
  exact (mapM_eq_some fun k _ ↦ value_parameter values row k).trans (congrArg some hvalues)

/-! ## Statements that are executed -/

variable {scan : List SqlRow → List SqlRow} {c : SqlConnection}

variable (scan) in
theorem execute_create (h : HasTable c.database o) (bound : ℕ → Sqlite.Cell) :
    ∃ c', c.execute scan bound (.create T.table (tableElements T)) = some (c', []) ∧
      c'.database = Function.update c.database (foldCase T.table)
        (some (o.getD .empty).toSql) ∧ c'.saved = c.saved ∧
      c'.lastInsertRowid = c.lastInsertRowid := by
  have hdefine := define_tableElements T allocated
  rw [SqlConnection.execute, h]
  cases o with
  | none =>
    rw [hdefine]
    exact ⟨_, rfl, rfl, rfl, rfl⟩
  | some t =>
    refine ⟨c, rfl, ?_, rfl, rfl⟩
    have hsame : some t.toSql = c.database (foldCase T.table) := h.symm
    rw [Option.getD_some, hsame, Function.update_eq_self]

theorem execute_insert {t : ObjectTable T allocated} (h : HasTable c.database (some t))
    {insert : Bool} {x x' : T.Object allocated} (hprepared : t.prepared insert x = some x') :
    c.execute scan (parameterValues ((T.statementIndices insert).map x.cell))
        (.insert (!insert) T.table ((T.statementIndices insert).map T.column)
          ((List.range (T.statementIndices insert).length).map parameter))
      = (t.put (!insert) x').map fun t' ↦
          ({ c.setTable T.table t'.toSql with
            changes := 1
            lastInsertRowid := T.number x' }, []) := by
  have hvalues := mapM_parameter ((T.statementIndices insert).map x.cell) fun _ ↦ .null
  rw [List.length_map] at hvalues
  rw [SqlConnection.execute, h, hvalues]
  simp only [Option.map_some, Option.bind_eq_bind, Option.bind_some,
    ObjectTable.insert_toSql hprepared]
  cases t.put (!insert) x' <;> rfl

variable (scan) in
theorem execute_delete {t : ObjectTable T allocated} (h : HasTable c.database (some t))
    {bound : ℕ → Sqlite.Cell} {e : Option Expr} {p : T.Object allocated → Bool}
    (hp : ∀ y ∈ t.objects.items, Sql.test bound e y.row = some (p y)) :
    c.execute scan bound (.delete T.table e)
      = some ({ c.setTable T.table (t.erase p).toSql with
          changes := (t.objects.items.filter p).length }, []) := by
  rw [SqlConnection.execute, h]
  simp only [Option.map_some, Option.bind_eq_bind, Option.bind_some, ObjectTable.delete_toSql hp]

/-- The cells of an object in the order of the members. -/
def cellsOf (x : T.Object allocated) : List Sqlite.Cell := T.indices.map x.cell

theorem execute_select {t : ObjectTable T allocated} (h : HasTable c.database (some t))
    (hscan : ∀ rows, (scan rows).Perm rows) {bound : ℕ → Sqlite.Cell} {e : Option Expr}
    {p : T.Object allocated → Bool}
    (hp : ∀ y ∈ t.objects.items, Sql.test bound e y.row = some (p y)) :
    ∃ rows, c.execute scan bound (.select (selection T e)) = some (c, rows) ∧
      rows.Perm ((t.objects.items.filter p).map cellsOf) := by
  have hsort (rows : List SqlRow) : rows.mergeSort (comesFirst []) = rows :=
    List.mergeSort_of_pairwise (List.pairwise_of_forall fun _ _ ↦ rfl)
  have hcells (x : T.Object allocated) :
      ((T.indices.map fun i ↦ (none, T.column i)).map fun c : ColumnName ↦
        x.row (foldCase c.2)) = cellsOf x := by
    rw [List.map_map]
    exact List.map_congr_left fun i _ ↦ x.row_folded i
  refine ⟨(scan ((t.objects.items.filter p).map DiscreteClass.Object.row)).map fun row ↦
    (T.indices.map fun i ↦ (none, T.column i)).map fun c : ColumnName ↦ row (foldCase c.2), ?_, ?_⟩
  · have htable : c.database (foldCase (selection T e).table) = some t.toSql := h
    rw [SqlConnection.execute, htable]
    simp only [Option.bind_eq_bind, Option.bind_some, Selection.run, selection,
      ObjectTable.split_toSql hp, limited, hsort]
  · refine ((hscan _).map _).trans ?_
    rw [List.map_map]
    exact List.Perm.of_eq (List.map_congr_left fun x _ ↦ hcells x)

/-! ## The update -/

/-- The values of an update: those of all members, and those of the keys once more. -/
def updateValues (x : T.Object allocated) : List Sqlite.Cell :=
  T.indices.map x.cell ++ T.keyIndices.map x.cell

/-- A value that is bound stands in its place behind those in front of it. -/
theorem parameterValues_of_mem_zipIdx {is : List T.Index} (f : T.Index → Sqlite.Cell)
    (front back : List Sqlite.Cell) {p : T.Index × ℕ} (hp : p ∈ is.zipIdx front.length) :
    parameterValues (front ++ (is.map f ++ back)) p.2 = f p.1 := by
  obtain ⟨hle, hget⟩ := List.mem_zipIdx_iff_le_and_getElem?_sub.mp hp
  have hmap : (is.map f)[p.2 - front.length]? = some (f p.1) := by
    rw [List.getElem?_map, hget]
    rfl
  have hlt : p.2 - front.length < (is.map f).length := (List.getElem?_eq_some_iff.mp hmap).1
  rw [parameterValues, List.getD_eq_getElem?_getD, List.getElem?_append_right hle,
    List.getElem?_append_left hlt, hmap]
  rfl

/-- The condition on the keys finds the objects that have them. -/
theorem test_keys {e : Expr} (htruth : ∀ env,
      (∀ p ∈ keyEquations T, Alike (p.left env) (p.right env)) →
        e.truthIn env = some (.ofBool ((keyEquations T).all fun p ↦ p.left env = p.right env)))
    (hkeys : T.keyIndices ≠ []) (x y : T.Object allocated) :
    Sql.test (parameterValues (updateValues x)) (some e) y.row
      = some (decide (y.SameOn T.keyIndices x)) := by
  have hleft (i : T.Index) (k : ℕ) : Equation.left
        (environment (parameterValues (updateValues x)) y.row) (T.column i, k) = y.cell i :=
    y.row_folded i
  have hright {q : T.Index × ℕ} (hq : q ∈ T.keyIndices.zipIdx T.indices.length) :
      Equation.right (environment (parameterValues (updateValues x)) y.row) (T.column q.1, q.2)
        = x.cell q.1 := by
    have hlength : (T.indices.map x.cell).length = T.indices.length := List.length_map _
    rw [← hlength] at hq
    have hvalue := parameterValues_of_mem_zipIdx x.cell _ [] hq
    rw [List.append_nil] at hvalue
    rw [Equation.right, environment, if_pos rfl, decimalValue_natText]
    exact hvalue
  have halike : ∀ p ∈ keyEquations T,
      Alike (p.left (environment (parameterValues (updateValues x)) y.row))
        (p.right (environment (parameterValues (updateValues x)) y.row)) := by
    intro p hp
    obtain ⟨q, hq, rfl⟩ := List.mem_map.mp hp
    have hkey : q.1 ∈ T.keyIndices := (List.mem_zipIdx hq).2.2 ▸ List.getElem_mem _
    rw [hleft, hright hq]
    exact alike_of_comparable (T.comparable _ (List.mem_filter.mp hkey).2) _ _
  have hall : ((keyEquations T).all fun p ↦
        p.left (environment (parameterValues (updateValues x)) y.row)
          = p.right (environment (parameterValues (updateValues x)) y.row))
      = decide (y.SameOn T.keyIndices x) := by
    rw [keyEquations, equationsFrom, List.all_map, Bool.eq_iff_iff, List.all_eq_true,
      decide_eq_true_iff, DiscreteClass.Object.SameOn, and_iff_right hkeys]
    constructor
    · intro h i hi
      have hi' := hi
      rw [← List.zipIdx_map_fst T.indices.length T.keyIndices] at hi'
      obtain ⟨q, hq, rfl⟩ := List.mem_map.mp hi'
      have hequal := of_decide_eq_true (h q hq)
      rwa [hleft, hright hq] at hequal
    · intro h q hq
      have hkey : q.1 ∈ T.keyIndices := (List.mem_zipIdx hq).2.2 ▸ List.getElem_mem _
      refine decide_eq_true ?_
      rw [hleft, hright hq]
      exact h q.1 hkey
  rw [Sql.test, htruth _ halike, hall]
  cases decide (y.SameOn T.keyIndices x) <;> rfl

theorem prepare_updateSql (h : HasTable db o) (hkeys : T.keyIndices ≠ []) :
    ∃ e, (prepare db T.updateSql = o.map fun _ ↦
        ⟨.update T.table ((equationsFrom T T.indices 0).map fun p ↦ (p.1, parameter p.2)) (some e),
          T.indices.length + T.keyIndices.length⟩) ∧
      ∀ x y : T.Object allocated,
        Sql.test (parameterValues (updateValues x)) (some e) y.row
          = some (decide (y.SameOn T.keyIndices x)) := by
  obtain ⟨e, hread, hcolumns, htruth⟩ := readStatement_generateUpdateSql T hkeys
  have hnames : T.Resolves (Statement.update T.table
      ((equationsFrom T T.indices 0).map fun p ↦ (p.1, parameter p.2)) (some e)).names := by
    refine resolves_append (resolves_flatMap fun a ha ↦ ?_) ?_
    · obtain ⟨p, hp, rfl⟩ := List.mem_map.mp ha
      obtain ⟨q, -, rfl⟩ := List.mem_map.mp hp
      exact resolves_append (resolves_column q.1) (resolves_parameter q.2)
    · change T.Resolves (e.columns ++ [])
      rw [List.append_nil, hcolumns]
      refine resolves_flatMap fun p hp ↦ ?_
      obtain ⟨q, -, rfl⟩ := List.mem_map.mp hp
      exact resolves_append (resolves_column q.1) (resolves_parameter q.2)
  have hcount : parameterCount T.updateSql = _ := parameterCount_generateUpdateSql T hkeys
  refine ⟨e, ?_, test_keys htruth hkeys⟩
  have hread : readStatement T.updateSql = some _ := hread
  rw [prepare_eq h hread rfl fun _ _ ↦ nofun, if_pos hnames, hcount]

theorem execute_update {t : ObjectTable T allocated} (h : HasTable c.database (some t))
    {e : Expr} {x : T.Object allocated}
    (he : ∀ y : T.Object allocated, Sql.test (parameterValues (updateValues x)) (some e) y.row
      = some (decide (y.SameOn T.keyIndices x))) :
    c.execute scan (parameterValues (updateValues x))
        (.update T.table ((equationsFrom T T.indices 0).map fun p ↦ (p.1, parameter p.2)) (some e))
      = (t.update x).map fun t' ↦
          ({ c.setTable T.table t'.toSql with changes := (t.found x).length }, []) := by
  have hvalues (row : SqlRow) :
      (((equationsFrom T T.indices 0).map fun p ↦ (p.1, parameter p.2)).map fun a ↦
          (a.1, fun row ↦ a.2.value (environment (parameterValues (updateValues x)) row))).mapM
        (fun a ↦ (a.2 row).map fun v ↦ (foldCase a.1, v))
      = some (T.indices.map fun i ↦ (T.folded i, x.cell i)) := by
    rw [equationsFrom, List.map_map, List.map_map, List.mapM_map]
    refine (mapM_eq_some (g := fun q : T.Index × ℕ ↦ (T.folded q.1, x.cell q.1))
      fun q hq ↦ ?_).trans ?_
    · have hvalue := parameterValues_of_mem_zipIdx x.cell [] (T.keyIndices.map x.cell) hq
      rw [List.nil_append] at hvalue
      simp only [Function.comp_apply, value_parameter]
      exact congrArg (fun v ↦ some (T.folded q.1, v)) hvalue
    · have hfst : (T.indices.zipIdx 0).map (fun q ↦ (T.folded q.1, x.cell q.1))
          = ((T.indices.zipIdx 0).map Prod.fst).map fun i ↦ (T.folded i, x.cell i) := by
        rw [List.map_map]
        rfl
      rw [hfst, List.zipIdx_map_fst]
  rw [SqlConnection.execute, h]
  simp only [Option.map_some, Option.bind_eq_bind, Option.bind_some,
    ObjectTable.update_toSql hvalues fun y _ ↦ he y]
  cases t.update x <;> rfl

/-! ## Texts with conditions -/

theorem condition_of_some {str : Bytes} {e : Option Expr} (h : callCondition str = some e) :
    T.condition str = if T.Resolves (e.toList.flatMap Expr.columns) then some e else none := by
  rw [DiscreteClass.condition, h, Option.filter_some]
  simp only [decide_eq_true_eq]

theorem condition_of_none {str : Bytes} (h : callCondition str = none) :
    T.condition str = none := by
  rw [DiscreteClass.condition, h]
  rfl

theorem prepare_deleteSql (h : HasTable db o) (str : Bytes) :
    prepare db (T.deleteSql str)
      = o.bind fun _ ↦ (T.condition str).map fun e ↦ ⟨.delete T.table e, parameterCount str⟩ := by
  have hread : readStatement (T.deleteSql str) = _ := readStatement_delete T str
  have hcount : parameterCount (T.deleteSql str) = _ := parameterCount_generateDeleteSql T str
  cases hcall : callCondition str with
  | none =>
    rw [hcall] at hread
    rw [prepare, hread, condition_of_none hcall]
    cases o <;> rfl
  | some e =>
    rw [hcall] at hread
    have hnames : (Statement.delete T.table e).names = e.toList.flatMap Expr.columns := rfl
    rw [prepare_eq h hread rfl fun _ _ ↦ nofun, hcount, hnames, condition_of_some hcall]
    split_ifs <;> cases o <;> rfl

/-- Conditions that say the same find the same rows. -/
theorem test_of_same {e e' : Option Expr} (h : Option.Rel Expr.Same e e') (bound : ℕ → Sqlite.Cell)
    (row : SqlRow) : Sql.test bound e' row = Sql.test bound e row := by
  cases h with
  | none => rfl
  | some hsame => rw [Sql.test, Sql.test, hsame.truthIn]

theorem columns_of_same {e e' : Option Expr} (h : Option.Rel Expr.Same e e') :
    e'.toList.flatMap Expr.columns = e.toList.flatMap Expr.columns := by
  cases h with
  | none => rfl
  | some hsame => simp only [Option.toList_some, List.flatMap_cons, List.flatMap_nil, hsame.columns]

theorem prepare_querySql (h : HasTable db o) {str : Bytes} (hselect : containsSelect str = false)
    (htail : ¬ReadsTail str) (hcondition : IsCondition str) :
    ∃ e', (prepare db (T.querySql str) = o.bind fun _ ↦ (T.condition str).map fun _ ↦
        ⟨.select (selection T e'), parameterCount str⟩) ∧
      ∀ e, T.condition str = some e → ∀ bound row,
        Sql.test bound e' row = Sql.test bound e row := by
  have hcount : parameterCount (T.querySql str) = _ := parameterCount_query T hselect htail
  have hquery := readStatement_query T hselect htail hcondition
  cases hcall : callCondition str with
  | none =>
    have hread : readStatement (T.querySql str) = none := by
      rw [hcall] at hquery
      change readStatement (querySText T.named .sqlite str) = none
      generalize readStatement (querySText T.named .sqlite str) = read at hquery ⊢
      cases hquery
      rfl
    refine ⟨none, ?_, fun e he ↦ ?_⟩
    · rw [prepare, hread, condition_of_none hcall]
      cases o <;> rfl
    · rw [condition_of_none hcall] at he
      cases he
  | some e =>
    rw [hcall] at hquery
    generalize hread : readStatement (querySText T.named .sqlite str) = read at hquery
    cases hquery with
    | some hsame =>
      obtain ⟨e', hsame, rfl⟩ := hsame
      have hread : readStatement (T.querySql str) = some _ := hread
      have hnames : T.Resolves (Statement.select (selection T e')).names ↔
          T.Resolves (e.toList.flatMap Expr.columns) := by
        change T.Resolves ((T.indices.map fun i ↦ (none, T.column i))
          ++ e'.toList.flatMap Expr.columns ++ [] ++ []) ↔ _
        rw [List.append_nil, List.append_nil, columns_of_same hsame]
        refine ⟨fun hall c hc ↦ hall c (List.mem_append_right _ hc), fun hall ↦ ?_⟩
        refine resolves_append (fun c hc ↦ ?_) hall
        obtain ⟨i, -, rfl⟩ := List.mem_map.mp hc
        exact resolves_column i _ (List.mem_singleton.mpr rfl)
      refine ⟨e', ?_, fun e'' he ↦ ?_⟩
      · rw [prepare_eq h hread rfl fun _ _ ↦ nofun, hcount, condition_of_some hcall]
        simp only [hnames]
        split_ifs <;> cases o <;> rfl
      · rw [condition_of_some hcall] at he
        split_ifs at he
        cases he
        exact test_of_same hsame

end

end Ormpp
