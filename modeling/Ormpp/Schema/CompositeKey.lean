import Ormpp.Schema.TableBuilder

/-!
# Keys of several columns

The columns of a primary key are named by the calls on `create_table_builder` one after the other,
and InnoDB wants an auto-increment column to be the first of its key. The builder keeps the columns
in a set: they are declared in alphabetical order, or not at all where SQLite has the key beside its
auto-increment column.
-/

namespace Ormpp

/-- The columns that a call names for the primary key. -/
def TableCall.keyColumns : TableCall → List Bytes
  | .autoIncrement field => [field.text]
  | .primaryKey fields => fields.map Name.text
  | _ => []

/-- The column that a call declares as auto-increment. -/
def TableCall.autoColumn : TableCall → Option Bytes
  | .autoIncrement field => some field.text
  | _ => none

/-- The columns of the primary key, in the order in which they are first named. -/
def namedColumns (calls : List TableCall) : List Bytes :=
  firstNamed (calls.flatMap TableCall.keyColumns)

/-- The column of the last `auto_increment`. -/
def autoColumn (calls : List TableCall) : Option Bytes :=
  (calls.filterMap TableCall.autoColumn).getLast?

namespace TableBuilder

/-! ## What the calls leave -/

theorem call_primaryKeys (b : TableBuilder) (c : TableCall) :
    (b.call c).primaryKeys = b.primaryKeys.addAll c.keyColumns := by
  cases c with
  | primaryKey fields => rw [call, TableCall.keyColumns, StringSet.addAll, List.foldl_map]
  | _ => rfl

theorem call_autoIncrementField (b : TableBuilder) (c : TableCall) :
    (b.call c).autoIncrementField = c.autoColumn.getD b.autoIncrementField := by
  cases c <;> rfl

theorem foldl_call_primaryKeys (calls : List TableCall) (b : TableBuilder) :
    (calls.foldl call b).primaryKeys
      = b.primaryKeys.addAll (calls.flatMap TableCall.keyColumns) := by
  induction calls generalizing b with
  | nil => rfl
  | cons c calls ih =>
    rw [List.foldl_cons, ih, call_primaryKeys, List.flatMap_cons, StringSet.addAll,
      StringSet.addAll, StringSet.addAll, List.foldl_append]

theorem foldl_call_autoIncrementField (calls : List TableCall) (b : TableBuilder) :
    (calls.foldl call b).autoIncrementField
      = (Ormpp.autoColumn calls).getD b.autoIncrementField := by
  induction calls generalizing b with
  | nil => rfl
  | cons c calls ih =>
    rw [List.foldl_cons, ih, call_autoIncrementField, autoColumn, autoColumn]
    rcases hc : c.autoColumn with _ | name
    · rw [List.filterMap_cons_none hc, Option.getD_none]
    · rw [List.filterMap_cons_some hc, List.getLast?_cons, Option.getD_some, Option.getD_some]

/-! ## The key of the statement -/

section

variable (b : TableBuilder) (db : DBType) (T : Entity)

theorem isAuto_iff (name : Bytes) :
    b.isAuto name = true ↔ b.autoIncrementField ≠ [] ∧ name = b.autoIncrementField :=
  decide_eq_true_iff

/-- The key of the statement is the auto-increment column, where it stands beside that, and
otherwise the set of the builder. -/
theorem primaryKey_statement :
    (b.statement db T).primaryKey db
      = if b.inlineKey db T then [b.autoIncrementField] else b.primaryKeys := by
  have hcolumns : ((b.statement db T).columns.filter fun c ↦
        c.autoIncrement ∧ db = .sqlite).map BuilderColumn.name
      = T.columnNames.filter fun name ↦ b.isAuto name ∧ db = .sqlite := by
    rw [statement, Entity.columnNames, List.filter_map, List.filter_map, List.map_map]
    rfl
  rw [TableStatement.primaryKey, hcolumns]
  by_cases hinline : b.inlineKey db T = true
  · obtain ⟨rfl, hany⟩ := of_decide_eq_true hinline
    obtain ⟨name, hname, hauto⟩ := List.any_eq_true.mp hany
    obtain ⟨hne, rfl⟩ := (b.isAuto_iff name).mp hauto
    have hfilter : (T.columnNames.filter fun name ↦ b.isAuto name ∧ DBType.sqlite = .sqlite)
        = [b.autoIncrementField] := by
      have hsame : ∀ name ∈ T.columnNames, decide (b.isAuto name ∧ DBType.sqlite = .sqlite)
          = (name == b.autoIncrementField) := by
        intro name _
        rw [Bool.eq_iff_iff, decide_eq_true_iff, beq_iff_eq, isAuto_iff, and_iff_right hne]
        exact and_iff_left rfl
      have hnodup : T.columnNames.Nodup := T.nodup
      rw [List.filter_congr hsame, List.filter_beq, List.count_eq_one_of_mem hnodup hname]
      rfl
    rw [hfilter, statement, if_pos hinline, if_pos hinline, List.append_nil]
  · have hfilter : (T.columnNames.filter fun name ↦ b.isAuto name ∧ db = .sqlite) = [] := by
      rw [List.filter_eq_nil_iff]
      intro name hname hauto
      obtain ⟨hauto, hdb⟩ := of_decide_eq_true hauto
      exact hinline (decide_eq_true ⟨hdb, List.any_eq_true.mpr ⟨name, hname, hauto⟩⟩)
    rw [hfilter, statement, if_neg hinline, if_neg hinline, List.nil_append]

end

end TableBuilder

/-! ## The law -/

/-- SQLite declares the key beside the auto-increment column. -/
def keyBesideColumn (db : DBType) (T : Entity) (calls : List TableCall) : Bool :=
  db = .sqlite ∧ (autoColumn calls).any (· ∈ T.columnNames)

/-- The columns are named in alphabetical order; where the key stands beside a column, that one is
the only one that is named. -/
def KeyKept (db : DBType) (T : Entity) (calls : List TableCall) : Prop :=
  if keyBesideColumn db T calls then namedColumns calls = (autoColumn calls).toList
  else (namedColumns calls).Pairwise (· ≤ ·)

section

variable (db : DBType) (T : Entity) (calls : List TableCall)

theorem autoColumn_ne_nil {name : Bytes} (h : autoColumn calls = some name) : name ≠ [] := by
  obtain ⟨c, -, hc⟩ := List.mem_filterMap.mp (List.mem_of_getLast? h)
  cases c with
  | autoIncrement field =>
    obtain rfl := Option.some.inj hc
    exact field.text_ne_nil
  | _ => exact absurd hc (Option.some_ne_none name).symm

theorem inlineKey_ofCalls :
    (TableBuilder.ofCalls calls).inlineKey db T = keyBesideColumn db T calls := by
  have hfield : (TableBuilder.ofCalls calls).autoIncrementField = (autoColumn calls).getD [] :=
    TableBuilder.foldl_call_autoIncrementField calls {}
  have hany : T.columnNames.any (TableBuilder.ofCalls calls).isAuto
      = (autoColumn calls).any (· ∈ T.columnNames) := by
    rw [Bool.eq_iff_iff, List.any_eq_true]
    simp only [TableBuilder.isAuto_iff, hfield]
    rcases hauto : autoColumn calls with _ | name
    · simp
    · simp [autoColumn_ne_nil calls hauto]
  rw [TableBuilder.inlineKey, keyBesideColumn, hany]

theorem primaryKey_ofCalls_iff :
    ((TableBuilder.ofCalls calls).statement db T).primaryKey db = namedColumns calls ↔
      KeyKept db T calls := by
  have hfield : (TableBuilder.ofCalls calls).autoIncrementField = (autoColumn calls).getD [] :=
    TableBuilder.foldl_call_autoIncrementField calls {}
  have hkeys : (TableBuilder.ofCalls calls).primaryKeys
      = StringSet.addAll [] (calls.flatMap TableCall.keyColumns) :=
    TableBuilder.foldl_call_primaryKeys calls {}
  rw [TableBuilder.primaryKey_statement, inlineKey_ofCalls, KeyKept, hfield, hkeys]
  split_ifs with hbeside
  · obtain ⟨-, hany⟩ := of_decide_eq_true hbeside
    rcases hauto : autoColumn calls with _ | name
    · rw [hauto] at hany
      exact absurd hany Bool.false_ne_true
    · exact eq_comm
  · exact StringSet.addAll_eq_firstNamed_iff _

/-- The statement that is executed declares the columns that were named, in the order in which they
were named first, where that is the alphabetical one and SQLite has no other than the auto-increment
column. -/
theorem primaryKey_executes_iff :
    ((TableBuilder.ofCalls calls).executedSqls db T).head?
        = ((TableBuilder.ofCalls calls).executes db T).map (TableStatement.text db) ∧
      ((∀ s ∈ (TableBuilder.ofCalls calls).executes db T, s.primaryKey db = namedColumns calls) ↔
        ((TableBuilder.ofCalls calls).validatePartitionConfig db = true →
          KeyKept db T calls)) := by
  refine ⟨TableBuilder.head?_executedSqls _ db T, ?_⟩
  rw [← primaryKey_ofCalls_iff, TableBuilder.executes]
  split_ifs with hvalid <;> simp [hvalid]

def couponFields : List Field :=
  [⟨.lit (ascii "id"), .value (.integral .int), Eq.refl true⟩,
    ⟨.lit (ascii "code"), .value (.integral .int), Eq.refl true⟩]

theorem ne_nil_coupon : couponFields ≠ [] := List.cons_ne_nil _ _

theorem nodup_coupon : (couponFields.map fun f ↦ f.name.text).Nodup := by
  decide

/-- A class with a number and a code. -/
def coupon : Entity where
  structName := ⟨[], .lit (ascii "coupon")⟩
  fields := couponFields
  fields_ne_nil := ne_nil_coupon
  nodup := nodup_coupon

/-- The auto-increment column is named first and declared last. -/
theorem not_primaryKey_executes :
    let calls : List TableCall := [.autoIncrement ⟨ascii "id", by decide, by decide⟩,
      .primaryKey [⟨ascii "code", by decide, by decide⟩]]
    ((TableBuilder.ofCalls calls).executedSqls .mysql coupon).head?
        = some (ascii "CREATE TABLE IF NOT EXISTS coupon(id INTEGER AUTO_INCREMENT,code INTEGER,"
          ++ ascii "PRIMARY KEY (code,id)) DEFAULT CHARSET=utf8mb4") ∧
      ((TableBuilder.ofCalls calls).statement .mysql coupon).primaryKey .mysql
        ≠ namedColumns calls := by
  decide

end

end Ormpp
