import Ormpp.Codec.MysqlAsync
import Ormpp.Data.Run
import Ormpp.Fetch.Completeness
import Ormpp.Fetch.Tuple

/-!
# The value of a sum

An aggregate is selected alone, and `collect` returns its one value. The type of the value belongs
to the aggregate: a sum is a `uint64_t`, whatever the column holds. A result without a row is taken
for a zero, and there is no row where the text of the value cannot be read or the database cannot
add the values up.
-/

namespace Ormpp

open Fetch

/-! ## Collecting an aggregate -/

/-- An aggregate with the type of its value, an integral one. -/
structure AggregateField where
  aggregate : Aggregate
  resultType : NumberType

/-- `sum`. -/
def sumField (c : Column) : AggregateField := ⟨.sum c, .integral .uint64⟩

/-- `extract_query_result` for a value: `R{}` where there is no row. -/
def extractQueryResult {t : NumberType} (result : List (Number t)) : Number t :=
  result.headD ⟨0, t.holds_zero⟩

namespace Sqlite

/-- The rows that `query_s` makes tuples of one element of, those up to the first step that gives
none. -/
def tupleRows (beyond : ℕ → Byte) (t : NumberType) (steps : Fetches Cell Cell) : List (Number t) :=
  steps.fetched.map fun cell ↦ assign beyond cell (.value (.number t))

end Sqlite

namespace MysqlAsync

/-- `std::get<0>` of a tuple of one element. -/
def getFirst {t : NumberType} :
    Values (TupleItem.Value textCodec) [.scalar (.number t)] → Number t
  | .cons value .nil => value

/-- The rows that `query_s` makes tuples of one element of. An exception is caught, and then there
are none. -/
def tupleRows (t : NumberType) (rows : List TextRow) : List (Number t) :=
  match rows.mapM (mapTupleRow textCodec [.scalar (.number t)]) with
  | .ok tuples => tuples.map getFirst
  | .error _ => []

end MysqlAsync

/-- A database, by what it answers to a statement: SQLite in steps, and MySQL with rows, or with an
error that `query_text` throws. -/
inductive Database
  | sqlite (beyond : ℕ → Byte) (answer : Bytes → Fetches Sqlite.Cell Sqlite.Cell)
  | mysqlAsync (answer : Bytes → Option (List TextRow))

namespace Database

def dbType : Database → DBType
  | sqlite _ _ => .sqlite
  | mysqlAsync _ => .mysql

/-- `query_s` for a tuple of one element. -/
def queryS (t : NumberType) (sql : Bytes) : Database → List (Number t)
  | sqlite beyond answer => Sqlite.tupleRows beyond t (answer sql)
  | mysqlAsync answer => ((answer sql).map (MysqlAsync.tupleRows t)).getD []

/-- The statement of `select(field).from<T>()`. -/
def selectSql (db : Database) (T : Table) (field : AggregateField) : Bytes :=
  SelectQuery.buildSql ⟨T, [.aggregate field.aggregate], []⟩ db.dbType

/-- `collect`. -/
def collect (db : Database) (T : Table) (field : AggregateField) : Number field.resultType :=
  extractQueryResult (db.queryS field.resultType (db.selectSql T field))

end Database

/-! ## What the databases add up -/

/-- SQLite adds the values one after the other, and at an overflow it gives an error. -/
def Sqlite.addInt64 (sum v : ℤ) : Option ℤ :=
  if Cast.FitsSigned 64 (sum + v) then some (sum + v) else none

/-- `SUM` of SQLite over integers, which is NULL if there are none. -/
def Sqlite.sumSteps (values : List ℤ) : Fetches Cell Cell :=
  if values = [] then .row .null .done
  else
    match values.foldlM addInt64 0 with
    | some sum => .row (.integer sum) .done
    | none => .failed []

/-- `SUM` of MySQL over integers, which is exact, in decimals. -/
def MysqlAsync.sumRows (values : List ℤ) : List TextRow :=
  [[if values = [] then none else some (intText values.sum)]]

/-- The database has the values in the column. -/
def Database.Sums (T : Table) (c : Column) (values : List ℤ) : Database → Prop
  | sqlite beyond answer =>
    answer ((sqlite beyond answer).selectSql T (sumField c)) = Sqlite.sumSteps values
  | mysqlAsync answer =>
    answer ((mysqlAsync answer).selectSql T (sumField c)) = some (MysqlAsync.sumRows values)

/-- The database adds the values up without an overflow. -/
def Database.AddsUp (values : List ℤ) : Database → Prop
  | sqlite _ _ => Run.Along (· + ·) (fun sum v ↦ Cast.FitsSigned 64 (sum + v)) 0 values
  | mysqlAsync _ => True

/-- A column of integers whose sum fits in 64 bits, with a sign or without one. -/
structure SummedColumn where
  table : Table
  column : Column
  values : List ℤ
  fits : Cast.FitsSigned 64 values.sum ∨ Cast.FitsUnsigned 64 values.sum
  database : Database
  sums : database.Sums table column values

/-- The value that is collected for the sum. -/
def SummedColumn.collected (s : SummedColumn) : ℤ :=
  (s.database.collect s.table (sumField s.column)).val

/-! ## The value that is collected -/

namespace Sqlite

theorem foldlM_addInt64_of_along {sum : ℤ} {values : List ℤ}
    (h : Run.Along (· + ·) (fun sum v ↦ Cast.FitsSigned 64 (sum + v)) sum values) :
    values.foldlM addInt64 sum = some (sum + values.sum) := by
  induction values generalizing sum with
  | nil => rw [List.sum_nil, add_zero]; rfl
  | cons v values ih =>
    rw [List.foldlM_cons, addInt64, if_pos h.1, Option.bind_eq_bind, Option.bind_some, ih h.2,
      List.sum_cons, add_assoc]

theorem along_of_foldlM_addInt64 {sum n : ℤ} {values : List ℤ}
    (h : values.foldlM addInt64 sum = some n) :
    Run.Along (· + ·) (fun sum v ↦ Cast.FitsSigned 64 (sum + v)) sum values := by
  induction values generalizing sum with
  | nil => trivial
  | cons v values ih =>
    rw [List.foldlM_cons, addInt64] at h
    split_ifs at h with hfits
    · exact ⟨hfits, ih h⟩
    · cases h

end Sqlite

namespace MysqlAsync

/-- No type without a sign has a value for a text with a minus sign. -/
theorem fromChars_of_neg {t : IntegralType} (ht : t.signed = false) {n : ℤ} (hn : n < 0) :
    fromChars t (intText n) = none := by
  obtain ⟨m, rfl⟩ := Int.eq_negSucc_of_lt_zero hn
  have htext : intText (Int.negSucc m) = Sql.dash :: natText (m + 1) := rfl
  rw [fromChars, ht, htext]
  exact if_neg fun h ↦ absurd h.2.1 (by simp [isDigit, Sql.dash])

/-- A row with one column. -/
theorem val_collect_row (t : NumberType) (column : Option Bytes) :
    (extractQueryResult (tupleRows t [[column]])).val
      = ((assignTextValue (.number t) column).map Number.val).getD 0 := by
  cases hvalue : assignTextValue (.number t) column with
  | none =>
    have hassign : textCodec.assign (.number t) column = .error (.value ()) := by
      simp [RowCodec.assign, textCodec, hvalue]
    have htuple : mapTupleRow textCodec [.scalar (.number t)] [column] = .error (.value ()) := by
      simp [mapTupleRow, mapItems, mapItem, hassign]
      rfl
    rw [tupleRows, List.mapM_cons, htuple]
    rfl
  | some value =>
    have hassign : textCodec.assign (.number t) column = .ok value := by
      simp [RowCodec.assign, textCodec, hvalue]
    have htuple : mapTupleRow textCodec [.scalar (.number t)] [column]
        = .ok (.cons value .nil) := by
      simp [mapTupleRow, mapItems, mapItem, hassign]
      rfl
    rw [tupleRows, List.mapM_cons, htuple]
    rfl

end MysqlAsync

/-- A sum that fits is a value of the type of a sum if it is not negative. -/
theorem holds_uint64_iff {n : ℤ} (h : Cast.FitsSigned 64 n ∨ Cast.FitsUnsigned 64 n) :
    IntegralType.uint64.Holds n ↔ 0 ≤ n := by
  rw [IntegralType.holds_of_unsigned rfl]
  refine ⟨fun hn ↦ hn.1, fun hn ↦ ?_⟩
  obtain ⟨-, hhigh⟩ | hfits := h
  · have hle : (2 : ℤ) ^ (64 - 1) ≤ 2 ^ IntegralType.uint64.bits := by decide
    exact ⟨hn, lt_of_lt_of_le hhigh hle⟩
  · exact hfits

/-- What is collected on SQLite: an overflow leaves no row. -/
theorem Sqlite.val_sumSteps (beyond : ℕ → Byte) (values : List ℤ) :
    (extractQueryResult (tupleRows beyond (.integral .uint64) (sumSteps values))).val
      = ((values.foldlM addInt64 0).map IntegralType.uint64.convert).getD 0 := by
  rw [sumSteps]
  split_ifs with hvalues
  · subst hvalues
    rfl
  · cases values.foldlM addInt64 0 with
    | none => rfl
    | some sum => rfl

/-- What is collected on MySQL: a text with a minus sign cannot be read. -/
theorem MysqlAsync.val_sumRows {values : List ℤ}
    (hfits : Cast.FitsSigned 64 values.sum ∨ Cast.FitsUnsigned 64 values.sum) :
    (extractQueryResult (tupleRows (.integral .uint64) (sumRows values))).val
      = if 0 ≤ values.sum then values.sum else 0 := by
  rw [sumRows, val_collect_row]
  by_cases hvalues : values = []
  · subst hvalues
    rfl
  · rw [if_neg hvalues, assignTextValue, assignText, NumberType.underlying]
    by_cases hn : 0 ≤ values.sum
    · have hholds := (holds_uint64_iff hfits).mpr hn
      have hsome : assignIntegral .uint64 (intText values.sum) = some values.sum :=
        assignIntegral_intText (by decide) hholds
      rw [if_pos hn, hsome]
      exact IntegralType.convert_of_holds hholds
    · have hnone : assignIntegral .uint64 (intText values.sum) = none :=
        fromChars_of_neg rfl (Int.not_le.mp hn)
      rw [if_neg hn, hnone]
      rfl

namespace Database

variable {T : Table} {c : Column} {values : List ℤ}

theorem val_collect_sqlite {beyond : ℕ → Byte} {answer : Bytes → Fetches Sqlite.Cell Sqlite.Cell}
    (h : (sqlite beyond answer).Sums T c values) :
    ((sqlite beyond answer).collect T (sumField c)).val
      = ((values.foldlM Sqlite.addInt64 0).map IntegralType.uint64.convert).getD 0 := by
  have hanswer : answer ((sqlite beyond answer).selectSql T (sumField c))
      = Sqlite.sumSteps values := h
  rw [collect, queryS, hanswer]
  exact Sqlite.val_sumSteps beyond values

theorem val_collect_mysqlAsync {answer : Bytes → Option (List TextRow)}
    (h : (mysqlAsync answer).Sums T c values)
    (hfits : Cast.FitsSigned 64 values.sum ∨ Cast.FitsUnsigned 64 values.sum) :
    ((mysqlAsync answer).collect T (sumField c)).val
      = if 0 ≤ values.sum then values.sum else 0 := by
  have hanswer : answer ((mysqlAsync answer).selectSql T (sumField c))
      = some (MysqlAsync.sumRows values) := h
  rw [collect, queryS, hanswer]
  exact MysqlAsync.val_sumRows hfits

end Database

namespace SummedColumn

/-- **The value collected for a sum** is the sum exactly where it is not negative and is added up
without an overflow, or where it is the zero that stands for a failure. -/
theorem collected_iff (s : SummedColumn) :
    s.collected = s.values.sum ↔
      0 ≤ s.values.sum ∧ (s.values.sum ≠ 0 → s.database.AddsUp s.values) := by
  obtain ⟨T, c, values, fits, database, sums⟩ := s
  dsimp only [collected]
  obtain ⟨beyond, answer⟩ | answer := database
  · rw [Database.val_collect_sqlite sums]
    by_cases hadds : Database.AddsUp values (.sqlite beyond answer)
    · rw [Sqlite.foldlM_addInt64_of_along hadds, zero_add, Option.map_some, Option.getD_some,
        and_iff_left fun _ ↦ hadds, ← holds_uint64_iff fits]
      exact ⟨fun h ↦ h ▸ IntegralType.holds_convert _ _, IntegralType.convert_of_holds⟩
    · -- there is no row, and the zero is the sum or it is not
      have hnone : values.foldlM Sqlite.addInt64 0 = none := by
        by_contra hsome
        obtain ⟨n, hn⟩ := Option.ne_none_iff_exists'.mp hsome
        exact hadds (Sqlite.along_of_foldlM_addInt64 hn)
      rw [hnone, Option.map_none, Option.getD_none]
      constructor
      · intro hzero
        exact ⟨hzero.le, fun h ↦ absurd hzero.symm h⟩
      · rintro ⟨-, h⟩
        by_contra hzero
        exact hadds (h (Ne.symm hzero))
  · have hadds : Database.AddsUp values (.mysqlAsync answer) := trivial
    rw [Database.val_collect_mysqlAsync sums fits, and_iff_left fun _ ↦ hadds]
    split_ifs with hn
    · exact iff_of_true rfl hn
    · exact iff_of_false (fun h ↦ hn h.le) hn

def person : Table where
  name := .lit (ascii "person")
  members := [.lit (ascii "balance")]

def balance : Column := ⟨some person.name, .lit (ascii "balance")⟩

/-- A column with the number -5, in a database that has it. -/
def minusFive (database : Database) (h : database.Sums person balance [-5]) : SummedColumn :=
  ⟨person, balance, [-5], by decide, database, h⟩

/-- SQLite gives a number close to the largest one for it, and MySQL gives zero. -/
theorem not_collected :
    (minusFive (.sqlite (fun _ ↦ 0) fun _ ↦ Sqlite.sumSteps [-5]) rfl).collected
        = 18446744073709551611 ∧
      (minusFive (.mysqlAsync fun _ ↦ some (MysqlAsync.sumRows [-5])) rfl).collected = 0 ∧
      ¬ ∀ s : SummedColumn, s.collected = s.values.sum := by
  have hsqlite : (minusFive (.sqlite (fun _ ↦ 0) fun _ ↦ Sqlite.sumSteps [-5]) rfl).collected
      = 18446744073709551611 := by decide
  refine ⟨hsqlite, by decide, fun h ↦ ?_⟩
  have hsum := h (minusFive (.sqlite (fun _ ↦ 0) fun _ ↦ Sqlite.sumSteps [-5]) rfl)
  rw [hsqlite] at hsum
  exact absurd hsum (by decide)

end SummedColumn

end Ormpp
