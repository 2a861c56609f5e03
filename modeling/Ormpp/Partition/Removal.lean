import Ormpp.Data.Decimal
import Ormpp.Partition.Server

/-!
# What is removed with a partition

Deleting from a partition, and clearing it, is meant to remove the rows of its range, on MySQL,
PostgreSQL and SQLite alike. SQLite is given the range and does. MySQL is given a name, and the
first partition has no lower end there: with it go the rows below its range, and those without a
value. PostgreSQL is given the table of the partition, where a condition on the columns of the
partitioned table cannot be resolved: the statement is refused, and nothing is removed.
-/

namespace Ormpp

open Sql

/-- What makes a filter keep the same elements of a list as another. -/
theorem filter_eq_filter_iff {α : Type*} {l : List α} {p q : α → Bool} :
    l.filter p = l.filter q ↔ ∀ a ∈ l, p a = q a := by
  constructor
  · intro h a ha
    have hmem : a ∈ l.filter p ↔ a ∈ l.filter q := by rw [h]
    rw [List.mem_filter, List.mem_filter, and_iff_right ha, and_iff_right ha] at hmem
    exact Bool.eq_iff_iff.mpr hmem
  · exact List.filter_congr

/-- Where keys are distinct, the key of an element finds the element. -/
theorem find?_key_eq_some {α κ : Type*} [DecidableEq κ] (key : α → κ) {l : List α}
    (h : (l.map key).Nodup) {a : α} (ha : a ∈ l) : l.find? (fun b ↦ key b = key a) = some a := by
  induction l with
  | nil => exact absurd ha List.not_mem_nil
  | cons b l ih =>
    rw [List.map_cons, List.nodup_cons] at h
    obtain rfl | ha := List.mem_cons.mp ha
    · exact List.find?_cons_of_pos (by simp)
    · have hne : key b ≠ key a := fun heq ↦ h.1 (heq ▸ List.mem_map_of_mem ha)
      rw [List.find?_cons_of_neg (by simpa using hne)]
      exact ih h.2 ha

/-- The condition that comes with a removal. -/
def PartitionRemoval.condition : PartitionRemoval → Option ConditionTree
  | .delete condition => condition
  | .clear => none

namespace PartitionedTable

variable {α : Type} [LinearOrder α] {V : BoundValues α} {ident : Bytes → Bytes} {Row : Type}
  (t : PartitionedTable V ident) (R : RowReading α Row)

/-- The table that a removal is about on a server. -/
def target (db : DBType) (p : RangePartitionDesc) : Bytes :=
  if db = .postgresql then partitionChildTableName t.name p.name else t.name

/-- The rows that a removal is about on a server. -/
def among (db : DBType) (p : RangePartitionDesc) (row : Row) : Bool :=
  match db with
  | .mysql => t.mysqlPartition R row = some p
  | .postgresql => t.postgresqlPartition R row = some p
  | .sqlite => R.InRange (p.range V standard) row

/-! ## Finding the partition -/

variable {t} {p : RangePartitionDesc}

theorem findPartition_eq (hp : p ∈ t.partitions) : t.findPartition p.name = some p :=
  find?_key_eq_some (fun q : RangePartitionDesc ↦ ident q.name) t.names_nodup hp

theorem findChild_eq (hp : p ∈ t.partitions) :
    t.findChild (partitionChildTableName t.name p.name) = some p :=
  find?_key_eq_some (fun q : RangePartitionDesc ↦ ident (partitionChildTableName t.name q.name))
    (List.nodup_cons.mp t.tables_nodup).2 hp

/-- The table of a partition is not the partitioned table. -/
theorem ident_child_ne (hp : p ∈ t.partitions) :
    ident (partitionChildTableName t.name p.name) ≠ ident t.name := fun heq ↦
  (List.nodup_cons.mp t.tables_nodup).1 (heq ▸ List.mem_map_of_mem hp)

/-- **What a removal selects.** -/
theorem selected_statement (hp : p ∈ t.partitions) (db : DBType) (removal : PartitionRemoval) :
    t.selected R db (removal.statement db t.name t.field p) =
      if accepts ident db (t.target db p) removal.condition = true then
        some fun row ↦ t.among R db p row && R.satisfies removal.condition row
      else none := by
  have hnone (db : DBType) (table : Bytes) : accepts ident db table none = true := rfl
  have hall (row : Row) : R.satisfies none row = true := rfl
  obtain condition | _ := removal
  · cases db with
    | mysql =>
      simp [PartitionRemoval.statement, PartitionRemoval.condition, selected, target, among,
        partitionRows, findPartition_eq hp]
    | sqlite =>
      simp [PartitionRemoval.statement, PartitionRemoval.condition, selected, target, among,
        tableRows]
      rfl
    | postgresql =>
      simp [PartitionRemoval.statement, PartitionRemoval.condition, selected, target, among,
        tableRows, findChild_eq hp, ident_child_ne hp]
  · cases db <;>
      simp [PartitionRemoval.statement, PartitionRemoval.condition, selected, target, among,
        tableRows, partitionRows, findPartition_eq hp, findChild_eq hp, ident_child_ne hp, hnone,
        hall]
    rfl

/-! ## Which partition a row is in -/

/-- MySQL reads the bounds of the partitions as the other servers do. -/
def ReadAlike (t : PartitionedTable V ident) : Prop :=
  ∀ p ∈ t.partitions, p.range V mysqlDefault = p.range V standard

/-- On MySQL the first partition also has what lies below its range. -/
theorem mysqlPartition_eq_some_iff (hread : t.ReadAlike) (hp : p ∈ t.partitions) {row : Row} :
    t.mysqlPartition R row = some p ↔
      R.InRange (p.range V standard) row ∨
        t.partitions.head? = some p ∧
          ∀ v, R.value row = some v → v < (p.range V standard).lower := by
  have hfind (v : α) :
      t.partitions.find? (fun q ↦ (v : WithTop α) < (q.range V mysqlDefault).upper)
        = t.partitions.find? fun q ↦ (v : WithTop α) < (q.range V standard).upper := by
    apply List.find?_congr
    intro q hq
    rw [hread q hq]
  rw [mysqlPartition, RowReading.InRange]
  generalize R.value row = value
  obtain _ | v := value
  · simp
  · simp only [hfind, t.contiguous.find?_lt_upper_iff, Option.some_inj, exists_eq_left',
      forall_eq', and_iff_right hp, Range.Contains]
    constructor
    · rintro ⟨hlt, hhead | hle⟩
      · obtain hle | hlower := le_or_gt (p.range V standard).lower v
        · exact .inl ⟨hle, hlt⟩
        · exact .inr ⟨hhead, hlower⟩
      · exact .inl ⟨hle, hlt⟩
    · rintro (⟨hle, hlt⟩ | ⟨hhead, hlower⟩)
      · exact ⟨hlt, .inr hle⟩
      · exact ⟨(WithTop.coe_lt_coe.mpr hlower).trans (t.contiguous.lower_lt_upper p hp), .inl hhead⟩

theorem postgresqlPartition_eq_some_iff (hp : p ∈ t.partitions) {row : Row} :
    t.postgresqlPartition R row = some p ↔ R.InRange (p.range V standard) row := by
  rw [postgresqlPartition, Option.bind_eq_some_iff]
  simp only [t.contiguous.find?_contains_iff, and_iff_right hp, RowReading.InRange]

/-- The rows that a removal is about: those of the range, and on MySQL, for the first partition,
those below it. -/
theorem among_iff (hp : p ∈ t.partitions) {db : DBType} (hread : db = .mysql → t.ReadAlike)
    {row : Row} :
    t.among R db p row = true ↔
      R.InRange (p.range V standard) row ∨
        db = .mysql ∧ t.partitions.head? = some p ∧
          ∀ v, R.value row = some v → v < (p.range V standard).lower := by
  obtain _ | _ | _ := db
  · rw [among, decide_eq_true_iff, mysqlPartition_eq_some_iff R (hread rfl) hp]
    simp
  · rw [among, decide_eq_true_iff]
    simp
  · rw [among, decide_eq_true_iff, postgresqlPartition_eq_some_iff R hp]
    simp

/-! ## What is removed -/

variable (t p)

/-- The removal leaves the rows that are not in the range of the partition, or do not satisfy the
condition. -/
def RemovesRange (db : DBType) (removal : PartitionRemoval) (rows : List Row) : Prop :=
  t.after R db removal p rows = rows.filter fun row ↦
    !(decide (R.InRange (p.range V standard) row) && R.satisfies removal.condition row)

/-- The server takes the condition, and where it is MySQL and the partition the first, no row below
the range satisfies it; or no row is to be removed. -/
def Removable (db : DBType) (removal : PartitionRemoval) (rows : List Row) : Prop :=
  if accepts ident db (t.target db p) removal.condition = true then
    db = .mysql → t.partitions.head? = some p →
      ∀ row ∈ rows, R.satisfies removal.condition row = true →
        ∃ v, R.value row = some v ∧ (p.range V standard).lower ≤ v
  else
    ∀ row ∈ rows, ¬(R.InRange (p.range V standard) row ∧
      R.satisfies removal.condition row = true)

variable {t p}

/-- A row is selected exactly when it is in the range, unless it lies below the first partition of
MySQL. -/
theorem among_eq_iff (hp : p ∈ t.partitions) {db : DBType} (hread : db = .mysql → t.ReadAlike)
    {row : Row} :
    t.among R db p row = decide (R.InRange (p.range V standard) row) ↔
      (db = .mysql → t.partitions.head? = some p →
        ∃ v, R.value row = some v ∧ (p.range V standard).lower ≤ v) := by
  rw [Bool.eq_iff_iff, among_iff R hp hread, decide_eq_true_iff, or_iff_left_iff_imp]
  constructor
  · intro h hdb hhead
    by_contra hnone
    push Not at hnone
    obtain ⟨v, hv, hcontains⟩ := h ⟨hdb, hhead, hnone⟩
    exact absurd hcontains.1 (hnone v hv).not_ge
  · rintro h ⟨hdb, hhead, hbelow⟩
    obtain ⟨v, hv, hle⟩ := h hdb hhead
    exact absurd hle (hbelow v hv).not_ge

/-- A removal that the server takes removes what it selects. -/
theorem after_of_accepts (hp : p ∈ t.partitions) {db : DBType} {removal : PartitionRemoval}
    (h : accepts ident db (t.target db p) removal.condition = true) (rows : List Row) :
    t.after R db removal p rows =
      rows.filter fun row ↦ !(t.among R db p row && R.satisfies removal.condition row) := by
  rw [after, selected_statement R hp, if_pos h]

/-- A removal that the server refuses removes nothing. -/
theorem after_of_not_accepts (hp : p ∈ t.partitions) {db : DBType} {removal : PartitionRemoval}
    (h : ¬accepts ident db (t.target db p) removal.condition = true) (rows : List Row) :
    t.after R db removal p rows = rows := by
  rw [after, selected_statement R hp, if_neg h]

end PartitionedTable

/-! ## Where the servers differ -/

/-- A log, partitioned by the month, with a partition for May and one for June of 2024. -/
def monthPartition (name : Bytes) (month : ℕ) : RangePartitionDesc :=
  rangePartition name (.value (.integer month)) (.value (.integer (month + 1)))

/-- The field of the log is a number. -/
def monthValues : BoundValues ℕ where
  string _ := 0
  other := decimalValue

theorem range_monthPartition (d : Dialect) (name : Bytes) (month : ℕ) :
    (monthPartition name month).range monthValues d = ⟨month, WithTop.some (month + 1)⟩ := by
  have hkept (n : ℤ) : (Value.integer n).Kept d := trivial
  have hvalue (n : ℕ) : monthValues.ofValue (.integer n) = n := decimalValue_natText n
  rw [monthPartition, range_rangePartition monthValues (hkept _) (hkept _), hvalue]
  exact congrArg (fun n : ℕ ↦ (⟨month, n⟩ : Range ℕ)) (hvalue (month + 1))

def orderLog : PartitionedTable monthValues id where
  name := ascii "order_log"
  field := ascii "bucket"
  partitions := [monthPartition (ascii "p202405") 202405, monthPartition (ascii "p202406") 202406]
  field_valid := by decide
  valid := by
    simp only [List.forall_mem_cons, monthPartition, isValidPartition_rangePartition]
    exact ⟨by decide, by decide, by simp⟩
  contiguous := by
    constructor
    · simp only [List.forall_mem_cons, range_monthPartition, WithTop.coe_lt_coe]
      exact ⟨by decide, by decide, by simp⟩
    · simp only [List.isChain_cons_cons, range_monthPartition]
      exact ⟨trivial, List.isChain_singleton _⟩
  names_nodup := by
    change [ascii "p202405", ascii "p202406"].Nodup
    decide
  tables_nodup := by
    change [ascii "order_log", ascii "order_log_p202405", ascii "order_log_p202406"].Nodup
    decide

/-- A row is its month, and a condition asks for May. -/
def monthReading : RowReading ℕ ℕ where
  value := some
  holds _ month := month == 202405

/-- `col(&order_log::bucket) == 202405`. -/
def bucketIsMay : ConditionTree :=
  .compare (.column {
      owner := some (.lit (ascii "order_log"))
      field := .lit (ascii "bucket") }) .eq (.integer 202405)

theorem orderLog_readAlike : orderLog.ReadAlike := by
  intro p hp
  obtain rfl | rfl : p = monthPartition (ascii "p202405") 202405 ∨
      p = monthPartition (ascii "p202406") 202406 := by
    simpa [orderLog] using hp
  all_goals rw [range_monthPartition, range_monthPartition]

end Ormpp
