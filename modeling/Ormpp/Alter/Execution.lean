import Ormpp.Alter.Operation

/-!
# Executing the operations of an altered table

`execute` makes the statement of an operation and sends it before it makes the statement of the next
one. An operation that is rejected, for its partition, for its field or because SQLite has no
partition to drop, stops the loop; what stands in front of it has been sent by then, unless the
database refused something earlier.
-/

namespace Ormpp

/-- The database answers every statement, whatever it was sent before. -/
abbrev StatementAnswers := List Bytes → Bytes → Bool

/-- The loop of `execute`, where some statements were sent: what it returns, and all that were
sent. -/
def alterLoop (db : DBType) (tableName : Bytes) (answers : StatementAnswers) :
    List Bytes → List AlterOperation → Bool × List Bytes
  | sent, [] => (true, sent)
  | sent, op :: ops =>
    match op.buildOperationSql db tableName with
    | none => (false, sent)
    | some sql =>
      if answers sent sql then alterLoop db tableName answers (sent ++ [sql]) ops
      else (false, sent ++ [sql])

/-- `alter_table_builder::execute`. -/
def alterExecute (db : DBType) (tableName : Bytes) (answers : StatementAnswers)
    (ops : List AlterOperation) : Bool × List Bytes :=
  alterLoop db tableName answers [] ops

/-! ## Operations that are rejected -/

/-- The description of a partition is not valid, its field is no identifier, or the partition is to
be dropped on SQLite. -/
def AlterOperation.Rejected (db : DBType) : AlterOperation → Prop
  | .clause _ => False
  | .partition op => isValidPartition op.partition = false ∨
      op.kind ≠ .dropPartition ∧ isValidSqlIdentifier op.partitionField = false ∨
      op.kind = .dropPartition ∧ db = .sqlite

theorem AlterOperation.buildOperationSql_eq_none_iff (db : DBType) (tableName : Bytes)
    (op : AlterOperation) : op.buildOperationSql db tableName = none ↔ op.Rejected db := by
  rcases op with sql | ⟨kind, field, p⟩
  · exact iff_of_false (by simp [buildOperationSql]) id
  · simp only [buildOperationSql, AlterOp.buildOperationSql, Rejected, Bool.not_eq_true']
    by_cases hp : isValidPartition p = false
    · simp [hp]
    by_cases hfield : isValidSqlIdentifier field = false
    · cases kind <;> cases db <;> simp [hp, hfield]
    · cases kind <;> cases db <;> simp [hp, hfield]

/-! ## Runs -/

section

variable (db : DBType) (tableName : Bytes) (answers : StatementAnswers)

/-- What was sent stays sent. -/
theorem prefix_alterLoop (sent : List Bytes) (ops : List AlterOperation) :
    sent <+: (alterLoop db tableName answers sent ops).2 := by
  induction ops generalizing sent with
  | nil => exact List.prefix_rfl
  | cons op ops ih =>
    rw [alterLoop]
    rcases op.buildOperationSql db tableName with _ | sql
    · exact List.prefix_rfl
    · dsimp only
      split_ifs
      · exact (List.prefix_append _ _).trans (ih _)
      · exact List.prefix_append _ _

/-- A list with an operation that is rejected is not executed to its end. -/
theorem alterLoop_fst_eq_false {ops : List AlterOperation} (h : ∃ op ∈ ops, op.Rejected db)
    (sent : List Bytes) : (alterLoop db tableName answers sent ops).1 = false := by
  induction ops generalizing sent with
  | nil => simp at h
  | cons op ops ih =>
    rw [alterLoop]
    rcases hsql : op.buildOperationSql db tableName with _ | sql
    · rfl
    · have hbuilt : ¬op.Rejected db := by
        rw [← AlterOperation.buildOperationSql_eq_none_iff db tableName, hsql]
        exact Option.some_ne_none sql
      rw [List.exists_mem_cons_iff, or_iff_right hbuilt] at h
      dsimp only
      split_ifs
      · exact ih h _
      · rfl

/-- Nothing is sent where there is nothing to execute or the first operation is rejected. -/
theorem alterExecute_snd_eq_nil_iff (ops : List AlterOperation) :
    (alterExecute db tableName answers ops).2 = [] ↔
      ∀ op ∈ ops.head?, AlterOperation.Rejected db op := by
  rcases ops with _ | ⟨op, ops⟩
  · exact iff_of_true rfl (by simp)
  · have hhead : (∀ o ∈ (op :: ops).head?, AlterOperation.Rejected db o) ↔ op.Rejected db := by
      simp
    rw [hhead, ← AlterOperation.buildOperationSql_eq_none_iff db tableName, alterExecute,
      alterLoop]
    rcases hsql : op.buildOperationSql db tableName with _ | sql
    · exact iff_of_true rfl rfl
    · refine iff_of_false (fun hnil ↦ ?_) (Option.some_ne_none sql)
      have hsent : [sql] <+: [] := by
        dsimp only at hnil
        split_ifs at hnil
        · have hmore := prefix_alterLoop db tableName answers [sql] ops
          rw [List.nil_append] at hnil
          rwa [hnil] at hmore
        · exact absurd hnil (by simp)
      exact absurd (List.prefix_nil.mp hsent) (by simp)

/-- A request with an operation that is rejected fails and sends nothing. -/
def RejectedUnsent (ops : List AlterOperation) : Prop :=
  (∃ op ∈ ops, op.buildOperationSql db tableName = none) →
    alterExecute db tableName answers ops = (false, [])

/-- A request with an operation that is rejected sends nothing where that is so of the first one. -/
theorem rejectedUnsent_iff (ops : List AlterOperation) :
    RejectedUnsent db tableName answers ops ↔
      ((∃ op ∈ ops, op.Rejected db) → ∀ op ∈ ops.head?, op.Rejected db) := by
  simp only [RejectedUnsent, AlterOperation.buildOperationSql_eq_none_iff]
  refine forall_congr' fun h ↦ ?_
  rw [← alterExecute_snd_eq_nil_iff db tableName answers, Prod.ext_iff]
  exact and_iff_right (alterLoop_fst_eq_false db tableName answers h [])

/-- On SQLite a column is added before the partition is found that cannot be dropped. -/
theorem not_rejectedUnsent :
    ¬RejectedUnsent .sqlite (ascii "t") (fun _ _ ↦ true)
      [.clause (ascii "ADD COLUMN a INTEGER"),
        .partition ⟨.dropPartition, [], rangePartition (ascii "p") (.value (.integer 1))
          (.value (.integer 2))⟩] := by
  intro h
  exact absurd (h ⟨_, List.mem_cons_of_mem _ List.mem_cons_self, rfl⟩) (by decide)

end

end Ormpp
