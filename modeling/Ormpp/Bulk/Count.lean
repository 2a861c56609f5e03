import Ormpp.Bulk.Completion

/-!
# The number that an update returns

`update` on SQLite and MySQL returns how many items it was given, not how many rows the engine has
changed for them.
-/

namespace Ormpp

namespace Bulk

open Traced

variable {α : Type}

theorem castInt_one : castInt 1 = 1 := by decide

/-- What an operation is given. -/
inductive Items (α : Type)
  | one (item : α)
  | many (v : List α)

def Items.count : Items α → ℕ
  | one _ => 1
  | many v => v.length

/-- `stmt_execute` for a single item, whose result is compared with `INT_MIN`. -/
def single (execute : Traced (Action α) ℤ) : Traced (Action α) Unit := do
  let count ← execute
  if count = intMin then leave [] else pure ()

namespace Sqlite

/-- `insert_or_update_impl` for a single item. -/
def insertOrUpdateOne (a : Answers) (item : α) (type : OptType) (getInsertId : Bool) :
    Traced (Action α) ℤ :=
  withStatement (prepare a) a.finalize (single (stmtExecute (a.row 0) type item))
    (if getInsertId then a.lastInsertRowid % 2 ^ 64 else 1)

/-- `update_impl`, where a key or a condition has been found. -/
def update (a : Answers) (transaction : Bool) : Items α → Option ℤ
  | .one item => (insertOrUpdateOne a item .update false).2
  | .many v => (insertOrUpdateImpl a transaction v .update false).2

/-- The rows that SQLite has changed. -/
def affected (a : Answers) (items : Items α) : ℕ :=
  ∑ k ∈ Finset.range items.count, (a.row k).changes

/-- No call of an update fails. -/
def Updates (a : Answers) (transaction : Bool) : Items α → Prop
  | .one _ => a.prepare = none ∧ (a.row 0).executed .update = true
  | .many v => Completes a transaction .update v.length

end Sqlite

namespace Mysql

/-- `insert_or_update_impl` for a single item. -/
def insertOrUpdateOne (a : Answers) (item : α) (type : OptType) (getInsertId : Bool) :
    Traced (Action α) ℤ :=
  withStatement (prepare a) a.close (single (stmtExecute (a.row 0) type item))
    (if getInsertId then (a.insertId : ℤ) else 1)

/-- `update_impl`, where a key or a condition has been found. -/
def update (a : Answers) (transaction : Bool) : Items α → Option ℤ
  | .one item => (insertOrUpdateOne a item .update false).2
  | .many v => (insertOrUpdateImpl a transaction v .update false).2

/-- The rows that MySQL has affected. -/
def affected (a : Answers) (items : Items α) : ℕ :=
  ∑ k ∈ Finset.range items.count, (a.row k).affectedRows

/-- No call of an update fails. -/
def Updates (a : Answers) (transaction : Bool) : Items α → Prop
  | .one _ => Prepared a ∧ (a.row 0).taken .update = true
  | .many v => Completes a transaction .update v.length

end Mysql

/-! ## What is returned -/

theorem single_eq_some_iff {execute : Traced (Action α) ℤ} {es : List (Action α)} {count : ℤ}
    (h : execute = (es, some count)) : (single execute).2 = some () ↔ count ≠ intMin := by
  rw [single, bind_of_value h]
  split_ifs with hcount
  · exact iff_of_false nofun (not_not_intro hcount)
  · exact iff_of_true rfl hcount

namespace Sqlite

variable {a : Answers} {transaction : Bool} {items : Items α} {n : ℤ}

theorem single_iff {r : Row} {type : OptType} {item : α} :
    (single (stmtExecute r type item)).2 = some () ↔ r.executed type = true := by
  rcases hexecuted : r.executed type with _ | _
  · rw [single_eq_some_iff (stmtExecute_of_not_executed hexecuted item)]
    exact iff_of_false (not_not_intro rfl) Bool.false_ne_true
  · obtain ⟨count, hcount, hexec⟩ := stmtExecute_of_executed hexecuted item
    rw [single_eq_some_iff hexec]
    exact iff_of_true hcount rfl

/-- An update that succeeds returns the number of items. -/
theorem update_eq_some_iff :
    update a transaction items = some n ↔
      Updates a transaction items ∧ castInt items.count = n := by
  obtain item | v := items
  · have hvalue : castInt (Items.one item).count = 1 := castInt_one
    rw [hvalue]
    refine withStatement_eq_some_iff.trans ?_
    rw [prepared_iff, single_iff, ← and_assoc]
    rfl
  · have hvalue : value a v false = castInt (Items.many v).count := if_neg Bool.false_ne_true
    rw [← hvalue]
    exact insertOrUpdateImpl_eq_some_iff

end Sqlite

namespace Mysql

variable {a : Answers} {transaction : Bool} {items : Items α} {n : ℤ}

theorem single_iff {r : Row} {type : OptType} {item : α} :
    (single (stmtExecute r type item)).2 = some () ↔ r.taken type = true := by
  rcases htaken : r.taken type with _ | _
  · rw [single_eq_some_iff (stmtExecute_of_not_taken htaken item)]
    exact iff_of_false (not_not_intro rfl) Bool.false_ne_true
  · obtain ⟨count, hcount, hexec⟩ := stmtExecute_of_taken htaken item
    rw [single_eq_some_iff hexec]
    exact iff_of_true hcount rfl

/-- An update that succeeds returns the number of items. -/
theorem update_eq_some_iff :
    update a transaction items = some n ↔
      Updates a transaction items ∧ castInt items.count = n := by
  obtain item | v := items
  · have hvalue : castInt (Items.one item).count = 1 := castInt_one
    rw [hvalue]
    refine withStatement_eq_some_iff.trans ?_
    rw [prepared_iff, single_iff, ← and_assoc]
    rfl
  · have hvalue : value a v false = castInt (Items.many v).count := if_neg Bool.false_ne_true
    rw [← hvalue]
    refine insertOrUpdateImpl_eq_some_iff.trans ?_
    rw [Bool.not_false, Bool.and_true]
    rfl

end Mysql

/-! ## The affected rows -/

/-- A backend that binds what it updates, and what its engine answers. -/
inductive Updater
  | sqlite (a : Sqlite.Answers)
  | mysql (a : Mysql.Answers)

namespace Updater

/-- `update`, which returns `INT_MIN` where it fails. -/
def update (transaction : Bool) (items : Items α) : Updater → Option ℤ
  | sqlite a => Sqlite.update a transaction items
  | mysql a => Mysql.update a transaction items

/-- The rows that the engine has reported. -/
def affected (items : Items α) : Updater → ℕ
  | sqlite a => Sqlite.affected a items
  | mysql a => Mysql.affected a items

def Updates (transaction : Bool) (items : Items α) : Updater → Prop
  | sqlite a => Sqlite.Updates a transaction items
  | mysql a => Mysql.Updates a transaction items

/-- An update that succeeds returns the rows that the engine has reported. -/
def ReturnsAffected (b : Updater) (transaction : Bool) (items : Items α) : Prop :=
  ∀ n, b.update transaction items = some n → n = b.affected items

theorem update_eq_some_iff {b : Updater} {transaction : Bool} {items : Items α} {n : ℤ} :
    b.update transaction items = some n ↔
      b.Updates transaction items ∧ castInt items.count = n := by
  obtain a | a := b
  · exact Sqlite.update_eq_some_iff
  · exact Mysql.update_eq_some_iff

/-- **The update count.** It is the number of items. -/
theorem returnsAffected_iff (b : Updater) (transaction : Bool) (items : Items α) :
    b.ReturnsAffected transaction items ↔
      (b.Updates transaction items → (b.affected items : ℤ) = castInt items.count) := by
  constructor
  · intro h hupdates
    exact (h _ (update_eq_some_iff.mpr ⟨hupdates, rfl⟩)).symm
  · intro h n hn
    obtain ⟨hupdates, rfl⟩ := update_eq_some_iff.mp hn
    exact (h hupdates).symm

theorem not_returnsAffected :
    ¬ ∀ (b : Updater) (transaction : Bool) (items : Items ℕ),
      b.ReturnsAffected transaction items := by
  intro h
  have hsqlite := h (.sqlite { row := fun _ ↦ { changes := 0 } }) true (.one 0) 1 rfl
  exact absurd hsqlite (by decide)

end Updater

end Bulk

end Ormpp
