import Ormpp.Bulk.Statement

/-!
# Bulk operations on MySQL

`mysql::insert_or_update_impl` for a vector, which prepares its statement first, and opens a
transaction unless it is asked for the id of the last insert.
-/

namespace Ormpp

namespace Bulk

open Traced

namespace Mysql

variable {α : Type}

/-- The answers to the calls for one item. An error is given by its `mysql_stmt_error`. -/
structure Row where
  bindParam : Option Bytes := none
  execute : Option Refusal := none
  affectedRows : ℕ := 1

structure Answers where
  /-- `mysql_stmt_init` returns a null pointer. -/
  init : Option Bytes := none
  prepare : Option Refusal := none
  begin : Option Refusal := none
  row : ℕ → Row := fun _ ↦ {}
  commit : Option Refusal := none
  rollback : Option Bytes := none
  close : ℤ := 0
  insertId : ℕ := 1

/-- `mysql_stmt_init` and `mysql_stmt_prepare`. -/
def prepare (a : Answers) : Traced (Action α) Unit :=
  match a.init with
  | some message => leave [.setLastError message]
  | none =>
    match a.prepare with
    | none => emit [.prepare .accepted]
    | some refusal => leave [.prepare (.refused refusal.ended), .setLastError refusal.message]

/-- `begin`. -/
def begin (a : Answers) : Traced (Action α) Unit := checked .begin a.begin

/-- `commit`. -/
def commit (a : Answers) : Traced (Action α) Unit := checked .commit a.commit

/-- `stmt_execute`. -/
def stmtExecute (r : Row) (type : OptType) (item : α) : Traced (Action α) ℤ :=
  match r.bindParam with
  | some message => do
    emit [.setLastError message]
    pure intMin
  | none =>
    match r.execute with
    | some refusal => do
      emit [.row item (.refused refusal.ended), .setLastError refusal.message]
      pure intMin
    | none =>
      if r.affectedRows = 0 then
        -- An item that is not inserted has no effect, but MySQL has no error for it.
        if type = .update then do
          emit [.row item .accepted]
          pure 0
        else do
          emit [.row item (.refused false)]
          pure intMin
      else do
        emit [.row item .accepted]
        pure (castInt r.affectedRows)

/-- The body of the loop. -/
def body (a : Answers) (transaction : Bool) (type : OptType) (k : ℕ) (item : α) (_ : Unit) :
    Traced (Action α) Unit := do
  let count ← stmtExecute (a.row k) type item
  if count = intMin then do
    when transaction (rollback a.rollback)
    leave []
  else pure ()

/-- `insert_or_update_impl`. -/
def insertOrUpdateImpl (a : Answers) (transaction : Bool) (v : List α) (type : OptType)
    (getInsertId : Bool) : Traced (Action α) ℤ :=
  withStatement (prepare a) a.close
    (bracket (transaction && !getInsertId) (begin a) (commit a)
      (forEach (body a transaction type) 0 v ()))
    (if getInsertId then (a.insertId : ℤ) else castInt v.length)

def run (a : Answers) (transaction : Bool) (op : Operation) (v : List α) : List (Action α) × ℤ :=
  op.run (insertOrUpdateImpl a transaction v)

/-- The calls that prepare the statement succeed. -/
def Prepared (a : Answers) : Prop := a.init = none ∧ a.prepare = none

theorem prepared_iff {a : Answers} : (prepare (α := α) a).2 = some () ↔ Prepared a := by
  rw [prepare, Prepared]
  cases a.init with
  | some message => simp [leave]
  | none => cases a.prepare <;> simp [emit, leave]

/-! ## The loop -/

/-- The item is executed, and its rows are counted. -/
def Row.taken (r : Row) (type : OptType) : Bool :=
  r.bindParam.isNone && r.execute.isNone &&
    if r.affectedRows = 0 then type == .update else castInt r.affectedRows != intMin

theorem stmtExecute_of_taken {r : Row} {type : OptType} (h : r.taken type = true) (item : α) :
    ∃ count, count ≠ intMin ∧ stmtExecute r type item = ([.row item .accepted], some count) := by
  simp only [Row.taken, Bool.and_eq_true, Option.isNone_iff_eq_none] at h
  obtain ⟨⟨hbind, hexecute⟩, hrows⟩ := h
  simp only [stmtExecute, hbind, hexecute]
  by_cases hzero : r.affectedRows = 0
  · rw [if_pos hzero, beq_iff_eq] at hrows
    rw [if_pos hzero, if_pos hrows]
    exact ⟨0, by decide, rfl⟩
  · rw [if_neg hzero, bne_iff_ne] at hrows
    rw [if_neg hzero]
    exact ⟨_, hrows, rfl⟩

theorem stmtExecute_of_not_taken {r : Row} {type : OptType} (h : r.taken type = false) (item : α) :
    stmtExecute r type item = ((stmtExecute r type item).1, some intMin) := by
  apply eq_of_snd
  rw [stmtExecute]
  cases hbind : r.bindParam with
  | some message => rfl
  | none =>
    cases hexecute : r.execute with
    | some refusal => rfl
    | none =>
      simp only [Row.taken, hbind, hexecute, Option.isNone_none, Bool.true_and] at h
      by_cases hzero : r.affectedRows = 0
      · rw [if_pos hzero, beq_eq_false_iff_ne] at h
        rw [if_pos hzero, if_neg h]
        rfl
      · rw [if_neg hzero, bne_eq_false_iff_eq] at h
        rw [if_neg hzero, h]
        rfl

section Body

variable {a : Answers} {type : OptType} {k : ℕ} {item : α} {u : Unit}

theorem body_of_taken {transaction : Bool} (h : (a.row k).taken type = true) :
    body a transaction type k item u = ([.row item .accepted], some ()) := by
  obtain ⟨count, hcount, hexec⟩ := stmtExecute_of_taken h item
  rw [body, bind_of_value hexec, if_neg hcount]
  rfl

/-- An item that is not taken is rolled back with the items before it, in a transaction or not. -/
theorem body_of_refused (h : (a.row k).taken type = false) :
    body a true type k item u
      = ((stmtExecute (a.row k) type item).1 ++ (rollback a.rollback).1, none) := by
  rw [body, bind_of_value (stmtExecute_of_not_taken h item), if_pos rfl]
  refine Prod.ext ?_ rfl
  change _ ++ ((rollback a.rollback).1 ++ []) = _
  rw [List.append_nil]

theorem left_of_refused (h : (a.row k).taken type = false) :
    (body a true type k item u).2 = none := congrArg Prod.snd (body_of_refused h)

end Body

section Loop

variable {a : Answers} {type : OptType} {v : List α}

theorem loop_of_taken {transaction : Bool} (h : ∀ k < v.length, (a.row k).taken type = true) :
    forEach (body a transaction type) 0 v () = (rows v, some ()) :=
  forEach_rows (fun _ _ _ hk ↦ body_of_taken hk) h

theorem loop_of_firstRefused {n : ℕ} (h : FirstRefused (fun k _ ↦ (a.row k).taken type) v n) :
    forEach (body a true type) 0 v ()
      = (rows (v.take n) ++ ((stmtExecute (a.row n) type h.item).1
          ++ (rollback a.rollback).1), none) := by
  have hloop : forEach (body a true type) 0 v ()
      = (rows (v.take n) ++ (body a true type n h.item ()).1, none) :=
    forEach_rows_of_firstRefused
      (fun k item u (hk : (a.row k).taken type = true) ↦ body_of_taken hk)
      (fun k item u hk ↦ left_of_refused hk) h
  rw [hloop, body_of_refused h.refused]

theorem taken_iff : (forEach (body a true type) 0 v ()).2 = some () ↔
    ∀ k < v.length, (a.row k).taken type = true :=
  forEach_rows_iff (fun _ _ _ hk ↦ body_of_taken hk) fun _ _ _ hk ↦ left_of_refused hk

theorem firstRefused_of_left (h : (forEach (body a true type) 0 v ()).2 = none) :
    ∃ n, FirstRefused (fun k _ ↦ (a.row k).taken type) v n :=
  firstRefused_of_forEach_rows (fun _ _ _ hk ↦ body_of_taken hk) h

end Loop

/-- The ways through an operation that opens a transaction. -/
theorem path_of_transaction (a : Answers) (v : List α) (type : OptType) :
    Path (prepare a) a.close a.begin a.commit (forEach (body a true type) 0 v ()) (castInt v.length)
      (insertOrUpdateImpl a true v type false) := by
  rw [insertOrUpdateImpl, if_neg Bool.false_ne_true]
  exact path (prepare a) a.close a.begin a.commit _ (castInt v.length)

/-- The id of the last insert is found without a transaction. -/
theorem insertOrUpdateImpl_of_insertId {a : Answers} (hprepare : (prepare (α := α) a).2 = some ())
    (v : List α) (type : OptType) :
    insertOrUpdateImpl a true v type true
      = ((prepare a).1 ++ (.resetError ::
          ((forEach (body a true type) 0 v ()).1 ++ closeStatement a.close)),
        (forEach (body a true type) 0 v ()).2.map fun _ ↦ (a.insertId : ℤ)) := by
  rw [insertOrUpdateImpl, if_pos rfl]
  change withStatement _ _ (bracket false _ _ _) _ = _
  rw [bracket_false, withStatement_of_prepared hprepare]

end Mysql

end Bulk

end Ormpp
