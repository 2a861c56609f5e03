import Ormpp.Bulk.Statement

/-!
# Bulk operations on SQLite

`sqlite::insert_or_update_impl` for a vector, which prepares its statement before it begins the
transaction, with what SQLite answers to each of its calls.
-/

namespace Ormpp

namespace Bulk

open Traced

namespace Sqlite

variable {α : Type}

/-- The answers to the calls for one item. An error is given by its `sqlite3_errmsg`. -/
structure Row where
  bind : Option Bytes := none
  step : Option Refusal := none
  changes : ℕ := 1
  reset : Option Bytes := none

structure Answers where
  prepare : Option Bytes := none
  begin : Option Refusal := none
  row : ℕ → Row := fun _ ↦ {}
  commit : Option Refusal := none
  rollback : Option Bytes := none
  /-- `sqlite3_errmsg` after a rollback that succeeds. -/
  errmsg : Bytes := ascii "not an error"
  finalize : ℤ := 0
  lastInsertRowid : ℤ := 1

/-- `sqlite3_prepare_v2`. -/
def prepare (a : Answers) : Traced (Action α) Unit :=
  match a.prepare with
  | none => emit [.prepare .accepted]
  | some message => leave [.prepare (.refused false), .setLastError message]

/-- `begin`. -/
def begin (a : Answers) : Traced (Action α) Unit := checked .begin a.begin

/-- `commit`. -/
def commit (a : Answers) : Traced (Action α) Unit := checked .commit a.commit

/-- `stmt_execute`. -/
def stmtExecute (r : Row) (type : OptType) (item : α) : Traced (Action α) ℤ :=
  match r.bind with
  | some message => do
    emit [.setLastError message]
    pure intMin
  | none =>
    match r.step with
    | some refusal => do
      emit [.row item (.refused refusal.ended), .setLastError refusal.message]
      pure intMin
    | none =>
      if r.changes = 0 then
        -- An item that is not inserted has no effect, but SQLite has no error for it.
        if type = .update then do
          emit [.row item .accepted]
          pure 0
        else do
          emit [.row item (.refused false)]
          pure intMin
      else do
        emit [.row item .accepted]
        pure 1

/-- The error of a `sqlite3_reset`, which is read after the rollback. -/
def resetErrmsg (a : Answers) (transaction : Bool) (message : Bytes) : Bytes :=
  if transaction then a.rollback.getD a.errmsg else message

/-- The body of the loop. -/
def body (a : Answers) (transaction : Bool) (type : OptType) (k : ℕ) (item : α) (_ : Unit) :
    Traced (Action α) Unit := do
  let count ← stmtExecute (a.row k) type item
  if count = intMin then do
    when transaction (rollback a.rollback)
    leave []
  else
    match (a.row k).reset with
    | some message => do
      when transaction (rollback a.rollback)
      leave [.setLastError (resetErrmsg a transaction message)]
    | none => pure ()

/-- `insert_or_update_impl`. -/
def insertOrUpdateImpl (a : Answers) (transaction : Bool) (v : List α) (type : OptType)
    (getInsertId : Bool) : Traced (Action α) ℤ :=
  withStatement (prepare a) a.finalize
    (bracket transaction (begin a) (commit a) (forEach (body a transaction type) 0 v ()))
    (if getInsertId then a.lastInsertRowid % 2 ^ 64 else castInt v.length)

def run (a : Answers) (transaction : Bool) (op : Operation) (v : List α) : List (Action α) × ℤ :=
  op.run (insertOrUpdateImpl a transaction v)

theorem prepared_iff {a : Answers} : (prepare (α := α) a).2 = some () ↔ a.prepare = none := by
  rw [prepare]
  cases a.prepare <;> simp [emit, leave]

/-! ## The loop -/

/-- The item is executed, and inserted if it is to be. -/
def Row.executed (r : Row) (type : OptType) : Bool :=
  r.bind.isNone && r.step.isNone && (r.changes != 0 || type == .update)

def Row.taken (r : Row) (type : OptType) : Bool := r.executed type && r.reset.isNone

/-- What the body does after the rollback. -/
def Row.late (a : Answers) (r : Row) (type : OptType) : List (Action α) :=
  if r.executed type then
    r.reset.toList.map fun message ↦ .setLastError (resetErrmsg a true message)
  else []

theorem stmtExecute_of_executed {r : Row} {type : OptType} (h : r.executed type = true) (item : α) :
    ∃ count, count ≠ intMin ∧ stmtExecute r type item = ([.row item .accepted], some count) := by
  simp only [Row.executed, Bool.and_eq_true, Option.isNone_iff_eq_none, Bool.or_eq_true, bne_iff_ne,
    beq_iff_eq] at h
  obtain ⟨⟨hbind, hstep⟩, hchanges⟩ := h
  simp only [stmtExecute, hbind, hstep]
  by_cases hzero : r.changes = 0
  · rw [if_pos hzero, if_pos (hchanges.resolve_left (not_not_intro hzero))]
    exact ⟨0, by decide, rfl⟩
  · rw [if_neg hzero]
    exact ⟨1, by decide, rfl⟩

theorem stmtExecute_of_not_executed {r : Row} {type : OptType} (h : r.executed type = false)
    (item : α) : stmtExecute r type item = ((stmtExecute r type item).1, some intMin) := by
  apply eq_of_snd
  rw [stmtExecute]
  cases hbind : r.bind with
  | some message => rfl
  | none =>
    cases hstep : r.step with
    | some refusal => rfl
    | none =>
      simp only [Row.executed, hbind, hstep, Option.isNone_none, Bool.true_and,
        Bool.or_eq_false_iff, bne_eq_false_iff_eq, beq_eq_false_iff_ne] at h
      rw [if_pos h.1, if_neg h.2]
      rfl

section Body

variable {a : Answers} {type : OptType} {k : ℕ} {item : α} {u : Unit}

theorem body_of_taken {transaction : Bool} (h : (a.row k).taken type = true) :
    body a transaction type k item u = ([.row item .accepted], some ()) := by
  rw [Row.taken, Bool.and_eq_true, Option.isNone_iff_eq_none] at h
  obtain ⟨count, hcount, hexec⟩ := stmtExecute_of_executed h.1 item
  rw [body, bind_of_value hexec, if_neg hcount, h.2]
  rfl

/-- An item that is not taken is rolled back with the items before it. -/
theorem body_of_refused (h : (a.row k).taken type = false) :
    body a true type k item u
      = ((stmtExecute (a.row k) type item).1
          ++ ((rollback a.rollback).1 ++ (a.row k).late a type), none) := by
  cases hexecuted : (a.row k).executed type with
  | false =>
    rw [body, bind_of_value (stmtExecute_of_not_executed hexecuted item), if_pos rfl, Row.late,
      hexecuted]
    rfl
  | true =>
    rw [Row.taken, hexecuted, Bool.true_and, Option.isNone_eq_false_iff,
      Option.isSome_iff_exists] at h
    obtain ⟨message, hreset⟩ := h
    obtain ⟨count, hcount, hexec⟩ := stmtExecute_of_executed hexecuted item
    rw [body, bind_of_value hexec, if_neg hcount, hexec, hreset, Row.late, hexecuted, hreset]
    rfl

theorem left_of_refused (h : (a.row k).taken type = false) :
    (body a true type k item u).2 = none := congrArg Prod.snd (body_of_refused h)

end Body

section Loop

variable {a : Answers} {type : OptType} {v : List α}

theorem loop_of_taken {transaction : Bool} (h : ∀ k < v.length, (a.row k).taken type = true) :
    forEach (body a transaction type) 0 v () = (rows v, some ()) :=
  forEach_rows (fun _ _ _ hk ↦ body_of_taken hk) h

theorem loop_of_firstRefused {n : ℕ} (h : FirstRefused (fun k _ ↦ (a.row k).taken type) v n) :
    forEach (body a true type) 0 v ()
      = (rows (v.take n) ++ ((stmtExecute (a.row n) type h.item).1
          ++ ((rollback a.rollback).1 ++ (a.row n).late a type)), none) := by
  have hloop : forEach (body a true type) 0 v ()
      = (rows (v.take n) ++ (body a true type n h.item ()).1, none) :=
    forEach_rows_of_firstRefused
      (fun k item u (hk : (a.row k).taken type = true) ↦ body_of_taken hk)
      (fun k item u hk ↦ left_of_refused hk) h
  rw [hloop, body_of_refused h.refused]

theorem taken_iff : (forEach (body a true type) 0 v ()).2 = some () ↔
    ∀ k < v.length, (a.row k).taken type = true :=
  forEach_rows_iff (fun _ _ _ hk ↦ body_of_taken hk) fun _ _ _ hk ↦ left_of_refused hk

theorem firstRefused_of_left (h : (forEach (body a true type) 0 v ()).2 = none) :
    ∃ n, FirstRefused (fun k _ ↦ (a.row k).taken type) v n :=
  firstRefused_of_forEach_rows (fun _ _ _ hk ↦ body_of_taken hk) h

end Loop

/-- The ways through an operation in a transaction. -/
theorem path_of_count (a : Answers) (v : List α) (type : OptType) :
    Path (prepare a) a.finalize a.begin a.commit (forEach (body a true type) 0 v ())
      (castInt v.length) (insertOrUpdateImpl a true v type false) := by
  rw [insertOrUpdateImpl, if_neg Bool.false_ne_true]
  exact path (prepare a) a.finalize a.begin a.commit _ (castInt v.length)

theorem run_actions {op : Operation} (h : op ≠ .update false) (a : Answers) (v : List α) :
    ∃ getInsertId, (run a true op v).1 = (insertOrUpdateImpl a true v op.type getInsertId).1 :=
  Operation.run_actions h

end Sqlite

end Bulk

end Ormpp
