import Ormpp.Bulk.Action
import Ormpp.Data.Handle

/-!
# The handles of the SQLite backend

`sqlite3_open` writes a handle whether it succeeds or not, over the one that the object has, and
`sqlite3_close` is refused while a statement is held. Every operation on records guards its
statement before anything can return, so that all of them are balanced.
-/

namespace Ormpp

namespace Handle

open Bulk (OptType)

namespace Sqlite

/-- `sqlite3_prepare_v2`. A text that has no statement is accepted and gives a null pointer. -/
def prepareV2 : Prog (Option (Option ℕ)) := do
  if ← call then
    let stmt ← acquire
    pure (some stmt)
  else
    pure none

/-- `sqlite3_close`. -/
def sqlite3Close (h : ℕ) : Prog Bool := fun w ↦
  if w.books.statements = [] then (true, (close (some h) w).2) else (false, w)

def disconnect : Prog Bool := do
  match ← stored with
  | none => pure true
  | some h =>
    let closed ← sqlite3Close h
    forget
    pure closed

/-- The query that tests the key. Its statement is finalized after the step. -/
def testKey : Prog Bool := do
  match ← prepareV2 with
  | none => pure false
  | some stmt => guard stmt call

/-- `connect`, with a key for the database if there is one. -/
def connect (keyed : Bool) : Prog Bool := do
  let _ ← openConnection
  let opened ← call
  if !opened then pure false
  else if !keyed then pure true
  else if !(← call) then pure false  -- `sqlite3_key`
  else if ← testKey then pure true
  else
    let _ ← disconnect
    pure false

/-- `stmt_execute`, which binds the parameters one after the other. -/
def stmtExecute (type : OptType) (params : ℕ) : Prog Bool := do
  if ← callAll params <&&> call then
    let changed ← call
    pure (changed || type = .update)
  else
    pure false

/-- What `begin` or `commit` does, if there is a transaction. -/
def control (transaction : Bool) : Prog Bool := if transaction then call else pure true

/-- The body of the loop over the items. -/
def item (transaction : Bool) (type : OptType) (params : ℕ) : Prog Bool := do
  -- The last call is the `sqlite3_reset`.
  if ← stmtExecute type params <&&> call then pure true
  else
    let _ ← control transaction
    pure false

/-- `insert_or_update_impl`, for one item. -/
def insertOrUpdateImpl (type : OptType) (params : ℕ) : Prog Bool := do
  match ← prepareV2 with
  | none => pure false
  | some stmt => guard stmt (stmtExecute type params)

/-- `insert_or_update_impl`, for a vector. -/
def insertOrUpdateAll (transaction : Bool) (type : OptType) (items : List ℕ) : Prog Bool := do
  match ← prepareV2 with
  | none => pure false
  | some stmt =>
    guard stmt (control transaction <&&> forAll (item transaction type) items <&&>
      control transaction)

def execute : Prog Bool := do
  match ← prepareV2 with
  | none => pure false
  | some stmt => guard stmt call

/-- `delete_records_s`. The arguments are bound before the guard. -/
def deleteRecordsS (args : ℕ) : Prog Bool := do
  match ← prepareV2 with
  | none => pure false
  | some stmt =>
    callEach args
    guard stmt call

/-- `query_s`, and `query` with no arguments. -/
def queryS (args rows : ℕ) : Prog Bool := do
  match ← prepareV2 with
  | none => pure false
  | some stmt =>
    callEach args
    -- One step for each row, and one that is done.
    guard stmt (callAll (rows + 1))

/-! ## Balance -/

variable {α : Type}

theorem balanced_prepareV2 {k : Option (Option ℕ) → Prog α} (hnone : Balanced (k none))
    (hnull : Balanced (k (some none))) (hsome : ∀ h, Releases h (k (some (some h)))) :
    Balanced (prepareV2 >>= k) := by
  rw [prepareV2, bind_assoc]
  refine balanced_call.bind fun ok ↦ ?_
  cases ok
  · exact hnone
  · have hacquire : Balanced (acquire >>= fun stmt ↦ k (some stmt)) :=
      balanced_acquire hnull hsome
    exact hacquire

/-- A statement that is guarded. -/
theorem balanced_guarded {body : Prog Bool} (hbody : Balanced body) :
    Balanced (prepareV2 >>= fun
      | none => pure false
      | some stmt => guard stmt body) :=
  balanced_prepareV2 (balanced_pure false) hbody.guard_none fun _ ↦ releases_guard hbody

/-- A statement whose arguments are bound and which is then guarded. -/
theorem balanced_bound {body : Prog Bool} (args : ℕ) (hbody : Balanced body) :
    Balanced (prepareV2 >>= fun
      | none => pure false
      | some stmt => callEach args >>= fun _ ↦ guard stmt body) :=
  balanced_prepareV2 (balanced_pure false)
    ((balanced_callEach args).bind fun _ ↦ hbody.guard_none)
    fun _ ↦ (balanced_callEach args).bind_releases fun _ ↦ releases_guard hbody

theorem balanced_stmtExecute (type : OptType) (params : ℕ) :
    Balanced (stmtExecute type params) :=
  ((balanced_callAll params).and balanced_call).bind fun _ ↦
    (balanced_call.bind fun _ ↦ balanced_pure _).ite (balanced_pure false)

theorem balanced_control (transaction : Bool) : Balanced (control transaction) :=
  balanced_call.ite (balanced_pure true)

theorem balanced_item (transaction : Bool) (type : OptType) (params : ℕ) :
    Balanced (item transaction type params) :=
  ((balanced_stmtExecute type params).and balanced_call).orElse (balanced_control transaction)

theorem balanced_testKey : Balanced testKey := balanced_guarded balanced_call

theorem balanced_insertOrUpdateImpl (type : OptType) (params : ℕ) :
    Balanced (insertOrUpdateImpl type params) :=
  balanced_guarded (balanced_stmtExecute type params)

theorem balanced_insertOrUpdateAll (transaction : Bool) (type : OptType) (items : List ℕ) :
    Balanced (insertOrUpdateAll transaction type items) :=
  balanced_guarded ((balanced_control transaction).and
    ((balanced_forAll (balanced_item transaction type) items).and (balanced_control transaction)))

theorem balanced_execute : Balanced execute := balanced_guarded balanced_call

theorem balanced_deleteRecordsS (args : ℕ) : Balanced (deleteRecordsS args) :=
  balanced_bound args balanced_call

theorem balanced_queryS (args rows : ℕ) : Balanced (queryS args rows) :=
  balanced_bound args (balanced_callAll (rows + 1))

/-! ## Connections -/

/-- Where no statement is held, the connection is closed. -/
theorem leads_sqlite3Close (h : ℕ) : Leads (Holds (some h)) (Holds none) (sqlite3Close h) := by
  intro w hw
  have hclose : (sqlite3Close h w).2 = (close (some h) w).2 := by
    rw [sqlite3Close, if_pos (congrArg Books.statements hw.books)]
  rw [hclose]
  exact leads_close (some h) w hw

theorem leads_disconnect : Leads Owns Owns disconnect :=
  leads_stored_of_some (fun _ ↦ rfl) fun h ↦
    (leads_sqlite3Close h).bind fun closed ↦ leads_forget.bind fun _ ↦ leads_pure closed

theorem leads_connect (keyed : Bool) : Leads (Holds none) Owns (connect keyed) := by
  have hfailed : Leads Owns Owns (disconnect >>= fun _ ↦ pure false) :=
    leads_disconnect.bind fun _ ↦ leads_pure false
  have htested : Leads Owns Owns
      (testKey >>= fun ok ↦ if ok then pure true else disconnect >>= fun _ ↦ pure false) :=
    balanced_testKey.owns.bind fun _ ↦ (leads_pure true).ite hfailed
  refine leads_openConnection.bind fun _ ↦ balanced_call.owns.bind fun opened ↦ ?_
  refine (leads_pure false).ite ((leads_pure true).ite ?_)
  exact balanced_call.owns.bind fun key ↦ (leads_pure false).ite htested

end Sqlite

end Handle

end Ormpp
