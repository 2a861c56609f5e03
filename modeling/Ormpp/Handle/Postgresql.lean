import Ormpp.Data.Handle

/-!
# The handles of the PostgreSQL backend

Every request gives a result, which is guarded at once; even a request that fails gives one, and
a null pointer only where there is no memory for it. `PQconnectdb` gives a connection object
whether it succeeds or not, which is stored over the one that the object has.
-/

namespace Ormpp

namespace Handle

namespace Postgresql

/-- `PQresultStatus`, of which a null pointer has an error. -/
def resultStatus : Option ℕ → Prog Bool
  | none => pure false
  | some _ => call

/-- A request whose result is guarded: `PQexec`, `PQprepare` or `PQexecPrepared`. -/
def exec : Prog Bool := do
  let res ← acquire
  guard res (resultStatus res)

def connect : Prog Bool := do
  let _ ← openConnection
  call

def disconnect : Prog Bool := do
  match ← stored with
  | none => pure true
  | some h =>
    close (some h)
    forget
    pure true

/-- `stmt_execute`, which makes no request for an item without parameters. -/
def stmtExecute (params : ℕ) : Prog Bool := if params = 0 then pure false else exec

/-- What `begin` or `commit` does, if there is a transaction. -/
def control (transaction : Bool) : Prog Bool := if transaction then exec else pure true

/-- The body of the loop over the items. -/
def item (transaction : Bool) (params : ℕ) : Prog Bool := do
  if ← stmtExecute params then pure true
  else
    let _ ← control transaction
    pure false

/-- `insert_or_update_impl`, for one item. -/
def insertOrUpdateImpl (params : ℕ) : Prog Bool := exec <&&> stmtExecute params

/-- `insert_or_update_impl`, for a vector. -/
def insertOrUpdateAll (transaction : Bool) (items : List ℕ) : Prog Bool :=
  control transaction <&&> exec <&&> forAll (item transaction) items <&&> control transaction

def execute : Prog Bool := exec

/-- `delete_records_s` and `query_s`. There is a prepared statement only for arguments. -/
def execS (args : ℕ) : Prog Bool := if args = 0 then exec else exec <&&> exec

/-! ## Balance -/

theorem balanced_exec : Balanced exec :=
  balanced_acquire (balanced_pure false).guard_none fun _ ↦ releases_guard balanced_call

theorem balanced_stmtExecute (params : ℕ) : Balanced (stmtExecute params) := by
  rw [stmtExecute]
  split_ifs
  · exact balanced_pure false
  · exact balanced_exec

theorem balanced_control (transaction : Bool) : Balanced (control transaction) :=
  balanced_exec.ite (balanced_pure true)

theorem balanced_item (transaction : Bool) (params : ℕ) : Balanced (item transaction params) :=
  (balanced_stmtExecute params).orElse (balanced_control transaction)

theorem balanced_insertOrUpdateImpl (params : ℕ) : Balanced (insertOrUpdateImpl params) :=
  balanced_exec.and (balanced_stmtExecute params)

theorem balanced_insertOrUpdateAll (transaction : Bool) (items : List ℕ) :
    Balanced (insertOrUpdateAll transaction items) :=
  (balanced_control transaction).and (balanced_exec.and
    ((balanced_forAll (balanced_item transaction) items).and (balanced_control transaction)))

theorem balanced_execS (args : ℕ) : Balanced (execS args) := by
  rw [execS]
  split_ifs
  · exact balanced_exec
  · exact balanced_exec.and balanced_exec

/-! ## Connections -/

theorem leads_disconnect : Leads Owns Owns disconnect :=
  leads_stored_of_some (fun _ ↦ rfl) fun h ↦
    (leads_close (some h)).bind fun _ ↦ leads_forget.bind fun _ ↦ leads_pure true

theorem leads_connect : Leads (Holds none) Owns connect :=
  leads_openConnection.bind fun _ ↦ balanced_call.owns

end Postgresql

end Handle

end Ormpp
