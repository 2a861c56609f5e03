import Ormpp.Bulk.Action
import Ormpp.Data.Handle

/-!
# The handles of the MySQL backend

`connect` closes the connection that the object has before it makes another one. A statement is
handed out by `mysql_stmt_init` and has then to be prepared. `execute`, `delete_records_s` and the
queries guard it in between, and so are balanced; `insert_or_update_impl` guards it only when it has
been prepared.
-/

namespace Ormpp

namespace Handle

open Bulk (OptType)

namespace Mysql

/-- The option of a timeout, if there is one. -/
def setTimeout (timeout : Bool) : Prog Bool := if timeout then call else pure true

/-- `connect`, which sets the options first. -/
def connect (timeout : Bool) : Prog Bool := do
  let old ← stored
  close old
  match ← openConnection with
  | none => pure false
  | some _ =>
    if ← setTimeout timeout then
      let _ ← call  -- the character set
      call
    else
      pure false

def disconnect : Prog Bool := do
  let h ← stored
  close h
  forget
  pure true

/-- `stmt_execute`. -/
def stmtExecute (type : OptType) : Prog Bool := do
  -- `mysql_stmt_bind_param` and `mysql_stmt_execute`.
  if ← call <&&> call then
    let changed ← call
    pure (changed || type = .update)
  else
    pure false

/-- What `begin` or `commit` does, if there is a transaction. -/
def control (transaction : Bool) : Prog Bool := if transaction then call else pure true

/-- The body of the loop over the items. -/
def item (transaction : Bool) (type : OptType) : Prog Bool := do
  if ← stmtExecute type then pure true
  else
    let _ ← control transaction
    pure false

/-- A statement that is guarded as soon as there is one. -/
def withStatement (body : Prog Bool) : Prog Bool := do
  match ← acquire with
  | none => pure false
  | some stmt => guard (some stmt) (call <&&> body)

/-- A statement that is guarded when it has been prepared. -/
def withPrepared (body : Prog Bool) : Prog Bool := do
  match ← acquire with
  | none => pure false
  | some stmt =>
    if ← call then guard (some stmt) body
    else pure false

/-- `insert_or_update_impl`, for one item. -/
def insertOrUpdateImpl (type : OptType) : Prog Bool := withPrepared (stmtExecute type)

/-- `insert_or_update_impl`, for a vector of a number of items. -/
def insertOrUpdateAll (transaction getInsertId : Bool) (type : OptType) (items : List ℕ) :
    Prog Bool :=
  withPrepared (control (transaction && !getInsertId) <&&>
    forAll (fun _ ↦ item transaction type) items <&&> control (transaction && !getInsertId))

def execute : Prog Bool := withStatement call

/-- `mysql_stmt_bind_param`, which is called only for arguments. -/
def bindParam (args : ℕ) : Prog Bool := if args = 0 then pure true else call

def deleteRecordsS (args : ℕ) : Prog Bool := withStatement (bindParam args <&&> call)

/-- `query_s`, and `query` with no arguments. -/
def queryS (args rows : ℕ) : Prog Bool :=
  withStatement do
    match ← acquire with
    | none => pure false
    -- `mysql_stmt_bind_result`, `mysql_stmt_execute`, a fetch for each row and one that is done.
    | some metadata => guard (some metadata) (bindParam args <&&> call <&&> call <&&>
        callAll (rows + 1))

/-! ## Balance -/

theorem balanced_stmtExecute (type : OptType) : Balanced (stmtExecute type) :=
  (balanced_call.and balanced_call).bind fun _ ↦
    (balanced_call.bind fun _ ↦ balanced_pure _).ite (balanced_pure false)

theorem balanced_control (transaction : Bool) : Balanced (control transaction) :=
  balanced_call.ite (balanced_pure true)

theorem balanced_item (transaction : Bool) (type : OptType) : Balanced (item transaction type) :=
  (balanced_stmtExecute type).orElse (balanced_control transaction)

theorem balanced_withStatement {body : Prog Bool} (hbody : Balanced body) :
    Balanced (withStatement body) :=
  balanced_acquire (balanced_pure false) fun _ ↦ releases_guard (balanced_call.and hbody)

theorem balanced_execute : Balanced execute := balanced_withStatement balanced_call

theorem balanced_bindParam (args : ℕ) : Balanced (bindParam args) := by
  rw [bindParam]
  split_ifs
  · exact balanced_pure true
  · exact balanced_call

theorem balanced_deleteRecordsS (args : ℕ) : Balanced (deleteRecordsS args) :=
  balanced_withStatement ((balanced_bindParam args).and balanced_call)

theorem balanced_queryS (args rows : ℕ) : Balanced (queryS args rows) := by
  have hfetch : Balanced (bindParam args <&&> call <&&> call <&&> callAll (rows + 1)) :=
    (balanced_bindParam args).and
      (balanced_call.and (balanced_call.and (balanced_callAll (rows + 1))))
  exact balanced_withStatement
    (balanced_acquire (balanced_pure false) fun _ ↦ releases_guard hfetch)

/-! ## A statement that is not prepared -/

/-- If there is a statement, it is prepared. -/
def Prepares (w : World) : Prop :=
  w.outcomes w.clock = true → w.outcomes (w.clock + 1) = true

/-- A guard that comes after the preparation is as good as one before, unless it fails. -/
theorem withPrepared_eq_withStatement {w : World} (hw : Prepares w) (body : Prog Bool) :
    withPrepared body w = withStatement body w := by
  by_cases houtcome : w.outcomes w.clock = true
  · have hacquire := acquire_of_true houtcome
    have hprepare : w.outcomes (w.clock + 1) = true := hw houtcome
    simp only [withPrepared, withStatement, guard, andM, call, bind, StateT.bind, hacquire,
      hprepare]
    rfl
  · have hacquire := acquire_of_false houtcome
    simp only [withPrepared, withStatement, bind, StateT.bind, hacquire]

theorem owns_withPrepared {w : World} {body : Prog Bool} (hbody : Balanced body) (hw : Owns w)
    (hprepares : Prepares w) : Owns (withPrepared body w).2 := by
  rw [withPrepared_eq_withStatement hprepares]
  exact (balanced_withStatement hbody).owns w hw

theorem owns_insertOrUpdateImpl {w : World} (type : OptType) (hw : Owns w)
    (hprepares : Prepares w) : Owns (insertOrUpdateImpl type w).2 :=
  owns_withPrepared (balanced_stmtExecute type) hw hprepares

theorem owns_insertOrUpdateAll {w : World} (transaction getInsertId : Bool) (type : OptType)
    (items : List ℕ) (hw : Owns w) (hprepares : Prepares w) :
    Owns (insertOrUpdateAll transaction getInsertId type items w).2 :=
  owns_withPrepared ((balanced_control _).and
    ((balanced_forAll (fun _ ↦ balanced_item transaction type) items).and (balanced_control _)))
    hw hprepares

/-! ## Connections -/

theorem leads_disconnect : Leads Owns Owns disconnect :=
  leads_stored fun c ↦
    (leads_close c).bind fun _ ↦ leads_forget.bind fun _ ↦ leads_pure true

theorem leads_connect (timeout : Bool) : Leads Owns Owns (connect timeout) := by
  have hcalls : Leads Owns Owns (call >>= fun _ ↦ call) :=
    balanced_call.owns.bind fun _ ↦ balanced_call.owns
  refine leads_stored fun c ↦ (leads_close c).bind fun _ ↦ leads_openConnection.bind fun h ↦ ?_
  obtain _ | h := h
  · exact leads_pure false
  · have hset : Leads Owns Owns (setTimeout timeout) := balanced_call.owns.ite (leads_pure true)
    exact hset.bind fun _ ↦ hcalls.ite (leads_pure false)

end Mysql

end Handle

end Ormpp
