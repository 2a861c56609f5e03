import Ormpp.Data.Traced
import Ormpp.Query.Builder
import Ormpp.Wire.Response

/-!
# Bulk operations

What the bulk operations of all backends do with a vector: they send statements, one for each item,
in a transaction if they open one, and use the slot for the last error on the way. The answers of
the database are given; an operation records its statements and its accesses to the slot.
-/

namespace Ormpp

namespace Bulk

open Traced

inductive OptType
  | insert
  | replace
  | update
  deriving DecidableEq

/-- `INT_MIN`. -/
def intMin : ℤ := -2 ^ 31

/-- What the database does with a statement. It may end the open transaction with one that it
refuses. -/
inductive Verdict
  | accepted
  | refused (ended : Bool)
  deriving DecidableEq

inductive Action (α : Type)
  | prepare (verdict : Verdict)
  | begin (verdict : Verdict)
  /-- The statement is executed for an item. -/
  | row (item : α) (verdict : Verdict)
  | commit (verdict : Verdict)
  | rollback
  | resetError
  | setLastError (text : Bytes)
  deriving DecidableEq

variable {α : Type}

/-- How a statement was refused. -/
structure Refusal where
  message : Bytes
  ended : Bool
  deriving DecidableEq

/-- The items are executed. -/
def rows (v : List α) : List (Action α) := v.flatMap fun item ↦ [.row item .accepted]

/-! ## The operations -/

inductive Operation
  | insert
  | replace
  /-- Whether `generate_update_sql` has found a key or a condition. -/
  | update (keyed : Bool)
  | getInsertIdAfterInsert
  deriving DecidableEq

/-- What the operation returns when it fails. -/
def Operation.failure : Operation → ℤ
  | .insert | .replace | .update _ => intMin
  | .getInsertIdAfterInsert => 0

def updateRequiresKey : Bytes := ascii "update requires a conflict key or where condition"

/-- The value of an optional result, or the one of a failure. -/
def valueOr (failure : ℤ) (x : Traced (Action α) ℤ) : List (Action α) × ℤ := (x.1, x.2.getD failure)

theorem valueOr_leave (failure : ℤ) (es : List (Action α)) :
    valueOr failure (leave es) = (es, failure) := rfl

theorem valueOr_some (failure value : ℤ) (es : List (Action α)) :
    valueOr failure (es, some value) = (es, value) := rfl

/-- The operations of a backend with the given `insert_or_update_impl`. -/
def Operation.run (impl : OptType → Bool → Traced (Action α) ℤ) : Operation → List (Action α) × ℤ
  | .insert => valueOr intMin (impl .insert false)
  | .replace => valueOr intMin (impl .replace false)
  | .update false => ([.setLastError updateRequiresKey], intMin)
  | .update true => valueOr intMin (impl .update false)
  | .getInsertIdAfterInsert => valueOr 0 (impl .insert true)

/-- The type of the statement. -/
def Operation.type : Operation → OptType
  | .insert | .getInsertIdAfterInsert => .insert
  | .replace => .replace
  | .update _ => .update

theorem Operation.run_actions {impl : OptType → Bool → Traced (Action α) ℤ} {op : Operation}
    (h : op ≠ .update false) : ∃ getInsertId, (op.run impl).1 = (impl op.type getInsertId).1 := by
  cases op with
  | insert | replace => exact ⟨false, rfl⟩
  | update keyed =>
    cases keyed with
    | false => exact absurd rfl h
    | true => exact ⟨false, rfl⟩
  | getInsertIdAfterInsert => exact ⟨true, rfl⟩

theorem Operation.run_of_keyed {impl : OptType → Bool → Traced (Action α) ℤ} {op : Operation}
    (hkey : op ≠ .update false) (hid : op ≠ .getInsertIdAfterInsert) :
    op.run impl = valueOr intMin (impl op.type false) := by
  cases op with
  | insert | replace => rfl
  | update keyed =>
    cases keyed with
    | false => exact absurd rfl hkey
    | true => rfl
  | getInsertIdAfterInsert => exact absurd rfl hid

/-! ## The slot for the last error -/

structure Report where
  hasError : Bool
  lastError : Bytes
  deriving DecidableEq

def Report.clear : Report := ⟨false, []⟩

def Report.step (r : Report) : Action α → Report
  | .resetError => .clear
  | .setLastError text => ⟨true, text⟩
  | .prepare _ | .begin _ | .row _ _ | .commit _ | .rollback => r

def Report.after (r : Report) (actions : List (Action α)) : Report := actions.foldl Report.step r

/-- What is stored before the slot is reset does not matter. -/
theorem Report.after_reset (r : Report) (before actions : List (Action α)) :
    r.after (before ++ .resetError :: actions) = Report.clear.after actions := by
  rw [Report.after, List.foldl_append]
  rfl

/-! ## The transaction of the connection -/

/-- Whether a transaction is open, and whether the caller has opened it or the operation. -/
inductive Transaction
  | none
  | callers
  | own
  deriving DecidableEq

/-- A refused statement leaves an open transaction alone unless it ends it. -/
def Transaction.refused (t : Transaction) (ended : Bool) : Transaction := if ended then .none else t

/-- PostgreSQL goes on with an open transaction where it is told to begin one, and MySQL commits it
and begins another. A transaction that is rolled back is closed whatever the database answers. -/
def Transaction.step (db : DBType) (t : Transaction) : Action α → Transaction
  | .begin .accepted => if db = .postgresql ∧ t = .callers then t else .own
  | .commit .accepted | .rollback => .none
  | .prepare .accepted | .row _ .accepted => t
  | .begin (.refused ended) | .commit (.refused ended) | .prepare (.refused ended)
  | .row _ (.refused ended) => t.refused ended
  | .resetError | .setLastError _ => t

def Transaction.after (db : DBType) (t : Transaction) (actions : List (Action α)) : Transaction :=
  actions.foldl (Transaction.step db) t

section Transaction

variable {db : DBType} {t : Transaction}

theorem Transaction.after_append (actions later : List (Action α)) :
    t.after db (actions ++ later) = (t.after db actions).after db later :=
  List.foldl_append

/-- Items that are executed leave the transaction as it is. -/
theorem Transaction.after_flatMap {does : α → List (Action α)}
    (h : ∀ item, t.after db (does item) = t) (v : List α) : t.after db (v.flatMap does) = t := by
  induction v with
  | nil => rfl
  | cons item rest ih => rw [List.flatMap_cons, Transaction.after_append, h, ih]

theorem Transaction.after_rows (v : List α) : t.after db (rows v) = t :=
  Transaction.after_flatMap (fun _ ↦ rfl) v

theorem Transaction.refused_eq_own {ended : Bool} :
    t.refused ended = .own ↔ t = .own ∧ ended = false := by
  cases ended <;> simp [Transaction.refused]

end Transaction

end Bulk

end Ormpp
