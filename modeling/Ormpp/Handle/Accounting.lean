import Ormpp.Data.Run
import Ormpp.Handle.Mysql
import Ormpp.Handle.Postgresql
import Ormpp.Handle.Sqlite

/-!
# Accounts of the native handles

The calls that a user makes on one object, one after the other, with the native calls failing in
any pattern. The handles are accounted for in every state of a run that connects only where no
connection is stored, unless the backend closes the old one, and in which MySQL prepares the
statements of its insertions and updates. Each of the two exceptions loses a handle.
-/

namespace Ormpp

namespace Handle

open Bulk (OptType)

/-- A call of the user. -/
inductive Operation
  /-- With a key for the database, and with a timeout. -/
  | connect (keyed timeout : Bool)
  | disconnect
  /-- A call that is refused before it makes a native one: an update without a key, or a query
  whose arguments do not match its placeholders. -/
  | refused
  /-- An insertion, a replacement or an update of one item. -/
  | write (type : OptType) (params : ℕ)
  /-- Of a vector. -/
  | writeAll (transaction getInsertId : Bool) (type : OptType) (items : List ℕ)
  | deleteRecords
  | deleteRecordsS (args : ℕ)
  | queryS (args rows : ℕ)

def Operation.sqlite : Operation → Prog Bool
  | .connect keyed _ => Sqlite.connect keyed
  | .disconnect => Sqlite.disconnect
  | .refused => pure false
  | .write type params => Sqlite.insertOrUpdateImpl type params
  | .writeAll transaction _ type items => Sqlite.insertOrUpdateAll transaction type items
  | .deleteRecords => Sqlite.execute
  | .deleteRecordsS args => Sqlite.deleteRecordsS args
  | .queryS args rows => Sqlite.queryS args rows

def Operation.postgresql : Operation → Prog Bool
  | .connect _ _ => Postgresql.connect
  | .disconnect => Postgresql.disconnect
  | .refused => pure false
  | .write _ params => Postgresql.insertOrUpdateImpl params
  | .writeAll transaction _ _ items => Postgresql.insertOrUpdateAll transaction items
  | .deleteRecords => Postgresql.execute
  | .deleteRecordsS args => Postgresql.execS args
  | .queryS args _ => Postgresql.execS args

def Operation.mysql : Operation → Prog Bool
  | .connect _ timeout => Mysql.connect timeout
  | .disconnect => Mysql.disconnect
  | .refused => pure false
  | .write type _ => Mysql.insertOrUpdateImpl type
  | .writeAll transaction getInsertId type items =>
    Mysql.insertOrUpdateAll transaction getInsertId type items
  | .deleteRecords => Mysql.execute
  | .deleteRecordsS args => Mysql.deleteRecordsS args
  | .queryS args rows => Mysql.queryS args rows

def program : DBType → Operation → Prog Bool
  | .mysql => Operation.mysql
  | .sqlite => Operation.sqlite
  | .postgresql => Operation.postgresql

/-- One call of the user. -/
def step (db : DBType) (w : World) (op : Operation) : World := (program db op w).2

/-- A new object, and the outcomes of the native calls that it is going to make. -/
def fresh (outcomes : ℕ → Bool) : World := { outcomes }

/-! ## Calls that keep the accounts -/

/-- The call does not lose a handle: it connects where no connection is stored, or on a backend
that closes the old one, and if it has a statement to insert or to update with MySQL, then that is
prepared. -/
def Meets (db : DBType) (w : World) : Operation → Prop
  | .connect _ _ => db = .mysql ∨ w.connection = none
  | .write _ _ | .writeAll _ _ _ _ => db = .mysql → Mysql.Prepares w
  | _ => True

theorem owns_connect_of_none {m : Prog Bool} (hm : Leads (Holds none) Owns m) {w : World}
    (hw : Owns w) (hnone : w.connection = none) : Owns (m w).2 := by
  rw [Owns, hnone] at hw
  exact hm w hw

theorem owns_sqlite {w : World} (hw : Owns w) :
    (op : Operation) → Meets .sqlite w op → Owns (op.sqlite w).2
  | .connect keyed _, h =>
    owns_connect_of_none (Sqlite.leads_connect keyed) hw (h.resolve_left nofun)
  | .disconnect, _ => Sqlite.leads_disconnect w hw
  | .refused, _ => hw
  | .write type params, _ => (Sqlite.balanced_insertOrUpdateImpl type params).owns w hw
  | .writeAll transaction _ type items, _ =>
    (Sqlite.balanced_insertOrUpdateAll transaction type items).owns w hw
  | .deleteRecords, _ => Sqlite.balanced_execute.owns w hw
  | .deleteRecordsS args, _ => (Sqlite.balanced_deleteRecordsS args).owns w hw
  | .queryS args rows, _ => (Sqlite.balanced_queryS args rows).owns w hw

theorem owns_postgresql {w : World} (hw : Owns w) :
    (op : Operation) → Meets .postgresql w op → Owns (op.postgresql w).2
  | .connect _ _, h => owns_connect_of_none Postgresql.leads_connect hw (h.resolve_left nofun)
  | .disconnect, _ => Postgresql.leads_disconnect w hw
  | .refused, _ => hw
  | .write _ params, _ => (Postgresql.balanced_insertOrUpdateImpl params).owns w hw
  | .writeAll transaction _ _ items, _ =>
    (Postgresql.balanced_insertOrUpdateAll transaction items).owns w hw
  | .deleteRecords, _ => Postgresql.balanced_exec.owns w hw
  | .deleteRecordsS args, _ => (Postgresql.balanced_execS args).owns w hw
  | .queryS args _, _ => (Postgresql.balanced_execS args).owns w hw

theorem owns_mysql {w : World} (hw : Owns w) :
    (op : Operation) → Meets .mysql w op → Owns (op.mysql w).2
  | .connect _ timeout, _ => Mysql.leads_connect timeout w hw
  | .disconnect, _ => Mysql.leads_disconnect w hw
  | .refused, _ => hw
  | .write type _, h => Mysql.owns_insertOrUpdateImpl type hw (h rfl)
  | .writeAll transaction getInsertId type items, h =>
    Mysql.owns_insertOrUpdateAll transaction getInsertId type items hw (h rfl)
  | .deleteRecords, _ => Mysql.balanced_execute.owns w hw
  | .deleteRecordsS args, _ => (Mysql.balanced_deleteRecordsS args).owns w hw
  | .queryS args rows, _ => (Mysql.balanced_queryS args rows).owns w hw

theorem owns_step {db : DBType} {w : World} {op : Operation} (hw : Owns w) (h : Meets db w op) :
    Owns (step db w op) := by
  obtain _ | _ | _ := db
  · exact owns_mysql hw op h
  · exact owns_sqlite hw op h
  · exact owns_postgresql hw op h

theorem owns_fresh (outcomes : ℕ → Bool) : Owns (fresh outcomes) where
  books := rfl
  moments := by
    intro es hes
    rw [List.prefix_nil.mp hes]
    exact Nat.zero_le 1

theorem owns_foldl {db : DBType} {w : World} {ops : List Operation} (hw : Owns w)
    (h : Run.Along (step db) (Meets db) w ops) : Owns (ops.foldl (step db) w) := by
  induction ops generalizing w with
  | nil => exact hw
  | cons op ops ih => exact ih (owns_step hw h.1) h.2

/-! ## Accounts over a run -/

/-- Every statement and result that was obtained has been released, once, and never was more than
one connection open at a time. -/
structure Accounted (w : World) : Prop where
  statements : w.books.statements = []
  once : w.books.sound = true
  connections : ∀ es, es <+: w.events → (Books.empty.enterAll es).connections.length ≤ 1

theorem Owns.isAccounted {w : World} (hw : Owns w) : Accounted w :=
  ⟨by rw [hw.books], by rw [hw.books], hw.moments⟩

/-- In every state of a run all of whose calls keep the accounts, the handles are accounted for. -/
theorem accounted_of_meets {db : DBType} {outcomes : ℕ → Bool} {ops : List Operation}
    (h : Run.Along (step db) (Meets db) (fresh outcomes) ops) :
    ∀ pre, pre <+: ops → Accounted (pre.foldl (step db) (fresh outcomes)) := by
  intro pre hpre
  exact (owns_foldl (owns_fresh outcomes) (Run.Along.of_prefix (step db) h hpre)).isAccounted

/-- Every third native call fails: the options of the first `connect`, the parameters of the
insertion, the metadata of the query and the second `connect`. -/
theorem accounted_third : Accounted (List.foldl (step .mysql) (fresh (· % 3 != 1))
    [.connect false true, .write .insert 2, .queryS 1 2, .connect false false, .disconnect]) := by
  have hmeets : Run.Along (step .mysql) (Meets .mysql) (fresh (· % 3 != 1))
      [.connect false true, .write .insert 2, .queryS 1 2, .connect false false, .disconnect] :=
    ⟨.inl rfl, fun _ _ ↦ rfl, trivial, .inl rfl, trivial, trivial⟩
  exact accounted_of_meets hmeets _ List.prefix_rfl

/-- A statement that was not prepared, and a connection that another was stored over. -/
theorem not_accounted :
    (¬ ∀ outcomes ops, Accounted (List.foldl (step .mysql) (fresh outcomes) ops)) ∧
    (¬ ∀ outcomes ops, Accounted (List.foldl (step .sqlite) (fresh outcomes) ops)) ∧
    ¬ ∀ outcomes ops, Accounted (List.foldl (step .postgresql) (fresh outcomes) ops) := by
  refine ⟨fun h ↦ ?_, fun h ↦ ?_, fun h ↦ ?_⟩
  · have hlost := (h (· != 4) [.connect false false, .write .insert 1]).statements
    exact absurd hlost (by decide)
  · have hlost := (h (fun _ ↦ true) [.connect false false, .connect false false]).connections _
      List.prefix_rfl
    exact absurd hlost (by decide)
  · have hlost := (h (fun _ ↦ true) [.connect false false, .connect false false]).connections _
      List.prefix_rfl
    exact absurd hlost (by decide)

end Handle

end Ormpp
