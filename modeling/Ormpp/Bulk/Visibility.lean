import Ormpp.Bulk.Mysql
import Ormpp.Bulk.Postgresql
import Ormpp.Bulk.Sqlite

/-!
# Which error is left

An operation that fails stores the error of the call that made it fail, and then cleans up: it rolls
back, which resets the error and may store another, and it closes its statement, which may store
one more. What is left at the end is the outcome of the last of these.
-/

namespace Ormpp

namespace Bulk

open Traced

variable {α : Type}

/-! ## The slot -/

namespace Report

/-- The slot with the error that was stored last, if any since it was reset. -/
def of : Option Bytes → Report
  | none => clear
  | some text => ⟨true, text⟩

/-- There is such an error, and the slot holds it. -/
def Shows (r : Report) (error : Option Bytes) : Prop := ∃ text, error = some text ∧ r = ⟨true, text⟩

theorem shows_of {stored error : Option Bytes} :
    (of stored).Shows error ↔ error ≠ none ∧ stored = error := by
  cases error with
  | none =>
    apply iff_of_false
    · rintro ⟨text, h, -⟩
      cases h
    · intro h
      exact h.1 rfl
  | some text =>
    constructor
    · rintro ⟨text', h, hof⟩
      cases h
      cases stored with
      | none => cases hof
      | some text' =>
        cases hof
        exact ⟨nofun, rfl⟩
    · rintro ⟨-, rfl⟩
      exact ⟨text, rfl, rfl⟩

theorem after_append (r : Report) (actions later : List (Action α)) :
    r.after (actions ++ later) = (r.after actions).after later :=
  List.foldl_append

theorem after_rollback (r : Report) (answer : Option Bytes) :
    r.after (rollback (α := α) answer).1 = of answer := by
  cases answer <;> rfl

/-- What is left after the statement is closed. -/
def closed (status : ℤ) (stored : Option Bytes) : Option Bytes :=
  if status ≠ 0 then some (closeError status) else stored

theorem after_closeStatement (status : ℤ) (stored : Option Bytes) :
    (of stored).after (closeStatement (α := α) status) = of (closed status stored) := by
  rw [closeStatement, closed]
  split <;> rfl

end Report

/-- The call that makes an operation fail. -/
inductive Point
  | key
  | prepare
  | begin
  | row (n : ℕ)
  | commit
  deriving DecidableEq

/-! ## Operations with a statement handle -/

/-- The call that fails first, of those that are made one after the other. -/
def firstFailing (prepare begin : Bool) (row : Option ℕ) (commit : Bool) : Option Point :=
  if prepare then some .prepare
  else if begin then some .begin
  else
    match row with
    | some n => some (.row n)
    | none => if commit then some .commit else none

/-- The error of the call is what is left, where `close` is the status of the closed statement and
`cleanUp` what an item leaves that is not taken. -/
def Survives (close : ℤ) (error : Point → Option Bytes) (cleanUp : ℕ → Option Bytes) : Point → Prop
  | .key | .prepare => True
  | .begin => close ≠ 0 → error .begin = some (closeError close)
  | .commit => close ≠ 0 → error .commit = some (closeError close)
  | .row n => error (.row n) ≠ none ∧ cleanUp n = error (.row n)

theorem shows_closed {status : ℤ} {text : Bytes} :
    ((Report.of (some text)).after (closeStatement (α := α) status)).Shows (some text)
      ↔ (status ≠ 0 → some text = some (closeError status)) := by
  rw [Report.after_closeStatement, Report.shows_of, Report.closed]
  split
  · next hstatus =>
    constructor
    · rintro ⟨-, h⟩ -
      exact h.symm
    · intro h
      exact ⟨nofun, (h hstatus).symm⟩
  · next hstatus => exact iff_of_true ⟨nofun, rfl⟩ fun h ↦ absurd h hstatus

section Path

variable {prepare loop : Traced (Action α) Unit} {close value : ℤ} {begin commit : Option Refusal}
  {x : Traced (Action α) ℤ} {error : Point → Option Bytes} {cleanUp : ℕ → Option Bytes}
  {row : Option ℕ} {r : Report}

/-- What is left on each way through an operation. -/
theorem shows_of_path (hpath : Path prepare close begin commit loop value x)
    (hprepare : prepare.2 = none → (r.after prepare.1).Shows (error .prepare))
    (hbegin : error .begin = begin.map Refusal.message)
    (hleft : loop.2 = none → ∃ n, row = some n ∧ ∀ r : Report,
      (r.after loop.1).after (closeStatement (α := α) close) = Report.of (cleanUp n))
    (hdone : loop.2 = some () → row = none)
    (hcommit : error .commit = commit.map Refusal.message) :
    ((valueOr intMin x).2 = intMin → (r.after (valueOr intMin x).1).Shows
        ((firstFailing prepare.2.isNone begin.isSome row commit.isSome).bind error))
      ↔ match firstFailing prepare.2.isNone begin.isSome row commit.isSome with
        | some p => Survives close error cleanUp p
        | none => value ≠ intMin := by
  cases hpath with
  | unprepared hrefused =>
    rw [hrefused]
    exact iff_of_true (fun _ ↦ hprepare hrefused) trivial
  | notBegun refusal hprepared hrefused =>
    rw [hprepared, hrefused, valueOr_leave, imp_iff_right rfl, Report.after_append]
    change ((Report.of (some refusal.message)).after (closeStatement close)).Shows (error .begin)
      ↔ (_ → error .begin = _)
    rw [hbegin, hrefused]
    exact shows_closed
  | left hprepared hbegun hloop =>
    obtain ⟨n, hrow, hreport⟩ := hleft hloop
    rw [hprepared, hbegun, hrow, valueOr_leave, imp_iff_right rfl, Report.after_append]
    change (Report.after _ (loop.1 ++ closeStatement close)).Shows (error (.row n)) ↔ _
    rw [Report.after_append, hreport, Report.shows_of]
    rfl
  | notCommitted refusal hprepared hbegun hloop hrefused =>
    rw [hprepared, hbegun, hdone hloop, hrefused, valueOr_leave, imp_iff_right rfl,
      Report.after_append]
    change (Report.after _ (_ ++ .resetError :: _ :: .setLastError refusal.message :: _)).Shows
      (error .commit) ↔ (_ → error .commit = _)
    rw [Report.after_reset, hcommit, hrefused]
    exact shows_closed
  | done hprepared hbegun hloop hcommitted =>
    rw [hprepared, hbegun, hdone hloop, hcommitted, valueOr_some]
    constructor
    · intro h hvalue
      obtain ⟨text, hnone, -⟩ := h hvalue
      cases hnone
    · intro h hvalue
      exact absurd hvalue h

end Path

/-! ## SQLite -/

namespace Sqlite

variable {a : Answers} {type : OptType} {v : List α}

/-- The call that fails first. -/
def failing (a : Answers) (op : Operation) (v : List α) : Option Point :=
  if op = .update false then some .key
  else
    firstFailing a.prepare.isSome a.begin.isSome
      (firstRefused (fun k _ ↦ (a.row k).taken op.type) v) a.commit.isSome

/-- The error of an item. There is none where the item is not inserted. -/
def Row.error (r : Row) (type : OptType) : Option Bytes :=
  r.bind <|> r.step.map Refusal.message <|> if r.executed type then r.reset else none

/-- The error of the call. -/
def error (a : Answers) (type : OptType) : Point → Option Bytes
  | .key => some updateRequiresKey
  | .prepare => a.prepare
  | .begin => a.begin.map Refusal.message
  | .row n => (a.row n).error type
  | .commit => a.commit.map Refusal.message

/-- What the rollback and the end of the statement store after an item that is not taken. -/
def cleanUp (a : Answers) (type : OptType) (n : ℕ) : Option Bytes :=
  Report.closed a.finalize
    (if (a.row n).executed type then some (a.rollback.getD a.errmsg) else a.rollback)

/-- The operation shows its failure: its error is left, and it does not return the number of items
where that is the value of a failure. -/
def ShowsFailure (a : Answers) (op : Operation) (v : List α) : Prop :=
  match failing a op v with
  | some p => Survives a.finalize (error a op.type) (cleanUp a op.type) p
  | none => castInt v.length ≠ intMin

theorem report_loop {n : ℕ} (hfirst : FirstRefused (fun k _ ↦ (a.row k).taken type) v n)
    (r : Report) :
    (r.after (forEach (body a true type) 0 v ()).1).after (closeStatement (α := α) a.finalize)
      = Report.of (cleanUp a type n) := by
  rw [loop_of_firstRefused hfirst, Report.after_append, Report.after_append, Report.after_append,
    Report.after_rollback, cleanUp, ← Report.after_closeStatement (α := α)]
  congr 1
  rw [Row.late]
  split
  · next hexecuted =>
    have hreset : (a.row n).reset.isSome = true := by
      have hrefused : (a.row n).taken type = false := hfirst.refused
      rw [Row.taken, hexecuted, Bool.true_and] at hrefused
      exact Option.isNone_eq_false_iff.mp hrefused
    obtain ⟨message, hmessage⟩ := Option.isSome_iff_exists.mp hreset
    rw [hmessage]
    rfl
  · rfl

theorem prepare_isNone : (prepare (α := α) a).2.isNone = a.prepare.isSome := by
  rw [prepare]
  cases a.prepare <;> rfl

theorem shows_iff {op : Operation} (hid : op ≠ .getInsertIdAfterInsert) (r : Report) :
    ((run a true op v).2 = intMin →
        (r.after (run a true op v).1).Shows ((failing a op v).bind (error a op.type)))
      ↔ ShowsFailure a op v := by
  by_cases hkey : op = .update false
  · subst hkey
    exact iff_of_true (fun _ ↦ ⟨updateRequiresKey, rfl, rfl⟩) trivial
  rw [run, Operation.run_of_keyed hkey hid, ShowsFailure, failing, if_neg hkey,
    ← prepare_isNone (α := α)]
  apply shows_of_path (path_of_count a v op.type)
  · intro hprepare
    rw [prepare] at hprepare ⊢
    cases hmessage : a.prepare with
    | none =>
      rw [hmessage] at hprepare
      cases hprepare
    | some message => exact ⟨message, hmessage, rfl⟩
  · rfl
  · intro hleft
    obtain ⟨n, hfirst⟩ := firstRefused_of_left hleft
    exact ⟨n, firstRefused_eq_some.mpr hfirst, report_loop hfirst⟩
  · intro hdone
    exact firstRefused_eq_none.mpr (taken_iff.mp hdone)
  · rfl

end Sqlite

/-! ## MySQL -/

namespace Mysql

variable {a : Answers} {type : OptType} {v : List α}

/-- The call that fails first. -/
def failing (a : Answers) (op : Operation) (v : List α) : Option Point :=
  if op = .update false then some .key
  else
    firstFailing (a.init.isSome || a.prepare.isSome) a.begin.isSome
      (firstRefused (fun k _ ↦ (a.row k).taken op.type) v) a.commit.isSome

/-- The error of an item. There is none where the item is not inserted. -/
def Row.error (r : Row) : Option Bytes := r.bindParam <|> r.execute.map Refusal.message

/-- The error of the call. -/
def error (a : Answers) : Point → Option Bytes
  | .key => some updateRequiresKey
  | .prepare => a.init <|> a.prepare.map Refusal.message
  | .begin => a.begin.map Refusal.message
  | .row n => (a.row n).error
  | .commit => a.commit.map Refusal.message

/-- What the rollback and the end of the statement store after an item that is not taken. -/
def cleanUp (a : Answers) (_ : ℕ) : Option Bytes := Report.closed a.close a.rollback

/-- The operation shows its failure: its error is left, and it does not return the number of items
where that is the value of a failure. -/
def ShowsFailure (a : Answers) (op : Operation) (v : List α) : Prop :=
  match failing a op v with
  | some p => Survives a.close (error a) (cleanUp a) p
  | none => castInt v.length ≠ intMin

theorem report_loop {n : ℕ} (hfirst : FirstRefused (fun k _ ↦ (a.row k).taken type) v n)
    (r : Report) :
    (r.after (forEach (body a true type) 0 v ()).1).after (closeStatement (α := α) a.close)
      = Report.of (cleanUp a n) := by
  rw [loop_of_firstRefused hfirst, Report.after_append, Report.after_append, Report.after_rollback,
    Report.after_closeStatement, cleanUp]

theorem prepare_isNone : (prepare (α := α) a).2.isNone = (a.init.isSome || a.prepare.isSome) := by
  rw [prepare]
  cases a.init with
  | some message => rfl
  | none => cases a.prepare <;> rfl

theorem shows_prepare (hprepare : (prepare (α := α) a).2 = none) (r : Report) :
    (r.after (prepare (α := α) a).1).Shows (error a .prepare) := by
  rw [error]
  rw [prepare] at hprepare ⊢
  cases hinit : a.init with
  | some message => exact ⟨message, rfl, rfl⟩
  | none =>
    cases hrefusal : a.prepare with
    | none =>
      rw [hinit, hrefusal] at hprepare
      cases hprepare
    | some refusal => exact ⟨refusal.message, rfl, rfl⟩

theorem shows_iff {op : Operation} (hid : op ≠ .getInsertIdAfterInsert) (r : Report) :
    ((run a true op v).2 = intMin →
        (r.after (run a true op v).1).Shows ((failing a op v).bind (error a)))
      ↔ ShowsFailure a op v := by
  by_cases hkey : op = .update false
  · subst hkey
    exact iff_of_true (fun _ ↦ ⟨updateRequiresKey, rfl, rfl⟩) trivial
  rw [run, Operation.run_of_keyed hkey hid, ShowsFailure, failing, if_neg hkey,
    ← prepare_isNone (α := α)]
  apply shows_of_path (path_of_transaction a v op.type)
  · intro hprepare
    exact shows_prepare hprepare r
  · rfl
  · intro hleft
    obtain ⟨n, hfirst⟩ := firstRefused_of_left hleft
    exact ⟨n, firstRefused_eq_some.mpr hfirst, report_loop hfirst⟩
  · intro hdone
    exact firstRefused_eq_none.mpr (taken_iff.mp hdone)
  · rfl

end Mysql

/-! ## PostgreSQL -/

namespace Postgresql

variable {a : Answers} {v : List α}

/-- The call that fails first. -/
def failing (a : Answers) (op : Operation) (v : List α) : Option Point :=
  if op = .update false then some .key
  else if a.begin.isSome then some .begin
  else if a.prepare.isSome then some .prepare
  else
    match firstRefused (fun k _ ↦ taken a k) v with
    | some n => some (.row n)
    | none => if a.commit.isSome then some .commit else none

/-- The error of a result. There is none for a null pointer. -/
def messageOf (answer : Option Failure) : Option Bytes := answer.bind Failure.message

/-- The result of an item that is not taken. There is none for a statement without parameters. -/
def rowFailure (a : Answers) (n : ℕ) : Option Failure :=
  if a.hasParameters then
    match a.row n with
    | .failed failure => some failure
    | .commandOk | .tuplesOk _ => none
  else none

/-- The error of the call. -/
def error (a : Answers) : Point → Option Bytes
  | .key => some updateRequiresKey
  | .prepare => messageOf a.prepare
  | .begin => messageOf a.begin
  | .row n => messageOf (rowFailure a n)
  | .commit => messageOf a.commit

/-- The error of the call is what is left. After a rollback that is the error of the rollback. -/
def Survives (a : Answers) : Point → Prop
  | .row n => error a (.row n) ≠ none ∧ messageOf a.rollback = error a (.row n)
  | p => error a p ≠ none

/-- The operation shows its failure: its error is left, and it does not return the number of items
where that is the value of a failure. -/
def ShowsFailure (a : Answers) (op : Operation) (v : List α) : Prop :=
  match failing a op v with
  | some p => Survives a p
  | none => castInt v.length ≠ intMin

theorem report_guardStatment (r : Report) (answer : Option Failure) :
    r.after (guardStatment (α := α) answer) = Report.of (messageOf answer) := by
  rcases answer with _ | ⟨_ | message, ended⟩ <;> rfl

theorem shows_guardStatment (r : Report) (answer : Option Failure) :
    (r.after (guardStatment (α := α) answer)).Shows (messageOf answer)
      ↔ messageOf answer ≠ none := by
  rw [report_guardStatment, Report.shows_of, and_iff_left rfl]

theorem shows_iff {op : Operation} (hid : op ≠ .getInsertIdAfterInsert) (r : Report) :
    ((run a true op v).2 = intMin →
        (r.after (run a true op v).1).Shows ((failing a op v).bind (error a)))
      ↔ ShowsFailure a op v := by
  by_cases hkey : op = .update false
  · subst hkey
    exact iff_of_true (fun _ ↦ ⟨updateRequiresKey, rfl, rfl⟩) nofun
  rw [run, Operation.run_of_keyed hkey hid, ShowsFailure, failing, if_neg hkey]
  have hpath := path_of_count a v
  generalize hcount : castInt v.length = value at hpath
  generalize insertOrUpdateImpl a true v false = x at hpath ⊢
  cases hpath with
  | notBegun failure hbegin =>
    simp only [hbegin, Option.isSome_some, if_true]
    rw [valueOr_leave, imp_iff_right rfl]
    change (r.after (guardStatment (some failure))).Shows (messageOf a.begin)
      ↔ messageOf a.begin ≠ none
    rw [hbegin, shows_guardStatment]
  | unprepared failure hbegin hprepare =>
    simp only [hbegin, hprepare, Option.isSome_some, Option.isSome_none, Bool.false_eq_true,
      if_true, if_false]
    rw [valueOr_leave, imp_iff_right rfl]
    change (Report.clear.after (guardStatment (some failure))).Shows (messageOf a.prepare)
      ↔ messageOf a.prepare ≠ none
    rw [hprepare, shows_guardStatment]
  | left n hbegin hprepare hfirst =>
    simp only [hbegin, hprepare, firstRefused_eq_some.mpr hfirst, Option.isSome_none,
      Bool.false_eq_true, if_false]
    rw [valueOr_leave, imp_iff_right rfl]
    change (Report.clear.after (_ ++ (_ ++ .rollback :: guardStatment a.rollback))).Shows
      (error a (.row n)) ↔ _
    rw [Report.after_append, Report.after_append]
    change (Report.after _ (guardStatment a.rollback)).Shows (error a (.row n)) ↔ _
    rw [report_guardStatment, Report.shows_of]
    rfl
  | notCommitted failure hbegin hprepare htaken hcommit =>
    have hnone : firstRefused (fun k _ ↦ taken a k) v = none := firstRefused_eq_none.mpr htaken
    simp only [hbegin, hprepare, hnone, hcommit, Option.isSome_none, Option.isSome_some,
      Bool.false_eq_true, if_false, if_true]
    rw [valueOr_leave, imp_iff_right rfl]
    change (Report.clear.after (_ ++ .commit _ :: guardStatment (some failure))).Shows
      (messageOf a.commit) ↔ messageOf a.commit ≠ none
    rw [Report.after_append, hcommit]
    exact shows_guardStatment _ (some failure)
  | done res hbegin hprepare htaken hcommit =>
    have hnone : firstRefused (fun k _ ↦ taken a k) v = none := firstRefused_eq_none.mpr htaken
    simp only [hbegin, hprepare, hnone, hcommit, Option.isSome_none, Bool.false_eq_true, if_false]
    rw [valueOr_some]
    constructor
    · intro h hvalue
      obtain ⟨text, hshown, -⟩ := h hvalue
      cases hshown
    · intro h hvalue
      exact absurd hvalue h

end Postgresql

/-! ## All three -/

/-- A row that violates a constraint. On SQLite the closed statement has the last word, and on the
others the rollback has reset the error. -/
theorem error_lost :
    Report.clear.after
        (Sqlite.run
          { row := fun _ ↦ { step := some ⟨ascii "UNIQUE constraint failed: t.id", false⟩ }
            finalize := 19 }
          true .insert [()]).1 = ⟨true, ascii "close statment error code 19"⟩ ∧
      Report.clear.after
        (Mysql.run
          { row := fun _ ↦
              { execute := some ⟨ascii "Duplicate entry '1' for key 'PRIMARY'", false⟩ } }
          true .insert [()]).1 = .clear ∧
      Report.clear.after
        (Postgresql.run
          { row := fun _ ↦ .failed ⟨some (ascii "ERROR:  duplicate key value"), false⟩ }
          true .insert [()]).1 = .clear := by
  decide

/-- **Error visibility.** A bulk insert, replace or update with transactions enabled that returns
the value of a failure shows the error of the call that failed, exactly where the clean-up leaves
it. -/
theorem errorVisible_iff (op : Operation) (hid : op ≠ .getInsertIdAfterInsert) (v : List α)
    (r : Report) :
    (∀ a : Sqlite.Answers,
      ((Sqlite.run a true op v).2 = intMin → (r.after (Sqlite.run a true op v).1).Shows
        ((Sqlite.failing a op v).bind (Sqlite.error a op.type))) ↔ Sqlite.ShowsFailure a op v) ∧
    (∀ a : Mysql.Answers,
      ((Mysql.run a true op v).2 = intMin → (r.after (Mysql.run a true op v).1).Shows
        ((Mysql.failing a op v).bind (Mysql.error a))) ↔ Mysql.ShowsFailure a op v) ∧
    ∀ a : Postgresql.Answers,
      ((Postgresql.run a true op v).2 = intMin → (r.after (Postgresql.run a true op v).1).Shows
        ((Postgresql.failing a op v).bind (Postgresql.error a))) ↔ Postgresql.ShowsFailure a op v :=
  ⟨fun _ ↦ Sqlite.shows_iff hid r, fun _ ↦ Mysql.shows_iff hid r,
    fun _ ↦ Postgresql.shows_iff hid r⟩

/-- A table that does not exist is reported when the statement is prepared. -/
theorem errorVisible_iff_unprepared :
    (Report.clear.after
      (Mysql.run { prepare := some ⟨ascii "Table 'db.t' doesn't exist", false⟩ } true .insert
        [()]).1).Shows
        (some (ascii "Table 'db.t' doesn't exist")) :=
  ((errorVisible_iff .insert nofun [()] Report.clear).2.1
    { prepare := some ⟨ascii "Table 'db.t' doesn't exist", false⟩ }).mpr trivial rfl

end Bulk

end Ormpp
