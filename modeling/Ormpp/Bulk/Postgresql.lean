import Ormpp.Bulk.Action

/-!
# Bulk operations on PostgreSQL

`postgresql::insert_or_update_impl` for a vector, which prepares its statement in the transaction.
Every call goes through a `guard_statment`, which resets the error and then stores the one of the
result.
-/

namespace Ormpp

namespace Bulk

open Traced

namespace Postgresql

variable {α : Type}

/-- A result that is neither `PGRES_COMMAND_OK` nor `PGRES_TUPLES_OK`, with its
`PQresultErrorMessage`. A null pointer has none. -/
structure Failure where
  message : Option Bytes
  ended : Bool
  deriving DecidableEq

/-- The result of a prepared statement. -/
inductive Result
  | commandOk
  /-- The first field of the first row, as `strtoull` reads it. -/
  | tuplesOk (value : ℕ)
  | failed (failure : Failure)
  deriving DecidableEq

/-- The results of the calls. Only a prepared statement returns tuples. -/
structure Answers where
  begin : Option Failure := none
  prepare : Option Failure := none
  /-- Whether the statement has parameters. -/
  hasParameters : Bool := true
  row : ℕ → Result := fun _ ↦ .commandOk
  rollback : Option Failure := none
  commit : Option Failure := none

/-- What a `guard_statment` does to the error. -/
def guardStatment : Option Failure → List (Action α)
  | none => [.resetError]
  | some failure => .resetError :: failure.message.toList.map .setLastError

/-- A call that returns `false` unless its result is `PGRES_COMMAND_OK`. Its caller returns then. -/
def guarded (statement : Verdict → Action α) : Option Failure → Traced (Action α) Unit
  | none => emit (statement .accepted :: guardStatment none)
  | some failure => leave (statement (.refused failure.ended) :: guardStatment (some failure))

theorem guarded_of_value {statement : Verdict → Action α} {answer : Option Failure}
    (h : (guarded statement answer).2 = some ()) :
    answer = none ∧ (guarded statement answer).1 = [statement .accepted, .resetError] := by
  cases answer with
  | none => exact ⟨rfl, rfl⟩
  | some failure => exact absurd h nofun

theorem guarded_of_left {statement : Verdict → Action α} {answer : Option Failure}
    (h : (guarded statement answer).2 = none) :
    ∃ failure, answer = some failure ∧ (guarded statement answer).1
      = statement (.refused failure.ended) :: guardStatment (some failure) := by
  cases answer with
  | none => exact absurd h nofun
  | some failure => exact ⟨failure, rfl, rfl⟩

/-- `begin`. -/
def begin (a : Answers) : Traced (Action α) Unit := guarded .begin a.begin

/-- `prepare`. -/
def prepare (a : Answers) : Traced (Action α) Unit := guarded .prepare a.prepare

/-- `commit`. -/
def commit (a : Answers) : Traced (Action α) Unit := guarded .commit a.commit

/-- `rollback`, whose result is not used. -/
def rollback (a : Answers) : Traced (Action α) Unit :=
  emit (.rollback :: guardStatment a.rollback)

/-- `stmt_execute`. -/
def stmtExecute (a : Answers) (k : ℕ) (item : α) : Traced (Action α) (Option ℕ) :=
  if !a.hasParameters then pure none
  else
    match a.row k with
    | .tuplesOk value => do
      emit (.row item .accepted :: guardStatment none)
      pure (some value)
    | .commandOk => do
      emit (.row item .accepted :: guardStatment none)
      pure (some 1)
    | .failed failure => do
      emit (.row item (.refused failure.ended) :: guardStatment (some failure))
      pure none

/-- The body of the loop. -/
def body (a : Answers) (transaction : Bool) (k : ℕ) (item : α) (_ : ℕ) : Traced (Action α) ℕ := do
  match ← stmtExecute a k item with
  | none => do
    when transaction (rollback a)
    leave []
  | some value => pure value

/-- `insert_or_update_impl`. -/
def insertOrUpdateImpl (a : Answers) (transaction : Bool) (v : List α) (getInsertId : Bool) :
    Traced (Action α) ℤ := do
  let res ← bracket transaction (begin a) (commit a) do
    prepare a
    forEach (body a transaction) 0 v 0
  pure (if getInsertId then (res : ℤ) else castInt v.length)

def run (a : Answers) (transaction : Bool) (op : Operation) (v : List α) : List (Action α) × ℤ :=
  op.run fun _ ↦ insertOrUpdateImpl a transaction v

/-! ## The loop -/

def taken (a : Answers) (k : ℕ) : Bool :=
  a.hasParameters &&
    match a.row k with
    | .commandOk | .tuplesOk _ => true
    | .failed _ => false

section Body

variable {a : Answers} {k : ℕ} {item : α} {res : ℕ}

theorem body_of_taken {transaction : Bool} (h : taken a k = true) :
    ∃ value, body a transaction k item res = ([.row item .accepted, .resetError], some value) := by
  rw [taken, Bool.and_eq_true] at h
  obtain ⟨hparameters, hrow⟩ := h
  simp only [body, stmtExecute, hparameters]
  cases hresult : a.row k with
  | commandOk => exact ⟨1, rfl⟩
  | tuplesOk value => exact ⟨value, rfl⟩
  | failed failure =>
    rw [hresult] at hrow
    exact absurd hrow Bool.false_ne_true

theorem stmtExecute_of_not_taken (h : taken a k = false) :
    stmtExecute a k item = ((stmtExecute a k item).1, some none) := by
  apply eq_of_snd
  rw [stmtExecute]
  cases hparameters : a.hasParameters with
  | false => rfl
  | true =>
    rw [taken, hparameters, Bool.true_and] at h
    cases hresult : a.row k with
    | commandOk | tuplesOk _ =>
      rw [hresult] at h
      exact absurd h.symm Bool.false_ne_true
    | failed failure => rfl

/-- An item that is not taken is rolled back with the items before it. -/
theorem body_of_refused (h : taken a k = false) :
    body a true k item res = ((stmtExecute a k item).1 ++ (rollback a).1, none) := by
  rw [body, bind_of_value (stmtExecute_of_not_taken h)]
  refine Prod.ext ?_ rfl
  change _ ++ ((rollback a).1 ++ []) = _
  rw [List.append_nil]

end Body

section Loop

variable {a : Answers} {v : List α}

/-- The items are executed, each under its `guard_statment`. -/
def guardedRows (v : List α) : List (Action α) :=
  v.flatMap fun item ↦ [.row item .accepted, .resetError]

theorem loop_of_taken {transaction : Bool} (h : ∀ k < v.length, taken a k = true) :
    ∃ res, forEach (body a transaction) 0 v 0 = (guardedRows v, some res) :=
  forEach_of_taken (fun k _ ↦ taken a k) (fun _ _ _ hk ↦ body_of_taken hk) h

theorem loop_of_firstRefused {n : ℕ} (h : FirstRefused (fun k _ ↦ taken a k) v n) :
    forEach (body a true) 0 v 0
      = (guardedRows (v.take n) ++ ((stmtExecute a n h.item).1 ++ (rollback a).1), none) := by
  have hloop : ∃ res, forEach (body a true) 0 v 0
      = ((v.take n).flatMap (fun item ↦ [.row item .accepted, .resetError])
        ++ (body a true n h.item res).1, none) :=
    forEach_of_firstRefused (fun _ _ _ hk ↦ body_of_taken hk) h
      fun item res hn ↦ congrArg Prod.snd (body_of_refused hn)
  obtain ⟨res, hleft⟩ := hloop
  rw [hleft, body_of_refused h.refused, guardedRows]

end Loop

/-! ## The ways through the operation -/

/-- The ways through `insert_or_update_impl` in a transaction, for the given value at its end. -/
inductive Path (a : Answers) (v : List α) (value : ℕ → ℤ) : Traced (Action α) ℤ → Prop
  | notBegun (failure : Failure) (hbegin : a.begin = some failure) :
    Path a v value (leave (.begin (.refused failure.ended) :: guardStatment (some failure)))
  | unprepared (failure : Failure) (hbegin : a.begin = none) (hprepare : a.prepare = some failure) :
    Path a v value (leave (.begin .accepted :: .resetError :: .prepare (.refused failure.ended) ::
      guardStatment (some failure)))
  | left (n : ℕ) (hbegin : a.begin = none) (hprepare : a.prepare = none)
    (hfirst : FirstRefused (fun k _ ↦ taken a k) v n) :
    Path a v value (leave (.begin .accepted :: .resetError :: .prepare .accepted :: .resetError ::
      (guardedRows (v.take n) ++ ((stmtExecute a n hfirst.item).1 ++ (rollback a).1))))
  | notCommitted (failure : Failure) (hbegin : a.begin = none) (hprepare : a.prepare = none)
    (htaken : ∀ k < v.length, taken a k = true) (hcommit : a.commit = some failure) :
    Path a v value (leave (.begin .accepted :: .resetError :: .prepare .accepted :: .resetError ::
      (guardedRows v ++ (.commit (.refused failure.ended) :: guardStatment (some failure)))))
  | done (res : ℕ) (hbegin : a.begin = none) (hprepare : a.prepare = none)
    (htaken : ∀ k < v.length, taken a k = true) (hcommit : a.commit = none) :
    Path a v value (.begin .accepted :: .resetError :: .prepare .accepted :: .resetError ::
      (guardedRows v ++ [.commit .accepted, .resetError]), some (value res))

/-- The work between `begin` and `commit`. -/
def work (a : Answers) (v : List α) : Traced (Action α) ℕ := do
  prepare a
  forEach (body a true) 0 v 0

/-- The ways through the work. -/
inductive Work (a : Answers) (v : List α) : Traced (Action α) ℕ → Prop
  | unprepared (failure : Failure) (hprepare : a.prepare = some failure) :
    Work a v (leave (.prepare (.refused failure.ended) :: guardStatment (some failure)))
  | left (n : ℕ) (hprepare : a.prepare = none) (hfirst : FirstRefused (fun k _ ↦ taken a k) v n) :
    Work a v (leave (.prepare .accepted :: .resetError ::
      (guardedRows (v.take n) ++ ((stmtExecute a n hfirst.item).1 ++ (rollback a).1))))
  | done (res : ℕ) (hprepare : a.prepare = none) (htaken : ∀ k < v.length, taken a k = true) :
    Work a v (.prepare .accepted :: .resetError :: guardedRows v, some res)

theorem work_cases (a : Answers) (v : List α) : Work a v (work a v) := by
  rw [work, prepare]
  cases hprepare : a.prepare with
  | some failure => exact .unprepared failure hprepare
  | none =>
    rw [bind_of_value (rfl : guarded _ none = (_, some ()))]
    rcases taken_or_firstRefused (fun k _ ↦ taken a k) v with htaken | ⟨n, hfirst⟩
    · have hloop : ∃ res, forEach (body a true) 0 v 0 = (guardedRows v, some res) :=
        loop_of_taken htaken
      obtain ⟨res, hdone⟩ := hloop
      rw [hdone]
      exact .done res hprepare htaken
    · rw [loop_of_firstRefused hfirst]
      exact .left n hprepare hfirst

theorem path (a : Answers) (v : List α) (getInsertId : Bool) :
    Path a v (fun res ↦ if getInsertId then (res : ℤ) else castInt v.length)
      (insertOrUpdateImpl a true v getInsertId) := by
  rw [insertOrUpdateImpl, bind_pure]
  generalize (fun res : ℕ ↦ if getInsertId then (res : ℤ) else castInt v.length) = value
  have hexit := exit_of_bracket (begin a) (commit a) (work a v)
  have hcases := work_cases a v
  change Path a v value ((bracket true (begin a) (commit a) (work a v)).1,
    (bracket true (begin a) (commit a) (work a v)).2.map value)
  generalize bracket true (begin a) (commit a) (work a v) = x at hexit ⊢
  generalize work a v = y at hexit hcases
  cases hexit with
  | notBegun hbegin =>
    obtain ⟨failure, hrefused, hactions⟩ := guarded_of_left hbegin
    rw [begin, hactions]
    exact .notBegun failure hrefused
  | left hbegin hwork =>
    obtain ⟨hbegun, hactions⟩ := guarded_of_value hbegin
    rw [begin, hactions]
    cases hcases with
    | unprepared failure hprepare => exact .unprepared failure hbegun hprepare
    | left n hprepare hfirst => exact .left n hbegun hprepare hfirst
    | done res hprepare htaken => exact absurd hwork nofun
  | notCommitted res hbegin hwork hcommit =>
    obtain ⟨hbegun, hactions⟩ := guarded_of_value hbegin
    obtain ⟨failure, hrefused, hcommitted⟩ := guarded_of_left hcommit
    rw [begin, commit, hactions, hcommitted]
    cases hcases with
    | unprepared | left => exact absurd hwork nofun
    | done res' hprepare htaken =>
      exact .notCommitted failure hbegun hprepare htaken hrefused
  | done res hbegin hwork hcommit =>
    obtain ⟨hbegun, hactions⟩ := guarded_of_value hbegin
    obtain ⟨haccepted, hcommitted⟩ := guarded_of_value hcommit
    rw [begin, commit, hactions, hcommitted]
    cases hcases with
    | unprepared | left => exact absurd hwork nofun
    | done res' hprepare htaken =>
      exact .done res hbegun hprepare htaken haccepted

/-- The ways through an operation that returns the number of items. -/
theorem path_of_count (a : Answers) (v : List α) :
    Path a v (fun _ ↦ castInt v.length) (insertOrUpdateImpl a true v false) := by
  have hpath := path a v false
  simp only [Bool.false_eq_true, if_false] at hpath
  exact hpath

theorem run_actions {op : Operation} (h : op ≠ .update false) (a : Answers) (v : List α) :
    ∃ getInsertId, (run a true op v).1 = (insertOrUpdateImpl a true v getInsertId).1 :=
  Operation.run_actions h

end Postgresql

end Bulk

end Ormpp
