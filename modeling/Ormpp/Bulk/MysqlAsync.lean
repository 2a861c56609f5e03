import Ormpp.Bulk.Action

/-!
# Bulk operations on asynchronous MySQL

The bulk operations of `mysql_async` are two coroutines with the same loop. An item is written into
the text of its statement, which may throw, and an exception is caught outside the loop. A statement
that fails is reported as `false`, whatever the server has done with it.
-/

namespace Ormpp

namespace Bulk

open Traced

namespace MysqlAsync

variable {α : Type}

/-- An exception while a statement is sent or its response is read. The server may have executed
it. -/
structure Failure where
  what : Bytes
  verdict : Verdict
  deriving DecidableEq

/-- A response is given by the `last_affect_rows_` that it sets. -/
structure Answers where
  begin : Except Failure ℤ := .ok 0
  row : ℕ → Except Failure ℤ := fun _ ↦ .ok 1
  rollback : Except Failure ℤ := .ok 0
  commit : Except Failure ℤ := .ok 0
  lastInsertId : ℕ := 1

/-- `execute`, with the affected rows where it returns `true`. -/
def execute (statement : Verdict → Action α) : Except Failure ℤ → Traced (Action α) (Option ℤ)
  | .ok affected => do
    emit [statement .accepted]
    pure (some affected)
  | .error failure => do
    emit [statement failure.verdict, .setLastError failure.what]
    pure none

/-- A call of `begin` or `commit`, whose caller returns where it is `false`. -/
def required (statement : Verdict → Action α) (answer : Except Failure ℤ) :
    Traced (Action α) Unit := do
  match ← execute statement answer with
  | some _ => pure ()
  | none => leave []

/-- `rollback`, whose result is not used. -/
def rollback (a : Answers) : Traced (Action α) Unit := do
  let _ ← execute (fun _ ↦ .rollback) a.rollback
  pure ()

/-- The body of the loop. The handler of the coroutine stores the exception of
`format_struct_sql`. -/
def body (a : Answers) (format : ℕ → α → Except String Bytes) (opens : Bool) (k : ℕ) (item : α)
    (affected : ℤ) : Traced (Action α) ℤ :=
  match format k item with
  | .error what => leave [.setLastError (ascii what)]
  | .ok _ => do
    match ← execute (.row item) (a.row k) with
    | some rows => pure (affected + rows)
    | none => do
      when opens (rollback a)
      leave []

/-- The loop that `insert_impl` and `update` have in common. -/
def executeEach (a : Answers) (format : ℕ → α → Except String Bytes) (transaction : Bool)
    (v : List α) : Traced (Action α) ℤ :=
  let opens := transaction && !v.isEmpty
  bracket opens (required .begin a.begin) (required .commit a.commit)
    (forEach (body a format opens) 0 v 0)

/-- `insert`, `replace`, `update` and `get_insert_id_after_insert`, where `format` is
`format_struct_sql` for the statement of the operation and the item at a position. -/
def run (a : Answers) (format : ℕ → α → Except String Bytes) (transaction : Bool) :
    Operation → List α → List (Action α) × ℤ
  | .insert, v | .replace, v | .update true, v =>
    valueOr intMin (executeEach a format transaction v)
  | .update false, _ => ([.setLastError updateRequiresKey], intMin)
  | .getInsertIdAfterInsert, v =>
    let (actions, count) := valueOr intMin (executeEach a format transaction v)
    (actions, if count = intMin then 0 else a.lastInsertId)

/-! ## The loop -/

/-- The item is formatted, and its statement executed. -/
def taken (a : Answers) (format : ℕ → α → Except String Bytes) (k : ℕ) (item : α) : Bool :=
  (format k item).isOk && (a.row k).isOk

theorem rollback_eq (a : Answers) :
    (rollback a : Traced (Action α) Unit) = ((rollback (α := α) a).1, some ()) := by
  apply eq_of_snd
  rw [rollback]
  cases a.rollback <;> rfl

section Body

variable {a : Answers} {format : ℕ → α → Except String Bytes} {opens : Bool} {k : ℕ} {item : α}
  {affected : ℤ}

theorem body_of_taken (h : taken a format k item = true) :
    ∃ affected', body a format opens k item affected = ([.row item .accepted], some affected') := by
  rw [taken, Bool.and_eq_true] at h
  obtain ⟨hformat, hrow⟩ := h
  rw [body]
  cases hformatted : format k item with
  | error what =>
    rw [hformatted] at hformat
    exact absurd hformat Bool.false_ne_true
  | ok formatted =>
    cases hanswer : a.row k with
    | error failure =>
      rw [hanswer] at hrow
      exact absurd hrow Bool.false_ne_true
    | ok rows => exact ⟨affected + rows, rfl⟩

/-- An item that cannot be formatted ends the loop where it stands. -/
theorem body_of_throw {what : String} (h : format k item = .error what) :
    body a format opens k item affected = ([.setLastError (ascii what)], none) := by
  rw [body, h]
  rfl

theorem body_of_refused {formatted : Bytes} {failure : Failure}
    (hformat : format k item = .ok formatted)
    (h : a.row k = .error failure) :
    body a format true k item affected
      = ([.row item failure.verdict, .setLastError failure.what] ++ (rollback a).1, none) := by
  have hexecute : execute (.row item) (a.row k)
      = ([.row item failure.verdict, .setLastError failure.what], some none) := by
    rw [h]
    rfl
  have hleave :
      (rollback a >>= fun _ ↦ leave [] : Traced (Action α) ℤ) = ((rollback a).1, none) := by
    rw [bind_of_value (rollback_eq a)]
    exact Prod.ext (List.append_nil _) rfl
  rw [body, hformat]
  change execute (.row item) (a.row k) >>= _ = _
  rw [bind_of_value hexecute]
  exact congrArg (fun x : Traced (Action α) ℤ ↦
    ((.row item failure.verdict :: .setLastError failure.what :: x.1, x.2) : Traced (Action α) ℤ))
    hleave

end Body

theorem required_of_value {statement : Verdict → Action α} {answer : Except Failure ℤ}
    (h : (required statement answer).2 = some ()) :
    (∃ affected, answer = .ok affected) ∧
      (required statement answer).1 = [statement .accepted] := by
  cases answer with
  | ok affected => exact ⟨⟨affected, rfl⟩, rfl⟩
  | error failure => exact absurd h nofun

theorem required_of_left {statement : Verdict → Action α} {answer : Except Failure ℤ}
    (h : (required statement answer).2 = none) :
    ∃ failure, answer = .error failure ∧ (required statement answer).1
      = [statement failure.verdict, .setLastError failure.what] := by
  cases answer with
  | ok affected => exact absurd h nofun
  | error failure => exact ⟨failure, rfl, rfl⟩

section Loop

variable {a : Answers} {format : ℕ → α → Except String Bytes} {v : List α}

theorem loop_of_taken (h : ∀ k (hk : k < v.length), taken a format k v[k] = true) :
    ∃ affected, forEach (body a format true) 0 v 0 = (rows v, some affected) :=
  forEach_of_taken (taken a format) (fun _ _ _ hk ↦ body_of_taken hk) h

/-- What the body does for the first item that is not taken. -/
theorem body_of_not_taken {k : ℕ} {item : α} (h : taken a format k item = false) (affected : ℤ) :
    (∃ what, format k item = .error what ∧
      body a format true k item affected = ([.setLastError (ascii what)], none)) ∨
    ∃ formatted failure, format k item = .ok formatted ∧ a.row k = .error failure ∧
      body a format true k item affected
        = ([.row item failure.verdict, .setLastError failure.what] ++ (rollback a).1, none) := by
  cases hformat : format k item with
  | error what => exact Or.inl ⟨what, rfl, body_of_throw hformat⟩
  | ok formatted =>
    right
    cases hrow : a.row k with
    | error failure => exact ⟨formatted, failure, rfl, rfl, body_of_refused hformat hrow⟩
    | ok rows =>
      rw [taken, hformat, hrow] at h
      exact absurd h.symm Bool.false_ne_true

theorem left_of_not_taken {k : ℕ} {item : α} (h : taken a format k item = false) (affected : ℤ) :
    (body a format true k item affected).2 = none := by
  rcases body_of_not_taken h affected with ⟨what, -, hbody⟩ | ⟨_, _, -, -, hbody⟩
  · exact congrArg Prod.snd hbody
  · exact congrArg Prod.snd hbody

theorem loop_of_firstRefused {n : ℕ} (h : FirstRefused (taken a format) v n) :
    ∃ affected, forEach (body a format true) 0 v 0
      = (rows (v.take n) ++ (body a format true n h.item affected).1, none) := by
  exact forEach_of_firstRefused (fun _ _ _ hk ↦ body_of_taken hk) h
    fun _ affected hn ↦ left_of_not_taken hn affected

theorem taken_iff :
    (∃ affected, (forEach (body a format true) 0 v 0).2 = some affected)
      ↔ ∀ k (hk : k < v.length), taken a format k v[k] = true := by
  rw [← Option.isSome_iff_exists]
  exact isSome_forEach_iff (taken a format) (fun _ _ _ hk ↦ body_of_taken hk)
    fun _ _ affected hk ↦ left_of_not_taken hk affected

end Loop

end MysqlAsync

end Bulk

end Ormpp
