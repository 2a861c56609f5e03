import Mathlib.Data.List.Induction

/-!
# Results that are complete

`query_s` and `query` fetch rows until a call gives none, and the two backends go on differently
from there. A guard closes the statement: that of SQLite reports what the last step has reported,
while that of MySQL reports only what goes wrong when it closes. So a fetch that fails is seen on
SQLite and is the end of the rows on MySQL; and a value that was cut is seen on neither.
-/

namespace Ormpp

namespace Fetch

/-! ## Fetching rows -/

/-- What the calls that fetch the rows of a result give, one after the other. -/
inductive Fetches (ρ Object : Type)
  | row (r : ρ) (next : Fetches ρ Object)
  /-- There are no more rows. -/
  | done
  /-- The call fails, and there are rows that have not been fetched. -/
  | failed (rest : List Object)

namespace Fetches

variable {ρ Object : Type}

def fetched : Fetches ρ Object → List ρ
  | row r next => r :: next.fetched
  | done | failed _ => []

def rest : Fetches ρ Object → List Object
  | row _ next => next.rest
  | done => []
  | failed rest => rest

def Fails : Fetches ρ Object → Prop
  | row _ next => next.Fails
  | done => False
  | failed _ => True

/-- All the rows of the result. -/
def result (whole : ρ → Object) (s : Fetches ρ Object) : List Object :=
  s.fetched.map whole ++ s.rest

/-- The loop over the rows, with the error slot that its body changes. Whatever ends it, it ends
without an error. -/
def loop (body : Bool → ρ → Object × Bool) : Bool → Fetches ρ Object → List Object × Bool
  | e, row r next =>
    let out := body e r
    let later := loop body out.2 next
    (out.1 :: later.1, later.2)
  | e, done => ([], e)
  | e, failed _ => ([], e)

theorem loop_eq (stored : ρ → Object) (slot : Bool → ρ → Bool) (e : Bool) (s : Fetches ρ Object) :
    s.loop (fun e r ↦ (stored r, slot e r)) e = (s.fetched.map stored, s.fetched.foldl slot e) := by
  induction s generalizing e with
  | row r next ih =>
    rw [loop, fetched, List.map_cons, List.foldl_cons, ih]
  | done => rfl
  | failed rest => rfl

/-- The objects are the whole result where no row is left over and none was cut. -/
theorem map_stored_eq_result_iff {stored whole : ρ → Object} {s : Fetches ρ Object} :
    s.fetched.map stored = s.result whole ↔
      s.rest = [] ∧ ∀ r ∈ s.fetched, stored r = whole r := by
  rw [result]
  constructor
  · intro h
    have hrest : s.rest = [] := by
      have hlength := congrArg List.length h
      rw [List.length_append, List.length_map, List.length_map] at hlength
      exact List.eq_nil_of_length_eq_zero (by omega)
    rw [hrest, List.append_nil] at h
    exact ⟨hrest, List.map_inj_left.mp h⟩
  · rintro ⟨hrest, hstored⟩
    rw [hrest, List.append_nil]
    exact List.map_inj_left.mpr hstored

theorem rest_eq_nil {s : Fetches ρ Object} (h : ¬ s.Fails) : s.rest = [] := by
  induction s with
  | row r next ih => exact ih h
  | done => rfl
  | failed rest => exact absurd trivial h

end Fetches

/-! ## The error slot -/

/-- `has_error_` behind `reset_error`. -/
def resetError (_ : Bool) : Bool := false

/-- `has_error_` behind `set_last_error`. -/
def setLastError (_ : Bool) : Bool := true

/-- `guard_statment` around the rest of the function. -/
def guardStatement {α : Type} (closed : Bool) (body : Bool → α × Bool) (e : Bool) : α × Bool :=
  let out := body (resetError e)
  (out.1, if closed then out.2 else setLastError out.2)

/-! ## MySQL -/

/-- A row that `mysql_stmt_fetch` gives. -/
structure MysqlRow (Object : Type) where
  /-- The call returns `MYSQL_DATA_TRUNCATED`, and otherwise zero. -/
  truncated : Bool
  /-- The calls of `mysql_stmt_fetch_column` for the lengths of blobs. -/
  lengths : List Bool
  /-- The object that has the values of the row. -/
  whole : Object
  /-- The object that is made of what is in the buffers. -/
  stored : Object
  kept : truncated = false → (∀ ok ∈ lengths, ok = true) → stored = whole

/-- The error slot behind `get_blob_len`, which resets it first. -/
def getBlobLen (e ok : Bool) : Bool := if ok then resetError e else setLastError e

/-- The calls of a query, and whether they succeed. -/
structure MysqlQuery (Object : Type) where
  init : Bool
  prepare : Bool
  metadata : Bool
  /-- True also where there are no arguments. -/
  bindParam : Bool
  bindResult : Bool
  execute : Bool
  fetches : Fetches (MysqlRow Object) Object
  close : Bool

namespace MysqlQuery

variable {Object : Type} (q : MysqlQuery Object)

/-- `query_s` and `query`: what is returned, and the error slot. -/
def run (e : Bool) : List Object × Bool :=
  if q.init then
    guardStatement q.close (fun e ↦
      if !q.prepare then ([], setLastError e)
      else if !q.metadata then ([], setLastError e)
      else if !q.bindParam then ([], setLastError e)
      else if !q.bindResult then ([], setLastError e)
      else if !q.execute then ([], setLastError e)
      else q.fetches.loop (fun e r ↦ (r.stored, r.lengths.foldl getBlobLen e)) e) e
  else ([], setLastError e)

/-- The calls for the lengths of blobs, over all the rows. -/
def lengths : List Bool := q.fetches.fetched.flatMap MysqlRow.lengths

/-- Every call but those that fetch succeeds. -/
structure Calls : Prop where
  init : q.init = true
  prepare : q.prepare = true
  metadata : q.metadata = true
  bindParam : q.bindParam = true
  bindResult : q.bindResult = true
  execute : q.execute = true
  close : q.close = true

/-- A call fails other than one that fetches, or the last one for the length of a blob does. -/
def Reports : Prop := ¬ q.Calls ∨ q.lengths.getLast? = some false

/-- No row is left over, and none was cut. -/
def FetchesAll : Prop := q.fetches.rest = [] ∧ ∀ r ∈ q.fetches.fetched, r.stored = r.whole

end MysqlQuery

/-! ## SQLite -/

/-- A row that `sqlite3_step` gives. The object that `assign` makes of it may have a text cut off at
the end of an array, or a number at the bits of an `int`. -/
structure SqliteRow (Object : Type) where
  whole : Object
  stored : Object

structure SqliteStatement (Object : Type) where
  steps : Fetches (SqliteRow Object) Object
  finalize : Bool
  /-- `sqlite3_finalize` returns the error of the last step. -/
  finalize_of_fails : steps.Fails → finalize = false

structure SqliteQuery (Object : Type) where
  prepare : Bool
  /-- A text of blanks and comments is prepared to a null pointer. -/
  statement : Option (SqliteStatement Object)

namespace SqliteQuery

variable {Object : Type} (q : SqliteQuery Object)

/-- `query_s` and `query`. A step without a statement gives no row, and nothing is finalized. -/
def run (e : Bool) : List Object × Bool :=
  if !q.prepare then ([], setLastError e)
  else
    match q.statement with
    | none => guardStatement true (fun e ↦ ([], e)) e
    | some s => guardStatement s.finalize (fun e ↦ s.steps.loop (fun e r ↦ (r.stored, e)) e) e

def result : List Object :=
  match q.statement with
  | none => []
  | some s => s.steps.result SqliteRow.whole

/-- The query is not prepared, or an error is reported at the end, or no row was cut. -/
def Sound : Prop :=
  q.prepare = false ∨ ∀ s, q.statement = some s →
    s.finalize = false ∨ ∀ r ∈ s.steps.fetched, r.stored = r.whole

end SqliteQuery

/-! ## Both backends -/

inductive Query (Object : Type)
  | mysql (q : MysqlQuery Object)
  | sqlite (q : SqliteQuery Object)

namespace Query

variable {Object : Type}

def run : Query Object → Bool → List Object × Bool
  | mysql q => q.run
  | sqlite q => q.run

def result : Query Object → List Object
  | mysql q => q.fetches.result MysqlRow.whole
  | sqlite q => q.result

/-- Every row of the result is returned as it is, or there is an error. -/
def Complete (q : Query Object) : Prop := ∀ e, (q.run e).1 = q.result ∨ (q.run e).2 = true

def Sound : Query Object → Prop
  | mysql q => q.Reports ∨ q.FetchesAll
  | sqlite q => q.Sound

end Query

/-! ## What is seen of an error -/

theorem guardStatement_setLastError {α : Type} (closed : Bool) (a : α) (e : Bool) :
    (guardStatement closed (fun e ↦ (a, setLastError e)) e).2 = true := by
  rw [guardStatement]
  split_ifs <;> rfl

/-- Of the lengths of blobs, the last one is in the error slot. -/
theorem foldl_getBlobLen (e : Bool) (oks : List Bool) :
    oks.foldl getBlobLen e = true ↔ oks.getLast? = some false ∨ (oks = [] ∧ e = true) := by
  induction oks using List.reverseRecOn with
  | nil => simp
  | append_singleton oks ok ih =>
    rw [List.foldl_append, List.getLast?_append]
    cases ok <;> simp [getBlobLen, resetError, setLastError]

section

variable {Object : Type} (q : MysqlQuery Object)

/-- Where the other calls succeed, the loop decides. -/
theorem MysqlQuery.run_of_calls (h : q.Calls) (e : Bool) :
    q.run e = (q.fetches.fetched.map MysqlRow.stored, q.lengths.foldl getBlobLen false) := by
  obtain ⟨hinit, hprepare, hmetadata, hparam, hresult, hexecute, hclose⟩ := h
  have hslot : q.lengths.foldl getBlobLen false
      = q.fetches.fetched.foldl (fun e r ↦ r.lengths.foldl getBlobLen e) false := by
    rw [lengths, List.foldl_flatMap]
  rw [run, hinit, hprepare, hmetadata, hparam, hresult, hexecute, hclose, hslot]
  exact Fetches.loop_eq MysqlRow.stored _ false q.fetches

/-- A call that fails other than one that fetches is reported. -/
theorem MysqlQuery.error_of_not_calls (h : ¬ q.Calls) (e : Bool) : (q.run e).2 = true := by
  rw [run]
  split_ifs with hinit hprepare hmetadata hparam hresult hexecute
  · exact guardStatement_setLastError q.close [] e
  · exact guardStatement_setLastError q.close [] e
  · exact guardStatement_setLastError q.close [] e
  · exact guardStatement_setLastError q.close [] e
  · exact guardStatement_setLastError q.close [] e
  · have hclose : q.close = false := by
      rw [Bool.not_eq_true, Bool.not_eq_false'] at hprepare hmetadata hparam hresult hexecute
      rw [← Bool.not_eq_true]
      intro hclose
      exact h ⟨hinit, hprepare, hmetadata, hparam, hresult, hexecute, hclose⟩
    rw [hclose]
    rfl
  · rfl

theorem MysqlQuery.complete_iff_reports : (Query.mysql q).Complete ↔ q.Reports ∨ q.FetchesAll := by
  by_cases hcalls : q.Calls
  · have hrows : q.fetches.fetched.map MysqlRow.stored = q.fetches.result MysqlRow.whole ↔
        q.FetchesAll := Fetches.map_stored_eq_result_iff
    have herror : q.lengths.foldl getBlobLen false = true ↔ q.Reports := by
      rw [foldl_getBlobLen, Reports, or_iff_right (not_not.mpr hcalls)]
      exact or_iff_left fun h ↦ Bool.false_ne_true h.2
    have hcomplete : (Query.mysql q).Complete ↔ q.FetchesAll ∨ q.Reports := by
      rw [← hrows, ← herror]
      constructor
      · intro h
        have hfalse := h false
        rwa [Query.run, q.run_of_calls hcalls] at hfalse
      · intro h e
        rwa [Query.run, q.run_of_calls hcalls]
    rw [hcomplete, or_comm]
  · exact iff_of_true (fun e ↦ .inr (q.error_of_not_calls hcalls e)) (.inl (.inl hcalls))

end

/-- A step that fails is reported when the statement is closed. -/
theorem SqliteQuery.complete_iff_sound {Object : Type} (q : SqliteQuery Object) :
    (Query.sqlite q).Complete ↔ q.Sound := by
  obtain ⟨prepare, statement⟩ := q
  rcases prepare with _ | _
  · exact iff_of_true (fun e ↦ .inr rfl) (.inl rfl)
  rcases statement with _ | s
  · exact iff_of_true (fun e ↦ .inl rfl) (.inr nofun)
  have hrun (e : Bool) : (Query.sqlite ⟨true, some s⟩).run e
      = (s.steps.fetched.map SqliteRow.stored, !s.finalize) := by
    have hslot (rows : List (SqliteRow Object)) : rows.foldl (fun e _ ↦ e) false = false := by
      induction rows with
      | nil => rfl
      | cons r rows ih => exact ih
    change guardStatement s.finalize (fun e ↦ s.steps.loop (fun e r ↦ (r.stored, e)) e) e = _
    rw [guardStatement, resetError, Fetches.loop_eq SqliteRow.stored (fun e _ ↦ e), hslot]
    cases s.finalize <;> rfl
  have hcomplete : (Query.sqlite ⟨true, some s⟩).Complete ↔
      s.steps.fetched.map SqliteRow.stored = s.steps.result SqliteRow.whole ∨
        s.finalize = false := by
    constructor
    · intro h
      have hfalse := h false
      rwa [hrun, Bool.not_eq_true'] at hfalse
    · intro h e
      rwa [hrun, Bool.not_eq_true']
  have hsound : (⟨true, some s⟩ : SqliteQuery Object).Sound ↔
      s.finalize = false ∨ ∀ r ∈ s.steps.fetched, r.stored = r.whole := by
    constructor
    · rintro (h | h)
      · cases h
      · exact h s rfl
    · rintro h
      refine .inr ?_
      rintro _ ⟨⟩
      exact h
  rw [hcomplete, hsound, Fetches.map_stored_eq_result_iff, or_comm]
  -- If rows are left over, a step has failed, and this is what is reported.
  by_cases hfails : s.steps.Fails
  · exact iff_of_true (.inl (s.finalize_of_fails hfails)) (.inl (s.finalize_of_fails hfails))
  · rw [and_iff_right (Fetches.rest_eq_nil hfails)]

/-- The rows 1 and 2, of which the second cannot be fetched. -/
def lostRow : MysqlQuery ℕ where
  init := true
  prepare := true
  metadata := true
  bindParam := true
  bindResult := true
  execute := true
  fetches := .row ⟨false, [], 1, 1, fun _ _ ↦ rfl⟩ (.failed [2])
  close := true

/-- The number 300 in a field of one byte, where it is 44. -/
def cutRow : SqliteQuery ℕ where
  prepare := true
  statement := some ⟨.row ⟨300, 44⟩ .done, true, False.elim⟩

end Fetch

end Ormpp
