import Ormpp.Bulk.Mysql
import Ormpp.Bulk.MysqlAsync
import Ormpp.Bulk.Sqlite

/-!
# Operations that come to their end

When an operation comes to its end, with a transaction or without one, and what it has done then: it
has executed a statement for every item.
-/

namespace Ormpp

namespace Bulk

open Traced

variable {α : Type}

/-- What an operation with a statement has done at its end. -/
def completed (opens : Bool) (v : List α) (close : ℤ) : List (Action α) :=
  .prepare .accepted :: .resetError :: ((if opens then [.resetError, .begin .accepted] else []) ++
    (rows v ++ (if opens then [.resetError, .commit .accepted] else [])) ++ closeStatement close)

theorem withStatement_eq_some_iff {prepare work : Traced (Action α) Unit} {close value n : ℤ} :
    (withStatement prepare close work value).2 = some n
      ↔ prepare.2 = some () ∧ work.2 = some () ∧ value = n := by
  rcases hprepare : prepare.2 with _ | ⟨⟩
  · rw [withStatement, bind_of_left (eq_of_snd hprepare)]
    constructor
    · intro h
      cases h
    · rintro ⟨h, -, -⟩
      cases h
  · rw [withStatement_of_prepared hprepare]
    rcases work.2 with _ | ⟨⟩
    · constructor
      · intro h
        cases h
      · rintro ⟨-, h, -⟩
        cases h
    · exact Option.some_inj.trans ((and_iff_right rfl).trans (and_iff_right rfl)).symm

theorem checked_eq_some_iff {statement : Verdict → Action α} {answer : Option Refusal} :
    (checked statement answer).2 = some () ↔ answer = none := by
  rcases answer with _ | refusal
  · exact iff_of_true rfl rfl
  · exact iff_of_false nofun nofun

theorem withStatement_of_completed {prepare loop : Traced (Action α) Unit} {opens : Bool}
    {begin commit : Option Refusal} {v : List α} {close : ℤ} (value : ℤ)
    (hprepare : prepare = ([.prepare .accepted], some ())) (hloop : loop = (rows v, some ()))
    (hopens : opens = true → begin = none ∧ commit = none) :
    withStatement prepare close (bracket opens (checked .begin begin) (checked .commit commit) loop)
        value
      = (completed opens v close, some value) := by
  have hchecked : opens = true →
      checked (α := α) .begin begin = ([.resetError, .begin .accepted], some ()) ∧
        checked (α := α) .commit commit = ([.resetError, .commit .accepted], some ()) := by
    intro h
    obtain ⟨rfl, rfl⟩ := hopens h
    exact ⟨rfl, rfl⟩
  rw [withStatement_of_prepared (congrArg Prod.snd hprepare), bracket_of_done hloop hchecked,
    hprepare]
  rfl

theorem withStatement_bracket_eq_some_iff {prepare loop : Traced (Action α) Unit} {opens : Bool}
    {begin commit : Option Refusal} {close value n : ℤ} :
    (withStatement prepare close
        (bracket opens (checked .begin begin) (checked .commit commit) loop) value).2 = some n
      ↔ (prepare.2 = some () ∧ loop.2 = some () ∧ (opens = true → begin = none ∧ commit = none))
        ∧ value = n := by
  rw [withStatement_eq_some_iff, bracket_eq_some_iff, checked_eq_some_iff, checked_eq_some_iff,
    and_assoc, and_assoc, and_assoc]

/-! ## SQLite -/

namespace Sqlite

/-- No call fails. -/
structure Completes (a : Answers) (opens : Bool) (type : OptType) (n : ℕ) : Prop where
  prepare : a.prepare = none
  rows : ∀ k < n, (a.row k).taken type = true
  transaction : opens = true → a.begin = none ∧ a.commit = none

variable {a : Answers} {transaction : Bool} {v : List α} {type : OptType} {getInsertId : Bool}

theorem left_of_not_taken {k : ℕ} {item : α} {u : Unit} (h : (a.row k).taken type = false) :
    (body a transaction type k item u).2 = none := by
  rcases hexecuted : (a.row k).executed type with _ | _
  · rw [body, bind_of_value (stmtExecute_of_not_executed hexecuted item), if_pos rfl]
    rcases transaction with _ | _ <;> rfl
  · rw [Row.taken, hexecuted, Bool.true_and, Option.isNone_eq_false_iff,
      Option.isSome_iff_exists] at h
    obtain ⟨message, hreset⟩ := h
    obtain ⟨count, hcount, hexec⟩ := stmtExecute_of_executed hexecuted item
    rw [body, bind_of_value hexec, if_neg hcount, hreset]
    rcases transaction with _ | _ <;> rfl

theorem loop_eq_some_iff : (forEach (body a transaction type) 0 v ()).2 = some () ↔
    ∀ k < v.length, (a.row k).taken type = true :=
  forEach_rows_iff (fun _ _ _ hk ↦ body_of_taken hk) fun _ _ _ hk ↦ left_of_not_taken hk

/-- The value of an operation that comes to its end. -/
def value (a : Answers) (v : List α) (getInsertId : Bool) : ℤ :=
  if getInsertId then a.lastInsertRowid % 2 ^ 64 else castInt v.length

theorem insertOrUpdateImpl_eq_some_iff {n : ℤ} :
    (insertOrUpdateImpl a transaction v type getInsertId).2 = some n
      ↔ Completes a transaction type v.length ∧ value a v getInsertId = n := by
  refine withStatement_bracket_eq_some_iff.trans (and_congr_left fun _ ↦ ?_)
  rw [prepared_iff, loop_eq_some_iff]
  exact ⟨fun ⟨hprepare, hrows, hopens⟩ ↦ ⟨hprepare, hrows, hopens⟩,
    fun h ↦ ⟨h.prepare, h.rows, h.transaction⟩⟩

theorem insertOrUpdateImpl_of_completes (getInsertId : Bool)
    (h : Completes a transaction type v.length) :
    insertOrUpdateImpl a transaction v type getInsertId
      = (completed transaction v a.finalize, some (value a v getInsertId)) := by
  have hprepare : prepare (α := α) a = ([.prepare .accepted], some ()) := by
    rw [prepare, h.prepare]
    rfl
  exact withStatement_of_completed _ hprepare (loop_of_taken h.rows) h.transaction

end Sqlite

/-! ## MySQL -/

namespace Mysql

/-- No call fails. -/
structure Completes (a : Answers) (opens : Bool) (type : OptType) (n : ℕ) : Prop where
  prepared : Prepared a
  rows : ∀ k < n, (a.row k).taken type = true
  transaction : opens = true → a.begin = none ∧ a.commit = none

variable {a : Answers} {transaction : Bool} {v : List α} {type : OptType} {getInsertId : Bool}

theorem left_of_not_taken {k : ℕ} {item : α} {u : Unit} (h : (a.row k).taken type = false) :
    (body a transaction type k item u).2 = none := by
  rw [body, bind_of_value (stmtExecute_of_not_taken h item), if_pos rfl]
  rcases transaction with _ | _ <;> rfl

theorem loop_eq_some_iff : (forEach (body a transaction type) 0 v ()).2 = some () ↔
    ∀ k < v.length, (a.row k).taken type = true :=
  forEach_rows_iff (fun _ _ _ hk ↦ body_of_taken hk) fun _ _ _ hk ↦ left_of_not_taken hk

/-- The value of an operation that comes to its end. -/
def value (a : Answers) (v : List α) (getInsertId : Bool) : ℤ :=
  if getInsertId then (a.insertId : ℤ) else castInt v.length

theorem insertOrUpdateImpl_eq_some_iff {n : ℤ} :
    (insertOrUpdateImpl a transaction v type getInsertId).2 = some n
      ↔ Completes a (transaction && !getInsertId) type v.length ∧ value a v getInsertId = n := by
  refine withStatement_bracket_eq_some_iff.trans (and_congr_left fun _ ↦ ?_)
  rw [prepared_iff, loop_eq_some_iff]
  exact ⟨fun ⟨hprepared, hrows, hopens⟩ ↦ ⟨hprepared, hrows, hopens⟩,
    fun h ↦ ⟨h.prepared, h.rows, h.transaction⟩⟩

theorem insertOrUpdateImpl_of_completes (getInsertId : Bool)
    (h : Completes a (transaction && !getInsertId) type v.length) :
    insertOrUpdateImpl a transaction v type getInsertId
      = (completed (transaction && !getInsertId) v a.close, some (value a v getInsertId)) := by
  have hprepare : prepare (α := α) a = ([.prepare .accepted], some ()) := by
    rw [prepare, h.prepared.1, h.prepared.2]
    rfl
  exact withStatement_of_completed _ hprepare (loop_of_taken h.rows) h.transaction

end Mysql

/-! ## Asynchronous MySQL -/

namespace MysqlAsync

/-- No call fails. -/
structure Completes (a : Answers) (format : ℕ → α → Except String Bytes) (opens : Bool)
    (v : List α) : Prop where
  rows : ∀ k (hk : k < v.length), taken a format k v[k] = true
  transaction : opens = true → a.begin.isOk = true ∧ a.commit.isOk = true

/-- The rows that the statement for an item has affected. -/
def affectedRows (a : Answers) (k : ℕ) : ℤ :=
  match a.row k with
  | .ok affected => affected
  | .error _ => 0

variable {a : Answers} {format : ℕ → α → Except String Bytes} {opens : Bool} {v : List α}

theorem body_eq_of_taken {k : ℕ} {item : α} (h : taken a format k item = true) (affected : ℤ) :
    body a format opens k item affected
      = ([.row item .accepted], some (affected + affectedRows a k)) := by
  rw [taken, Bool.and_eq_true] at h
  obtain ⟨hformat, hrow⟩ := h
  rw [body, affectedRows]
  rcases hformatted : format k item with what | formatted
  · rw [hformatted] at hformat
    exact absurd hformat Bool.false_ne_true
  · rcases hanswer : a.row k with failure | rows
    · rw [hanswer] at hrow
      exact absurd hrow Bool.false_ne_true
    · rfl

theorem forEach_from_of_taken {k : ℕ}
    (h : ∀ i (hi : i < v.length), taken a format (k + i) v[i] = true) (affected : ℤ) :
    forEach (body a format opens) k v affected
      = (rows v, some (affected + ∑ i ∈ Finset.range v.length, affectedRows a (k + i))) := by
  induction v generalizing k affected with
  | nil =>
    rw [List.length_nil, Finset.sum_range_zero, add_zero]
    rfl
  | cons item v ih =>
    have hshift : ∀ i, k + (i + 1) = k + 1 + i := fun i ↦ by omega
    have hfirst : body a format opens k item affected
        = ([.row item .accepted], some (affected + affectedRows a k)) :=
      body_eq_of_taken (h 0 (Nat.succ_pos _)) affected
    have hrest : ∀ i (hi : i < v.length), taken a format (k + 1 + i) v[i] = true := by
      intro i hi
      have htaken : taken a format (k + (i + 1)) v[i] = true := h (i + 1) (Nat.succ_lt_succ hi)
      rwa [hshift] at htaken
    have hsum : ∑ i ∈ Finset.range v.length, affectedRows a (k + (i + 1))
        = ∑ i ∈ Finset.range v.length, affectedRows a (k + 1 + i) :=
      Finset.sum_congr rfl fun i _ ↦ congrArg (affectedRows a) (hshift i)
    rw [forEach, bind_of_value hfirst, ih hrest, List.length_cons, Finset.sum_range_succ', hsum]
    refine Prod.ext rfl (congrArg some ?_)
    rw [add_assoc, add_comm (affectedRows a k)]
    rfl

theorem left_of_not_completed {k : ℕ} {item : α} (h : taken a format k item = false)
    (affected : ℤ) : (body a format opens k item affected).2 = none := by
  rcases hformat : format k item with what | formatted
  · rw [body, hformat]
    rfl
  · rcases hrow : a.row k with failure | rows
    · rw [body, hformat, hrow]
      rcases opens with _ | _
      · rfl
      · change (rollback a >>= fun _ ↦ leave [] : Traced (Action α) ℤ).2 = none
        rw [bind_of_value (rollback_eq a)]
        rfl
    · rw [taken, hformat, hrow] at h
      exact absurd h.symm Bool.false_ne_true

theorem required_eq_some_iff {statement : Verdict → Action α} {answer : Except Failure ℤ} :
    (required statement answer).2 = some () ↔ answer.isOk = true := by
  rcases answer with failure | affected
  · exact iff_of_false nofun nofun
  · exact iff_of_true rfl rfl

/-- What an operation has done at its end. -/
def completed (opens : Bool) (v : List α) : List (Action α) :=
  (if opens then [.begin .accepted] else []) ++
    (rows v ++ if opens then [.commit .accepted] else [])

variable {transaction : Bool}

theorem executeEach_of_completes (h : Completes a format (transaction && !v.isEmpty) v) :
    executeEach a format transaction v = (completed (transaction && !v.isEmpty) v,
      some (∑ k ∈ Finset.range v.length, affectedRows a k)) := by
  have hloop : forEach (body a format (transaction && !v.isEmpty)) 0 v 0
      = (rows v, some (∑ k ∈ Finset.range v.length, affectedRows a k)) := by
    have hrows : ∀ i (hi : i < v.length), taken a format (0 + i) v[i] = true := by
      intro i hi
      rw [Nat.zero_add]
      exact h.rows i hi
    rw [forEach_from_of_taken hrows]
    simp only [zero_add]
    rfl
  have hopens : (transaction && !v.isEmpty) = true →
      required (α := α) .begin a.begin = ([.begin .accepted], some ()) ∧
        required (α := α) .commit a.commit = ([.commit .accepted], some ()) := by
    intro hopens
    obtain ⟨hbegin, hcommit⟩ := h.transaction hopens
    have hbegun : (required (α := α) .begin a.begin).2 = some () :=
      required_eq_some_iff.mpr hbegin
    have hcommitted : (required (α := α) .commit a.commit).2 = some () :=
      required_eq_some_iff.mpr hcommit
    exact ⟨Prod.ext (required_of_value hbegun).2 hbegun,
      Prod.ext (required_of_value hcommitted).2 hcommitted⟩
  rw [executeEach, bracket_of_done hloop hopens, completed]

theorem completes_of_executeEach (h : (executeEach a format transaction v).2.isSome) :
    Completes a format (transaction && !v.isEmpty) v := by
  obtain ⟨n, hvalue⟩ := Option.isSome_iff_exists.mp h
  obtain ⟨hloop, hopens⟩ := bracket_eq_some_iff.mp hvalue
  refine ⟨?_, fun h ↦ ⟨required_eq_some_iff.mp (hopens h).1, required_eq_some_iff.mp (hopens h).2⟩⟩
  exact (isSome_forEach_iff (taken a format) (fun _ _ _ hk ↦ body_of_taken hk)
    fun _ _ affected hk ↦ left_of_not_completed hk affected).mp (by rw [hloop]; rfl)

end MysqlAsync

end Bulk

end Ormpp
