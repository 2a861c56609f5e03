import Ormpp.Bulk.Mysql

/-!
# All or nothing

What a bulk operation leaves in an autocommit table of MySQL. An item that is executed takes effect
at once where no transaction is open, and a rollback does not take it back.
-/

namespace Ormpp

namespace Bulk

open Traced

variable {α : Type}

/-- A table is given by the items that have taken effect, for everyone and for the connection
itself. -/
structure Table (α : Type) where
  committed : List α
  working : List α
  inTransaction : Bool
  deriving DecidableEq

namespace Table

/-- The table outside of a transaction. -/
def autocommit (items : List α) : Table α := ⟨items, items, false⟩

/-- The table in a transaction that has executed the items. -/
def changed (base items : List α) : Table α := ⟨base, items, true⟩

def commit (t : Table α) : Table α := autocommit t.working

def rollback (t : Table α) : Table α := autocommit t.committed

/-- A transaction that is open is committed by the one that begins. -/
def begin (t : Table α) : Table α := changed t.working t.working

def insert (t : Table α) (item : α) : Table α :=
  if t.inTransaction then changed t.committed (t.working ++ [item])
  else autocommit (t.working ++ [item])

def step (t : Table α) : Action α → Table α
  | .begin .accepted => t.begin
  | .row item .accepted => t.insert item
  | .commit .accepted => t.commit
  | .rollback => t.rollback
  | .prepare .accepted => t
  | .begin (.refused ended) | .commit (.refused ended) | .prepare (.refused ended)
  | .row _ (.refused ended) => if ended then t.rollback else t
  | .resetError | .setLastError _ => t

def after (t : Table α) (actions : List (Action α)) : Table α := actions.foldl step t

/-- The items that have taken effect, whoever looks at the table. -/
def Contains (t : Table α) (items : List α) : Prop := t.committed = items ∧ t.working = items

variable {t : Table α} {base items v : List α}

theorem after_append (actions later : List (Action α)) :
    t.after (actions ++ later) = (t.after actions).after later :=
  List.foldl_append

theorem after_rollback (answer : Option Bytes) :
    t.after (Bulk.rollback (α := α) answer).1 = autocommit t.committed := by
  cases answer <;> rfl

theorem after_closeStatement (status : ℤ) : t.after (closeStatement status) = t := by
  rw [closeStatement]
  split <;> rfl

theorem changed_after_rows : (changed base items).after (rows v) = changed base (items ++ v) := by
  induction v generalizing items with
  | nil => rw [List.append_nil]; rfl
  | cons item rest ih =>
    change (changed base (items ++ [item])).after (rows rest) = _
    rw [ih, List.append_assoc]
    rfl

theorem autocommit_after_rows : (autocommit items).after (rows v) = autocommit (items ++ v) := by
  induction v generalizing items with
  | nil => rw [List.append_nil]; rfl
  | cons item rest ih =>
    change (autocommit (items ++ [item])).after (rows rest) = _
    rw [ih, List.append_assoc]
    rfl

theorem contains_autocommit : (autocommit items).Contains base ↔ items = base :=
  ⟨And.left, fun h ↦ ⟨h, h⟩⟩

end Table

/-- The outcome of an operation on a table: none of the items has taken effect if it reports the
failure, and all of them otherwise. -/
structure AllOrNothing (base v : List α) (failure : ℤ) (outcome : List (Action α) × ℤ) : Prop where
  nothing : outcome.2 = failure → ((Table.autocommit base).after outcome.1).Contains base
  all : outcome.2 ≠ failure → ((Table.autocommit base).after outcome.1).Contains (base ++ v)

theorem allOrNothing_of_failure {base v : List α} {failure : ℤ} {actions : List (Action α)} :
    AllOrNothing base v failure (actions, failure)
      ↔ ((Table.autocommit base).after actions).Contains base := by
  constructor
  · intro h
    exact h.nothing rfl
  · intro h
    exact ⟨fun _ ↦ h, fun hne ↦ absurd rfl hne⟩

theorem allOrNothing_of_success {base v : List α} {failure value : ℤ} {actions : List (Action α)}
    (hvalue : value ≠ failure) :
    AllOrNothing base v failure (actions, value)
      ↔ ((Table.autocommit base).after actions).Contains (base ++ v) := by
  constructor
  · intro h
    exact h.all hvalue
  · intro h
    exact ⟨fun heq ↦ absurd heq hvalue, fun _ ↦ h⟩

namespace Mysql

variable {a : Answers} {v base : List α} {type : OptType}

/-- The item takes effect, also where its rows are counted as a failure. -/
def Row.effective (r : Row) : Bool :=
  r.bindParam.isNone && r.execute.isNone && r.affectedRows != 0

/-- An operation in a transaction executes all items and reports a failure: it returns the number of
items, which happens to be that of a failure, or the server has refused the commit and keeps the
transaction. -/
def BreaksTransaction (a : Answers) (v : List α) (type : OptType) : Prop :=
  Prepared a ∧ a.begin = none ∧ (∀ k < v.length, (a.row k).taken type = true) ∧
    match a.commit with
    | none => castInt v.length = intMin
    | some refusal => v ≠ [] ∧ refusal.ended = false

/-- An operation without a transaction reports a failure for a later item, or for a table that does
not count its rows. -/
def BreaksInsertId (a : Answers) (v : List α) : Prop :=
  Prepared a ∧ v ≠ [] ∧
    if ∀ k < v.length, (a.row k).taken .insert = true then a.insertId = 0
    else (a.row 0).effective = true

/-- Some items take effect where the operation reports a failure. -/
def Breaks (a : Answers) (v : List α) : Operation → Prop
  | .insert => BreaksTransaction a v .insert
  | .replace => BreaksTransaction a v .replace
  | .update false => False
  | .update true => BreaksTransaction a v .update
  | .getInsertIdAfterInsert => BreaksInsertId a v

theorem after_prepare {items : List α} :
    (Table.autocommit items).after (prepare a).1 = Table.autocommit items := by
  rw [prepare]
  cases a.init with
  | some message => rfl
  | none =>
    rcases a.prepare with _ | ⟨message, _ | _⟩ <;> rfl

/-! ## In a transaction -/

theorem committed_after_stmtExecute {items : List α} (r : Row) (item : α) :
    ((Table.changed base items).after (stmtExecute r type item).1).committed = base := by
  rw [stmtExecute]
  cases r.bindParam with
  | some message => rfl
  | none =>
    rcases r.execute with _ | ⟨message, _ | _⟩
    · change ((Table.changed base items).after
        (if r.affectedRows = 0 then _ else _ : Traced _ _).1).committed
        = base
      split
      · split <;> rfl
      · rfl
    · rfl
    · rfl

theorem after_loop_of_left (h : (forEach (body a true type) 0 v ()).2 = none) :
    (Table.changed base base).after (forEach (body a true type) 0 v ()).1
      = Table.autocommit base := by
  obtain ⟨n, hfirst⟩ := firstRefused_of_left h
  rw [loop_of_firstRefused hfirst, Table.after_append, Table.changed_after_rows, Table.after_append,
    Table.after_rollback, committed_after_stmtExecute]

/-- A vector whose length is that of a failure has items. -/
theorem ne_nil_of_castInt (h : castInt v.length = intMin) : v ≠ [] := by
  rintro rfl
  rw [List.length_nil] at h
  exact absurd h (by decide)

/-- The transaction is begun, and what is done then is done in it. -/
theorem after_begun (actions : List (Action α)) :
    (Table.autocommit base).after
        ((prepare a).1 ++ .resetError :: .resetError :: .begin .accepted :: actions)
      = (Table.changed base base).after actions := by
  rw [Table.after_append, after_prepare]
  rfl

theorem after_loop_of_taken (h : ∀ k < v.length, (a.row k).taken type = true) :
    (Table.changed base base).after (forEach (body a true type) 0 v ()).1
      = Table.changed base (base ++ v) := by
  rw [loop_of_taken h, Table.changed_after_rows]

/-- A refused commit leaves the items out only if it ends the transaction. -/
theorem contains_refused_iff (ended : Bool) :
    (if ended then Table.autocommit base else Table.changed base (base ++ v)).Contains base
      ↔ ¬ (v ≠ [] ∧ ended = false) := by
  rcases ended with _ | _
  · rw [if_neg Bool.false_ne_true, and_iff_left rfl, not_not]
    constructor
    · rintro ⟨-, hworking⟩
      exact List.append_right_eq_self.mp hworking
    · intro hnil
      rw [hnil, List.append_nil]
      exact ⟨rfl, rfl⟩
  · rw [if_pos rfl]
    apply iff_of_true
    · exact Table.contains_autocommit.mpr rfl
    · rintro ⟨-, hkept⟩
      cases hkept

theorem breaksTransaction_iff (hprepared : Prepared a) (hbegin : a.begin = none)
    (htaken : ∀ k < v.length, (a.row k).taken type = true) :
    BreaksTransaction a v type ↔
      match a.commit with
      | none => castInt v.length = intMin
      | some refusal => v ≠ [] ∧ refusal.ended = false := by
  rw [BreaksTransaction, and_iff_right hprepared, and_iff_right hbegin, and_iff_right htaken]

theorem allOrNothing_transaction :
    AllOrNothing base v intMin (valueOr intMin (insertOrUpdateImpl a true v type false))
      ↔ ¬ BreaksTransaction a v type := by
  have hpath := path_of_transaction a v type
  generalize hcount : castInt v.length = value at hpath
  generalize insertOrUpdateImpl a true v type false = x at hpath ⊢
  cases hpath with
  | unprepared hprepare =>
    rw [valueOr_leave, allOrNothing_of_failure]
    apply iff_of_true
    · rw [after_prepare]
      exact Table.contains_autocommit.mpr rfl
    · intro h
      exact absurd (hprepare.symm.trans (prepared_iff.mpr h.1)) nofun
  | notBegun refusal hprepare hbegin =>
    rw [valueOr_leave, allOrNothing_of_failure]
    apply iff_of_true
    · rw [Table.after_append, after_prepare]
      change (Table.after (if refusal.ended then Table.autocommit base else Table.autocommit base)
        (closeStatement a.close)).Contains base
      rw [ite_self, Table.after_closeStatement]
      exact Table.contains_autocommit.mpr rfl
    · intro h
      exact absurd (hbegin.symm.trans h.2.1) nofun
  | left hprepare hbegin hloop =>
    rw [valueOr_leave, allOrNothing_of_failure]
    apply iff_of_true
    · rw [after_begun, Table.after_append, after_loop_of_left hloop, Table.after_closeStatement]
      exact Table.contains_autocommit.mpr rfl
    · intro h
      exact absurd (hloop.symm.trans (taken_iff.mpr h.2.2.1)) nofun
  | notCommitted refusal hprepare hbegin hloop hcommit =>
    have htaken := taken_iff.mp hloop
    rw [valueOr_leave, allOrNothing_of_failure, after_begun, Table.after_append,
      after_loop_of_taken htaken,
      breaksTransaction_iff (prepared_iff.mp hprepare) hbegin htaken, hcommit]
    change (Table.after
      (if refusal.ended then Table.autocommit base else Table.changed base (base ++ v))
      (closeStatement a.close)).Contains base ↔ _
    rw [Table.after_closeStatement]
    exact contains_refused_iff refusal.ended
  | done hprepare hbegin hloop hcommit =>
    have htaken := taken_iff.mp hloop
    have hafter : (Table.autocommit base).after ((prepare a).1 ++ .resetError :: .resetError ::
        .begin .accepted :: ((forEach (body a true type) 0 v ()).1 ++
          .resetError :: .commit .accepted :: closeStatement a.close))
        = Table.autocommit (base ++ v) := by
      rw [after_begun, Table.after_append, after_loop_of_taken htaken]
      exact Table.after_closeStatement a.close
    rw [breaksTransaction_iff (prepared_iff.mp hprepare) hbegin htaken, hcommit, valueOr_some]
    by_cases hvalue : value = intMin
    · subst hvalue
      rw [allOrNothing_of_failure, hafter, Table.contains_autocommit]
      apply iff_of_false
      · intro h
        exact ne_nil_of_castInt hcount (List.append_right_eq_self.mp h)
      · exact fun h ↦ h hcount
    · rw [allOrNothing_of_success hvalue, hafter, Table.contains_autocommit]
      exact iff_of_true rfl fun h ↦ hvalue (hcount.symm.trans h)

/-! ## Without a transaction -/

theorem effective_of_taken {r : Row} (h : r.taken .insert = true) : r.effective = true := by
  rw [Row.taken, Bool.and_eq_true] at h
  rw [Row.effective, Bool.and_eq_true]
  refine ⟨h.1, ?_⟩
  by_cases hzero : r.affectedRows = 0
  · rw [if_pos hzero] at h
    exact absurd h.2 Bool.false_ne_true
  · exact bne_iff_ne.mpr hzero

/-- What the attempt for an item leaves in the table. -/
theorem autocommit_after_stmtExecute {items : List α} (r : Row) (item : α) :
    (Table.autocommit items).after (stmtExecute r .insert item).1
      = Table.autocommit (if r.effective then items ++ [item] else items) := by
  rw [stmtExecute, Row.effective]
  cases r.bindParam with
  | some message => rfl
  | none =>
    rcases r.execute with _ | ⟨message, _ | _⟩
    · by_cases hzero : r.affectedRows = 0
      · simp only [hzero]
        rfl
      · rw [if_neg hzero, bne_iff_ne.mpr hzero]
        rfl
    · rfl
    · rfl

/-- The effects that the loop leaves behind are not taken back. -/
theorem autocommit_after_loop {n : ℕ}
    (hfirst : FirstRefused (fun k _ ↦ (a.row k).taken .insert) v n) :
    (Table.autocommit base).after (forEach (body a true .insert) 0 v ()).1
      = Table.autocommit (base ++ v.take n
          ++ if (a.row n).effective then [hfirst.item] else []) := by
  rw [loop_of_firstRefused hfirst, Table.after_append, Table.autocommit_after_rows,
    Table.after_append, autocommit_after_stmtExecute, Table.after_rollback]
  change Table.autocommit (if _ then _ else _) = _
  split
  · rfl
  · rw [List.append_nil]

/-- A loop that is left has an effect exactly when its first item has one. -/
theorem takes_effect_iff {n : ℕ} (hfirst : FirstRefused (fun k _ ↦ (a.row k).taken .insert) v n) :
    v.take n ++ (if (a.row n).effective then [hfirst.item] else []) = []
      ↔ (a.row 0).effective = false := by
  cases n with
  | zero =>
    cases (a.row 0).effective <;> simp
  | succ n =>
    have hlt := hfirst.lt
    have heffective : (a.row 0).effective = true :=
      effective_of_taken (hfirst.before 0 (Nat.succ_pos n))
    rw [heffective, List.append_eq_nil_iff, List.take_eq_nil_iff]
    apply iff_of_false
    · rintro ⟨hzero | hnil, -⟩
      · exact Nat.succ_ne_zero n hzero
      · rw [hnil] at hlt
        exact Nat.not_lt_zero _ hlt
    · decide

theorem allOrNothing_insertId :
    AllOrNothing base v 0 (valueOr 0 (insertOrUpdateImpl a true v .insert true))
      ↔ ¬ BreaksInsertId a v := by
  cases hprepare : (prepare (α := α) a).2 with
  | none =>
    have himpl : insertOrUpdateImpl a true v .insert true = ((prepare a).1, none) := by
      rw [insertOrUpdateImpl, withStatement, bind_of_left (eq_of_snd hprepare)]
    rw [himpl]
    change AllOrNothing base v 0 ((prepare a).1, 0) ↔ _
    rw [allOrNothing_of_failure]
    apply iff_of_true
    · rw [after_prepare]
      exact Table.contains_autocommit.mpr rfl
    · intro h
      cases hprepare.symm.trans (prepared_iff.mpr h.1)
  | some u =>
    have hprepared := prepared_iff.mp hprepare
    have hafter : ∀ actions, (Table.autocommit base).after
        ((prepare a).1 ++ (.resetError :: (actions ++ closeStatement a.close)))
          = (Table.autocommit base).after actions := by
      intro actions
      rw [Table.after_append, after_prepare]
      change (Table.autocommit base).after (actions ++ closeStatement a.close) = _
      rw [Table.after_append, Table.after_closeStatement]
    rw [insertOrUpdateImpl_of_insertId hprepare, BreaksInsertId]
    rcases taken_or_firstRefused (fun k _ ↦ (a.row k).taken .insert) v with htaken | ⟨n, hfirst⟩
    · rw [if_pos htaken, loop_of_taken htaken]
      change AllOrNothing base v 0 (_, (a.insertId : ℤ)) ↔ _
      by_cases hid : a.insertId = 0
      · rw [hid, Nat.cast_zero, allOrNothing_of_failure, hafter, Table.autocommit_after_rows,
          Table.contains_autocommit, List.append_right_eq_self]
        constructor
        · rintro hnil ⟨-, hne, -⟩
          exact hne hnil
        · intro h
          by_contra hne
          exact h ⟨hprepared, hne, rfl⟩
      · rw [allOrNothing_of_success (Nat.cast_ne_zero.mpr hid), hafter, Table.autocommit_after_rows,
          Table.contains_autocommit]
        apply iff_of_true
        · rfl
        · rintro ⟨-, -, hzero⟩
          exact hid hzero
    · have hrefused : ¬ ∀ k < v.length, (a.row k).taken .insert = true := hfirst.not_forall
      have hne : v ≠ [] := List.ne_nil_of_length_pos (Nat.zero_lt_of_lt hfirst.lt)
      have hloop : (forEach (body a true .insert) 0 v ()).2 = none := by
        rw [loop_of_firstRefused hfirst]
      rw [if_neg hrefused, hloop]
      change AllOrNothing base v 0 (_, 0) ↔ _
      rw [allOrNothing_of_failure, hafter, autocommit_after_loop hfirst, Table.contains_autocommit,
        List.append_assoc, List.append_right_eq_self, takes_effect_iff hfirst, ← Bool.not_eq_true]
      constructor
      · rintro hnone ⟨-, -, heffective⟩
        exact hnone heffective
      · intro h heffective
        exact h ⟨hprepared, hne, heffective⟩

/-- The id of the last insert is asked for, and the server refuses the second of two items. The
first one stays in the table. -/
theorem not_allOrNothing_secondRefused :
    ¬ AllOrNothing [] [false, true] (Operation.failure .getInsertIdAfterInsert)
      (run
        { row := fun k ↦
            if k = 1 then { execute := some ⟨ascii "Duplicate entry '1' for key 'PRIMARY'", false⟩ }
            else {} }
        true .getInsertIdAfterInsert [false, true]) := by
  intro h
  exact absurd (h.nothing rfl).1 (by decide)

/-- **All or nothing.** With transactions enabled, an operation leaves all items in the table or
none, as it reports, unless it asks for an id, or is refused its commit, or returns a number of
items that is the value of a failure. -/
theorem allOrNothing_iff (a : Answers) (op : Operation) (v base : List α) :
    AllOrNothing base v op.failure (run a true op v) ↔ ¬ Breaks a v op := by
  cases op with
  | insert | replace => exact allOrNothing_transaction
  | update keyed =>
    cases keyed with
    | false =>
      refine Iff.trans allOrNothing_of_failure ?_
      exact iff_of_true ⟨rfl, rfl⟩ id
    | true => exact allOrNothing_transaction
  | getInsertIdAfterInsert => exact allOrNothing_insertId

end Mysql

end Bulk

end Ormpp
