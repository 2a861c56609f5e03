import Ormpp.Bulk.Completion

/-!
# The id of the last insert

A connection has the key that the server generated for the last row that was inserted, and
`get_insert_id_after_insert` reads it after its last statement. It is not the operation's own where
the operation has inserted nothing, and on MySQL not where another statement came after the insert.
-/

namespace Ormpp

namespace Bulk

open Traced

variable {α : Type}

/-- How many rows an operation has inserted, and the id that the connection has. -/
structure LastInsert where
  inserted : ℕ
  id : ℤ
  deriving DecidableEq

namespace LastInsert

/-- A row that is inserted is given the next of the keys that the server generates. On MySQL any
other statement that is answered with OK sets the id to zero. -/
def step (db : DBType) (key : ℕ → ℤ) (s : LastInsert) : Action α → LastInsert
  | .row _ .accepted => ⟨s.inserted + 1, key s.inserted⟩
  | .begin .accepted | .commit .accepted | .rollback =>
    if db = .mysql then { s with id := 0 } else s
  | .begin (.refused _) | .commit (.refused _) | .row _ (.refused _) => s
  | .prepare _ | .resetError | .setLastError _ => s

def after (db : DBType) (key : ℕ → ℤ) (s : LastInsert) (actions : List (Action α)) : LastInsert :=
  actions.foldl (step db key) s

variable {db : DBType} {key : ℕ → ℤ} {s : LastInsert}

theorem after_append (actions later : List (Action α)) :
    s.after db key (actions ++ later) = (s.after db key actions).after db key later :=
  List.foldl_append

theorem after_rows (v : List α) :
    s.after db key (rows v)
      = ⟨s.inserted + v.length, if v = [] then s.id else key (s.inserted + (v.length - 1))⟩ := by
  induction v generalizing s with
  | nil => rfl
  | cons item v ih =>
    have hcons : s.after db key (rows (item :: v))
        = (LastInsert.mk (s.inserted + 1) (key s.inserted)).after db key (rows v) := rfl
    rw [hcons, ih, if_neg (List.cons_ne_nil item v), List.length_cons, Nat.add_sub_cancel]
    rcases v with _ | ⟨second, v⟩
    · rfl
    · rw [if_neg (List.cons_ne_nil second v)]
      simp only [List.length_cons, Nat.add_sub_cancel, mk.injEq]
      exact ⟨by omega, congrArg key (by omega)⟩

theorem after_closeStatement (status : ℤ) :
    s.after db key (closeStatement (α := α) status) = s := by
  rw [closeStatement]
  split_ifs <;> rfl

end LastInsert

/-! ## The clients -/

/-- A client with `get_insert_id_after_insert`, and what its server answers. -/
inductive Inserter (α : Type)
  | sqlite (a : Sqlite.Answers)
  | mysql (a : Mysql.Answers)
  | mysqlAsync (a : MysqlAsync.Answers) (format : ℕ → α → Except String Bytes)

namespace Inserter

def db : Inserter α → DBType
  | sqlite _ => .sqlite
  | mysql _ | mysqlAsync _ _ => .mysql

/-- `get_insert_id_after_insert`, where the connection has the given id when it is read. -/
def run (transaction : Bool) (v : List α) (id : ℤ) : Inserter α → List (Action α) × ℤ
  | sqlite a => Sqlite.run { a with lastInsertRowid := id } transaction .getInsertIdAfterInsert v
  | mysql a =>
    Mysql.run { a with insertId := (id % 2 ^ 64).toNat } transaction .getInsertIdAfterInsert v
  | mysqlAsync a format =>
    MysqlAsync.run { a with lastInsertId := (id % 2 ^ 64).toNat } format transaction
      .getInsertIdAfterInsert v

/-- The operation has not failed. -/
def succeeded (transaction : Bool) (v : List α) : Inserter α → Bool
  | sqlite a => (Sqlite.insertOrUpdateImpl a transaction v .insert true).2.isSome
  | mysql a => (Mysql.insertOrUpdateImpl a transaction v .insert true).2.isSome
  | mysqlAsync a format =>
    (valueOr intMin (MysqlAsync.executeEach a format transaction v)).2 ≠ intMin

section

variable (c : Inserter α) (transaction : Bool) (v : List α) (key : ℕ → ℤ) (before : ℤ)

/-- The connection after the operation, whose statements do not depend on the id that is read. -/
def last : LastInsert := LastInsert.after c.db key ⟨0, before⟩ (c.run transaction v 0).1

/-- `get_insert_id_after_insert`. -/
def getInsertIdAfterInsert : ℤ := (c.run transaction v (c.last transaction v key before).id).2

/-- The key of the last row that was inserted is returned, as an unsigned integer, and zero if
there is none or the operation has failed. -/
structure ReturnsLastKey : Prop where
  inserted : c.succeeded transaction v = true → 0 < (c.last transaction v key before).inserted →
    c.getInsertIdAfterInsert transaction v key before
      = key ((c.last transaction v key before).inserted - 1) % 2 ^ 64
  zero : c.succeeded transaction v = false ∨ (c.last transaction v key before).inserted = 0 →
    c.getInsertIdAfterInsert transaction v key before = 0

end

/-- No call of the operation fails, and the affected rows do not add up to `INT_MIN`. -/
def Completes (transaction : Bool) (v : List α) : Inserter α → Prop
  | sqlite a => Sqlite.Completes a transaction .insert v.length
  | mysql a => Mysql.Completes a false .insert v.length
  | mysqlAsync a format =>
    MysqlAsync.Completes a format (transaction && !v.isEmpty) v ∧
      ∑ k ∈ Finset.range v.length, MysqlAsync.affectedRows a k ≠ intMin

/-- The id is read behind a `COMMIT` of MySQL. -/
def readsBehindCommit (transaction : Bool) : Inserter α → Bool
  | sqlite _ | mysql _ => false
  | mysqlAsync _ _ => transaction

variable {c : Inserter α} {transaction : Bool} {v : List α} {key : ℕ → ℤ} {before : ℤ}

/-! ## What is returned -/

theorem after_statement {db : DBType} {opens : Bool} {s : LastInsert} {statement : Action α}
    (h : opens = true → s.step db key statement = s) :
    s.after db key (if opens then [.resetError, statement] else []) = s := by
  rcases opens with _ | _
  · rfl
  · exact h rfl

/-- Other statements than those for the items leave the id alone. -/
theorem after_completed {db : DBType} {opens : Bool} {s : LastInsert} {close : ℤ}
    (hopens : opens = true → db ≠ .mysql) :
    s.after db key (completed opens v close) = s.after db key (rows v) := by
  have hbegin (s : LastInsert) (h : opens = true) : s.step db key (.begin (α := α) .accepted) = s :=
    if_neg (hopens h)
  have hcommit (s : LastInsert) (h : opens = true) :
      s.step db key (.commit (α := α) .accepted) = s :=
    if_neg (hopens h)
  have hcons : s.after db key (completed opens v close)
      = s.after db key ((if opens then [.resetError, .begin .accepted] else []) ++
        (rows v ++ (if opens then [.resetError, .commit .accepted] else []))
        ++ closeStatement close) := rfl
  rw [hcons, LastInsert.after_append, LastInsert.after_append, LastInsert.after_append,
    LastInsert.after_closeStatement, after_statement (hcommit _), after_statement (hbegin _)]

theorem after_completed_async {s : LastInsert} {opens : Bool} :
    s.after .mysql key (MysqlAsync.completed opens v)
      = if opens then ⟨s.inserted + v.length, 0⟩ else s.after .mysql key (rows v) := by
  rw [MysqlAsync.completed, LastInsert.after_append, LastInsert.after_append]
  rcases opens with _ | _
  · rfl
  · rw [if_pos rfl, if_pos rfl, if_pos rfl]
    have hbegin : s.after .mysql key [.begin (α := α) .accepted] = ⟨s.inserted, 0⟩ := rfl
    rw [hbegin, LastInsert.after_rows]
    rfl

/-- The connection at the end of an operation that does not fail. -/
def lastOf (c : Inserter α) (transaction : Bool) (v : List α) (key : ℕ → ℤ) (before : ℤ) :
    LastInsert :=
  ⟨v.length, if v = [] then before else if c.readsBehindCommit transaction then 0
    else key (v.length - 1)⟩

theorem after_rows_eq {db : DBType} (v : List α) :
    LastInsert.after db key ⟨0, before⟩ (rows v)
      = ⟨v.length, if v = [] then before else key (v.length - 1)⟩ := by
  rw [LastInsert.after_rows, Nat.zero_add, Nat.zero_add]

theorem natCast_toNat_emod (id : ℤ) : (((id % 2 ^ 64).toNat : ℕ) : ℤ) = id % 2 ^ 64 :=
  Int.toNat_of_nonneg (Int.emod_nonneg id (by norm_num))

/-- An operation that does not fail returns the id that the connection has at its end. -/
theorem run_of_completes (h : c.Completes transaction v) (key : ℕ → ℤ) (before : ℤ) :
    ∃ actions, (∀ id, c.run transaction v id = (actions, id % 2 ^ 64)) ∧
      c.succeeded transaction v = true ∧
      LastInsert.after c.db key ⟨0, before⟩ actions = c.lastOf transaction v key before := by
  obtain a | a | ⟨a, format⟩ := c
  · refine ⟨completed transaction v a.finalize, fun id ↦ ?_, ?_, ?_⟩
    · have hid : Sqlite.Completes { a with lastInsertRowid := id } transaction .insert v.length :=
        ⟨h.prepare, h.rows, h.transaction⟩
      exact congrArg (valueOr 0) (Sqlite.insertOrUpdateImpl_of_completes true hid)
    · exact congrArg (fun x ↦ x.2.isSome)
        (Sqlite.insertOrUpdateImpl_of_completes true h)
    · have hdb : transaction = true → (sqlite (α := α) a).db ≠ .mysql := fun _ ↦ nofun
      rw [after_completed hdb, after_rows_eq]
      rfl
  · have hopens : (transaction && !true) = false := Bool.and_false transaction
    refine ⟨completed (transaction && !true) v a.close, fun id ↦ ?_, ?_, ?_⟩
    · have hid : Mysql.Completes { a with insertId := (id % 2 ^ 64).toNat } (transaction && !true)
          .insert v.length := by
        rw [hopens]
        exact ⟨h.prepared, h.rows, h.transaction⟩
      have hvalue : valueOr 0 (Mysql.insertOrUpdateImpl
          { a with insertId := (id % 2 ^ 64).toNat } transaction v .insert true)
            = (completed (transaction && !true) v a.close, ((id % 2 ^ 64).toNat : ℤ)) :=
        congrArg (valueOr 0) (Mysql.insertOrUpdateImpl_of_completes true hid)
      rw [natCast_toNat_emod] at hvalue
      exact hvalue
    · have hmysql : Mysql.Completes a (transaction && !true) .insert v.length := by
        rw [hopens]
        exact h
      exact congrArg (fun x ↦ x.2.isSome)
        (Mysql.insertOrUpdateImpl_of_completes true hmysql)
    · have hdb : false = true → (mysql (α := α) a).db ≠ .mysql := nofun
      rw [hopens, after_completed hdb, after_rows_eq]
      rfl
  · obtain ⟨hasync, hcount⟩ := h
    have hexecute := MysqlAsync.executeEach_of_completes hasync
    refine ⟨MysqlAsync.completed (transaction && !v.isEmpty) v, fun id ↦ ?_, ?_, ?_⟩
    · have hvalue : (mysqlAsync a format).run transaction v id
          = ((MysqlAsync.executeEach a format transaction v).1,
            if (valueOr intMin (MysqlAsync.executeEach a format transaction v)).2 = intMin then 0
            else ((id % 2 ^ 64).toNat : ℤ)) := rfl
      rw [hvalue, hexecute, valueOr_some, if_neg hcount, natCast_toNat_emod]
    · change decide ((valueOr intMin (MysqlAsync.executeEach a format transaction v)).2 ≠ intMin)
        = true
      rw [hexecute, valueOr_some]
      exact decide_eq_true hcount
    · have hdb : (mysqlAsync a format).db = .mysql := rfl
      rw [hdb, after_completed_async]
      rcases v with _ | ⟨item, v⟩
      · rw [List.isEmpty_nil, Bool.not_true, Bool.and_false, if_neg Bool.false_ne_true]
        rfl
      · rw [List.isEmpty_cons, Bool.not_false, Bool.and_true, after_rows_eq,
          if_neg (List.cons_ne_nil item v), lastOf, if_neg (List.cons_ne_nil item v)]
        rcases transaction with _ | _
        · rfl
        · rw [Nat.zero_add]
          rfl

theorem run_of_not_completes (h : ¬c.Completes transaction v) (id : ℤ) :
    (c.run transaction v id).2 = 0 ∧ c.succeeded transaction v = false := by
  obtain a | a | ⟨a, format⟩ := c
  · have hnone (id : ℤ) : (Sqlite.insertOrUpdateImpl { a with lastInsertRowid := id } transaction v
        .insert true).2 = none := by
      refine Option.eq_none_iff_forall_ne_some.mpr fun n hn ↦ h ?_
      obtain ⟨hprepare, hrows, htransaction⟩ := (Sqlite.insertOrUpdateImpl_eq_some_iff.mp hn).1
      exact ⟨hprepare, hrows, htransaction⟩
    exact ⟨congrArg (Option.getD · 0) (hnone id),
      congrArg Option.isSome (hnone a.lastInsertRowid)⟩
  · have hnone (n : ℕ) : (Mysql.insertOrUpdateImpl { a with insertId := n } transaction v
        .insert true).2 = none := by
      refine Option.eq_none_iff_forall_ne_some.mpr fun m hm ↦ h ?_
      have hcompletes := (Mysql.insertOrUpdateImpl_eq_some_iff.mp hm).1
      rw [Bool.not_true, Bool.and_false] at hcompletes
      exact ⟨hcompletes.prepared, hcompletes.rows, hcompletes.transaction⟩
    exact ⟨congrArg (Option.getD · 0) (hnone _), congrArg Option.isSome (hnone a.insertId)⟩
  · have hcount : (valueOr intMin (MysqlAsync.executeEach a format transaction v)).2 = intMin := by
      rcases hvalue : (MysqlAsync.executeEach a format transaction v).2 with _ | n
      · exact congrArg (Option.getD · intMin) hvalue
      · have hasync : MysqlAsync.Completes a format (transaction && !v.isEmpty) v :=
          MysqlAsync.completes_of_executeEach (Option.isSome_iff_exists.mpr ⟨n, hvalue⟩)
        rw [MysqlAsync.executeEach_of_completes hasync, valueOr_some]
        by_contra hne
        exact h ⟨hasync, hne⟩
    exact ⟨if_pos hcount, decide_eq_false (not_not_intro hcount)⟩

theorem returnsLastKey_iff_of_inserted (hsucceeded : c.succeeded transaction v = true)
    (hpos : 0 < (c.last transaction v key before).inserted) :
    c.ReturnsLastKey transaction v key before ↔
      c.getInsertIdAfterInsert transaction v key before
        = key ((c.last transaction v key before).inserted - 1) % 2 ^ 64 := by
  constructor
  · intro h
    exact h.inserted hsucceeded hpos
  · intro hkey
    refine ⟨fun _ _ ↦ hkey, ?_⟩
    rintro (hfailed | hzero)
    · exact absurd (hfailed.symm.trans hsucceeded) Bool.false_ne_true
    · exact absurd hzero hpos.ne'

theorem returnsLastKey_iff_of_none_inserted
    (h : c.succeeded transaction v = false ∨ (c.last transaction v key before).inserted = 0) :
    c.ReturnsLastKey transaction v key before ↔
      c.getInsertIdAfterInsert transaction v key before = 0 := by
  constructor
  · intro hreturns
    exact hreturns.zero h
  · intro hvalue
    refine ⟨fun hsucceeded hpos ↦ ?_, fun _ ↦ hvalue⟩
    rcases h with hfailed | hzero
    · exact absurd (hfailed.symm.trans hsucceeded) Bool.false_ne_true
    · exact absurd hzero hpos.ne'

/-- **The id of the last insert.** -/
theorem returnsLastKey_iff (c : Inserter α) (transaction : Bool) (v : List α) (key : ℕ → ℤ)
    (before : ℤ) :
    c.ReturnsLastKey transaction v key before ↔ ¬c.Completes transaction v ∨
      if v = [] then before % 2 ^ 64 = 0
      else c.readsBehindCommit transaction = true → key (v.length - 1) % 2 ^ 64 = 0 := by
  by_cases hcompletes : c.Completes transaction v
  · obtain ⟨actions, hrun, hsucceeded, hafter⟩ :=
      run_of_completes hcompletes key before
    have hlast : c.last transaction v key before = c.lastOf transaction v key before := by
      rw [last, hrun, hafter]
    have hinserted : (c.last transaction v key before).inserted = v.length := by
      rw [hlast]
      rfl
    have hvalue : c.getInsertIdAfterInsert transaction v key before
        = (c.lastOf transaction v key before).id % 2 ^ 64 := by
      rw [getInsertIdAfterInsert, hrun, hlast]
    rw [or_iff_right (not_not_intro hcompletes)]
    by_cases hnil : v = []
    · have hid : (c.lastOf transaction v key before).id = before := if_pos hnil
      have hnone : (c.last transaction v key before).inserted = 0 :=
        hinserted.trans (List.length_eq_zero_iff.mpr hnil)
      rw [if_pos hnil, returnsLastKey_iff_of_none_inserted (.inr hnone), hvalue, hid]
    · have hid : (c.lastOf transaction v key before).id
          = if c.readsBehindCommit transaction then 0 else key (v.length - 1) := if_neg hnil
      have hpos : 0 < (c.last transaction v key before).inserted :=
        hinserted.symm ▸ List.length_pos_of_ne_nil hnil
      rw [if_neg hnil, returnsLastKey_iff_of_inserted hsucceeded hpos, hinserted, hvalue, hid]
      rcases c.readsBehindCommit transaction with _ | _
      · exact iff_of_true rfl nofun
      · rw [if_pos rfl, Int.zero_emod]
        exact ⟨fun h _ ↦ h.symm, fun h ↦ (h rfl).symm⟩
  · obtain ⟨hvalue, hfailed⟩ :=
      run_of_not_completes hcompletes (c.last transaction v key before).id
    rw [returnsLastKey_iff_of_none_inserted (.inl hfailed)]
    exact iff_of_true hvalue (.inl hcompletes)

theorem not_returnsLastKey :
    ¬ ∀ (c : Inserter ℕ) (transaction : Bool) (v : List ℕ) (key : ℕ → ℤ) (before : ℤ),
      c.ReturnsLastKey transaction v key before := by
  intro h
  have hasync := h (.mysqlAsync {} fun _ _ ↦ .ok []) true [0] (fun _ ↦ 7) 6
  exact absurd (hasync.inserted (by decide) (by decide)) (by decide)

end Inserter

end Bulk

end Ormpp
