import Ormpp.Store.Write

/-!
# The client refines the store

Every answer of the client is the answer of the store, up to the order of the objects that are
found, over whole runs: whatever is called, as long as the numbers that are due are numbers that
the keys can have, and it can be told of every object whether it fulfils a condition.
-/

namespace Ormpp

open Sql hiding isBlank
open Bulk (OptType intMin)

/-! ## Transactions -/

namespace SqliteClient

variable (scan : List SqlRow → List SqlRow) (c : SqliteClient)

theorem execReporting_of_some {sql : Bytes} {c' : SqliteClient}
    (h : c.resetError.exec scan sql = some c') : c.execReporting scan sql = (c', true) := by
  rw [execReporting, h]

theorem execReporting_of_none {sql : Bytes} (h : c.resetError.exec scan sql = none) :
    c.execReporting scan sql = ({ c with hasError := true }, false) := by
  rw [execReporting, h]
  rfl

theorem execReporting_eq {sql : Bytes} {s : Statement} (hread : readStatement sql = some s)
    (htable : s.table? = none) :
    c.execReporting scan sql
      = match c.handle.execute scan (parameterValues []) s with
        | some (handle, _) => ({ c with
            handle := handle
            hasError := false }, true)
        | none => ({ c with hasError := true }, false) := by
  have hresolves : s.resolves c.handle.database = true := by
    cases s with
    | begin | commit | rollback => rfl
    | create | insert | update | delete | select => cases htable
  have hprepare : prepare c.resetError.handle.database sql = some ⟨s, parameterCount sql⟩ := by
    rw [prepare, hread]
    exact if_pos hresolves
  have hexec : c.resetError.exec scan sql
      = (c.handle.execute scan (parameterValues []) s).map fun r ↦ { c with
          handle := r.1
          hasError := false } := by
    rw [exec, hprepare]
    simp only [Option.bind_eq_bind, Option.bind_some]
    change (c.handle.execute scan (parameterValues []) s).bind _ = _
    cases c.handle.execute scan (parameterValues []) s <;> rfl
  cases hexecute : c.handle.execute scan (parameterValues []) s with
  | none =>
    rw [hexecute] at hexec
    exact execReporting_of_none scan c hexec
  | some r =>
    rw [hexecute] at hexec
    exact execReporting_of_some scan c hexec

theorem readStatement_begin : readStatement (ascii "BEGIN") = some .begin := by
  have hparts : parts 0 (statementTokens (ascii "BEGIN"))
      = [.token (.name (ascii "BEGIN"))] := by decide
  rw [readStatement, hparts]
  rfl

theorem readStatement_commit : readStatement (ascii "COMMIT") = some .commit := by
  have hparts : parts 0 (statementTokens (ascii "COMMIT")) = [.reserved .commit] := by decide
  rw [readStatement, hparts]
  rfl

theorem readStatement_rollback : readStatement (ascii "ROLLBACK") = some .rollback := by
  have hparts : parts 0 (statementTokens (ascii "ROLLBACK"))
      = [.token (.name (ascii "ROLLBACK"))] := by decide
  rw [readStatement, hparts]
  rfl

theorem begin_of_none (h : c.handle.saved = none) :
    c.begin scan = ({ c with
      handle := { c.handle with saved := some c.handle.database }
      hasError := false }, true) := by
  rw [begin, execReporting_eq scan c readStatement_begin rfl, SqlConnection.execute, h]
  rfl

theorem begin_of_some {db : SqlDatabase} (h : c.handle.saved = some db) :
    c.begin scan = ({ c with hasError := true }, false) := by
  rw [begin, execReporting_eq scan c readStatement_begin rfl, SqlConnection.execute, h]
  rfl

theorem commit_of_none (h : c.handle.saved = none) :
    c.commit scan = ({ c with hasError := true }, false) := by
  rw [commit, execReporting_eq scan c readStatement_commit rfl, SqlConnection.execute, h]
  rfl

theorem commit_of_some {db : SqlDatabase} (h : c.handle.saved = some db) :
    c.commit scan = ({ c with
      handle := { c.handle with saved := none }
      hasError := false }, true) := by
  rw [commit, execReporting_eq scan c readStatement_commit rfl, SqlConnection.execute, h]
  rfl

theorem rollback_of_none (h : c.handle.saved = none) :
    c.rollback scan = ({ c with hasError := true }, false) := by
  rw [rollback, execReporting_eq scan c readStatement_rollback rfl, SqlConnection.execute, h]
  rfl

theorem rollback_of_some {db : SqlDatabase} (h : c.handle.saved = some db) :
    c.rollback scan = ({ c with
      handle := { c.handle with
        database := db
        saved := none }
      hasError := false }, true) := by
  rw [rollback, execReporting_eq scan c readStatement_rollback rfl, SqlConnection.execute, h]
  rfl

end SqliteClient

/-! ## The states -/

section

variable {ι : Type} [DecidableEq ι] {T : ι → StoredClass} {allocated : Bool}
  {scan : List SqlRow → List SqlRow} {beyond : ℕ → Byte}

/-- The database has the tables of the classes. -/
def HasTables (db : SqlDatabase) (tables : Tables T allocated) : Prop :=
  ∀ i, HasTable db (tables i)

/-- The connection has what is in the store. -/
structure Represents (s : Store T allocated) (c : SqliteClient) : Prop where
  tables : HasTables c.handle.database s.tables
  saved : Option.Rel (fun tables db ↦ HasTables db tables) s.saved c.handle.saved
  inserted : c.handle.lastInsertRowid = s.inserted
  transaction : c.transaction = s.transaction

/-- No two classes have the same table. -/
def Apart (T : ι → StoredClass) : Prop := Function.Injective fun i ↦ foldCase (T i).table

/-- The state of the client and that of the store, with the error of the last call. -/
def Refines (s : Store T allocated) (c : SqliteClient) : Prop :=
  Represents s c ∧ c.hasError = s.hasError

theorem HasTables.update (hT : Apart T) {db : SqlDatabase} {tables : Tables T allocated}
    (h : HasTables db tables) (i : ι) (t : ObjectTable (T i) allocated) :
    HasTables (Function.update db (foldCase (T i).table) (some t.toSql))
      (Function.update tables i (some t)) := by
  intro j
  by_cases hj : j = i
  · subst hj
    rw [HasTable, Function.update_self, Function.update_self]
    rfl
  · rw [HasTable, Function.update_of_ne fun hname ↦ hj (hT hname), Function.update_of_ne hj]
    exact h j

theorem Represents.changed (hT : Apart T) {s : Store T allocated} {c c' : SqliteClient}
    (h : Represents s c) {i : ι} {t : ObjectTable (T i) allocated} {n : Option ℤ}
    (hchanged : Changed c.handle c'.handle t n) (htransaction : c'.transaction = c.transaction) :
    Represents (s.setTable i t n) c' where
  tables := by
    rw [hchanged.database]
    exact h.tables.update hT i t
  saved := by
    rw [hchanged.saved]
    exact h.saved
  inserted := hchanged.inserted
  transaction := htransaction.trans h.transaction

omit [DecidableEq ι] in
theorem Represents.saved_of_none {s : Store T allocated} {c : SqliteClient} (h : Represents s c)
    (hsaved : s.saved = none) : c.handle.saved = none := by
  have hrel := h.saved
  rw [hsaved] at hrel
  generalize c.handle.saved = saved at hrel ⊢
  cases hrel
  rfl

omit [DecidableEq ι] in
theorem Represents.saved_of_some {s : Store T allocated} {c : SqliteClient} (h : Represents s c)
    {tables : Tables T allocated} (hsaved : s.saved = some tables) :
    ∃ db, c.handle.saved = some db ∧ HasTables db tables := by
  have hrel := h.saved
  rw [hsaved] at hrel
  generalize c.handle.saved = saved at hrel ⊢
  cases hrel with
  | some htables => exact ⟨_, rfl, htables⟩

omit [DecidableEq ι] in
theorem Represents.of_handle {s : Store T allocated} {c c' : SqliteClient} (h : Represents s c)
    (hhandle : c'.handle = c.handle) (htransaction : c'.transaction = c.transaction) :
    Represents s c' := by
  obtain ⟨htables, hsaved, hinserted, htransaction'⟩ := h
  refine ⟨?_, ?_, ?_, htransaction.trans htransaction'⟩
  · rwa [hhandle]
  · rwa [hhandle]
  · rwa [hhandle]

end

/-! ## Statements that are prepared -/

section

variable {c : SqliteClient} {sql : Bytes}

theorem prepareV2_of_none (h : prepare c.handle.database sql = none) :
    c.prepareV2 sql = ({ c with hasError := true }, none) := by
  rw [SqliteClient.prepareV2, h]
  rfl

/-- A guard gives what its scope gives, and reports the error of the statement. -/
theorem guardStatment_eq {α : Type} (work : SqliteClient → SqliteClient × α) :
    c.guardStatment work
      = (if (work c.resetError).1.failed then (work c.resetError).1.setLastError
          else (work c.resetError).1, (work c.resetError).2) := rfl

theorem prepareV2_of_some {stmt : Prepared} (h : prepare c.handle.database sql = some stmt) :
    c.prepareV2 sql = ({ c with failed := false }, some stmt) := by
  rw [SqliteClient.prepareV2, h]

end

/-! ## Writing -/

section

variable {T : StoredClass}

/-- There is no text for an update without keys. -/
theorem updateSql_eq_nil_iff : T.updateSql = [] ↔ T.keyIndices = [] := by
  constructor
  · intro h
    by_contra hkeys
    rw [DiscreteClass.updateSql, generateUpdateSql_sqlite T hkeys] at h
    cases h
  · intro h
    have hkeys : getConflictKeys T.aliased.reflected .sqlite = [] := by
      rw [getConflictKeys_eq_nil_iff, T.keyNames_eq, h]
      rfl
    rw [DiscreteClass.updateSql, generateUpdateSql, if_pos hkeys]

theorem writing_of_keys {c : SqliteClient} {type : OptType} {write : Bytes → SqliteClient × Bool}
    (h : type = .update → T.keyIndices ≠ []) :
    c.writing T.toDiscreteClass type write
      = write (if type = .update then T.updateSql else T.insertSql type) := by
  rw [SqliteClient.writing]
  split_ifs with htype hsql
  · exact absurd (updateSql_eq_nil_iff.mp hsql) (h htype)
  · rfl
  · rfl

theorem writing_of_insert {c : SqliteClient} {write : Bytes → SqliteClient × Bool} :
    c.writing T.toDiscreteClass .insert write = write (T.insertSql .insert) := rfl

theorem writing_of_no_keys {c : SqliteClient} {type : OptType}
    {write : Bytes → SqliteClient × Bool} (h : ¬(type = .update → T.keyIndices ≠ [])) :
    c.writing T.toDiscreteClass type write = ({ c with hasError := true }, false) := by
  rw [Classical.not_imp, not_not] at h
  rw [SqliteClient.writing, if_pos h.1, if_pos (updateSql_eq_nil_iff.mpr h.2)]
  rfl

end

section

variable {ι : Type} [DecidableEq ι] {T : ι → StoredClass} {allocated : Bool}
  {scan : List SqlRow → List SqlRow} {beyond : ℕ → Byte}

variable (scan) in
theorem save_refines (hT : Apart T) {s : Store T allocated} {c : SqliteClient}
    (h : Represents s c) (i : ι) (type : OptType) (x : (T i).Object allocated)
    (hnumbers : ∀ t, s.tables i = some t → t.Numbers type x) :
    ∃ c', Represents (s.save i type x).1 c' ∧ c'.hasError = !(s.save i type x).2 ∧
      c.writing (T i).toDiscreteClass type
          (fun sql ↦ c.insertOrUpdateImpl scan allocated sql type x.value)
        = (c', (s.save i type x).2) := by
  by_cases hwrites : Store.Writes (T := T) i type
  · obtain ⟨stmt, hprepare, hstmt⟩ := prepare_write scan (h.tables i) type hwrites
    rw [writing_of_keys hwrites, SqliteClient.insertOrUpdateImpl]
    cases htable : s.tables i with
    | none =>
      have hstore : s.save i type x = (s, false) := by
        simp only [Store.save, if_pos hwrites, htable]
      rw [htable] at hprepare
      rw [hstore, prepareV2_of_none hprepare]
      exact ⟨{ c with hasError := true }, h.of_handle rfl rfl, rfl, rfl⟩
    | some t =>
      have htable₀ : HasTable ({ c with failed := false } : SqliteClient).resetError.handle.database
          (some t) := by
        rw [← htable]
        exact h.tables i
      have hinserted : ({ c with failed := false } : SqliteClient).resetError.handle.lastInsertRowid
          = s.inserted := h.inserted
      rw [htable] at hprepare
      rw [prepareV2_of_some hprepare]
      cases hsave : ObjectTable.save type x (t, s.inserted) with
      | none =>
        have hstore : s.save i type x = (s, false) := by
          simp only [Store.save, if_pos hwrites, htable, hsave]
        rw [← hinserted] at hsave
        have hexecute := stmtExecute_of_refused hstmt htable₀ (hnumbers t htable) hsave
        rw [hstore]
        refine ⟨{ c with
          failed := true
          hasError := true }, h.of_handle rfl rfl, rfl, ?_⟩
        simp only [guardStatment_eq, hexecute]
        rfl
      | some r =>
        obtain ⟨t', n⟩ := r
        have hstore : s.save i type x = (s.setTable i t' n, true) := by
          simp only [Store.save, if_pos hwrites, htable, hsave]
        rw [← hinserted] at hsave
        obtain ⟨handle, count, hchanged, hcount, hexecute⟩ :=
          stmtExecute_of_taken hstmt htable₀ (hnumbers t htable) hsave
        rw [hstore]
        refine ⟨{ c with
          handle := handle
          failed := false
          hasError := false }, h.changed hT hchanged rfl, rfl, ?_⟩
        simp only [guardStatment_eq, hexecute, ne_eq, hcount]
        rfl
  · have hstore : s.save i type x = (s, false) := by
      simp only [Store.save, if_neg hwrites]
    rw [writing_of_no_keys hwrites, hstore]
    exact ⟨{ c with hasError := true }, h.of_handle rfl rfl, rfl, rfl⟩

/-! ## Vectors -/

section

variable {T : StoredClass} {type : OptType} {stmt : Prepared} {c : SqliteClient}
  {t : ObjectTable T allocated} {v : List (T.Object allocated)}

/-- Without a transaction, what was written before an error is there. -/
theorem executeBegun_of_disabled (hstmt : Writes scan type stmt T allocated)
    (htransaction : c.transaction = false) (h : HasTable c.handle.database (some t))
    (hfailed : c.failed = false)
    (hnumbers : ObjectTable.NumbersEach type v (t, c.handle.lastInsertRowid)) :
    ∃ c', ClientChanged c c' (ObjectTable.saveEach type v (t, c.handle.lastInsertRowid)).1.1
        (ObjectTable.saveEach type v (t, c.handle.lastInsertRowid)).1.2
        (ObjectTable.saveEach type v (t, c.handle.lastInsertRowid)).2 ∧
      c.executeBegun scan allocated stmt type (v.map DiscreteClass.Object.value)
        = (c', (ObjectTable.saveEach type v (t, c.handle.lastInsertRowid)).2) := by
  obtain ⟨c', hwritten, hexecute⟩ := executeAll_eq hstmt v h hfailed hnumbers
  refine ⟨c', hwritten, ?_⟩
  have htransaction' : c'.transaction = false := hwritten.transaction.trans htransaction
  rw [SqliteClient.executeBegun]
  simp only [htransaction, Bool.false_eq_true, if_false, if_true, hexecute]
  cases (ObjectTable.saveEach type v (t, c.handle.lastInsertRowid)).2 with
  | true => simp only [if_true, htransaction', Bool.false_eq_true, if_false]
  | false => simp only [Bool.false_eq_true, if_false]

/-- In a transaction, the objects are all written, or none of them is. -/
theorem executeBegun_of_enabled (hstmt : Writes scan type stmt T allocated)
    (htransaction : c.transaction = true) (hsaved : c.handle.saved = none)
    (h : HasTable c.handle.database (some t)) (hfailed : c.failed = false)
    (hnumbers : ObjectTable.NumbersEach type v (t, c.handle.lastInsertRowid)) :
    ∃ c', c.executeBegun scan allocated stmt type (v.map DiscreteClass.Object.value)
        = (c', (ObjectTable.saveEach type v (t, c.handle.lastInsertRowid)).2) ∧
      c'.transaction = c.transaction ∧
      c'.failed = !(ObjectTable.saveEach type v (t, c.handle.lastInsertRowid)).2 ∧
      c'.hasError = false ∧ c'.handle.saved = none ∧
      c'.handle.lastInsertRowid
        = (ObjectTable.saveEach type v (t, c.handle.lastInsertRowid)).1.2 ∧
      c'.handle.database
        = if (ObjectTable.saveEach type v (t, c.handle.lastInsertRowid)).2 then
            Function.update c.handle.database (foldCase T.table)
              (some (ObjectTable.saveEach type v (t, c.handle.lastInsertRowid)).1.1.toSql)
          else c.handle.database := by
  -- what is saved for the rollback is the database before the first object
  let c₁ : SqliteClient := { c with
    handle := { c.handle with saved := some c.handle.database }
    hasError := false }
  have hbegin : (if c.transaction then c.begin scan else (c, true)) = (c₁, true) := by
    rw [if_pos htransaction]
    exact SqliteClient.begin_of_none scan c hsaved
  obtain ⟨c', hwritten, hexecute⟩ :
      ∃ c', ClientChanged c₁ c' (ObjectTable.saveEach type v (t, c.handle.lastInsertRowid)).1.1
          (ObjectTable.saveEach type v (t, c.handle.lastInsertRowid)).1.2
          (ObjectTable.saveEach type v (t, c.handle.lastInsertRowid)).2 ∧
        SqliteClient.executeAll scan allocated stmt type (v.map DiscreteClass.Object.value) c₁
          = if (ObjectTable.saveEach type v (t, c.handle.lastInsertRowid)).2 then (c', true)
            else (if c₁.transaction then (c'.rollback scan).1 else c', false) :=
    executeAll_eq hstmt v h hfailed hnumbers
  have htransaction' : c'.transaction = true := hwritten.transaction.trans htransaction
  have hsaved' : c'.handle.saved = some c.handle.database := hwritten.changed.saved
  have hdatabase : c'.handle.database = Function.update c.handle.database (foldCase T.table) _ :=
    hwritten.changed.database
  have hinserted := hwritten.changed.inserted
  have hfailed' := hwritten.failed
  rw [SqliteClient.executeBegun, hbegin]
  simp only [if_true, hexecute]
  generalize ObjectTable.saveEach type v (t, c.handle.lastInsertRowid) = r at *
  obtain ⟨⟨t', n⟩, ok⟩ := r
  cases ok with
  | true =>
    refine ⟨{ c' with
      handle := { c'.handle with saved := none }
      hasError := false }, ?_, htransaction'.trans htransaction.symm, hfailed', rfl, rfl, hinserted,
        hdatabase⟩
    simp only [if_true, htransaction', SqliteClient.commit_of_some scan c' hsaved']
  | false =>
    refine ⟨{ c' with
      handle := { c'.handle with
        database := c.handle.database
        saved := none }
      hasError := false }, ?_, htransaction'.trans htransaction.symm, hfailed', rfl, rfl, hinserted,
        rfl⟩
    have htransaction₁ : c₁.transaction = true := htransaction
    simp only [Bool.false_eq_true, if_false, htransaction₁, if_true,
      SqliteClient.rollback_of_some scan c' hsaved']

end

variable (scan) in
theorem saveAll_refines (hT : Apart T) {s : Store T allocated} {c : SqliteClient}
    (h : Represents s c) (i : ι) (type : OptType) (v : List ((T i).Object allocated))
    (hnumbers : ∀ t, s.tables i = some t →
      ObjectTable.NumbersEach type v (t, s.inserted)) :
    ∃ c', Represents (s.saveAll i type v).1 c' ∧ c'.hasError = !(s.saveAll i type v).2 ∧
      c.writing (T i).toDiscreteClass type
          (fun sql ↦ c.insertOrUpdateAll scan allocated sql type
            (v.map DiscreteClass.Object.value))
        = (c', (s.saveAll i type v).2) := by
  by_cases hwrites : Store.Writes (T := T) i type
  · obtain ⟨stmt, hprepare, hstmt⟩ := prepare_write scan (h.tables i) type hwrites
    rw [writing_of_keys hwrites, SqliteClient.insertOrUpdateAll]
    cases htable : s.tables i with
    | none =>
      have hstore : s.saveAll i type v = (s, false) := by
        simp only [Store.saveAll, if_pos hwrites, htable]
      rw [htable] at hprepare
      rw [hstore, prepareV2_of_none hprepare]
      exact ⟨{ c with hasError := true }, h.of_handle rfl rfl, rfl, rfl⟩
    | some t =>
      let c₁ : SqliteClient := { c with
        failed := false
        hasError := false }
      have hc₁ : Represents s c₁ := h.of_handle rfl rfl
      have htable₁ : HasTable c₁.handle.database (some t) := by
        rw [← htable]
        exact h.tables i
      have hnumbers₁ : ObjectTable.NumbersEach type v (t, c₁.handle.lastInsertRowid) := by
        rw [hc₁.inserted]
        exact hnumbers t htable
      rw [htable] at hprepare
      rw [prepareV2_of_some hprepare]
      have hreset : ({ c with failed := false } : SqliteClient).resetError = c₁ := rfl
      dsimp only
      rw [guardStatment_eq, hreset]
      by_cases htransaction : s.transaction = true
      · have htransaction₁ : c₁.transaction = true := hc₁.transaction.trans htransaction
        cases hsaved : s.saved with
        | some tables =>
          -- `begin` fails inside of another transaction, and nothing is executed
          have hstore : s.saveAll i type v = (s, false) := by
            simp only [Store.saveAll, if_pos hwrites, htable, htransaction, hsaved,
              Option.isSome_some, and_self, if_true]
          obtain ⟨db, hdb, -⟩ := hc₁.saved_of_some hsaved
          have hexecute : c₁.executeBegun scan allocated stmt type
              (v.map DiscreteClass.Object.value) = ({ c₁ with hasError := true }, false) := by
            rw [SqliteClient.executeBegun, if_pos htransaction₁,
              SqliteClient.begin_of_some scan c₁ hdb]
            rfl
          rw [hexecute, hstore]
          exact ⟨{ c₁ with hasError := true }, hc₁.of_handle rfl rfl, rfl, rfl⟩
        | none =>
          obtain ⟨c', hexecute, htransaction', hfailed', herror', hsaved', hinserted',
              hdatabase'⟩ :=
            executeBegun_of_enabled hstmt htransaction₁ (hc₁.saved_of_none hsaved) htable₁ rfl
              hnumbers₁
          rw [hc₁.inserted] at hexecute hfailed' hinserted' hdatabase'
          rw [hexecute]
          cases hsave : ObjectTable.saveEach type v (t, s.inserted) with
          | mk r ok =>
            obtain ⟨t', n⟩ := r
            rw [hsave] at hfailed' hinserted' hdatabase'
            cases ok with
            | true =>
              have hstore : s.saveAll i type v = (s.setTable i t' n, true) := by
                simp only [Store.saveAll, if_pos hwrites, htable, hsaved, Option.isSome_none,
                  Bool.false_eq_true, and_false, if_false, hsave]
              have hchanged : Changed c₁.handle c'.handle t' n :=
                ⟨hdatabase', hsaved'.trans (hc₁.saved_of_none hsaved).symm, hinserted'⟩
              have hfailed₁ : c'.failed = false := hfailed'
              rw [hstore]
              refine ⟨c', hc₁.changed hT hchanged htransaction', herror', ?_⟩
              simp only [hfailed₁, Bool.false_eq_true, if_false]
            | false =>
              have hstore : s.saveAll i type v = ({ s with inserted := n }, false) := by
                simp only [Store.saveAll, if_pos hwrites, htable, hsaved, Option.isSome_none,
                  Bool.false_eq_true, and_false, if_false, hsave, htransaction, if_true]
              have hfailed₁ : c'.failed = true := hfailed'
              rw [hstore]
              -- the rollback has brought the tables back, but not the number of the last object
              refine ⟨c'.setLastError, ⟨?_, ?_, hinserted', htransaction'.trans hc₁.transaction⟩,
                rfl, ?_⟩
              · change HasTables c'.handle.database s.tables
                rw [hdatabase']
                exact hc₁.tables
              · change Option.Rel _ s.saved c'.handle.saved
                rw [hsaved, hsaved']
                exact .none
              · simp only [hfailed₁, if_true]
      · rw [Bool.not_eq_true] at htransaction
        obtain ⟨c', hwritten, hexecute⟩ := executeBegun_of_disabled hstmt
          (hc₁.transaction.trans htransaction) htable₁ rfl hnumbers₁
        rw [hc₁.inserted] at hwritten hexecute
        rw [hexecute]
        cases hsave : ObjectTable.saveEach type v (t, s.inserted) with
        | mk r ok =>
          obtain ⟨t', n⟩ := r
          rw [hsave] at hwritten
          have hstore : s.saveAll i type v = (s.setTable i t' n, ok) := by
            cases ok <;> simp only [Store.saveAll, if_pos hwrites, htable, htransaction,
              Bool.false_eq_true, false_and, if_false, hsave]
          have hrepresents := hc₁.changed hT hwritten.changed hwritten.transaction
          rw [hstore]
          cases ok with
          | true =>
            have hfailed₁ : c'.failed = false := hwritten.failed
            refine ⟨c', hrepresents, hwritten.hasError rfl, ?_⟩
            simp only [hfailed₁, Bool.false_eq_true, if_false]
          | false =>
            have hfailed₁ : c'.failed = true := hwritten.failed
            refine ⟨c'.setLastError, hrepresents.of_handle rfl rfl, rfl, ?_⟩
            simp only [hfailed₁, if_true]
  · have hstore : s.saveAll i type v = (s, false) := by
      simp only [Store.saveAll, if_neg hwrites]
    rw [writing_of_no_keys hwrites, hstore]
    exact ⟨{ c with hasError := true }, h.of_handle rfl rfl, rfl, rfl⟩

/-! ## Conditions -/

omit [DecidableEq ι] in
theorem outcome_eq {s : Store T allocated} {i : ι} {str : Bytes} {args : List Argument}
    (hdecides : s.Decides i str args) {t : ObjectTable (T i) allocated} {e : Option Expr}
    (hlookup : s.lookup i str = some (t, e)) :
    ∀ y ∈ t.objects.items,
      Sql.test (parameterValues ((SqliteClient.argumentValues allocated args).take
        (parameterCount str))) e y.row = some (Store.fulfils str args e y) := by
  intro y hy
  obtain ⟨b, hb⟩ := Option.isSome_iff_exists.mp (hdecides t e hlookup y hy)
  have hfulfils : Store.fulfils str args e y = b := by
    rw [Store.fulfils, hb]
    cases b <;> rfl
  rw [hfulfils]
  exact hb

omit [DecidableEq ι] in
theorem lookup_eq_some_iff {s : Store T allocated} {i : ι} {str : Bytes}
    {t : ObjectTable (T i) allocated} {e : Option Expr} :
    s.lookup i str = some (t, e) ↔ s.tables i = some t ∧ (T i).condition str = some e := by
  rw [Store.lookup]
  cases s.tables i <;> cases (T i).condition str <;> simp

omit [DecidableEq ι] in
theorem prepare_delete_of_none {s : Store T allocated} {c : SqliteClient} (h : Represents s c)
    {i : ι} {str : Bytes} (hlookup : s.lookup i str = none) :
    prepare c.handle.database ((T i).deleteSql str) = none := by
  rw [prepare_deleteSql (h.tables i)]
  rw [Store.lookup] at hlookup
  generalize s.tables i = o at hlookup ⊢
  generalize (T i).condition str = e at hlookup ⊢
  cases o <;> cases e <;> first | rfl | cases hlookup

variable (scan) in
theorem deleteRecordsS_refines (hT : Apart T) {s : Store T allocated} {c : SqliteClient}
    (h : Represents s c) {i : ι} {str : Bytes} {args : List Argument}
    (hdecides : s.Decides i str args) {t : ObjectTable (T i) allocated} {e : Option Expr}
    (hlookup : s.lookup i str = some (t, e)) :
    ∃ c', Represents (s.setTable i (t.erase (Store.fulfils str args e)) s.inserted) c' ∧
      c'.hasError = false ∧
      c.deleteRecordsS scan allocated (T i).toDiscreteClass str args
        = (c', ((t.objects.items.filter (Store.fulfils str args e)).length : ℤ)) := by
  obtain ⟨htable, hcondition⟩ := lookup_eq_some_iff.mp hlookup
  have hprepare := prepare_deleteSql (h.tables i) str
  rw [htable, hcondition] at hprepare
  have htable₁ : HasTable ({ c with failed := false } : SqliteClient).resetError.handle.database
      (some t) := by
    rw [← htable]
    exact h.tables i
  have hexecute := execute_delete scan htable₁ (outcome_eq hdecides hlookup)
  rw [SqliteClient.deleteRecordsS, prepareV2_of_some hprepare]
  simp only [guardStatment_eq, SqliteClient.step, hexecute]
  exact ⟨{ c with
    handle := { c.handle.setTable (T i).table (t.erase (Store.fulfils str args e)).toSql with
      changes := (t.objects.items.filter (Store.fulfils str args e)).length }
    failed := false
    hasError := false }, h.changed hT ⟨rfl, rfl, h.inserted⟩ rfl, rfl, rfl⟩

theorem readObject_cellsOf {T : StoredClass} (x : T.Object allocated) :
    T.readObject beyond (cellsOf x) = x.value := by
  funext i
  have hcell : (cellsOf x).getD i .null = x.cell i := by
    have hlt : i.val < T.indices.length := by
      rw [DiscreteClass.indices, List.length_finRange]
      exact i.isLt
    have hget : T.indices[i.val]? = some i := by
      rw [List.getElem?_eq_getElem hlt]
      simp only [DiscreteClass.indices, List.getElem_finRange]
      rfl
    rw [cellsOf, List.getD_eq_getElem?_getD, List.getElem?_map, hget]
    rfl
  rw [DiscreteClass.readObject, hcell]
  exact (Sqlite.roundTrips_iff allocated _ _).mpr (x.kept i) beyond

omit [DecidableEq ι] in
theorem queryS_of_none {s : Store T allocated} {c : SqliteClient} (h : Represents s c) {i : ι}
    {str : Bytes} {args : List Argument} (hselect : containsSelect str = false)
    (htail : ¬ReadsTail str) (hcondition : IsCondition str) (hlookup : s.lookup i str = none) :
    c.queryS scan allocated beyond (T i).toDiscreteClass str args
      = ({ c with hasError := true }, []) := by
  obtain ⟨e', hprepare, -⟩ := prepare_querySql (h.tables i) hselect htail hcondition
  have hnone : prepare c.handle.database ((T i).querySql str) = none := by
    rw [hprepare]
    rw [Store.lookup] at hlookup
    generalize s.tables i = o at hlookup ⊢
    generalize (T i).condition str = e at hlookup ⊢
    cases o <;> cases e <;> first | rfl | cases hlookup
  rw [SqliteClient.queryS, prepareV2_of_none hnone]

variable (beyond) in
omit [DecidableEq ι] in
theorem queryS_refines {s : Store T allocated} {c : SqliteClient} (h : Represents s c)
    (hscan : ∀ rows, (scan rows).Perm rows) {i : ι} {str : Bytes} {args : List Argument}
    (hselect : containsSelect str = false) (htail : ¬ReadsTail str) (hcondition : IsCondition str)
    (hdecides : s.Decides i str args) {t : ObjectTable (T i) allocated} {e : Option Expr}
    (hlookup : s.lookup i str = some (t, e)) :
    ∃ c' objects, Represents s c' ∧ c'.hasError = false ∧
      objects.Perm ((t.objects.items.filter (Store.fulfils str args e)).map
        DiscreteClass.Object.value) ∧
      c.queryS scan allocated beyond (T i).toDiscreteClass str args = (c', objects) := by
  obtain ⟨htable, he⟩ := lookup_eq_some_iff.mp hlookup
  obtain ⟨e', hprepare, hsame⟩ := prepare_querySql (h.tables i) hselect htail hcondition
  rw [htable, he] at hprepare
  have htable₁ : HasTable ({ c with failed := false } : SqliteClient).resetError.handle.database
      (some t) := by
    rw [← htable]
    exact h.tables i
  have houtcome : ∀ y ∈ t.objects.items,
      Sql.test (parameterValues ((SqliteClient.argumentValues allocated args).take
        (parameterCount str))) e' y.row = some (Store.fulfils str args e y) := by
    intro y hy
    rw [hsame e he]
    exact outcome_eq hdecides hlookup y hy
  -- the rows come in the order of the scan, and each is read as the object it was written from
  obtain ⟨rows, hexecute, hrows⟩ := execute_select htable₁ hscan houtcome
  rw [SqliteClient.queryS, prepareV2_of_some hprepare]
  simp only [guardStatment_eq, SqliteClient.step, hexecute]
  refine ⟨{ c with
    failed := false
    hasError := false }, rows.map ((T i).readObject beyond), h.of_handle rfl rfl, rfl, ?_, rfl⟩
  refine (hrows.map _).trans (List.Perm.of_eq ?_)
  rw [List.map_map]
  exact List.map_congr_left fun x _ ↦ readObject_cellsOf x

/-! ## Tables -/

variable (scan) in
theorem createDatatable_refines (hT : Apart T) {s : Store T allocated} {c : SqliteClient}
    (h : Represents s c) (i : ι) :
    ∃ c', Represents { s with
        tables := Function.update s.tables i (some ((s.tables i).getD .empty)) } c' ∧
      c'.hasError = false ∧ c.createDatatable scan (T i).toDiscreteClass = (c', true) := by
  obtain ⟨handle, hexecute, hdatabase, hsaved, hinserted⟩ := execute_create scan
    (c := c.handle) (h.tables i) (parameterValues [])
  have hprepare := prepare_createSql (T := T i) allocated c.resetError.handle.database
  refine ⟨{ c with
    handle := handle
    hasError := false }, ⟨?_, ?_, ?_, h.transaction⟩, rfl, ?_⟩
  · change HasTables handle.database _
    rw [hdatabase]
    exact h.tables.update hT i _
  · change Option.Rel _ s.saved handle.saved
    rw [hsaved]
    exact h.saved
  · exact hinserted.trans h.inserted
  · refine SqliteClient.execReporting_of_some scan c ?_
    rw [SqliteClient.exec, hprepare]
    simp only [Option.bind_eq_bind, Option.bind_some]
    change (c.handle.execute scan (parameterValues []) _).bind _ = _
    rw [hexecute]
    rfl

/-! ## Runs -/

/-- The answers are the same, and the objects but for their order. -/
inductive StoreAnswer.Agrees :
    StoreAnswer ι (fun i ↦ (T i).Object allocated) → StoreAnswer ι (fun i ↦ (T i).Values) → Prop
  | done (ok : Bool) : Agrees (.done ok) (.done ok)
  | count (n : ℤ) : Agrees (.count n) (.count n)
  | id (n : Option ℤ) : Agrees (.id n) (.id n)
  | objects {i : ι} {v : List ((T i).Object allocated)} {v' : List (T i).Values}
    (h : v'.Perm (v.map DiscreteClass.Object.value)) : Agrees (.objects i v) (.objects i v')

/-- The call for the objects of a request. -/
def callOf : Store.Request T allocated → StoreCall ι fun i ↦ (T i).Values :=
  StoreCall.map fun _ x ↦ x.value

/-- The answers agree, and so do the errors. -/
def ResponseAgrees (r : Store.Response T allocated)
    (r' : StoreAnswer ι (fun i ↦ (T i).Values) × Bool) : Prop := r.1.Agrees r'.1 ∧ r.2 = r'.2

variable (scan allocated beyond T) in
/-- The client for the classes. -/
abbrev clientMachine : Mealy SqliteClient (StoreCall ι fun i ↦ (T i).Values)
    (StoreAnswer ι (fun i ↦ (T i).Values) × Bool) :=
  SqliteClient.machine scan allocated beyond fun i ↦ (T i).toDiscreteClass

section

variable {s s' : Store T allocated} {c c' : SqliteClient} {request : Store.Request T allocated}

variable (scan beyond) in
/-- The client takes the step of the store. -/
def StepRefines (s : Store T allocated) (c : SqliteClient) (request : Store.Request T allocated) :
    Prop :=
  Refines (Store.machine.step s request).1
      ((clientMachine T allocated scan beyond).step c (callOf request)).1 ∧
    ResponseAgrees (Store.machine.step s request).2
      ((clientMachine T allocated scan beyond).step c (callOf request)).2

theorem stepRefines_of_reply {hasError : Bool}
    {answer : StoreAnswer ι fun i ↦ (T i).Object allocated}
    {answer' : StoreAnswer ι fun i ↦ (T i).Values}
    (hstore : s.step request = s'.reply hasError answer)
    (hclient : c.call scan allocated beyond (fun i ↦ (T i).toDiscreteClass) (callOf request)
      = (c', answer'))
    (h : Represents s' c') (herror : c'.hasError = hasError) (hanswer : answer.Agrees answer') :
    StepRefines scan beyond s c request := by
  have hmachine : (clientMachine T allocated scan beyond).step c (callOf request)
      = (c', answer', c'.hasError) := by
    change (let (c, answer) := c.call scan allocated beyond _ (callOf request)
      (c, answer, c.hasError)) = _
    rw [hclient]
  have hstep : Store.machine.step s request = s'.reply hasError answer := hstore
  rw [StepRefines, hmachine, hstep]
  exact ⟨⟨⟨h.tables, h.saved, h.inserted, h.transaction⟩, herror⟩, hanswer, herror.symm⟩

theorem stepRefines_createDatatable (hT : Apart T) (h : Represents s c) (i : ι) :
    StepRefines scan beyond s c (.createDatatable i) := by
  obtain ⟨c', h', herror, hcall⟩ := createDatatable_refines scan hT h i
  refine stepRefines_of_reply rfl ?_ h' herror (.done true)
  rw [callOf, StoreCall.map, SqliteClient.call, hcall]
  rfl

theorem stepRefines_save (hT : Apart T) (h : Represents s c) (i : ι) (type : OptType)
    (x : (T i).Object allocated) (hpermits : s.Permits (.save i type x)) :
    StepRefines scan beyond s c (.save i type x) := by
  obtain ⟨c', h', herror, hcall⟩ := save_refines scan hT h i type x hpermits
  refine stepRefines_of_reply rfl ?_ h' herror (.count _)
  rw [callOf, StoreCall.map, SqliteClient.call, SqliteClient.save, hcall]
  rfl

theorem stepRefines_saveAll (hT : Apart T) (h : Represents s c) (i : ι) (type : OptType)
    (v : List ((T i).Object allocated)) (hpermits : s.Permits (.saveAll i type v)) :
    StepRefines scan beyond s c (.saveAll i type v) := by
  obtain ⟨c', h', herror, hcall⟩ := saveAll_refines scan hT h i type v hpermits
  refine stepRefines_of_reply rfl ?_ h' herror (.count _)
  rw [callOf, StoreCall.map, SqliteClient.call, SqliteClient.saveAll, hcall, List.length_map]
  rfl

omit [DecidableEq ι] in
theorem insertId_eq (h : Represents s c) (ok : Bool) : c.insertId ok = s.insertId ok := by
  rw [SqliteClient.insertId, Store.insertId, h.inserted]

theorem stepRefines_getInsertIdAfterInsert (hT : Apart T) (h : Represents s c) (i : ι)
    (x : (T i).Object allocated) (hpermits : s.Permits (.getInsertIdAfterInsert i x)) :
    StepRefines scan beyond s c (.getInsertIdAfterInsert i x) := by
  obtain ⟨c', h', herror, hcall⟩ := save_refines scan hT h i .insert x hpermits
  rw [writing_of_insert] at hcall
  have hclient : c.getInsertIdAfterInsert scan allocated x.value
      = (c', (s.save i .insert x).1.insertId (s.save i .insert x).2) := by
    rw [SqliteClient.getInsertIdAfterInsert, hcall, ← insertId_eq h']
  have hstore : s.step (.getInsertIdAfterInsert i x)
      = (s.save i .insert x).1.reply (!(s.save i .insert x).2)
          (.id ((s.save i .insert x).1.insertId (s.save i .insert x).2)) := rfl
  refine stepRefines_of_reply hstore ?_ h' herror (.id _)
  rw [callOf, StoreCall.map, SqliteClient.call, hclient]
  rfl

theorem stepRefines_getInsertIdAfterInsertAll (hT : Apart T) (h : Represents s c) (i : ι)
    (v : List ((T i).Object allocated)) (hpermits : s.Permits (.getInsertIdAfterInsertAll i v)) :
    StepRefines scan beyond s c (.getInsertIdAfterInsertAll i v) := by
  obtain ⟨c', h', herror, hcall⟩ := saveAll_refines scan hT h i .insert v hpermits
  rw [writing_of_insert] at hcall
  have hclient : c.getInsertIdAfterInsertAll scan allocated (v.map DiscreteClass.Object.value)
      = (c', (s.saveAll i .insert v).1.insertId (s.saveAll i .insert v).2) := by
    rw [SqliteClient.getInsertIdAfterInsertAll, hcall, ← insertId_eq h']
  have hstore : s.step (.getInsertIdAfterInsertAll i v)
      = (s.saveAll i .insert v).1.reply (!(s.saveAll i .insert v).2)
          (.id ((s.saveAll i .insert v).1.insertId (s.saveAll i .insert v).2)) := rfl
  refine stepRefines_of_reply hstore ?_ h' herror (.id _)
  rw [callOf, StoreCall.map, SqliteClient.call, hclient]
  rfl

theorem stepRefines_deleteRecordsS (hT : Apart T) (h : Represents s c) (i : ι) (str : Bytes)
    (args : List Argument) (hpermits : s.Permits (.deleteRecordsS i str args)) :
    StepRefines scan beyond s c (.deleteRecordsS i str args) := by
  cases hlookup : s.lookup i str with
  | none =>
    have hstore : s.step (.deleteRecordsS i str args) = s.reply true (.count 0) := by
      rw [Store.step, hlookup]
    have hclient : c.deleteRecordsS scan allocated (T i).toDiscreteClass str args
        = ({ c with hasError := true }, 0) := by
      rw [SqliteClient.deleteRecordsS, prepareV2_of_none (prepare_delete_of_none h hlookup)]
    exact stepRefines_of_reply hstore (congrArg (Prod.map id StoreAnswer.count) hclient)
      (h.of_handle rfl rfl) rfl (.count 0)
  | some r =>
    obtain ⟨t, e⟩ := r
    obtain ⟨c', h', herror, hclient⟩ :=
      deleteRecordsS_refines scan hT h hpermits hlookup
    have hstore : s.step (.deleteRecordsS i str args)
        = (s.setTable i (t.erase (Store.fulfils str args e)) s.inserted).reply false
            (.count (t.objects.items.filter (Store.fulfils str args e)).length) := by
      rw [Store.step, hlookup]
    exact stepRefines_of_reply hstore (congrArg (Prod.map id StoreAnswer.count) hclient) h' herror
      (.count _)

theorem stepRefines_queryS (hscan : ∀ rows, (scan rows).Perm rows) (h : Represents s c) (i : ι)
    (str : Bytes) (args : List Argument) (hpermits : s.Permits (.queryS i str args)) :
    StepRefines scan beyond s c (.queryS i str args) := by
  obtain ⟨⟨hselect, htail, hcondition⟩, hdecides⟩ := hpermits
  cases hlookup : s.lookup i str with
  | none =>
    have hstore : s.step (.queryS i str args) = s.reply true (.objects i []) := by
      rw [Store.step, hlookup]
    have hclient : c.queryS scan allocated beyond (T i).toDiscreteClass str args
        = ({ c with hasError := true }, []) :=
      queryS_of_none h hselect htail hcondition hlookup
    have hcall : c.call scan allocated beyond (fun i ↦ (T i).toDiscreteClass)
        (.queryS i str args) = ({ c with hasError := true }, .objects i []) := by
      rw [SqliteClient.call, hclient]
      rfl
    exact stepRefines_of_reply hstore hcall (h.of_handle rfl rfl) rfl (.objects (List.Perm.refl []))
  | some r =>
    obtain ⟨t, e⟩ := r
    obtain ⟨c', objects, h', herror, hperm, hclient⟩ :=
      queryS_refines beyond h hscan hselect htail hcondition hdecides
        hlookup
    have hstore : s.step (.queryS i str args)
        = s.reply false (.objects i (t.objects.items.filter (Store.fulfils str args e))) := by
      rw [Store.step, hlookup]
    refine stepRefines_of_reply hstore ?_ h' herror (.objects hperm)
    rw [callOf, StoreCall.map, SqliteClient.call, hclient]
    rfl

theorem stepRefines_begin (h : Represents s c) : StepRefines scan beyond s c .begin := by
  cases hsaved : s.saved with
  | none =>
    have hstore : s.step .begin = { s with saved := some s.tables }.reply false (.done true) := by
      rw [Store.step, hsaved]
      rfl
    have hclient := c.begin_of_none scan (h.saved_of_none hsaved)
    exact stepRefines_of_reply hstore (congrArg (Prod.map id StoreAnswer.done) hclient)
      ⟨h.tables, .some h.tables, h.inserted, h.transaction⟩ rfl (.done true)
  | some tables =>
    obtain ⟨db, hdb, -⟩ := h.saved_of_some hsaved
    have hstore : s.step .begin = s.reply true (.done false) := by
      rw [Store.step, hsaved]
      rfl
    have hclient := c.begin_of_some scan hdb
    exact stepRefines_of_reply hstore (congrArg (Prod.map id StoreAnswer.done) hclient)
      (h.of_handle rfl rfl) rfl (.done false)

theorem stepRefines_commit (h : Represents s c) : StepRefines scan beyond s c .commit := by
  cases hsaved : s.saved with
  | none =>
    have hstore : s.step .commit = s.reply true (.done false) := by
      rw [Store.step, hsaved]
      rfl
    have hclient := c.commit_of_none scan (h.saved_of_none hsaved)
    exact stepRefines_of_reply hstore (congrArg (Prod.map id StoreAnswer.done) hclient)
      (h.of_handle rfl rfl) rfl (.done false)
  | some tables =>
    obtain ⟨db, hdb, -⟩ := h.saved_of_some hsaved
    have hstore : s.step .commit = { s with saved := none }.reply false (.done true) := by
      rw [Store.step, hsaved]
      rfl
    have hclient := c.commit_of_some scan hdb
    exact stepRefines_of_reply hstore (congrArg (Prod.map id StoreAnswer.done) hclient)
      ⟨h.tables, .none, h.inserted, h.transaction⟩ rfl (.done true)

theorem stepRefines_rollback (h : Represents s c) : StepRefines scan beyond s c .rollback := by
  cases hsaved : s.saved with
  | none =>
    have hstore : s.step .rollback = s.reply true (.done false) := by
      rw [Store.step, hsaved]
    have hclient := c.rollback_of_none scan (h.saved_of_none hsaved)
    exact stepRefines_of_reply hstore (congrArg (Prod.map id StoreAnswer.done) hclient)
      (h.of_handle rfl rfl) rfl (.done false)
  | some tables =>
    obtain ⟨db, hdb, htables⟩ := h.saved_of_some hsaved
    have hstore : s.step .rollback = { s with
        tables := tables
        saved := none }.reply false (.done true) := by
      rw [Store.step, hsaved]
    have hclient := c.rollback_of_some scan hdb
    exact stepRefines_of_reply hstore (congrArg (Prod.map id StoreAnswer.done) hclient)
      ⟨htables, .none, h.inserted, h.transaction⟩ rfl (.done true)

/-- **One call.** The states stay related, and the answers agree. -/
theorem step_refines (hT : Apart T) (hscan : ∀ rows, (scan rows).Perm rows) (h : Refines s c)
    (hpermits : s.Permits request) : StepRefines scan beyond s c request := by
  obtain ⟨h, herror⟩ := h
  cases request with
  | createDatatable i => exact stepRefines_createDatatable hT h i
  | save i type x => exact stepRefines_save hT h i type x hpermits
  | saveAll i type v => exact stepRefines_saveAll hT h i type v hpermits
  | getInsertIdAfterInsert i x => exact stepRefines_getInsertIdAfterInsert hT h i x hpermits
  | getInsertIdAfterInsertAll i v => exact stepRefines_getInsertIdAfterInsertAll hT h i v hpermits
  | deleteRecordsS i str args => exact stepRefines_deleteRecordsS hT h i str args hpermits
  | queryS i str args => exact stepRefines_queryS hscan h i str args hpermits
  | begin => exact stepRefines_begin h
  | commit => exact stepRefines_commit h
  | rollback => exact stepRefines_rollback h
  | setEnableTransaction enable =>
    exact ⟨⟨⟨h.tables, h.saved, h.inserted, rfl⟩, herror⟩, .done true, herror.symm⟩

end

/-- Every call is permitted where the run meets it. -/
abbrev Store.PermitsRun (s : Store T allocated) (requests : List (Store.Request T allocated)) :
    Prop :=
  Run.Along (fun s request ↦ (Store.machine.step s request).1) Store.Permits s requests

section

variable {s : Store T allocated} {c : SqliteClient} {requests : List (Store.Request T allocated)}

variable (beyond) in
theorem answers_agree (hT : Apart T) (hscan : ∀ rows, (scan rows).Perm rows) (h : Refines s c)
    (hpermits : s.PermitsRun requests) :
    List.Forall₂ ResponseAgrees (Store.machine.run s requests)
      ((clientMachine T allocated scan beyond).run c (requests.map callOf)) :=
  (Mealy.simulates (fun _ _ _ h hpermits ↦ step_refines hT hscan h hpermits) h hpermits).1

variable (beyond) in
theorem refines_after (hT : Apart T) (hscan : ∀ rows, (scan rows).Perm rows) (h : Refines s c)
    (hpermits : s.PermitsRun requests) :
    Refines (Store.machine.after s requests)
      ((clientMachine T allocated scan beyond).after c (requests.map callOf)) :=
  (Mealy.simulates (fun _ _ _ h hpermits ↦ step_refines hT hscan h hpermits) h hpermits).2

end

/-! ### The first calls on a connection -/

/-- The store before any table is there. -/
def Store.opened : Store T allocated where
  tables _ := none

/-- The client of a database without tables. -/
def SqliteClient.opened : SqliteClient where
  handle := { database := fun _ ↦ none }

omit [DecidableEq ι] in
theorem refines_opened : Refines (Store.opened : Store T allocated) SqliteClient.opened :=
  ⟨⟨fun _ ↦ rfl, .none, rfl, rfl⟩, rfl⟩

omit [DecidableEq ι] in
/-- Of every object it can be told that it fulfils the empty condition. -/
theorem Store.decides_nil (s : Store T allocated) (i : ι) (args : List Argument) :
    s.Decides i [] args := by
  intro t e hlookup x _
  obtain ⟨-, hcondition⟩ := lookup_eq_some_iff.mp hlookup
  cases hcondition
  rfl

omit [DecidableEq ι] in
theorem permits_query_nil (s : Store T allocated) (i : ι) (args : List Argument) :
    s.Permits (.queryS i [] args) :=
  ⟨by decide, s.decides_nil i args⟩

omit [DecidableEq ι] in
theorem permits_delete_nil (s : Store T allocated) (i : ι) (args : List Argument) :
    s.Permits (.deleteRecordsS i [] args) := s.decides_nil i args

end

/-- A class with a name, an age and the auto key `id`. -/
def personClass : StoredClass where
  structName := ⟨[], .lit (ascii "person")⟩
  members := [⟨.lit (ascii "name"), .lit (ascii "name"), .value .string, rfl⟩,
    ⟨.lit (ascii "age"), .lit (ascii "age"), .value (.number (.integral .int)), rfl⟩,
    ⟨.lit (ascii "id"), .lit (ascii "id"), .value (.number (.integral .int)), rfl⟩]
  members_ne_nil := List.cons_ne_nil _ _
  nodup_members := by decide
  nodup_columns := by decide
  autoKey := some (.lit (ascii "id"))
  conflictKey := none
  autoKey_mem := by decide
  conflictKey_mem := by rintro k ⟨⟩
  namesKept := by
    refine ⟨?_, ?_, ?_, ?_⟩
    · rintro k ⟨⟩
      exact ⟨rfl, rfl⟩
    · decide
    · rintro k ⟨⟩
    · decide
  keysInFieldOrder := ⟨by rintro k ⟨⟩, by decide⟩
  readsTable := by decide
  notInternal := by decide
  readsColumn := by decide
  comparable := by decide
  numeric := by decide
  inserted := by decide

def tom : personClass.Object true where
  value
    | ⟨0, _⟩ => ascii "tom"
    | ⟨1, _⟩ => Number.ofInt _ 20
    | ⟨2, _⟩ => Number.ofInt _ 0
  kept
    | ⟨0, _⟩ => (by decide : NulFree (ascii "tom"))
    | ⟨1, _⟩ => .inl le_rfl
    | ⟨2, _⟩ => .inl le_rfl

/-- A table is created, an object stored, and a second one, whose insert is taken back. -/
def storeTom : List (Store.Request (fun _ : Unit ↦ personClass) true) :=
  [.createDatatable (), .getInsertIdAfterInsert () tom, .begin, .save () .insert tom, .rollback,
    .queryS () [] []]

theorem permits_storeTom : Store.opened.PermitsRun storeTom := by
  refine ⟨trivial, ?_, trivial, ?_, trivial, permits_query_nil _ _ _, trivial⟩
  · rintro t ⟨⟩
    decide
  · rintro t ht
    obtain rfl := Option.some.inj ht
    decide

/-- The client for the class alone, where a query gives the last rows first. -/
abbrev personClient := clientMachine (fun _ : Unit ↦ personClass) true List.reverse fun _ ↦ 0

theorem apart_person : Apart fun _ : Unit ↦ personClass := Function.injective_of_subsingleton _

end Ormpp
