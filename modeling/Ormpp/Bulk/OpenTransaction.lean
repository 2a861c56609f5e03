import Ormpp.Bulk.MysqlAsync
import Ormpp.Bulk.Postgresql
import Ormpp.Bulk.Sqlite
import Ormpp.Update.Binding

/-!
# Open transactions

An operation that begins a transaction is left in many ways, and on each of them the transaction is
to be closed. It stays open where a commit is refused and the database keeps the transaction, where
PostgreSQL refuses to prepare the statement, and where an item cannot be formatted.
-/

namespace Ormpp

namespace Bulk

open Traced

variable {α : Type} {t : Transaction}

/-! ## SQLite -/

namespace Sqlite

variable {a : Answers} {type : OptType} {v : List α}

theorem after_late (r : Row) : t.after .sqlite (r.late (α := α) a type) = t := by
  rw [Row.late]
  split
  · cases r.reset <;> rfl
  · rfl

/-- The transaction of the operation stays open. -/
structure KeepsOpen (a : Answers) (type : OptType) (v : List α) : Prop where
  prepared : a.prepare = none
  begun : a.begin = none
  taken : ∀ k < v.length, (a.row k).taken type = true
  refused : ∃ refusal, a.commit = some refusal ∧ refusal.ended = false

theorem after_prepare : t.after .sqlite (prepare (α := α) a).1 = t := by
  rw [prepare]
  cases a.prepare <;> rfl

/-- The loop rolls back what it leaves. -/
theorem after_loop (hleft : (forEach (body a true type) 0 v ()).2 = none) :
    t.after .sqlite (forEach (body a true type) 0 v ()).1 = .none := by
  obtain ⟨n, hfirst⟩ := firstRefused_of_left hleft
  rw [loop_of_firstRefused hfirst, Transaction.after_append, Transaction.after_append,
    Transaction.after_append, Transaction.after_rollback, after_late]

theorem after_eq_own (ht : t ≠ .own) (getInsertId : Bool) :
    t.after .sqlite (insertOrUpdateImpl a true v type getInsertId).1 = .own
      ↔ KeepsOpen a type v := by
  have hpath := path (prepare a) a.finalize a.begin a.commit (forEach (body a true type) 0 v ())
    (if getInsertId then a.lastInsertRowid % 2 ^ 64 else castInt v.length)
  change Path _ _ _ _ _ _ (insertOrUpdateImpl a true v type getInsertId) at hpath
  generalize insertOrUpdateImpl a true v type getInsertId = x at hpath ⊢
  cases hpath with
  | unprepared hprepare =>
    apply iff_of_false
    · change t.after .sqlite (prepare a).1 ≠ .own
      rwa [after_prepare]
    · intro h
      exact absurd (hprepare.symm.trans (prepared_iff.mpr h.prepared)) nofun
  | notBegun refusal hprepare hbegin =>
    apply iff_of_false
    · change t.after .sqlite ((prepare a).1 ++ _) ≠ .own
      rw [Transaction.after_append, after_prepare]
      change (t.refused refusal.ended).after .sqlite (closeStatement a.finalize) ≠ .own
      rw [Transaction.after_closeStatement]
      intro hown
      exact ht (Transaction.refused_eq_own.mp hown).1
    · intro h
      exact absurd (hbegin.symm.trans h.begun) nofun
  | left hprepare hbegin hloop =>
    apply iff_of_false
    · change t.after .sqlite ((prepare a).1 ++ _) ≠ .own
      rw [Transaction.after_append, after_prepare]
      change Transaction.own.after .sqlite ((forEach (body a true type) 0 v ()).1 ++ _) ≠ .own
      rw [Transaction.after_append, Transaction.after_closeStatement, after_loop hloop]
      exact nofun
    · intro h
      exact absurd (hloop.symm.trans (taken_iff.mpr h.taken)) nofun
  | notCommitted refusal hprepare hbegin hloop hcommit =>
    have htaken := taken_iff.mp hloop
    change t.after .sqlite ((prepare a).1 ++ _) = .own ↔ _
    rw [Transaction.after_append, after_prepare, loop_of_taken htaken]
    change Transaction.own.after .sqlite (rows v ++ _) = .own ↔ _
    rw [Transaction.after_append, Transaction.after_rows]
    change (Transaction.own.refused refusal.ended).after .sqlite (closeStatement a.finalize) = .own
      ↔ _
    rw [Transaction.after_closeStatement, Transaction.refused_eq_own]
    constructor
    · intro h
      exact ⟨prepared_iff.mp hprepare, hbegin, htaken, refusal, hcommit, h.2⟩
    · intro h
      obtain ⟨refusal', hcommit', hended⟩ := h.refused
      cases hcommit.symm.trans hcommit'
      exact ⟨rfl, hended⟩
  | done hprepare hbegin hloop hcommit =>
    apply iff_of_false
    · change t.after .sqlite ((prepare a).1 ++ _) ≠ .own
      rw [Transaction.after_append, after_prepare, loop_of_taken (taken_iff.mp hloop)]
      change Transaction.own.after .sqlite (rows v ++ _) ≠ .own
      rw [Transaction.after_append, Transaction.after_rows]
      change Transaction.none.after .sqlite (closeStatement a.finalize) ≠ .own
      rw [Transaction.after_closeStatement]
      exact nofun
    · intro h
      obtain ⟨refusal, hcommit', -⟩ := h.refused
      exact absurd (hcommit.symm.trans hcommit') nofun

end Sqlite

/-! ## PostgreSQL -/

namespace Postgresql

variable {a : Answers} {v : List α}

/-- The transaction of the operation stays open. -/
structure KeepsOpen (t : Transaction) (a : Answers) (v : List α) : Prop where
  begins : t ≠ .callers
  begun : a.begin = none
  refused : (∃ failure, a.prepare = some failure ∧ failure.ended = false) ∨
    a.prepare = none ∧ (∀ k < v.length, taken a k = true) ∧
      ∃ failure, a.commit = some failure ∧ failure.ended = false

theorem after_guardStatment (answer : Option Failure) :
    t.after .postgresql (guardStatment (α := α) answer) = t := by
  rcases answer with _ | ⟨_ | message, ended⟩ <;> rfl

theorem after_guardedRows (v : List α) : t.after .postgresql (guardedRows v) = t :=
  Transaction.after_flatMap (fun _ ↦ rfl) v

theorem after_rollback : t.after .postgresql (rollback (α := α) a).1 = .none := by
  change Transaction.none.after .postgresql (guardStatment a.rollback) = _
  exact after_guardStatment a.rollback

/-- What `begin` leaves, where PostgreSQL accepts it. -/
def begun (t : Transaction) : Transaction := t.step (α := Unit) .postgresql (.begin .accepted)

theorem begun_eq_own (ht : t ≠ .own) : begun t = .own ↔ t ≠ .callers := by
  cases t with
  | none => decide
  | callers => decide
  | own => exact absurd rfl ht

theorem after_eq_own (ht : t ≠ .own) (getInsertId : Bool) :
    t.after .postgresql (insertOrUpdateImpl a true v getInsertId).1 = .own ↔ KeepsOpen t a v := by
  have hpath := path a v getInsertId
  generalize insertOrUpdateImpl a true v getInsertId = x at hpath ⊢
  cases hpath with
  | notBegun failure hbegin =>
    apply iff_of_false
    · change (t.refused failure.ended).after .postgresql (guardStatment _) ≠ .own
      rw [after_guardStatment]
      intro hown
      exact ht (Transaction.refused_eq_own.mp hown).1
    · intro h
      exact absurd (hbegin.symm.trans h.begun) nofun
  | unprepared failure hbegin hprepare =>
    change ((begun t).refused failure.ended).after .postgresql (guardStatment _) = .own ↔ _
    rw [after_guardStatment, Transaction.refused_eq_own, begun_eq_own ht]
    constructor
    · rintro ⟨hbegins, hended⟩
      exact ⟨hbegins, hbegin, Or.inl ⟨failure, hprepare, hended⟩⟩
    · rintro ⟨hbegins, -, ⟨failure', hprepare', hended⟩ | ⟨hprepared, -⟩⟩
      · cases hprepare.symm.trans hprepare'
        exact ⟨hbegins, hended⟩
      · exact absurd (hprepare.symm.trans hprepared) nofun
  | left n hbegin hprepare hfirst =>
    apply iff_of_false
    · change (begun t).after .postgresql (guardedRows (v.take n) ++ _) ≠ .own
      rw [Transaction.after_append, Transaction.after_append, after_rollback]
      exact nofun
    · rintro ⟨-, -, ⟨failure, hprepare', -⟩ | ⟨-, htaken, -⟩⟩
      · exact absurd (hprepare.symm.trans hprepare') nofun
      · exact hfirst.not_forall htaken
  | notCommitted failure hbegin hprepare htaken hcommit =>
    change (begun t).after .postgresql (guardedRows v ++ _) = .own ↔ _
    rw [Transaction.after_append, after_guardedRows]
    change ((begun t).refused failure.ended).after .postgresql (guardStatment _) = .own ↔ _
    rw [after_guardStatment, Transaction.refused_eq_own, begun_eq_own ht]
    constructor
    · rintro ⟨hbegins, hended⟩
      exact ⟨hbegins, hbegin, Or.inr ⟨hprepare, htaken, failure, hcommit, hended⟩⟩
    · rintro ⟨hbegins, -, ⟨failure', hprepare', -⟩ | ⟨-, -, failure', hcommit', hended⟩⟩
      · exact absurd (hprepare.symm.trans hprepare') nofun
      · cases hcommit.symm.trans hcommit'
        exact ⟨hbegins, hended⟩
  | done res hbegin hprepare htaken hcommit =>
    apply iff_of_false
    · change (begun t).after .postgresql (guardedRows v ++ _) ≠ .own
      rw [Transaction.after_append, after_guardedRows]
      exact nofun
    · rintro ⟨-, -, ⟨failure, hprepare', -⟩ | ⟨-, -, failure, hcommit', -⟩⟩
      · exact absurd (hprepare.symm.trans hprepare') nofun
      · exact absurd (hcommit.symm.trans hcommit') nofun

end Postgresql

/-! ## SQLite and PostgreSQL -/

/-- A commit that SQLite refuses because the database is busy leaves the transaction open, and so
does a statement that PostgreSQL refuses to prepare. -/
theorem own_of_refused :
    Transaction.after .sqlite .none
        (Sqlite.run { commit := some ⟨ascii "database is locked", false⟩ } true .insert [()]).1
      = .own ∧
    Transaction.after .postgresql .none
        (Postgresql.run
          { prepare := some ⟨some (ascii "ERROR:  relation does not exist"), false⟩ } true .insert
          [()]).1
      = .own := by
  decide

/-- A bulk operation with transactions enabled leaves no transaction of its own open, unless SQLite
refuses the commit of a transaction that it keeps, or PostgreSQL refuses the statement or the commit
of a transaction that it keeps. -/
theorem after_run_ne_own (op : Operation) (v : List α) (ht : t ≠ .own) :
    (∀ a, t.after .sqlite (Sqlite.run a true op v).1 ≠ .own
      ↔ op = .update false ∨ ¬ Sqlite.KeepsOpen a op.type v) ∧
    ∀ a, t.after .postgresql (Postgresql.run a true op v).1 ≠ .own
      ↔ op = .update false ∨ ¬ Postgresql.KeepsOpen t a v := by
  by_cases hop : op = .update false
  · subst hop
    refine ⟨fun a ↦ iff_of_true ht (Or.inl rfl), fun a ↦ iff_of_true ht (Or.inl rfl)⟩
  · constructor
    · intro a
      obtain ⟨getInsertId, hactions⟩ := Sqlite.run_actions hop a v
      rw [hactions, Ne, Sqlite.after_eq_own ht, or_iff_right hop]
    · intro a
      obtain ⟨getInsertId, hactions⟩ := Postgresql.run_actions hop a v
      rw [hactions, Ne, Postgresql.after_eq_own ht, or_iff_right hop]

/-- A row that violates a constraint is rolled back. -/
theorem after_run_ne_own_constraint :
    Transaction.after .sqlite .none
      (Sqlite.run
        { row := fun _ ↦ { step := some ⟨ascii "UNIQUE constraint failed: t.id", false⟩ } } true
        .insert [()]).1 ≠ .own := by
  apply ((after_run_ne_own (t := .none) .insert [()] nofun).1 _).mpr
  right
  intro h
  exact absurd (h.taken 0 Nat.one_pos) Bool.false_ne_true

/-! ## Asynchronous MySQL -/

namespace MysqlAsync

variable {a : Answers} {format : ℕ → α → Except String Bytes} {v : List α}

/-- The transaction of the operation stays open. -/
structure KeepsOpen (a : Answers) (format : ℕ → α → Except String Bytes) (v : List α) : Prop where
  nonempty : v ≠ []
  fails :
    (∃ failure, a.begin = .error failure ∧ failure.verdict = .accepted) ∨
    (∃ affected, a.begin = .ok affected) ∧
      ((∃ n, ∃ h : FirstRefused (taken a format) v n, ∃ what, format n h.item = .error what) ∨
        (∀ k (h : k < v.length), taken a format k v[k] = true) ∧
          ∃ failure, a.commit = .error failure ∧ failure.verdict = .refused false)

theorem after_rollback : t.after .mysql (rollback (α := α) a).1 = .none := by
  rw [rollback]
  cases a.rollback <;> rfl

theorem executeEach_actions (h : v ≠ []) :
    executeEach a format true v
      = bracket true (required .begin a.begin) (required .commit a.commit)
          (forEach (body a format true) 0 v 0) := by
  rw [executeEach, List.isEmpty_eq_false_iff.mpr h]
  rfl

/-- The loop that is left keeps the transaction exactly when an item could not be formatted. -/
theorem after_loop {n : ℕ} (hfirst : FirstRefused (taken a format) v n) :
    Transaction.own.after .mysql (forEach (body a format true) 0 v 0).1 = .own
      ↔ ∃ what, format n hfirst.item = .error what := by
  obtain ⟨affected, hloop⟩ := loop_of_firstRefused hfirst
  rw [hloop, Transaction.after_append, Transaction.after_rows]
  have hbody := body_of_not_taken hfirst.item_refused affected
  rcases hbody with ⟨what, hformat, hbody⟩ | ⟨formatted, failure, hformat, -, hbody⟩
  · rw [hbody]
    exact iff_of_true rfl ⟨what, hformat⟩
  · rw [hbody]
    apply iff_of_false
    · rw [Transaction.after_append, after_rollback]
      exact nofun
    · rintro ⟨what, hthrow⟩
      exact absurd (hformat.symm.trans hthrow) nofun

theorem after_loop_of_taken (h : ∀ k (hk : k < v.length), taken a format k v[k] = true) :
    Transaction.own.after .mysql (forEach (body a format true) 0 v 0).1 = .own := by
  obtain ⟨affected, hdone⟩ := loop_of_taken h
  rw [hdone]
  exact Transaction.after_rows v

theorem step_begin_eq_own (ht : t ≠ .own) {verdict : Verdict} :
    t.step (α := α) .mysql (.begin verdict) = .own ↔ verdict = .accepted := by
  rcases verdict with _ | ended
  · exact iff_of_true rfl rfl
  · exact iff_of_false (fun h ↦ ht (Transaction.refused_eq_own.mp h).1) nofun

theorem step_commit_eq_own {verdict : Verdict} :
    Transaction.own.step (α := α) .mysql (.commit verdict) = .own ↔ verdict = .refused false := by
  rcases verdict with _ | ended
  · exact iff_of_false nofun nofun
  · refine Transaction.refused_eq_own.trans ((and_iff_right rfl).trans ?_)
    exact ⟨congrArg Verdict.refused, Verdict.refused.inj⟩

/-! What keeps the transaction open, as far as the operation has come. -/

theorem keepsOpen_iff_of_notBegun (hne : v ≠ []) {failure : Failure}
    (hbegin : a.begin = .error failure) :
    KeepsOpen a format v ↔ failure.verdict = .accepted := by
  constructor
  · rintro ⟨-, ⟨failure', hbegin', hverdict⟩ | ⟨⟨affected, hbegun⟩, -⟩⟩
    · cases hbegin.symm.trans hbegin'
      exact hverdict
    · exact absurd (hbegin.symm.trans hbegun) nofun
  · intro hverdict
    exact ⟨hne, Or.inl ⟨failure, hbegin, hverdict⟩⟩

theorem keepsOpen_iff_of_firstRefused (hbegin : ∃ affected, a.begin = .ok affected) {n : ℕ}
    (hfirst : FirstRefused (taken a format) v n) :
    KeepsOpen a format v ↔ ∃ what, format n hfirst.item = .error what := by
  constructor
  · rintro ⟨-, ⟨failure, herror, -⟩ | ⟨-, ⟨n', hfirst', hthrow⟩ | ⟨htaken, -⟩⟩⟩
    · obtain ⟨affected, hok⟩ := hbegin
      exact absurd (hok.symm.trans herror) nofun
    · cases hfirst.unique hfirst'
      exact hthrow
    · exact absurd htaken hfirst.not_forall
  · intro hthrow
    have hne : v ≠ [] := List.ne_nil_of_length_pos (Nat.zero_lt_of_lt hfirst.lt)
    exact ⟨hne, Or.inr ⟨hbegin, Or.inl ⟨n, hfirst, hthrow⟩⟩⟩

theorem keepsOpen_iff_of_taken (hne : v ≠ []) (hbegin : ∃ affected, a.begin = .ok affected)
    (htaken : ∀ k (h : k < v.length), taken a format k v[k] = true) :
    KeepsOpen a format v
      ↔ ∃ failure, a.commit = .error failure ∧ failure.verdict = .refused false := by
  constructor
  · rintro ⟨-, ⟨failure, herror, -⟩ | ⟨-, ⟨n, hfirst, -⟩ | ⟨-, hkept⟩⟩⟩
    · obtain ⟨affected, hok⟩ := hbegin
      exact absurd (hok.symm.trans herror) nofun
    · exact absurd htaken hfirst.not_forall
    · exact hkept
  · intro hkept
    exact ⟨hne, Or.inr ⟨hbegin, Or.inr ⟨htaken, hkept⟩⟩⟩

theorem after_eq_own (ht : t ≠ .own) :
    t.after .mysql (executeEach a format true v).1 = .own ↔ KeepsOpen a format v := by
  by_cases hempty : v = []
  · subst hempty
    apply iff_of_false
    · exact ht
    · intro h
      exact h.nonempty rfl
  rw [executeEach_actions hempty]
  have hexit := exit_of_bracket (required .begin a.begin) (required .commit a.commit)
    (forEach (body a format true) 0 v 0)
  generalize bracket true (required .begin a.begin) (required .commit a.commit)
    (forEach (body a format true) 0 v 0) = x at hexit ⊢
  cases hexit with
  | notBegun hbegin =>
    obtain ⟨failure, herror, hactions⟩ := required_of_left hbegin
    rw [hactions, keepsOpen_iff_of_notBegun hempty herror]
    exact step_begin_eq_own ht
  | left hbegin hloop =>
    obtain ⟨hbegun, hactions⟩ := required_of_value hbegin
    rcases taken_or_firstRefused (taken a format) v with htaken | ⟨n, hfirst⟩
    · obtain ⟨affected, hdone⟩ := taken_iff.mpr htaken
      exact absurd (hloop.symm.trans hdone) nofun
    · rw [hactions, keepsOpen_iff_of_firstRefused hbegun hfirst]
      exact after_loop hfirst
  | notCommitted affected hbegin hloop hcommit =>
    obtain ⟨hbegun, hactions⟩ := required_of_value hbegin
    obtain ⟨failure, herror, hcommitted⟩ := required_of_left hcommit
    have htaken := taken_iff.mp ⟨affected, hloop⟩
    rw [hactions, hcommitted, keepsOpen_iff_of_taken hempty hbegun htaken]
    change Transaction.own.after .mysql ((forEach (body a format true) 0 v 0).1 ++ _) = .own ↔ _
    rw [Transaction.after_append, after_loop_of_taken htaken]
    refine step_commit_eq_own.trans ⟨fun hverdict ↦ ⟨failure, herror, hverdict⟩, ?_⟩
    rintro ⟨failure', herror', hverdict⟩
    cases herror.symm.trans herror'
    exact hverdict
  | done affected hbegin hloop hcommit =>
    obtain ⟨hbegun, hactions⟩ := required_of_value hbegin
    obtain ⟨⟨_, haccepted⟩, hcommitted⟩ := required_of_value hcommit
    have htaken := taken_iff.mp ⟨affected, hloop⟩
    rw [hactions, hcommitted, keepsOpen_iff_of_taken hempty hbegun htaken]
    apply iff_of_false
    · change Transaction.own.after .mysql ((forEach (body a format true) 0 v 0).1 ++ _) ≠ .own
      rw [Transaction.after_append, after_loop_of_taken htaken]
      exact nofun
    · rintro ⟨failure, herror, -⟩
      exact absurd (haccepted.symm.trans herror) nofun

theorem run_actions {op : Operation} (h : op ≠ .update false) :
    (run a format true op v).1 = (executeEach a format true v).1 := by
  cases op with
  | insert | replace | getInsertIdAfterInsert => rfl
  | update keyed =>
    cases keyed with
    | false => exact absurd rfl h
    | true => rfl

/-- A bulk operation with transactions enabled leaves no transaction of its own open, unless the
server begins one that `begin` reports as failed, or an item cannot be formatted, or the server
refuses the commit of a transaction that it keeps. -/
theorem after_run_ne_own_iff (op : Operation) (v : List α) (ht : t ≠ .own) :
    t.after .mysql (run a format true op v).1 ≠ .own
      ↔ op = .update false ∨ ¬ KeepsOpen a format v := by
  by_cases hop : op = .update false
  · subst hop
    exact iff_of_true ht (Or.inl rfl)
  · rw [run_actions hop, Ne, after_eq_own ht, or_iff_right hop]

/-- The insertion of a row that the server refuses is rolled back. -/
theorem after_run_ne_own_duplicate :
    Transaction.after .mysql .none
      (run { row := fun _ ↦ .error ⟨ascii "mysql_async query failed [1062]", .refused false⟩ }
        (fun _ _ ↦ .ok []) true .insert [()]).1 ≠ .own := by
  apply (after_run_ne_own_iff (t := .none) .insert [()] nofun).mpr
  right
  rintro ⟨-, ⟨failure, hbegin, -⟩ | ⟨-, ⟨n, hfirst, what, hthrow⟩ | ⟨htaken, -⟩⟩⟩
  · cases hbegin
  · cases hthrow
  · exact absurd (htaken 0 Nat.one_pos) Bool.false_ne_true

theorem ne_nil_keyBeforeBlank : [Name.lit (ascii "a"), Name.lit (ascii "b")] ≠ [] :=
  List.cons_ne_nil _ _

theorem nodup_keyBeforeBlank :
    ([Name.lit (ascii "a"), Name.lit (ascii "b")].map Name.text).Nodup := by
  decide

/-- `REGISTER_CONFLICT_KEY(t, a , b)` for a class with the fields `a` and `b`. -/
def keyBeforeBlank : ReflectedType where
  name := .lit (ascii "t")
  members := [.lit (ascii "a"), .lit (ascii "b")]
  members_ne_nil := ne_nil_keyBeforeBlank
  nodup := nodup_keyBeforeBlank
  conflictKey := some ⟨.lit (ascii "a"),
    [(⟨true, true⟩, .lit (ascii "b"))]⟩
  autoKey := none

/-- The first key is cut, so that there is a placeholder for it but no value, and the update throws
in the transaction that it has begun. -/
theorem own_of_throw :
    formatStructSql keyBeforeBlank (generateUpdateSql keyBeforeBlank .mysql)
        (fun name ↦ .string name) false = .error countMismatch ∧
      Transaction.after .mysql .none
        (run {}
          (fun _ t ↦
            formatStructSql keyBeforeBlank (generateUpdateSql keyBeforeBlank .mysql) t false)
          true (.update true) [fun name ↦ .string name]).1 = .own := by
  decide

end MysqlAsync

end Bulk

end Ormpp
