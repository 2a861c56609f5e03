import Ormpp.Bulk.Mysql
import Ormpp.Bulk.Postgresql
import Ormpp.Bulk.Sqlite
import Ormpp.Data.Shared

/-!
# Connections of one class

The slot for the last error and the transaction mode are static members of the class, so that all
its connections share them. A connection sees what another has done last.
-/

namespace Ormpp

namespace Bulk

/-- The classes. -/
inductive Client
  | sqlite
  | mysql
  | postgresql
  deriving DecidableEq

namespace Client

variable {α : Type}

/-- What the database of the class answers to a bulk operation. -/
def Answers : Client → Type
  | sqlite => Sqlite.Answers
  | mysql => Mysql.Answers
  | postgresql => Postgresql.Answers

def run : (c : Client) → c.Answers → Bool → Operation → List α → List (Action α) × ℤ
  | sqlite => Sqlite.run
  | mysql => Mysql.run
  | postgresql => Postgresql.run

/-- The static members. -/
structure Statics where
  report : Report
  transaction : Bool
  deriving DecidableEq

/-- The static members as they are initialized. -/
def Statics.initial : Statics := ⟨.clear, true⟩

/-- An operation on a connection. Those that neither read the static members nor are bulk operations
are given by what they do to the slot. -/
inductive Call (c : Client) (α : Type)
  | hasError
  | getLastError
  | setEnableTransaction (enable : Bool)
  | bulk (op : Operation) (answers : c.Answers) (v : List α)
  | other (actions : List (Action α))

/-- What a connection shows of the static members: a bulk operation shows whether it runs in a
transaction by its statements. -/
inductive Observation (α : Type)
  | nothing
  | hasError (flag : Bool)
  | lastError (text : Bytes)
  | outcome (actions : List (Action α)) (result : ℤ)
  deriving DecidableEq

def step {c : Client} (s : Statics) : Call c α → Statics × Observation α
  | .hasError => (s, .hasError s.report.hasError)
  | .getLastError => (s, .lastError s.report.lastError)
  | .setEnableTransaction enable => ({ s with transaction := enable }, .nothing)
  | .bulk op answers v =>
    let (actions, result) := c.run answers s.transaction op v
    ({ s with report := s.report.after actions }, .outcome actions result)
  | .other actions => ({ s with report := s.report.after actions }, .nothing)

/-! ## What leaves the static members alone -/

/-- What an action stores in the slot. -/
def written : Action α → Option Report
  | .resetError => some .clear
  | .setLastError text => some ⟨true, text⟩
  | .prepare _ | .begin _ | .row _ _ | .commit _ | .rollback => none

/-- The last access to the slot, if there is one, stores what is there. -/
def Restores (r : Report) (actions : List (Action α)) : Prop :=
  ∀ stored, (actions.filterMap written).getLast? = some stored → stored = r

/-- The operation does not change the static members. -/
def Harmless {c : Client} (s : Statics) : Call c α → Prop
  | .hasError | .getLastError => True
  | .setEnableTransaction enable => enable = s.transaction
  | .bulk op answers v => Restores s.report (c.run answers s.transaction op v).1
  | .other actions => Restores s.report actions

theorem after_eq (r : Report) (actions : List (Action α)) :
    r.after actions = (actions.filterMap written).getLast?.getD r := by
  induction actions using List.reverseRecOn generalizing r with
  | nil => rfl
  | append_singleton actions action ih =>
    rw [Report.after, List.foldl_append, List.filterMap_append]
    change (r.after actions).step action = _
    rw [ih]
    cases action with
    | resetError | setLastError text =>
      change _ = ((actions.filterMap written ++ [_]).getLast?).getD r
      rw [List.getLast?_concat]
      rfl
    | prepare | begin | row | commit | rollback =>
      change _ = ((actions.filterMap written ++ []).getLast?).getD r
      rw [List.append_nil]
      rfl

theorem after_eq_self {r : Report} {actions : List (Action α)} :
    r.after actions = r ↔ Restores r actions := by
  rw [after_eq, Restores]
  cases (actions.filterMap written).getLast? <;> simp

theorem step_eq_self {c : Client} {s : Statics} {call : Call c α} :
    (step s call).1 = s ↔ Harmless s call := by
  obtain ⟨report, transaction⟩ := s
  cases call with
  | hasError | getLastError => exact iff_of_true rfl trivial
  | setEnableTransaction enable => simp [step, Harmless]
  | bulk op answers v | other actions => simp [step, Harmless, ← after_eq_self]

/-- What `b` does is shown by `a`: an error of `b` by its slot, and a mode that `b` has set by its
bulk operations. -/
theorem not_isolated :
    Shared.observed (step (c := .sqlite) (α := Unit)) .a .initial
        [(.b, .other [.resetError, .setLastError (ascii "no such table: t")]),
          (.a, .hasError), (.a, .getLastError)]
      = [.hasError true, .lastError (ascii "no such table: t")] ∧
    Shared.alone (step (c := .sqlite) (α := Unit)) .initial [.hasError, .getLastError]
      = [.hasError false, .lastError []] ∧
    Shared.observed (step (c := .sqlite) (α := Unit)) .a .initial
        [(.b, .setEnableTransaction false), (.a, .bulk .insert ({} : Sqlite.Answers) [()])]
      = [.outcome [.prepare .accepted, .resetError, .row () .accepted] 1] ∧
    Shared.alone (step (c := .sqlite) (α := Unit)) .initial
        [.bulk .insert ({} : Sqlite.Answers) [()]]
      = [.outcome [.prepare .accepted, .resetError, .resetError, .begin .accepted,
          .row () .accepted, .resetError, .commit .accepted] 1] := by
  decide

/-- **Connection isolation.** A connection observes what it would observe alone, whatever the order
of the operations, as long as those of the other leave the static members as they are. -/
theorem isolation {c : Client} (who : Shared.Party) (s : Statics)
    (events : List (Shared.Party × Call c α)) (h : Shared.Along step Harmless who s events) :
    Shared.observed step who s events = Shared.alone step s (Shared.calls who events) := by
  apply Shared.observed_eq_alone
  simp only [step_eq_self]
  exact h

/-- While no error is stored, a bulk operation of `b` that succeeds does no harm. -/
theorem isolation_succeeding :
    Shared.observed (step (c := .sqlite) (α := Unit)) .a .initial
        [(.b, .bulk .insert ({} : Sqlite.Answers) [()]), (.a, .hasError)]
      = Shared.alone (step (c := .sqlite) (α := Unit)) .initial [.hasError] := by
  apply isolation (c := .sqlite) .a .initial
    [(.b, .bulk .insert ({} : Sqlite.Answers) [()]), (.a, .hasError)]
  refine ⟨fun _ ↦ after_eq_self.mp ?_, fun h ↦ absurd rfl h, trivial⟩
  decide

end Client

end Bulk

end Ormpp
