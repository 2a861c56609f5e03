import Ormpp.Sql.Grammar

/-!
# What a condition says of a row

The data of a row and the three truth values of SQL. A comparison with `NULL` is unknown, and what
is put together from conditions is known where its parts decide it. No value is given where dialects
part: to a number that is compared with a text, and to a pattern.
-/

namespace Ormpp

namespace Sql

/-! ## Data and truth values -/

inductive Datum
  | null
  | integer (n : ℤ)
  | text (value : Bytes)
  deriving DecidableEq

/-- The data of a row, by the table and the name of the column. -/
abbrev Row := Option Bytes → Bytes → Datum

inductive Truth
  | yes
  | no
  | unknown
  deriving DecidableEq

namespace Truth

def ofBool (b : Bool) : Truth := if b then yes else no

def not : Truth → Truth
  | yes => no
  | no => yes
  | unknown => unknown

def and : Truth → Truth → Truth
  | no, _ | _, no => no
  | yes, yes => yes
  | unknown, _ | _, unknown => unknown

def or : Truth → Truth → Truth
  | yes, _ | _, yes => yes
  | no, no => no
  | unknown, _ | _, unknown => unknown

/-- The truth value where a word `NOT` may stand in front. -/
def negateIf (negated : Bool) (t : Truth) : Truth := if negated then t.not else t

@[simp] theorem ofBool_or (a b : Bool) : (ofBool a).or (ofBool b) = ofBool (a || b) := by
  cases a <;> cases b <;> rfl

@[simp] theorem negateIf_ofBool (negated b : Bool) :
    negateIf negated (ofBool b) = ofBool (b != negated) := by
  cases negated <;> cases b <;> rfl

end Truth

/-! ## Comparisons -/

def Comparison.relates {α : Type} [DecidableEq α] [LT α] [DecidableLT α] (op : Comparison)
    (x y : α) : Bool :=
  match op with
  | .eq => x = y
  | .ne => x ≠ y
  | .lt => x < y
  | .le => x < y ∨ x = y
  | .gt => y < x
  | .ge => y < x ∨ x = y

namespace Datum

def compare (op : Comparison) : Datum → Datum → Option Truth
  | null, _ | _, null => some .unknown
  | integer m, integer n => some (.ofBool (op.relates m n))
  | text x, text y => some (.ofBool (op.relates x y))
  | integer _, text _ | text _, integer _ => none

/-- One of the data is equal. -/
def among (d : Datum) : List Datum → Option Truth
  | [] => some .no
  | d' :: ds => do
    let first ← d.compare .eq d'
    let rest ← d.among ds
    some (first.or rest)

/-- Where equality decides on data of one kind, `among` decides on lists of it. -/
theorem among_map {α : Type} [DecidableEq α] {f : α → Datum}
    (hf : ∀ x y, (f x).compare .eq (f y) = some (.ofBool (x = y))) (x : α) (ys : List α) :
    (f x).among (ys.map f) = some (.ofBool (x ∈ ys)) := by
  induction ys with
  | nil => rfl
  | cons y ys ih =>
    have hmem : decide (x ∈ y :: ys) = (decide (x = y) || decide (x ∈ ys)) := by
      simp only [List.mem_cons, Bool.decide_or]
    rw [List.map_cons, among, hf, ih, hmem, ← Truth.ofBool_or]
    rfl

theorem compare_eq_integer (m n : ℤ) :
    (integer m).compare .eq (integer n) = some (.ofBool (m = n)) := rfl

theorem compare_eq_text (x y : Bytes) :
    (text x).compare .eq (text y) = some (.ofBool (x = y)) := rfl

end Datum

/-! ## Expressions -/

namespace Expr

/-- The datum that an operand is. -/
def datum (row : Row) : Expr → Option Datum
  | .column table name => some (row table name)
  | .integer n => some (.integer n)
  | .text value => some (.text value)
  | .null => some .null
  | .negate e =>
    match e.datum row with
    | some (.integer n) => some (.integer (-n))
    | some .null => some .null
    | _ => none
  | _ => none

/-- What a condition says of a row. -/
def truth (row : Row) : Expr → Option Truth
  | .not e => do
    let t ← e.truth row
    some t.not
  | .or lhs rhs => do
    let l ← lhs.truth row
    let r ← rhs.truth row
    some (l.or r)
  | .and lhs rhs => do
    let l ← lhs.truth row
    let r ← rhs.truth row
    some (l.and r)
  | .compare op lhs rhs => do
    let l ← lhs.datum row
    let r ← rhs.datum row
    l.compare op r
  | .is negated lhs rhs => do
    let l ← lhs.datum row
    let r ← rhs.datum row
    some (.ofBool (decide (l = r) != negated))
  | .between negated e lo hi => do
    let d ← e.datum row
    let above ← d.compare .ge (← lo.datum row)
    let below ← d.compare .le (← hi.datum row)
    some (Truth.negateIf negated (above.and below))
  | .isIn negated e list => do
    let d ← e.datum row
    let t ← d.among (← list.mapM (datum row))
    some (Truth.negateIf negated t)
  | _ => none

/-- On the row the condition is true where `p` holds, and false otherwise. -/
def Decides (row : Row) (e : Expr) (p : Prop) : Prop :=
  ∃ t, e.truth row = some t ∧ t ≠ .unknown ∧ (t = .yes ↔ p)

theorem decides_of_truth {row : Row} {e : Expr} {b : Bool} {p : Prop}
    (h : e.truth row = some (.ofBool b)) (hb : b = true ↔ p) : e.Decides row p := by
  refine ⟨.ofBool b, h, ?_, ?_⟩
  · cases b <;> decide
  · rw [← hb]
    cases b <;> decide

theorem mapM_datum {α : Type} {row : Row} {f : α → Expr} {g : α → Datum}
    (h : ∀ x, (f x).datum row = some (g x)) (xs : List α) :
    (xs.map f).mapM (datum row) = some (xs.map g) := by
  induction xs with
  | nil => rfl
  | cons x xs ih =>
    rw [List.map_cons, List.mapM_cons, h, ih]
    rfl

/-- `IN` over data of one kind that equality decides on. -/
theorem truth_isIn {α : Type} [DecidableEq α] {row : Row} {e : Expr} {x : α} {f : α → Expr}
    {g : α → Datum} (hg : ∀ x y, (g x).compare .eq (g y) = some (.ofBool (x = y)))
    (he : e.datum row = some (g x)) (hf : ∀ y, (f y).datum row = some (g y)) (negated : Bool)
    (ys : List α) :
    (Expr.isIn negated e (ys.map f)).truth row = some (.ofBool (decide (x ∈ ys) != negated)) := by
  rw [truth, he, mapM_datum hf, ← Truth.negateIf_ofBool]
  simp only [Option.bind_eq_bind, Option.bind_some, Datum.among_map hg]

theorem datum_integerExpr (row : Row) (n : ℤ) :
    (Parser.integerExpr n).datum row = some (.integer n) := by
  obtain n | n := n
  · rfl
  · rfl

end Expr

end Sql

end Ormpp
