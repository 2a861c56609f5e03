import Ormpp.Sql.Token

/-!
# Expressions

The grammar of SQLite for expressions over columns and literals. An operator binds its operands as
its level says: `OR` below `AND` below `NOT`, then the equalities with `LIKE`, `BETWEEN`, `IN` and
`IS`, then the comparisons, then the minus sign. The `AND` of a `BETWEEN` belongs to it.
-/

namespace Ormpp

namespace Sql

inductive Expr
  | column (table : Option Bytes) (name : Bytes)
  | integer (n : ℕ)
  | text (value : Bytes)
  | null
  | negate (e : Expr)
  | not (e : Expr)
  | or (lhs rhs : Expr)
  | and (lhs rhs : Expr)
  | compare (op : Comparison) (lhs rhs : Expr)
  | is (negated : Bool) (lhs rhs : Expr)
  | like (negated : Bool) (e pattern : Expr)
  | between (negated : Bool) (e lo hi : Expr)
  | isIn (negated : Bool) (e : Expr) (list : List Expr)

/-- An operator behind its first operand. -/
inductive Operator
  | or
  | and
  | compare (op : Comparison)
  | is (negated : Bool)
  | like (negated : Bool)
  | between (negated : Bool)
  | isIn (negated : Bool)

/-- How tightly an operator binds. -/
def Operator.level : Operator → ℕ
  | .or => 1
  | .and => 2
  | .compare .eq | .compare .ne | .is _ | .like _ | .between _ | .isIn _ => 4
  | .compare .lt | .compare .le | .compare .gt | .compare .ge => 5

namespace Parser

/-- What a reader makes of the front of a list of tokens. -/
abbrev Reader (α : Type) := List Token → Option (α × List Token)

/-- The operator in front, with the tokens behind it. -/
def operator : Reader Operator
  | .keyword .or :: ts => some (.or, ts)
  | .keyword .and :: ts => some (.and, ts)
  | .symbol (.compare op) :: ts => some (.compare op, ts)
  | .keyword .is :: .keyword .not :: ts => some (.is true, ts)
  | .keyword .is :: ts => some (.is false, ts)
  | .keyword .like :: ts => some (.like false, ts)
  | .keyword .not :: .keyword .like :: ts => some (.like true, ts)
  | .keyword .between :: ts => some (.between false, ts)
  | .keyword .not :: .keyword .between :: ts => some (.between true, ts)
  | .keyword .inList :: ts => some (.isIn false, ts)
  | .keyword .not :: .keyword .inList :: ts => some (.isIn true, ts)
  | _ => none

/-- Takes one token away. -/
def expect (t : Token) : List Token → Option (List Token)
  | t' :: ts => if t' = t then some ts else none
  | [] => none

section

-- reads an expression whose operators bind at least as tightly as the level says
variable (sub : ℕ → Reader Expr)

/-- A list up to its closing parenthesis. -/
def list : ℕ → Reader (List Expr)
  | 0, _ => none
  | n + 1, ts => do
    let (e, ts) ← sub 0 ts
    match ts with
    | .symbol .comma :: ts => do
      let (es, ts) ← list n ts
      some (e :: es, ts)
    | .symbol .closeParen :: ts => some ([e], ts)
    | _ => none

/-- The list of an `IN`, which may be empty. -/
def parenthesized (ts : List Token) : Option (List Expr × List Token) := do
  let ts ← expect (.symbol .openParen) ts
  match ts with
  | .symbol .closeParen :: ts => some ([], ts)
  | ts => list sub ts.length ts

/-- The operands behind an operator. -/
def operands (lhs : Expr) : Operator → Reader Expr
  | .or, ts => do let (rhs, ts) ← sub 2 ts; some (.or lhs rhs, ts)
  | .and, ts => do let (rhs, ts) ← sub 3 ts; some (.and lhs rhs, ts)
  | .compare op, ts => do
    let (rhs, ts) ← sub (Operator.compare op).level.succ ts
    some (.compare op lhs rhs, ts)
  | .is negated, ts => do let (rhs, ts) ← sub 5 ts; some (.is negated lhs rhs, ts)
  | .like negated, ts => do let (pattern, ts) ← sub 5 ts; some (.like negated lhs pattern, ts)
  | .between negated, ts => do
    let (lo, ts) ← sub 5 ts
    let ts ← expect (.keyword .and) ts
    let (hi, ts) ← sub 5 ts
    some (.between negated lhs lo hi, ts)
  | .isIn negated, ts => do
    let (es, ts) ← parenthesized sub ts
    some (.isIn negated lhs es, ts)

/-- An operand without the operators behind it. -/
def primary : Reader Expr
  | .integer n :: ts => some (.integer n, ts)
  | .text value :: ts => some (.text value, ts)
  | .keyword .null :: ts => some (.null, ts)
  | .name table :: .symbol .dot :: .name column :: ts => some (.column (some table) column, ts)
  | .name column :: ts => some (.column none column, ts)
  | .symbol .minus :: ts => do let (e, ts) ← sub 6 ts; some (.negate e, ts)
  | .keyword .not :: ts => do let (e, ts) ← sub 3 ts; some (.not e, ts)
  | .symbol .openParen :: ts => do
    let (e, ts) ← sub 0 ts
    let ts ← expect (.symbol .closeParen) ts
    some (e, ts)
  | _ => none

/-- The operators behind a first operand, from left to right, as long as they bind tightly
enough. -/
def operators (level : ℕ) : ℕ → Expr → Reader Expr
  | 0, _, _ => none
  | n + 1, lhs, ts =>
    match operator ts with
    | none => some (lhs, ts)
    | some (op, rest) =>
      if op.level < level then some (lhs, ts)
      else do
        let (e, ts) ← operands sub lhs op rest
        operators level n e ts

end

/-- An expression at a level. The number bounds the nesting. -/
def expr : ℕ → ℕ → Reader Expr
  | 0, _, _ => none
  | n + 1, level, ts => do
    let (lhs, ts) ← primary (expr n) ts
    operators (expr n) level (ts.length + 1) lhs ts

end Parser

/-- The expression that a list of tokens makes up. -/
def parseTokens (ts : List Token) : Option Expr :=
  match Parser.expr (ts.length + 1) 0 ts with
  | some (e, []) => some e
  | _ => none

/-- The part of a text in front of its first NUL. -/
def cString (text : Bytes) : Bytes := text.takeWhile fun b ↦ b != 0

/-- The expression that SQLite reads in a text. -/
def parse (text : Bytes) : Option Expr := parseTokens (tokens (standard.lex (cString text)))

/-! ## Reading one operator at a time -/

namespace Parser

variable {sub : ℕ → Reader Expr}

@[simp] theorem expect_self (t : Token) (ts : List Token) : expect t (t :: ts) = some ts :=
  if_pos rfl

/-- The front of the tokens is no operator that binds as tightly as the level. -/
def Stops (level : ℕ) (ts : List Token) : Prop :=
  ∀ op rest, operator ts = some (op, rest) → op.level < level

theorem stops_of_none {level : ℕ} {ts : List Token} (h : operator ts = none) : Stops level ts := by
  intro op rest hop
  cases h.symm.trans hop

theorem operators_of_stops {level : ℕ} {ts : List Token} (h : Stops level ts) (n : ℕ) (lhs : Expr) :
    operators sub level (n + 1) lhs ts = some (lhs, ts) := by
  rw [operators]
  split
  · rfl
  · rename_i op rest hop
    exact if_pos (h op rest hop)

/-- A first operand with no operator behind it. -/
theorem expr_primary {n level : ℕ} {ts rest : List Token} {e : Expr}
    (hprimary : primary (expr n) ts = some (e, rest)) (hstops : Stops level rest) :
    expr (n + 1) level ts = some (e, rest) := by
  simp only [expr, hprimary, Option.bind_eq_bind, Option.bind_some, operators_of_stops hstops]

/-- A first operand with one operator behind it, between parentheses. -/
theorem primary_operator {n : ℕ} {ts rest rest' more : List Token} {lhs e : Expr} {op : Operator}
    (hprimary : primary (expr n) ts = some (lhs, rest)) (hop : operator rest = some (op, rest'))
    (hoperands : operands (expr n) lhs op rest' = some (e, .symbol .closeParen :: more)) :
    primary (expr (n + 1)) (.symbol .openParen :: ts) = some (e, more) := by
  obtain ⟨t, rest, rfl⟩ : ∃ t ts, rest = t :: ts := by
    cases rest with
    | nil => cases hop
    | cons t ts => exact ⟨t, ts, rfl⟩
  have hinner : expr (n + 1) 0 ts = some (e, .symbol .closeParen :: more) := by
    simp only [expr, hprimary, Option.bind_eq_bind, Option.bind_some, operators, hop, hoperands,
      List.length_cons, Nat.not_lt_zero, if_false]
    rfl
  simp only [primary, hinner, Option.bind_eq_bind, Option.bind_some, expect_self]

/-- An integer, with its sign. -/
def integerExpr : ℤ → Expr
  | .ofNat n => .integer n
  | .negSucc n => .negate (.integer (n + 1))

/-- No operator binds as tightly as the sign. -/
theorem stops_sign (ts : List Token) : Stops 6 ts := by
  intro op rest _
  fun_cases Operator.level op <;> decide

theorem primary_integerTokens (m : ℕ) (n : ℤ) (rest : List Token) :
    primary (expr (m + 1)) (integerTokens n ++ rest) = some (integerExpr n, rest) := by
  cases n with
  | ofNat n => rfl
  | negSucc n =>
    have hoperand : expr (m + 1) 6 (.integer (n + 1) :: rest) = some (.integer (n + 1), rest) :=
      expr_primary rfl (stops_sign rest)
    simp only [integerTokens, List.cons_append, List.nil_append, primary, hoperand,
      Option.bind_eq_bind, Option.bind_some, integerExpr]

end Parser

end Sql

end Ormpp
