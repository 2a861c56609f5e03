import Ormpp.Codec.Sqlite
import Ormpp.Query.Fidelity

/-!
# Literals and bound numbers

The query builder writes a number into the statement as a literal, and the SQLite backend binds it
as an `int` or, for the types that `is_int64_v` knows, as a 64-bit integer. The two are the same
number exactly when it fits the integer that is bound.
-/

namespace Ormpp

/-! ## Comparisons of numbers -/

namespace Sql

/-- The number that an expression stands for in a row. -/
def Expr.number (row : Option Bytes → Bytes → Option ℤ) : Expr → Option ℤ
  | .column table name => row table name
  | .integer n => some n
  | .negate e => (e.number row).map fun n ↦ -n
  | _ => none

def Comparison.holds : Comparison → ℤ → ℤ → Bool
  | .eq, a, b => a = b
  | .ne, a, b => a ≠ b
  | .lt, a, b => a < b
  | .le, a, b => a ≤ b
  | .gt, a, b => a > b
  | .ge, a, b => a ≥ b

/-- Whether a comparison is true of a row. -/
def Expr.selects (row : Option Bytes → Bytes → Option ℤ) : Expr → Option Bool
  | .compare op lhs rhs => do
    let a ← lhs.number row
    let b ← rhs.number row
    some (op.holds a b)
  | _ => none

theorem number_integerExpr (row : Option Bytes → Bytes → Option ℤ) (n : ℤ) :
    (Parser.integerExpr n).number row = some n := by
  obtain n | n := n
  · rfl
  · rfl

/-- A literal is read as the number it was written for. -/
theorem parse_intText (n : ℤ) : parse (intText n) = some (Parser.integerExpr n) := by
  have hlex : standard.lex (intText n) = (intText n).map .code :=
    ((isCode_intText n).codeText standard).lex_eq
  have htokens : tokens ((intText n).map .code) = integerTokens n := by
    have hend : EndsWord [] := nofun
    have happend := tokens_intText n hend
    rwa [List.append_nil, tokens_nil, List.append_nil] at happend
  have hnul : NulFree (intText n) := (PlainValue.integer n).nulFree
  have hprimary (m : ℕ) : Parser.primary (Parser.expr (m + 1)) (integerTokens n)
      = some (Parser.integerExpr n, []) := by
    have h := Parser.primary_integerTokens m n []
    rwa [List.append_nil] at h
  obtain ⟨m, hm⟩ : ∃ m, (integerTokens n).length = m + 1 := by
    obtain n | n := n
    · exact ⟨0, rfl⟩
    · exact ⟨1, rfl⟩
  rw [parse, cString_of_nulFree hnul, hlex, htokens, parseTokens, hm,
    Parser.expr_primary (hprimary m) (Parser.stops_of_none rfl)]

end Sql

/-! ## The numbers of a value -/

namespace Sqlite

open Sql

/-- The bits of the integer that `set_param_bind` binds. -/
def boundBits : NumberType → ℕ
  | .enum _ => 32
  | .integral t => if t.isInt64 then 64 else 32

variable {t : NumberType}

theorem one_lt_boundBits (t : NumberType) : 1 < boundBits t := by
  obtain t | t := t
  · rw [boundBits]
    split_ifs
    · exact Nat.one_lt_succ_succ 62
    · exact Nat.one_lt_succ_succ 30
  · exact Nat.one_lt_succ_succ 30

theorem bindNumber_eq (v : Number t) :
    bindNumber v = .integer (Cast.toSigned (boundBits t) v.val) := by
  obtain t | t := t
  · rw [bindNumber, boundBits]
    split_ifs <;> rfl
  · rfl

/-- The number in the column after the value was inserted. -/
def stored (v : Number t) : ℤ := columnInt64 (bindNumber v)

/-- A row with a number in one column. -/
def rowWith (c : PlainColumn) (n : ℤ) (table : Option Bytes) (name : Bytes) : Option ℤ :=
  if table = c.owner.map (fun o ↦ o.text) ∧ name = c.field.text then some n else none

/-- The literal that `col_info::to_string` and `build_where` write for the value. -/
def literal (v : Number t) : Bytes := (Value.integer v.val).toText

/-- `col == v`. -/
def equals (c : PlainColumn) (v : Number t) : WhereCondition :=
  buildWhere c.column.info (.integer v.val) CompareOp.eq.text

/-- `query_s` with a placeholder for the value finds the row that an insertion put down. -/
def FoundByArgument (inserted v : Number t) : Prop :=
  Comparison.eq.holds (stored inserted) (columnInt64 (bindNumber v)) = true

/-- What is bound for the value and what is written for it are the value, and a row into which it
is inserted is found by both. -/
structure PathsAgree (v : Number t) : Prop where
  bound : bindNumber v = .integer v.val
  written : (parse (literal v)).bind (Expr.number fun _ _ ↦ none) = some (stored v)
  condition : ∀ c, (parse (equals c v).toSql).bind (Expr.selects (rowWith c (stored v))) = some true
  argument : FoundByArgument v v

theorem selects_equals (c : PlainColumn) (v : Number t) (n : ℤ) :
    (parse (equals c v).toSql).bind (Expr.selects (rowWith c n)) = some (decide (n = v.val)) := by
  have hparse : parse (equals c v).toSql
      = some (.compare .eq c.expr (Parser.integerExpr v.val)) := by
    have hitems := (PlainTree.compare c .eq (.integer v.val)).parse_items
    rwa [← ConditionTree.toSql_build] at hitems
  have hcolumn : c.expr.number (rowWith c n) = some n := by
    rw [PlainColumn.expr, Expr.number, rowWith, if_pos ⟨rfl, rfl⟩]
  rw [hparse, Option.bind_some, Expr.selects, hcolumn, number_integerExpr]
  rfl

theorem parse_literal (v : Number t) :
    (parse (literal v)).bind (Expr.number fun _ _ ↦ none) = some v.val := by
  have hliteral : literal v = intText v.val := rfl
  rw [hliteral, parse_intText, Option.bind_some, number_integerExpr]

/-- **Literals and bound numbers.** They agree exactly for the numbers that fit the integer that is
bound. -/
theorem pathsAgree_iff (v : Number t) :
    PathsAgree v ↔ Cast.FitsSigned (boundBits t) v.val := by
  have hbound : bindNumber v = .integer v.val ↔ Cast.FitsSigned (boundBits t) v.val := by
    have hpos : 0 < boundBits t := Nat.zero_lt_of_lt (one_lt_boundBits t)
    rw [bindNumber_eq, Cell.integer.injEq, Cast.toSigned_eq_self_iff hpos]
  constructor
  · intro h
    exact hbound.mp h.bound
  · intro hfits
    have hstored : stored v = v.val := by rw [stored, hbound.mpr hfits, columnInt64]
    refine ⟨hbound.mpr hfits, ?_, fun c ↦ ?_, ?_⟩
    · rw [parse_literal, hstored]
    · rw [selects_equals, hstored, decide_eq_true rfl]
    · exact decide_eq_true rfl

/-- A number of 32 bits without a sign that does not fit an `int`. -/
theorem not_pathsAgree : ¬ ∀ (t : NumberType) (v : Number t), PathsAgree v := by
  intro h
  have hbound := (h (.integral .uint32) ⟨3000000000, by decide⟩).bound
  exact absurd hbound (by decide)

end Sqlite

end Ormpp
