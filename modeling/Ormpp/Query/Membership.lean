import Ormpp.Query.Fidelity
import Ormpp.Sql.Evaluation

/-!
# Membership in a list

`in` and `not_in` take values one by one or as one range, and a value may come in tuples of one
field. All of them are flattened to one text, whose emptiness stands for that of the list. The text
is read back as a condition, and evaluated on rows.
-/

namespace Ormpp

open Sql

/-! ## The two call forms -/

/-- A value that is listed, or a tuple whose one field is. -/
inductive InValue (α : Type)
  | scalar (a : α)
  | tuple (field : InValue α)

/-- The value inside the tuples. -/
def InValue.value {α : Type} : InValue α → α
  | .scalar a => a
  | .tuple field => field.value

def InValue.map {α β : Type} (f : α → β) : InValue α → InValue β
  | .scalar a => .scalar (f a)
  | .tuple field => .tuple (field.map f)

/-- `in_value_to_string`. -/
def inValueToString : InValue Value → Bytes
  | .scalar arg => arg.toText
  | .tuple field => inValueToString field

/-- `append_in_value`. -/
def appendInValue (mid : Bytes) (arg : InValue Value) : Bytes :=
  mid ++ inValueToString arg ++ ascii ","

/-- The arguments of `in` and `not_in`: at least one value, or one range. -/
inductive InArgs (α : Type)
  | separate (first : InValue α) (rest : List (InValue α))
  | range (values : List (InValue α))

namespace InArgs

variable {α β : Type}

/-- The list that is passed. -/
def list : InArgs α → List α
  | separate first rest => first.value :: rest.map InValue.value
  | range values => values.map InValue.value

def map (f : α → β) : InArgs α → InArgs β
  | separate first rest => separate (first.map f) (rest.map (InValue.map f))
  | range values => range (values.map (InValue.map f))

/-- The text between the parentheses, with the comma behind every value. -/
def mid : InArgs Value → Bytes
  | separate first rest => rest.foldl appendInValue (appendInValue [] first)
  | range values => values.foldl appendInValue []

end InArgs

namespace ColInfo

/-- `in_impl`. -/
def inImplArgs (c : ColInfo) (s : Bytes) (args : InArgs Value) : WhereCondition :=
  if args.mid = [] then emptyInCondition s else c.makeInCondition s args.mid.dropLast

/-- `in` and `not_in`. -/
def inArgs (c : ColInfo) (negated : Bool) (args : InArgs Value) : WhereCondition :=
  c.inImplArgs (if negated then ascii "not" else []) args

end ColInfo

/-! ## The list is flattened -/

theorem InValue.value_map {α β : Type} (f : α → β) (v : InValue α) :
    (v.map f).value = f v.value := by
  induction v with
  | scalar a => rfl
  | tuple field ih => exact ih

theorem InArgs.list_map {α β : Type} (f : α → β) (args : InArgs α) :
    (args.map f).list = args.list.map f := by
  have hvalues (vs : List (InValue α)) :
      (vs.map (InValue.map f)).map InValue.value = (vs.map InValue.value).map f := by
    rw [List.map_map, List.map_map]
    exact List.map_congr_left fun v _ ↦ v.value_map f
  obtain ⟨first, rest⟩ | values := args
  · exact hvalues (first :: rest)
  · exact hvalues values

theorem inValueToString_eq (arg : InValue Value) : inValueToString arg = arg.value.toText := by
  induction arg with
  | scalar a => rfl
  | tuple field ih => exact ih

theorem foldl_appendInValue (values : List (InValue Value)) (mid : Bytes) :
    values.foldl appendInValue mid
      = mid ++ (values.map InValue.value).flatMap fun arg ↦ arg.toText ++ ascii "," := by
  induction values generalizing mid with
  | nil => exact (List.append_nil mid).symm
  | cons v values ih =>
    rw [List.foldl_cons, ih, appendInValue, inValueToString_eq, List.map_cons, List.flatMap_cons,
      List.append_assoc, List.append_assoc, List.append_assoc]

/-- In both forms the text is that of the list. -/
theorem InArgs.mid_eq (args : InArgs Value) :
    args.mid = args.list.flatMap fun arg ↦ arg.toText ++ ascii "," := by
  obtain ⟨first, rest⟩ | values := args
  · exact foldl_appendInValue (first :: rest) []
  · exact foldl_appendInValue values []

theorem ColInfo.inImplArgs_eq (c : ColInfo) (s : Bytes) (args : InArgs Value) :
    c.inImplArgs s args = c.inImpl s args.list := by
  rw [inImplArgs, InArgs.mid_eq]
  rfl

/-! ## What is listed -/

/-- The types of what is listed: integers, with the enumerations, and strings. -/
inductive ListType
  | integer
  | string

namespace ListType

/-- What a column of the type holds in a row. -/
def Value : ListType → Type
  | integer => ℤ
  | string => Bytes

instance decidableEqValue : (t : ListType) → DecidableEq t.Value
  | integer => inferInstanceAs (DecidableEq ℤ)
  | string => inferInstanceAs (DecidableEq Bytes)

def datum : (t : ListType) → t.Value → Datum
  | integer, n => .integer n
  | string, s => .text s

/-- The expression that the text of a value is read as. -/
def expr : (t : ListType) → t.Value → Expr
  | integer, n => Parser.integerExpr n
  | string, s => .text s

/-- What can be listed: every integer, and the strings without NUL. -/
def CanList : (t : ListType) → t.Value → Prop
  | integer, _ => True
  | string, s => NulFree s

end ListType

/-- A value that is listed. -/
structure Listed (t : ListType) where
  value : t.Value
  canList : t.CanList value

def Listed.plain : {t : ListType} → Listed t → PlainValue
  | .integer, v => .integer v.value
  | .string, v => .string v.value v.canList

/-- The condition that is rendered. -/
def inCondition {t : ListType} (c : PlainColumn) (negated : Bool) (args : InArgs (Listed t)) :
    WhereCondition :=
  c.column.info.inArgs negated (args.map fun v ↦ v.plain.value)

/-- SQL reads the text as a condition that is true of a row exactly where `p` holds. -/
def SaysOf (row : Row) (condition : Bytes) (p : Prop) : Prop :=
  ∃ e, parse condition = some e ∧ e.Decides row p

/-! ## What the condition says -/

section

variable {t : ListType}

theorem ListType.datum_expr (row : Row) (x : t.Value) :
    (t.expr x).datum row = some (t.datum x) := by
  obtain _ | _ := t
  · exact Expr.datum_integerExpr row x
  · rfl

theorem ListType.compare_datum (x y : t.Value) :
    (t.datum x).compare .eq (t.datum y) = some (.ofBool (x = y)) := by
  obtain _ | _ := t
  · exact Datum.compare_eq_integer x y
  · exact Datum.compare_eq_text x y

theorem Listed.expr_plain (v : Listed t) : v.plain.expr = t.expr v.value := by
  obtain _ | _ := t
  · rfl
  · rfl

/-- The condition is that of the list. -/
theorem inCondition_eq (c : PlainColumn) (negated : Bool) (args : InArgs (Listed t)) :
    inCondition c negated args = c.column.info.inImpl (if negated then ascii "not" else [])
      (args.list.map fun v ↦ v.plain.value) := by
  rw [inCondition, ColInfo.inArgs, ColInfo.inImplArgs_eq, InArgs.list_map]

/-- The text is read as a condition over the list. -/
theorem parse_inCondition (c : PlainColumn) (negated : Bool) (args : InArgs (Listed t)) :
    parse (inCondition c negated args).toSql
      = some (listExpr negated c (args.list.map Listed.plain)) := by
  have hvalues : (args.list.map Listed.plain).map PlainValue.value
      = args.list.map fun v ↦ v.plain.value := List.map_map
  rw [inCondition_eq, ← hvalues]
  generalize args.list.map Listed.plain = vs
  obtain _ | _ := negated
  · have hbuild : c.column.info.inImpl [] (vs.map PlainValue.value)
        = (PlainTree.isIn c vs).tree.build := rfl
    rw [if_neg Bool.false_ne_true, hbuild, ConditionTree.toSql_build, PlainTree.parse_items]
    rfl
  · have hbuild : c.column.info.inImpl (ascii "not") (vs.map PlainValue.value)
        = (PlainTree.notIn c vs).tree.build := rfl
    rw [if_pos rfl, hbuild, ConditionTree.toSql_build, PlainTree.parse_items]
    rfl

/-- Of a row whose column is not `NULL`, the condition says whether its value is in the list. -/
theorem truth_listExpr (c : PlainColumn) {row : Row} {x : t.Value}
    (hx : row (c.owner.map fun n ↦ n.text) c.field.text = t.datum x) (negated : Bool)
    (vs : List (Listed t)) :
    (listExpr negated c (vs.map Listed.plain)).truth row
      = some (.ofBool (decide (x ∈ vs.map Listed.value) != negated)) := by
  obtain _ | ⟨v, vs⟩ := vs
  · -- the constants `1=0` and `1=1`
    obtain _ | _ := negated
    · rfl
    · rfl
  · have hlist : ((v :: vs).map Listed.plain).map PlainValue.expr
        = ((v :: vs).map Listed.value).map t.expr := by
      rw [List.map_map, List.map_map]
      exact List.map_congr_left fun w _ ↦ w.expr_plain
    have hcolumn : c.expr.datum row = some (t.datum x) := by
      rw [← hx]
      rfl
    rw [List.map_cons, listExpr, ← List.map_cons, hlist]
    exact Expr.truth_isIn ListType.compare_datum hcolumn (ListType.datum_expr row) negated _

/-- A condition on a list says of every row whether the value of the column is in the list, however
the list was passed. -/
structure Membership (c : PlainColumn) (args : InArgs (Listed t)) : Prop where
  isIn (row : Row) (x : t.Value) (hx : row (c.owner.map fun n ↦ n.text) c.field.text = t.datum x) :
    SaysOf row (inCondition c false args).toSql (x ∈ args.list.map Listed.value)
  notIn (row : Row) (x : t.Value)
    (hx : row (c.owner.map fun n ↦ n.text) c.field.text = t.datum x) :
    SaysOf row (inCondition c true args).toSql (x ∉ args.list.map Listed.value)
  sameCondition (negated : Bool) (args' : InArgs (Listed t)) (h : args'.list = args.list) :
    inCondition c negated args' = inCondition c negated args

/-- `in` and `not_in` ask for membership. -/
theorem membership (c : PlainColumn) (args : InArgs (Listed t)) : Membership c args where
  isIn row x hx := by
    refine ⟨_, parse_inCondition c false args,
      Expr.decides_of_truth (truth_listExpr c hx false args.list) ?_⟩
    rw [Bool.bne_false, decide_eq_true_iff]
  notIn row x hx := by
    refine ⟨_, parse_inCondition c true args,
      Expr.decides_of_truth (truth_listExpr c hx true args.list) ?_⟩
    rw [Bool.bne_true, Bool.not_eq_true', decide_eq_false_iff_not]
  sameCondition negated args' h := by
    rw [inCondition_eq, inCondition_eq, h]

end

end Ormpp
