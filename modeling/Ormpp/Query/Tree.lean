import Ormpp.Query.Rendering

/-!
# Condition trees

The conditions that can be built: leaves over columns, aggregates and values, joined by `&&` and
`||`. `build` makes the condition object with the builder's own functions. The text of the object is
then described by items, which say of each part what it is meant to be: code, a string, or a place
for a parameter. A string that is compared is the one item that may be written as something else.
-/

namespace Ormpp

open Sql

/-! ## Trees -/

/-- The aggregates that can be selected and compared. -/
inductive Aggregate
  | countAll
  | count (c : Column)
  | countDistinct (c : Column)
  | sum (c : Column)
  | avg (c : Column)
  | min (c : Column)
  | max (c : Column)

/-- `build_aggregate_field`. -/
def buildAggregateField (pre : Bytes) (c : Column) : ColInfo :=
  { name := pre ++ c.className ++ ascii "." ++ c.field.text ++ ascii ")" }

/-- The aggregate as the builder holds it. -/
def Aggregate.info : Aggregate → ColInfo
  | .countAll => { name := ascii "COUNT(*)" }
  | .count c => buildAggregateField (ascii "COUNT(") c
  | .countDistinct c => buildAggregateField (ascii "COUNT(DISTINCT ") c
  | .sum c => buildAggregateField (ascii "SUM(") c
  | .avg c => buildAggregateField (ascii "AVG(") c
  | .min c => buildAggregateField (ascii "MIN(") c
  | .max c => buildAggregateField (ascii "MAX(") c

/-- What can stand on the left of a comparison. -/
inductive Operand
  | column (c : Column)
  | aggregate (a : Aggregate)

def Operand.info : Operand → ColInfo
  | .column c => c.info
  | .aggregate a => a.info

inductive ConditionTree
  | param (c : Column)
  | compare (f : Operand) (op : CompareOp) (v : Value)
  | isIn (c : Column) (vs : List Value)
  | notIn (c : Column) (vs : List Value)
  | null (c : Column)
  | notNull (c : Column)
  | between (c : Column) (lo hi : Value)
  | like (c : Column) (s : Bytes)
  | or (lhs rhs : ConditionTree)
  | and (lhs rhs : ConditionTree)

/-- The condition object. -/
def ConditionTree.build : ConditionTree → WhereCondition
  | .param c => c.info.param
  | .compare f op v => buildWhere f.info v op.text
  | .isIn c vs => c.info.isIn vs
  | .notIn c vs => c.info.notIn vs
  | .null c => c.info.null
  | .notNull c => c.info.notNull
  | .between c lo hi => c.info.between lo hi
  | .like c s => c.info.like s
  | .or lhs rhs => lhs.build.or rhs.build
  | .and lhs rhs => lhs.build.and rhs.build

/-! ## Items -/

/-- A part of a statement, by what it is meant to be. -/
inductive Item
  | code (text : Bytes)
  /-- A string that is listed, bounds a range or is a pattern. -/
  | string (v : Bytes)
  /-- A string that a column is compared with. -/
  | compared (v : Bytes)
  /-- A place for a parameter. -/
  | slot

namespace Item

/-- What is written for the item. -/
def written : Item → Piece
  | .code text => .code text
  | .string v => .literal v
  | .compared v => if v = placeholderText then .code placeholderText else .literal v
  | .slot => .code placeholderText

/-- What is meant by the item. -/
def meant : Item → Piece
  | .code text => .code text
  | .string v | .compared v => .literal v
  | .slot => .code placeholderText

/-- The text of an item. -/
def text (i : Item) : Bytes := i.written.text

@[simp] theorem text_code (t : Bytes) : (code t).text = t := rfl

@[simp] theorem text_string (v : Bytes) : (string v).text = formatString v := rfl

@[simp] theorem text_slot : slot.text = placeholderText := rfl

theorem text_compared (v : Bytes) :
    (compared v).text = if v = placeholderText then v else formatString v := by
  rw [text, written]
  split_ifs with h
  · exact h.symm
  · rfl

end Item

/-- A value that is listed or bounds a range. -/
def Value.item : Value → Item
  | .integer n => .code (intText n)
  | .real v => .code v.text
  | .string s => .string s

@[simp] theorem Value.text_item (v : Value) : v.item.text = v.toText := by
  cases v <;> rfl

/-- A value that something is compared with. -/
def Value.comparedItem : Value → Item
  | .integer n => .code (intText n)
  | .real v => .code v.text
  | .string s => .compared s

/-- A list of values, the commas between them. -/
def valueItems (v : Value) (vs : List Value) : List Item :=
  v.item :: vs.flatMap fun v ↦ [.code (ascii ","), v.item]

theorem text_valueItems (v : Value) (vs : List Value) :
    (valueItems v vs).flatMap Item.text = (valuePieces v vs).flatMap Piece.text := by
  have hlist : (vs.flatMap fun v ↦ [Item.code (ascii ","), v.item]).flatMap Item.text
      = (vs.flatMap fun v ↦ [.code (ascii ","), v.piece]).flatMap Piece.text := by
    induction vs with
    | nil => rfl
    | cons w ws ih => simp [ih, Value.text_piece]
  rw [valueItems, valuePieces, List.flatMap_cons, List.flatMap_cons, hlist, Value.text_item,
    Value.text_piece]

namespace ConditionTree

/-- The items of a list condition; `word` is what stands between the column and the list. -/
def listItems (c : Column) (word : Bytes) (constant : Bytes) : List Value → List Item
  | [] => [.code constant]
  | v :: vs => .code (ascii "(" ++ c.text ++ word) :: (valueItems v vs ++ [.code (ascii "))")])

/-- The items of a condition. -/
def items : ConditionTree → List Item
  | .param c =>
    [.code (ascii "(" ++ (c.className ++ ascii "." ++ c.field.text) ++ ascii " = "), .slot,
      .code (ascii ")")]
  | .compare f op v =>
    [.code (ascii "(" ++ f.info.qualifiedName ++ op.text), v.comparedItem, .code (ascii ")")]
  | .isIn c vs => listItems c (ascii " in(") (ascii "(1=0)") vs
  | .notIn c vs => listItems c (ascii " not in(") (ascii "(1=1)") vs
  | .null c => [.code (ascii "(" ++ c.text ++ ascii " IS NULL)")]
  | .notNull c => [.code (ascii "(" ++ c.text ++ ascii " IS NOT NULL)")]
  | .between c lo hi =>
    [.code (ascii "(" ++ c.text ++ ascii " between "), lo.item, .code (ascii " and "), hi.item,
      .code (ascii ")")]
  | .like c s =>
    [.code (ascii "(" ++ c.text ++ ascii " like "), .string s, .code (ascii ")")]
  | .or lhs rhs =>
    .code (ascii "(") :: (lhs.items ++ .code (ascii " OR ") :: (rhs.items ++ [.code (ascii ")")]))
  | .and lhs rhs =>
    .code (ascii "(") :: (lhs.items ++ .code (ascii " AND ") :: (rhs.items ++ [.code (ascii ")")]))

theorem toSql_inImpl (c : Column) (s word constant : Bytes) (vs : List Value)
    (hword : (if s ≠ [] then ascii " " ++ s else []) ++ ascii " in(" = word)
    (hconstant : (ColInfo.emptyInCondition s).toSql = constant) :
    (c.info.inImpl s vs).toSql = (listItems c word constant vs).flatMap Item.text := by
  have hclose : ascii "))" = ascii ")" ++ ascii ")" := rfl
  cases vs with
  | nil =>
    rw [ColInfo.inImpl, List.flatMap_nil, if_pos rfl, hconstant]
    simp [listItems]
  | cons v vs =>
    rw [inImpl_cons, ← text_valueItems, ← hword]
    simp [listItems, WhereCondition.toSql, ColInfo.makeInCondition, c.qualifiedName_info, hclose]

theorem toSql_buildWhere (f : ColInfo) (v : Value) (op : Bytes) :
    (buildWhere f v op).toSql
      = ascii "(" ++ f.qualifiedName ++ op ++ v.comparedItem.text ++ ascii ")" := by
  have hname : (if f.className = [] then f.name else f.className ++ ascii "." ++ f.name)
      = f.qualifiedName := by
    rw [ColInfo.qualifiedName, qualifiedFieldName]
    by_cases h : f.className = [] <;> simp [h]
  simp only [buildWhere, hname]
  cases v with
  | integer n => rfl
  | real v => rfl
  | string s =>
    rw [Value.comparedItem, Item.text_compared]
    by_cases hs : s = placeholderText
    · simp [hs, WhereCondition.toSql]
    · simp [hs, WhereCondition.toSql, formatString]

theorem toSql_or (lhs rhs : WhereCondition) :
    (lhs.or rhs).toSql = ascii "(" ++ lhs.toSql ++ ascii " OR " ++ rhs.toSql ++ ascii ")" := rfl

theorem toSql_and (lhs rhs : WhereCondition) :
    (lhs.and rhs).toSql = ascii "(" ++ lhs.toSql ++ ascii " AND " ++ rhs.toSql ++ ascii ")" := rfl

/-- **The text of a condition** is that of its items. -/
theorem toSql_build (t : ConditionTree) : t.build.toSql = t.items.flatMap Item.text := by
  have hnull : ascii " IS NULL)" = ascii " IS " ++ ascii "NULL" ++ ascii ")" := rfl
  have hnotNull : ascii " IS NOT NULL)" = ascii " IS " ++ ascii "NOT NULL" ++ ascii ")" := rfl
  induction t with
  | param c => simp [build, items, WhereCondition.toSql, ColInfo.param, Column.info]
  | compare f op v => simp [build, items, toSql_buildWhere]
  | isIn c vs => exact toSql_inImpl c [] _ _ vs rfl rfl
  | notIn c vs => exact toSql_inImpl c (ascii "not") _ _ vs rfl rfl
  | null c =>
    simp [build, items, WhereCondition.toSql, ColInfo.null, c.qualifiedName_info, hnull]
  | notNull c =>
    simp [build, items, WhereCondition.toSql, ColInfo.notNull, c.qualifiedName_info, hnotNull]
  | between c lo hi =>
    simp [build, items, WhereCondition.toSql, ColInfo.between, c.qualifiedName_info]
  | like c s => simp [build, items, WhereCondition.toSql, ColInfo.like, c.qualifiedName_info]
  | or lhs rhs ihl ihr => simp [build, items, toSql_or, ihl, ihr]
  | and lhs rhs ihl ihr => simp [build, items, toSql_and, ihl, ihr]

end ConditionTree

end Ormpp
