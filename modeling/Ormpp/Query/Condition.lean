import Ormpp.Data.Decimal
import Ormpp.Sql.Literal

/-!
# Conditions and values

The condition objects of the query builder and the text they render to. A condition is three texts
and a flag; the builder's operators put columns, values and whole conditions into the texts, and
`to_sql` joins them in parentheses. A value is rendered as digits or between quotes, its quotes
doubled. Every text ends up in the same string, where only the parentheses and the quotes tell one
from the other.
-/

namespace Ormpp

/-! ## Rendering strings and values -/

/-- `escape_sql_string`. -/
def escapeSqlString (input : Bytes) : Bytes :=
  input.flatMap fun c ↦ if c = 0x27 then [0x27, 0x27] else [c]

/-- `col_info::format_string`. -/
def formatString (s : Bytes) : Bytes := ascii "'" ++ escapeSqlString s ++ ascii "'"

/-- The text that `std::to_string` gives a floating-point value: a sign and then letters, digits
and a decimal point. -/
structure RealText where
  negative : Bool
  body : Bytes
  body_ne_nil : body ≠ []
  body_plain : ∀ b ∈ body, isDigit b = true ∨ b = 0x2e ∨ (0x61 ≤ b ∧ b ≤ 0x7a)

def RealText.text (v : RealText) : Bytes := (if v.negative then ascii "-" else []) ++ v.body

/-- A value that is compared, listed or assigned. Integers, enumerations and Booleans are
`integer`. -/
inductive Value
  | integer (n : ℤ)
  | real (v : RealText)
  | string (s : Bytes)

/-- `col_info::to_string`. -/
def Value.toText : Value → Bytes
  | .integer n => intText n
  | .real v => v.text
  | .string s => formatString s

/-! ## Conditions -/

structure WhereCondition where
  left : Bytes
  op : Bytes
  right : Bytes
  needQuote : Bool := false
  deriving DecidableEq

/-- `where_condition::to_sql`. -/
def WhereCondition.toSql (c : WhereCondition) : Bytes :=
  ascii "(" ++ c.left ++ c.op ++
    (if c.needQuote then ascii "'" ++ escapeSqlString c.right ++ ascii "'" else c.right) ++
    ascii ")"

/-- `operator||`. -/
def WhereCondition.or (lhs rhs : WhereCondition) : WhereCondition :=
  { left := lhs.toSql, op := ascii " OR ", right := rhs.toSql }

/-- `operator&&`. -/
def WhereCondition.and (lhs rhs : WhereCondition) : WhereCondition :=
  { left := lhs.toSql, op := ascii " AND ", right := rhs.toSql }

/-- `qualified_field_name`. -/
def qualifiedFieldName (className name : Bytes) : Bytes :=
  (if className ≠ [] then className ++ ascii "." else []) ++ name

/-- A column as `col` makes it, and an aggregate, which has no class name. -/
structure ColInfo where
  name : Bytes
  className : Bytes := []
  sortOrder : Bytes := []

/-- The text that `build_where` takes for a placeholder. -/
def placeholderText : Bytes := ascii "?  "

/-- `build_where`. -/
def buildWhere (field : ColInfo) (val : Value) (op : Bytes) : WhereCondition :=
  let name :=
    if field.className = [] then field.name else field.className ++ ascii "." ++ field.name
  match val with
  | .integer n => { left := name, op, right := intText n }
  | .real v => { left := name, op, right := v.text }
  | .string s =>
    if s = placeholderText then { left := name, op, right := s }
    else { left := name, op, right := s, needQuote := true }

namespace ColInfo

/-- `desc`. -/
def desc (c : ColInfo) : ColInfo := { c with sortOrder := ascii " DESC " }

/-- `asc`. -/
def asc (c : ColInfo) : ColInfo := { c with sortOrder := ascii " ASC " }

def qualifiedName (c : ColInfo) : Bytes := qualifiedFieldName c.className c.name

/-- `param`. -/
def param (c : ColInfo) : WhereCondition :=
  { left := c.className ++ ascii "." ++ c.name, op := ascii " = ", right := placeholderText }

/-- `empty_in_condition`. -/
def emptyInCondition (s : Bytes) : WhereCondition :=
  if s = [] then { left := ascii "1", op := ascii "=", right := ascii "0" }
  else { left := ascii "1", op := ascii "=", right := ascii "1" }

/-- `make_in_condition`. -/
def makeInCondition (c : ColInfo) (s mid : Bytes) : WhereCondition :=
  { left := c.qualifiedName ++ (if s ≠ [] then ascii " " ++ s else []) ++ ascii " in("
    op := mid
    right := ascii ")" }

/-- `in_impl`. -/
def inImpl (c : ColInfo) (s : Bytes) (args : List Value) : WhereCondition :=
  let mid := args.flatMap fun arg ↦ arg.toText ++ ascii ","
  if mid = [] then emptyInCondition s else c.makeInCondition s mid.dropLast

/-- `in`. -/
def isIn (c : ColInfo) (args : List Value) : WhereCondition := c.inImpl [] args

/-- `not_in`. -/
def notIn (c : ColInfo) (args : List Value) : WhereCondition := c.inImpl (ascii "not") args

/-- `null`. -/
def null (c : ColInfo) : WhereCondition :=
  { left := c.qualifiedName, op := ascii " IS ", right := ascii "NULL" }

/-- `not_null`. -/
def notNull (c : ColInfo) : WhereCondition :=
  { left := c.qualifiedName, op := ascii " IS ", right := ascii "NOT NULL" }

/-- `between`. -/
def between (c : ColInfo) (left right : Value) : WhereCondition :=
  { left := c.qualifiedName ++ ascii " between " ++ left.toText
    op := ascii " and "
    right := right.toText }

/-- `like`. -/
def like (c : ColInfo) (str : Bytes) : WhereCondition :=
  { left := c.qualifiedName, op := ascii " like ", right := formatString str }

end ColInfo

/-- The comparison operators. -/
inductive CompareOp
  | eq
  | ge
  | le
  | ne
  | gt
  | lt
  deriving DecidableEq

def CompareOp.text : CompareOp → Bytes
  | .eq => ascii "="
  | .ge => ascii ">="
  | .le => ascii "<="
  | .ne => ascii "!="
  | .gt => ascii ">"
  | .lt => ascii "<"

/-! ## Updates -/

/-- A value that is assigned; `raw` is text of the caller's own. -/
inductive SetValue
  | raw (sql : Bytes)
  | value (v : Value)

/-- `append_set`. -/
def appendSet (sql : Bytes) (field : ColInfo) (val : SetValue) : Bytes :=
  sql ++ field.name ++ ascii "=" ++
    match val with
    | .raw sql => sql
    | .value (.integer n) => intText n
    | .value (.real v) => v.text
    | .value (.string s) => ascii "'" ++ escapeSqlString s ++ ascii "'"

/-- `update_context::build_sql`. -/
def buildUpdateSql (table setClause whereClause : Bytes) : Bytes :=
  ascii "UPDATE " ++ table ++ ascii " SET " ++ setClause ++
    (if whereClause ≠ [] then ascii " WHERE " ++ whereClause else [])

/-- One assignment of `update_builder::set`, `stage_update_set::set` or `set_null`. -/
def appendAssignment (sql : Bytes) : ColInfo × Option SetValue → Bytes
  | (field, some val) => appendSet sql field val
  | (field, none) => sql ++ field.name ++ ascii "=NULL"

/-- The set clause of an update: the first assignment, and each further one behind a comma. -/
def setClause (first : ColInfo × Option SetValue)
    (more : List (ColInfo × Option SetValue)) : Bytes :=
  more.foldl (fun sql assignment ↦ appendAssignment (sql ++ ascii ",") assignment)
    (appendAssignment [] first)

end Ormpp
