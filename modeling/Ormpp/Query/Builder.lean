import Ormpp.Query.Tree
import Ormpp.Sql.Placeholder

/-!
# The select builder

A select query is put together by calls that write the clauses of a shared context, in whatever
order; `build_sql` then joins the clauses. The placeholders of a condition, a limit or an offset are
question marks, which `build_sql` numbers for PostgreSQL in the finished text.
-/

namespace Ormpp

open Sql

inductive DBType
  | mysql
  | sqlite
  | postgresql
  deriving DecidableEq

/-! ## Placeholders of PostgreSQL -/

/-- What `find_next_postgresql_placeholder` takes for quoted text and comments. Where its loop looks
one byte ahead (`--`, `/*`, a doubled quote), the scanner remembers one byte. -/
def postgresqlScanner : Scanner where
  backslashEscapes := false
  backtickNames := false
  hashComments := false

/-- `replace_postgresql_placeholders`. -/
def replacePostgresqlPlaceholders (sql : Bytes) : Bytes :=
  postgresqlScanner.replaceAll (fun index ↦ ascii "$" ++ natText index) 1 sql

/-! ## Clauses -/

/-- A reflected class. -/
structure Table where
  name : Name
  members : List Name

/-- `append_select`. -/
def appendSelect (selectClause : Bytes) (arg : ColInfo) : Bytes :=
  if arg.className = [] then selectClause ++ arg.name ++ ascii ","
  else selectClause ++ arg.className ++ ascii "." ++ arg.name ++ ascii ","

/-- `create_stage_select`. -/
def createStageSelect (args : List ColInfo) : Bytes := (args.foldl appendSelect []).dropLast

/-- `select_all_fields_sql`. -/
def selectAllFieldsSql (T : Table) : Bytes :=
  (T.members.flatMap fun name ↦ T.name.text ++ ascii "." ++ name.text ++ ascii ",").dropLast

/-- `join_impl`. -/
def joinImpl (T : Table) (pre : Bytes) (field1 field2 : ColInfo) : Bytes :=
  pre ++ ascii "join " ++
    (if T.name.text = field1.className then field2.className else field1.className) ++
    ascii " ON " ++ field1.className ++ ascii "." ++ field1.name ++ ascii "=" ++
    field2.className ++ ascii "." ++ field2.name ++ ascii " "

/-- `order_by_sql`. -/
def orderBySql (fields : List ColInfo) : Bytes :=
  (ascii " ORDER BY " ++ fields.flatMap fun f ↦
    qualifiedFieldName f.className f.name ++ f.sortOrder ++ ascii ",").dropLast

/-- The clause of `group_by`, with `append_group_by_field`. -/
def groupBySql (fields : List ColInfo) : Bytes :=
  (ascii " GROUP BY " ++ fields.flatMap fun f ↦
    qualifiedFieldName f.className f.name ++ ascii ",").dropLast

/-! ## The context -/

/-- The clauses of `query_builder::context` that a call writes. -/
structure Context where
  selectClause : Bytes
  fromClause : Bytes
  joinClause : Bytes := []
  whereClause : Bytes := []
  groupByClause : Bytes := []
  havingClause : Bytes := []
  orderByClause : Bytes := []
  limitClause : Bytes := []
  offsetClause : Bytes := []

/-- `stage_select::from`. -/
def selectFrom (selectClause : Bytes) (T : Table) : Context where
  selectClause := if selectClause = [] then selectAllFieldsSql T else selectClause
  fromClause := ascii " from " ++ T.name.text

/-- `context::build_sql`. -/
def Context.buildSql (ctx : Context) (db : DBType) : Bytes :=
  let whereClause :=
    if ctx.selectClause ≠ [] ∧ ctx.whereClause ≠ [] then ascii " where " ++ ctx.whereClause
    else ctx.whereClause
  let sql :=
    (if ctx.selectClause ≠ [] then ascii "select " ++ ctx.selectClause ++ ctx.fromClause else []) ++
      ctx.joinClause ++ whereClause ++ ctx.groupByClause ++ ctx.havingClause ++ ctx.orderByClause ++
      ctx.limitClause ++ ctx.offsetClause
  if db = .postgresql then replacePostgresqlPlaceholders sql else sql

/-! ## Calls -/

inductive JoinKind
  | inner
  | left
  | right
  | full
  | fullOuter

def JoinKind.text : JoinKind → Bytes
  | .inner => ascii " inner "
  | .left => ascii " left "
  | .right => ascii " right "
  | .full => ascii " full "
  | .fullOuter => ascii " full outer "

/-- A column to sort by, as it is, descending or ascending. -/
inductive SortKey
  | plain (c : Column)
  | desc (c : Column)
  | asc (c : Column)

def SortKey.info : SortKey → ColInfo
  | .plain c => c.info
  | .desc c => c.info.desc
  | .asc c => c.info.asc

/-- A call on the builder or on one of its stages. -/
inductive Call
  | join (kind : JoinKind) (field1 field2 : Column)
  /-- `inner_join` behind another join. -/
  | joinNext (field1 field2 : Column)
  | where (condition : ConditionTree)
  | groupBy (fields : List Operand)
  | having (condition : ConditionTree)
  | orderBy (fields : List SortKey)
  | limit (n : ℕ)
  | limitToken
  | offset (row : ℕ)
  | offsetToken

/-- What a call does to the context. -/
def Call.run (T : Table) (ctx : Context) : Call → Context
  | .join kind field1 field2 =>
    { ctx with joinClause := joinImpl T kind.text field1.info field2.info }
  | .joinNext field1 field2 =>
    { ctx with joinClause := ctx.joinClause ++
        joinImpl T JoinKind.inner.text field1.info field2.info }
  | .where condition => { ctx with whereClause := condition.build.toSql }
  | .groupBy fields => { ctx with groupByClause := groupBySql (fields.map Operand.info) }
  | .having condition =>
    { ctx with havingClause := ascii " HAVING " ++ condition.build.toSql }
  | .orderBy fields => { ctx with orderByClause := orderBySql (fields.map SortKey.info) }
  | .limit n => { ctx with limitClause := ascii " LIMIT " ++ natText n }
  | .limitToken => { ctx with limitClause := ascii " LIMIT ?  " }
  | .offset row => { ctx with offsetClause := ctx.offsetClause ++ ascii " offset " ++ natText row }
  | .offsetToken => { ctx with offsetClause := ctx.offsetClause ++ ascii " offset ?  " }

/-- A select query: the fields that are selected, or none for all of the class, and the calls. -/
structure SelectQuery where
  table : Table
  fields : List Operand
  calls : List Call

def SelectQuery.context (q : SelectQuery) : Context :=
  q.calls.foldl (Call.run q.table)
    (selectFrom (createStageSelect (q.fields.map Operand.info)) q.table)

/-- The text of the query. -/
def SelectQuery.buildSql (q : SelectQuery) (db : DBType) : Bytes := q.context.buildSql db

end Ormpp
