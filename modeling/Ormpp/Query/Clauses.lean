import Ormpp.Data.Run
import Ormpp.Query.Arity

/-!
# The clauses of a query

The stages of a query write to one context, and a stage that is kept can be called again. The
statement should have one clause of each kind, in the order of the language, with what was given for
it last. A call replaces the text of its clause, except for `offset`, which writes behind what is
there.
-/

namespace Ormpp

open Sql

/-! ## Stages -/

/-- The builder and the stages that its calls return. -/
inductive Stage
  | builder
  | join
  | where
  | groupBy
  | having
  | order
  | limit
  | offset
  deriving DecidableEq

/-- The stages that have a call. -/
def Call.receivers : Call → List Stage
  | .join _ _ _ => [.builder]
  | .joinNext _ _ => [.join]
  | .where _ => [.builder, .join]
  | .groupBy _ => [.builder, .join, .where]
  | .having _ => [.groupBy]
  | .orderBy _ => [.builder, .join, .where, .groupBy, .having]
  | .limit _ | .limitToken => [.builder, .join, .where, .order]
  | .offset _ | .offsetToken => [.limit]

/-- The stage that a call returns. -/
def Call.stage : Call → Stage
  | .join _ _ _ | .joinNext _ _ => .join
  | .where _ => .where
  | .groupBy _ => .groupBy
  | .having _ => .having
  | .orderBy _ => .order
  | .limit _ | .limitToken => .limit
  | .offset _ | .offsetToken => .offset

/-- The stages that are at hand once a call has returned. -/
def keepStage (stages : List Stage) (call : Call) : List Stage := call.stage :: stages

/-- A query of a class with members, whose calls are made on the builder or on a stage that an
earlier call returned, be it the last one or one that was kept. -/
structure StagedQuery extends SelectQuery where
  members_ne_nil : table.members ≠ []
  permitted : Run.Along keepStage (fun stages call ↦ ∃ stage ∈ stages, stage ∈ call.receivers)
    [.builder] calls

/-! ## What the calls ask for -/

def Call.condition : Call → Option ConditionTree
  | .where condition => some condition
  | _ => none

def Call.groups : Call → Option (List Operand)
  | .groupBy fields => some fields
  | _ => none

def Call.groupCondition : Call → Option ConditionTree
  | .having condition => some condition
  | _ => none

def Call.sortKeys : Call → Option (List SortKey)
  | .orderBy fields => some fields
  | _ => none

def Call.limitBound : Call → Option Bound
  | .limit n => some (.value n)
  | .limitToken => some .token
  | _ => none

def Call.offsetBound : Call → Option Bound
  | .offset row => some (.value row)
  | .offsetToken => some .token
  | _ => none

def Bound.text : Bound → Bytes
  | .value n => natText n
  | .token => placeholderText

structure TableJoin where
  kind : JoinKind
  field1 : Column
  field2 : Column

def TableJoin.text (T : Table) (j : TableJoin) : Bytes :=
  joinImpl T j.kind.text j.field1.info j.field2.info

/-- A join on the builder is the first one, and a join behind another is one more. -/
def Call.joins (joins : List TableJoin) : Call → List TableJoin
  | .join kind field1 field2 => [⟨kind, field1, field2⟩]
  | .joinNext field1 field2 => joins ++ [⟨.inner, field1, field2⟩]
  | _ => joins

namespace SelectQuery

variable (q : SelectQuery)

/-- The fields that are selected. -/
def selected : Bytes :=
  if q.fields = [] then selectAllFieldsSql q.table
  else createStageSelect (q.fields.map Operand.info)

/-- What was given last. -/
def lastGiven {α : Type} (given : Call → Option α) : Option α := (q.calls.filterMap given).getLast?

/-- A clause with what was given last, if anything was. -/
def clause {α : Type} (given : Call → Option α) (text : α → Bytes) : Bytes :=
  ((q.lastGiven given).map text).getD []

/-- The statement up to the limit. -/
def limitedText : Bytes :=
  ascii "select " ++ q.selected ++ ascii " from " ++ q.table.name.text ++
    (q.calls.foldl Call.joins []).flatMap (TableJoin.text q.table) ++
    q.clause Call.condition (fun t ↦ ascii " where " ++ t.build.toSql) ++
    q.clause Call.groups (fun fields ↦ groupBySql (fields.map Operand.info)) ++
    q.clause Call.groupCondition (fun t ↦ ascii " HAVING " ++ t.build.toSql) ++
    q.clause Call.sortKeys (fun fields ↦ orderBySql (fields.map SortKey.info)) ++
    q.clause Call.limitBound (fun n ↦ ascii " LIMIT " ++ n.text)

/-- The statement with one clause of each kind. -/
def statementText : Bytes :=
  q.limitedText ++ q.clause Call.offsetBound fun row ↦ ascii " offset " ++ row.text

end SelectQuery

/-- A statement as the database is given it. -/
def numbered (db : DBType) (sql : Bytes) : Bytes :=
  if db = .postgresql then replacePostgresqlPlaceholders sql else sql

/-- The statement is the one that the calls ask for, and it has an offset only with a limit. -/
structure StagedQuery.OneOfEach (q : StagedQuery) (db : DBType) : Prop where
  text : q.buildSql db = numbered db q.statementText
  limit : (q.lastGiven Call.offsetBound).isSome → (q.lastGiven Call.limitBound).isSome

/-! ## The clauses that are written -/

theorem dropLast_append_ne_nil {xs ys : Bytes} (hxs : xs ≠ []) (hys : ys ≠ []) :
    (xs ++ ys).dropLast ≠ [] := by
  rw [List.dropLast_append_of_ne_nil hys]
  exact List.append_ne_nil_of_left_ne_nil hxs _

theorem Operand.qualifiedName_ne_nil (f : Operand) : f.info.qualifiedName ≠ [] := by
  have hname : f.info.name ≠ [] := by
    obtain c | a := f
    · exact c.field.text_ne_nil
    · cases a <;> simp [info, Aggregate.info, buildAggregateField, ascii]
  exact List.append_ne_nil_of_right_ne_nil _ hname

theorem createStageSelect_ne_nil {fields : List Operand} (h : fields ≠ []) :
    createStageSelect (fields.map Operand.info) ≠ [] := by
  obtain ⟨f, fields, rfl⟩ := List.exists_cons_of_ne_nil h
  rw [createStageSelect_eq, List.map_cons, List.flatMap_cons, List.append_assoc]
  exact dropLast_append_ne_nil f.qualifiedName_ne_nil (List.cons_ne_nil _ _)

theorem selectAllFieldsSql_ne_nil {T : Table} (h : T.members ≠ []) :
    selectAllFieldsSql T ≠ [] := by
  obtain ⟨name, members, hmembers⟩ := List.exists_cons_of_ne_nil h
  rw [selectAllFieldsSql, hmembers, List.flatMap_cons, List.append_assoc, List.append_assoc,
    List.append_assoc]
  exact dropLast_append_ne_nil T.name.text_ne_nil (List.cons_ne_nil _ _)

namespace SelectQuery

variable (q : SelectQuery)

/-- The context that the calls begin with. -/
def start : Context := Ormpp.selectFrom (createStageSelect (q.fields.map Operand.info)) q.table

/-- A clause that the calls replace holds what was given last. -/
theorem read_context_replaced {α : Type} {read : Context → Bytes} {given : Call → Option α}
    {text : α → Bytes} (hstart : read q.start = [])
    (h : ∀ ctx call, read (Call.run q.table ctx call) = ((given call).map text).getD (read ctx)) :
    read q.context = q.clause given text := by
  rw [context, Run.foldl_assigns _ read _ h, ← start, hstart, clause, lastGiven,
    ← List.getLast?_map, List.map_filterMap]

/-- A clause that no call writes is left as it was. -/
theorem read_context_kept (read : Context → Bytes)
    (h : ∀ ctx call, read (Call.run q.table ctx call) = read ctx) :
    read q.context = read q.start := by
  have hfold := Run.foldl_assigns (Call.run q.table) read (fun _ ↦ none) h q.start q.calls
  have hnone : q.calls.filterMap (fun _ ↦ (none : Option Bytes)) = [] :=
    List.filterMap_eq_nil_iff.mpr fun _ _ ↦ rfl
  rw [context, ← start, hfold, hnone]
  rfl

theorem selectClause_context : q.context.selectClause = q.selected := by
  have hkept : q.context.selectClause = q.start.selectClause :=
    q.read_context_kept Context.selectClause fun ctx call ↦ by cases call <;> rfl
  rw [hkept, start, selectFrom, selected]
  by_cases hfields : q.fields = []
  · rw [if_pos hfields, hfields]
    rfl
  · rw [if_neg hfields, if_neg (createStageSelect_ne_nil hfields)]

theorem fromClause_context : q.context.fromClause = ascii " from " ++ q.table.name.text :=
  q.read_context_kept Context.fromClause fun ctx call ↦ by cases call <;> rfl

theorem joinClause_context :
    q.context.joinClause = (q.calls.foldl Call.joins []).flatMap (TableJoin.text q.table) := by
  have hfold (calls : List Call) (ctx : Context) (joins : List TableJoin)
      (h : ctx.joinClause = joins.flatMap (TableJoin.text q.table)) :
      (calls.foldl (Call.run q.table) ctx).joinClause
        = (calls.foldl Call.joins joins).flatMap (TableJoin.text q.table) := by
    induction calls generalizing ctx joins with
    | nil => exact h
    | cons call calls ih =>
      refine ih _ _ ?_
      cases call with
      | join kind field1 field2 => exact (List.append_nil _).symm
      | joinNext field1 field2 =>
        rw [Call.joins, List.flatMap_append, List.flatMap_singleton, ← h]
        rfl
      | _ => exact h
  exact hfold q.calls _ [] rfl

/-- The one clause that is not replaced holds everything that was given. -/
theorem offsetClause_context :
    q.context.offsetClause
      = (q.calls.filterMap Call.offsetBound).flatMap fun row ↦ ascii " offset " ++ row.text := by
  have hfold := Run.foldl_appends (Call.run q.table) Context.offsetClause
    (fun call ↦ call.offsetBound.toList.flatMap fun row ↦ ascii " offset " ++ row.text)
    (fun ctx call ↦ by cases call <;> simp [Call.run, Call.offsetBound, Bound.text,
      placeholderText, ascii]) q.start q.calls
  rw [context, ← start, hfold, List.filterMap_eq_flatMap_toList, List.flatMap_assoc]
  rfl

/-- The statement is the one that the calls ask for, but with every offset that was given. -/
theorem buildSql_eq_numbered (hmembers : q.table.members ≠ []) (db : DBType) :
    q.buildSql db = numbered db (q.limitedText ++
      (q.calls.filterMap Call.offsetBound).flatMap fun row ↦ ascii " offset " ++ row.text) := by
  have hselected : q.selected ≠ [] := by
    rw [selected]
    split_ifs with hfields
    · exact selectAllFieldsSql_ne_nil hmembers
    · exact createStageSelect_ne_nil hfields
  have hwhere : q.context.whereClause = q.clause Call.condition fun t ↦ t.build.toSql :=
    q.read_context_replaced rfl fun ctx call ↦ by cases call <;> rfl
  have hgroupBy : q.context.groupByClause
      = q.clause Call.groups fun fields ↦ groupBySql (fields.map Operand.info) :=
    q.read_context_replaced rfl fun ctx call ↦ by cases call <;> rfl
  have hhaving : q.context.havingClause
      = q.clause Call.groupCondition fun t ↦ ascii " HAVING " ++ t.build.toSql :=
    q.read_context_replaced rfl fun ctx call ↦ by cases call <;> rfl
  have horderBy : q.context.orderByClause
      = q.clause Call.sortKeys fun fields ↦ orderBySql (fields.map SortKey.info) :=
    q.read_context_replaced rfl fun ctx call ↦ by cases call <;> rfl
  have hlimit : q.context.limitClause
      = q.clause Call.limitBound fun n ↦ ascii " LIMIT " ++ n.text :=
    q.read_context_replaced rfl fun ctx call ↦ by cases call <;> rfl
  -- the word in front of the condition is written where there is a condition
  have hword : (if q.context.selectClause ≠ [] ∧ q.context.whereClause ≠ [] then
        ascii " where " ++ q.context.whereClause else q.context.whereClause)
      = q.clause Call.condition fun t ↦ ascii " where " ++ t.build.toSql := by
    rw [q.selectClause_context, hwhere, clause, clause]
    cases q.lastGiven Call.condition with
    | none => exact if_neg fun h ↦ h.2 rfl
    | some t => exact if_pos ⟨hselected, List.cons_ne_nil _ _⟩
  rw [buildSql, Context.buildSql, numbered]
  rw [hword, q.selectClause_context, if_pos hselected, q.fromClause_context,
    q.joinClause_context, hgroupBy, hhaving, horderBy, hlimit, q.offsetClause_context, limitedText]
  simp only [List.append_assoc]

theorem isSome_lastGiven {α : Type} (given : Call → Option α) :
    (q.lastGiven given).isSome ↔ ∃ call ∈ q.calls, (given call).isSome := by
  rw [lastGiven, List.getLast?_isSome, ne_eq, List.filterMap_eq_nil_iff]
  push Not
  simp only [Option.isSome_iff_ne_none]

end SelectQuery

/-! ## One clause of each kind -/

theorem mem_foldl_keepStage {stage : Stage} {calls : List Call} {stages : List Stage}
    (h : stage ∈ calls.foldl keepStage stages) :
    stage ∈ stages ∨ ∃ call ∈ calls, call.stage = stage := by
  induction calls generalizing stages with
  | nil => exact .inl h
  | cons call calls ih =>
    obtain hmem | ⟨later, hlater, hstage⟩ := ih h
    · obtain heq | hmem := List.mem_cons.mp hmem
      · exact .inr ⟨call, List.mem_cons_self, heq.symm⟩
      · exact .inl hmem
    · exact .inr ⟨later, List.mem_cons_of_mem _ hlater, hstage⟩

/-- Numbering the parameters leaves every other byte as it is. -/
theorem count_numbered {b : Byte} (hb : b ≠ questionMark) (hdollar : b ≠ 0x24)
    (hdigit : isDigit b = false) (db : DBType) (sql : Bytes) :
    (numbered db sql).count b = sql.count b := by
  rw [numbered]
  split_ifs
  · refine Scanner.count_replaceAll hb (fun index hmem ↦ ?_) 1 sql
    obtain hmem | hmem := List.mem_append.mp hmem
    · exact hdollar (List.mem_singleton.mp hmem)
    · rw [isDigit_of_mem_natText hmem] at hdigit
      cases hdigit
  · rfl

/-- Where every text has the byte, only the last text counts if there is no other. -/
theorem length_le_one_of_count {α : Type} {text : α → Bytes} {b : Byte} (h : ∀ x, b ∈ text x)
    {xs : List α}
    (hcount : (xs.flatMap text).count b = ((xs.getLast?.map text).getD []).count b) :
    xs.length ≤ 1 := by
  obtain rfl | ⟨front, last, rfl⟩ := List.eq_nil_or_concat xs
  · exact Nat.zero_le 1
  · rw [List.concat_eq_append, List.getLast?_concat, List.flatMap_append, List.flatMap_singleton,
      List.count_append] at hcount
    have hfront : (front.flatMap text).count b = 0 := Nat.add_eq_right.mp hcount
    obtain _ | ⟨x, front⟩ := front
    · exact le_refl 1
    · have hmem : b ∈ (x :: front).flatMap text :=
        List.mem_flatMap.mpr ⟨x, List.mem_cons_self, h x⟩
      exact absurd hmem (List.count_eq_zero.mp hfront)

theorem flatMap_eq_of_length_le_one {α : Type} (text : α → Bytes) {xs : List α}
    (h : xs.length ≤ 1) : xs.flatMap text = (xs.getLast?.map text).getD [] := by
  obtain _ | ⟨x, _ | ⟨y, xs⟩⟩ := xs
  · rfl
  · exact List.flatMap_singleton _ _
  · exact absurd h (by simp)

namespace StagedQuery

/-- An offset is only given on a stage that a limit has returned. -/
theorem isSome_limitBound (q : StagedQuery) (h : (q.lastGiven Call.offsetBound).isSome) :
    (q.lastGiven Call.limitBound).isSome := by
  obtain ⟨call, hcall, hoffset⟩ := (q.isSome_lastGiven _).mp h
  obtain ⟨before, after, hcalls⟩ := List.append_of_mem hcall
  obtain ⟨stage, hstage, hallows⟩ :=
    (Run.along_iff keepStage).mp q.permitted before call after hcalls
  have hlimit : stage = .limit := by
    cases call with
    | offset row => exact List.mem_singleton.mp hallows
    | offsetToken => exact List.mem_singleton.mp hallows
    | _ => cases hoffset
  subst hlimit
  obtain hmem | ⟨given, hgiven, hreturns⟩ := mem_foldl_keepStage hstage
  · exact absurd hmem (by decide)
  · refine (q.isSome_lastGiven _).mpr ⟨given, ?_, ?_⟩
    · rw [hcalls]
      exact List.mem_append_left _ hgiven
    · cases given with
      | limit n => rfl
      | limitToken => rfl
      | _ => cases hreturns

/-- **The statement has one clause of each kind** exactly where an offset is given at most once. -/
theorem oneOfEach_iff (q : StagedQuery) (db : DBType) :
    q.OneOfEach db ↔ (q.calls.filterMap Call.offsetBound).length ≤ 1 := by
  have hbuild := q.buildSql_eq_numbered q.members_ne_nil db
  constructor
  · intro h
    have hword (row : Bound) : (0x66 : Byte) ∈ ascii " offset " ++ row.text :=
      List.mem_append_left _ (by decide)
    have hcount := congrArg (List.count 0x66) (hbuild.symm.trans h.text)
    rw [count_numbered (by decide) (by decide) (by decide),
      count_numbered (by decide) (by decide) (by decide), SelectQuery.statementText,
      List.count_append, List.count_append, Nat.add_left_cancel_iff] at hcount
    exact length_le_one_of_count hword hcount
  · intro h
    refine ⟨?_, q.isSome_limitBound⟩
    rw [hbuild, flatMap_eq_of_length_le_one _ h]
    rfl

/-- A limit whose stage is kept and given two offsets. -/
def twoOffsets : StagedQuery where
  table := ⟨.lit (ascii "person"), [.lit (ascii "id")]⟩
  fields := []
  calls := [.limit 10, .offset 0, .offset 10]
  members_ne_nil := List.cons_ne_nil _ _
  permitted := by decide

/-- Both offsets stand in the statement. -/
theorem not_oneOfEach :
    twoOffsets.buildSql .sqlite
        = ascii "select person.id from person LIMIT 10 offset 0 offset 10" ∧
      ¬ ∀ (q : StagedQuery) (db : DBType), q.OneOfEach db := by
  refine ⟨by decide, fun h ↦ ?_⟩
  have htext := (h twoOffsets .sqlite).text
  revert htext
  decide

end StagedQuery

end Ormpp
