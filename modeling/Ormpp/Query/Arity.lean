import Ormpp.Query.Builder
import Ormpp.Query.Items

/-!
# The placeholders of a select query

A select query should have one placeholder for each condition, limit and offset that was written
with a parameter, in the order of the text, and everything that was given as data should be data.
The clauses of the context are compared with what the calls meant by them: code, strings and places
for parameters. The one way in which they differ is a string that something is compared with and
that happens to be the builder's own text for a parameter.
-/

namespace Ormpp

open Sql

/-! ## What was written -/

/-- A limit or an offset. -/
inductive Bound
  | value (n : ℕ)
  | token

def Bound.items (word : Bytes) : Bound → List Item
  | .value n => [.code (word ++ natText n)]
  | .token => [.code word, .slot]

def Bound.params : Bound → ℕ
  | .value _ => 0
  | .token => 1

/-- The conditions and bounds that the calls of a query leave in its clauses. -/
structure Written where
  condition : Option ConditionTree := none
  having : Option ConditionTree := none
  limit : Option Bound := none
  offsets : List Bound := []

def Written.record (w : Written) : Call → Written
  | .where condition => { w with condition := some condition }
  | .having condition => { w with having := some condition }
  | .limit n => { w with limit := some (.value n) }
  | .limitToken => { w with limit := some .token }
  | .offset row => { w with offsets := w.offsets ++ [.value row] }
  | .offsetToken => { w with offsets := w.offsets ++ [.token] }
  | .join _ _ _ | .joinNext _ _ | .groupBy _ | .orderBy _ => w

def SelectQuery.written (q : SelectQuery) : Written := q.calls.foldl Written.record {}

/-- The conditions that were written with `param`. -/
def ConditionTree.params : ConditionTree → ℕ
  | .param _ => 1
  | .or lhs rhs | .and lhs rhs => lhs.params + rhs.params
  | .compare _ _ _ | .isIn _ _ | .notIn _ _ | .null _ | .notNull _ | .between _ _ _ | .like _ _ => 0

/-- The strings that something is compared with. -/
def ConditionTree.comparedStrings : ConditionTree → List Bytes
  | .compare _ _ (.string s) => [s]
  | .or lhs rhs | .and lhs rhs => lhs.comparedStrings ++ rhs.comparedStrings
  | .param _ | .compare _ _ _ | .isIn _ _ | .notIn _ _ | .null _ | .notNull _ | .between _ _ _
  | .like _ _ => []

/-- The conditions, limits and offsets that were written with a parameter. -/
def SelectQuery.params (q : SelectQuery) : ℕ :=
  ((q.written.condition.toList ++ q.written.having.toList).map ConditionTree.params).sum +
    ((q.written.limit.toList ++ q.written.offsets).map Bound.params).sum

def SelectQuery.comparedStrings (q : SelectQuery) : List Bytes :=
  (q.written.condition.toList ++ q.written.having.toList).flatMap ConditionTree.comparedStrings

/-! ## The items of a query -/

def conditionItems (word : Bytes) (c : Option ConditionTree) : List Item :=
  c.toList.flatMap fun t ↦ .code word :: t.items

/-- The parts of a query, by what they are meant to be. -/
def SelectQuery.items (q : SelectQuery) : List Item :=
  let ctx := q.context
  let w := q.written
  .code ((if ctx.selectClause ≠ [] then ascii "select " ++ ctx.selectClause ++ ctx.fromClause
      else []) ++ ctx.joinClause) ::
    (conditionItems (if ctx.selectClause ≠ [] then ascii " where " else []) w.condition ++
      .code ctx.groupByClause ::
        (conditionItems (ascii " HAVING ") w.having ++
          .code ctx.orderByClause ::
            (w.limit.toList.flatMap (Bound.items (ascii " LIMIT ")) ++
              w.offsets.flatMap (Bound.items (ascii " offset ")))))

/-- The items with the parameters numbered. -/
def Item.number : ℕ → List Item → List Item
  | _, [] => []
  | k, .slot :: is => .code (ascii "$" ++ natText k ++ ascii "  ") :: number (k + 1) is
  | k, .code t :: is => .code t :: number k is
  | k, .string v :: is => .string v :: number k is
  | k, .compared v :: is => .compared v :: number k is

/-- The placeholders of a query are what they should be. -/
structure SelectQuery.Sound (q : SelectQuery) : Prop where
  /-- Data is read as data and code as code, the parameters in their places. -/
  asMeant : ∀ db, db ≠ .postgresql →
    standard.lex (q.buildSql db) = q.items.flatMap fun i ↦ i.meant.lexemes
  arity : ∀ db, db ≠ .postgresql →
    (standard.lex (q.buildSql db)).count (.code questionMark) = q.params
  /-- PostgreSQL reads the same, with the parameters numbered from left to right. -/
  numbered : standard.lex (q.buildSql .postgresql)
    = (Item.number 1 q.items).flatMap fun i ↦ i.meant.lexemes

/-! ## Clauses of plain text -/

theorem Plain.dropLast {text : Bytes} (h : Plain text) : Plain text.dropLast :=
  fun b hb ↦ h b (List.mem_of_mem_dropLast hb)

theorem Plain.flatMap {β : Type} {f : β → Bytes} {xs : List β} (h : ∀ x ∈ xs, Plain (f x)) :
    Plain (xs.flatMap f) := by
  intro b hb
  obtain ⟨x, hx, hmem⟩ := List.mem_flatMap.mp hb
  exact h x hx b hmem

theorem appendSelect_eq (sel : Bytes) (arg : ColInfo) :
    appendSelect sel arg = sel ++ arg.qualifiedName ++ ascii "," := by
  rw [appendSelect, ColInfo.qualifiedName, qualifiedFieldName]
  by_cases h : arg.className = []
  · simp [h]
  · simp [h]

theorem createStageSelect_eq (args : List ColInfo) :
    createStageSelect args = (args.flatMap fun arg ↦ arg.qualifiedName ++ ascii ",").dropLast := by
  have hfold : args.foldl appendSelect [] = args.flatMap fun arg ↦ arg.qualifiedName ++ ascii "," :=
    Run.foldl_appends appendSelect id (fun arg ↦ arg.qualifiedName ++ ascii ",")
      (fun sel arg ↦ (appendSelect_eq sel arg).trans (List.append_assoc _ _ _)) [] args
  rw [createStageSelect, hfold]

theorem plain_createStageSelect (fields : List Operand) :
    Plain (createStageSelect (fields.map Operand.info)) := by
  rw [createStageSelect_eq]
  refine (Plain.flatMap fun arg harg ↦ ?_).dropLast
  obtain ⟨f, -, rfl⟩ := List.mem_map.mp harg
  exact (ConditionTree.isPlain_operand f).append (by decide)

theorem plain_selectAllFieldsSql (T : Table) : Plain (selectAllFieldsSql T) :=
  (Plain.flatMap fun name _ ↦
    ((T.name.isPlain.append (by decide)).append name.isPlain).append (by decide)).dropLast

theorem plain_joinImpl (T : Table) (kind : JoinKind) (field1 field2 : Column) :
    Plain (joinImpl T kind.text field1.info field2.info) := by
  have hkind : Plain kind.text := by cases kind <;> decide
  have hjoin : Plain (ascii "join ") := by decide
  have hon : Plain (ascii " ON ") := by decide
  have hdot : Plain (ascii ".") := by decide
  have heq : Plain (ascii "=") := by decide
  have hblank : Plain (ascii " ") := by decide
  have htable : Plain (if T.name.text = field1.info.className then field2.info.className
      else field1.info.className) := by
    split_ifs
    · exact field2.isPlain_className
    · exact field1.isPlain_className
  have hname (c : Column) : Plain (c.info.className ++ ascii "." ++ c.info.name) :=
    (c.isPlain_className.append hdot).append c.field.isPlain
  have hleft := (((hkind.append hjoin).append htable).append hon).append (hname field1)
  have hright := heq.append ((hname field2).append hblank)
  simpa only [joinImpl, List.append_assoc] using hleft.append hright

theorem plain_groupBySql (fields : List Operand) :
    Plain (groupBySql (fields.map Operand.info)) := by
  have hword : Plain (ascii " GROUP BY ") := by decide
  refine (hword.append (Plain.flatMap fun f hf ↦ ?_)).dropLast
  obtain ⟨operand, -, rfl⟩ := List.mem_map.mp hf
  exact (ConditionTree.isPlain_operand operand).append (by decide)

theorem plain_orderBySql (fields : List SortKey) :
    Plain (orderBySql (fields.map SortKey.info)) := by
  have hword : Plain (ascii " ORDER BY ") := by decide
  refine (hword.append (Plain.flatMap fun f hf ↦ ?_)).dropLast
  obtain ⟨key, -, rfl⟩ := List.mem_map.mp hf
  have hsort : Plain key.info.sortOrder := by
    have hdesc : Plain (ascii " DESC ") := by decide
    have hasc : Plain (ascii " ASC ") := by decide
    cases key with
    | plain c => exact fun b hb ↦ absurd hb List.not_mem_nil
    | desc c => exact hdesc
    | asc c => exact hasc
  have hname : Plain (qualifiedFieldName key.info.className key.info.name) := by
    cases key with
    | plain c | desc c | asc c => exact c.isPlain
  exact (hname.append hsort).append (by decide)

/-! ## The clauses render what was written -/

/-- The context holds the text of what was written, and plain text besides. -/
structure Renders (w : Written) (ctx : Context) : Prop where
  select : Plain ctx.selectClause
  from' : Plain ctx.fromClause
  join : Plain ctx.joinClause
  groupBy : Plain ctx.groupByClause
  orderBy : Plain ctx.orderByClause
  condition : ctx.whereClause = (conditionItems [] w.condition).flatMap Item.text
  having : ctx.havingClause = (conditionItems (ascii " HAVING ") w.having).flatMap Item.text
  limit : ctx.limitClause
    = (w.limit.toList.flatMap (Bound.items (ascii " LIMIT "))).flatMap Item.text
  offset : ctx.offsetClause
    = (w.offsets.flatMap (Bound.items (ascii " offset "))).flatMap Item.text

theorem text_conditionItems (word : Bytes) (t : ConditionTree) :
    (conditionItems word (some t)).flatMap Item.text = word ++ t.build.toSql := by
  rw [conditionItems, Option.toList_some, List.flatMap_singleton, List.flatMap_cons,
    ← t.toSql_build, Item.text_code]

theorem text_bound (word : Bytes) (b : Bound) :
    (b.items word).flatMap Item.text
      = word ++ match b with
          | .value n => natText n
          | .token => placeholderText := by
  cases b with
  | value n => exact List.append_nil _
  | token => exact congrArg (word ++ ·) (List.append_nil _)

theorem Renders.selectFrom (fields : List Operand) (T : Table) :
    Renders {} (selectFrom (createStageSelect (fields.map Operand.info)) T) where
  select := by
    rw [Ormpp.selectFrom]
    dsimp only
    split_ifs
    · exact plain_selectAllFieldsSql T
    · exact plain_createStageSelect fields
  from' := Plain.append (by decide) T.name.isPlain
  join := fun b hb ↦ absurd hb List.not_mem_nil
  groupBy := fun b hb ↦ absurd hb List.not_mem_nil
  orderBy := fun b hb ↦ absurd hb List.not_mem_nil
  condition := rfl
  having := rfl
  limit := rfl
  offset := rfl

/-- One call. -/
theorem Renders.run {w : Written} {ctx : Context} (h : Renders w ctx) (T : Table) (call : Call) :
    Renders (w.record call) (call.run T ctx) := by
  have hlimit (b : Bound) : (some b).toList.flatMap (Bound.items (ascii " LIMIT "))
      = b.items (ascii " LIMIT ") := List.flatMap_singleton _ _
  have hoffset (b : Bound) : ((w.offsets ++ [b]).flatMap (Bound.items (ascii " offset "))).flatMap
        Item.text
      = ctx.offsetClause ++ (b.items (ascii " offset ")).flatMap Item.text := by
    rw [List.flatMap_append, List.flatMap_append, List.flatMap_singleton, h.offset]
  cases call with
  | join kind field1 field2 => exact { h with join := plain_joinImpl T kind field1 field2 }
  | joinNext field1 field2 =>
    exact { h with join := h.join.append (plain_joinImpl T .inner field1 field2) }
  | «where» t => exact { h with condition := (text_conditionItems [] t).symm }
  | groupBy fields => exact { h with groupBy := plain_groupBySql fields }
  | having t => exact { h with having := (text_conditionItems _ t).symm }
  | orderBy fields => exact { h with orderBy := plain_orderBySql fields }
  | limit n => exact { h with limit := by rw [Written.record, hlimit, text_bound]; rfl }
  | limitToken => exact { h with limit := by rw [Written.record, hlimit, text_bound]; rfl }
  | offset row =>
    refine { h with offset := ?_ }
    rw [Written.record, hoffset, text_bound, ← List.append_assoc]
    rfl
  | offsetToken =>
    refine { h with offset := ?_ }
    rw [Written.record, hoffset, text_bound]
    rfl

/-- Every call, from the first to the last. -/
theorem Renders.foldl {w : Written} {ctx : Context} (h : Renders w ctx) (T : Table)
    (calls : List Call) :
    Renders (calls.foldl Written.record w) (calls.foldl (Call.run T) ctx) := by
  induction calls generalizing w ctx with
  | nil => exact h
  | cons call calls ih => exact ih (h.run T call)

theorem SelectQuery.renders (q : SelectQuery) : Renders q.written q.context :=
  (Renders.selectFrom q.fields q.table).foldl q.table q.calls

/-! ## The text of the items -/

/-- The query before its placeholders are numbered. -/
theorem SelectQuery.buildSql_eq (q : SelectQuery) (db : DBType) :
    q.buildSql db = if db = .postgresql then
      replacePostgresqlPlaceholders (q.items.flatMap Item.text) else q.items.flatMap Item.text := by
  have h := q.renders
  -- `build_sql` writes ` where ` itself, and only in front of a condition that is not empty.
  have hcondition : (if q.context.selectClause ≠ [] ∧ q.context.whereClause ≠ [] then
        ascii " where " ++ q.context.whereClause else q.context.whereClause)
      = (conditionItems (if q.context.selectClause ≠ [] then ascii " where " else [])
          q.written.condition).flatMap Item.text := by
    cases hwritten : q.written.condition with
    | none =>
      have hempty : q.context.whereClause = [] := by rw [h.condition, hwritten]; rfl
      rw [hempty, if_neg fun hne ↦ hne.2 rfl]
      rfl
    | some t =>
      have htext : q.context.whereClause = t.build.toSql := by
        rw [h.condition, hwritten, text_conditionItems, List.nil_append]
      have hne : t.build.toSql ≠ [] := List.cons_ne_nil _ _
      rw [text_conditionItems, htext]
      by_cases hselect : q.context.selectClause = [] <;> simp [hselect, hne]
  have hitems : q.items.flatMap Item.text
      = (if q.context.selectClause ≠ [] then
          ascii "select " ++ q.context.selectClause ++ q.context.fromClause else []) ++
        q.context.joinClause ++
        (if q.context.selectClause ≠ [] ∧ q.context.whereClause ≠ [] then
          ascii " where " ++ q.context.whereClause else q.context.whereClause) ++
        q.context.groupByClause ++ q.context.havingClause ++ q.context.orderByClause ++
        q.context.limitClause ++ q.context.offsetClause := by
    rw [hcondition, h.having, h.limit, h.offset]
    simp [items]
  rw [buildSql, Context.buildSql, hitems]

theorem spaced_conditionItems {word : Bytes} (hword : Plain word) (c : Option ConditionTree)
    {is : List Item} (h : Item.Spaced is) : Item.Spaced (conditionItems word c ++ is) := by
  cases c with
  | none => exact h
  | some t =>
    rw [conditionItems, Option.toList_some, List.flatMap_singleton]
    exact (t.spaced_items h).code hword.isCode

theorem spaced_bounds {word : Bytes} (hword : Plain word) (bs : List Bound) {is : List Item}
    (h : Item.Spaced is) : Item.Spaced (bs.flatMap (Bound.items word) ++ is) := by
  induction bs with
  | nil => exact h
  | cons b bs ih =>
    rw [List.flatMap_cons, List.append_assoc]
    cases b with
    | value n => exact ih.code (hword.append (plain_natText n)).isCode
    | token => exact Item.Spaced.code ih hword.isCode

theorem SelectQuery.spaced_items (q : SelectQuery) : Item.Spaced q.items := by
  have h := q.renders
  have hselect : Plain (if q.context.selectClause ≠ [] then
      ascii "select " ++ q.context.selectClause ++ q.context.fromClause else []) := by
    split_ifs
    · exact (Plain.append (by decide) h.select).append h.from'
    · exact fun b hb ↦ absurd hb List.not_mem_nil
  have hwhere : Plain (if q.context.selectClause ≠ [] then ascii " where " else []) := by
    split_ifs <;> decide
  have hhaving : Plain (ascii " HAVING ") := by decide
  have hlimit : Plain (ascii " LIMIT ") := by decide
  have hoffset : Plain (ascii " offset ") := by decide
  have hoffsets := spaced_bounds hoffset q.written.offsets (show Item.Spaced [] from trivial)
  rw [List.append_nil] at hoffsets
  have hlimits := spaced_bounds hlimit q.written.limit.toList hoffsets
  have hhavings := spaced_conditionItems hhaving q.written.having (hlimits.code h.orderBy.isCode)
  exact (spaced_conditionItems hwhere q.written.condition (hhavings.code h.groupBy.isCode)).code
    (hselect.append h.join).isCode

/-! ## Counting parameters -/

namespace Item

def isSlot : Item → Bool
  | .slot => true
  | .code _ | .string _ | .compared _ => false

@[simp] theorem isSlot_code (t : Bytes) : (code t).isSlot = false := rfl

@[simp] theorem faithful_code (t : Bytes) : (code t).Faithful := by rintro ⟨⟩

@[simp] theorem faithful_string (v : Bytes) : (string v).Faithful := by rintro ⟨⟩

@[simp] theorem faithful_slot : slot.Faithful := by rintro ⟨⟩

@[simp] theorem faithful_compared (v : Bytes) : (compared v).Faithful ↔ v ≠ placeholderText :=
  not_congr ⟨fun heq ↦ compared.inj heq, fun heq ↦ heq ▸ rfl⟩

/-- The question marks of the statement proper are the places for parameters. -/
theorem count_meant {is : List Item} (h : Spaced is) :
    (is.flatMap fun i ↦ i.meant.lexemes).count (.code questionMark) = is.countP isSlot := by
  have hcode (t : Bytes) : (t.map Lexeme.code).count (.code questionMark) = t.count questionMark :=
    List.count_map_of_injective t _ (fun _ _ heq ↦ Lexeme.code.inj heq) _
  induction is with
  | nil => rfl
  | cons i is ih =>
    rw [List.flatMap_cons, List.count_append]
    cases i with
    | code t =>
      rw [ih h.2, meant, Piece.lexemes, hcode, List.count_eq_zero.mpr h.1.notMem_questionMark,
        List.countP_cons_of_neg Bool.false_ne_true, Nat.zero_add]
    | string v | compared v =>
      rw [ih h.2, List.countP_cons_of_neg Bool.false_ne_true]
      exact Nat.zero_add _
    | slot =>
      rw [ih h, List.countP_cons_of_pos rfl, Nat.add_comm]
      rfl

end Item

/-- Neither a place for a parameter nor a string that something is compared with. -/
theorem mem_valueItems {v : Value} {vs : List Value} {i : Item} (h : i ∈ valueItems v vs) :
    i.Faithful ∧ i.isSlot = false := by
  have hitem (v : Value) : v.item.Faithful ∧ v.item.isSlot = false := by
    cases v <;> exact ⟨by simp [Value.item], rfl⟩
  obtain rfl | hmore := List.mem_cons.mp h
  · exact hitem v
  · obtain ⟨w, -, hw⟩ := List.mem_flatMap.mp hmore
    obtain rfl | hw := List.mem_cons.mp hw
    · exact ⟨Item.faithful_code _, rfl⟩
    · rw [List.mem_singleton.mp hw]
      exact hitem w

namespace ConditionTree

theorem mem_listItems {c : Column} {word constant : Bytes} {vs : List Value} {i : Item}
    (h : i ∈ listItems c word constant vs) : i.Faithful ∧ i.isSlot = false := by
  have hcode (t : Bytes) : (Item.code t).Faithful ∧ (Item.code t).isSlot = false :=
    ⟨Item.faithful_code t, rfl⟩
  cases vs with
  | nil =>
    rw [List.mem_singleton.mp h]
    exact hcode _
  | cons v vs =>
    obtain rfl | h := List.mem_cons.mp h
    · exact hcode _
    · obtain h | h := List.mem_append.mp h
      · exact mem_valueItems h
      · rw [List.mem_singleton.mp h]
        exact hcode _

theorem countP_items (t : ConditionTree) : t.items.countP Item.isSlot = t.params := by
  have hlist (c : Column) (word constant : Bytes) (vs : List Value) :
      (listItems c word constant vs).countP Item.isSlot = 0 :=
    List.countP_eq_zero.mpr fun i hi ↦ by rw [(mem_listItems hi).2]; decide
  have hvalue (v : Value) : v.item.isSlot = false ∧ v.comparedItem.isSlot = false := by
    cases v <;> exact ⟨rfl, rfl⟩
  induction t with
  | param c => rfl
  | compare f op v => simp [items, params, hvalue]
  | isIn c vs | notIn c vs => exact hlist ..
  | null c | notNull c => rfl
  | between c lo hi => simp [items, params, hvalue]
  | like c s => rfl
  | or lhs rhs ihl ihr | and lhs rhs ihl ihr => simp [items, params, Item.isSlot, ihl, ihr]

/-- The strings that something is compared with are the items that may be written otherwise. -/
theorem faithful_items_iff (t : ConditionTree) :
    (∀ i ∈ t.items, i.Faithful) ↔ ∀ s ∈ t.comparedStrings, s ≠ placeholderText := by
  have hlist (c : Column) (word constant : Bytes) (vs : List Value) :
      ∀ i ∈ listItems c word constant vs, i.Faithful := fun i hi ↦ (mem_listItems hi).1
  have hvalue (v : Value) : v.item.Faithful := by cases v <;> simp [Value.item]
  have hnone : ∀ s ∈ ([] : List Bytes), s ≠ placeholderText :=
    fun s hs ↦ absurd hs List.not_mem_nil
  induction t with
  | param c => simp [items, comparedStrings]
  | compare f op v => cases v <;> simp [items, comparedStrings, Value.comparedItem]
  | isIn c vs => exact iff_of_true (hlist c _ _ vs) hnone
  | notIn c vs => exact iff_of_true (hlist c _ _ vs) hnone
  | null c | notNull c => simp [items, comparedStrings]
  | between c lo hi => simp [items, comparedStrings, hvalue]
  | like c s => simp [items, comparedStrings]
  | or lhs rhs ihl ihr | and lhs rhs ihl ihr =>
    rw [comparedStrings, List.forall_mem_append]
    refine Iff.trans ?_ (and_congr ihl ihr)
    simp only [items, List.forall_mem_cons, List.forall_mem_append]
    simp

end ConditionTree

/-! ## Numbering parameters -/

namespace Item

/-- Numbering does not touch a quote at the front. -/
theorem head_number (k : ℕ) (is : List Item) (h : (is.flatMap text).head? ≠ some quote) :
    ((number k is).flatMap text).head? ≠ some quote := by
  induction is with
  | nil => exact h
  | cons i is ih =>
    rw [List.flatMap_cons] at h
    cases i with
    | slot => simp [number, ascii, quote]
    | code t =>
      rw [number, List.flatMap_cons]
      cases t with
      | nil => exact ih h
      | cons b t => exact h
    | string v => exact absurd rfl h
    | compared v =>
      rw [number, List.flatMap_cons]
      by_cases hv : v = placeholderText
      · rw [text_compared, if_pos hv, hv]
        simp [placeholderText, ascii, quote]
      · rw [text_compared, if_neg hv] at h
        exact absurd rfl h

theorem spaced_number (k : ℕ) {is : List Item} (h : Spaced is) : Spaced (number k is) := by
  have hdollar : Plain (ascii "$") := by decide
  have hblanks : Plain (ascii "  ") := by decide
  induction is generalizing k with
  | nil => trivial
  | cons i is ih =>
    cases i with
    | slot => exact (ih (k + 1) h).code ((hdollar.append (plain_natText k)).append hblanks).isCode
    | code t => exact ⟨h.1, ih k h.2⟩
    | string v | compared v => exact ⟨head_number k is h.1, ih k h.2⟩

theorem faithful_number (k : ℕ) {is : List Item} (h : ∀ i ∈ is, i.Faithful) :
    ∀ i ∈ number k is, i.Faithful := by
  induction is generalizing k with
  | nil => exact h
  | cons i is ih =>
    obtain ⟨hi, his⟩ := List.forall_mem_cons.mp h
    cases i with
    | slot => exact List.forall_mem_cons.mpr ⟨faithful_code _, ih (k + 1) his⟩
    | code | string | compared => exact List.forall_mem_cons.mpr ⟨hi, ih k his⟩

theorem skips_plain {t : Bytes} (h : Plain t) (s : Scanner) : s.Skips .code t .code :=
  Scanner.skips_code fun b hb ↦
    ⟨h.isCodeByte b hb, fun heq ↦ h.notMem_questionMark (heq ▸ hb)⟩

theorem skips_isCode {t : Bytes} (h : IsCode t) (s : Scanner) : s.Skips .code t .code := by
  obtain h | ⟨body, rfl, hne, hbody⟩ := h
  · exact skips_plain h s
  · obtain ⟨b, bs, rfl⟩ := List.exists_cons_of_ne_nil hne
    exact Scanner.skips_dash fun c hc ↦
      ⟨hbody.isCodeByte c hc, fun heq ↦ hbody.notMem_questionMark (heq ▸ hc)⟩

/-- The pass over the finished text finds the places for parameters, and nothing else. -/
theorem replaceAll_items (k : ℕ) {is : List Item} (h : Spaced is) (hf : ∀ i ∈ is, i.Faithful) :
    postgresqlScanner.replaceAll (fun index ↦ ascii "$" ++ natText index) k (is.flatMap text)
      = (number k is).flatMap text := by
  have hliteral (v : Bytes) (is : List Item) (hhead : (is.flatMap text).head? ≠ some quote)
      (k : ℕ) :
      postgresqlScanner.replaceAll (fun index ↦ ascii "$" ++ natText index) k
          (formatString v ++ is.flatMap text)
        = formatString v ++
          postgresqlScanner.replaceAll (fun index ↦ ascii "$" ++ natText index) k
            (is.flatMap text) :=
    Scanner.replaceAll_skip (Scanner.split_literal rfl v hhead) _ k
  induction is generalizing k with
  | nil => exact Scanner.replaceAll_of_none rfl _ k
  | cons i is ih =>
    obtain ⟨hi, his⟩ := List.forall_mem_cons.mp hf
    cases i with
    | code t =>
      rw [number, List.flatMap_cons, List.flatMap_cons, text_code,
        Scanner.replaceAll_skip (skips_isCode h.1 _ _), ih k h.2 his]
    | string v =>
      rw [number, List.flatMap_cons, List.flatMap_cons, text_string, hliteral v is h.1,
        ih k h.2 his]
    | compared v =>
      have htext : (compared v).text = formatString v :=
        (text_compared v).trans (if_neg ((faithful_compared v).mp hi))
      rw [number, List.flatMap_cons, List.flatMap_cons, htext, hliteral v is h.1, ih k h.2 his]
    -- The question mark is replaced, and the two blanks behind it stay.
    | slot =>
      have hblanks : Plain (ascii "  ") := by decide
      have htext : (slot :: is).flatMap text = questionMark :: (ascii "  " ++ is.flatMap text) :=
        rfl
      rw [number, htext, Scanner.replaceAll_placeholder,
        Scanner.replaceAll_skip (skips_plain hblanks _ _), ih (k + 1) h his, List.flatMap_cons,
        text_code, List.append_assoc _ (ascii "  ")]

end Item

/-! ## The placeholders of a query -/

namespace SelectQuery

theorem countP_items (q : SelectQuery) : q.items.countP Item.isSlot = q.params := by
  have hcondition (word : Bytes) (c : Option ConditionTree) :
      (conditionItems word c).countP Item.isSlot = (c.toList.map ConditionTree.params).sum := by
    cases c with
    | none => rfl
    | some t => simp [conditionItems, t.countP_items]
  have hbound (word : Bytes) (bs : List Bound) :
      (bs.flatMap (Bound.items word)).countP Item.isSlot = (bs.map Bound.params).sum := by
    induction bs with
    | nil => rfl
    | cons b bs ih =>
      rw [List.flatMap_cons, List.countP_append, ih, List.map_cons, List.sum_cons]
      cases b <;> rfl
  simp only [items, List.countP_cons, List.countP_append, hcondition, hbound, Item.isSlot_code,
    params, List.map_append, List.sum_append]
  simp [Nat.add_assoc]

theorem faithful_items_iff (q : SelectQuery) :
    (∀ i ∈ q.items, i.Faithful) ↔ ∀ s ∈ q.comparedStrings, s ≠ placeholderText := by
  have hcondition (word : Bytes) (c : Option ConditionTree) :
      (∀ i ∈ conditionItems word c, i.Faithful) ↔
        ∀ s ∈ c.toList.flatMap ConditionTree.comparedStrings, s ≠ placeholderText := by
    cases c with
    | none => simp [conditionItems]
    | some t =>
      rw [conditionItems, Option.toList_some, List.flatMap_singleton, List.flatMap_singleton,
        List.forall_mem_cons, and_iff_right (Item.faithful_code word)]
      exact t.faithful_items_iff
  have hbound (word : Bytes) (bs : List Bound) :
      ∀ i ∈ bs.flatMap (Bound.items word), i.Faithful := by
    intro i hi
    obtain ⟨b, -, hb⟩ := List.mem_flatMap.mp hi
    cases b <;> simp [Bound.items] at hb <;> rcases hb with rfl | rfl <;> simp
  have hwhere := hcondition (if q.context.selectClause ≠ [] then ascii " where " else [])
    q.written.condition
  have hhaving := hcondition (ascii " HAVING ") q.written.having
  rw [comparedStrings, List.flatMap_append, List.forall_mem_append]
  refine Iff.trans ?_ (and_congr hwhere hhaving)
  simp only [items, List.forall_mem_cons, List.forall_mem_append, Item.faithful_code, true_and]
  exact ⟨fun h ↦ ⟨h.1, h.2.1⟩, fun h ↦ ⟨h.1, h.2, hbound _ _, hbound _ _⟩⟩

/-- **The placeholders of a query.** One placeholder for each parameter, in order and numbered for
PostgreSQL, and all data read as data, if and only if no string in the conditions is compared that
happens to be the builder's own text for a parameter. -/
theorem sound_iff (q : SelectQuery) :
    q.Sound ↔ ∀ s ∈ q.comparedStrings, s ≠ placeholderText := by
  have hspaced := q.spaced_items
  have hlex (db : DBType) (hdb : db ≠ .postgresql) :
      standard.lex (q.buildSql db) = q.items.flatMap Item.lexemes := by
    rw [q.buildSql_eq, if_neg hdb, Item.lex_standard hspaced]
  rw [← q.faithful_items_iff]
  constructor
  · intro h
    have hsqlite : DBType.sqlite ≠ .postgresql := by decide
    exact (Item.flatMap_written_iff q.items).mp
      ((hlex .sqlite hsqlite).symm.trans (h.asMeant .sqlite hsqlite))
  · intro hf
    have hmeant (db : DBType) (hdb : db ≠ .postgresql) :
        standard.lex (q.buildSql db) = q.items.flatMap fun i ↦ i.meant.lexemes := by
      rw [hlex db hdb, (Item.flatMap_written_iff q.items).mpr hf]
    refine ⟨hmeant, fun db hdb ↦ ?_, ?_⟩
    · rw [hmeant db hdb, Item.count_meant hspaced, q.countP_items]
    · rw [q.buildSql_eq, if_pos rfl, replacePostgresqlPlaceholders,
        Item.replaceAll_items 1 hspaced hf, Item.lex_standard (Item.spaced_number 1 hspaced),
        (Item.flatMap_written_iff _).mpr (Item.faithful_number 1 hf)]

/-- A query of a class `t` in which its member `a` is compared with the given string. -/
def comparing (s : Bytes) : SelectQuery where
  table := ⟨.lit (ascii "t"), [.lit (ascii "a")]⟩
  fields := []
  calls := [.where (.compare
    (.column ⟨some (.lit (ascii "t")), .lit (ascii "a")⟩) .eq
    (.string s))]

/-- The string has become a placeholder, though nothing was written with a parameter. -/
theorem not_sound_comparing :
    ¬(comparing (ascii "?  ")).Sound ∧ (comparing (ascii "?  ")).params = 0 ∧
      (standard.lex ((comparing (ascii "?  ")).buildSql .sqlite)).count (.code questionMark)
        = 1 := by
  refine ⟨fun h ↦ ?_, by decide, by decide⟩
  exact absurd (h.arity .sqlite (by decide)) (by decide)

end SelectQuery

end Ormpp
