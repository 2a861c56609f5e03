import Ormpp.Data.Search
import Ormpp.Statement.Select
import Ormpp.Update.Statement

/-!
# The query behind a condition

`generate_query_sql` selects the fields of a class and puts what it is given behind `where`. A text
that orders or limits the rows is no condition, so the clause is taken away again: for a text that
begins with `order by` or `limit`, whatever the word goes on with, the statement is cut off at its
first `where`, be it that of a name.
-/

namespace Ormpp

open Numeral (isBlank)
open Sql hiding isBlank
open Search

/-- A reflected class with the names of its table and its columns, which may be given to it and are
then whatever texts. -/
structure NamedClass where
  tableName : Bytes
  columns : List Bytes
  columns_ne_nil : columns ≠ []

/-! ## The text that is generated -/

/-- `get_fields`. -/
def getFields (T : NamedClass) (db : DBType) : Bytes :=
  let fields := T.columns.flatMap fun name ↦ quoteName db name ++ ascii ","
  if fields = [] then [] else fields.dropLast ++ ascii " "

/-- If the text begins with the keyword, the statement up to its first `where`. -/
def dropWhere (keyword temp sql : Bytes) : Bytes :=
  if find keyword temp = some 0 then upTo (ascii "where") sql else sql

/-- `get_sql_conditions`. -/
def getSqlConditions (sql : Bytes) : List Bytes → Bytes
  | [] => sql
  | arg :: args =>
    let temp := arg.map lowerByte
    if containsSelect arg then arg
    else
      let sql := dropWhere (ascii "order by") temp sql
      let sql := dropWhere (ascii "limit") temp sql
      appendArgs sql (arg :: args)

/-- `generate_query_sql`. -/
def generateQuerySql (T : NamedClass) (db : DBType) (args : List Bytes) : Bytes :=
  let sql := appendArgs (ascii "select ") [getFields T db, ascii "from", T.tableName]
  let sql := if args.any (· ≠ []) then appendArgs sql [ascii "where 1=1 and "] else sql
  getSqlConditions sql args

/-- The statement that `query_s` prepares. -/
def querySText (T : NamedClass) (db : DBType) (str : Bytes) : Bytes :=
  if containsSelect str then str else generateQuerySql T db [str]

/-! ## What it stands for -/

def firstWord (text : Bytes) : Bytes := (text.dropWhile isBlank).takeWhile isWordByte

def behindFirstWord (text : Bytes) : Bytes := (text.dropWhile isBlank).dropWhile isWordByte

/-- The first word is `LIMIT`. -/
def BeginsLimit (c : Bytes) : Prop := (firstWord c).map lowerByte = ascii "limit"

/-- The first two words are `ORDER BY`. -/
def BeginsOrderBy (c : Bytes) : Prop :=
  (firstWord c).map lowerByte = ascii "order" ∧
    (firstWord (behindFirstWord c)).map lowerByte = ascii "by"

/-- The text orders or limits the rows. -/
def IsTail (c : Bytes) : Prop := BeginsLimit c ∨ BeginsOrderBy c

instance (c : Bytes) : Decidable (IsTail c) :=
  inferInstanceAs (Decidable (_ = _ ∨ _ = _ ∧ _ = _))

/-- The fields of the class, and the table that they are selected from. -/
def selectFront (T : NamedClass) (db : DBType) : Bytes :=
  ascii "select " ++ (ascii ",").intercalate (T.columns.map (quoteName db)) ++
    ascii "  from " ++ T.tableName

/-- All fields of the class are selected, with something behind the name of the table. -/
def selectText (T : NamedClass) (db : DBType) (behind : Bytes) : Bytes :=
  selectFront T db ++ ascii " " ++ behind ++ ascii " "

/-- The statement that a text stands for. -/
def queryStatement (T : NamedClass) (db : DBType) (c : Bytes) : Bytes :=
  if IsSelect c then c
  else if IsTail c ∨ c = [] then selectText T db c
  else selectText T db (ascii "where 1=1 and  " ++ c)

/-! ## The routing -/

/-- The text begins with the bytes of one of the two clauses. -/
def ReadsTail (c : Bytes) : Prop :=
  ascii "limit" <+: c.map lowerByte ∨ ascii "order by" <+: c.map lowerByte

instance (c : Bytes) : Decidable (ReadsTail c) := inferInstanceAs (Decidable (_ ∨ _))

/-- Where the text says what it is in its first bytes, and no name has a `where` in it that the
statement could be cut off at. -/
def Routed (T : NamedClass) (c : Bytes) : Prop :=
  ¬IsTruncated c ∧ (IsSelect c ∨ (ReadsTail c ↔ IsTail c) ∧
    (IsTail c → ∀ name ∈ T.tableName :: T.columns, ¬ascii "where" <:+: name))

section

variable (T : NamedClass) (db : DBType)

theorem getFields_eq :
    getFields T db
      = (ascii ",").intercalate (T.columns.map (quoteName db)) ++ ascii " " := by
  have hne : (T.columns.flatMap fun name ↦ quoteName db name ++ ascii ",") ≠ [] := by
    obtain ⟨name, columns, hcolumns⟩ := List.exists_cons_of_ne_nil T.columns_ne_nil
    simp [hcolumns, ascii]
  rw [getFields, if_neg hne, ← dropLast_flatMap_comma, List.flatMap_map]

/-- The statement before a condition is put behind it. -/
theorem appendArgs_front :
    appendArgs (ascii "select ") [getFields T db, ascii "from", T.tableName]
      = selectFront T db ++ ascii " " := by
  rw [getFields_eq]
  simp [appendArgs, selectFront, ascii]

theorem generateQuerySql_select {c : Bytes} (h : containsSelect c = true) :
    generateQuerySql T db [c] = c := if_pos h

theorem where_ne_nil : ascii "where" ≠ [] := by decide

theorem ReadsTail.ne_nil {c : Bytes} (h : ReadsTail c) : c ≠ [] := by
  rintro rfl
  exact absurd h (by decide)

/-- The statement that a condition is put behind. -/
theorem appendArgs_where :
    appendArgs (selectFront T db ++ ascii " ") [ascii "where 1=1 and "]
      = selectFront T db ++ blank :: (ascii "where" ++ ascii " 1=1 and  ") := by
  simp [appendArgs, ascii, blank]

theorem dropWhere_eq (keyword temp sql : Bytes) :
    dropWhere keyword temp sql = if keyword <+: temp then upTo (ascii "where") sql else sql := by
  simp only [dropWhere, find_eq_some_zero_iff]

/-- The two tests of the text cut the statement off once. -/
theorem dropWhere_dropWhere (temp sql : Bytes) :
    dropWhere (ascii "limit") temp (dropWhere (ascii "order by") temp sql)
      = if ascii "limit" <+: temp ∨ ascii "order by" <+: temp then upTo (ascii "where") sql
        else sql := by
  rw [dropWhere_eq, dropWhere_eq]
  by_cases hlimit : ascii "limit" <+: temp
  · have horder : ¬ascii "order by" <+: temp := fun h ↦
      absurd (List.prefix_of_prefix_length_le hlimit h (by decide)) (by decide)
    rw [if_pos hlimit, if_neg horder, if_pos (Or.inl hlimit)]
  · simp only [hlimit, if_false, false_or]

theorem getSqlConditions_eq {c : Bytes} (h : containsSelect c = false) (sql : Bytes) :
    getSqlConditions sql [c]
      = (if ReadsTail c then upTo (ascii "where") sql else sql) ++ c ++ ascii " " := by
  have hbranch : getSqlConditions sql [c]
      = appendArgs (dropWhere (ascii "limit") (c.map lowerByte)
          (dropWhere (ascii "order by") (c.map lowerByte) sql)) [c] := if_neg (by simp [h])
  rw [hbranch, dropWhere_dropWhere, appendArgs]
  simp only [List.flatMap_cons, List.flatMap_nil, List.append_nil, List.append_assoc]
  rfl

/-- The statement is cut off at its first `where`. -/
theorem generateQuerySql_tail {c : Bytes} (h : containsSelect c = false) (htail : ReadsTail c) :
    generateQuerySql T db [c]
      = (if ascii "where" <:+: selectFront T db then upTo (ascii "where") (selectFront T db)
          else selectFront T db ++ [blank]) ++ c ++ ascii " " := by
  have hne : ([c].any fun c ↦ c ≠ []) = true := by simpa using htail.ne_nil
  rw [generateQuerySql, appendArgs_front, if_pos hne, appendArgs_where,
    getSqlConditions_eq h, if_pos htail, upTo_append_cons where_ne_nil (by decide)]

/-- The clause stays in the statement. -/
theorem generateQuerySql_condition {c : Bytes} (h : containsSelect c = false)
    (htail : ¬ReadsTail c) :
    generateQuerySql T db [c]
      = if c = [] then selectText T db []
        else selectText T db (ascii "where 1=1 and  " ++ c) := by
  rw [generateQuerySql, appendArgs_front, getSqlConditions_eq h, if_neg htail]
  split_ifs with hany hc hc
  · exact absurd hany (by simp [hc])
  · rw [appendArgs_where, selectText]
    simp [ascii, blank]
  · rw [selectText, hc]
  · exact absurd hany (by simp [hc])

/-! ## Where the statement is cut off -/

theorem infix_quoteName_iff (name : Bytes) :
    ascii "where" <:+: quoteName db name ↔ ascii "where" <:+: name := by
  have hbacktick : (0x60 : Byte) ∉ ascii "where" := by decide
  rw [quoteName]
  split_ifs
  · have hquoted : ascii "`" ++ name ++ ascii "`" = [] ++ 0x60 :: (name ++ 0x60 :: []) := by
      simp [ascii]
    rw [hquoted, infix_append_cons_iff hbacktick, infix_append_cons_iff hbacktick]
    simp [ascii]
  · rfl

/-- The first `where` is that of a name, if a name has one. -/
theorem infix_selectFront_iff :
    ascii "where" <:+: selectFront T db ↔
      ∃ name ∈ T.tableName :: T.columns, ascii "where" <:+: name := by
  have hblank : blank ∉ ascii "where" := by decide
  have hfields : ascii "where" <:+:
        (ascii ",").intercalate (T.columns.map (quoteName db)) ↔
      ∃ name ∈ T.columns, ascii "where" <:+: name := by
    have hcomma := infix_intercalate_iff where_ne_nil (by decide : 0x2c ∉ ascii "where")
      (T.columns.map (quoteName db))
    refine hcomma.trans ?_
    simp only [List.mem_map, exists_exists_and_eq_and, infix_quoteName_iff]
  have htext : selectFront T db = ascii "select" ++ blank ::
      ((ascii ",").intercalate (T.columns.map (quoteName db)) ++ blank ::
        ([] ++ blank :: (ascii "from" ++ blank :: T.tableName))) := by
    simp [selectFront, ascii, blank]
  have hselect : ¬ascii "where" <:+: ascii "select" := by decide
  have hfrom : ¬ascii "where" <:+: ascii "from" := by decide
  have hnil : ¬ascii "where" <:+: ([] : Bytes) := by decide
  rw [htext, infix_append_cons_iff hblank, infix_append_cons_iff hblank,
    infix_append_cons_iff hblank, infix_append_cons_iff hblank, hfields, List.exists_mem_cons_iff]
  simp only [hselect, hfrom, hnil, false_or]
  exact or_comm

theorem selectText_inj {x y : Bytes} : selectText T db x = selectText T db y ↔ x = y := by
  rw [selectText, selectText, List.append_cancel_right_eq, List.append_cancel_left_eq]

theorem length_lt_selectText (x c : Bytes) : c.length < (selectText T db (x ++ c)).length := by
  simp only [selectText, List.length_append]
  have hblank : (ascii " ").length = 1 := rfl
  omega

/-- What the text is put behind is the whole front where no name has a `where` in it. -/
theorem generateQuerySql_tail_eq_iff {c : Bytes} (h : containsSelect c = false)
    (htail : ReadsTail c) (behind : Bytes) :
    generateQuerySql T db [c] = selectText T db (behind ++ c) ↔
      behind = [] ∧ ∀ name ∈ T.tableName :: T.columns, ¬ascii "where" <:+: name := by
  have hno : (∀ name ∈ T.tableName :: T.columns, ¬ascii "where" <:+: name) ↔
      ¬ascii "where" <:+: selectFront T db := by
    rw [infix_selectFront_iff]
    push Not
    rfl
  rw [hno, generateQuerySql_tail T db h htail]
  split_ifs with hwhere
  · refine iff_of_false (fun heq ↦ ?_) fun h ↦ h.2 hwhere
    have hlength := congrArg List.length heq
    have hshort := length_upTo_lt where_ne_nil hwhere
    simp only [selectText, List.length_append] at hlength
    omega
  · have htext : selectFront T db ++ [blank] ++ c ++ ascii " " = selectText T db c := by
      rw [selectText]
      rfl
    rw [htext, selectText_inj, and_iff_left hwhere, List.self_eq_append_left]

/-- A class with a field that has a `where` in its name. -/
def visit : NamedClass where
  tableName := ascii "visit"
  columns := [ascii "id", ascii "whereabouts"]
  columns_ne_nil := List.cons_ne_nil _ _

theorem querySText_eq (s : Bytes) : querySText T db s = generateQuerySql T db [s] := by
  rw [querySText]
  split_ifs with h
  · exact (generateQuerySql_select T db h).symm
  · rfl

/-- A text that is not taken for a statement is not left as it is. -/
theorem querySText_eq_self_iff (s : Bytes) : querySText T db s = s ↔ containsSelect s = true := by
  rw [querySText_eq]
  refine ⟨fun heq ↦ ?_, generateQuerySql_select T db⟩
  by_contra h
  rw [Bool.not_eq_true] at h
  have hlength := congrArg List.length heq
  by_cases htail : ReadsTail s
  · rw [generateQuerySql_tail T db h htail] at hlength
    have hblank : (ascii " ").length = 1 := rfl
    simp only [List.length_append] at hlength
    omega
  · rw [generateQuerySql_condition T db h htail] at hlength
    split_ifs at hlength with hs
    · rw [hs] at hlength
      exact absurd hlength (length_lt_selectText T db [] []).ne'
    · exact absurd hlength (length_lt_selectText T db _ s).ne'

/-- Statements are told from conditions where the text does not end inside the keyword. -/
theorem containsSelect_isSelect_iff (s : Bytes) :
    ((containsSelect s = true ↔ IsSelect s) ∧ (querySText T db s = s ↔ IsSelect s)) ↔
      ¬IsTruncated s := by
  rw [querySText_eq_self_iff, and_self, containsSelect_iff]
  refine ⟨fun h htruncated ↦ ?_, fun h ↦ or_iff_left h⟩
  exact htruncated.not_isSelect (h.mp (Or.inr htruncated))

/-- A column that is called `s` is a condition, and is executed as it is. -/
theorem querySText_truncated :
    ¬(containsSelect (ascii "s") = true ↔ IsSelect (ascii "s")) ∧
      querySText visit .sqlite (ascii "s") = ascii "s" := by
  decide

end

end Ormpp
