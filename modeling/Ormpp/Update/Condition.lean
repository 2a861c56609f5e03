import Ormpp.Update.Binding

/-!
# Updates with a condition

With a condition instead of keys, `generate_update_sql` writes the condition into the statement, and
the asynchronous client then takes the same argument once more, as a value behind those of the
fields. It has a placeholder only where the condition itself has one, and there the condition is put
into itself as a string, so that no condition is ever executed as it was given.
-/

namespace Ormpp

open Sql

/-- A condition as it is passed to `update`. -/
inductive ConditionArg
  | string (c : Bytes)
  /-- A literal. -/
  | chars (buffer : Bytes)

namespace ConditionArg

def text : ConditionArg → Bytes
  | string c => c
  | chars buffer => untilNul buffer

/-- What `append` takes: it passes over an empty string. -/
def appended : ConditionArg → List Bytes
  | string c => if c = [] then [] else [c]
  | chars buffer => [untilNul buffer]

def toArg : ConditionArg → QueryArg
  | string c => .string c
  | chars buffer => .chars buffer

end ConditionArg

/-- `generate_update_sql` with a condition. -/
def generateUpdateSqlWhere (T : ReflectedType) (db : DBType) (c : ConditionArg) : Bytes :=
  let sql := appendArgs [] [ascii "update", T.name.text, ascii "set"]
  let conflict := appendArgs (ascii "where 1=1") (ascii " and" :: c.appended)
  (appendArgs sql [updateFields T db, conflict]).rdropWhile fun b ↦ b = blank

/-- `format_struct_sql` for an update with a condition. -/
def formatStructSqlWhere (T : ReflectedType) (sql : Bytes) (t : Record) (c : ConditionArg)
    (noBackslashEscapes : Bool) : Except String Bytes :=
  formatValues sql noBackslashEscapes
    ((T.fieldNames.map t ++ [c.toArg]).map (toQueryArg noBackslashEscapes))

def noKeyOrCondition : String := "update requires a conflict key or where condition"

/-- `update` of the asynchronous client, up to the statement that it executes. -/
def asyncUpdateWhere (T : ReflectedType) (t : Record) (c : ConditionArg)
    (noBackslashEscapes : Bool) : Except String Bytes :=
  let sql := generateUpdateSqlWhere T .mysql c
  if sql = [] then .error noKeyOrCondition
  else formatStructSqlWhere T sql t c noBackslashEscapes

/-! ## What is asked for -/

/-- A column with the value that it is set to. -/
def assignment (noBackslashEscapes : Bool) (t : Record) (name : Bytes) : Bytes :=
  quoteName .mysql name ++ ascii "=" ++ toQueryArg noBackslashEscapes (t name)

/-- Every field is set, in the order of the fields. -/
def setText (noBackslashEscapes : Bool) (T : ReflectedType) (t : Record) : Bytes :=
  ascii "update " ++ T.name.text ++ ascii " set "
    ++ (ascii ",").intercalate (T.fieldNames.map (assignment noBackslashEscapes t))

/-- The update of the rows that meet the condition. -/
def updateWhereText (noBackslashEscapes : Bool) (T : ReflectedType) (t : Record)
    (c : ConditionArg) : Bytes :=
  setText noBackslashEscapes T t ++ ascii " where 1=1 and " ++ c.text

def withoutBlanks (text : Bytes) : Bytes := text.filter fun b ↦ b ≠ blank

/-- The client executes the update that is asked for. Blanks do not count. -/
def ExecutesWhere (T : ReflectedType) (t : Record) (c : ConditionArg)
    (noBackslashEscapes : Bool) : Prop :=
  ∃ text, asyncUpdateWhere T t c noBackslashEscapes = .ok text ∧
    withoutBlanks text = withoutBlanks (updateWhereText noBackslashEscapes T t c)

/-! ## The fields -/

/-- The statement up to its condition. -/
def setSql (T : ReflectedType) : Bytes :=
  ascii "update " ++ T.name.text ++ ascii " set "
    ++ (ascii ",").intercalate (T.fieldNames.map fun name ↦ quoteName .mysql name ++ ascii "=?")

theorem isCode_name (n : Name) : ∀ b ∈ n.text, isCodeByte b = true ∧ b ≠ questionMark := by
  intro b hb
  have hword : isWordByte b = true := isWordByte_of_isNameByte (n.plain b hb)
  refine ⟨isCodeByte_of_isWordByte hword, ?_⟩
  rintro rfl
  exact absurd hword (by decide)

theorem places_quoteName (noBackslashEscapes : Bool) {name : Bytes} (h : ∀ b ∈ name, b ≠ backtick) :
    (mysqlScanner noBackslashEscapes).Places (quoteName .mysql name ++ ascii "=") 0 := by
  have hname : quoteName .mysql name ++ ascii "=" = backtick :: name ++ [backtick, equalsSign] := by
    simp [quoteName, ascii, backtick, equalsSign]
  rw [hname]
  exact Scanner.places_backticks rfl h (by decide) (by decide)

theorem fills_assignment (noBackslashEscapes : Bool) {name : Bytes} (h : ∀ b ∈ name, b ≠ backtick)
    (value : Bytes) :
    (mysqlScanner noBackslashEscapes).Fills (quoteName .mysql name ++ ascii "=?") [value]
      (quoteName .mysql name ++ ascii "=" ++ value) := by
  have hsplit : ascii "=?" = ascii "=" ++ [questionMark] := rfl
  rw [hsplit, ← List.append_assoc]
  exact (places_quoteName noBackslashEscapes h).fills.append (Scanner.fills_questionMark value)

/-- The values of the fields go into the places that were made for them. -/
theorem fills_setSql (noBackslashEscapes : Bool) (T : ReflectedType) (t : Record) :
    (mysqlScanner noBackslashEscapes).Fills (setSql T)
      ((T.fieldNames.map t).map (toQueryArg noBackslashEscapes))
      (setText noBackslashEscapes T t) := by
  have hcode (text : Bytes) (h : ∀ b ∈ text, isCodeByte b = true ∧ b ≠ questionMark) :
      (mysqlScanner noBackslashEscapes).Places text 0 := Scanner.places_code h
  have hfront := ((hcode (ascii "update ") (by decide)).fills.append
    (hcode T.name.text (isCode_name T.name)).fills).append (hcode (ascii " set ") (by decide)).fills
  have hfields : T.fieldNames ≠ [] := List.map_eq_nil_iff.not.mpr T.members_ne_nil
  rw [List.map_map]
  apply hfront.append
  apply Scanner.fills_intercalate (hcode (ascii ",") (by decide)) hfields
  intro name hname
  obtain ⟨n, -, rfl⟩ := List.mem_map.mp hname
  exact fills_assignment noBackslashEscapes (ne_backtick_of_mem_name n) _

/-! ## The condition -/

theorem withoutBlanks_append (xs ys : Bytes) :
    withoutBlanks (xs ++ ys) = withoutBlanks xs ++ withoutBlanks ys := List.filter_append ..

/-- The blanks at the end do not count. -/
theorem withoutBlanks_rdropWhile (text : Bytes) :
    withoutBlanks (text.rdropWhile fun b ↦ b = blank) = withoutBlanks text := by
  induction text using List.reverseRecOn with
  | nil => rfl
  | append_singleton text b ih =>
    by_cases hb : b = blank
    · subst hb
      rw [List.rdropWhile_concat_pos _ _ _ (by simp), ih, withoutBlanks_append]
      exact (List.append_nil _).symm
    · rw [List.rdropWhile_concat_neg _ _ _ (by simpa using hb)]

theorem rdropWhile_append {xs ys : Bytes} (h : withoutBlanks ys ≠ []) :
    (xs ++ ys).rdropWhile (fun b ↦ b = blank) = xs ++ ys.rdropWhile fun b ↦ b = blank := by
  have hne : (ys.reverse.dropWhile fun b ↦ b = blank) ≠ [] := by
    rw [ne_eq, List.dropWhile_eq_nil_iff]
    intro hall
    refine h (List.filter_eq_nil_iff.mpr fun b hb ↦ ?_)
    simpa using hall b (List.mem_reverse.mpr hb)
  rw [List.rdropWhile, List.rdropWhile, List.reverse_append, List.dropWhile_append,
    if_neg (by simpa using hne), List.reverse_append, List.reverse_reverse]

theorem ConditionArg.withoutBlanks_appended (c : ConditionArg) :
    withoutBlanks (c.appended.flatMap fun arg ↦ arg ++ ascii " ") = withoutBlanks c.text := by
  have hblank : withoutBlanks (ascii " ") = [] := rfl
  obtain c | buffer := c
  · rw [appended, text]
    split_ifs with hc
    · rw [hc]
      rfl
    · rw [List.flatMap_singleton, withoutBlanks_append, hblank, List.append_nil]
  · rw [appended, text, List.flatMap_singleton, withoutBlanks_append, hblank, List.append_nil]

/-- What stands behind the fields is the condition, up to blanks. -/
theorem generateUpdateSqlWhere_eq (T : ReflectedType) (c : ConditionArg) :
    ∃ behind, generateUpdateSqlWhere T .mysql c = setSql T ++ behind ∧
      withoutBlanks behind = withoutBlanks (ascii " where 1=1 and " ++ c.text) := by
  let tail := ascii " where 1=1 and " ++ (c.appended.flatMap fun arg ↦ arg ++ ascii " ")
    ++ ascii " "
  have hfields : updateFields T .mysql
      = (ascii ",").intercalate
          (T.fieldNames.map fun name ↦ quoteName .mysql name ++ ascii "=?") := by
    have hcolumn :
        columnText .mysql = (fun name ↦ quoteName .mysql name ++ ascii "=?") ∘ Prod.fst := rfl
    rw [updateFields_eq, hcolumn, ← List.map_map, List.zipIdx_map_fst]
  have htext : appendArgs (appendArgs [] [ascii "update", T.name.text, ascii "set"])
        [updateFields T .mysql, appendArgs (ascii "where 1=1") (ascii " and" :: c.appended)]
      = setSql T ++ tail := by
    rw [hfields]
    simp [appendArgs, setSql, tail, ascii]
  have htail : withoutBlanks tail = withoutBlanks (ascii " where 1=1 and " ++ c.text) := by
    rw [withoutBlanks_append, withoutBlanks_append, c.withoutBlanks_appended,
      withoutBlanks_append (ascii " where 1=1 and ")]
    exact List.append_nil _
  refine ⟨tail.rdropWhile fun b ↦ b = blank, ?_, by rw [withoutBlanks_rdropWhile, htail]⟩
  rw [generateUpdateSqlWhere, htext]
  apply rdropWhile_append
  rw [htail, withoutBlanks_append]
  exact List.append_ne_nil_of_left_ne_nil (by decide) _

theorem ConditionArg.toQueryArg_toArg (c : ConditionArg) (noBackslashEscapes : Bool) :
    toQueryArg noBackslashEscapes c.toArg = escapeMysqlString c.text noBackslashEscapes := by
  obtain c | buffer := c <;> rfl

/-- The quotes of a string are not blanks. -/
theorem two_le_length_withoutBlanks_escape (s : Bytes) (noBackslashEscapes : Bool) :
    2 ≤ (withoutBlanks (escapeMysqlString s noBackslashEscapes)).length := by
  have hquote : (withoutBlanks (ascii "'")).length = 1 := rfl
  rw [escapeMysqlString, withoutBlanks_append, withoutBlanks_append, List.length_append,
    List.length_append, hquote]
  omega

/-- **No update with a condition.** The asynchronous client never executes the update that it was
asked for: it refuses the condition, or puts it into itself. -/
theorem not_executesWhere (T : ReflectedType) (t : Record) (c : ConditionArg)
    (noBackslashEscapes : Bool) : ¬ ExecutesWhere T t c noBackslashEscapes := by
  rintro ⟨text, hok, htext⟩
  obtain ⟨behind, hsql, hbehind⟩ := generateUpdateSqlWhere_eq T c
  rw [asyncUpdateWhere] at hok
  split_ifs at hok
  -- The fields take their own places, and only the condition is left for what is behind them.
  rw [formatStructSqlWhere, hsql, List.map_append,
    formatValues_append_of_fills (fills_setSql noBackslashEscapes T t), List.map_singleton,
    c.toQueryArg_toArg] at hok
  obtain ⟨text', hbehind', rfl⟩ : ∃ text', formatValues behind noBackslashEscapes
      [escapeMysqlString c.text noBackslashEscapes] = .ok text' ∧
        setText noBackslashEscapes T t ++ text' = text := by
    rcases hformat : formatValues behind noBackslashEscapes
      [escapeMysqlString c.text noBackslashEscapes] with e | text'
    · rw [hformat] at hok
      cases hok
    · rw [hformat] at hok
      exact ⟨text', rfl, Except.ok.inj hok⟩
  obtain ⟨before, after, rfl, rfl⟩ := formatValues_singleton hbehind'
  have hasked : withoutBlanks (updateWhereText noBackslashEscapes T t c)
      = withoutBlanks (setText noBackslashEscapes T t)
        ++ withoutBlanks (before ++ questionMark :: after) := by
    rw [hbehind, ← withoutBlanks_append, updateWhereText, List.append_assoc]
  rw [hasked, withoutBlanks_append, List.append_cancel_left_eq] at htext
  -- Where the condition has its placeholder, it now stands in quotes.
  have hlength := congrArg List.length htext
  have hescape := two_le_length_withoutBlanks_escape c.text noBackslashEscapes
  have hmark : withoutBlanks (questionMark :: after) = questionMark :: withoutBlanks after := rfl
  rw [withoutBlanks_append, withoutBlanks_append, withoutBlanks_append, hmark, List.length_append,
    List.length_append, List.length_append, List.length_cons] at hlength
  omega

/-- With `id=1` there is one value too many, and `id=?` is put into itself. -/
theorem updateWhere_idIsOne :
    asyncUpdateWhere keysOutOfOrder (fun _ ↦ .integer 7) (.string (ascii "id=1")) false
        = .error countMismatch ∧
      asyncUpdateWhere keysOutOfOrder (fun _ ↦ .integer 7) (.string (ascii "id=?")) false
        = .ok (ascii "update t set `a`=7,`b`=7 where 1=1 and id='id=?'") ∧
      ¬ ∀ (T : ReflectedType) (t : Record) (c : ConditionArg) (noBackslashEscapes : Bool),
        ExecutesWhere T t c noBackslashEscapes := by
  have hmismatch : asyncUpdateWhere keysOutOfOrder (fun _ ↦ .integer 7) (.string (ascii "id=1"))
      false = .error countMismatch := by
    rw [asyncUpdateWhere, formatStructSqlWhere, formatValues_eq, placeholders_eq]
    rfl
  refine ⟨hmismatch, ?_, fun h ↦ ?_⟩
  · rw [asyncUpdateWhere, formatStructSqlWhere, formatValues_eq, placeholders_eq]
    rfl
  · obtain ⟨text, hok, -⟩ := h keysOutOfOrder (fun _ ↦ .integer 7) (.string (ascii "id=1")) false
    rw [hmismatch] at hok
    cases hok

end Ormpp
