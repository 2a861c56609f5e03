import Mathlib.Data.List.DropRight
import Ormpp.Sql.Parameter
import Ormpp.Update.Key

/-!
# The statement of an update

`generate_update_sql` sets every field and compares the keys in the order in which they were
registered. The text is the same list of columns twice over, each with its placeholder: fields with
commas and keys with `and` between them.
-/

namespace Ormpp

open Sql

/-- `append`. -/
def appendArgs (sql : Bytes) (args : List Bytes) : Bytes :=
  sql ++ args.flatMap fun arg ↦ arg ++ ascii " "

/-- What stands behind a column. PostgreSQL numbers its placeholders. -/
def columnPlaceholder (db : DBType) (index : ℕ) : Bytes :=
  if db = .postgresql then ascii "=$" ++ natText index else ascii "=?"

/-- The loop over the fields, without the last comma. -/
def updateFields (T : ReflectedType) (db : DBType) : Bytes :=
  ((T.members.zipIdx 1).flatMap fun p ↦
    quoteName db p.1.text ++ columnPlaceholder db p.2 ++ ascii ",").dropLast

/-- The loop over the keys, where `index` placeholders are behind it. -/
def updateConflict (db : DBType) (pks : List Bytes) (index : ℕ) : Bytes :=
  (pks.zipIdx (index + 1)).foldl
    (fun conflict p ↦ appendArgs conflict [ascii " and", p.1 ++ columnPlaceholder db p.2])
    (ascii "where 1=1")

/-- `generate_update_sql` without a condition. -/
def generateUpdateSql (T : ReflectedType) (db : DBType) : Bytes :=
  let pks := getConflictKeys T db
  if pks = [] then []
  else
    let sql := appendArgs [] [ascii "update", T.name.text, ascii "set"]
    (appendArgs sql [updateFields T db, updateConflict db pks T.members.length]).rdropWhile
      fun b ↦ b = blank

/-! ## Two lists of columns -/

/-- A column with its placeholder. -/
def columnText (db : DBType) (p : Bytes × ℕ) : Bytes := quoteName db p.1 ++ columnPlaceholder db p.2

/-- The columns of a statement in order, the fields and then the keys. -/
def ReflectedType.fieldNames (T : ReflectedType) : List Bytes := T.members.map Name.text

theorem columnText_mysql (p : Bytes × ℕ) :
    columnText .mysql p = ascii "`" ++ p.1 ++ ascii "`=" ++ [questionMark] := by
  simp [columnText, quoteName, columnPlaceholder, ascii, questionMark]

theorem dropLast_flatMap_comma (xs : List Bytes) :
    (xs.flatMap fun x ↦ x ++ ascii ",").dropLast = (ascii ",").intercalate xs := by
  induction xs with
  | nil => rfl
  | cons x xs ih =>
    cases xs with
    | nil =>
      rw [List.flatMap_cons, List.flatMap_nil, List.append_nil, List.intercalate_singleton]
      exact List.dropLast_concat
    | cons y xs =>
      have hne : (y :: xs).flatMap (fun x ↦ x ++ ascii ",") ≠ [] := by
        rw [List.flatMap_cons, List.append_assoc]
        exact List.append_ne_nil_of_right_ne_nil _ (List.cons_ne_nil _ _)
      rw [List.flatMap_cons, List.dropLast_append_of_ne_nil hne, ih, List.intercalate_cons_cons]

theorem updateFields_eq (T : ReflectedType) (db : DBType) :
    updateFields T db = (ascii ",").intercalate ((T.fieldNames.zipIdx 1).map (columnText db)) := by
  rw [← dropLast_flatMap_comma, ReflectedType.fieldNames, List.zipIdx_map, List.map_map,
    List.flatMap_map]
  rfl

theorem updateConflict_eq (db : DBType) (pks : List (Bytes × ℕ)) (conflict : Bytes) :
    pks.foldl (fun conflict p ↦ appendArgs conflict [ascii " and", p.1 ++ columnPlaceholder db p.2])
        conflict
      = conflict ++ (pks.map fun p ↦ p.1 ++ columnPlaceholder db p.2).flatMap
          fun x ↦ ascii " and " ++ x ++ ascii " " := by
  induction pks generalizing conflict with
  | nil => exact (List.append_nil _).symm
  | cons p pks ih =>
    rw [List.foldl_cons, ih, List.map_cons, List.flatMap_cons, appendArgs]
    simp [ascii]

/-- The text ends in something else than a blank. -/
def EndsInCode (text : Bytes) : Prop := ∃ front b, text = front ++ [b] ∧ b ≠ blank

/-- The blanks at the end go, and those between the items stay. -/
theorem rdropWhile_items (pre : Bytes) {items : List Bytes} (hne : items ≠ [])
    (h : ∀ x ∈ items, EndsInCode x) :
    (pre ++ (items.flatMap fun x ↦ ascii " and " ++ x ++ ascii " ") ++ ascii " ").rdropWhile
        (fun b ↦ b = blank)
      = pre ++ ascii " and " ++ (ascii "  and ").intercalate items := by
  induction items generalizing pre with
  | nil => exact absurd rfl hne
  | cons x items ih =>
    obtain ⟨hx, hitems⟩ := List.forall_mem_cons.mp h
    cases items with
    -- Behind the last item are the blank of its loop and the blank of `append`.
    | nil =>
      obtain ⟨front, b, rfl, hb⟩ := hx
      have htext : pre ++ ([front ++ [b]].flatMap fun x ↦ ascii " and " ++ x ++ ascii " ")
            ++ ascii " "
          = pre ++ ascii " and " ++ front ++ [b] ++ [blank] ++ [blank] := by
        simp [ascii, blank]
      rw [htext, List.rdropWhile_concat_pos _ _ _ (by simp),
        List.rdropWhile_concat_pos _ _ _ (by simp),
        List.rdropWhile_concat_neg _ _ _ (by simpa using hb), List.intercalate_singleton,
        List.append_assoc _ front]
    | cons y items =>
      have hrest := ih (pre ++ ascii " and " ++ x ++ ascii " ") (List.cons_ne_nil _ _) hitems
      have htext : pre ++ ((x :: y :: items).flatMap fun x ↦ ascii " and " ++ x ++ ascii " ")
          = pre ++ ascii " and " ++ x ++ ascii " "
            ++ (y :: items).flatMap fun x ↦ ascii " and " ++ x ++ ascii " " := by
        simp only [List.flatMap_cons, List.append_assoc]
      have hsep : ascii "  and " = ascii " " ++ ascii " and " := rfl
      rw [htext, hrest, List.intercalate_cons_cons, hsep]
      simp only [List.append_assoc]

theorem endsInCode_columnText (db : DBType) (p : Bytes × ℕ) : EndsInCode (columnText db p) := by
  rw [columnText, columnPlaceholder]
  split_ifs
  · obtain ⟨front, b, hback⟩ :=
      List.eq_nil_or_concat' (natText p.2) |>.resolve_left (natText_ne_nil _)
    have hdigit : isDigit b = true := isDigit_of_mem_natText (n := p.2) (by simp [hback])
    refine ⟨quoteName db p.1 ++ (ascii "=$" ++ front), b, ?_, ?_⟩
    · rw [hback]
      simp only [List.append_assoc]
    · rintro rfl
      exact absurd hdigit (by decide)
  · exact ⟨quoteName db p.1 ++ ascii "=", questionMark, by simp [ascii, questionMark], by decide⟩

theorem getConflictKeys_eq_nil_iff (T : ReflectedType) (db : DBType) :
    getConflictKeys T db = [] ↔ T.keyNames = [] := by
  rw [getConflictKeys_eq, List.map_eq_nil_iff, ← List.length_eq_zero_iff, length_cutNames,
    List.length_eq_zero_iff]

/-- The text with the given assignments, written with its list of keys. -/
theorem updateText_eq (T : ReflectedType) (db : DBType) (fields : Bytes) (index : ℕ)
    (h : T.keyNames ≠ []) :
    (appendArgs (appendArgs [] [ascii "update", T.name.text, ascii "set"])
        [fields, updateConflict db (getConflictKeys T db) index]).rdropWhile (fun b ↦ b = blank)
      = ascii "update " ++ T.name.text ++ ascii " set " ++ fields ++ ascii " where 1=1 and "
        ++ (ascii "  and ").intercalate ((T.cutNames.zipIdx (index + 1)).map (columnText db)) := by
  let items := (T.cutNames.zipIdx (index + 1)).map (columnText db)
  have hitems : items ≠ [] := by
    have hlength : items.length = T.keyNames.length := by
      rw [List.length_map, List.length_zipIdx, length_cutNames]
    rwa [ne_eq, ← List.length_eq_zero_iff, hlength, List.length_eq_zero_iff]
  have hends : ∀ x ∈ items, EndsInCode x := by
    intro x hx
    obtain ⟨p, -, rfl⟩ := List.mem_map.mp hx
    exact endsInCode_columnText db p
  have hconflict : updateConflict db (getConflictKeys T db) index
      = ascii "where 1=1" ++ items.flatMap fun x ↦ ascii " and " ++ x ++ ascii " " := by
    rw [updateConflict, updateConflict_eq, getConflictKeys_eq, List.zipIdx_map, List.map_map]
    rfl
  -- Up to here the blanks at the end of the text are still in it.
  let pre := ascii "update " ++ T.name.text ++ ascii " set " ++ fields ++ ascii " where 1=1"
  have htext : appendArgs (appendArgs [] [ascii "update", T.name.text, ascii "set"])
        [fields, updateConflict db (getConflictKeys T db) index]
      = pre ++ (items.flatMap fun x ↦ ascii " and " ++ x ++ ascii " ") ++ ascii " " := by
    rw [hconflict]
    simp [appendArgs, pre, ascii]
  rw [htext, rdropWhile_items pre hitems hends]
  simp [pre, items, ascii]

/-- The statement, written as its two lists of columns. -/
theorem generateUpdateSql_eq (T : ReflectedType) (db : DBType) (h : T.keyNames ≠ []) :
    generateUpdateSql T db
      = ascii "update " ++ T.name.text ++ ascii " set "
        ++ (ascii ",").intercalate ((T.fieldNames.zipIdx 1).map (columnText db))
        ++ ascii " where 1=1 and "
        ++ (ascii "  and ").intercalate
            ((T.cutNames.zipIdx (T.members.length + 1)).map (columnText db)) := by
  have hkeys : getConflictKeys T db ≠ [] := mt (getConflictKeys_eq_nil_iff T db).mp h
  rw [generateUpdateSql, if_neg hkeys, updateText_eq T db _ _ h, updateFields_eq]

/-! ## The columns as the server reads them -/

/-- A word, or the end of one and a blank. -/
def IsToken (text : Bytes) : Prop :=
  ∃ word blankBehind, (∀ b ∈ word, isWordByte b = true) ∧ (blankBehind = false → word ≠ []) ∧
    text = word ++ optionalBlank blankBehind

theorem Name.isToken (n : Name) : IsToken n.text :=
  ⟨n.text, false, fun b hb ↦ isWordByte_of_isNameByte (n.plain b hb), fun _ ↦ n.text_ne_nil,
    (List.append_nil _).symm⟩

theorem isToken_cutKey (k : Key) (blankBehind : Bool) : IsToken (cutKey k blankBehind) := by
  have hword (b : Byte) (hb : b ∈ k.text) : isWordByte b = true :=
    isWordByte_of_isKeyByte (k.isKey b hb)
  cases blankBehind with
  | false => exact ⟨k.text, false, hword, fun _ ↦ k.text_ne_nil, (List.append_nil _).symm⟩
  | true =>
    refine ⟨k.text.drop 1, true, fun b hb ↦ hword b (List.mem_of_mem_drop hb), ?_, rfl⟩
    rintro ⟨⟩

theorem IsToken.ne_backtick {text : Bytes} (h : IsToken text) : ∀ b ∈ text, b ≠ backtick := by
  obtain ⟨word, blankBehind, hword, -, rfl⟩ := h
  intro b hb
  obtain hb | hb := List.mem_append.mp hb
  · rintro rfl
    exact absurd (hword backtick hb) (by decide)
  · cases blankBehind with
    | false => cases hb
    | true =>
      rw [List.mem_singleton.mp hb]
      decide

/-- The number of a placeholder, where it has one. -/
def placeholderNumber (db : DBType) (index : ℕ) : Option ℕ :=
  if db = .postgresql then some index else none

/-- The server reads a column where the text is a word or stands in backticks. -/
def readsColumn (db : DBType) (text : Bytes) : Bool := db = .mysql || text.all isWordByte

def columnParameters (db : DBType) (p : Bytes × ℕ) : List Parameter :=
  if readsColumn db p.1 then [(p.1, placeholderNumber db p.2)] else []

section

variable {d : Dialect}

open Parameter

/-- Up to the closing quote, a name in backticks is read as it is. -/
theorem run_backtick {text : Bytes} (h : ∀ b ∈ text, b ≠ backtick) (value : Bytes) :
    d.lexer.run (.quoted backtick value) text = (.quoted backtick (value ++ text), []) := by
  induction text generalizing value with
  | nil => rw [List.append_nil]; rfl
  | cons b text ih =>
    obtain ⟨hb, htext⟩ := List.forall_mem_cons.mp h
    have hstep : d.lexer.step (.quoted backtick value) b
        = (.quoted backtick (value ++ [b]), []) := by
      change d.step (.quoted backtick value) b = _
      rw [Dialect.step, if_neg hb, if_neg fun h ↦ h.2.2 rfl]
    rw [Transducer.run, hstep, ih htext, List.append_assoc]
    rfl

theorem run_closing_backtick (text : Bytes) :
    d.lexer.run (.quoted backtick text) [backtick, equalsSign]
      = (.code, [.quotedName text, .code equalsSign]) := by
  have hclose : d.lexer.step (.quoted backtick text) backtick = (.closing backtick text, []) := by
    change d.step (.quoted backtick text) backtick = _
    rw [Dialect.step, if_pos rfl]
  have hname : d.quotedText backtick text = .quotedName text := by
    have hquote : backtick ≠ quote := by decide
    have hdouble : backtick ≠ doubleQuote := by decide
    rw [Dialect.quotedText, if_neg]
    rintro (h | ⟨h, -⟩)
    · exact hquote h
    · exact hdouble h
  have hnext : d.lexer.step (.closing backtick text) equalsSign
      = (.code, [.quotedName text, .code equalsSign]) := by
    have hne : equalsSign ≠ backtick := by decide
    change d.step (.closing backtick text) equalsSign = _
    rw [Dialect.step, if_neg hne, Dialect.enterAfter, Dialect.enter_of_isCodeByte (by decide),
      hname]
    rfl
  rw [Transducer.run, hclose, Transducer.run, hnext]
  rfl

/-- A name in backticks and what follows it. -/
theorem reads_backticks {text : Bytes} (h : ∀ b ∈ text, b ≠ backtick) :
    Reads d .idle (ascii "`" ++ text ++ ascii "`=") (.equals text) [] := by
  have hopen : d.lexer.run .code (ascii "`") = (.quoted backtick [], []) := rfl
  have hclose : d.lexer.run (.quoted backtick text) (ascii "`=")
      = (.code, [.quotedName text, .code equalsSign]) := run_closing_backtick text
  refine ⟨[.quotedName text, .code equalsSign], ?_, rfl⟩
  rw [List.append_assoc, d.lexer.run_append_of_run hopen,
    d.lexer.run_append_of_run (run_backtick h []), List.nil_append, hclose]
  rfl

/-- A word and what follows it. -/
theorem reads_word {word : Bytes} (hne : word ≠ []) (h : ∀ b ∈ word, isWordByte b = true) :
    Reads d .idle (word ++ [equalsSign]) (.equals word) [] :=
  (reads_idle_word hne h).append (reads_code (Dialect.codeText_of_isCodeByte (by decide)) rfl)

/-- A column that ends in a blank is none to the server, and its placeholder belongs to nothing. -/
theorem yields_cut {word : Bytes} (h : ∀ b ∈ word, isWordByte b = true) (db : DBType) (index : ℕ) :
    Yields d (word ++ [blank] ++ columnPlaceholder db index) [] := by
  have hfront : Reads d .idle (word ++ [blank]) .idle [] := by
    by_cases hne : word = []
    · subst hne
      exact separator_blank .idle
    · exact (reads_idle_word hne h).append (separator_blank (.word word))
  apply Yields.prepend hfront
  rw [columnPlaceholder]
  split_ifs
  · -- The number goes on with the dollar sign as a word does.
    have hnumber : ∀ b ∈ dollar :: natText index, isWordByte b = true :=
      List.forall_mem_cons.mpr ⟨by decide, fun b hb ↦
        isWordByte_of_isDigit (isDigit_of_mem_natText hb)⟩
    have hequals : Reads d .idle [equalsSign] .idle [] :=
      reads_code (Dialect.codeText_of_isCodeByte (by decide)) rfl
    exact ⟨_, _, hequals.append (reads_idle_word (List.cons_ne_nil _ _) hnumber), rfl⟩
  · exact ⟨.idle, [], reads_code (Dialect.codeText_of_isCodeByte (by decide)) rfl, rfl⟩

/-- A column and its placeholder, as the server reads them. -/
theorem yields_columnText (db : DBType) {p : Bytes × ℕ} (h : IsToken p.1) :
    Yields d (columnText db p) (columnParameters db p) := by
  obtain ⟨text, index⟩ := p
  have hbacktick := h.ne_backtick
  obtain ⟨word, blankBehind, hword, hne, rfl⟩ := h
  -- In backticks a blank is part of the name; without them it ends the name.
  by_cases hdb : db = .mysql
  · subst hdb
    have hparameters : columnParameters .mysql (word ++ optionalBlank blankBehind, index)
        = [(word ++ optionalBlank blankBehind, none)] := rfl
    rw [hparameters, columnText_mysql]
    exact yields_questionMark (reads_backticks hbacktick)
  · have htext : columnText db (word ++ optionalBlank blankBehind, index)
        = word ++ optionalBlank blankBehind ++ columnPlaceholder db index := by
      rw [columnText, quoteName, if_neg hdb]
    rw [htext]
    cases blankBehind with
    | false =>
      have hall : readsColumn db word = true := by
        rw [readsColumn, List.all_eq_true.mpr hword, Bool.or_true]
      have hread := reads_word (d := d) (hne rfl) hword
      rw [optionalBlank, if_neg (by decide), List.append_nil, columnParameters, hall, if_pos rfl,
        columnPlaceholder, placeholderNumber]
      split_ifs
      · have hsplit : word ++ (ascii "=$" ++ natText index)
            = word ++ [equalsSign] ++ dollar :: natText index := by
          simp [ascii, equalsSign, dollar]
        rw [hsplit]
        exact yields_number hread index
      · have hsplit : word ++ ascii "=?" = word ++ [equalsSign] ++ [questionMark] := by
          simp [ascii, equalsSign, questionMark]
        rw [hsplit]
        exact yields_questionMark hread
    | true =>
      have hnone : readsColumn db (word ++ [blank]) = false := by
        rw [readsColumn, List.all_append, Bool.or_eq_false_iff]
        exact ⟨decide_eq_false hdb, Bool.and_false _⟩
      have hparameters : columnParameters db (word ++ optionalBlank true, index) = [] := by
        rw [columnParameters]
        exact if_neg (by rw [optionalBlank, if_pos rfl, hnone]; decide)
      rw [hparameters]
      exact yields_cut hword db index

/-- A list of columns. -/
theorem yields_columns {sep : Bytes} (hsep : Separator d sep) (db : DBType)
    {columns : List (Bytes × ℕ)} (hne : columns ≠ []) (h : ∀ p ∈ columns, IsToken p.1) :
    Yields d (sep.intercalate (columns.map (columnText db)))
      (columns.flatMap (columnParameters db)) := by
  let items := columns.map fun p ↦ (columnText db p, columnParameters db p)
  have htexts : items.map Prod.fst = columns.map (columnText db) := by
    rw [List.map_map]
    rfl
  have hparameters : items.flatMap Prod.snd = columns.flatMap (columnParameters db) := by
    rw [List.flatMap_map]
  rw [← htexts, ← hparameters]
  apply yields_intercalate hsep (List.map_eq_nil_iff.not.mpr hne)
  intro item hitem
  obtain ⟨p, hp, rfl⟩ := List.mem_map.mp hitem
  exact yields_columnText db (h p hp)

theorem reads_code_idle (text : Bytes) (h : ∀ b ∈ text, isCodeByte b = true)
    (hrun : parameterReader.run .idle (text.map .code) = (.idle, [])) :
    Reads d .idle text .idle [] :=
  reads_code (Dialect.codeText_of_isCodeByte h) hrun

theorem separator_comma : Separator d (ascii ",") :=
  separator_byte (by decide) (by decide) (by decide) (by decide)

theorem separator_and : Separator d (ascii "  and ") :=
  separator_blank.append (reads_code_idle (ascii " and ") (by decide) rfl)

theorem separator_where : Separator d (ascii " where 1=1 and ") :=
  separator_blank.append (reads_code_idle (ascii "where 1=1 and ") (by decide) rfl)

/-- What is in front of the columns has no parameter. -/
theorem reads_update (n : Name) :
    Reads d .idle (ascii "update " ++ n.text ++ ascii " set ") .idle [] := by
  have hname : Reads d .idle n.text (.word n.text) [] :=
    reads_idle_word n.text_ne_nil fun b hb ↦ isWordByte_of_isNameByte (n.plain b hb)
  have hset : Separator d (ascii " set ") :=
    separator_blank.append (reads_code_idle (ascii "set ") (by decide) rfl)
  exact ((reads_code_idle (ascii "update ") (by decide) rfl).append hname).append
    (hset (.word n.text))

end

theorem isToken_of_mem_zipIdx {texts : List Bytes} (h : ∀ text ∈ texts, IsToken text) {k : ℕ}
    {p : Bytes × ℕ} (hp : p ∈ texts.zipIdx k) : IsToken p.1 :=
  h p.1 (List.fst_mem_of_mem_zipIdx hp)

theorem ReflectedType.isToken_fieldNames (T : ReflectedType) :
    ∀ text ∈ T.fieldNames, IsToken text := by
  intro text htext
  obtain ⟨n, -, rfl⟩ := List.mem_map.mp htext
  exact n.isToken

theorem ReflectedType.isToken_cutNames (T : ReflectedType) : ∀ text ∈ T.cutNames, IsToken text := by
  intro text htext
  obtain ⟨k, blankBehind, rfl⟩ := mem_cutNames htext
  exact isToken_cutKey k blankBehind

/-- **The columns of the statement.** Every dialect reads the fields in their order, and then the
keys in theirs, each with a parameter of its own. -/
theorem parameters_generateUpdateSql (d : Dialect) (T : ReflectedType) (db : DBType)
    (h : T.keyNames ≠ []) :
    parameters d (generateUpdateSql T db)
      = (T.fieldNames.zipIdx 1).flatMap (columnParameters db)
        ++ (T.cutNames.zipIdx (T.members.length + 1)).flatMap (columnParameters db) := by
  have hfields : T.fieldNames.zipIdx 1 ≠ [] := by
    rw [ne_eq, List.zipIdx_eq_nil_iff, ReflectedType.fieldNames, List.map_eq_nil_iff]
    exact T.members_ne_nil
  have hkeys : T.cutNames.zipIdx (T.members.length + 1) ≠ [] := by
    rwa [ne_eq, List.zipIdx_eq_nil_iff, ← List.length_eq_zero_iff, length_cutNames,
      List.length_eq_zero_iff]
  rw [generateUpdateSql_eq T db h]
  have hread := (Parameter.Yields.prepend (reads_update (d := d) T.name)
    (yields_columns separator_comma db hfields
      fun p hp ↦ isToken_of_mem_zipIdx T.isToken_fieldNames hp)).append separator_where
    (yields_columns separator_and db hkeys fun p hp ↦ isToken_of_mem_zipIdx T.isToken_cutNames hp)
  exact hread.parameters

end Ormpp
