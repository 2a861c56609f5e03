import Ormpp.Store.Condition

/-!
# The table as SQLite reads it

The text that creates the table of a class is read as the definition of that table: a column for
each member, of the type of the member, with the auto key as the number of the row, or the conflict
keys behind the columns as the primary key.
-/

namespace Ormpp

open Sql hiding isBlank

/-! ## Types -/

/-- The type of a field, optional or not. -/
def DiscreteField.discreteType : DiscreteField → DiscreteType
  | value t => t
  | optional t => t

namespace DiscreteType

/-- The name of the type of a column. -/
def sqlName : DiscreteType → Bytes
  | number _ => ascii "INTEGER"
  | string => ascii "TEXT"
  | charArray _ => ascii "varchar"
  | blob => ascii "BLOB"

/-- The length that stands behind the name. -/
def sqlLength : DiscreteType → Option ℕ
  | charArray N => some N
  | _ => none

def lengthText (length : Option ℕ) : Bytes :=
  (length.map fun N ↦ ascii "(" ++ natText N ++ ascii ")").getD []

def lengthTokens (length : Option ℕ) : List RawToken :=
  (length.map fun N ↦ [.symbol .openParen, .word (natText N), .symbol .closeParen]).getD []

def lengthParts (length : Option ℕ) : List Part :=
  (length.map fun N ↦ [.token (.symbol .openParen), .token (.integer N),
    .token (.symbol .closeParen)]).getD []

/-- What the tables of types have for a type. -/
theorem typeName_sqlite {f : DiscreteField} (h : f.fieldType.mapped = true) :
    typeName .sqlite f.fieldType
      = some (f.discreteType.sqlName ++ lengthText f.discreteType.sqlLength) := by
  obtain t | t := f
  · obtain ⟨t | t⟩ | _ | N | _ := t
    · rcases t with _ | _ | _ | _ | _ | _ | _ | _ | _ | _ | _ | _ <;> first | rfl | cases h
    · rfl
    · rfl
    · simp [DiscreteField.fieldType, DiscreteType.valueType, typeName, typeToName,
        sqliteTypeToName, DiscreteField.discreteType, sqlName, sqlLength, lengthText, varchar, ascii]
    · rfl
  · obtain ⟨t | t⟩ | _ | N | _ := t
    · rcases t with _ | _ | _ | _ | _ | _ | _ | _ | _ | _ | _ | _ <;> first | rfl | cases h
    · cases h
    · rfl
    · simp [DiscreteField.fieldType, DiscreteType.valueType, typeName, typeToName,
        sqliteTypeToName, DiscreteField.discreteType, sqlName, sqlLength, lengthText, varchar, ascii]
    · rfl

theorem readsAs_type (t : DiscreteType) {b : Byte} {text : Bytes} {ts : List RawToken}
    (h : ReadsAs (b :: text) ts) (hb : isWordByte b = false) :
    ReadsAs (t.sqlName ++ lengthText t.sqlLength ++ b :: text)
      (.word t.sqlName :: (lengthTokens t.sqlLength ++ ts)) := by
  obtain t | _ | N | _ := t
  · change ReadsAs (ascii "INTEGER" ++ b :: text) (.word (ascii "INTEGER") :: ts)
    exact h.word_append hb (by decide) (by decide)
  · exact h.word_append hb (by decide) (by decide)
  · have hclose : ReadsAs (ascii ")") [.symbol .closeParen] := ⟨by decide, rfl, by decide, by decide⟩
    have hopen : ReadsAs (ascii "varchar(") [.word (ascii "varchar"), .symbol .openParen] :=
      ⟨by decide, rfl, by decide, by decide⟩
    have hnumber := (hclose.append h).word_append (by decide) (natText_ne_nil N)
      fun b hb ↦ isWordByte_of_isDigit (isDigit_of_mem_natText hb)
    have hall := hopen.append hnumber
    have htext : sqlName (charArray N) ++ lengthText (sqlLength (charArray N)) ++ b :: text
        = ascii "varchar(" ++ (natText N ++ (ascii ")" ++ b :: text)) := by
      simp [sqlName, sqlLength, lengthText, ascii]
    rw [htext]
    exact hall
  · exact h.word_append hb (by decide) (by decide)

end DiscreteType

open DiscreteType

theorem StoredMember.typeName_field (m : StoredMember) :
    m.field.typeName .sqlite
      = m.type.discreteType.sqlName ++ lengthText m.type.discreteType.sqlLength :=
  Option.some_inj.mp ((Option.some_get _).trans (typeName_sqlite m.mapped))

/-! ## The statement -/

section

variable (T : StoredClass)

/-- The primary key behind the columns. -/
def primaryNames : List Bytes :=
  if T.autoKey.isSome then [] else StringSet.addAll [] (T.keyIndices.map T.column)

/-- The columns are declared as they are, whatever is an auto key behind them. -/
theorem declareColumns_nil (fields : List Field) :
    declareColumns .sqlite fields [] []
      = fields.map fun f ↦ ⟨f.name.text, f.typeName .sqlite, .none⟩ := by
  induction fields with
  | nil => rfl
  | cons f fields ih =>
    rw [declareColumns, if_neg List.not_mem_nil, if_neg List.not_mem_nil, ih, List.map_cons]

theorem declareColumns_singleton {key : Bytes} {fields : List Field}
    (h : (fields.map fun f ↦ f.name.text).Nodup) :
    declareColumns .sqlite fields [key] []
      = fields.map fun f ↦ ⟨f.name.text, f.typeName .sqlite,
          if f.name.text = key then .autoIncrement else .none⟩ := by
  induction fields with
  | nil => rfl
  | cons f fields ih =>
    rw [List.map_cons, List.nodup_cons] at h
    rw [declareColumns, List.map_cons]
    by_cases hkey : f.name.text = key
    · rw [if_pos (List.mem_singleton.mpr hkey), if_pos hkey, declareColumns_nil]
      congr 1
      refine List.map_congr_left fun f' hf' ↦ ?_
      rw [if_neg]
      rintro hkey'
      exact h.1 (List.mem_map.mpr ⟨f', hf', hkey'.trans hkey.symm⟩)
    · rw [if_neg (mt List.mem_singleton.mp hkey), if_neg List.not_mem_nil, if_neg hkey, ih h.2]

/-- The column of a member. -/
def tableColumn (i : T.Index) : TableColumn :=
  ⟨T.column i, (T.member i).field.typeName .sqlite, if T.isAuto i then .autoIncrement else .none⟩

theorem columns_createStatement :
    (createStatement .sqlite T.aliased.registry T.aliased.entity []).columns
      = T.indices.map (tableColumn T) := by
  have hfields : T.aliased.entity.fields = T.indices.map fun i ↦ (T.member i).field := by
    change (T.members.map fun m ↦ (m.name, m.field)).map Prod.snd = _
    rw [List.map_map, ← T.map_member, List.map_map]
    rfl
  have hnodup : (T.aliased.entity.fields.map fun f ↦ f.name.text).Nodup := T.aliased.entity.nodup
  have hsets : (constraintSets .sqlite T.aliased.registry T.aliased.entity []).autoPrimaryKey
      = (T.autoKey.map fun k ↦ k.text).toList := by
    change (ConstraintSets.registered (T.aliased.registry.getAutoKey T.structName) _).autoPrimaryKey
      = _
    rw [ConstraintSets.registered, T.getAutoKey_eq]
    rcases T.autoKey with _ | k
    · rfl
    · exact if_neg k.text_ne_nil
  change declareColumns .sqlite T.aliased.entity.fields _ [] = _
  rw [hsets]
  rcases hauto : T.autoKey with _ | k
  · rw [Option.map_none, Option.toList_none, declareColumns_nil, hfields, List.map_map]
    refine List.map_congr_left fun i _ ↦ ?_
    have hnot : T.isAuto i = false := by rw [DiscreteClass.isAuto, hauto]; rfl
    rw [tableColumn, hnot]
    rfl
  · rw [Option.map_some, Option.toList_some, declareColumns_singleton hnodup, hfields,
      List.map_map]
    refine List.map_congr_left fun i _ ↦ ?_
    have hiff : T.isAuto i = decide (T.column i = k.text) := by
      rw [DiscreteClass.isAuto, hauto]
      exact decide_eq_decide.mpr eq_comm
    rw [tableColumn, hiff]
    by_cases hcolumn : T.column i = k.text
    · rw [decide_eq_true hcolumn]
      exact congrArg (TableColumn.mk _ _) (if_pos hcolumn)
    · rw [decide_eq_false hcolumn]
      exact congrArg (TableColumn.mk _ _) (if_neg hcolumn)

theorem primaryKey_createStatement :
    (createStatement .sqlite T.aliased.registry T.aliased.entity []).primaryKey
      = primaryNames T := by
  have hkeys : (T.aliased.registry.getConflictKeys T.structName .sqlite).1
      = T.keyIndices.map T.column := by
    have hquote : quoteName .sqlite = id := by
      funext name
      exact if_neg nofun
    refine (T.aliased.getConflictKeys_registry .sqlite).trans ?_
    rw [hquote, List.map_id, T.cutNames_eq]
  rw [primaryKey_createStatement_nil]
  change primaryKeyNames .sqlite (T.aliased.registry.getAutoKey T.structName)
    (StringSet.addAll [] (T.aliased.registry.getConflictKeys T.structName .sqlite).1) = _
  rw [T.getAutoKey_eq, hkeys, primaryKeyNames, primaryNames]
  rcases T.autoKey with _ | k
  · rfl
  · exact if_pos k.text_ne_nil

theorem exists_of_mem_primaryNames {name : Bytes} (h : name ∈ primaryNames T) :
    ∃ i ∈ T.keyIndices, T.column i = name := by
  rw [primaryNames] at h
  split_ifs at h
  · cases h
  · exact List.mem_map.mp ((StringSet.mem_addAll.mp h).resolve_right List.not_mem_nil)

/-! ## The items of the definition -/

/-- What stands between the parentheses of the definition. -/
inductive TableItem (T : StoredClass)
  | column (i : T.Index)
  | primaryKey

/-- The items, with the primary key behind the columns if it is not one of them. -/
def tableItems : List (TableItem T) :=
  T.indices.map .column ++ if primaryNames T = [] then [] else [.primaryKey]

namespace TableItem

variable {T}

def text : TableItem T → Bytes
  | column i => (tableColumn T i).text .sqlite
  | primaryKey => ascii "PRIMARY KEY (" ++ joinNames (primaryNames T) ++ ascii ")"

def tokens : TableItem T → List RawToken
  | column i =>
    .word (T.column i) :: .word (T.member i).type.discreteType.sqlName ::
      (lengthTokens (T.member i).type.discreteType.sqlLength ++
        if T.isAuto i then
          [.word (ascii "PRIMARY"), .word (ascii "KEY"), .word (ascii "AUTOINCREMENT")]
        else [])
  | primaryKey =>
    [.word (ascii "PRIMARY"), .word (ascii "KEY"), .symbol .openParen]
      ++ ([RawToken.symbol .comma].intercalate
        ((primaryNames T).map fun name ↦ [RawToken.word name]) ++ [.symbol .closeParen])

def parts : TableItem T → List Part
  | column i =>
    .token (.name (T.column i)) :: .token (.name (T.member i).type.discreteType.sqlName) ::
      (lengthParts (T.member i).type.discreteType.sqlLength ++
        if T.isAuto i then
          [.reserved .primary, .token (.name (ascii "KEY")), .reserved .autoincrement]
        else [])
  | primaryKey =>
    [.reserved .primary, .token (.name (ascii "KEY")), .token (.symbol .openParen)]
      ++ ([Part.token (.symbol .comma)].intercalate
        ((primaryNames T).map fun name ↦ [Part.token (.name name)])
          ++ [.token (.symbol .closeParen)])

def element : TableItem T → TableElement
  | column i => .column ⟨T.column i, (T.member i).type.discreteType.sqlName, T.isAuto i, false⟩
  | primaryKey => .primaryKey (primaryNames T)

theorem readsAs (e : TableItem T) (he : e ∈ tableItems T) {b : Byte} {text : Bytes}
    {ts : List RawToken} (h : ReadsAs (b :: text) ts) (hb : isWordByte b = false) :
    ReadsAs (e.text ++ b :: text) (e.tokens ++ ts) := by
  have hblank : ReadsAs (ascii " ") [] := ⟨by decide, rfl, by decide, by decide⟩
  cases e with
  | column i =>
    have hauto : ReadsAs (ascii " PRIMARY KEY AUTOINCREMENT ")
        [.word (ascii "PRIMARY"), .word (ascii "KEY"), .word (ascii "AUTOINCREMENT")] :=
      ⟨by decide, rfl, by decide, by decide⟩
    have htype := (T.member i).typeName_field
    rw [TableItem.text, TableColumn.text, tableColumn, htype, tokens]
    by_cases hisAuto : T.isAuto i = true
    · have hname := readsAs_name (T.member i).column
        (hblank.append (readsAs_type (T.member i).type.discreteType (hauto.append h) rfl)) rfl
      rw [if_pos hisAuto, if_pos hisAuto]
      simp only [autoKeyText, List.append_assoc, List.cons_append, List.nil_append] at hname ⊢
      exact hname
    · have hname := readsAs_name (T.member i).column
        (hblank.append (readsAs_type (T.member i).type.discreteType h hb)) rfl
      rw [if_neg hisAuto, if_neg hisAuto]
      simp only [List.append_assoc, List.cons_append, List.nil_append] at hname ⊢
      exact hname
  | primaryKey =>
    have hne : primaryNames T ≠ [] := by
      intro hnil
      rw [tableItems, if_pos hnil, List.append_nil] at he
      obtain ⟨i, -, hi⟩ := List.mem_map.mp he
      cases hi
    have hopen : ReadsAs (ascii "PRIMARY KEY (")
        [.word (ascii "PRIMARY"), .word (ascii "KEY"), .symbol .openParen] :=
      ⟨by decide, rfl, by decide, by decide⟩
    have hcomma : ReadsAs (ascii ",") [.symbol .comma] := ⟨by decide, rfl, by decide, by decide⟩
    have hclose : ReadsAs (ascii ")") [.symbol .closeParen] :=
      ⟨by decide, rfl, by decide, by decide⟩
    have hnames : ReadsAs ((ascii ",").intercalate ((primaryNames T).map id) ++ ascii ")")
        ([RawToken.symbol .comma].intercalate
          ((primaryNames T).map fun name ↦ [RawToken.word name]) ++ [.symbol .closeParen]) := by
      refine readsAs_intercalate hne (fun name hname ↦ ?_) fun name hname ↦ ?_
      · obtain ⟨i, -, rfl⟩ := exists_of_mem_primaryNames T hname
        exact readsAs_name (T.member i).column hcomma rfl
      · obtain ⟨i, -, rfl⟩ := exists_of_mem_primaryNames T hname
        exact readsAs_name (T.member i).column hclose rfl
    have hall := hopen.append (hnames.append h)
    rw [List.map_id] at hall
    rw [TableItem.text, tokens, joinNames, dropLast_flatMap_comma]
    simp only [List.append_assoc] at hall ⊢
    exact hall

theorem part_sqlName (t : DiscreteType) :
    (RawToken.word t.sqlName).part = .token (.name t.sqlName) := by
  obtain t | _ | N | _ := t
  · change (RawToken.word (ascii "INTEGER")).part = .token (.name (ascii "INTEGER"))
    decide
  · decide
  · change (RawToken.word (ascii "varchar")).part = .token (.name (ascii "varchar"))
    decide
  · decide

theorem map_part_lengthTokens (length : Option ℕ) :
    (lengthTokens length).map RawToken.part = lengthParts length := by
  cases length with
  | none => rfl
  | some N =>
    have hnumber : (RawToken.word (natText N)).part = .token (.integer N) := by
      rw [RawToken.part, wordToken_natText, if_neg (by rintro ⟨⟩)]
    change [_, (RawToken.word (natText N)).part, _] = _
    rw [hnumber]
    rfl

theorem map_part_tokens (e : TableItem T) : e.tokens.map RawToken.part = e.parts := by
  have hprimary : (RawToken.word (ascii "PRIMARY")).part = .reserved .primary := by decide
  have hkey : (RawToken.word (ascii "KEY")).part = .token (.name (ascii "KEY")) := by decide
  have hauto : (RawToken.word (ascii "AUTOINCREMENT")).part = .reserved .autoincrement := by decide
  cases e with
  | column i =>
    rw [tokens, parts, List.map_cons, List.map_cons, List.map_append, map_part_lengthTokens,
      part_sqlName, part_of_readsAsName (T.readsAsName_column i)]
    split_ifs
    · simp only [List.map_cons, List.map_nil, hprimary, hkey, hauto]
    · rfl
  | primaryKey =>
    have hnames : ((primaryNames T).map fun name ↦ [RawToken.word name]).map
          (fun item ↦ item.map RawToken.part)
        = (primaryNames T).map fun name ↦ [Part.token (.name name)] := by
      rw [List.map_map]
      refine List.map_congr_left fun name hname ↦ ?_
      obtain ⟨i, -, rfl⟩ := exists_of_mem_primaryNames T hname
      exact congrArg (fun p ↦ [p]) (part_of_readsAsName (T.readsAsName_column i))
    rw [tokens, parts, List.map_append, List.map_append, map_intercalate, hnames]
    simp only [List.map_cons, List.map_nil, hprimary, hkey]
    rfl

theorem placeholder_notMem_tokens (e : TableItem T) : placeholder ∉ e.tokens := by
  cases e with
  | column i =>
    rw [tokens]
    rcases (T.member i).type.discreteType.sqlLength with _ | N
    · split_ifs <;> simp [lengthTokens, placeholder]
    · split_ifs <;> simp [lengthTokens, placeholder]
  | primaryKey =>
    have hnames : placeholder ∉ [RawToken.symbol .comma].intercalate
        ((primaryNames T).map fun name ↦ [RawToken.word name]) := by
      apply notMem_intercalate (by decide)
      intro item hitem
      obtain ⟨name, -, rfl⟩ := List.mem_map.mp hitem
      simp [placeholder]
    rw [tokens]
    simp only [List.mem_append, not_or]
    exact ⟨by decide, hnames, by decide⟩

/-- A symbol that can stand behind an item. -/
def Follows (s : Symbol) : Prop := s = .comma ∨ s = .closeParen

theorem tableElement_column (i : T.Index) {s : Symbol} (hs : Follows s) (rest : List Part) :
    Statement.tableElement ((TableItem.column i).parts ++ .token (.symbol s) :: rest)
      = some ((TableItem.column i).element, .token (.symbol s) :: rest) := by
  have hoption : Statement.columnOption ((if T.isAuto i then
        [.reserved .primary, .token (.name (ascii "KEY")), .reserved .autoincrement] else [])
        ++ .token (.symbol s) :: rest)
      = some ((T.isAuto i, false), .token (.symbol s) :: rest) := by
    cases T.isAuto i with
    | true =>
      have hkey : isSoft "KEY" (ascii "KEY") = true := by decide
      simp only [if_true, List.cons_append, List.nil_append, Statement.columnOption, hkey]
    | false => obtain rfl | rfl := hs <;> rfl
  have hlength : Statement.typeLength (lengthParts (T.member i).type.discreteType.sqlLength
        ++ ((if T.isAuto i then
          [.reserved .primary, .token (.name (ascii "KEY")), .reserved .autoincrement] else [])
        ++ .token (.symbol s) :: rest))
      = (if T.isAuto i then
          [.reserved .primary, .token (.name (ascii "KEY")), .reserved .autoincrement] else [])
        ++ .token (.symbol s) :: rest := by
    rcases (T.member i).type.discreteType.sqlLength with _ | N
    · cases T.isAuto i with
      | true => rfl
      | false => obtain rfl | rfl := hs <;> rfl
    · rfl
  rw [parts, List.cons_append, List.cons_append, List.append_assoc, Statement.tableElement,
    hlength, hoption]
  rfl

theorem tableElement_primaryKey (hne : primaryNames T ≠ []) (s : Symbol) (rest : List Part) :
    Statement.tableElement ((TableItem.primaryKey : TableItem T).parts ++ .token (.symbol s) :: rest)
      = some (.primaryKey (primaryNames T), .token (.symbol s) :: rest) := by
  have hkey : isSoft "KEY" (ascii "KEY") = true := by decide
  have hclose : (Part.token (.symbol .closeParen) :: .token (.symbol s) :: rest).head?
      ≠ some (.token (.symbol .comma)) := by simp
  have hlist (n : ℕ) (hn : (primaryNames T).length ≤ n) :
      commaList (Part.token (.symbol .comma)) Statement.partName n
          ([Part.token (.symbol .comma)].intercalate
            ((primaryNames T).map fun name ↦ [Part.token (.name name)])
            ++ .token (.symbol .closeParen) :: .token (.symbol s) :: rest)
        = some ((primaryNames T).map id,
          .token (.symbol .closeParen) :: .token (.symbol s) :: rest) :=
    commaList_intercalate hclose hne (fun _ _ _ ↦ rfl) (fun _ _ ↦ rfl) hn
  have hlength : (primaryNames T).length
      ≤ ([Part.token (.symbol .comma)].intercalate
            ((primaryNames T).map fun name ↦ [Part.token (.name name)])
          ++ .token (.symbol .closeParen) :: .token (.symbol s) :: rest).length := by
    have hitems := length_le_intercalate [Part.token (.symbol .comma)]
      ((primaryNames T).map fun name ↦ [Part.token (.name name)]) (by simp)
    rw [List.length_map] at hitems
    rw [List.length_append]
    omega
  have hnames : Statement.parenthesizedNames (.token (.symbol .openParen) ::
        ([Part.token (.symbol .comma)].intercalate
            ((primaryNames T).map fun name ↦ [Part.token (.name name)])
          ++ .token (.symbol .closeParen) :: .token (.symbol s) :: rest))
      = some (primaryNames T, .token (.symbol s) :: rest) := by
    rw [Statement.parenthesizedNames, hlist _ hlength, List.map_id]
    rfl
  rw [parts]
  simp only [List.append_assoc, List.cons_append, List.nil_append, Statement.tableElement, hkey,
    if_true, hnames]
  rfl

theorem tableElement_parts {e : TableItem T} (he : e ∈ tableItems T) {s : Symbol}
    (hs : Follows s) (rest : List Part) :
    Statement.tableElement (e.parts ++ .token (.symbol s) :: rest)
      = some (e.element, .token (.symbol s) :: rest) := by
  cases e with
  | column i => exact tableElement_column i hs rest
  | primaryKey =>
    refine tableElement_primaryKey (fun hnil ↦ ?_) s rest
    rw [tableItems, if_pos hnil, List.append_nil] at he
    obtain ⟨i, -, hi⟩ := List.mem_map.mp he
    cases hi

end TableItem

/-! ## The text of the definition -/

theorem tableItems_ne_nil : tableItems T ≠ [] :=
  List.append_ne_nil_of_left_ne_nil (List.map_eq_nil_iff.not.mpr (indices_ne_nil T)) _

/-- The elements of the definition of a table. -/
def tableElements : List TableElement := (tableItems T).map TableItem.element

theorem generateCreatetbSql_sqlite :
    (generateCreatetbSql .sqlite T.aliased.registry T.aliased.entity []).1
      = ascii "CREATE TABLE IF NOT EXISTS " ++ (T.table ++ ascii "(")
        ++ ((ascii ",").intercalate ((tableItems T).map TableItem.text) ++ ascii ")") := by
  have htable : (createStatement .sqlite T.aliased.registry T.aliased.entity []).table = T.table :=
    getShortStructName_eq T.structName
  have hunique : (createStatement .sqlite T.aliased.registry T.aliased.entity []).unique = [] := rfl
  have hitems : (createStatement .sqlite T.aliased.registry T.aliased.entity []).elements .sqlite
      = (tableItems T).map TableItem.text := by
    rw [CreateStatement.elements, columns_createStatement, primaryKey_createStatement, hunique,
      tableItems, List.map_append, List.map_map, List.map_map, List.map_nil, List.append_nil,
      primaryKeyClause]
    split_ifs <;> rfl
  rw [generateCreatetbSql_fst, CreateStatement.text, hitems, htable]
  simp only [List.append_assoc]

def createFront : List RawToken :=
  [.word (ascii "CREATE"), .word (ascii "TABLE"), .word (ascii "IF"), .word (ascii "NOT"),
    .word (ascii "EXISTS"), .word T.table, .symbol .openParen]

theorem readsAs_create :
    ReadsAs (generateCreatetbSql .sqlite T.aliased.registry T.aliased.entity []).1
      (createFront T ++ ([RawToken.symbol .comma].intercalate ((tableItems T).map TableItem.tokens)
        ++ [.symbol .closeParen])) := by
  have hcreate : ReadsAs (ascii "CREATE TABLE IF NOT EXISTS ")
      [.word (ascii "CREATE"), .word (ascii "TABLE"), .word (ascii "IF"), .word (ascii "NOT"),
        .word (ascii "EXISTS")] := ⟨by decide, rfl, by decide, by decide⟩
  have hopen : ReadsAs (ascii "(") [.symbol .openParen] := ⟨by decide, rfl, by decide, by decide⟩
  have hcomma : ReadsAs (ascii ",") [.symbol .comma] := ⟨by decide, rfl, by decide, by decide⟩
  have hclose : ReadsAs (ascii ")") [.symbol .closeParen] :=
    ⟨by decide, rfl, by decide, by decide⟩
  have htable : ReadsAs (T.table ++ ascii "(") [.word T.table, .symbol .openParen] :=
    readsAs_name T.structName.name hopen rfl
  have hitems : ReadsAs ((ascii ",").intercalate ((tableItems T).map TableItem.text) ++ ascii ")")
      ([RawToken.symbol .comma].intercalate ((tableItems T).map TableItem.tokens)
        ++ [.symbol .closeParen]) :=
    readsAs_intercalate (tableItems_ne_nil T) (fun e he ↦ e.readsAs he hcomma rfl)
      fun e he ↦ e.readsAs he hclose rfl
  rw [generateCreatetbSql_sqlite]
  exact (hcreate.append htable).append hitems

/-- **The table as SQLite reads it.** Its columns are the members of the class, each with its type,
and its primary key is the auto key or consists of the conflict keys. -/
theorem readStatement_generateCreatetbSql :
    readStatement (generateCreatetbSql .sqlite T.aliased.registry T.aliased.entity []).1
      = some (.create T.table (tableElements T)) := by
  have hfront : (createFront T).map RawToken.part
      = [.reserved .create, .reserved .table, .token (.name (ascii "IF")), .token (.keyword .not),
        .reserved .exists, .token (.name T.table), .token (.symbol .openParen)] := by
    have hwords : [RawToken.word (ascii "CREATE"), .word (ascii "TABLE"), .word (ascii "IF"),
          .word (ascii "NOT"), .word (ascii "EXISTS")].map RawToken.part
        = [.reserved .create, .reserved .table, .token (.name (ascii "IF")), .token (.keyword .not),
          .reserved .exists] := by decide
    have htable := part_of_readsAsName T.readsTable
    rw [createFront]
    simp only [List.map_cons, List.map_nil, List.cons.injEq, and_true] at hwords ⊢
    exact ⟨hwords.1, hwords.2.1, hwords.2.2.1, hwords.2.2.2.1, hwords.2.2.2.2, htable, rfl⟩
  have hitems : ([RawToken.symbol .comma].intercalate ((tableItems T).map TableItem.tokens)).map
        RawToken.part
      = [Part.token (.symbol .comma)].intercalate ((tableItems T).map TableItem.parts) := by
    rw [map_intercalate, List.map_map]
    congr 1
    exact List.map_congr_left fun e _ ↦ e.map_part_tokens
  have hnone : placeholder ∉ [RawToken.symbol .comma].intercalate
      ((tableItems T).map TableItem.tokens) := by
    apply notMem_intercalate (by decide)
    intro item hitem
    obtain ⟨e, -, rfl⟩ := List.mem_map.mp hitem
    exact e.placeholder_notMem_tokens
  have hlength : (tableItems T).length
      ≤ ([Part.token (.symbol .comma)].intercalate ((tableItems T).map TableItem.parts)
        ++ [Part.token (.symbol .closeParen)]).length := by
    have hcount := length_le_intercalate [Part.token (.symbol .comma)]
      ((tableItems T).map TableItem.parts) fun item hitem ↦ by
        obtain ⟨_ | _, -, rfl⟩ := List.mem_map.mp hitem <;> exact List.cons_ne_nil _ _
    rw [List.length_map] at hcount
    rw [List.length_append]
    omega
  have hlist : commaList (Part.token (.symbol .comma)) Statement.tableElement _
        ([Part.token (.symbol .comma)].intercalate ((tableItems T).map TableItem.parts)
          ++ [.token (.symbol .closeParen)])
      = some (tableElements T, [Part.token (.symbol .closeParen)]) :=
    commaList_intercalate (by decide) (tableItems_ne_nil T)
      (fun e he rest ↦ TableItem.tableElement_parts he (.inl rfl) rest)
      (fun e he ↦ TableItem.tableElement_parts he (.inr rfl) []) hlength
  have hif : isSoft "IF" (ascii "IF") = true := by decide
  rw [readStatement, (readsAs_create T).statementTokens_eq,
    parts_append_of_notMem (by simp [createFront, placeholder]), hfront,
    parts_append_of_notMem hnone, hitems, parts_of_notMem (by decide)]
  have hclose : [RawToken.symbol .closeParen].map RawToken.part
      = [Part.token (.symbol .closeParen)] := rfl
  rw [hclose]
  simp only [List.cons_append, List.nil_append, readParts, Statement.readCreate, hif, if_true,
    hlist]

end

end Ormpp
