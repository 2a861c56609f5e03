import Ormpp.Bind.Delimiter
import Ormpp.Update.Condition

/-!
# Updates of some of the fields

With a list of members, `generate_update_sql` sets these and no others. The other backends bind the
members of the list; the asynchronous client walks over all the fields, as if there were no list. It
executes what was asked for only where the values that it has walked over look like those of the
list.
-/

namespace Ormpp

open Sql

/-- The members in the angle brackets of `update`. -/
structure MemberList (T : ReflectedType) where
  members : List Name
  ne_nil : members ≠ []
  subset : members ⊆ T.members

namespace MemberList

variable {T : ReflectedType}

def names (l : MemberList T) : List Bytes := l.members.map Name.text

end MemberList

/-- The members with their placeholders, without the last comma. Their names stand without
quotes. -/
def memberFields {T : ReflectedType} (l : MemberList T) (db : DBType) : Bytes :=
  ((l.names.zipIdx 1).flatMap fun p ↦ p.1 ++ columnPlaceholder db p.2 ++ ascii ",").dropLast

/-- `generate_update_sql` with a list of members. -/
def generatePartialUpdateSql {T : ReflectedType} (l : MemberList T) (db : DBType) : Bytes :=
  let pks := getConflictKeys T db
  if pks = [] then []
  else
    let sql := appendArgs [] [ascii "update", T.name.text, ascii "set"]
    (appendArgs sql [memberFields l db, updateConflict db pks l.members.length]).rdropWhile
      fun b ↦ b = blank

/-- `update` of the asynchronous client with a list of members, up to the statement that it
executes. -/
def asyncPartialUpdate {T : ReflectedType} (l : MemberList T) (t : Record)
    (noBackslashEscapes : Bool) : Except String Bytes :=
  let sql := generatePartialUpdateSql l .mysql
  if sql = [] then .error noKeyOrCondition
  else formatStructSql T sql t noBackslashEscapes

/-! ## What is asked for -/

/-- Each member of the list is set to its value, and the keys select the row. -/
def partialUpdateText (noBackslashEscapes : Bool) {T : ReflectedType} (l : MemberList T)
    (t : Record) : Bytes :=
  ascii "update " ++ T.name.text ++ ascii " set "
    ++ (ascii ",").intercalate
        (l.names.map fun name ↦ name ++ ascii "=" ++ toQueryArg noBackslashEscapes (t name))
    ++ ascii " where 1=1 and "
    ++ (ascii "  and ").intercalate (T.keyNames.map (assignment noBackslashEscapes t))

def ExecutesPartial {T : ReflectedType} (l : MemberList T) (t : Record)
    (noBackslashEscapes : Bool) : Prop :=
  asyncPartialUpdate l t noBackslashEscapes = .ok (partialUpdateText noBackslashEscapes l t)

/-- All the fields and then those that are keys have the same values, as they are written, as the
members of the list and then the keys as they were registered. -/
def LooksComplete {T : ReflectedType} (l : MemberList T) (t : Record)
    (noBackslashEscapes : Bool) : Prop :=
  ((T.fieldNames ++ T.fieldNames.filter fun name ↦ name ∈ T.keyNames).map t).map
      (toQueryArg noBackslashEscapes)
    = ((l.names ++ T.keyNames).map t).map (toQueryArg noBackslashEscapes)

/-! ## The chunks of the statement -/

section

variable {T : ReflectedType} (l : MemberList T)

/-- The statement between its values, with the given texts for the keys. -/
def partialChunks (keys : List Bytes) : List Bytes :=
  Scanner.separated (ascii "update " ++ T.name.text ++ ascii " set ") (ascii ",")
      (l.names.map (· ++ ascii "="))
    ++ Scanner.separated (ascii " where 1=1 and ") (ascii "  and ")
        (keys.map fun key ↦ quoteName .mysql key ++ ascii "=")

theorem names_ne_nil : l.names ≠ [] := List.map_eq_nil_iff.not.mpr l.ne_nil

theorem length_partialChunks (keys : List Bytes) :
    (partialChunks l keys).length = l.names.length + keys.length := by
  rw [partialChunks, List.length_append, Scanner.length_separated, Scanner.length_separated,
    List.length_map, List.length_map]

theorem filled_partialChunks {keys : List Bytes} (hne : keys ≠ []) (value value' : Bytes → Bytes) :
    Scanner.filled (partialChunks l keys) (l.names.map value ++ keys.map value')
      = ascii "update " ++ T.name.text ++ ascii " set "
        ++ (ascii ",").intercalate (l.names.map fun name ↦ name ++ ascii "=" ++ value name)
        ++ ascii " where 1=1 and "
        ++ (ascii "  and ").intercalate
            (keys.map fun key ↦ quoteName .mysql key ++ ascii "=" ++ value' key) := by
  have hlength : (Scanner.separated (ascii "update " ++ T.name.text ++ ascii " set ") (ascii ",")
      (l.names.map (· ++ ascii "="))).length = (l.names.map value).length := by
    rw [Scanner.length_separated, List.length_map, List.length_map]
  rw [partialChunks, Scanner.filled_append hlength, Scanner.filled_separated _ (names_ne_nil l),
    Scanner.filled_separated _ hne]
  simp only [List.append_assoc]

/-- The statement has a placeholder behind each of its chunks. -/
theorem generatePartialUpdateSql_eq (h : T.keyNames ≠ []) :
    generatePartialUpdateSql l .mysql
      = Scanner.filled (partialChunks l T.cutNames)
          ((l.names ++ T.cutNames).map fun _ ↦ [questionMark]) := by
  have hcut : T.cutNames ≠ [] := by
    rwa [ne_eq, ← List.length_eq_zero_iff, length_cutNames, List.length_eq_zero_iff]
  have hkeys : getConflictKeys T .mysql ≠ [] := mt (getConflictKeys_eq_nil_iff T .mysql).mp h
  have hmark : ascii "=?" = ascii "=" ++ [questionMark] := rfl
  have hmembers : memberFields l .mysql
      = (ascii ",").intercalate (l.names.map fun name ↦ name ++ ascii "=" ++ [questionMark]) := by
    have hname : (l.names.zipIdx 1).map (fun p ↦ p.1 ++ columnPlaceholder .mysql p.2)
        = l.names.map fun name ↦ name ++ ascii "=" ++ [questionMark] := by
      have hfst : (fun p : Bytes × ℕ ↦ p.1 ++ columnPlaceholder .mysql p.2)
          = (fun name ↦ name ++ ascii "=?") ∘ Prod.fst := rfl
      rw [hfst, ← List.map_map, List.zipIdx_map_fst, hmark]
      simp only [List.append_assoc]
    rw [← hname, ← dropLast_flatMap_comma, List.flatMap_map]
    rfl
  have hconditions : (T.cutNames.zipIdx (l.members.length + 1)).map (columnText .mysql)
      = T.cutNames.map fun key ↦ quoteName .mysql key ++ ascii "=" ++ [questionMark] := by
    have hcolumn : columnText .mysql
        = (fun key ↦ quoteName .mysql key ++ ascii "=?") ∘ Prod.fst := rfl
    rw [hcolumn, ← List.map_map, List.zipIdx_map_fst, hmark]
    simp only [List.append_assoc]
  rw [generatePartialUpdateSql, if_neg hkeys, updateText_eq T .mysql _ _ h, hmembers, hconditions,
    List.map_append]
  exact (filled_partialChunks l hcut _ _).symm

theorem places_partialChunks (noBackslashEscapes : Bool) :
    ∀ c ∈ partialChunks l T.cutNames, (mysqlScanner noBackslashEscapes).Places c 0 := by
  have hcode (text : Bytes) (h : ∀ b ∈ text, isCodeByte b = true ∧ b ≠ questionMark) :
      (mysqlScanner noBackslashEscapes).Places text 0 := Scanner.places_code h
  have hmember : ∀ item ∈ l.names.map (· ++ ascii "="),
      (mysqlScanner noBackslashEscapes).Places item 0 := by
    intro item hitem
    obtain ⟨name, hname, rfl⟩ := List.mem_map.mp hitem
    obtain ⟨n, -, rfl⟩ := List.mem_map.mp hname
    exact (hcode n.text (isCode_name n)).append (hcode (ascii "=") (by decide))
  have hkey : ∀ item ∈ T.cutNames.map (fun key ↦ quoteName .mysql key ++ ascii "="),
      (mysqlScanner noBackslashEscapes).Places item 0 := by
    intro item hitem
    obtain ⟨key, hkey, rfl⟩ := List.mem_map.mp hitem
    exact places_quoteName noBackslashEscapes (T.isToken_cutNames key hkey).ne_backtick
  have hfront := ((hcode (ascii "update ") (by decide)).append
    (hcode T.name.text (isCode_name T.name))).append (hcode (ascii " set ") (by decide))
  refine List.forall_mem_append.mpr ⟨?_, ?_⟩
  · exact Scanner.forall_mem_separated (fun item hitem ↦ hfront.append (hmember item hitem))
      fun item hitem ↦ (hcode (ascii ",") (by decide)).append (hmember item hitem)
  · exact Scanner.forall_mem_separated
      (fun item hitem ↦ (hcode (ascii " where 1=1 and ") (by decide)).append (hkey item hitem))
      fun item hitem ↦ (hcode (ascii "  and ") (by decide)).append (hkey item hitem)

/-- Behind the first chunk, every chunk begins with a delimiter. -/
theorem delimits_partialChunks (keys : List Bytes) :
    ∀ c ∈ (partialChunks l keys).tail, c ≠ [] ∧ Delimits c := by
  have hdelimits {front : Bytes} {b : Byte} (hb : isDelimiter b = true) (text : Bytes) :
      (b :: front) ++ text ≠ [] ∧ Delimits ((b :: front) ++ text) := by
    refine ⟨List.cons_ne_nil _ _, ?_⟩
    rintro b' ⟨⟩
    exact hb
  obtain ⟨m, members, hmembers⟩ := List.exists_cons_of_ne_nil (names_ne_nil l)
  rw [partialChunks, hmembers]
  refine List.forall_mem_append.mpr ⟨fun c hc ↦ ?_, ?_⟩
  · obtain ⟨item, -, rfl⟩ := List.mem_map.mp hc
    exact hdelimits rfl item
  · exact Scanner.forall_mem_separated (fun item _ ↦ hdelimits rfl item)
      fun item _ ↦ hdelimits rfl item

theorem partialChunks_eq_iff {keys keys' : List Bytes} :
    partialChunks l keys = partialChunks l keys' ↔ keys = keys' := by
  refine ⟨fun h ↦ ?_, fun h ↦ congrArg (partialChunks l) h⟩
  have hitem : Function.Injective fun key ↦ quoteName .mysql key ++ ascii "=" := by
    intro x y hxy
    exact quoteName_injective .mysql (List.append_cancel_right hxy)
  rw [partialChunks, partialChunks, List.append_cancel_left_eq] at h
  exact List.map_injective_iff.mpr hitem (Scanner.separated_injective _ _ h)

/-! ## What is executed -/

variable (t : Record) (noBackslashEscapes : Bool)

/-- The values of the walk go behind the chunks, if there are as many. -/
theorem asyncPartialUpdate_eq (h : T.keyNames ≠ []) :
    asyncPartialUpdate l t noBackslashEscapes
      = if (partialChunks l T.cutNames).length = T.walked.length
        then .ok (Scanner.filled (partialChunks l T.cutNames)
          ((T.walked.map t).map (toQueryArg noBackslashEscapes)))
        else .error countMismatch := by
  have hsql := generatePartialUpdateSql_eq l h
  have hlength := length_partialChunks l T.cutNames
  -- Whatever the values are, the places are there.
  have hfills (values : List Bytes)
      (hvalues : (partialChunks l T.cutNames).length = values.length) :
      (mysqlScanner noBackslashEscapes).Fills (generatePartialUpdateSql l .mysql) values
        (Scanner.filled (partialChunks l T.cutNames) values) := by
    have hmarks : ((l.names ++ T.cutNames).map fun _ ↦ [questionMark])
        = values.map fun _ ↦ [questionMark] := by
      rw [List.map_const', List.map_const', List.length_append, ← hlength, hvalues]
    rw [hsql, hmarks]
    exact Scanner.fills_filled (places_partialChunks l noBackslashEscapes) hvalues
  have hne : generatePartialUpdateSql l .mysql ≠ [] := by
    rw [generatePartialUpdateSql, if_neg (mt (getConflictKeys_eq_nil_iff T .mysql).mp h),
      updateText_eq T .mysql _ _ h]
    simp [ascii]
  have hcount := (hfills ((l.names ++ T.cutNames).map fun _ ↦ [])
    (by rw [hlength, List.length_map, List.length_append])).length 0
  rw [List.length_map, List.length_append, ← hlength] at hcount
  rw [asyncPartialUpdate, if_neg hne, formatStructSql_eq]
  split_ifs with hwalked
  · exact formatValues_of_fills (hfills _ (by rw [hwalked, List.length_map, List.length_map]))
  · rw [formatValues_eq, placeholders_eq, List.drop_zero, hcount, if_neg]
    rwa [List.length_map, List.length_map]

theorem partialUpdateText_eq (h : T.keyNames ≠ []) :
    partialUpdateText noBackslashEscapes l t
      = Scanner.filled (partialChunks l T.keyNames)
          (((l.names ++ T.keyNames).map t).map (toQueryArg noBackslashEscapes)) := by
  rw [List.map_map, List.map_append]
  exact (filled_partialChunks l h _ _).symm

/-- **Updates of some of the fields.** The asynchronous client executes what it was asked for
exactly where the keys were found and the values of all the fields and of those that are keys look
like those of the members of the list and of the keys. -/
theorem executesPartial_iff (h : T.keyNames ≠ []) :
    ExecutesPartial l t noBackslashEscapes ↔
      T.CommasFollow ∧ LooksComplete l t noBackslashEscapes := by
  rw [ExecutesPartial, asyncPartialUpdate_eq l t noBackslashEscapes h,
    partialUpdateText_eq l t noBackslashEscapes h]
  have hwalked (hcut : T.cutNames = T.keyNames) :
      T.walked = T.fieldNames ++ T.fieldNames.filter fun name ↦ name ∈ T.keyNames := by
    rw [ReflectedType.walked, hcut]
  constructor
  · intro htext
    split_ifs at htext with hcount
    have hlength : (partialChunks l T.cutNames).map List.length
        = (partialChunks l T.keyNames).map List.length := by
      have hkeys : (T.cutNames.map fun key ↦ quoteName .mysql key ++ ascii "=").map List.length
          = (T.keyNames.map fun key ↦ quoteName .mysql key ++ ascii "=").map List.length := by
        have hitem : List.length ∘ (fun key ↦ quoteName .mysql key ++ ascii "=")
            = (· + 3) ∘ List.length := by
          funext key
          simp [quoteName, ascii]
        rw [List.map_map, List.map_map, hitem, ← List.map_map, ← List.map_map,
          map_length_cutNames]
      rw [partialChunks, partialChunks, List.map_append, List.map_append,
        Scanner.map_length_separated hkeys]
    -- Both the keys and the values can be read off the text.
    obtain ⟨hchunks, hvalues⟩ := filled_inj noBackslashEscapes hlength
      (delimits_partialChunks l T.cutNames) (delimits_partialChunks l T.keyNames)
      (by rw [List.length_map, hcount])
      (by rw [List.length_map, List.length_append, length_partialChunks]) (Except.ok.inj htext)
    have hcut : T.cutNames = T.keyNames := (partialChunks_eq_iff l).mp hchunks
    refine ⟨(cutNames_eq_iff T).mp hcut, ?_⟩
    rw [LooksComplete, ← hwalked hcut, hvalues]
  · rintro ⟨hcommas, hlooks⟩
    have hcut : T.cutNames = T.keyNames := (cutNames_eq_iff T).mpr hcommas
    rw [LooksComplete, ← hwalked hcut] at hlooks
    have hcount := congrArg List.length hlooks
    rw [List.length_map, List.length_map, List.length_map, List.length_map, List.length_append,
      ← length_partialChunks] at hcount
    rw [hcut, hlooks, if_pos hcount.symm]

end

/-- The fields `id` and `age`, with `id` for the key. -/
def agedPerson : ReflectedType where
  name := .lit (ascii "person")
  members := [.lit (ascii "id"), .lit (ascii "age")]
  members_ne_nil := List.cons_ne_nil _ _
  nodup := by decide
  conflictKey := some ⟨.lit (ascii "id"), []⟩
  autoKey := none

def idAndAge : MemberList agedPerson :=
  ⟨agedPerson.members, List.cons_ne_nil _ _, List.Subset.refl _⟩

def ageAndId : MemberList agedPerson :=
  ⟨agedPerson.members.reverse, List.cons_ne_nil _ _, fun _ hn ↦ List.mem_reverse.mp hn⟩

def ageAlone : MemberList agedPerson :=
  ⟨agedPerson.members.tail, List.cons_ne_nil _ _, List.tail_subset _⟩

/-- The person with the key 1, thirty years old. -/
def thirty : Record := fun name ↦ if name = ascii "id" then .integer 1 else .integer 30

/-- All the members in their order. -/
theorem executesPartial_idAndAge : ExecutesPartial idAndAge thirty false := by
  refine (executesPartial_iff idAndAge thirty false (by decide)).mpr ⟨?_, rfl⟩
  rintro r ⟨⟩ p hp
  cases hp

/-- With the members in another order their values are exchanged, and a single member is refused. -/
theorem not_executesPartial_ageAndId :
    asyncPartialUpdate ageAndId thirty false
        = .ok (ascii "update person set age=1,id=30 where 1=1 and `id`=1") ∧
      asyncPartialUpdate ageAlone thirty false = .error countMismatch ∧
      ¬ ∀ (T : ReflectedType) (l : MemberList T) (t : Record) (noBackslashEscapes : Bool),
        T.keyNames ≠ [] → ExecutesPartial l t noBackslashEscapes := by
  have hrefused : asyncPartialUpdate ageAlone thirty false = .error countMismatch := by
    rw [asyncPartialUpdate, formatStructSql, formatValues_eq, placeholders_eq]
    rfl
  refine ⟨?_, hrefused, fun h ↦ ?_⟩
  · rw [asyncPartialUpdate, formatStructSql, formatValues_eq, placeholders_eq]
    rfl
  · have hexecutes := h agedPerson ageAlone thirty false (by decide)
    rw [ExecutesPartial, hrefused] at hexecutes
    cases hexecutes

end Ormpp
