import Ormpp.Registry.Registry

/-!
# What is filed in the registry

A macro files one key or one list of keys, and a call files at most one field. Whatever the loops of
the call go through, what they leave in the dictionary is that entry.
-/

namespace Ormpp

namespace Registry

/-- An auto key that is registered for a class. A macro files it under the qualified name of the
class, a call under the short one. -/
structure Filing where
  owner : StructName
  key : Key
  qualified : Bool

def Filing.filedUnder (f : Filing) : Bytes :=
  if f.qualified then getStructName f.owner else getShortStructName f.owner

def Filing.text (f : Filing) : Bytes := f.key.text

/-- The auto key that the macro registers. -/
def KeyMacro.filing : KeyMacro → Option Filing
  | .registerAutoKey T key => some ⟨T, key, true⟩
  | .registerConflictKey _ _ => none

/-- The conflict keys that the macro registers. -/
def KeyMacro.conflict : KeyMacro → Option (StructName × Registration)
  | .registerAutoKey _ _ => none
  | .registerConflictKey T keys => some (T, keys)

/-- The first field of the class that the call asks for. -/
def firstField (fields : StructName → List Key) (T : StructName) (asked : Bytes → Bool) :
    Option Filing :=
  ((fields T).find? fun name ↦ asked name.text).map fun name ↦ ⟨T, name, false⟩

/-- The auto key that the call registers. -/
def Call.filing (fields : StructName → List Key) : Call → Option Filing
  | .createTable T field valid => firstField fields T fun name ↦ valid && name = field
  | .createDatatable T autoKeys => firstField fields T fun name ↦ name ∈ autoKeys
  | .getConflictKeys _ _ => none

def addFiling (r : Registry) : Option Filing → Registry
  | none => r
  | some f => r.addAutoKeyField f.filedUnder f.text

theorem autoKeyMap_addFiling (r : Registry) (o : Option Filing) :
    (r.addFiling o).autoKeyMap
      = Dictionary.emplaceAll Filing.filedUnder Filing.text o.toList r.autoKeyMap := by
  rcases o with _ | f <;> rfl

theorem conflictMap_addFiling (r : Registry) (o : Option Filing) :
    (r.addFiling o).conflictMap = r.conflictMap := by
  rcases o with _ | f <;> rfl

/-! ## One call -/

variable {r : Registry} {fields : StructName → List Key} {T : StructName}

/-- Where a key is filed under the short name the loop of `register_auto_increment_field` does
nothing. -/
theorem foldl_addAutoKeyField_of_isSome {key : Bytes} (h : (r.autoKeyMap.lookup key).isSome)
    (field : Bytes) (names : List Key) :
    names.foldl (fun r name ↦ if name.text = field then r.addAutoKeyField key name.text else r) r
      = r := by
  induction names with
  | nil => rfl
  | cons name names ih =>
    rw [List.foldl_cons, addAutoKeyField_of_isSome h, ite_self]
    exact ih

theorem registerAutoIncrementField_eq (r : Registry) (field : Bytes) :
    r.registerAutoIncrementField fields T field
      = r.addFiling (firstField fields T fun name ↦ name = field) := by
  rw [registerAutoIncrementField, firstField]
  split_ifs with hfield
  · have hnone : (fields T).find? (fun name ↦ decide (name.text = field)) = none := by
      rw [List.find?_eq_none]
      intro name _ hname
      exact name.text_ne_nil ((of_decide_eq_true hname).trans hfield)
    rw [hnone]
    rfl
  · induction fields T with
    | nil => rfl
    | cons name names ih =>
      rw [List.foldl_cons, List.find?_cons]
      by_cases hname : name.text = field
      · rw [if_pos hname, decide_eq_true hname,
          foldl_addAutoKeyField_of_isSome (isSome_lookup_addAutoKeyField r _ _)]
        rfl
      · rw [if_neg hname, decide_eq_false hname]
        exact ih

theorem createtbLoop_nil (tableName : Bytes) (names : List Key) (autoKey : Bytes) :
    createtbLoop tableName names autoKey [] r = r := by
  induction names with
  | nil => rfl
  | cons name names ih =>
    rw [createtbLoop, if_neg List.not_mem_nil]
    exact ih

/-- Where an auto key was found nothing is registered. -/
theorem createtbLoop_of_ne_nil (tableName : Bytes) (names : List Key) {autoKey : Bytes}
    (h : autoKey ≠ []) (autoKeys : List Bytes) :
    createtbLoop tableName names autoKey autoKeys r = r := by
  induction names with
  | nil => rfl
  | cons name names ih =>
    rw [createtbLoop, if_neg h, createtbLoop_nil, ih]
    exact ite_self r

theorem createtbLoop_eq (T : StructName) (names : List Key) (autoKeys : List Bytes) :
    createtbLoop (getShortStructName T) names [] autoKeys r
      = r.addFiling ((names.find? fun name ↦ name.text ∈ autoKeys).map fun name ↦
          ⟨T, name, false⟩) := by
  induction names with
  | nil => rfl
  | cons name names ih =>
    rw [createtbLoop, List.find?_cons]
    by_cases hname : name.text ∈ autoKeys
    · rw [if_pos hname, decide_eq_true hname, if_pos rfl, createtbLoop_nil]
      rfl
    · rw [if_neg hname, decide_eq_false hname]
      exact ih

theorem isSome_of_getAutoKey_ne_nil (h : r.getAutoKey T ≠ []) :
    (r.autoKeyMap.lookup (getShortStructName T)).isSome := by
  rcases hlookup : r.autoKeyMap.lookup (getShortStructName T) with _ | value
  · rw [getAutoKey, hlookup] at h
    exact absurd rfl h
  · rfl

/-- A field is filed under the short name of its class. -/
theorem addFiling_firstField_of_isSome
    (h : (r.autoKeyMap.lookup (getShortStructName T)).isSome) (asked : Bytes → Bool) :
    r.addFiling (firstField fields T asked) = r := by
  rcases hfind : (fields T).find? (fun name ↦ asked name.text) with _ | name
  · rw [firstField, hfind]
    rfl
  · rw [firstField, hfind]
    exact addAutoKeyField_of_isSome h name.text

theorem generateCreatetbSql_eq (r : Registry) (autoKeys : List Bytes) :
    r.generateCreatetbSql fields T autoKeys
      = (r.getConflictKeys T .sqlite).2.addFiling
          (firstField fields T fun name ↦ name ∈ autoKeys) := by
  simp only [generateCreatetbSql]
  by_cases hauto : r.getAutoKey T = []
  · rw [if_pos hauto, hauto, List.nil_append, createtbLoop_eq]
    rfl
  · have hisSome : ((r.getConflictKeys T .sqlite).2.autoKeyMap.lookup
        (getShortStructName T)).isSome := by
      rw [autoKeyMap_getConflictKeys]
      exact isSome_of_getAutoKey_ne_nil hauto
    rw [createtbLoop_of_ne_nil _ _ hauto, addFiling_firstField_of_isSome hisSome]

/-- The registry once the call has looked up the conflict keys. -/
def lookUp (r : Registry) : Call → Registry
  | .createTable _ _ _ => r
  | .createDatatable T _ => (r.getConflictKeys T .sqlite).2
  | .getConflictKeys T db => (r.getConflictKeys T db).2

/-- A call looks up the conflict keys and files a field. -/
theorem call_eq (r : Registry) (fields : StructName → List Key) (c : Call) :
    r.call fields c = (r.lookUp c).addFiling (c.filing fields) := by
  rcases c with ⟨T, field, valid⟩ | ⟨T, autoKeys⟩ | ⟨T, db⟩
  · rcases valid with _ | _
    · have hnone : (fields T).find? (fun _ ↦ false) = none :=
        List.find?_eq_none.mpr fun _ _ ↦ Bool.false_ne_true
      simp only [call, Call.filing, firstField, Bool.false_and, hnone]
      rfl
    · simp only [call, Call.filing, Bool.true_and]
      exact registerAutoIncrementField_eq r field
  · exact generateCreatetbSql_eq r autoKeys
  · rfl

theorem autoKeyMap_lookUp (r : Registry) (c : Call) : (r.lookUp c).autoKeyMap = r.autoKeyMap := by
  rcases c with ⟨T, field, valid⟩ | ⟨T, autoKeys⟩ | ⟨T, db⟩
  · rfl
  · exact autoKeyMap_getConflictKeys T .sqlite
  · exact autoKeyMap_getConflictKeys T db

theorem conflictMap_lookUp (r : Registry) (c : Call) :
    (r.lookUp c).conflictMap = r.conflictMap := by
  rcases c with ⟨T, field, valid⟩ | ⟨T, autoKeys⟩ | ⟨T, db⟩
  · rfl
  · exact conflictMap_getConflictKeys T .sqlite
  · exact conflictMap_getConflictKeys T db

end Registry

end Ormpp
