import Ormpp.Codec.RoundTrip
import Ormpp.Schema.Alias
import Ormpp.Sql.Table

/-!
# Classes that are stored

A reflected class whose objects SQLite can hold as they are: no member is a floating-point number,
every name is read as a name, also where capitals do not count, and the keys are found under the
names of their columns. An object is a value for each member, such that it comes back when it is
stored; its row has the cells of these values.
-/

namespace Ormpp

open Sql hiding isBlank
open Sqlite (FieldKept)

/-! ## Members -/

def DiscreteType.valueType : DiscreteType → ValueType
  | number t => t.valueType
  | string => .string
  | charArray N => .charArray N
  | blob => .blob

def DiscreteField.fieldType : DiscreteField → FieldType
  | value t => .value t.valueType
  | optional t => .optional t.valueType

/-- A field that is never `NULL`, and that SQL can compare. -/
def DiscreteField.comparable : DiscreteField → Bool
  | value .blob => false
  | value _ => true
  | optional _ => false

/-- A field with a number in it. -/
def DiscreteField.numeric : DiscreteField → Bool
  | value (.number _) => true
  | _ => false

/-- A member of a class, with its column. -/
structure StoredMember where
  name : Key
  column : Name
  type : DiscreteField
  mapped : type.fieldType.mapped = true

def StoredMember.field (m : StoredMember) : Field := ⟨m.column, m.type.fieldType, m.mapped⟩

/-! ## Classes -/

/-- The word is a name, and no keyword. -/
def ReadsAsName (word : Bytes) : Prop := wordToken word = .name word

instance (word : Bytes) : Decidable (ReadsAsName word) :=
  inferInstanceAs (Decidable (wordToken word = .name word))

/-- A reflected class without floating-point members. -/
structure DiscreteClass where
  structName : StructName
  members : List StoredMember
  members_ne_nil : members ≠ []
  nodup_members : (members.map fun m ↦ m.name.text).Nodup
  nodup_columns : (members.map fun m ↦ foldCase m.column.text).Nodup
  autoKey : Option Key
  conflictKey : Option Registration
  autoKey_mem : ∀ k, autoKey = some k → ∃ m ∈ members, m.name.text = k.text
  conflictKey_mem : ∀ reg, conflictKey = some reg → ∀ k ∈ reg.keys, ∃ m ∈ members,
    m.name.text = k.text

namespace DiscreteClass

variable (T : DiscreteClass)

/-- The class with its keys as the macros register them. -/
def aliased : AliasedType where
  structName := T.structName
  members := T.members.map fun m ↦ (m.name, m.field)
  members_ne_nil := List.map_eq_nil_iff.not.mpr T.members_ne_nil
  nodup_members := by
    rw [List.map_map]
    exact T.nodup_members
  nodup_columns := by
    rw [List.map_map]
    refine List.Nodup.of_map foldCase ?_
    rw [List.map_map]
    exact T.nodup_columns
  autoKey := T.autoKey
  conflictKey := T.conflictKey
  autoKey_mem k hk := by
    obtain ⟨m, hm, hname⟩ := T.autoKey_mem k hk
    exact ⟨_, List.mem_map_of_mem hm, hname⟩
  conflictKey_mem reg hreg k hk := by
    obtain ⟨m, hm, hname⟩ := T.conflictKey_mem reg hreg k hk
    exact ⟨_, List.mem_map_of_mem hm, hname⟩

/-- The members by their numbers. -/
abbrev Index : Type := Fin T.members.length

def indices : List T.Index := List.finRange T.members.length

def member (i : T.Index) : StoredMember := T.members.get i

def column (i : T.Index) : Bytes := (T.member i).column.text

/-- The column without its capitals. -/
def folded (i : T.Index) : Bytes := foldCase (T.column i)

/-- The name of the table. -/
def table : Bytes := T.structName.name.text

/-- The key that the macros have registered for the rows to be numbered by. -/
def isAuto (i : T.Index) : Bool := T.autoKey.any fun k ↦ k.text = T.column i

/-- The member is one of the conflict keys, for which the auto key stands in. -/
def isKey (i : T.Index) : Bool := T.column i ∈ T.aliased.reflected.keyNames

/-- The members that tell the objects apart. -/
def keyIndices : List T.Index := T.indices.filter T.isKey

/-- The members that are the primary key of the table. -/
def primaryIndices : List T.Index :=
  if T.autoKey.isSome then T.indices.filter T.isAuto else T.keyIndices

/-- The members that an insert names, which leaves the auto key out, or a replace. -/
def statementIndices (insert : Bool) : List T.Index :=
  T.indices.filter fun i ↦ !(insert && T.isAuto i)

end DiscreteClass

/-- A class whose objects can be stored. -/
structure StoredClass extends DiscreteClass where
  namesKept : NamesKept toDiscreteClass.aliased
  keysInFieldOrder : toDiscreteClass.aliased.reflected.KeysInFieldOrder
  readsTable : ReadsAsName toDiscreteClass.table
  notInternal : isInternal toDiscreteClass.table = false
  readsColumn : ∀ m ∈ members, ReadsAsName m.column.text
  comparable : ∀ i, toDiscreteClass.isKey i = true → (toDiscreteClass.member i).type.comparable
  numeric : ∀ i, toDiscreteClass.isAuto i = true → (toDiscreteClass.member i).type.numeric
  /-- There is something to be inserted. -/
  inserted : ∃ i, toDiscreteClass.isAuto i = false

/-! ## Objects -/

/-- An object whose values come back, where `allocated` says whether an empty vector has data. -/
@[ext]
structure DiscreteClass.Object (T : DiscreteClass) (allocated : Bool) where
  value : (i : T.Index) → (T.member i).type.Value
  kept : ∀ i, FieldKept allocated (T.member i).type (value i)

namespace DiscreteClass

variable (T : DiscreteClass) {allocated : Bool}

/-- What is bound for a member. -/
def Object.cell {T : DiscreteClass} (x : T.Object allocated) (i : T.Index) : Sqlite.Cell :=
  Sqlite.setParamBind allocated (T.member i).type (x.value i)

/-- The row with the given cells in the columns of the members. -/
def rowOf (cells : T.Index → Sqlite.Cell) : SqlRow :=
  fun name ↦ ((T.indices.find? fun i ↦ T.folded i = name).map cells).getD .null

/-- The row of an object. -/
def Object.row {T : DiscreteClass} (x : T.Object allocated) : SqlRow := T.rowOf x.cell

/-! ## Columns -/

theorem mem_indices (i : T.Index) : i ∈ T.indices := List.mem_finRange i

theorem nodup_indices : T.indices.Nodup := List.nodup_finRange _

theorem map_member : T.indices.map T.member = T.members := List.map_get_finRange T.members

theorem map_column : T.indices.map T.column = T.aliased.entity.columnNames := by
  rw [AliasedType.columnNames_entity]
  change T.indices.map ((fun m ↦ m.column.text) ∘ T.member) = _
  rw [← List.map_map, map_member, aliased, List.map_map]
  rfl

theorem fieldNames_reflected : T.aliased.reflected.fieldNames = T.indices.map T.column := by
  rw [map_column, AliasedType.fieldNames_reflected, AliasedType.columnNames_entity]

theorem folded_injective : Function.Injective T.folded := by
  have hnodup : (T.indices.map T.folded).Nodup := by
    change (T.indices.map ((fun m ↦ foldCase m.column.text) ∘ T.member)).Nodup
    rw [← List.map_map, map_member]
    exact T.nodup_columns
  intro i j h
  exact List.inj_on_of_nodup_map hnodup (T.mem_indices i) (T.mem_indices j) h

theorem column_injective : Function.Injective T.column :=
  fun _ _ h ↦ T.folded_injective (congrArg foldCase h)

theorem find?_folded (i : T.Index) :
    (T.indices.find? fun j ↦ T.folded j = T.folded i) = some i := by
  rw [List.find?_eq_some_iff_append]
  obtain ⟨front, rest, hsplit⟩ := List.mem_iff_append.mp (T.mem_indices i)
  refine ⟨decide_eq_true rfl, front, rest, hsplit, fun j hj ↦ ?_⟩
  have hne : j ≠ i := by
    rintro rfl
    have hnodup := T.nodup_indices
    rw [hsplit] at hnodup
    exact List.disjoint_of_nodup_append hnodup hj List.mem_cons_self
  rw [decide_eq_false fun h ↦ hne (T.folded_injective h)]
  rfl

theorem find?_of_forall_ne {name : Bytes} (h : ∀ i, T.folded i ≠ name) :
    (T.indices.find? fun i ↦ T.folded i = name) = none :=
  List.find?_eq_none.mpr fun i _ hi ↦ h i (of_decide_eq_true hi)

@[simp] theorem rowOf_folded (cells : T.Index → Sqlite.Cell) (i : T.Index) :
    T.rowOf cells (T.folded i) = cells i := by
  rw [rowOf, find?_folded]
  rfl

theorem rowOf_of_forall_ne (cells : T.Index → Sqlite.Cell) {name : Bytes}
    (h : ∀ i, T.folded i ≠ name) : T.rowOf cells name = .null := by
  rw [rowOf, T.find?_of_forall_ne h]
  rfl

/-- Rows are equal if they have the same cells in the columns. -/
theorem eq_rowOf {row : SqlRow} {cells : T.Index → Sqlite.Cell}
    (hcells : ∀ i, row (T.folded i) = cells i)
    (hrest : ∀ name, (∀ i, T.folded i ≠ name) → row name = .null) : row = T.rowOf cells := by
  funext name
  by_cases h : ∃ i, T.folded i = name
  · obtain ⟨i, rfl⟩ := h
    rw [hcells, rowOf_folded]
  · have hne : ∀ i, T.folded i ≠ name := fun i hi ↦ h ⟨i, hi⟩
    rw [hrest name hne, T.rowOf_of_forall_ne cells hne]

theorem update_rowOf (cells : T.Index → Sqlite.Cell) (i : T.Index) (c : Sqlite.Cell) :
    Function.update (T.rowOf cells) (T.folded i) c = T.rowOf (Function.update cells i c) := by
  apply T.eq_rowOf
  · intro j
    by_cases hj : j = i
    · subst hj
      rw [Function.update_self, Function.update_self]
    · rw [Function.update_of_ne (fun h ↦ hj (T.folded_injective h)), Function.update_of_ne hj,
        rowOf_folded]
  · intro name hname
    rw [Function.update_of_ne (Ne.symm (hname i)), T.rowOf_of_forall_ne cells hname]

theorem Object.row_folded {T : DiscreteClass} (x : T.Object allocated) (i : T.Index) :
    x.row (T.folded i) = x.cell i := T.rowOf_folded x.cell i

end DiscreteClass

/-! ## Keys -/

namespace StoredClass

variable (T : StoredClass)

theorem getAutoKey_eq :
    T.aliased.registry.getAutoKey T.structName = (T.autoKey.map fun k ↦ k.text).getD [] := by
  refine (getAutoKey_of_namesKept T.namesKept).trans ?_
  change (T.autoKey.map T.aliased.columnOf).getD [] = _
  rcases hauto : T.autoKey with _ | k
  · rfl
  · exact (T.namesKept.auto k hauto).1

theorem isAutoKey_column (i : T.Index) :
    T.aliased.registry.isAutoKey T.structName (T.column i) = T.isAuto i := by
  have hne : T.column i ≠ [] := (T.member i).column.text_ne_nil
  rw [Registry.isAutoKey_eq hne, getAutoKey_eq, DiscreteClass.isAuto]
  rcases T.autoKey with _ | k
  · exact decide_eq_false hne
  · exact decide_eq_decide.mpr eq_comm

theorem statementColumns_eq (insert : Bool) :
    statementColumns T.aliased.registry T.aliased.entity insert
      = (T.statementIndices insert).map T.column := by
  rw [statementColumns, ← T.map_column, List.filter_map, DiscreteClass.statementIndices]
  congr 2
  funext i
  exact congrArg (fun b ↦ !(insert && b)) (T.isAutoKey_column i)

/-- An insert and a replace name some member. -/
theorem statementIndices_ne_nil (insert : Bool) : T.statementIndices insert ≠ [] := by
  obtain ⟨i, hi⟩ := T.inserted
  refine List.ne_nil_of_mem (List.mem_filter.mpr ⟨T.mem_indices i, ?_⟩)
  rw [hi, Bool.and_false]
  rfl

theorem readsAsName_column (i : T.Index) : ReadsAsName (T.column i) :=
  T.readsColumn _ (List.get_mem _ _)

theorem exists_isAuto (h : T.autoKey.isSome) : ∃ i, T.isAuto i = true := by
  obtain ⟨k, hk⟩ := Option.isSome_iff_exists.mp h
  have hmember : ∃ m ∈ T.aliased.members, m.1.text = k.text := T.aliased.autoKey_mem k hk
  have hcolumn := T.aliased.columnOf_mem_fieldNames hmember
  rw [(T.namesKept.auto k hk).1, T.fieldNames_reflected] at hcolumn
  obtain ⟨i, -, hi⟩ := List.mem_map.mp hcolumn
  refine ⟨i, ?_⟩
  rw [DiscreteClass.isAuto, hk]
  exact decide_eq_true hi.symm

theorem autoKey_isSome {i : T.Index} (h : T.isAuto i = true) : T.autoKey.isSome := by
  rw [DiscreteClass.isAuto] at h
  rcases hauto : T.autoKey with _ | k
  · rw [hauto] at h
    cases h
  · rfl

/-- There is one auto key at most. -/
theorem eq_of_isAuto {i j : T.Index} (hi : T.isAuto i = true) (hj : T.isAuto j = true) :
    i = j := by
  rw [DiscreteClass.isAuto, Option.any_eq_true] at hi hj
  obtain ⟨k, hk, hi⟩ := hi
  obtain ⟨k', hk', hj⟩ := hj
  cases hk.symm.trans hk'
  exact T.column_injective ((of_decide_eq_true hi).symm.trans (of_decide_eq_true hj))

theorem filter_isAuto {i : T.Index} (h : T.isAuto i = true) : T.indices.filter T.isAuto = [i] := by
  have hauto : T.isAuto = fun j ↦ decide (j = i) := by
    funext j
    rw [Bool.eq_iff_iff, decide_eq_true_iff]
    constructor
    · exact fun hj ↦ T.eq_of_isAuto hj h
    · rintro rfl
      exact h
  rw [hauto]
  exact filter_eq_singleton T.nodup_indices (T.mem_indices i)

theorem keyNames_eq : T.aliased.reflected.keyNames = T.keyIndices.map T.column := by
  have horder := T.keysInFieldOrder.order
  rw [T.fieldNames_reflected, List.filter_map] at horder
  exact horder

theorem cutNames_eq : T.aliased.reflected.cutNames = T.keyIndices.map T.column :=
  ((cutNames_eq_iff _).mpr T.keysInFieldOrder.commas).trans T.keyNames_eq

end StoredClass

end Ormpp
