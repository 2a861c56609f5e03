import Ormpp.Data.Collection
import Ormpp.Sql.Database
import Ormpp.Store.Create
import Ormpp.Store.Update

/-!
# Objects in a table

The table that holds the objects of a class, and what the statements for the class do to it: an
insert puts an object behind the others unless its primary key is there, a replace takes that one
away, an update puts an object in place of those with its keys, and a condition is one on objects.
-/

namespace Ormpp

open Sql hiding isBlank

/-! ## Lists -/

section

variable {ι β : Type} {f : ι → Bytes} {g : ι → β} {is : List ι}

theorem lookup_map (hf : Function.Injective f) {i : ι} (hi : i ∈ is) :
    (is.map fun j ↦ (f j, g j)).lookup (f i) = some (g i) := by
  induction is with
  | nil => cases hi
  | cons j is ih =>
    rw [List.map_cons, List.lookup_cons]
    by_cases hj : f i = f j
    · rw [beq_iff_eq.mpr hj, hf hj]
    · have hne : i ≠ j := fun h ↦ hj (congrArg f h)
      rw [beq_eq_false_iff_ne.mpr hj]
      exact ih ((List.mem_cons.mp hi).resolve_left hne)

theorem lookup_map_eq_none {name : Bytes} (h : ∀ i ∈ is, f i ≠ name) :
    (is.map fun j ↦ (f j, g j)).lookup name = none := by
  induction is with
  | nil => rfl
  | cons j is ih =>
    obtain ⟨hj, his⟩ := List.forall_mem_cons.mp h
    rw [List.map_cons, List.lookup_cons, beq_eq_false_iff_ne.mpr (Ne.symm hj)]
    exact ih his

end

theorem mapM_eq_some {α β : Type} {f : α → Option β} {g : α → β} {xs : List α}
    (h : ∀ x ∈ xs, f x = some (g x)) : xs.mapM f = some (xs.map g) := by
  induction xs with
  | nil => rfl
  | cons x xs ih =>
    obtain ⟨hx, hxs⟩ := List.forall_mem_cons.mp h
    rw [List.mapM_cons, hx, ih hxs]
    rfl

/-! ## The table of a class -/

namespace DiscreteType

def affinity (t : DiscreteType) : Affinity := Sql.affinity t.sqlName

theorem affinity_eq (t : DiscreteType) :
    t.affinity = match t with
      | number _ => .integer
      | string | charArray _ => .text
      | blob => .blob := by
  obtain t | _ | N | _ := t
  · change Sql.affinity (ascii "INTEGER") = .integer
    decide
  · decide
  · change Sql.affinity (ascii "varchar") = .text
    decide
  · decide

end DiscreteType

/-- **Types of columns.** The type that is declared for a field stores as it is whatever is bound
for it. -/
theorem apply_setParamBind (allocated : Bool) (f : DiscreteField) (v : f.Value) :
    f.discreteType.affinity.apply (Sqlite.setParamBind allocated f v)
      = some (Sqlite.setParamBind allocated f v) := by
  have hvalue (t : DiscreteType) (v : t.Value) :
      t.affinity.apply (Sqlite.bindValue allocated t v)
        = some (Sqlite.bindValue allocated t v) := by
    rw [DiscreteType.affinity_eq]
    obtain t | _ | N | _ := t
    · have hbound : Sqlite.bindValue allocated (.number t) v = .integer _ :=
        Sqlite.bindNumber_eq v
      rw [hbound]
      rfl
    · rfl
    · rfl
    · cases Sqlite.bindValue allocated .blob v <;> rfl
  obtain t | t := f
  · exact hvalue t v
  · obtain _ | v := v
    · change t.affinity.apply .null = some .null
      rw [DiscreteType.affinity_eq]
      cases t <;> rfl
    · exact hvalue t v

section

variable (T : StoredClass) {allocated : Bool}

/-- The member that is the number of the row. -/
def rowidIndex : Option T.Index :=
  match T.primaryIndices with
  | [i] => if (T.member i).type.numeric then some i else none
  | _ => none

/-- The table with the rows of some objects. -/
def sqlTable (objects : List (T.Object allocated)) (last : ℤ) : SqlTable where
  columns := T.indices.map fun i ↦ (T.folded i, (T.member i).type.discreteType.affinity)
  rowid := (rowidIndex T).map T.folded
  autoIncrement := T.autoKey.isSome
  unique := ((rowidIndex T).map T.folded).toList.map (fun name ↦ [name])
    ++ if primaryNames T = [] then [] else [(primaryNames T).map foldCase]
  notNull := []
  rows := objects.map DiscreteClass.Object.row
  last := last

/-- The objects have the same values in some members. -/
def DiscreteClass.Object.SameOn {T : DiscreteClass} (is : List T.Index)
    (x y : T.Object allocated) : Prop :=
  is ≠ [] ∧ ∀ i ∈ is, x.cell i = y.cell i

instance {T : DiscreteClass} (is : List T.Index) (x y : T.Object allocated) :
    Decidable (x.SameOn is y) := inferInstanceAs (Decidable (is ≠ [] ∧ ∀ i ∈ is, _))

/-- Two objects cannot both be in the table if they have the same primary key. -/
def primaryLikeness (T : DiscreteClass) (allocated : Bool) : Likeness (T.Object allocated) where
  Same := DiscreteClass.Object.SameOn T.primaryIndices
  decidableSame := inferInstance
  symm h := ⟨h.1, fun i hi ↦ (h.2 i hi).symm⟩

end

/-! ## Cells of keys -/

section

variable {allocated : Bool} {f : DiscreteField}

theorem exists_integer_of_numeric (h : f.numeric = true) (v : f.Value) :
    ∃ n, Sqlite.setParamBind allocated f v = .integer n := by
  obtain (t | _ | N | _) | t := f
  · exact ⟨_, Sqlite.bindNumber_eq v⟩
  all_goals cases h

theorem comparable_of_numeric (h : f.numeric = true) : f.comparable = true := by
  obtain (t | _ | N | _) | t := f
  · rfl
  all_goals cases h

theorem alike_of_comparable (h : f.comparable = true) (v w : f.Value) :
    Alike (Sqlite.setParamBind allocated f v) (Sqlite.setParamBind allocated f w) := by
  obtain (t | _ | N | _) | t := f
  · exact .inl ⟨_, _, Sqlite.bindNumber_eq v, Sqlite.bindNumber_eq w⟩
  · exact .inr ⟨_, _, rfl, rfl⟩
  · exact .inr ⟨_, _, rfl, rfl⟩
  all_goals cases h

theorem Sql.Alike.ne_null {v w : Sqlite.Cell} (h : Alike v w) : v ≠ .null := by
  rintro rfl
  obtain ⟨_, _, h, -⟩ | ⟨_, _, h, -⟩ := h <;> cases h

end

section

variable (T : StoredClass) {allocated : Bool}

theorem primaryIndices_of_isAuto {i : T.Index} (h : T.isAuto i = true) :
    T.primaryIndices = [i] := by
  rw [DiscreteClass.primaryIndices, if_pos (T.autoKey_isSome h), T.filter_isAuto h]

theorem comparable_of_mem_primaryIndices {i : T.Index} (h : i ∈ T.primaryIndices) :
    (T.member i).type.comparable = true := by
  rw [DiscreteClass.primaryIndices] at h
  split_ifs at h
  · exact comparable_of_numeric (T.numeric i (List.mem_filter.mp h).2)
  · exact T.comparable i (List.mem_filter.mp h).2

theorem rowidIndex_eq_some_iff {i : T.Index} :
    rowidIndex T = some i ↔ T.primaryIndices = [i] ∧ (T.member i).type.numeric = true := by
  rw [rowidIndex]
  split
  · rename_i j hj
    rw [hj, List.singleton_inj]
    split_ifs with hnumeric
    · rw [Option.some_inj]
      refine ⟨fun h ↦ ⟨h, h ▸ hnumeric⟩, fun h ↦ h.1⟩
    · refine iff_of_false nofun fun h ↦ ?_
      obtain ⟨rfl, h⟩ := h
      exact hnumeric h
  · rename_i hsingle
    exact iff_of_false nofun fun h ↦ hsingle i h.1

theorem rowidIndex_of_isAuto {i : T.Index} (h : T.isAuto i = true) : rowidIndex T = some i :=
  (rowidIndex_eq_some_iff T).mpr ⟨primaryIndices_of_isAuto T h, T.numeric i h⟩

theorem mem_primaryNames_iff {name : Bytes} :
    name ∈ primaryNames T ↔ T.autoKey.isSome = false ∧ ∃ i ∈ T.primaryIndices, T.column i = name := by
  rw [primaryNames, DiscreteClass.primaryIndices]
  split_ifs with h
  · rw [h]
    exact iff_of_false List.not_mem_nil fun h ↦ Bool.noConfusion h.1
  · rw [StringSet.mem_addAll, or_iff_left List.not_mem_nil, List.mem_map,
      and_iff_right ((Bool.not_eq_true _).mp h)]

variable {T} {objects : List (T.Object allocated)} {last : ℤ}

/-- Objects are in each other's way if they have the same primary key. -/
theorem collides_iff (x y : T.Object allocated) :
    (sqlTable T objects last).Collides x.row y.row ↔
      (primaryLikeness T.toDiscreteClass allocated).Same x y := by
  have hgroup : (∀ i ∈ T.primaryIndices, x.cell i = y.cell i) →
      ∀ i ∈ T.primaryIndices, x.row (T.folded i) ≠ .null ∧
        x.row (T.folded i) = y.row (T.folded i) := by
    intro h i hi
    rw [x.row_folded, y.row_folded]
    exact ⟨(alike_of_comparable (comparable_of_mem_primaryIndices T hi) _ (x.value i)).ne_null,
      h i hi⟩
  constructor
  · rintro ⟨group, hmem, hsame⟩
    obtain hrowid | hnames := List.mem_append.mp hmem
    · obtain ⟨name, hname, rfl⟩ := List.mem_map.mp hrowid
      rw [Option.mem_toList, Option.map_eq_some_iff] at hname
      obtain ⟨i, hi, rfl⟩ := hname
      obtain ⟨hprimary, -⟩ := (rowidIndex_eq_some_iff T).mp hi
      have hcell := (hsame _ (List.mem_singleton.mpr rfl)).2
      rw [x.row_folded, y.row_folded] at hcell
      refine ⟨by rw [hprimary]; exact List.cons_ne_nil _ _, fun j hj ↦ ?_⟩
      rw [hprimary] at hj
      rw [List.mem_singleton.mp hj]
      exact hcell
    · split_ifs at hnames with hnil
      · cases hnames
      · obtain rfl := List.mem_singleton.mp hnames
        obtain ⟨name, hname⟩ := List.exists_mem_of_ne_nil _ hnil
        obtain ⟨hauto, i, hi, -⟩ := (mem_primaryNames_iff T).mp hname
        refine ⟨List.ne_nil_of_mem hi, fun j hj ↦ ?_⟩
        have hmem : T.folded j ∈ (primaryNames T).map foldCase :=
          List.mem_map_of_mem ((mem_primaryNames_iff T).mpr ⟨hauto, j, hj, rfl⟩)
        have hcell := (hsame _ hmem).2
        rwa [x.row_folded, y.row_folded] at hcell
  · rintro ⟨hne, hsame⟩
    by_cases hauto : T.autoKey.isSome = true
    · obtain ⟨i, hi⟩ := T.exists_isAuto hauto
      refine ⟨[T.folded i], List.mem_append_left _ ?_, fun c hc ↦ ?_⟩
      · rw [rowidIndex_of_isAuto T hi]
        exact List.mem_singleton.mpr rfl
      · obtain rfl := List.mem_singleton.mp hc
        refine hgroup hsame i ?_
        rw [primaryIndices_of_isAuto T hi]
        exact List.mem_singleton.mpr rfl
    · rw [Bool.not_eq_true] at hauto
      obtain ⟨i, hi⟩ := List.exists_mem_of_ne_nil _ hne
      have hnames : primaryNames T ≠ [] :=
        List.ne_nil_of_mem ((mem_primaryNames_iff T).mpr ⟨hauto, i, hi, rfl⟩)
      refine ⟨(primaryNames T).map foldCase, List.mem_append_right _ ?_, fun c hc ↦ ?_⟩
      · rw [if_neg hnames]
        exact List.mem_singleton.mpr rfl
      · obtain ⟨name, hname, rfl⟩ := List.mem_map.mp hc
        obtain ⟨-, j, hj, rfl⟩ := (mem_primaryNames_iff T).mp hname
        exact hgroup hsame j hj

end

/-! ## The empty table -/

section

variable (T : StoredClass)

/-- The column of a member, as it is defined. -/
def columnDefinition (i : T.Index) : ColumnDefinition :=
  ⟨T.column i, (T.member i).type.discreteType.sqlName, T.isAuto i, false⟩

theorem tableElements_eq :
    tableElements T = T.indices.map (fun i ↦ TableElement.column (columnDefinition T i))
      ++ if primaryNames T = [] then [] else [.primaryKey (primaryNames T)] := by
  rw [tableElements, tableItems, List.map_append, List.map_map]
  split_ifs <;> rfl

theorem isIntegerType_columnDefinition {i : T.Index} (h : (T.member i).type.comparable = true) :
    SqlTable.isIntegerType (columnDefinition T i) = (T.member i).type.numeric := by
  have hname : foldCase (ascii "INTEGER") = ascii "INTEGER" := by decide
  have htext : foldCase (ascii "TEXT") ≠ ascii "INTEGER" := by decide
  have hvarchar : foldCase (ascii "varchar") ≠ ascii "INTEGER" := by decide
  rw [SqlTable.isIntegerType, columnDefinition]
  generalize (T.member i).type = f at h ⊢
  obtain (t | _ | N | _) | t := f
  · exact decide_eq_true hname
  · exact decide_eq_false htext
  · exact decide_eq_false hvarchar
  all_goals cases h

theorem filter_isAuto_eq_nil (h : ¬T.autoKey.isSome = true) : T.indices.filter T.isAuto = [] :=
  List.filter_eq_nil_iff.mpr fun _ _ hi ↦ h (T.autoKey_isSome hi)

theorem primaryNames_perm (h : T.autoKey.isSome = false) :
    (primaryNames T).Perm (T.primaryIndices.map T.column) := by
  have hnodup : (T.primaryIndices.map T.column).Nodup := by
    rw [DiscreteClass.primaryIndices, h]
    exact (T.nodup_indices.filter _).map T.column_injective
  have hnames : primaryNames T = StringSet.addAll [] (T.keyIndices.map T.column) := by
    rw [primaryNames, h]
    rfl
  refine (List.perm_ext_iff_of_nodup ?_ hnodup).mpr fun name ↦ ?_
  · rw [hnames]
    exact StringSet.nodup_addAll .nil _
  · rw [mem_primaryNames_iff, and_iff_right h, List.mem_map]

/-- The column that SQLite takes for the number of the row. -/
theorem rowidColumn_eq :
    SqlTable.rowidColumn (T.indices.map (columnDefinition T))
        (if primaryNames T = [] then [] else [(primaryNames T).map foldCase])
      = (rowidIndex T).map T.folded := by
  have hfilter : (T.indices.map (columnDefinition T)).filter (fun c ↦ c.autoIncrement)
      = (T.indices.filter T.isAuto).map (columnDefinition T) := List.filter_map
  unfold SqlTable.rowidColumn
  rw [hfilter]
  by_cases hauto : T.autoKey.isSome = true
  · obtain ⟨i, hi⟩ := T.exists_isAuto hauto
    rw [T.filter_isAuto hi, rowidIndex_of_isAuto T hi]
    rfl
  · have hnone := filter_isAuto_eq_nil T hauto
    rw [Bool.not_eq_true] at hauto
    have hperm := primaryNames_perm T hauto
    have hindex {i : T.Index} (h : T.primaryIndices = [i]) :
        rowidIndex T = if (T.member i).type.numeric then some i else none := by
      rw [rowidIndex, h]
    rw [hnone, List.map_nil]
    rcases hprimary : T.primaryIndices with _ | ⟨i, _ | ⟨j, rest⟩⟩
    · rw [hprimary] at hperm
      rw [hperm.eq_nil, rowidIndex, hprimary]
      rfl
    · rw [hprimary] at hperm
      have hcomparable : (T.member i).type.comparable = true :=
        comparable_of_mem_primaryIndices T (by rw [hprimary]; exact List.mem_singleton.mpr rfl)
      rw [List.perm_singleton.mp hperm, if_neg (List.cons_ne_nil _ _)]
      have hany : (T.indices.map (columnDefinition T)).any (fun c ↦
            foldCase c.name = T.folded i && SqlTable.isIntegerType c)
          = (T.member i).type.numeric := by
        rw [Bool.eq_iff_iff, List.any_eq_true]
        constructor
        · rintro ⟨c, hc, htest⟩
          obtain ⟨j, -, rfl⟩ := List.mem_map.mp hc
          obtain ⟨hname, hinteger⟩ := (Bool.and_eq_true _ _).mp htest
          obtain rfl := T.folded_injective (of_decide_eq_true hname)
          rwa [isIntegerType_columnDefinition T hcomparable] at hinteger
        · intro hnumeric
          refine ⟨_, List.mem_map_of_mem (T.mem_indices i), (Bool.and_eq_true _ _).mpr ⟨?_, ?_⟩⟩
          · exact decide_eq_true rfl
          · rwa [isIntegerType_columnDefinition T hcomparable]
      change (if (T.indices.map (columnDefinition T)).any (fun c ↦
            foldCase c.name = T.folded i && SqlTable.isIntegerType c) = true then
          some (T.folded i) else none) = _
      rw [hany, hindex hprimary]
      split_ifs <;> rfl
    · have hlength := hperm.length_eq
      rw [hprimary] at hlength
      rcases hnames : primaryNames T with _ | ⟨name, _ | ⟨name', names⟩⟩
      · rw [hnames] at hlength
        cases hlength
      · rw [hnames] at hlength
        simp at hlength
      · rw [if_neg (List.cons_ne_nil _ _), rowidIndex, hprimary]
        rfl

/-- **The table of a class.** What SQLite makes of the definition is the table without objects. -/
theorem define_tableElements (allocated : Bool) :
    SqlTable.define (tableElements T) = some (sqlTable T ([] : List (T.Object allocated)) 0) := by
  have hdefs : (tableElements T).filterMap TableElement.column?
      = T.indices.map (columnDefinition T) := by
    rw [tableElements_eq, List.filterMap_append, List.filterMap_map]
    have hcolumns : T.indices.filterMap (TableElement.column? ∘
        fun i ↦ TableElement.column (columnDefinition T i))
          = T.indices.map (columnDefinition T) :=
      congrFun List.filterMap_eq_map T.indices
    rw [hcolumns]
    split_ifs
    · rw [List.filterMap_nil, List.append_nil]
    · exact List.append_nil _
  have hkeys : (tableElements T).filterMap TableElement.primaryKey?
      = if primaryNames T = [] then [] else [(primaryNames T).map foldCase] := by
    rw [tableElements_eq, List.filterMap_append, List.filterMap_map]
    have hcolumns : T.indices.filterMap (TableElement.primaryKey? ∘
        fun i ↦ TableElement.column (columnDefinition T i)) = [] :=
      List.filterMap_eq_nil_iff.mpr fun _ _ ↦ rfl
    rw [hcolumns]
    split_ifs <;> rfl
  have hgroups : (tableElements T).filterMap TableElement.unique? = [] := by
    rw [tableElements_eq]
    refine List.filterMap_eq_nil_iff.mpr fun e he ↦ ?_
    obtain he | he := List.mem_append.mp he
    · obtain ⟨i, -, rfl⟩ := List.mem_map.mp he
      rfl
    · split_ifs at he
      · cases he
      · obtain rfl := List.mem_singleton.mp he
        rfl
  have hnames : (T.indices.map (columnDefinition T)).map (fun c ↦ foldCase c.name)
      = T.indices.map T.folded := List.map_map
  have hauto : (T.indices.map (columnDefinition T)).filter (fun c ↦ c.autoIncrement)
      = (T.indices.filter T.isAuto).map (columnDefinition T) := List.filter_map
  have hnil : T.indices.map T.folded ≠ [] := by
    obtain ⟨i, -⟩ := T.inserted
    exact List.ne_nil_of_mem (List.mem_map_of_mem (T.mem_indices i))
  have hnodup : (T.indices.map T.folded).Nodup := T.nodup_indices.map T.folded_injective
  have hlength : ((T.indices.filter T.isAuto).map (columnDefinition T)).length
      + (if primaryNames T = [] then [] else [(primaryNames T).map foldCase]).length ≤ 1 := by
    by_cases h : T.autoKey.isSome = true
    · obtain ⟨i, hi⟩ := T.exists_isAuto h
      rw [T.filter_isAuto hi, primaryNames, if_pos h]
      exact le_refl 1
    · rw [filter_isAuto_eq_nil T h]
      split_ifs
      · exact Nat.zero_le 1
      · exact le_refl 1
  have hinteger : ((T.indices.filter T.isAuto).map (columnDefinition T)).all
      SqlTable.isIntegerType = true := by
    refine List.all_eq_true.mpr fun c hc ↦ ?_
    obtain ⟨i, hi, rfl⟩ := List.mem_map.mp hc
    have hnumeric := T.numeric i (List.mem_filter.mp hi).2
    rw [isIntegerType_columnDefinition T (comparable_of_numeric hnumeric), hnumeric]
  have hgroup : ((if primaryNames T = [] then [] else [(primaryNames T).map foldCase]) ++ []).all
      (fun group ↦ group.all fun name ↦ name ∈ T.indices.map T.folded) = true := by
    rw [List.append_nil]
    split_ifs
    · rfl
    · refine List.all_eq_true.mpr fun group hgroup ↦ List.all_eq_true.mpr fun c hc ↦ ?_
      rw [List.mem_singleton.mp hgroup] at hc
      obtain ⟨name, hname, rfl⟩ := List.mem_map.mp hc
      obtain ⟨-, i, -, rfl⟩ := (mem_primaryNames_iff T).mp hname
      exact decide_eq_true (List.mem_map_of_mem (T.mem_indices i))
  have hcolumns : (T.indices.map (columnDefinition T)).map
      (fun c ↦ (foldCase c.name, Sql.affinity c.typeName))
        = T.indices.map fun i ↦ (T.folded i, (T.member i).type.discreteType.affinity) :=
    List.map_map
  have hsome : decide ((T.indices.filter T.isAuto).map (columnDefinition T) ≠ [])
      = T.autoKey.isSome := by
    by_cases h : T.autoKey.isSome = true
    · obtain ⟨i, hi⟩ := T.exists_isAuto h
      rw [T.filter_isAuto hi, h]
      rfl
    · rw [filter_isAuto_eq_nil T h, (Bool.not_eq_true _).mp h]
      rfl
  have hnull : (T.indices.map (columnDefinition T)).filter (fun c ↦ c.notNull) = [] := by
    refine List.filter_eq_nil_iff.mpr fun c hc ↦ ?_
    obtain ⟨i, -, rfl⟩ := List.mem_map.mp hc
    exact Bool.false_ne_true
  unfold SqlTable.define
  simp only [hdefs, hkeys, hgroups, hnames, hauto]
  rw [if_pos ⟨hnil, hnodup, hlength, hinteger, hgroup⟩, rowidColumn_eq, hcolumns, hsome, hnull,
    List.append_nil]
  rfl

end

end Ormpp
