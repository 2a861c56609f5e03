import Ormpp.Store.Table

/-!
# Objects with numbers

What the statements of a class do to the objects in its table. An insert numbers an object whose
class has an auto key, and leaves it out if its primary key is there; a replace takes away the
object that has it; an update puts an object in the place of all that have its keys.
-/

namespace Ormpp

open Sql hiding isBlank
open Sqlite (FieldKept)

/-! ## Numbers -/

/-- The value of a field that is bound as the given number. -/
def DiscreteField.ofNumber (n : ℤ) : (f : DiscreteField) → Option f.Value
  | .value (.number t) =>
    if Sqlite.bindNumber (Number.ofInt t n) = .integer n then some (Number.ofInt t n) else none
  | _ => none

theorem setParamBind_ofNumber {allocated : Bool} {n : ℤ} {f : DiscreteField} {v : f.Value}
    (h : f.ofNumber n = some v) : Sqlite.setParamBind allocated f v = .integer n := by
  obtain (t | _ | N | _) | t := f
  · rw [DiscreteField.ofNumber] at h
    split_ifs at h with hbound
    cases h
    exact hbound
  all_goals cases h

theorem fieldKept_ofNumber {allocated : Bool} {n : ℤ} {f : DiscreteField} {v : f.Value}
    (h : f.ofNumber n = some v) : FieldKept allocated f v := by
  obtain (t | _ | N | _) | t := f
  · rw [DiscreteField.ofNumber] at h
    split_ifs at h with hbound
    cases h
    refine (Sqlite.readNumber_eq_iff _).mp ?_
    have hcell := Sqlite.bindNumber_eq (Number.ofInt t n)
    rw [hbound] at hcell
    rw [Sqlite.readNumber_bindNumber, ← Sqlite.Cell.integer.inj hcell]
  all_goals cases h

/-- Numbers that are bound are those of SQLite. -/
theorem lt_of_ofNumber {n : ℤ} {f : DiscreteField} {v : f.Value} (h : f.ofNumber n = some v) :
    n < 2 ^ 63 := by
  obtain (t | _ | N | _) | t := f
  · rw [DiscreteField.ofNumber] at h
    split_ifs at h with hbound
    have hle : Sqlite.boundBits t ≤ 64 := by
      obtain t | t := t
      · rw [Sqlite.boundBits]
        split_ifs <;> decide
      · exact Nat.le_of_ble_eq_true rfl
    have hcell := Sqlite.bindNumber_eq (Number.ofInt t n)
    rw [hbound] at hcell
    rw [Sqlite.Cell.integer.inj hcell]
    exact ((Cast.fitsSigned_toSigned (Nat.zero_lt_of_lt (Sqlite.one_lt_boundBits t))).mono hle).2
  all_goals cases h

section

variable {allocated : Bool}

/-- The object with a number for its value in one member, if there is such a value. -/
def DiscreteClass.Object.numbered {T : DiscreteClass} (x : T.Object allocated) (i : T.Index)
    (n : ℤ) : Option (T.Object allocated) :=
  match h : (T.member i).type.ofNumber n with
  | none => none
  | some v =>
    some
      { value := Function.update x.value i v
        kept := by
          intro j
          by_cases hj : j = i
          · subst hj
            rw [Function.update_self]
            exact fieldKept_ofNumber h
          · rw [Function.update_of_ne hj]
            exact x.kept j }

theorem DiscreteClass.Object.ofNumber_of_numbered {T : DiscreteClass} {x x' : T.Object allocated}
    {i : T.Index} {n : ℤ} (h : x.numbered i n = some x') :
    ∃ v, (T.member i).type.ofNumber n = some v := by
  rw [DiscreteClass.Object.numbered] at h
  split at h
  · cases h
  · rename_i v hv
    exact ⟨v, hv⟩

theorem DiscreteClass.Object.cell_numbered {T : DiscreteClass} {x x' : T.Object allocated}
    {i : T.Index} {n : ℤ} (h : x.numbered i n = some x') :
    x'.cell = Function.update x.cell i (.integer n) := by
  rw [DiscreteClass.Object.numbered] at h
  split at h
  · cases h
  · rename_i v hv
    cases h
    funext j
    change Sqlite.setParamBind allocated _ (Function.update x.value i v j) = _
    by_cases hj : j = i
    · subst hj
      rw [Function.update_self, Function.update_self]
      exact setParamBind_ofNumber hv
    · rw [Function.update_of_ne hj, Function.update_of_ne hj]
      rfl

end

/-! ## Tables of objects -/

/-- The member that the rows are numbered by. -/
def DiscreteClass.autoIndex (T : DiscreteClass) : Option T.Index := T.indices.find? T.isAuto

theorem StoredClass.autoIndex_eq_some_iff (T : StoredClass) {i : T.Index} :
    T.autoIndex = some i ↔ T.isAuto i = true := by
  constructor
  · exact fun h ↦ List.find?_some h
  · intro h
    obtain ⟨j, hj⟩ := Option.isSome_iff_exists.mp
      (List.find?_isSome.mpr ⟨i, T.mem_indices i, h⟩)
    rw [DiscreteClass.autoIndex, hj, T.eq_of_isAuto (List.find?_some hj) h]

theorem DiscreteClass.autoIndex_eq_none_iff (T : DiscreteClass) :
    T.autoIndex = none ↔ ∀ i, T.isAuto i = false := by
  rw [DiscreteClass.autoIndex, List.find?_eq_none]
  exact ⟨fun h i ↦ (Bool.not_eq_true _).mp (h i (T.mem_indices i)), fun h i _ ↦ by simp [h i]⟩

/-- The number of the object's row, if a member has it. -/
def StoredClass.number (T : StoredClass) {allocated : Bool} (x : T.Object allocated) : Option ℤ :=
  (rowidIndex T).bind fun i ↦ (x.cell i).integer?

/-- The objects in the table of a class, no two of which have the same primary key. -/
@[ext]
structure ObjectTable (T : StoredClass) (allocated : Bool) where
  objects : Collection (primaryLikeness T.toDiscreteClass allocated)
  /-- The greatest number that was given to an object. -/
  last : ℤ

namespace ObjectTable

variable {T : StoredClass} {allocated : Bool} (t : ObjectTable T allocated)

def empty : ObjectTable T allocated := ⟨.empty, 0⟩

/-- One more than all numbers that are there or were given. -/
def next (i : T.Index) : ℤ :=
  (t.objects.items.filterMap fun x ↦ (x.cell i).integer?).foldl max t.last + 1

/-- The object as it is stored: an insert gives it the next number. -/
def prepared (insert : Bool) (x : T.Object allocated) : Option (T.Object allocated) :=
  match if insert then T.autoIndex else none with
  | some i => x.numbered i (t.next i)
  | none => some x

/-- The object behind the others, where `replace` says that one with its primary key gives way. -/
def put (replace : Bool) (x : T.Object allocated) : Option (ObjectTable T allocated) :=
  (t.objects.put replace x).map fun objects ↦
    { objects := objects
      last := if T.autoKey.isSome then max t.last ((T.number x).getD t.last) else t.last }

/-- The objects that have the keys of the given one. -/
def found (x : T.Object allocated) : List (T.Object allocated) :=
  t.objects.items.filter fun y ↦ y.SameOn T.keyIndices x

/-- The object in the place of those that have its keys. -/
def update (x : T.Object allocated) : Option (ObjectTable T allocated) :=
  (t.objects.substitute (fun y ↦ y.SameOn T.keyIndices x) x).map fun objects ↦
    { objects := objects
      last := t.last }

def erase (p : T.Object allocated → Bool) : ObjectTable T allocated :=
  { objects := t.objects.erase p
    last := t.last }

def toSql : SqlTable := sqlTable T t.objects.items t.last

end ObjectTable

/-! ## Rows that are stored -/

theorem Sql.Affinity.apply_null (a : Affinity) : a.apply .null = some .null := by
  cases a <;> rfl

section

variable {T : StoredClass} {allocated : Bool} {objects : List (T.Object allocated)} {last : ℤ}

/-- Values that their columns store as they are become the row that has them. -/
theorem storedRow_eq {given : SqlRow} {cells : T.Index → Sqlite.Cell}
    (hgiven : ∀ i, given (T.folded i) = cells i)
    (hcells : ∀ i, (T.member i).type.discreteType.affinity.apply (cells i) = some (cells i)) :
    (sqlTable T objects last).storedRow given = some (T.rowOf cells) := by
  have happlies : (sqlTable T objects last).columns.all
      (fun c ↦ (c.2.apply (given c.1)).isSome) = true := by
    refine List.all_eq_true.mpr fun c hc ↦ ?_
    obtain ⟨i, -, rfl⟩ := List.mem_map.mp hc
    rw [hgiven, hcells]
    rfl
  rw [SqlTable.storedRow, if_pos happlies, Option.some_inj]
  apply T.eq_rowOf
  · intro i
    have hlookup : (sqlTable T objects last).columns.lookup (T.folded i)
        = some (T.member i).type.discreteType.affinity :=
      lookup_map T.folded_injective (T.mem_indices i)
    rw [hlookup, Option.bind_some, hgiven, hcells]
    rfl
  · intro name hname
    have hlookup : (sqlTable T objects last).columns.lookup name = none :=
      lookup_map_eq_none fun i _ ↦ hname i
    rw [hlookup]
    rfl

theorem apply_cell (x : T.Object allocated) (i : T.Index) :
    (T.member i).type.discreteType.affinity.apply (x.cell i) = some (x.cell i) :=
  apply_setParamBind allocated _ _

/-- The row of an object has the number of the object. -/
theorem numbered_row (x : T.Object allocated) :
    (sqlTable T objects last).numbered x.row = some (x.row, T.number x) := by
  have hrowid : (sqlTable T objects last).rowid = (rowidIndex T).map T.folded := rfl
  rw [SqlTable.numbered, hrowid, StoredClass.number]
  cases hindex : rowidIndex T with
  | none => rfl
  | some i =>
    obtain ⟨n, hcell⟩ : ∃ n, x.cell i = .integer n :=
      exists_integer_of_numeric ((rowidIndex_eq_some_iff T).mp hindex).2 (x.value i)
    rw [Option.map_some, Option.bind_some]
    simp only [x.row_folded, hcell]
    rfl

/-- The cells of the columns that a statement names. -/
def namedCells (insert : Bool) (x : T.Object allocated) (i : T.Index) : Sqlite.Cell :=
  if i ∈ T.statementIndices insert then x.cell i else .null

theorem apply_namedCells (insert : Bool) (x : T.Object allocated) (i : T.Index) :
    (T.member i).type.discreteType.affinity.apply (namedCells insert x i)
      = some (namedCells insert x i) := by
  rw [namedCells]
  split_ifs
  · exact apply_cell x i
  · exact Affinity.apply_null _

theorem mem_statementIndices {insert : Bool} {i : T.Index} :
    i ∈ T.statementIndices insert ↔ (insert && T.isAuto i) = false := by
  rw [DiscreteClass.statementIndices, List.mem_filter, and_iff_right (T.mem_indices i),
    Bool.not_eq_true']

theorem storedRow_named (insert : Bool) (x : T.Object allocated) :
    (sqlTable T objects last).storedRow (fun c ↦
        (((((T.statementIndices insert).map T.column).map foldCase).zip
          ((T.statementIndices insert).map x.cell)).lookup c).getD .null)
      = some (T.rowOf (namedCells insert x)) := by
  have hzip : (((T.statementIndices insert).map T.column).map foldCase).zip
        ((T.statementIndices insert).map x.cell)
      = (T.statementIndices insert).map fun i ↦ (T.folded i, x.cell i) := by
    rw [List.map_map, List.zip_map']
    rfl
  rw [hzip]
  refine storedRow_eq (fun i ↦ ?_) (apply_namedCells insert x)
  rw [namedCells]
  split_ifs with hi
  · rw [lookup_map T.folded_injective hi]
    rfl
  · rw [lookup_map_eq_none fun j hj hname ↦ ?_]
    · rfl
    · rw [T.folded_injective hname] at hj
      exact hi hj

end

/-! ## Inserts -/

namespace ObjectTable

section

variable {T : StoredClass} {allocated : Bool} {t : ObjectTable T allocated}

/-- The next number of a row is the next number of an object. -/
theorem nextRowid_toSql {i : T.Index} (hauto : T.isAuto i = true) {n : ℤ} (hn : t.next i = n)
    (hlimit : n < 2 ^ 63) : t.toSql.nextRowid (T.folded i) = some n := by
  have hused : t.toSql.rows.filterMap (fun row ↦ (row (T.folded i)).integer?)
      = t.objects.items.filterMap fun x ↦ (x.cell i).integer? := by
    change (t.objects.items.map DiscreteClass.Object.row).filterMap _ = _
    rw [List.filterMap_map]
    congr 1
    funext x
    exact congrArg Sqlite.Cell.integer? (x.row_folded i)
  have hautoIncrement : t.toSql.autoIncrement = true := T.autoKey_isSome hauto
  have hlast : t.toSql.last = t.last := rfl
  rw [SqlTable.nextRowid, hused, hautoIncrement, hlast, if_pos rfl, List.max?_cons',
    Option.map_some, Option.getD_some]
  change (if t.next i < 2 ^ 63 then some (t.next i) else none) = some n
  rw [hn, if_pos hlimit]

/-- The row that is stored is that of the object with its number. -/
theorem numbered_namedCells {insert : Bool} {x x' : T.Object allocated}
    (h : t.prepared insert x = some x') :
    t.toSql.numbered (T.rowOf (namedCells insert x)) = some (x'.row, T.number x') := by
  have hstored (hall : ∀ i, (insert && T.isAuto i) = false) (hx : x = x') :
      t.toSql.numbered (T.rowOf (namedCells insert x)) = some (x'.row, T.number x') := by
    have hcells : namedCells insert x = x.cell := by
      funext i
      rw [namedCells, if_pos (mem_statementIndices.mpr (hall i))]
    rw [hcells, hx]
    exact numbered_row x'
  rw [prepared] at h
  cases insert with
  | false =>
    rw [if_neg Bool.false_ne_true] at h
    exact hstored (fun _ ↦ rfl) (Option.some_inj.mp h)
  | true =>
    rw [if_pos rfl] at h
    cases hauto : T.autoIndex with
    | none =>
      rw [hauto] at h
      exact hstored (T.autoIndex_eq_none_iff.mp hauto) (Option.some_inj.mp h)
    | some i =>
      rw [hauto] at h
      have hi := T.autoIndex_eq_some_iff.mp hauto
      have hcell := DiscreteClass.Object.cell_numbered h
      -- the number is missing in the row, and is given to it
      have hcells : namedCells true x = Function.update x.cell i .null := by
        funext j
        by_cases hj : j = i
        · rw [hj, Function.update_self, namedCells, if_neg]
          rw [mem_statementIndices, hi]
          exact Bool.noConfusion
        · have hother : T.isAuto j = false :=
            (Bool.not_eq_true _).mp fun h ↦ hj (T.eq_of_isAuto h hi)
          rw [Function.update_of_ne hj, namedCells, if_pos]
          rw [mem_statementIndices, hother]
          rfl
      have hnumber : T.number x' = some (t.next i) := by
        rw [StoredClass.number, rowidIndex_of_isAuto T hi, Option.bind_some, hcell,
          Function.update_self]
        rfl
      have hrow : x'.row = T.rowOf (Function.update x.cell i (.integer (t.next i))) :=
        congrArg T.rowOf hcell
      obtain ⟨v, hv⟩ := DiscreteClass.Object.ofNumber_of_numbered h
      have hrowid : t.toSql.rowid = some (T.folded i) := by
        change (rowidIndex T).map T.folded = _
        rw [rowidIndex_of_isAuto T hi]
        rfl
      rw [hcells, SqlTable.numbered, hrowid, hnumber, hrow]
      simp only [T.rowOf_folded, Function.update_self, nextRowid_toSql hi rfl (lt_of_ofNumber hv),
        Option.map_some, T.update_rowOf, Function.update_idem]

/-- The row of an object is put behind the others as the object is. -/
theorem insertRow_toSql (replace : Bool) (x : T.Object allocated) :
    t.toSql.insertRow replace x.row (T.number x) = (t.put replace x).map toSql := by
  have hcollides (y : T.Object allocated) : t.toSql.Collides x.row y.row ↔
      (primaryLikeness T.toDiscreteClass allocated).Same x y := collides_iff x y
  have hadmits : t.toSql.Admits x.row := fun c hc ↦ nomatch hc
  have hfree : (∀ row ∈ t.toSql.rows, ¬t.toSql.Collides x.row row) ↔
      ∀ y ∈ t.objects.items, ¬(primaryLikeness T.toDiscreteClass allocated).Same x y := by
    change (∀ row ∈ t.objects.items.map DiscreteClass.Object.row, _) ↔ _
    rw [List.forall_mem_map]
    exact forall₂_congr fun y _ ↦ not_congr (hcollides y)
  have hkept : t.toSql.rows.filter (fun row ↦ ¬t.toSql.Collides x.row row) ++ [x.row]
      = ((t.objects.items.filter fun y ↦
          ¬(primaryLikeness T.toDiscreteClass allocated).Same x y) ++ [x]).map
            DiscreteClass.Object.row := by
    change (t.objects.items.map DiscreteClass.Object.row).filter _ ++ _ = _
    rw [List.filter_map, List.map_append]
    congr 3
    funext y
    exact decide_eq_decide.mpr (not_congr (hcollides y))
  by_cases hput : replace = true ∨
      ∀ y ∈ t.objects.items, ¬(primaryLikeness T.toDiscreteClass allocated).Same x y
  · rw [SqlTable.insertRow, if_pos ⟨hadmits, hput.imp_right hfree.mpr⟩, put, Collection.put,
      if_pos hput, hkept]
    rfl
  · rw [SqlTable.insertRow, if_neg fun h ↦ hput (h.2.imp_right hfree.mp), put, Collection.put,
      if_neg hput]
    rfl

/-- **The insert of an object.** The statement puts the object behind the others, with its number,
or fails where the object is not to be put there. -/
theorem insert_toSql {insert : Bool} {x x' : T.Object allocated}
    (h : t.prepared insert x = some x') :
    t.toSql.insert (!insert) ((T.statementIndices insert).map T.column)
        ((T.statementIndices insert).map x.cell)
      = (t.put (!insert) x').map fun t' ↦ (t'.toSql, T.number x') := by
  have hlength : (((T.statementIndices insert).map T.column).map foldCase).length
      = ((T.statementIndices insert).map x.cell).length := by
    rw [List.length_map, List.length_map, List.length_map]
  have hnodup : (((T.statementIndices insert).map T.column).map foldCase).Nodup := by
    rw [List.map_map]
    exact (T.nodup_indices.filter _).map T.folded_injective
  have hstored : t.toSql.storedRow (fun c ↦
        (((((T.statementIndices insert).map T.column).map foldCase).zip
          ((T.statementIndices insert).map x.cell)).lookup c).getD .null)
      = some (T.rowOf (namedCells insert x)) := storedRow_named insert x
  rw [SqlTable.insert]
  simp only [hlength, hnodup, and_self, if_true, hstored, numbered_namedCells h,
    Option.bind_eq_bind, Option.bind_some, insertRow_toSql]
  cases t.put (!insert) x' <;> rfl

end

/-! ## Rows that are found -/

section

variable {T : StoredClass} {allocated : Bool} {t : ObjectTable T allocated}
  {test : SqlRow → Option Bool} {p : T.Object allocated → Bool}

theorem split_toSql (h : ∀ y ∈ t.objects.items, test y.row = some (p y)) :
    t.toSql.split test
      = some ((t.objects.items.filter p).map DiscreteClass.Object.row,
          (t.objects.items.filter (!p ·)).map DiscreteClass.Object.row) := by
  have hall : t.toSql.rows.all (fun row ↦ (test row).isSome) = true := by
    refine List.all_eq_true.mpr fun row hrow ↦ ?_
    obtain ⟨y, hy, rfl⟩ := List.mem_map.mp hrow
    rw [h y hy]
    rfl
  have hfound : t.toSql.rows.filter (fun row ↦ test row = some true)
      = (t.objects.items.filter p).map DiscreteClass.Object.row := by
    change (t.objects.items.map DiscreteClass.Object.row).filter _ = _
    rw [List.filter_map]
    refine congrArg _ (List.filter_congr fun y hy ↦ ?_)
    rw [Function.comp_apply, h y hy]
    cases p y <;> rfl
  have hkept : t.toSql.rows.filter (fun row ↦ ¬test row = some true)
      = (t.objects.items.filter (!p ·)).map DiscreteClass.Object.row := by
    change (t.objects.items.map DiscreteClass.Object.row).filter _ = _
    rw [List.filter_map]
    refine congrArg _ (List.filter_congr fun y hy ↦ ?_)
    rw [Function.comp_apply, h y hy]
    cases p y <;> rfl
  rw [SqlTable.split, if_pos hall, hfound, hkept]

/-- **The deletion of objects.** The objects that a condition finds are gone. -/
theorem delete_toSql (h : ∀ y ∈ t.objects.items, test y.row = some (p y)) :
    t.toSql.delete test = some ((t.erase p).toSql, (t.objects.items.filter p).length) := by
  rw [SqlTable.delete, split_toSql h]
  simp only [Option.bind_eq_bind, Option.bind_some, List.length_map]
  rfl

/-- A row whose columns are all given values is the row of the object with these values. -/
theorem assign_toSql {assignments : List (Bytes × (SqlRow → Option Sqlite.Cell))}
    {x : T.Object allocated} {row : SqlRow}
    (hvalues : assignments.mapM (fun a ↦ (a.2 row).map fun v ↦ (foldCase a.1, v))
      = some (T.indices.map fun i ↦ (T.folded i, x.cell i))) :
    t.toSql.assign assignments row = some x.row := by
  have hstored : t.toSql.storedRow (fun c ↦
        ((T.indices.map fun i ↦ (T.folded i, x.cell i)).lookup c).getD (row c))
      = some x.row := by
    refine storedRow_eq (fun i ↦ ?_) (apply_cell x)
    rw [lookup_map T.folded_injective (T.mem_indices i)]
    rfl
  have hrowid : t.toSql.rowid = (rowidIndex T).map T.folded := rfl
  rw [SqlTable.assign, hvalues]
  simp only [Option.bind_eq_bind, Option.bind_some, hstored, hrowid]
  cases hindex : rowidIndex T with
  | none => rfl
  | some i =>
    obtain ⟨n, hcell⟩ : ∃ n, x.cell i = .integer n :=
      exists_integer_of_numeric ((rowidIndex_eq_some_iff T).mp hindex).2 (x.value i)
    simp only [Option.map_some, x.row_folded, hcell]

/-- **The update of an object.** It is put in the place of all objects that have its keys, unless
two objects would have the same primary key then. -/
theorem update_toSql {assignments : List (Bytes × (SqlRow → Option Sqlite.Cell))}
    {x : T.Object allocated}
    (hvalues : ∀ row, assignments.mapM (fun a ↦ (a.2 row).map fun v ↦ (foldCase a.1, v))
      = some (T.indices.map fun i ↦ (T.folded i, x.cell i)))
    (h : ∀ y ∈ t.objects.items, test y.row = some (decide (y.SameOn T.keyIndices x))) :
    t.toSql.update assignments test
      = (t.update x).map fun t' ↦ (t'.toSql, (t.found x).length) := by
  let items := t.objects.items.map fun y ↦ if decide (y.SameOn T.keyIndices x) then x else y
  have hrow : ∀ y ∈ t.objects.items,
      (if test y.row = some true then t.toSql.assign assignments y.row else some y.row)
        = some (if decide (y.SameOn T.keyIndices x) then x else y).row := by
    intro y hy
    rw [h y hy, assign_toSql (hvalues y.row)]
    cases decide (y.SameOn T.keyIndices x) <;> rfl
  have hrows : t.toSql.rows.mapM (fun row ↦
        if test row = some true then t.toSql.assign assignments row else some row)
      = some (items.map DiscreteClass.Object.row) := by
    rw [List.map_map]
    change (t.objects.items.map DiscreteClass.Object.row).mapM _ = _
    rw [List.mapM_map]
    exact mapM_eq_some hrow
  have hadmits : ∀ row ∈ items.map DiscreteClass.Object.row, t.toSql.Admits row :=
    fun _ _ c hc ↦ nomatch hc
  have hdistinct : (items.map DiscreteClass.Object.row).Pairwise
        (fun row row' ↦ ¬t.toSql.Collides row row') ↔
      items.Pairwise fun y z ↦ ¬(primaryLikeness T.toDiscreteClass allocated).Same y z := by
    rw [List.pairwise_map]
    exact List.Pairwise.iff fun y z ↦ not_congr (collides_iff y z)
  rw [SqlTable.update, split_toSql h]
  simp only [Option.bind_eq_bind, Option.bind_some, hrows, List.length_map]
  by_cases hpair : items.Pairwise fun y z ↦
      ¬(primaryLikeness T.toDiscreteClass allocated).Same y z
  · rw [if_pos ⟨hadmits, hdistinct.mpr hpair⟩, update, Collection.substitute, dif_pos hpair]
    rfl
  · rw [if_neg fun h ↦ hpair (hdistinct.mp h.2), update, Collection.substitute, dif_neg hpair]
    rfl

end

end ObjectTable

end Ormpp
