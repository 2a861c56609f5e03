import Mathlib.Data.List.Forall2
import Mathlib.Data.List.GetD
import Ormpp.Codec.MysqlAsync
import Ormpp.Data.Effect
import Ormpp.Wire.Packet

/-!
# Rows that become tuples

The columns of a row are dealt out to the elements of a tuple from left to right: a scalar takes one
of them, and a reflected struct as many as it has members. What is made of a column is the matter of
a codec, of which nothing is known here: it can fail for any text, and the loop goes on no further
then.

`Values` are the values of several types, and `tupleCells` are those of a tuple in one row.
-/

namespace Ormpp

open Effect

/-! ## Types and values -/

/-- What the mapping of a row can throw: the exceptions for the number of columns, and those for the
text of a column. -/
inductive RowExn (ε : Type)
  | columnCount (what : Bytes)
  | value (e : ε)

/-- The types of fields, with `assign_text_value` for each. -/
structure RowCodec (τ ε : Type) where
  Value : τ → Type
  assignTextValue : (t : τ) → Option Bytes → Except ε (Value t)

/-- One value for each type of a list. -/
inductive Values {τ : Type} (Value : τ → Type) : List τ → Type
  | nil : Values Value []
  | cons {t : τ} {ts : List τ} (value : Value t) (values : Values Value ts) :
    Values Value (t :: ts)

/-- The values in order, each with its type. -/
def Values.cells {τ : Type} {Value : τ → Type} :
    {ts : List τ} → Values Value ts → List (Sigma Value)
  | _, .nil => []
  | _, .cons value values => ⟨_, value⟩ :: values.cells

/-- An element of a tuple. -/
inductive TupleItem (τ : Type)
  | scalar (t : τ)
  | reflected (members : List τ)

variable {τ ε : Type} (codec : RowCodec τ ε)

namespace TupleItem

@[reducible] def Value : TupleItem τ → Type
  | scalar t => codec.Value t
  | reflected members => Values codec.Value members

/-- The columns that the element takes. -/
def columns : TupleItem τ → ℕ
  | scalar _ => 1
  | reflected members => members.length

def cells : (item : TupleItem τ) → item.Value codec → List (Sigma codec.Value)
  | scalar t, value => [⟨t, value⟩]
  | reflected _, values => values.cells

end TupleItem

/-- The values of a tuple, those of its structs member by member. -/
def tupleCells : {items : List (TupleItem τ)} → Values (TupleItem.Value codec) items →
    List (Sigma codec.Value)
  | _, .nil => []
  | item :: _, .cons value values => item.cells codec value ++ tupleCells values

/-- The number of columns that a tuple takes. -/
def totalColumns (items : List (TupleItem τ)) : ℕ := (items.map TupleItem.columns).sum

/-! ## The mapping -/

/-- The difference of two values of type `std::size_t`. -/
def sizeSub (a b : ℕ) : ℕ := if b ≤ a then a - b else 2 ^ 64 - (b - a)

/-- `assign_text_value`. -/
def RowCodec.assign (t : τ) (field : Option Bytes) : Except (RowExn ε) (codec.Value t) :=
  match codec.assignTextValue t field with
  | .ok value => .ok value
  | .error e => .error (.value e)

/-- The loop of `map_reflectable_row`, from a member and an index on. -/
def mapMembers (row : TextRow) :
    (members : List τ) → ℕ → Except (RowExn ε) (Values codec.Value members)
  | [], _ => .ok .nil
  | t :: members, index =>
    if index ≥ row.length then
      .error (.columnCount (ascii "mysql_async: row column count mismatch"))
    else do
      let value ← codec.assign t (row.getD index none)
      let values ← mapMembers row members (index + 1)
      .ok (.cons value values)

/-- `map_reflectable_row`. -/
def mapReflectableRow (members : List τ) (row : TextRow) :
    Except (RowExn ε) (Values codec.Value members) := mapMembers codec row members 0

def tupleMismatch : RowExn ε := .columnCount (ascii "mysql_async: tuple column count mismatch")

/-- What `map_tuple_row_impl` does for an element, with the column that it has come to. -/
def mapItem (row : TextRow) :
    (item : TupleItem τ) → ℕ → Except (RowExn ε) (item.Value codec × ℕ)
  | .reflected members, col =>
    if sizeSub row.length col < members.length then .error tupleMismatch
    else do
      let values ← mapReflectableRow codec members ((row.drop col).take members.length)
      .ok (values, col + members.length)
  | .scalar t, col =>
    if col ≥ row.length then .error tupleMismatch
    else do
      let value ← codec.assign t (row.getD col none)
      .ok (value, col + 1)

/-- The elements one after the other. -/
def mapItems (row : TextRow) : (items : List (TupleItem τ)) → ℕ →
    Except (RowExn ε) (Values (TupleItem.Value codec) items × ℕ)
  | [], col => .ok (.nil, col)
  | item :: items, col => do
    let (value, col) ← mapItem codec row item col
    let (values, col) ← mapItems row items col
    .ok (.cons value values, col)

/-- `map_tuple_row_impl`. -/
def mapTupleRow (items : List (TupleItem τ)) (row : TextRow) :
    Except (RowExn ε) (Values (TupleItem.Value codec) items) := do
  let (values, col) ← mapItems codec row items 0
  if col ≠ row.length then .error tupleMismatch else .ok values

/-- The elements that the mapping comes to, with the column that it has then. -/
inductive Comes (row : TextRow) (items : List (TupleItem τ)) : List (TupleItem τ) → ℕ → Prop
  | start : Comes row items items 0
  | next {item : TupleItem τ} {rest : List (TupleItem τ)} {col col' : ℕ} {value : item.Value codec}
    (hcomes : Comes row items (item :: rest) col)
    (hitem : mapItem codec row item col = .ok (value, col')) : Comes row items rest col'

/-- A column has become a value. -/
def Assigned (field : Option Bytes) (cell : Sigma codec.Value) : Prop :=
  codec.assignTextValue cell.1 field = .ok cell.2

/-! ## Lengths -/

variable {codec}

theorem Values.length_cells {Value : τ → Type} {ts : List τ} (values : Values Value ts) :
    values.cells.length = ts.length := by
  induction values with
  | nil => rfl
  | cons value values ih => exact congrArg Nat.succ ih

theorem TupleItem.length_cells {item : TupleItem τ} (value : item.Value codec) :
    (item.cells codec value).length = item.columns := by
  obtain t | members := item
  · rfl
  · exact Values.length_cells value

theorem totalColumns_cons (item : TupleItem τ) (items : List (TupleItem τ)) :
    totalColumns (item :: items) = item.columns + totalColumns items := List.sum_cons

theorem length_tupleCells {items : List (TupleItem τ)}
    (values : Values (TupleItem.Value codec) items) :
    (tupleCells codec values).length = totalColumns items := by
  induction values with
  | nil => rfl
  | cons value values ih =>
    rw [tupleCells, List.length_append, TupleItem.length_cells, ih, totalColumns_cons]

/-! ## Columns -/

/-- The columns from one on are the values. -/
def AssignedFrom (row : TextRow) (col : ℕ) (cells : List (Sigma codec.Value)) : Prop :=
  List.Forall₂ (Assigned codec) ((row.drop col).take cells.length) cells

theorem AssignedFrom.le {row : TextRow} {col : ℕ} {cells : List (Sigma codec.Value)}
    (h : AssignedFrom row col cells) (hcol : col ≤ row.length) :
    col + cells.length ≤ row.length := by
  have hlength := h.length_eq
  rw [List.length_take, List.length_drop] at hlength
  omega

theorem assignedFrom_nil (row : TextRow) (col : ℕ) :
    AssignedFrom row col ([] : List (Sigma codec.Value)) := List.Forall₂.nil

theorem assignedFrom_cons_iff {row : TextRow} {col : ℕ} {cell : Sigma codec.Value}
    {cells : List (Sigma codec.Value)} (hcol : col < row.length) :
    AssignedFrom row col (cell :: cells)
      ↔ Assigned codec (row.getD col none) cell ∧ AssignedFrom row (col + 1) cells := by
  have hget : row.getD col none = row[col] := List.getD_eq_getElem _ _ hcol
  rw [AssignedFrom, List.drop_eq_getElem_cons hcol, List.length_cons, List.take_succ_cons,
    List.forall₂_cons, hget]
  rfl

theorem not_assignedFrom_cons {row : TextRow} {col : ℕ} {cell : Sigma codec.Value}
    {cells : List (Sigma codec.Value)} (hcol : row.length ≤ col) :
    ¬AssignedFrom row col (cell :: cells) := by
  rw [AssignedFrom, List.drop_eq_nil_of_le hcol, List.take_nil]
  exact nofun

theorem assignedFrom_append_iff {row : TextRow} {col : ℕ}
    {cells cells' : List (Sigma codec.Value)} :
    AssignedFrom row col (cells ++ cells')
      ↔ AssignedFrom row col cells ∧ AssignedFrom row (col + cells.length) cells' := by
  induction cells generalizing col with
  | nil => exact (and_iff_right (assignedFrom_nil row col)).symm
  | cons cell cells ih =>
    have hnext : col + 1 + cells.length = col + (cell :: cells).length := by
      rw [List.length_cons]
      omega
    by_cases hcol : col < row.length
    · rw [List.cons_append, assignedFrom_cons_iff hcol, assignedFrom_cons_iff hcol, ih, and_assoc,
        hnext]
    · have hle := Nat.le_of_not_lt hcol
      exact iff_of_false (not_assignedFrom_cons hle) fun h ↦ not_assignedFrom_cons hle h.1

/-! ## Elements -/

theorem assign_eq_ok_iff {t : τ} {field : Option Bytes} {value : codec.Value t} :
    codec.assign t field = .ok value ↔ Assigned codec field ⟨t, value⟩ := by
  rw [RowCodec.assign, Assigned]
  cases codec.assignTextValue t field with
  | ok value' => simp
  | error e => simp

/-- The members of a struct, from an index on. -/
theorem mapMembers_eq_ok_iff {row : TextRow} {members : List τ} {index : ℕ}
    {values : Values codec.Value members} :
    mapMembers codec row members index = .ok values ↔ AssignedFrom row index values.cells := by
  induction values generalizing index with
  | nil => exact iff_of_true rfl (assignedFrom_nil row index)
  | @cons t members value values ih =>
    rw [mapMembers, Values.cells]
    split_ifs with hend
    · exact iff_of_false nofun (not_assignedFrom_cons hend)
    · rw [assignedFrom_cons_iff (Nat.lt_of_not_le hend), ← ih, ← assign_eq_ok_iff]
      cases codec.assign t (row.getD index none) with
      | error e => exact iff_of_false nofun fun h ↦ absurd h.1 nofun
      | ok value' =>
        cases mapMembers codec row members (index + 1) with
        | error e => exact iff_of_false nofun fun h ↦ absurd h.2 nofun
        | ok values' => simp [bind, Except.bind]

theorem sizeSub_of_le {a b : ℕ} (h : b ≤ a) : sizeSub a b = a - b := if_pos h

/-- The slice of the row that a struct is mapped from. -/
theorem mapReflectableRow_slice_iff {row : TextRow} {members : List τ} {col : ℕ}
    {values : Values codec.Value members} :
    mapReflectableRow codec members ((row.drop col).take members.length) = .ok values
      ↔ AssignedFrom row col values.cells := by
  rw [mapReflectableRow, mapMembers_eq_ok_iff, AssignedFrom, AssignedFrom, Values.length_cells,
    List.drop_zero, List.take_take, Nat.min_self]

/-- An element takes its columns, if they are there. -/
theorem mapItem_eq_ok_iff {row : TextRow} {item : TupleItem τ} {col col' : ℕ}
    {value : item.Value codec} (hcol : col ≤ row.length) :
    mapItem codec row item col = .ok (value, col')
      ↔ AssignedFrom row col (item.cells codec value) ∧ col' = col + item.columns := by
  obtain t | members := item
  · rw [mapItem, TupleItem.cells, TupleItem.columns]
    split_ifs with hend
    · exact iff_of_false nofun fun h ↦ not_assignedFrom_cons hend h.1
    · rw [assignedFrom_cons_iff (Nat.lt_of_not_le hend), and_iff_left (assignedFrom_nil _ _),
        ← assign_eq_ok_iff]
      cases codec.assign t (row.getD col none) with
      | error e => exact iff_of_false nofun fun h ↦ absurd h.1 nofun
      | ok value' => simp [bind, Except.bind, eq_comm]
  · rw [mapItem, sizeSub_of_le hcol, TupleItem.cells, TupleItem.columns]
    split_ifs with hshort
    · refine iff_of_false nofun fun h ↦ ?_
      have hle := h.1.le hcol
      rw [Values.length_cells] at hle
      omega
    · rw [← mapReflectableRow_slice_iff]
      cases mapReflectableRow codec members ((row.drop col).take members.length) with
      | error e => exact iff_of_false nofun fun h ↦ absurd h.1 nofun
      | ok values' => simp [bind, Except.bind, eq_comm]

/-- The elements of a tuple, from a column on. -/
theorem mapItems_eq_ok_iff {row : TextRow} {items : List (TupleItem τ)} {col col' : ℕ}
    {values : Values (TupleItem.Value codec) items} (hcol : col ≤ row.length) :
    mapItems codec row items col = .ok (values, col')
      ↔ AssignedFrom row col (tupleCells codec values) ∧ col' = col + totalColumns items := by
  induction values generalizing col with
  | nil =>
    rw [mapItems, tupleCells, and_iff_right (assignedFrom_nil row col)]
    simp [totalColumns, eq_comm]
  | @cons item items value values ih =>
    rw [mapItems, tupleCells, assignedFrom_append_iff, totalColumns_cons, TupleItem.length_cells,
      ← add_assoc]
    constructor
    · intro h
      obtain ⟨⟨value', next⟩, hitem, h⟩ := except_bind_eq_ok h
      obtain ⟨⟨values', last⟩, hitems, h⟩ := except_bind_eq_ok h
      cases h
      obtain ⟨hassigned, rfl⟩ := (mapItem_eq_ok_iff hcol).mp hitem
      have hle := hassigned.le hcol
      rw [TupleItem.length_cells] at hle
      obtain ⟨hrest, hcol'⟩ := (ih hle).mp hitems
      exact ⟨⟨hassigned, hrest⟩, hcol'⟩
    · rintro ⟨⟨hassigned, hrest⟩, hcol'⟩
      have hle := hassigned.le hcol
      rw [TupleItem.length_cells] at hle
      have hitem := (mapItem_eq_ok_iff hcol).mpr ⟨hassigned, rfl⟩
      have hitems := (ih hle).mpr ⟨hrest, hcol'⟩
      rw [except_bind_of_ok hitem]
      exact except_bind_of_ok hitems

/-! ## Column counts -/

/-- The exception is one for the number of columns. -/
def RowExn.IsColumnCount : RowExn ε → Prop
  | columnCount _ => True
  | value _ => False

theorem not_isColumnCount_assign {t : τ} {field : Option Bytes} {e : RowExn ε}
    (h : codec.assign t field = .error e) : ¬e.IsColumnCount := by
  rw [RowCodec.assign] at h
  cases hfield : codec.assignTextValue t field with
  | ok value =>
    rw [hfield] at h
    exact absurd h nofun
  | error e' =>
    rw [hfield] at h
    cases h
    exact id

theorem not_isColumnCount_mapMembers {row : TextRow} {members : List τ} {index : ℕ} {e : RowExn ε}
    (hindex : index + members.length ≤ row.length)
    (h : mapMembers codec row members index = .error e) : ¬e.IsColumnCount := by
  induction members generalizing index with
  | nil => exact absurd h nofun
  | cons t members ih =>
    rw [List.length_cons] at hindex
    rw [mapMembers, if_neg (by omega)] at h
    obtain hvalue | ⟨value, -, h⟩ := except_bind_eq_error h
    · exact not_isColumnCount_assign hvalue
    · obtain hvalues | ⟨values, -, h⟩ := except_bind_eq_error h
      · exact ih (by omega) hvalues
      · exact absurd h nofun

/-- An element whose columns are there throws for their text only. -/
theorem not_isColumnCount_mapItem {row : TextRow} {item : TupleItem τ} {col : ℕ} {e : RowExn ε}
    (hcol : col + item.columns ≤ row.length) (h : mapItem codec row item col = .error e) :
    ¬e.IsColumnCount := by
  obtain t | members := item
  · rw [TupleItem.columns] at hcol
    rw [mapItem, if_neg (by omega)] at h
    obtain hvalue | ⟨value, -, h⟩ := except_bind_eq_error h
    · exact not_isColumnCount_assign hvalue
    · exact absurd h nofun
  · rw [TupleItem.columns] at hcol
    rw [mapItem, sizeSub_of_le (by omega), if_neg (by omega)] at h
    obtain hvalues | ⟨values, -, h⟩ := except_bind_eq_error h
    · apply not_isColumnCount_mapMembers _ hvalues
      rw [List.length_take, List.length_drop]
      omega
    · exact absurd h nofun

theorem not_isColumnCount_mapItems {row : TextRow} {items : List (TupleItem τ)} {col : ℕ}
    {e : RowExn ε} (hcol : col + totalColumns items ≤ row.length)
    (h : mapItems codec row items col = .error e) : ¬e.IsColumnCount := by
  induction items generalizing col with
  | nil => exact absurd h nofun
  | cons item items ih =>
    rw [totalColumns_cons] at hcol
    obtain hitem | ⟨⟨value, next⟩, hitem, h⟩ := except_bind_eq_error h
    · exact not_isColumnCount_mapItem (by omega) hitem
    · obtain ⟨-, rfl⟩ := (mapItem_eq_ok_iff (by omega)).mp hitem
      obtain hitems | ⟨values, -, h⟩ := except_bind_eq_error h
      · exact ih (by omega) hitems
      · exact absurd h nofun

section EveryText

variable (htext : ∀ (t : τ) (field : Option Bytes), ∃ value,
  codec.assignTextValue t field = .ok value)

include htext

/-- Where every text is one for its type, there is nothing else to throw for. -/
theorem assign_ne_error {t : τ} {field : Option Bytes} {e : RowExn ε} :
    codec.assign t field ≠ .error e := by
  obtain ⟨value, hvalue⟩ := htext t field
  rw [RowCodec.assign, hvalue]
  exact nofun

theorem isColumnCount_mapMembers {row : TextRow} {members : List τ} {index : ℕ} {e : RowExn ε}
    (h : mapMembers codec row members index = .error e) : e.IsColumnCount := by
  induction members generalizing index with
  | nil => exact absurd h nofun
  | cons t members ih =>
    rw [mapMembers] at h
    split_ifs at h
    · cases h
      trivial
    · obtain hvalue | ⟨value, -, h⟩ := except_bind_eq_error h
      · exact absurd hvalue (assign_ne_error htext)
      · obtain hvalues | ⟨values, -, h⟩ := except_bind_eq_error h
        · exact ih hvalues
        · exact absurd h nofun

theorem isColumnCount_mapItem {row : TextRow} {item : TupleItem τ} {col : ℕ} {e : RowExn ε}
    (h : mapItem codec row item col = .error e) : e.IsColumnCount := by
  obtain t | members := item
  · rw [mapItem] at h
    split_ifs at h
    · cases h
      trivial
    · obtain hvalue | ⟨value, -, h⟩ := except_bind_eq_error h
      · exact absurd hvalue (assign_ne_error htext)
      · exact absurd h nofun
  · rw [mapItem] at h
    split_ifs at h
    · cases h
      trivial
    · obtain hvalues | ⟨values, -, h⟩ := except_bind_eq_error h
      · exact isColumnCount_mapMembers htext hvalues
      · exact absurd h nofun

theorem isColumnCount_mapItems {row : TextRow} {items : List (TupleItem τ)} {col : ℕ}
    {e : RowExn ε} (h : mapItems codec row items col = .error e) : e.IsColumnCount := by
  induction items generalizing col with
  | nil => exact absurd h nofun
  | cons item items ih =>
    obtain hitem | ⟨⟨value, next⟩, -, h⟩ := except_bind_eq_error h
    · exact isColumnCount_mapItem htext hitem
    · obtain hitems | ⟨values, -, h⟩ := except_bind_eq_error h
      · exact ih hitems
      · exact absurd h nofun

theorem isColumnCount_mapTupleRow {row : TextRow} {items : List (TupleItem τ)} {e : RowExn ε}
    (h : mapTupleRow codec items row = .error e) : e.IsColumnCount := by
  obtain hitems | ⟨⟨values, col⟩, -, h⟩ := except_bind_eq_error h
  · exact isColumnCount_mapItems htext hitems
  · dsimp only at h
    split_ifs at h
    cases h
    trivial

end EveryText

/-! ## Tuples -/

theorem mapTupleRow_eq_ok_iff {row : TextRow} {items : List (TupleItem τ)}
    {values : Values (TupleItem.Value codec) items} :
    mapTupleRow codec items row = .ok values
      ↔ List.Forall₂ (Assigned codec) row (tupleCells codec values) := by
  have hwhole : AssignedFrom row 0 (tupleCells codec values) ∧ totalColumns items = row.length
      ↔ List.Forall₂ (Assigned codec) row (tupleCells codec values) := by
    rw [AssignedFrom, List.drop_zero, length_tupleCells]
    constructor
    · rintro ⟨hassigned, htotal⟩
      rwa [htotal, List.take_length] at hassigned
    · intro h
      have htotal : totalColumns items = row.length := by rw [h.length_eq, length_tupleCells]
      rw [htotal, List.take_length]
      exact ⟨h, rfl⟩
  rw [← hwhole, mapTupleRow]
  constructor
  · intro h
    obtain ⟨⟨values', col⟩, hitems, h⟩ := except_bind_eq_ok h
    dsimp only at h
    split_ifs at h with hcol
    cases h
    obtain ⟨hassigned, htotal⟩ := (mapItems_eq_ok_iff (Nat.zero_le _)).mp hitems
    rw [Nat.zero_add] at htotal
    exact ⟨hassigned, htotal ▸ Decidable.not_not.mp hcol⟩
  · rintro ⟨hassigned, htotal⟩
    have hitems := (mapItems_eq_ok_iff (Nat.zero_le _)).mpr ⟨hassigned, rfl⟩
    rw [except_bind_of_ok hitems]
    exact if_neg (by rw [Nat.zero_add, not_not]; exact htotal)

/-- Wherever the mapping comes to, the column is one of the row, or its end. -/
theorem Comes.le {row : TextRow} {items rest : List (TupleItem τ)} {col : ℕ}
    (h : Comes codec row items rest col) : col ≤ row.length := by
  induction h with
  | start => exact Nat.zero_le _
  | next _ hitem ih =>
    obtain ⟨hassigned, rfl⟩ := (mapItem_eq_ok_iff ih).mp hitem
    have hle := hassigned.le ih
    rwa [TupleItem.length_cells] at hle

/-- What the mapping of a row to a tuple does. -/
structure MapsTuple (codec : RowCodec τ ε) (items : List (TupleItem τ)) (row : TextRow) : Prop where
  /-- It succeeds if the columns are the values, one for one and from left to right. -/
  eq_ok_iff : ∀ values, mapTupleRow codec items row = .ok values
    ↔ List.Forall₂ (Assigned codec) row (tupleCells codec values)
  /-- With as many columns as the elements take it does not throw for their number. -/
  counts : row.length = totalColumns items →
    ∀ e, mapTupleRow codec items row = .error e → ¬e.IsColumnCount
  /-- With fewer or more it throws. -/
  throws : row.length ≠ totalColumns items → ∃ e, mapTupleRow codec items row = .error e
  /-- And it does so for their number, unless the text of a column is in the way. -/
  mismatch : row.length ≠ totalColumns items →
    (∀ (t : τ) (field : Option Bytes), ∃ value, codec.assignTextValue t field = .ok value) →
      ∃ e, mapTupleRow codec items row = .error e ∧ e.IsColumnCount
  /-- No subtraction wraps. -/
  noWrap : ∀ rest col, Comes codec row items rest col →
    col ≤ row.length ∧ sizeSub row.length col = row.length - col

/-- **Tuples.** For every tuple type and every row. -/
theorem mapsTuple (codec : RowCodec τ ε) (items : List (TupleItem τ)) (row : TextRow) :
    MapsTuple codec items row := by
  have hthrows : row.length ≠ totalColumns items → ∃ e, mapTupleRow codec items row = .error e := by
    intro hne
    cases h : mapTupleRow codec items row with
    | error e => exact ⟨e, rfl⟩
    | ok values =>
      have hlength := (mapTupleRow_eq_ok_iff.mp h).length_eq
      rw [length_tupleCells] at hlength
      exact absurd hlength hne
  refine ⟨fun _ ↦ mapTupleRow_eq_ok_iff, ?_, hthrows, ?_, ?_⟩
  · intro hlength e h
    obtain hitems | ⟨⟨values, col⟩, hitems, h⟩ := except_bind_eq_error h
    · exact not_isColumnCount_mapItems (by omega) hitems
    · obtain ⟨-, rfl⟩ := (mapItems_eq_ok_iff (Nat.zero_le _)).mp hitems
      have hend : 0 + totalColumns items = row.length := by omega
      dsimp only at h
      rw [if_neg (not_not.mpr hend)] at h
      exact absurd h nofun
  · intro hne htext
    obtain ⟨e, h⟩ := hthrows hne
    exact ⟨e, h, isColumnCount_mapTupleRow htext h⟩
  · intro rest col hcomes
    exact ⟨hcomes.le, sizeSub_of_le hcomes.le⟩

/-- The codec of the client, for the types without floating-point numbers. -/
def MysqlAsync.textCodec : RowCodec MysqlAsync.TextType Unit where
  Value := MysqlAsync.TextType.Value
  assignTextValue := fun t field ↦ (MysqlAsync.assignTextValue t field).elim (.error ()) .ok

example :
    mapTupleRow MysqlAsync.textCodec
        [.reflected [.number (.integral .int), .string, .number (.integral .int)], .scalar .string]
        [some (ascii "1"), some (ascii "name")]
      = .error tupleMismatch := rfl

end Ormpp
