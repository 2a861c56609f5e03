import Ormpp.Fetch.Column

/-!
# Rows that are read apart

The columns of a result do not meet in the loop, so that the rows are read apart where every column
is. All but one kind of column remember nothing: what is read of a row is a function of what the
row has. An enumeration that is not optional is written into the object and never patched, so that
it holds at a NULL what it held before.
-/

namespace Ormpp

namespace Fetch

/-! ## When it holds -/

/-- A text has no NUL, an enumerator of 64 bits is not negative, and an optional enumeration has no
value. -/
def CellKept : (f : Field) → Option f.type.Cell → Prop
  | .value (.string _), some text => NulFree text.val
  | .optional (.string _), some text => NulFree text.val
  | .value (.number (.enum t)), some v => t.bits = 64 → 0 ≤ v.val.val
  | .optional (.number (.enum _)), some _ => False
  | _, _ => True

/-- A cell of a column of enumerators. -/
abbrev EnumCell (t : IntegralType) :=
  Option { v : Number (.enum t) // 32 ≤ t.bits ∧ Cast.FitsSigned 32 v.val }

/-- If the next cell is a NULL, this one is a zero or a NULL too. -/
def NullBehindZero {t : IntegralType} (cell next : EnumCell t) : Prop :=
  next = none → ∀ v, cell = some v → v.val.val = 0

/-- In a column of enumerators that is not optional, a NULL stands in front, or behind a zero or
another NULL. -/
def NullsKept : (f : Field) → List (Option f.type.Cell) → Prop
  | .value (.number (.enum t)), cells => List.IsChain (NullBehindZero (t := t)) cells
  | _, _ => True

def ColumnKept (f : Field) (cells : List (Option f.type.Cell)) : Prop :=
  (∀ cell ∈ cells, CellKept f cell) ∧ NullsKept f cells

/-! ## One column -/

/-- The body of the loop for one of the fields. -/
def columnDecoder (f : Field) :
    Mealy (Column f.type) (Option f.type.Cell × Unspecified) f.Value where
  step c a :=
    let c := (Column.setValue a.2 f (c.fetch a.1)).clear
    let c := if a.1.isNone then Column.patch f c else c
    (c.moveFrom a.2, Column.read f c)

def ColumnApart (f : Field) (cells : List (Option f.type.Cell)) : Prop :=
  ∀ u : ℕ → Unspecified,
    (columnDecoder f).run (.bound f.type) (cells.mapIdx fun n cell ↦ (cell, u n))
      = cells.map f.ofCell

theorem rowDecoder_eq {ι : Type} (fields : ι → Field) :
    rowDecoder fields = Mealy.pi fun i ↦ columnDecoder (fields i) := rfl

/-- The columns are read each by itself. -/
theorem rowsApart_iff_columnApart {ι : Type} (fields : ι → Field) (rows : List (Row fields)) :
    RowsApart fields rows ↔ ∀ i, ColumnApart (fields i) (rows.map (· i)) := by
  have hcolumn (u : ℕ → ι → Unspecified) (i : ι) :
      (queryS fields u rows).map (· i)
        = (columnDecoder (fields i)).run (.bound (fields i).type)
            ((rows.map (· i)).mapIdx fun n cell ↦ (cell, u n i)) := by
    have hcells : (rows.mapIdx fun n row i ↦ (row i, u n i)).map (· i)
        = (rows.map (· i)).mapIdx fun n cell ↦ (cell, u n i) := by
      apply List.ext_getElem <;> simp
    rw [queryS, rowDecoder_eq, Mealy.map_run_pi, hcells]
  constructor
  · intro h i u
    rw [← hcolumn (fun n _ ↦ u n) i, h, List.map_map, List.map_map]
    rfl
  · intro h u
    apply Mealy.eq_of_map_eval
    · rw [queryS, Mealy.length_run, List.length_mapIdx, List.length_map]
    · intro i
      rw [hcolumn, h i, List.map_map, List.map_map]
      rfl

/-! ## Columns that remember nothing -/

/-- What is read of a cell when the buffer is empty, for every field but an enumeration that is not
optional. -/
def seen (u : Unspecified) : (f : Field) → Option f.type.Cell → f.Value
  | .value (.string _), some text => untilNul text.val
  | .optional (.string _), some text => some (untilNul text.val)
  | .optional (.number (.enum t)), some _ => some (u.item (.number (.enum t)))
  | f, cell => f.ofCell cell

def IsEnum : Field → Prop
  | .value (.number (.enum _)) => True
  | _ => False

theorem untilNul_padded (text : Bytes) (k : ℕ) :
    untilNul (text ++ List.replicate (k + 1) 0) = untilNul text := by
  by_cases h : NulFree text
  · rw [List.replicate_succ, untilNul_append_nul h, untilNul_eq_iff.mpr h]
  · exact untilNul_append_of_mem (not_not.mp h) _

theorem writeText_zeros (t : ColumnType) (text : { b : Bytes // b.length ≤ t.bufferLength }) :
    (Column.writeText (Column.zeros t) text).val
      = text.val ++ List.replicate (t.bufferLength - text.val.length) 0 := by
  change text.val ++ (List.replicate t.bufferLength 0).drop text.val.length = _
  rw [List.drop_replicate]

theorem untilNul_zeros (t : ColumnType) : untilNul (Column.zeros t).val = [] := by
  change untilNul (List.replicate t.bufferLength 0) = []
  rcases t.bufferLength with _ | n <;> rfl

/-- A string is read up to its first NUL. -/
theorem untilNul_writeText {length : ℕ} (text : { b : Bytes // b.length ≤ length }) :
    untilNul (Column.writeText (Column.zeros (.string length))
      ⟨text.val, text.property.trans (Nat.le_succ _)⟩).val = untilNul text.val := by
  have hroom : (ColumnType.string length).bufferLength - text.val.length
      = length - text.val.length + 1 := Nat.succ_sub text.property
  rw [writeText_zeros, hroom, untilNul_padded]

/-- An array is read to its end. -/
theorem writeText_charArray {N : ℕ} (text : { b : Bytes // b.length ≤ N }) :
    Column.writeText (Column.zeros (.charArray N)) text = (ColumnType.charArray N).ofCell text :=
  Subtype.ext (writeText_zeros (.charArray N) text)

theorem read_columnDecoder {f : Field} (hf : ¬ IsEnum f) (c : Column f.type)
    (a : Option f.type.Cell × Unspecified) (hc : c.buffer = Column.zeros f.type) :
    ((columnDecoder f).step c a).2 = seen a.2 f a.1 := by
  obtain ⟨cell, u⟩ := a
  obtain ⟨engaged, storage, buffer⟩ := c
  obtain rfl : buffer = Column.zeros f.type := hc
  obtain ((t | t) | length | N) | ((t | t) | length | N) := f
  · rcases cell with _ | v <;> rfl
  · exact absurd trivial hf
  · rcases cell with _ | text
    · exact untilNul_zeros (.string length)
    · exact untilNul_writeText text
  · rcases cell with _ | text
    · rfl
    · exact writeText_charArray text
  · rcases cell with _ | v <;> rfl
  · rcases cell with _ | v <;> rfl
  · rcases cell with _ | text
    · rfl
    · exact congrArg some (untilNul_writeText text)
  · rcases cell with _ | text
    · rfl
    · exact congrArg some (writeText_charArray text)

theorem buffer_columnDecoder (f : Field) (c : Column f.type)
    (a : Option f.type.Cell × Unspecified) :
    ((columnDecoder f).step c a).1.buffer = Column.zeros f.type := by
  obtain ⟨cell, u⟩ := a
  obtain ((t | t) | length | N) | ((t | t) | length | N) := f <;> rcases cell with _ | v <;> rfl

/-- Numbers that a variable without an initial value may hold. -/
def Unspecified.number (n : ℤ) (h : ∀ t : IntegralType, t.Holds n) : Unspecified where
  item
    | .number t => ⟨n, h t.underlying⟩
    | .string length => ColumnType.zero (.string length)
    | .charArray N => ColumnType.zero (.charArray N)
  moved := id

theorem holds_one (t : IntegralType) : t.Holds 1 := by
  rcases t with _ | _ | _ | _ | _ | _ | _ | _ | _ | _ | _ | _ <;> decide

/-- Whatever is left open, the field holds the value of the cell. -/
theorem forall_seen_iff {f : Field} (hf : ¬ IsEnum f) (cell : Option f.type.Cell) :
    (∀ u, seen u f cell = f.ofCell cell) ↔ CellKept f cell := by
  obtain ((t | t) | length | N) | ((t | t) | length | N) := f
  · rcases cell with _ | v <;> exact iff_of_true (fun _ ↦ rfl) trivial
  · exact absurd trivial hf
  · rcases cell with _ | text
    · exact iff_of_true (fun _ ↦ rfl) trivial
    · refine Iff.trans ?_ untilNul_eq_iff
      exact ⟨fun h ↦ h (.number 0 IntegralType.holds_zero), fun h _ ↦ h⟩
  · rcases cell with _ | text <;> exact iff_of_true (fun _ ↦ rfl) trivial
  · rcases cell with _ | v <;> exact iff_of_true (fun _ ↦ rfl) trivial
  · rcases cell with _ | v
    · exact iff_of_true (fun _ ↦ rfl) trivial
    · -- The item may be a zero, and it may be a one.
      refine iff_of_false (fun h ↦ ?_) id
      have hzero := h (.number 0 IntegralType.holds_zero)
      have hone := h (.number 1 holds_one)
      have hval := congrArg Number.val (Option.some_inj.mp (hzero.trans hone.symm))
      exact absurd hval zero_ne_one
  · rcases cell with _ | text
    · exact iff_of_true (fun _ ↦ rfl) trivial
    · refine Iff.trans ?_ untilNul_eq_iff
      refine ⟨fun h ↦ Option.some_inj.mp (h (.number 0 IntegralType.holds_zero)), fun h u ↦ ?_⟩
      exact congrArg some h
  · rcases cell with _ | text <;> exact iff_of_true (fun _ ↦ rfl) trivial

/-- A column that remembers nothing is read apart where each of its cells is. -/
theorem columnApart_iff_cellKept {f : Field} (hf : ¬ IsEnum f) (cells : List (Option f.type.Cell)) :
    ColumnApart f cells ↔ ∀ cell ∈ cells, CellKept f cell := by
  have hrun (as : List (Option f.type.Cell × Unspecified)) :
      (columnDecoder f).run (.bound f.type) as = as.map fun a ↦ seen a.2 f a.1 :=
    (columnDecoder f).run_eq_map (fun c ↦ c.buffer = Column.zeros f.type)
      (fun c a hc ↦ ⟨read_columnDecoder hf c a hc, buffer_columnDecoder f c a⟩) rfl as
  constructor
  · intro h cell hcell
    refine (forall_seen_iff hf cell).mp fun u ↦ ?_
    have hconst := h fun _ ↦ u
    have hcells : (cells.mapIdx fun _ cell ↦ (cell, u)) = cells.map fun cell ↦ (cell, u) := by
      apply List.ext_getElem <;> simp
    rw [hrun, hcells, List.map_map] at hconst
    exact List.map_inj_left.mp hconst cell hcell
  · intro h u
    rw [hrun]
    apply List.ext_getElem
    · simp
    · intro n hn hn'
      have hcell := (forall_seen_iff hf _).mpr (h _ (List.getElem_mem (by simpa using hn'))) (u n)
      simpa using hcell

/-! ## Enumerations -/

section

variable {t : IntegralType}

/-- Thirty-two bits are all that counts of an enumerator, or those above them are zero. -/
theorem writeLong_eq_iff {held v : Number (.enum t)} (hbits : 32 ≤ t.bits)
    (hv : Cast.FitsSigned 32 v.val)
    (hheld : t.bits = 64 → 0 ≤ held.val ∧ held.val < 2 ^ 32) :
    Column.writeLong held v = v ↔ (t.bits = 64 → 0 ≤ v.val) := by
  have hne : t ≠ .bool := by
    rintro rfl
    exact absurd hbits (by decide)
  have hval : Column.writeLong held v = v ↔
      t.convert (held.val - held.val % 2 ^ 32 + v.val % 2 ^ 32) = v.val :=
    ⟨congrArg Number.val, fun h ↦ Number.ext h⟩
  obtain ⟨hlow, hhigh⟩ := hv
  rw [hval, IntegralType.convert_eq_iff hne v.holds]
  norm_num at hlow hhigh
  obtain h | h : t.bits = 32 ∨ t.bits = 64 := by
    obtain h | h | h | h := t.bits_cases <;> omega
  · rw [h]
    norm_num
    omega
  · obtain ⟨hheldlow, hheldhigh⟩ := hheld h
    rw [h]
    norm_num at hheldhigh ⊢
    omega

/-- What the field holds for the cells of a column, one after the other. -/
def heldValues (held : Number (.enum t)) : List (EnumCell t) → List (Number (.enum t))
  | [] => []
  | none :: cells => held :: heldValues held cells
  | some v :: cells =>
    Column.writeLong held v.val :: heldValues (Column.writeLong held v.val) cells

theorem run_enum (c : Column (.number (.enum t))) (as : List (EnumCell t × Unspecified)) :
    (columnDecoder (.value (.number (.enum t)))).run c as
      = heldValues c.storage (as.map Prod.fst) := by
  induction as generalizing c with
  | nil => rfl
  | cons a as ih =>
    obtain ⟨_ | v, u⟩ := a
    · exact congrArg (c.storage :: ·) (ih c.clear)
    · exact congrArg (Column.writeLong c.storage v.val :: ·) (ih (c.fetch (some v)).clear)

/-- The value of a cell, where NULL is a zero. -/
def EnumCell.value : EnumCell t → Number (.enum t)
  | none => ⟨0, t.holds_zero⟩
  | some v => v.val

/-- The cell is written as it is. -/
def EnumKept : EnumCell t → Prop
  | none => True
  | some v => t.bits = 64 → 0 ≤ v.val.val

theorem enumKept_none : EnumKept (none : EnumCell t) := trivial

theorem value_eq_zero_iff {prev : EnumCell t} :
    prev.value = EnumCell.value none ↔ NullBehindZero prev none := by
  rcases prev with _ | v
  · refine iff_of_true rfl ?_
    rintro - v ⟨⟩
  · constructor
    · rintro h - w ⟨⟩
      exact congrArg Number.val h
    · intro h
      exact Number.ext (h rfl v rfl)

theorem writeLong_cell_iff {prev : EnumCell t} (hprev : EnumKept prev)
    (v : { v : Number (.enum t) // 32 ≤ t.bits ∧ Cast.FitsSigned 32 v.val }) :
    Column.writeLong prev.value v.val = v.val ↔ EnumKept (some v) := by
  refine writeLong_eq_iff v.property.1 v.property.2 fun h64 ↦ ?_
  rcases prev with _ | w
  · exact ⟨le_rfl, by norm_num [EnumCell.value]⟩
  · obtain ⟨-, hhigh⟩ := w.property.2
    exact ⟨hprev h64, hhigh.trans (by norm_num)⟩

/-- Where the field holds the value of the cell before, a NULL is read right behind a NULL or a
zero, and any other cell where its bytes are all of it. -/
theorem heldValues_eq_iff {prev : EnumCell t} (hprev : EnumKept prev) (cells : List (EnumCell t)) :
    heldValues prev.value cells = cells.map EnumCell.value ↔
      (∀ cell ∈ cells, EnumKept cell) ∧ (prev :: cells).IsChain NullBehindZero := by
  induction cells generalizing prev with
  | nil => exact iff_of_true rfl ⟨List.forall_mem_nil _, List.isChain_singleton _⟩
  | cons cell cells ih =>
    rw [List.map_cons, List.forall_mem_cons, List.isChain_cons_cons]
    rcases cell with _ | v
    · rw [heldValues, List.cons.injEq, value_eq_zero_iff]
      constructor
      · rintro ⟨hnull, hrest⟩
        rw [value_eq_zero_iff.mpr hnull] at hrest
        obtain ⟨hcells, hchain⟩ := (ih enumKept_none).mp hrest
        exact ⟨⟨trivial, hcells⟩, hnull, hchain⟩
      · rintro ⟨⟨-, hcells⟩, hnull, hchain⟩
        refine ⟨hnull, ?_⟩
        rw [value_eq_zero_iff.mpr hnull]
        exact (ih enumKept_none).mpr ⟨hcells, hchain⟩
    · have hwritten := writeLong_cell_iff hprev v
      rw [heldValues, List.cons.injEq]
      change Column.writeLong prev.value v.val = v.val ∧ _ ↔ _
      rw [hwritten]
      constructor
      · rintro ⟨hcell, hrest⟩
        rw [hwritten.mpr hcell] at hrest
        obtain ⟨hcells, hchain⟩ := (ih hcell).mp hrest
        exact ⟨⟨hcell, hcells⟩, nofun, hchain⟩
      · rintro ⟨⟨hcell, hcells⟩, -, hchain⟩
        refine ⟨hcell, ?_⟩
        rw [hwritten.mpr hcell]
        exact (ih hcell).mpr ⟨hcells, hchain⟩

theorem columnApart_enum_iff (cells : List (EnumCell t)) :
    ColumnApart (.value (.number (.enum t))) cells ↔
      ColumnKept (.value (.number (.enum t))) cells := by
  have hfirst : (none :: cells).IsChain NullBehindZero ↔ cells.IsChain NullBehindZero := by
    rcases cells with _ | ⟨cell, cells⟩
    · exact iff_of_true (List.isChain_singleton _) List.isChain_nil
    · refine List.isChain_cons_cons.trans (and_iff_right ?_)
      rintro - v ⟨⟩
  have hcells : (∀ cell ∈ cells, EnumKept cell) ↔
      ∀ cell ∈ cells, CellKept (.value (.number (.enum t))) cell := by
    refine forall₂_congr fun cell _ ↦ ?_
    rcases cell with _ | v <;> exact Iff.rfl
  have hvalues : cells.map EnumCell.value
      = cells.map (Field.value (.number (.enum t))).ofCell := by
    refine List.map_congr_left fun cell _ ↦ ?_
    rcases cell with _ | v <;> rfl
  have hrun (u : ℕ → Unspecified) :
      (columnDecoder (.value (.number (.enum t)))).run (.bound _)
          (cells.mapIdx fun n cell ↦ (cell, u n)) = heldValues (EnumCell.value none) cells := by
    have hinputs : (cells.mapIdx fun n cell ↦ (cell, u n)).map Prod.fst = cells := by
      apply List.ext_getElem <;> simp
    exact (run_enum _ _).trans (congrArg _ hinputs)
  have hkept := heldValues_eq_iff enumKept_none cells
  rw [hfirst, hcells, hvalues] at hkept
  refine Iff.trans ?_ hkept
  constructor
  · intro h
    exact (hrun fun _ ↦ .number 0 IntegralType.holds_zero).symm.trans (h _)
  · intro h u
    exact (hrun u).trans h

end

theorem columnApart_iff (f : Field) (cells : List (Option f.type.Cell)) :
    ColumnApart f cells ↔ ColumnKept f cells := by
  have hother (hf : ¬ IsEnum f) (hnulls : NullsKept f cells) :
      ColumnApart f cells ↔ ColumnKept f cells :=
    (columnApart_iff_cellKept hf cells).trans (and_iff_left hnulls).symm
  obtain ((t | t) | length | N) | ((t | t) | length | N) := f
  · exact hother id trivial
  · exact columnApart_enum_iff cells
  all_goals exact hother id trivial

/-- A column of enumerators. -/
def enumField : Unit → Field := fun _ ↦ .value (.number (.enum .int))

/-- The enumerator 7, and then NULL. -/
def sevenThenNull : List (Row enumField) :=
  [fun _ ↦ some ⟨⟨7, by decide⟩, by decide⟩, fun _ ↦ none]

end Fetch

end Ormpp
