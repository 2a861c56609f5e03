import Ormpp.Codec.CString
import Ormpp.Codec.Type
import Ormpp.Data.Mealy

/-!
# The columns of a result of MySQL

`query_s` reads all the rows of a result through one object and one set of bound buffers: a number
is written into the field itself, and a text into a buffer of its own, from which `set_value` copies
it. What is read of a row is what the fields hold after the NULLs have been patched, and the next
row is written over it.
-/

namespace Ormpp

namespace Fetch

/-- The types of the fields. -/
inductive ColumnType
  | number (t : NumberType)
  /-- A string. The length is the one that the metadata of the result has for the column. -/
  | string (length : ℕ)
  /-- `std::array<char, N>`. -/
  | charArray (N : ℕ)

namespace ColumnType

def Value : ColumnType → Type
  | number t => Number t
  | string _ => Bytes
  | charArray N => { text : Bytes // text.length = N }

/-- `U{}`. -/
def zero : (t : ColumnType) → t.Value
  | number t => ⟨0, t.holds_zero⟩
  | string _ => []
  | charArray N => ⟨List.replicate N 0, length_replicate_zero N⟩

/-- The length of the buffer in `mp`, if there is one. -/
def bufferLength : ColumnType → ℕ
  | number _ => 0
  | string length => length + 1
  | charArray N => N

/-- The values of a column, other than NULL, that fit what is bound for them. An enumerator is
written as a `MYSQL_TYPE_LONG`. -/
def Cell : ColumnType → Type
  | number (.integral t) => Number (.integral t)
  | number (.enum t) => { v : Number (.enum t) // 32 ≤ t.bits ∧ Cast.FitsSigned 32 v.val }
  | string length => { text : Bytes // text.length ≤ length }
  | charArray N => { text : Bytes // text.length ≤ N }

/-- The value of a field for that of its column. -/
def ofCell : (t : ColumnType) → t.Cell → t.Value
  | number (.integral _), v => v
  | number (.enum _), v => v.val
  | string _, text => text.val
  | charArray N, text => ⟨text.val ++ List.replicate (N - text.val.length) 0, by
      rw [List.length_append, List.length_replicate, Nat.add_sub_cancel' text.property]⟩

end ColumnType

inductive Field
  | value (t : ColumnType)
  | optional (t : ColumnType)

namespace Field

def type : Field → ColumnType
  | value t => t
  | optional t => t

def Value : Field → Type
  | value t => t.Value
  | optional t => Option t.Value

/-- What the field is to hold for a row: NULL is the empty optional or the default value. -/
def ofCell : (f : Field) → Option f.type.Cell → f.Value
  | value t, none => t.zero
  | value t, some v => t.ofCell v
  | optional t, cell => cell.map t.ofCell

end Field

/-! ## The field and its buffer -/

/-- A field of the object, and the buffer that is bound for it. -/
structure Column (t : ColumnType) where
  /-- Whether an optional has a value. -/
  engaged : Bool
  /-- The value, or what lies in the place for one. -/
  storage : t.Value
  buffer : { b : Bytes // b.length = t.bufferLength }

/-- What the standard leaves open: a variable without an initial value, and a string that was moved
from. -/
structure Unspecified where
  item : (t : ColumnType) → t.Value
  moved : Bytes → Bytes

namespace Column

def zeros (t : ColumnType) : { b : Bytes // b.length = t.bufferLength } :=
  ⟨List.replicate t.bufferLength 0, List.length_replicate⟩

/-- `set_param_bind` for the object `T t{}`. An empty optional is given a value, to which the buffer
points. -/
def bound (t : ColumnType) : Column t := ⟨true, t.zero, zeros t⟩

/-- Four bytes are written into the place of an enumerator. -/
def writeLong {t : IntegralType} (held v : Number (.enum t)) : Number (.enum t) :=
  .ofInt (.enum t) (held.val - held.val % 2 ^ 32 + v.val % 2 ^ 32)

/-- A text is written to the front of a buffer. -/
def writeText {n : ℕ} (buffer : { b : Bytes // b.length = n })
    (text : { b : Bytes // b.length ≤ n }) : { b : Bytes // b.length = n } :=
  ⟨text.val ++ buffer.val.drop text.val.length, by
    rw [List.length_append, List.length_drop, buffer.property, Nat.add_sub_cancel' text.property]⟩

/-- `mysql_stmt_fetch`. With NULL nothing is written. -/
def fetch : {t : ColumnType} → Column t → Option t.Cell → Column t
  | _, c, none => c
  | .number (.integral _), c, some v => { c with storage := v }
  | .number (.enum _), c, some v => { c with storage := writeLong c.storage v.val }
  | .string _, c, some text =>
    { c with buffer := writeText c.buffer ⟨text.val, text.property.trans (Nat.le_succ _)⟩ }
  | .charArray _, c, some text => { c with buffer := writeText c.buffer text }

/-- `set_value` for a field that is not optional. Numbers have been written into the field. -/
def setText : {t : ColumnType} → Column t → Column t
  | .number _, c => c
  | .string _, c => { c with storage := untilNul c.buffer.val }
  | .charArray _, c => { c with storage := c.buffer }

/-- `value_type item;` -/
def newItem (u : Unspecified) : (t : ColumnType) → t.Value
  | .string _ => []
  | t => u.item t

/-- `set_value`. For an optional number, the item is copied from the place that was written to. -/
def setValue (u : Unspecified) : (f : Field) → Column f.type → Column f.type
  | .value _, c => c.setText
  | .optional (.number (.integral _)), c => { c with engaged := true }
  | .optional t, c => { c with engaged := true, storage := newItem u t }.setText

/-- `p.second.assign(p.second.size(), 0)`. -/
def clear {t : ColumnType} (c : Column t) : Column t := { c with buffer := zeros t }

/-- `field = {}`, where the field is an optional or an arithmetic type. -/
def patch : (f : Field) → Column f.type → Column f.type
  | .optional _, c => { c with engaged := false }
  | .value (.number (.integral t)), c => { c with storage := ⟨0, t.holds_zero⟩ }
  | .value _, c => c

/-- `std::move(t)`. -/
def moveFrom (u : Unspecified) : {t : ColumnType} → Column t → Column t
  | .string _, c => { c with storage := u.moved c.storage }
  | _, c => c

/-- The value of the field. -/
def read : (f : Field) → Column f.type → f.Value
  | .value _, c => c.storage
  | .optional _, c => if c.engaged then some c.storage else none

end Column

/-! ## The loop -/

section

variable {ι : Type} (fields : ι → Field)

/-- The object and its buffers, one column for each field. -/
abbrev Columns := (i : ι) → Column (fields i).type

/-- A row of the result. -/
abbrev Row := (i : ι) → Option (fields i).type.Cell

/-- The object that is returned for a row. -/
abbrev Object := (i : ι) → (fields i).Value

/-- The body of the loop of `query_s`, behind a call of `mysql_stmt_fetch`. -/
def decodeRow (c : Columns fields) (row : Row fields) (u : ι → Unspecified) :
    Columns fields × Object fields :=
  let c : Columns fields := fun i ↦ (c i).fetch (row i)
  let c : Columns fields := fun i ↦ Column.setValue (u i) (fields i) (c i)
  let c : Columns fields := fun i ↦ (c i).clear
  let c : Columns fields := fun i ↦ if (row i).isNone then Column.patch (fields i) (c i) else c i
  (fun i ↦ (c i).moveFrom (u i), fun i ↦ Column.read (fields i) (c i))

def rowDecoder : Mealy (Columns fields) ((i : ι) → Option (fields i).type.Cell × Unspecified)
    (Object fields) where
  step c a := decodeRow fields c (fun i ↦ (a i).1) fun i ↦ (a i).2

/-- `query_s` for the rows of a result. What is left open may be something else for each row and
field. -/
def queryS (u : ℕ → ι → Unspecified) (rows : List (Row fields)) : List (Object fields) :=
  (rowDecoder fields).run (fun i ↦ .bound (fields i).type)
    (rows.mapIdx fun n row i ↦ (row i, u n i))

/-- The objects hold the values of their rows, and nothing of the rows before. -/
def RowsApart (rows : List (Row fields)) : Prop :=
  ∀ u, queryS fields u rows = rows.map fun row i ↦ (fields i).ofCell (row i)

end

end Fetch

end Ormpp
