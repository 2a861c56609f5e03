import Ormpp.Bind.Escape
import Ormpp.Codec.Type
import Ormpp.Data.Numeral

/-!
# The SQLite codec

How the SQLite backend binds a value and how it reads a column. SQLite keeps what is bound, and a
column is read as the type that is asked for.
-/

namespace Ormpp

namespace Sqlite

/-- A value as SQLite has it. -/
inductive Cell
  | null
  | integer (n : ℤ)
  | text (t : Bytes)
  | blob (b : Bytes)
  deriving DecidableEq

/-! ## Binding -/

/-- `sqlite3_bind_int`, whose argument is converted to `int`. -/
def bindInt (n : ℤ) : Cell := .integer (Cast.toSigned 32 n)

/-- `sqlite3_bind_int64`, whose argument is converted to `sqlite3_int64`. -/
def bindInt64 (n : ℤ) : Cell := .integer (Cast.toSigned 64 n)

/-- `set_param_bind` for numbers. `is_int64_v` is false of every enumeration. -/
def bindNumber : {t : NumberType} → Number t → Cell
  | .enum _, v => bindInt v.val
  | .integral t, v => if t.isInt64 then bindInt64 v.val else bindInt v.val

/-- `sqlite3_bind_blob`. The data of an empty vector may be a null pointer, which is bound as NULL;
`allocated` says that it is not. -/
def bindBlob (allocated : Bool) (b : Bytes) : Cell :=
  if b = [] ∧ allocated = false then .null else .blob b

/-- `set_param_bind`. A text is bound up to its first NUL, or as a whole if there is none. -/
def bindValue (allocated : Bool) : (t : DiscreteType) → t.Value → Cell
  | .number _, v => bindNumber v
  | .string, text => .text (untilNul text)
  | .charArray _, text => .text (untilNul text.val)
  | .blob, b => bindBlob allocated b

/-- `set_param_bind`, for an optional value too. -/
def setParamBind (allocated : Bool) : (f : DiscreteField) → f.Value → Cell
  | .value t, v => bindValue allocated t v
  | .optional _, none => .null
  | .optional t, some v => bindValue allocated t v

/-! ## Reading -/

/-- The number that a text is cast to. -/
def castText (t : Bytes) : ℤ := max (-2 ^ 63) (min (Numeral.leading t) (2 ^ 63 - 1))

/-- `sqlite3_column_int64`. -/
def columnInt64 : Cell → ℤ
  | .null => 0
  | .integer n => n
  | .text t => castText t
  | .blob b => castText b

/-- `sqlite3_column_int`, the low bits. -/
def columnInt (c : Cell) : ℤ := Cast.toSigned 32 (columnInt64 c)

/-- `sqlite3_column_text`, with the length of `sqlite3_column_bytes`. There is a NUL behind it. -/
def columnText : Cell → Bytes
  | .null => []
  | .integer n => intText n
  | .text t => t
  | .blob b => b

/-- `sqlite3_column_blob`, with the length of `sqlite3_column_bytes`. -/
def columnBlob (c : Cell) : Bytes := columnText c

/-- `assign` for numbers. -/
def readNumber (c : Cell) : (t : NumberType) → Number t
  | .enum t => .ofInt (.enum t) (columnInt c)
  | .integral t => .ofInt (.integral t) (if t.isInt64 then columnInt64 c else columnInt c)

/-- `memcpy` of a number of bytes from a text, its NUL and what lies behind that in memory. -/
def copyText (beyond : ℕ → Byte) (text : Bytes) (N : ℕ) : { copy : Bytes // copy.length = N } :=
  ⟨(text ++ 0 :: (List.range N).map beyond).take N, by simp; omega⟩

/-- `assign` for a column that is not NULL. -/
def readValue (beyond : ℕ → Byte) (c : Cell) : (t : DiscreteType) → t.Value
  | .number t => readNumber c t
  | .string => columnText c
  | .charArray N => copyText beyond (columnText c) N
  | .blob => columnBlob c

/-- `assign`. -/
def assign (beyond : ℕ → Byte) (c : Cell) : (f : DiscreteField) → f.Value
  | .value t => if c = .null then t.zero else readValue beyond c t
  | .optional t => if c = .null then none else some (readValue beyond c t)

end Sqlite

end Ormpp
