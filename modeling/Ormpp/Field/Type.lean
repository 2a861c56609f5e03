import Ormpp.Data.Decimal
import Ormpp.Query.Builder

/-!
# The types of fields

A field of a reflected class has one of the types that the backends take for a column, or is an
optional one. The names under which the databases know the types are three tables of overloads; a
type without an overload, such as `long long` where `int64_t` is `long`, has no column type.
-/

namespace Ormpp

/-- The integral types of C++, with `char` apart from `int8_t`, and `long long` from `int64_t`. -/
inductive IntegralType
  | bool
  | char
  | int8
  | uint8
  | short
  | uint16
  | int
  | uint32
  | int64
  | uint64
  | longLong
  | unsignedLongLong
  deriving DecidableEq

namespace IntegralType

def signed : IntegralType → Bool
  | char | int8 | short | int | int64 | longLong => true
  | bool | uint8 | uint16 | uint32 | uint64 | unsignedLongLong => false

/-- How many bits of a value count. -/
def bits : IntegralType → ℕ
  | bool => 1
  | char | int8 | uint8 => 8
  | short | uint16 => 16
  | int | uint32 => 32
  | int64 | uint64 | longLong | unsignedLongLong => 64

/-- The integer is one of the values of the type. -/
def Holds (t : IntegralType) (n : ℤ) : Prop :=
  if t.signed then -2 ^ (t.bits - 1) ≤ n ∧ n < 2 ^ (t.bits - 1) else 0 ≤ n ∧ n < 2 ^ t.bits

instance (t : IntegralType) (n : ℤ) : Decidable (t.Holds n) :=
  inferInstanceAs (Decidable (if t.signed = true then _ else _))

/-- `iguana::is_int64_v`. -/
def isInt64 (t : IntegralType) : Bool := t = int64 || t = uint64

end IntegralType

/-- The types of values that the backends bind and read. -/
inductive ValueType
  | integral (t : IntegralType)
  | enum (underlying : IntegralType)
  | float
  | double
  | string
  | stringView
  /-- `std::array<char, N>`. -/
  | charArray (N : ℕ)
  | blob
  deriving DecidableEq

inductive FieldType
  | value (t : ValueType)
  | optional (t : ValueType)
  deriving DecidableEq

/-! ## The names of the types -/

/-- `"varchar(" + std::to_string(N) + ")"`. -/
def varchar (N : ℕ) : Bytes := ascii "varchar(" ++ natText N ++ ascii ")"

/-- The overloads of `ormpp_mysql::type_to_name`. -/
def mysqlTypeToName : ValueType → Option Bytes
  | .integral .bool => some (ascii "BOOLEAN")
  | .integral .char => some (ascii "TINYINT")
  | .integral .short => some (ascii "SMALLINT")
  | .integral .int => some (ascii "INTEGER")
  | .float => some (ascii "FLOAT")
  | .double => some (ascii "DOUBLE")
  | .integral .int8 => some (ascii "TINYINT")
  | .integral .int64 => some (ascii "BIGINT")
  | .integral .uint8 => some (ascii "SMALLINT")
  | .integral .uint16 => some (ascii "INTEGER")
  | .integral .uint32 => some (ascii "BIGINT")
  | .integral .uint64 => some (ascii "BIGINT UNSIGNED")
  | .blob => some (ascii "BLOB")
  | .string => some (ascii "TEXT")
  | .stringView => some (ascii "TEXT")
  | .charArray N => some (varchar N)
  | .integral .longLong | .integral .unsignedLongLong | .enum _ => none

/-- The overloads of `ormpp_sqlite::type_to_name`. -/
def sqliteTypeToName : ValueType → Option Bytes
  | .float => some (ascii "FLOAT")
  | .double => some (ascii "DOUBLE")
  | .integral .bool | .integral .char | .integral .short | .integral .int | .integral .int8
  | .integral .int64 | .integral .uint8 | .integral .uint16 | .integral .uint32
  | .integral .uint64 => some (ascii "INTEGER")
  | .blob => some (ascii "BLOB")
  | .string => some (ascii "TEXT")
  | .stringView => some (ascii "TEXT")
  | .charArray N => some (varchar N)
  | .integral .longLong | .integral .unsignedLongLong | .enum _ => none

/-- The overloads of `ormpp_postgresql::type_to_name`. -/
def postgresqlTypeToName : ValueType → Option Bytes
  | .integral .bool => some (ascii "integer")
  | .integral .char => some (ascii "char")
  | .integral .short => some (ascii "smallint")
  | .integral .int => some (ascii "integer")
  | .float => some (ascii "real")
  | .double => some (ascii "double precision")
  | .integral .int8 => some (ascii "char")
  | .integral .int64 => some (ascii "bigint")
  | .integral .uint8 => some (ascii "smallint")
  | .integral .uint16 => some (ascii "integer")
  | .integral .uint32 => some (ascii "bigint")
  | .integral .uint64 => some (ascii "bigint")
  | .blob => some (ascii "bytea")
  | .string => some (ascii "text")
  | .stringView => some (ascii "text")
  | .charArray N => some (varchar N)
  | .integral .longLong | .integral .unsignedLongLong | .enum _ => none

def typeToName : DBType → ValueType → Option Bytes
  | .mysql => mysqlTypeToName
  | .sqlite => sqliteTypeToName
  | .postgresql => postgresqlTypeToName

/-- What `get_type_names` puts down for a field, where it compiles. -/
def typeName (db : DBType) : FieldType → Option Bytes
  | .value (.enum _) => some (if db = .postgresql then ascii "integer" else ascii "INTEGER")
  | .value t => typeToName db t
  | .optional t => typeToName db t

/-- The types that the tables have. -/
def ValueType.mapped : ValueType → Bool
  | .integral .longLong | .integral .unsignedLongLong | .enum _ => false
  | _ => true

def FieldType.mapped : FieldType → Bool
  | .value (.enum _) => true
  | .value t => t.mapped
  | .optional t => t.mapped

/-- The tables have the same types in them. -/
theorem isSome_typeToName (db : DBType) (t : ValueType) :
    (typeToName db t).isSome = t.mapped := by
  rcases db with _ | _ | _ <;> rcases t with t | t | _ | _ | _ | _ | N | _
  all_goals first | rfl | (rcases t with _ | _ | _ | _ | _ | _ | _ | _ | _ | _ | _ | _ <;> rfl)

/-- The databases have column types for the same fields. -/
theorem isSome_typeName (db : DBType) (t : FieldType) : (typeName db t).isSome = t.mapped := by
  obtain t | t := t
  · obtain t | t | _ | _ | _ | _ | N | _ := t
    · exact isSome_typeToName db (.integral t)
    · rfl
    all_goals exact isSome_typeToName db _
  · exact isSome_typeToName db t

/-- A field for which a table can be created. -/
structure Field where
  name : Name
  type : FieldType
  mapped : type.mapped = true

/-- The element of `type_name_arr`. -/
def Field.typeName (f : Field) (db : DBType) : Bytes :=
  (Ormpp.typeName db f.type).get ((isSome_typeName db f.type).trans f.mapped)

end Ormpp
