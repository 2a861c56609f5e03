import Ormpp.Data.Decimal
import Ormpp.Data.Decoder
import Ormpp.Wire.Connection

/-!
# Decoding the content of a packet

`packet_reader` walks over one packet with a cursor that every read checks against the end. Here
the cursor is the unread suffix of the payload.

The length-encoded integers and strings of the protocol choose among four forms by size. They are
the alphabet of every larger structure, so their round trips are proved first and the packets are
then assembled with the composition rules of `Decoder`.
-/

namespace Ormpp

open Decoder

abbrev PacketReader (α : Type) := Decoder Exn Byte α

/-- `make_protocol_error`. -/
def makeProtocolError (msg : Bytes) : Exn :=
  .runtimeError (ascii "mysql_async protocol error: " ++ msg)

namespace PacketReader

/-! ## Fixed-width reads -/

/-- `read_string`: the next bytes, after `require` has checked that they are there. -/
def readString (size : ℕ) : PacketReader Bytes := fun rest ↦
  if rest.length < size then .error (makeProtocolError (ascii "truncated packet"))
  else .ok (rest.take size, rest.drop size)

/-- `skip`. -/
def skip (size : ℕ) : PacketReader Unit := (fun _ ↦ ()) <$> readString size

/-- `read_byte`. -/
def readByte : PacketReader Byte := (fun bs ↦ bs.headD 0) <$> readString 1

/-- A little-endian integer of the given number of bytes. -/
def readLe (k : ℕ) : PacketReader ℕ := leValue <$> readString k

def readU16 : PacketReader ℕ := readLe 2

def readU24 : PacketReader ℕ := readLe 3

def readU32 : PacketReader ℕ := readLe 4

def readU64 : PacketReader ℕ := readLe 8

/-- `read_string(remaining())`. -/
def readRemaining : PacketReader Bytes := do
  let rest ← get
  readString rest.length

/-! ## Length-encoded reads -/

/-- The length that a first byte announces; `invalid` is the text for a byte that announces
none. -/
def readLenencLength (firstByte : Byte) (invalid : Bytes) : PacketReader ℕ :=
  if firstByte < 0xfb then pure firstByte.toNat
  else if firstByte = 0xfc then readU16
  else if firstByte = 0xfd then readU24
  else if firstByte = 0xfe then readU64
  else throw (makeProtocolError invalid)

/-- `read_lenenc_int`. -/
def readLenencInt : PacketReader ℕ := do
  let firstByte ← readByte
  readLenencLength firstByte (ascii "invalid lenenc integer")

/-- The rest of a length-encoded string, once its length is known. -/
def readLenencBody (len : ℕ) : PacketReader Bytes := do
  let rest ← get
  if len > rest.length then throw (makeProtocolError (ascii "lenenc string overflow"))
  else readString len

/-- `read_lenenc_string_optional`. -/
def readLenencStringOptional : PacketReader (Option Bytes) := do
  let firstByte ← readByte
  if firstByte = 0xfb then pure none
  else do
    let len ← readLenencLength firstByte (ascii "invalid lenenc string")
    some <$> readLenencBody len

/-- `read_lenenc_string`. -/
def readLenencString : PacketReader Bytes :=
  (fun value ↦ value.getD []) <$> readLenencStringOptional

end PacketReader

/-! ## Length-encoded writes -/

/-- `append_lenenc_int`. -/
def appendLenencInt (value : ℕ) : Bytes :=
  if value < 0xfb then [UInt8.ofNat value]
  else if value ≤ 0xffff then 0xfc :: leBytes 2 value
  else if value ≤ 0xffffff then 0xfd :: leBytes 3 value
  else 0xfe :: leBytes 8 value

/-- `append_lenenc_string`. -/
def appendLenencString (value : Bytes) : Bytes := appendLenencInt value.length ++ value

/-- The wire form of a value that may be `NULL`. -/
def appendLenencOptional : Option Bytes → Bytes
  | none => [0xfb]
  | some value => appendLenencString value

/-! ## Round trips -/

namespace PacketReader

theorem readString_of_le {size : ℕ} {rest : Bytes} (h : size ≤ rest.length) :
    (readString size).run rest = .ok (rest.take size, rest.drop size) := by
  change (if rest.length < size then _ else _) = _
  rw [if_neg (Nat.not_lt.mpr h)]

theorem decodes_readString {size : ℕ} {bs : Bytes} (h : bs.length = size) :
    Decodes (readString size) bs bs := by
  intro rest
  rw [readString_of_le (by rw [List.length_append]; omega), ← h, List.take_left, List.drop_left]

theorem decodes_readByte (b : Byte) : Decodes readByte [b] b := by
  have hread : Decodes (readString 1) [b] [b] := decodes_readString rfl
  exact hread.map _

theorem readByte_of_le {rest : Bytes} (h : 1 ≤ rest.length) :
    readByte.run rest = .ok ((rest.take 1).headD 0, rest.drop 1) := by
  rw [readByte, StateT.run_map, readString_of_le h]
  rfl

theorem decodes_readLe {k n : ℕ} (h : n < 256 ^ k) : Decodes (readLe k) (leBytes k n) n := by
  have := (decodes_readString (length_leBytes k n)).map leValue
  rwa [leValue_leBytes h] at this

theorem readLe_of_le {k : ℕ} {rest : Bytes} (h : k ≤ rest.length) :
    (readLe k).run rest = .ok (leValue (rest.take k), rest.drop k) := by
  rw [readLe, StateT.run_map, readString_of_le h]
  rfl

/-- The forms of a length-encoded integer, one first byte for each. -/
theorem exists_appendLenencInt_eq {n : ℕ} (h : n < 256 ^ 8) (invalid : Bytes) :
    ∃ b bs, appendLenencInt n = b :: bs ∧ b ≠ 0xfb ∧ b ≠ 0xff ∧
      Decodes (readLenencLength b invalid) bs n := by
  rw [appendLenencInt]
  split_ifs with h1 h2 h3
  · have hlt : UInt8.ofNat n < 0xfb := by
      rw [UInt8.lt_iff_toNat_lt, UInt8.toNat_ofNat']
      change n % 256 < 251
      omega
    have hto : (UInt8.ofNat n).toNat = n := by
      rw [UInt8.toNat_ofNat']
      omega
    refine ⟨_, _, rfl, UInt8.ne_of_lt hlt, UInt8.ne_of_lt (UInt8.lt_trans hlt (by decide)), ?_⟩
    rw [readLenencLength, if_pos hlt, hto]
    exact Decodes.pure n
  · exact ⟨_, _, rfl, by decide, by decide, decodes_readLe (by omega)⟩
  · exact ⟨_, _, rfl, by decide, by decide, decodes_readLe (by omega)⟩
  · exact ⟨_, _, rfl, by decide, by decide, decodes_readLe h⟩

/-- **Integers.** Every 64-bit value is read back from its encoding. -/
theorem decodes_readLenencInt {n : ℕ} (h : n < 256 ^ 8) :
    Decodes readLenencInt (appendLenencInt n) n := by
  obtain ⟨b, bs, heq, -, -, hbs⟩ := exists_appendLenencInt_eq h (ascii "invalid lenenc integer")
  rw [heq]
  exact (decodes_readByte b).bind hbs

theorem decodes_readLenencBody (value : Bytes) :
    Decodes (readLenencBody value.length) value value := by
  intro rest
  rw [readLenencBody, run_get_bind, if_neg (by rw [List.length_append]; omega)]
  exact decodes_readString rfl rest

/-- The first byte of a value: never that of an error packet, and `0xfe` only in front of an
eight-byte length. -/
theorem exists_appendLenencOptional_eq {value : Option Bytes}
    (h : ∀ bs ∈ value, bs.length < 256 ^ 8) :
    ∃ b bs, appendLenencOptional value = b :: bs ∧ b ≠ 0xff ∧ (b = 0xfe → 8 ≤ bs.length) := by
  cases value with
  | none => exact ⟨0xfb, [], rfl, by decide, by decide⟩
  | some bs =>
    rw [appendLenencOptional, appendLenencString]
    obtain ⟨b, ls, heq, -, hb, -⟩ := exists_appendLenencInt_eq (h bs rfl) []
    refine ⟨b, ls ++ bs, by rw [heq, List.cons_append], hb, ?_⟩
    rintro rfl
    rw [appendLenencInt] at heq
    split_ifs at heq with h1 h2 h3
    · rw [List.cons.injEq, ← UInt8.toNat_inj, UInt8.toNat_ofNat'] at heq
      have h254 : (0xfe : UInt8).toNat = 254 := rfl
      omega
    · exact absurd (List.cons.inj heq).1 (by decide)
    · exact absurd (List.cons.inj heq).1 (by decide)
    · rw [← (List.cons.inj heq).2, List.length_append, length_leBytes]
      omega

/-- **Strings.** A value that may be `NULL` is read back, `NULL` and the empty string apart. -/
theorem decodes_readLenencStringOptional {value : Option Bytes}
    (h : ∀ bs ∈ value, bs.length < 256 ^ 8) :
    Decodes readLenencStringOptional (appendLenencOptional value) value := by
  cases value with
  | none => exact (decodes_readByte 0xfb).bind (Decodes.pure none)
  | some bs =>
    obtain ⟨b, ls, heq, hb, -, hls⟩ :=
      exists_appendLenencInt_eq (h bs rfl) (ascii "invalid lenenc string")
    rw [appendLenencOptional, appendLenencString, heq, List.cons_append]
    apply (decodes_readByte b).bind
    rw [if_neg hb]
    exact hls.bind ((decodes_readLenencBody bs).map some)

theorem decodes_readLenencString {bs : Bytes} (h : bs.length < 256 ^ 8) :
    Decodes readLenencString (appendLenencString bs) bs := by
  have hsome : ∀ bs' ∈ some bs, bs'.length < 256 ^ 8 := by simpa using h
  exact (decodes_readLenencStringOptional hsome).map _

end PacketReader

end Ormpp
