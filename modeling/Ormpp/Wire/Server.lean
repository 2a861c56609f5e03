import Ormpp.Wire.Capability
import Ormpp.Wire.Framing
import Ormpp.Wire.Packet

/-!
# What a server sends

The grammar of a text result set, written from the side of the server: column definitions, rows
and terminators as data, and the packets that carry them. Nothing here is translated from the
client; it is what the client's reader is compared with.

A string that is sent carries its own bound: a length-encoded string cannot be longer than a 64-bit
length can say.
-/

namespace Ormpp

open PacketReader Decoder

/-- A string that a length-encoded field can hold. -/
structure WireString where
  bytes : Bytes
  length_lt : bytes.length < 256 ^ 8

instance : Inhabited WireString := ⟨⟨[], by decide⟩⟩

/-- The value of a field that may be `NULL`. -/
abbrev WireValue := Option WireString

/-- The bytes of a value, as the client is to return them. -/
def WireValue.toText (v : WireValue) : Option Bytes := v.map WireString.bytes

/-! ## The packets of a stream -/

/-- Packets as they appear on the wire, one after the other, their frames numbered on. -/
def wireStream (sequenceId : Byte) : List Bytes → Bytes
  | [] => []
  | p :: ps => wirePacket sequenceId p ++ wireStream (sequenceIdAfter sequenceId p) ps

theorem length_le_length_wireStream (ps : List Bytes) (sequenceId : Byte) :
    ps.length ≤ (wireStream sequenceId ps).length := by
  induction ps generalizing sequenceId with
  | nil => exact Nat.zero_le _
  | cons p ps ih =>
    have hne := List.length_pos_iff.mpr (chunks_ne_nil 0xfffffe p)
    have hp := length_le_length_wireFrames (packetChunks p) sequenceId
    have hps := ih (sequenceIdAfter sequenceId p)
    rw [packetChunks] at hp
    rw [wireStream, List.length_cons, List.length_append, wirePacket, packetChunks]
    omega

/-- The first packet of a stream is read, and the stream of the others is left. -/
theorem readPacket_wireStream {s : MysqlAsync} {sequenceId : Byte} {p : Bytes} {ps : List Bytes}
    {rest : Bytes} (hopen : s.socketOpen = true)
    (hin : s.input = wireStream sequenceId (p :: ps) ++ rest) :
    readPacket s = .ok p
      { s with
        input := wireStream (sequenceIdAfter sequenceId p) ps ++ rest
        sequenceId := sequenceIdAfter sequenceId p } := by
  rw [wireStream, List.append_assoc] at hin
  exact readPacket_wirePacket hopen hin

/-! ## Column definitions -/

/-- A column definition of the protocol. -/
structure ColumnSpec where
  catalog : WireString
  schema : WireString
  table : WireString
  orgTable : WireString
  name : WireString
  orgName : WireString
  characterSet : UInt16
  columnLength : UInt32
  type : Byte
  flags : UInt16
  decimals : Byte
  deriving Inhabited

/-- The fixed part of a column definition, after its length `0x0c`. -/
def ColumnSpec.fixedPart (c : ColumnSpec) : Bytes :=
  leBytes 2 c.characterSet.toNat ++ leBytes 4 c.columnLength.toNat ++ [c.type] ++
    leBytes 2 c.flags.toNat ++ [c.decimals] ++ [0, 0]

def ColumnSpec.packet (c : ColumnSpec) : Bytes :=
  appendLenencString c.catalog.bytes ++ appendLenencString c.schema.bytes ++
    appendLenencString c.table.bytes ++ appendLenencString c.orgTable.bytes ++
    appendLenencString c.name.bytes ++ appendLenencString c.orgName.bytes ++
    ([0x0c] ++ c.fixedPart)

theorem exists_skipFiller (rest : Bytes) : ∃ rest', skipFiller.run rest = .ok ((), rest') := by
  rw [skipFiller, run_get_bind]
  split_ifs with h
  · rw [skip, StateT.run_map, readString_of_le h]
    exact ⟨_, rfl⟩
  · exact ⟨_, rfl⟩

/-- A well-formed definition parses. The reader is one string ahead of the packet, so it takes the
length of the last string for that of the fixed part, and the fixed part from what follows; there
is always enough of it. -/
theorem exists_parseColumnDefinition (c : ColumnSpec) :
    ∃ column, parseColumnDefinition c.packet = .ok column := by
  have hstr (w : WireString) := decodes_readLenencString w.length_lt
  have hlen := decodes_readLenencInt c.orgName.length_lt
  have hpacket : c.packet = appendLenencString c.catalog.bytes ++
      (appendLenencString c.schema.bytes ++ (appendLenencString c.table.bytes ++
        (appendLenencString c.orgTable.bytes ++ (appendLenencString c.name.bytes ++
          (appendLenencInt c.orgName.bytes.length ++
            (c.orgName.bytes ++ ([0x0c] ++ c.fixedPart))))))) := by
    simp only [ColumnSpec.packet, appendLenencString, List.append_assoc]
  have htail : 10 ≤ (c.orgName.bytes ++ ([0x0c] ++ c.fixedPart)).length := by
    simp only [List.length_append, ColumnSpec.fixedPart, length_leBytes, List.length_singleton]
    omega
  generalize c.orgName.bytes ++ ([0x0c] ++ c.fixedPart) = tail at hpacket htail
  obtain ⟨rest', hfiller⟩ := exists_skipFiller (((((tail.drop 2).drop 4).drop 1).drop 2).drop 1)
  rw [parseColumnDefinition, hpacket, StateT.run'_eq, run_bind_ok (hstr c.catalog _),
    run_bind_ok (hstr c.schema _), run_bind_ok (hstr c.table _), run_bind_ok (hstr c.orgTable _),
    run_bind_ok (hstr c.name _), run_bind_ok (hlen _)]
  rw [readU16, readU32, run_bind_ok (readLe_of_le (by omega)),
    run_bind_ok (readLe_of_le (by simp only [List.length_drop]; omega)),
    run_bind_ok (readByte_of_le (by simp only [List.length_drop]; omega)),
    run_bind_ok (readLe_of_le (by simp only [List.length_drop]; omega)),
    run_bind_ok (readByte_of_le (by simp only [List.length_drop]; omega)),
    run_bind_ok hfiller]
  exact ⟨_, rfl⟩

/-! ## Rows -/

abbrev WireRow := List WireValue

/-- The row that the client is to return. -/
def WireRow.toText (row : WireRow) : TextRow := row.map WireValue.toText

def WireRow.packet (row : WireRow) : Bytes := row.toText.flatMap appendLenencOptional

theorem WireValue.length_lt {v : WireValue} : ∀ bs ∈ v.toText, bs.length < 256 ^ 8 := by
  intro bs hbs
  obtain ⟨w, -, rfl⟩ := Option.map_eq_some_iff.mp hbs
  exact w.length_lt

/-- A row is read back from its packet, column by column. -/
theorem WireRow.decodes (row : WireRow) :
    Decodes (repeatN readLenencStringOptional row.length) row.packet row.toText := by
  have hrow :
      Decodes (repeatN readLenencStringOptional row.toText.length) row.packet row.toText := by
    refine decodes_repeatN fun v hv ↦ decodes_readLenencStringOptional ?_
    obtain ⟨w, -, rfl⟩ := List.mem_map.mp hv
    exact WireValue.length_lt
  rwa [WireRow.toText, List.length_map] at hrow

theorem parseTextRow_packet (row : WireRow) :
    parseTextRow row.packet row.length = .ok row.toText := by
  rw [parseTextRow, StateT.run'_eq, row.decodes.run_self]
  rfl

/-- A row packet with a column in it is neither an error nor the end of the rows. -/
theorem row_packet_distinct {row : WireRow} (hne : row ≠ []) :
    isErrPacket row.packet = false ∧ looksLikeEofPacket row.packet = false := by
  obtain ⟨v, vs, rfl⟩ := List.exists_cons_of_ne_nil hne
  obtain ⟨b, bs, heq, hff, hfe⟩ := exists_appendLenencOptional_eq (WireValue.length_lt (v := v))
  have hpacket : WireRow.packet (v :: vs)
      = b :: (bs ++ WireRow.packet vs) := by
    rw [WireRow.packet, WireRow.toText, List.map_cons, List.flatMap_cons, heq, List.cons_append]
    rfl
  rw [isErrPacket, looksLikeEofPacket, hpacket, List.head?_cons]
  refine ⟨by simpa using hff, ?_⟩
  by_cases hb : b = 0xfe
  · have := hfe hb
    rw [Bool.and_eq_false_iff, decide_eq_false_iff_not, List.length_cons, List.length_append]
    exact Or.inl (by omega)
  · rw [Bool.and_eq_false_iff]
    exact Or.inr (by simpa using hb)

/-! ## Result sets -/

/-- The content of a result set: at least one column, no more than a column count can say, and
rows as wide as the columns. -/
structure ResultSet where
  columns : List ColumnSpec
  columns_ne_nil : columns ≠ []
  columns_length_lt : columns.length < 256 ^ 8
  rows : List WireRow
  row_length : ∀ row ∈ rows, row.length = columns.length

namespace ResultSet

variable (rs : ResultSet)

/-- The rows that the client is to return. -/
def toText : List TextRow := rs.rows.map WireRow.toText

/-- The column count and the column definitions. -/
def headPackets : List Bytes :=
  appendLenencInt rs.columns.length :: rs.columns.map ColumnSpec.packet

def rowPackets : List Bytes := rs.rows.map WireRow.packet

/-- A result set with one column. -/
def ofColumn (values : List WireValue) : ResultSet where
  columns := [default]
  columns_ne_nil := by simp
  columns_length_lt := by decide
  rows := values.map fun v ↦ [v]
  row_length := by simp

end ResultSet

/-! ## The end of a response -/

/-- The fields of an OK packet as a server fills them in. `trailer` is the information text and the
session state behind the fixed fields, of any length. -/
structure OkFields where
  affectedRows : UInt64 := 0
  lastInsertId : UInt64 := 0
  statusFlags : UInt16 := 0
  warnings : UInt16 := 0
  trailer : Bytes := []

/-- An OK packet with the given header byte. -/
def OkFields.packet (ok : OkFields) (header : Byte) : Bytes :=
  [header] ++ (appendLenencInt ok.affectedRows.toNat ++ (appendLenencInt ok.lastInsertId.toNat ++
    (leBytes 2 ok.statusFlags.toNat ++ (leBytes 2 ok.warnings.toNat ++ ok.trailer))))

/-- The EOF packet that stands in for it without `CLIENT_DEPRECATE_EOF`. -/
def OkFields.eofPacket (ok : OkFields) : Bytes :=
  0xfe :: (leBytes 2 ok.warnings.toNat ++ leBytes 2 ok.statusFlags.toNat)

/-- The packets of a result set under the negotiated capabilities: an EOF packet after the column
definitions and another after the rows, or no packet after the definitions and an OK packet after
the rows. -/
def ResultSet.packets (rs : ResultSet) (capabilities : UInt32) (finalOk eof : Bytes) : List Bytes :=
  if deprecatesEof capabilities then rs.headPackets ++ (rs.rowPackets ++ [finalOk])
  else rs.headPackets ++ (eof :: (rs.rowPackets ++ [eof]))

theorem readStatusAndWarnings_run (statusFlags warnings : UInt16) (trailer : Bytes) :
    readStatusAndWarnings.run
        (leBytes 2 statusFlags.toNat ++ (leBytes 2 warnings.toNat ++ trailer))
      = .ok ((statusFlags.toNat, warnings.toNat), trailer) := by
  have hu16 (v : UInt16) : Decodes readU16 (leBytes 2 v.toNat) v.toNat :=
    decodes_readLe (by have := v.toNat_lt; omega)
  rw [readStatusAndWarnings, run_get_bind,
    if_pos (by simp only [List.length_append, length_leBytes]; omega),
    run_bind_ok (hu16 statusFlags _), run_bind_ok (hu16 warnings _)]
  rfl

theorem readRemaining_run (rest : Bytes) : readRemaining.run rest = .ok (rest, []) := by
  rw [readRemaining, run_get_bind, readString_of_le (Nat.le_refl _), List.take_length,
    List.drop_length]

/-- An OK packet is parsed to the fields that were sent. -/
theorem parseOkPacket_packet (ok : OkFields) {header : Byte} (h : header = 0x00 ∨ header = 0xfe) :
    parseOkPacket (ok.packet header) = .ok
      { affectedRows := ok.affectedRows.toNat
        lastInsertId := ok.lastInsertId.toNat
        statusFlags := ok.statusFlags.toNat
        warnings := ok.warnings.toNat
        info := ok.trailer } := by
  have hu64 (v : UInt64) : Decodes readLenencInt (appendLenencInt v.toNat) v.toNat :=
    decodes_readLenencInt (by have := v.toNat_lt; omega)
  have hheader : ¬(header ≠ 0x00 ∧ header ≠ 0xfe) := by
    rintro ⟨h0, hfe⟩
    exact h.elim h0 hfe
  rw [parseOkPacket, OkFields.packet, StateT.run'_eq, run_bind_ok (decodes_readByte header _),
    if_neg hheader, run_bind_ok (hu64 ok.affectedRows _), run_bind_ok (hu64 ok.lastInsertId _),
    run_bind_ok (readStatusAndWarnings_run _ _ _), run_bind_ok (readRemaining_run _)]
  rfl

theorem looksLikeEofPacket_iff {p : Bytes} (h : p.head? = some 0xfe) :
    looksLikeEofPacket p = true ↔ p.length < 9 := by
  simp [looksLikeEofPacket, h]

/-- A column count is not taken for an OK packet, since there is a column. -/
theorem isOkPacket_appendLenencInt {n : ℕ} (h : 0 < n) :
    isOkPacket (appendLenencInt n) = false := by
  rw [isOkPacket, appendLenencInt]
  split_ifs with h1
  · have hne : UInt8.ofNat n ≠ 0 := by
      rw [ne_eq, ← UInt8.toNat_inj, UInt8.toNat_ofNat']
      change ¬n % 256 = 0
      omega
    simpa using hne
  all_goals rfl

theorem isErrPacket_of_head {p : Bytes} {b : Byte} (h : p.head? = some b) (hb : b ≠ 0xff) :
    isErrPacket p = false := by
  rw [isErrPacket, h]
  simpa using hb

end Ormpp
