import Ormpp.Wire.PacketReader

/-!
# Packets of a command response

The packets that a server can send in answer to a command, as the client classifies and parses
them. A packet is classified by its first byte and, for the end of a result set, by its size; it is
then parsed from the front, and what a parser does not read it ignores.
-/

namespace Ormpp

open PacketReader

/-! ## Records -/

structure OkPacket where
  affectedRows : ℕ := 0
  lastInsertId : ℕ := 0
  statusFlags : ℕ := 0
  warnings : ℕ := 0
  info : Bytes := []
  deriving DecidableEq

structure ErrorPacket where
  code : ℕ := 0
  sqlState : Bytes := []
  message : Bytes := []
  deriving DecidableEq

structure ColumnDefinition where
  schema : Bytes := []
  table : Bytes := []
  orgTable : Bytes := []
  name : Bytes := []
  orgName : Bytes := []
  characterSet : ℕ := 0
  columnLength : ℕ := 0
  type : Byte := 0
  flags : ℕ := 0
  decimals : Byte := 0
  deriving DecidableEq

/-- A row of a text result set. -/
abbrev TextRow := List (Option Bytes)

structure QueryResult where
  hasResultset : Bool := false
  ok : OkPacket := {}
  columns : List ColumnDefinition := []
  rows : List TextRow := []
  deriving DecidableEq

/-! ## Classification -/

def isErrPacket (payload : Bytes) : Bool := payload.head? == some 0xff

def isOkPacket (payload : Bytes) : Bool := payload.head? == some 0x00

def looksLikeEofPacket (payload : Bytes) : Bool :=
  payload.length < 9 && payload.head? == some 0xfe

/-! ## Parsers -/

/-- The optional `#` and five-byte SQL state of an error packet. -/
def readSqlState : PacketReader Bytes := do
  let rest ← get
  if rest.head? = some 0x23 then do
    skip 1
    readString 5
  else pure []

/-- `parse_error_packet`. -/
def parseErrorPacket (payload : Bytes) : Except Exn ErrorPacket :=
  StateT.run' (do
    let header ← readByte
    if header ≠ 0xff then throw (makeProtocolError (ascii "not an error packet"))
    else do
      let code ← readU16
      let sqlState ← readSqlState
      let message ← readRemaining
      pure { code, sqlState, message } : PacketReader ErrorPacket) payload

/-- The status flags and the warning count of an OK packet, when there is room for both. -/
def readStatusAndWarnings : PacketReader (ℕ × ℕ) := do
  let rest ← get
  if rest.length ≥ 4 then do
    let statusFlags ← readU16
    let warnings ← readU16
    pure (statusFlags, warnings)
  else pure (0, 0)

/-- `parse_ok_packet`. -/
def parseOkPacket (payload : Bytes) : Except Exn OkPacket :=
  StateT.run' (do
    let header ← readByte
    if header ≠ 0x00 ∧ header ≠ 0xfe then throw (makeProtocolError (ascii "not an ok packet"))
    else do
      let affectedRows ← readLenencInt
      let lastInsertId ← readLenencInt
      let (statusFlags, warnings) ← readStatusAndWarnings
      let info ← readRemaining
      pure { affectedRows, lastInsertId, statusFlags, warnings, info } :
      PacketReader OkPacket) payload

/-- The two filler bytes at the end of a column definition, when they are there. -/
def skipFiller : PacketReader Unit := do
  let rest ← get
  if rest.length ≥ 2 then skip 2 else pure ()

/-- `parse_column_definition`. The five strings are read from the front of the packet, where the
protocol has six: the catalog comes before the schema. Each member thus holds the string before
its own, and the fixed part is looked for where the last string begins. -/
def parseColumnDefinition (payload : Bytes) : Except Exn ColumnDefinition :=
  StateT.run' (do
    let schema ← readLenencString
    let table ← readLenencString
    let orgTable ← readLenencString
    let name ← readLenencString
    let orgName ← readLenencString
    let _fixedLen ← readLenencInt
    let characterSet ← readU16
    let columnLength ← readU32
    let type ← readByte
    let flags ← readU16
    let decimals ← readByte
    skipFiller
    pure
      { schema, table, orgTable, name, orgName, characterSet, columnLength, type, flags,
        decimals } :
      PacketReader ColumnDefinition) payload

/-- `parse_text_row`. -/
def parseTextRow (payload : Bytes) (columns : ℕ) : Except Exn TextRow :=
  StateT.run' (Decoder.repeatN readLenencStringOptional columns) payload

end Ormpp
