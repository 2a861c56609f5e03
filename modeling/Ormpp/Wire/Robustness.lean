import Ormpp.Wire.PacketCursor

/-!
# Parsers of hostile payloads

The parsers of the client as they walk over a payload in memory. Whatever the payload is, and
whatever lies behind it, each of them follows its decoder: it returns or throws a protocol error,
and reads nothing but the payload. A text row is parsed into a vector that is made large enough
first; more columns than a vector can have are refused before anything is read.
-/

namespace Ormpp

namespace PacketCursor

open CursorReader

variable (m : Memory Byte)

/-! ## The parsers -/

/-- The optional `#` and SQL state of `parse_error_packet`. -/
def readSqlState : Reader Bytes := do
  let left ← remaining m
  if left ≥ 1 then do
    let b ← loadAt m 0
    if b = 0x23 then do
      skip m 1
      readString m 5
    else pure []
  else pure []

/-- `read_string(remaining())`. -/
def readRemaining : Reader Bytes := do
  let left ← remaining m
  readString m left

/-- `parse_error_packet`. -/
def parseErrorPacket : Reader ErrorPacket := do
  let header ← readByte m
  if header ≠ 0xff then throw (.protocolError (ascii "not an error packet"))
  else do
    let code ← readU16 m
    let sqlState ← readSqlState m
    let message ← readRemaining m
    pure { code, sqlState, message }

/-- The status flags and the warning count of `parse_ok_packet`. -/
def readStatusAndWarnings : Reader (ℕ × ℕ) := do
  let left ← remaining m
  if left ≥ 4 then do
    let statusFlags ← readU16 m
    let warnings ← readU16 m
    pure (statusFlags, warnings)
  else pure (0, 0)

/-- The information text of `parse_ok_packet`. -/
def readInfo : Reader Bytes := do
  let atEnd ← empty m
  if !atEnd then readRemaining m else pure []

/-- `parse_ok_packet`. -/
def parseOkPacket : Reader OkPacket := do
  let header ← readByte m
  if header ≠ 0x00 ∧ header ≠ 0xfe then throw (.protocolError (ascii "not an ok packet"))
  else do
    let affectedRows ← readLenencInt m
    let lastInsertId ← readLenencInt m
    let (statusFlags, warnings) ← readStatusAndWarnings m
    let info ← readInfo m
    pure { affectedRows, lastInsertId, statusFlags, warnings, info }

/-- The two filler bytes of `parse_column_definition`. -/
def skipFiller : Reader Unit := do
  let left ← remaining m
  if left ≥ 2 then skip m 2 else pure ()

/-- `parse_column_definition`. -/
def parseColumnDefinition : Reader ColumnDefinition := do
  let schema ← readLenencString m
  let table ← readLenencString m
  let orgTable ← readLenencString m
  let name ← readLenencString m
  let orgName ← readLenencString m
  let _fixedLen ← readLenencInt m
  let characterSet ← readU16 m
  let columnLength ← readU32 m
  let type ← readByte m
  let flags ← readU16 m
  let decimals ← readByte m
  skipFiller m
  pure
    { schema, table, orgTable, name, orgName, characterSet, columnLength, type, flags, decimals }

/-- The loop of `parse_text_row`. -/
def readColumns : ℕ → Reader TextRow
  | 0 => pure []
  | columns + 1 => do
    let value ← readLenencStringOptional m
    let row ← readColumns columns
    pure (value :: row)

/-- `row.reserve(columns)`, where a vector has room for `maxSize` elements at most. -/
def reserve (maxSize columns : ℕ) : Reader Unit :=
  if columns > maxSize then throw .lengthError else pure ()

/-- `parse_text_row`. -/
def parseTextRow (maxSize columns : ℕ) : Reader TextRow := do
  reserve maxSize columns
  readColumns m columns

/-- The length of the authentication data, or a byte that says nothing. -/
def readAuthPluginLen (capabilities : UInt32) : Reader Byte :=
  if hasFlag capabilities clientPluginAuth then readByte m
  else do
    skip m 1
    pure 0

/-- The second part of the scramble. -/
def readScramblePart (capabilities : UInt32) (authPluginLen : Byte) : Reader Bytes :=
  if hasFlag capabilities clientSecureConnection then do
    let part2 ← readString m (max 13 (authPluginLen.toNat - 8))
    pure (dropTerminator part2)
  else pure []

/-- The name of the plugin. -/
def readAuthPluginName (capabilities : UInt32) : Reader Bytes := do
  let atEnd ← empty m
  if hasFlag capabilities clientPluginAuth ∧ !atEnd then readNullTerminatedString m
  else pure mysqlNativePassword

/-- What follows the lower half of the capabilities. -/
def readHandshakeRest (protocolVersion : Byte) (serverVersion : Bytes) (connectionId : ℕ)
    (scramble1 : Bytes) (lower : ℕ) : Reader ServerHandshake := do
  let characterSet ← readByte m
  let statusFlags ← readU16 m
  let upper ← readU16 m
  let capabilities := joinCapabilities lower upper
  let authPluginLen ← readAuthPluginLen m capabilities
  skip m 10
  let part2 ← readScramblePart m capabilities authPluginLen
  let authPluginName ← readAuthPluginName m capabilities
  pure
    { protocolVersion, serverVersion, connectionId, capabilities, characterSet, statusFlags,
      authPluginName, scramble := copyScramble (scramble1 ++ part2) }

/-- `parse_server_handshake`. -/
def parseServerHandshake : Reader ServerHandshake := do
  let protocolVersion ← readByte m
  let serverVersion ← readNullTerminatedString m
  let connectionId ← readU32 m
  let scramble1 ← readString m 8
  skip m 1
  let lower ← readU16 m
  let atEnd ← empty m
  if atEnd then throw (.protocolError (ascii "old mysql protocol is not supported"))
  else readHandshakeRest m protocolVersion serverVersion connectionId scramble1 lower

/-! ## Following the decoders -/

variable {m}

/-- The parser does what a parser does that reads the unread suffix. -/
def Implements {α : Type} (m : Memory Byte) (x : Reader α) (parse : Bytes → Except Exn α) : Prop :=
  ∃ d : PacketReader α, (∀ payload, parse payload = StateT.run' d payload) ∧
    Follows m ReaderExn.toExn x d

/-- What such a parser throws is a protocol error. -/
theorem Implements.exists_of_error {α : Type} {x : Reader α} {parse : Bytes → Except Exn α}
    (h : Implements m x parse) {e : Exn} (he : parse m.content = .error e) :
    ∃ msg, e = makeProtocolError msg := by
  obtain ⟨d, hparse, hfollows⟩ := h
  have hagree := hfollows {} (Cursor.within_start m)
  rw [hparse, StateT.run'_eq] at he
  change Agree m ReaderExn.toExn {} (x {}) (d.run m.content) at hagree
  generalize d.run m.content = r at he hagree
  generalize x {} = r' at hagree
  obtain hreach | ⟨hreach, he'⟩ := hagree
  · exact absurd he nofun
  · cases he
    obtain ⟨msg, rfl⟩ := ReaderExn.exists_of_toExn_eq_some he'
    cases he'
    exact ⟨msg, rfl⟩

theorem empty_of_within {c : Cursor} (hc : c.Within m) :
    empty m c = .ok ((m.content.drop c.cur).length == 0) c := by
  have hcur := hc.cur
  have heq : (c.cur == m.content.length) = ((m.content.drop c.cur).length == 0) := by
    rw [List.length_drop, Bool.eq_iff_iff, beq_iff_eq, beq_iff_eq]
    omega
  rw [empty, heq]

theorem follows_empty_bind {α : Type} {x : Bool → Reader α} {d : Bytes → PacketReader α}
    (h : ∀ rest : Bytes, Follows m ReaderExn.toExn (x (rest.length == 0)) (d rest)) :
    Follows m ReaderExn.toExn (empty m >>= x) (get >>= d) := by
  intro c hc
  rw [Effect.bind_of_ok (empty_of_within hc)]
  exact h (m.content.drop c.cur) c hc

/-- Nothing is read, and everything is left. -/
theorem agree_unread {c : Cursor} (hc : c.Within m) :
    Agree m ReaderExn.toExn c (.ok ([] : Bytes) c)
      (.ok ([], m.content.drop c.cur) : Except Exn (Bytes × Bytes)) := .ok hc.reaches

theorem follows_readSqlState :
    Follows m ReaderExn.toExn (readSqlState m) Ormpp.readSqlState := by
  have hstate : Follows m ReaderExn.toExn (do skip m 1; readString m 5)
      (do PacketReader.skip 1; PacketReader.readString 5) :=
    (follows_skip 1).bind fun _ ↦ follows_readString 5
  intro c hc
  rw [readSqlState, Effect.bind_of_ok (remaining_of_within hc), Ormpp.readSqlState,
    Decoder.run_get_bind]
  by_cases hlt : c.cur < m.content.length
  · have hleft : (m.content.drop c.cur).length ≥ 1 := by
      rw [List.length_drop]
      omega
    have hhead : (m.content.drop c.cur).head? = some m.content[c.cur] := by
      rw [List.drop_eq_getElem_cons hlt, List.head?_cons]
    have hload := reaches_loadAt hc (i := 0) hlt
    rw [if_pos hleft, Effect.bind_of_ok (loadAt_eq m 0 c), add_zero, Memory.load_of_lt hlt, hhead]
    by_cases hmark : m.content[c.cur] = 0x23
    · rw [if_pos hmark, if_pos (congrArg some hmark)]
      exact (hstate _ hload.within).of_reaches hload
    · rw [if_neg hmark, if_neg fun h ↦ hmark (Option.some.inj h)]
      exact .ok hload
  · have hnil : m.content.drop c.cur = [] := List.drop_eq_nil_of_le (Nat.le_of_not_lt hlt)
    have hagree := agree_unread hc
    rw [hnil] at hagree ⊢
    exact hagree

theorem follows_readRemaining :
    Follows m ReaderExn.toExn (readRemaining m) PacketReader.readRemaining :=
  follows_remaining_bind fun _ ↦ follows_readString _

theorem implements_parseErrorPacket :
    Implements m (parseErrorPacket m) Ormpp.parseErrorPacket := by
  refine ⟨_, fun _ ↦ rfl, follows_readByte.bind fun header ↦ .ite (.throw rfl) ?_⟩
  exact follows_readU16.bind fun _ ↦ follows_readSqlState.bind fun _ ↦
    follows_readRemaining.bind fun _ ↦ .pure _

theorem follows_readStatusAndWarnings :
    Follows m ReaderExn.toExn (readStatusAndWarnings m) Ormpp.readStatusAndWarnings :=
  follows_remaining_bind fun _ ↦
    .ite (follows_readU16.bind fun _ ↦ follows_readU16.bind fun _ ↦ .pure _) (.pure _)

/-- At the end there is nothing to read. -/
theorem follows_readInfo :
    Follows m ReaderExn.toExn (readInfo m) PacketReader.readRemaining := by
  intro c hc
  rw [readInfo, Effect.bind_of_ok (empty_of_within hc)]
  by_cases hend : (m.content.drop c.cur).length = 0
  · have hnil : m.content.drop c.cur = [] := List.eq_nil_of_length_eq_zero hend
    have hagree := agree_unread hc
    rw [hnil] at hagree ⊢
    exact hagree
  · rw [beq_false_of_ne hend]
    exact follows_readRemaining c hc

theorem implements_parseOkPacket : Implements m (parseOkPacket m) Ormpp.parseOkPacket := by
  refine ⟨_, fun _ ↦ rfl, follows_readByte.bind fun header ↦ .ite (.throw rfl) ?_⟩
  exact follows_readLenencInt.bind fun _ ↦ follows_readLenencInt.bind fun _ ↦
    follows_readStatusAndWarnings.bind fun _ ↦ follows_readInfo.bind fun _ ↦ .pure _

theorem follows_skipFiller : Follows m ReaderExn.toExn (skipFiller m) Ormpp.skipFiller :=
  follows_remaining_bind fun _ ↦ .ite (follows_skip 2) (.pure ())

theorem implements_parseColumnDefinition :
    Implements m (parseColumnDefinition m) Ormpp.parseColumnDefinition := by
  refine ⟨_, fun _ ↦ rfl, ?_⟩
  exact follows_readLenencString.bind fun _ ↦ follows_readLenencString.bind fun _ ↦
    follows_readLenencString.bind fun _ ↦ follows_readLenencString.bind fun _ ↦
    follows_readLenencString.bind fun _ ↦ follows_readLenencInt.bind fun _ ↦
    follows_readU16.bind fun _ ↦ follows_readU32.bind fun _ ↦ follows_readByte.bind fun _ ↦
    follows_readU16.bind fun _ ↦ follows_readByte.bind fun _ ↦ follows_skipFiller.bind fun _ ↦
    .pure _

theorem follows_readColumns (columns : ℕ) :
    Follows m ReaderExn.toExn (readColumns m columns)
      (Decoder.repeatN PacketReader.readLenencStringOptional columns) := by
  induction columns with
  | zero => exact .pure []
  | succ columns ih =>
    exact follows_readLenencStringOptional.bind fun value ↦ ih.bind fun row ↦ .pure (value :: row)

theorem parseTextRow_of_le {maxSize columns : ℕ} (h : columns ≤ maxSize) :
    parseTextRow m maxSize columns = readColumns m columns := by
  rw [parseTextRow, reserve, if_neg (Nat.not_lt.mpr h)]
  rfl

theorem implements_parseTextRow {maxSize columns : ℕ} (h : columns ≤ maxSize) :
    Implements m (parseTextRow m maxSize columns) (Ormpp.parseTextRow · columns) := by
  rw [parseTextRow_of_le h]
  exact ⟨_, fun _ ↦ rfl, follows_readColumns columns⟩

theorem follows_readAuthPluginLen (capabilities : UInt32) :
    Follows m ReaderExn.toExn (readAuthPluginLen m capabilities)
      (Ormpp.readAuthPluginLen capabilities) :=
  .ite follows_readByte ((follows_skip 1).bind fun _ ↦ .pure 0)

theorem follows_readScramblePart (capabilities : UInt32) (authPluginLen : Byte) :
    Follows m ReaderExn.toExn (readScramblePart m capabilities authPluginLen)
      (Ormpp.readScramblePart capabilities authPluginLen) :=
  .ite ((follows_readString _).bind fun _ ↦ .pure _) (.pure [])

theorem follows_readAuthPluginName (capabilities : UInt32) :
    Follows m ReaderExn.toExn (readAuthPluginName m capabilities)
      (Ormpp.readAuthPluginName capabilities) := by
  apply follows_empty_bind
  intro rest
  have hend : (!(rest.length == 0)) = true ↔ rest.length ≠ 0 := by simp
  simp only [hend]
  exact .ite follows_readNullTerminatedString (.pure mysqlNativePassword)

theorem follows_readHandshakeRest (protocolVersion : Byte) (serverVersion : Bytes)
    (connectionId : ℕ) (scramble1 : Bytes) (lower : ℕ) :
    Follows m ReaderExn.toExn
      (readHandshakeRest m protocolVersion serverVersion connectionId scramble1 lower)
      (Ormpp.readHandshakeRest protocolVersion serverVersion connectionId scramble1 lower) :=
  follows_readByte.bind fun _ ↦ follows_readU16.bind fun _ ↦ follows_readU16.bind fun _ ↦
    (follows_readAuthPluginLen _).bind fun _ ↦ (follows_skip 10).bind fun _ ↦
    (follows_readScramblePart _ _).bind fun _ ↦ (follows_readAuthPluginName _).bind fun _ ↦ .pure _

theorem implements_parseServerHandshake :
    Implements m (parseServerHandshake m) Ormpp.parseServerHandshake := by
  refine ⟨_, fun _ ↦ rfl, ?_⟩
  refine follows_readByte.bind fun _ ↦ follows_readNullTerminatedString.bind fun _ ↦
    follows_readU32.bind fun _ ↦ (follows_readString 8).bind fun _ ↦ (follows_skip 1).bind fun _ ↦
    follows_readU16.bind fun _ ↦ follows_empty_bind fun rest ↦ ?_
  simp only [beq_iff_eq]
  exact .ite (.throw rfl) (follows_readHandshakeRest _ _ _ _ _)

/-- A parser that implements one of the decoders has its result. -/
theorem Implements.result {α : Type} {x : Reader α} {parse : Bytes → Except Exn α}
    (h : Implements m x parse) {a : α} {c : Cursor} (hx : x {} = .ok a c) :
    parse m.content = .ok a := by
  obtain ⟨d, hparse, hfollows⟩ := h
  have hrun := (hfollows.of_ok (Cursor.within_start m) hx).2
  change d.run m.content = _ at hrun
  rw [hparse, StateT.run'_eq, hrun]
  rfl

/-! ## Robustness -/

/-- The parser returns or throws the protocol error, reads nothing but the payload, and keeps the
cursor between its ends. -/
structure Robust (m : Memory Byte) {α : Type} (x : Reader α) : Prop where
  outcome : ∀ e c, x {} = .error e c → ∃ msg, e = .protocolError msg
  reads : ∀ i ∈ (Effect.final x {}).reads, i < m.content.length
  visited : ∀ i ∈ (Effect.final x {}).visited, i ≤ m.content.length

theorem Implements.robust {α : Type} {x : Reader α} {parse : Bytes → Except Exn α}
    (h : Implements m x parse) : Robust m x := by
  obtain ⟨d, -, hfollows⟩ := h
  have hwithin := (hfollows.reaches (Cursor.within_start m)).within
  refine ⟨fun e c hx ↦ ?_, hwithin.reads, hwithin.visited⟩
  obtain ⟨e', he, -⟩ := hfollows.of_error (Cursor.within_start m) hx
  exact ReaderExn.exists_of_toExn_eq_some he

/-- Every column takes at least one byte. -/
theorem length_add_cur_of_readColumns {columns : ℕ} {c c' : Cursor} {row : TextRow}
    (hc : c.Within m) (h : readColumns m columns c = .ok row c') :
    row.length = columns ∧ c.cur + columns ≤ c'.cur := by
  induction columns generalizing c row with
  | zero =>
    cases h
    exact ⟨rfl, Nat.le_refl _⟩
  | succ columns ih =>
    obtain ⟨value, t, hvalue, hrest⟩ := Effect.bind_eq_ok h
    have ht : t.Within m := (follows_readLenencStringOptional.of_ok hc hvalue).1.within
    have hlt : c.cur < t.cur := lt_of_readLenencStringOptional hc hvalue
    obtain ⟨row', u, hrow, hdone⟩ := Effect.bind_eq_ok hrest
    cases hdone
    obtain ⟨hlength, hcur⟩ := ih ht hrow
    exact ⟨congrArg Nat.succ hlength, by omega⟩

/-- What the parsers do with a payload, where a vector has room for `maxSize` elements. -/
structure ParsersRobust (m : Memory Byte) (maxSize : ℕ) : Prop where
  serverHandshake : Robust m (parseServerHandshake m)
  okPacket : Robust m (parseOkPacket m)
  errorPacket : Robust m (parseErrorPacket m)
  columnDefinition : Robust m (parseColumnDefinition m)
  textRow : ∀ columns ≤ maxSize, Robust m (parseTextRow m maxSize columns)
  /-- Too many columns are refused before anything is read. -/
  textRow_refused : ∀ columns, maxSize < columns →
    parseTextRow m maxSize columns {} = .error .lengthError {}
  /-- An iteration of the loop over the columns. -/
  advances : ∀ (c c' : Cursor) (value : Option Bytes), c.Within m →
    readLenencStringOptional m c = .ok value c' → c.cur < c'.cur
  /-- All iterations of the loop. -/
  columns_le : ∀ (columns : ℕ) (row : TextRow) (c : Cursor),
    parseTextRow m maxSize columns {} = .ok row c → row.length = columns ∧ columns ≤ c.cur

/-- **Hostile payloads.** No payload takes a parser past its end. -/
theorem parsersRobust (m : Memory Byte) (maxSize : ℕ) : ParsersRobust m maxSize where
  serverHandshake := implements_parseServerHandshake.robust
  okPacket := implements_parseOkPacket.robust
  errorPacket := implements_parseErrorPacket.robust
  columnDefinition := implements_parseColumnDefinition.robust
  textRow := fun _ h ↦ (implements_parseTextRow h).robust
  textRow_refused := by
    intro columns h
    rw [parseTextRow, reserve, if_pos h]
    rfl
  advances := fun _ _ _ hc h ↦ lt_of_readLenencStringOptional hc h
  columns_le := by
    intro columns row c h
    by_cases hle : columns ≤ maxSize
    · rw [parseTextRow_of_le hle] at h
      obtain ⟨hlength, hcur⟩ := length_add_cur_of_readColumns (Cursor.within_start m) h
      exact ⟨hlength, by omega⟩
    · rw [parseTextRow, reserve, if_pos (Nat.lt_of_not_le hle)] at h
      exact absurd h nofun

/-- More columns than a vector of optional strings can have, in an empty payload. -/
theorem not_robust_parseTextRow :
    ¬ ∀ (m : Memory Byte) (maxSize columns : ℕ), columns < 2 ^ 64 → maxSize < 2 ^ 63 →
      Robust m (parseTextRow m maxSize columns) := by
  intro h
  have hrobust := h ⟨[], fun _ ↦ 0⟩ ((2 ^ 63 - 1) / 40) (2 ^ 64 - 1) (by decide) (by decide)
  obtain ⟨msg, hmsg⟩ := hrobust.outcome .lengthError {} rfl
  exact absurd hmsg nofun

end PacketCursor

end Ormpp
