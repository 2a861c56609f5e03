import Ormpp.Wire.Response
import Ormpp.Wire.Server

/-!
# Result sets from the wire

What `readQueryResponse` makes of the packets of a result set. The head of the response is read by
counting and the rows one by one; both leave the rest of the stream as it was. The result then
hangs on the packet behind the rows: a short one with header `0xfe` ends the loop, and everything
else is taken for an error or for one more row.
-/

namespace Ormpp

open PacketReader

/-! ## Steps along the stream -/

/-- The connection once it has read up to the given packets of a stream. -/
def MysqlAsync.upTo (s : MysqlAsync) (sequenceId : Byte) (ps : List Bytes) (rest : Bytes) :
    MysqlAsync :=
  { s with input := wireStream sequenceId ps ++ rest, sequenceId }

theorem readPacket_upTo {s : MysqlAsync} (hopen : s.socketOpen = true) (q : Byte) (p : Bytes)
    (ps : List Bytes) (rest : Bytes) :
    readPacket (s.upTo q (p :: ps) rest) = .ok p (s.upTo (sequenceIdAfter q p) ps rest) :=
  readPacket_wireStream hopen rfl

/-- The column loop takes the definitions off the stream. -/
theorem readColumns_packets {s : MysqlAsync} (hopen : s.socketOpen = true) (ps : List Bytes)
    (rest : Bytes) (columns : List ColumnSpec) (q : Byte) :
    ∃ (parsed : List ColumnDefinition) (q' : Byte), parsed.length = columns.length ∧
      readColumns columns.length (s.upTo q (columns.map ColumnSpec.packet ++ ps) rest)
        = .ok parsed (s.upTo q' ps rest) := by
  induction columns generalizing q with
  | nil => exact ⟨[], q, rfl, rfl⟩
  | cons c columns ih =>
    obtain ⟨column, hcolumn⟩ := exists_parseColumnDefinition c
    obtain ⟨parsed, q', hlen, hread⟩ := ih (sequenceIdAfter q c.packet)
    refine ⟨column :: parsed, q', by rw [List.length_cons, List.length_cons, hlen], ?_⟩
    rw [List.length_cons, readColumns, List.map_cons, List.cons_append,
      Effect.bind_of_ok (readPacket_upTo hopen _ _ _ _),
      Effect.bind_of_ok (orThrow_of_ok hcolumn _), Effect.bind_of_ok hread]
    rfl

/-- The row loop takes the rows off the stream. -/
theorem readRowsLoop_packets {s : MysqlAsync} (hopen : s.socketOpen = true) {columns : ℕ}
    (hcolumns : columns ≠ 0) (ps : List Bytes) (rest : Bytes) (fuel : ℕ) (rows : List WireRow)
    (hrows : ∀ row ∈ rows, row.length = columns) (q : Byte) (acc : List TextRow) :
    ∃ q' : Byte, readRowsLoop (rows.length + fuel) columns acc
        (s.upTo q (rows.map WireRow.packet ++ ps) rest)
      = readRowsLoop fuel columns (acc ++ rows.map WireRow.toText) (s.upTo q' ps rest) := by
  induction rows generalizing q acc with
  | nil => exact ⟨q, by simp⟩
  | cons row rows ih =>
    obtain ⟨hrow, hrows⟩ := List.forall_mem_cons.mp hrows
    have hne : row ≠ [] := by
      rintro rfl
      exact hcolumns hrow.symm
    obtain ⟨herr, heof⟩ := row_packet_distinct hne
    obtain ⟨q', hread⟩ := ih hrows (sequenceIdAfter q row.packet) (acc ++ [row.toText])
    refine ⟨q', ?_⟩
    rw [List.length_cons, Nat.add_right_comm, readRowsLoop, List.map_cons, List.cons_append,
      Effect.bind_of_ok (readPacket_upTo hopen _ _ _ _), herr, heof]
    have hparse : parseTextRow row.packet columns = .ok row.toText := by
      rw [← hrow, parseTextRow_packet]
    simp only [Bool.false_eq_true, if_false]
    rw [Effect.bind_of_ok (orThrow_of_ok hparse _), hread, List.map_cons, List.append_assoc]
    rfl

/-- **The head of a response.** After the column count and the definitions, `readQueryResponse` is
at the rows. -/
theorem readQueryResponse_headPackets {s : MysqlAsync} (hopen : s.socketOpen = true)
    (rs : ResultSet) (ps : List Bytes) (rest : Bytes) {q : Byte}
    (hin : s.input = wireStream q (rs.headPackets ++ ps) ++ rest) :
    ∃ (columns : List ColumnDefinition) (q' : Byte), columns.length = rs.columns.length ∧
      readQueryResponse s = readRows columns (s.upTo q' ps rest) := by
  have hpos : 0 < rs.columns.length := List.length_pos_iff.mpr rs.columns_ne_nil
  have hcount := (decodes_readLenencInt rs.columns_length_lt).run_self
  obtain ⟨b, bs, heq, -, hff, -⟩ := exists_appendLenencInt_eq rs.columns_length_lt []
  obtain ⟨columns, q', hlen, hread⟩ := readColumns_packets hopen ps rest rs.columns
    (sequenceIdAfter q (appendLenencInt rs.columns.length))
  refine ⟨columns, q', hlen, ?_⟩
  rw [ResultSet.headPackets, List.cons_append] at hin
  have herr : isErrPacket (appendLenencInt rs.columns.length) = false :=
    isErrPacket_of_head (by rw [heq, List.head?_cons]) hff
  have hok : isOkPacket (appendLenencInt rs.columns.length) = false :=
    isOkPacket_appendLenencInt hpos
  have hparse : StateT.run' readLenencInt (appendLenencInt rs.columns.length)
      = .ok rs.columns.length := by
    rw [StateT.run'_eq, hcount]
    rfl
  rw [readQueryResponse, Effect.bind_of_ok (readPacket_wireStream hopen hin), herr, hok]
  simp only [Bool.false_eq_true, if_false]
  rw [Effect.bind_of_ok (orThrow_of_ok hparse _)]
  exact Effect.bind_of_ok hread

/-- **The rows of a response.** After them, `readQueryResponse` is at what follows, with the rows
in hand and at least one round left. -/
theorem readQueryResponse_rowPackets {s : MysqlAsync} (hopen : s.socketOpen = true)
    (rs : ResultSet) (ps : List Bytes) (rest : Bytes) {q : Byte}
    (hin : s.input = wireStream q (rs.headPackets ++ (rs.rowPackets ++ ps)) ++ rest) :
    ∃ (columns : List ColumnDefinition) (q' : Byte) (fuel : ℕ),
      columns.length = rs.columns.length ∧
        readQueryResponse s
          = (readRowsLoop (fuel + 1) rs.columns.length rs.toText >>= finishRows columns)
              (s.upTo q' ps rest) := by
  obtain ⟨columns, q₁, hlen, hhead⟩ := readQueryResponse_headPackets hopen rs _ rest hin
  have hrows := length_le_length_wireStream (rs.rowPackets ++ ps) q₁
  rw [List.length_append, ResultSet.rowPackets, List.length_map] at hrows
  obtain ⟨fuel, hfuel⟩ : ∃ fuel,
      (s.upTo q₁ (rs.rowPackets ++ ps) rest).input.length + 1 = rs.rows.length + (fuel + 1) :=
    ⟨(s.upTo q₁ (rs.rowPackets ++ ps) rest).input.length - rs.rows.length, by
      simp only [MysqlAsync.upTo, List.length_append, ResultSet.rowPackets]
      omega⟩
  have hcolumns : rs.columns.length ≠ 0 := by
    rw [ne_eq, List.length_eq_zero_iff]
    exact rs.columns_ne_nil
  obtain ⟨q', hloop⟩ := readRowsLoop_packets hopen hcolumns ps rest (fuel + 1) rs.rows
    rs.row_length q₁ []
  refine ⟨columns, q', fuel, hlen, ?_⟩
  rw [hhead, readRows, Effect.get_bind, hfuel, hlen, ResultSet.rowPackets]
  exact Effect.bind_congr hloop

/-! ## The packet behind the rows -/

/-- A short OK packet behind the rows ends the response. -/
theorem readQueryResponse_of_short {s : MysqlAsync} (hopen : s.socketOpen = true) (rs : ResultSet)
    {finalOk : Bytes} {ok : OkPacket} (ps : List Bytes) (rest : Bytes) {q : Byte}
    (hin : s.input = wireStream q (rs.headPackets ++ (rs.rowPackets ++ finalOk :: ps)) ++ rest)
    (hhead : finalOk.head? = some 0xfe) (hok : parseOkPacket finalOk = .ok ok)
    (hshort : finalOk.length < 9) :
    ∃ (columns : List ColumnDefinition) (q' : Byte), columns.length = rs.columns.length ∧
      readQueryResponse s = .ok { hasResultset := true, columns, rows := rs.toText }
        { (s.upTo q' ps rest).withOk ok with lastAffectRows := castInt rs.toText.length } := by
  obtain ⟨columns, q', fuel, hlen, hread⟩ := readQueryResponse_rowPackets hopen rs _ rest hin
  refine ⟨columns, sequenceIdAfter q' finalOk, hlen, ?_⟩
  rw [hread, Effect.bind_of_ok (readRowsLoop_of_eof (readPacket_upTo hopen _ _ _ _)
    (isErrPacket_of_head hhead (by decide)) ((looksLikeEofPacket_iff hhead).mpr hshort) hok)]
  rfl

/-- A long OK packet behind the rows is taken for one more row: if the response is read to an end
at all, the rows are not those that were sent. -/
theorem rows_ne_of_long {s s' : MysqlAsync} (hopen : s.socketOpen = true) (rs : ResultSet)
    {finalOk : Bytes} (ps : List Bytes) (rest : Bytes) {q : Byte}
    (hin : s.input = wireStream q (rs.headPackets ++ (rs.rowPackets ++ finalOk :: ps)) ++ rest)
    (hhead : finalOk.head? = some 0xfe) (hlong : ¬finalOk.length < 9) {result : QueryResult}
    (hresult : readQueryResponse s = .ok result s') : result.rows ≠ rs.toText := by
  obtain ⟨columns, q', fuel, -, hread⟩ := readQueryResponse_rowPackets hopen rs _ rest hin
  rw [hread] at hresult
  obtain ⟨rows, t, hloop, hfinish⟩ := Effect.bind_eq_ok hresult
  have hrows : result.rows = rows := by
    cases hfinish
    rfl
  obtain ⟨p, u, hp, -, hcase⟩ := readRowsLoop_succ_eq_ok hloop
  rw [readPacket_upTo hopen] at hp
  cases hp
  obtain ⟨heof, -⟩ | ⟨-, row, -, hnext⟩ := hcase
  · exact absurd ((looksLikeEofPacket_iff hhead).mp heof) hlong
  · have hlen := (prefix_of_readRowsLoop hnext).length_le
    rw [List.length_append, List.length_singleton] at hlen
    intro heq
    rw [hrows] at heq
    rw [heq] at hlen
    omega

/-- **Decoding a result set.** On a connection without EOF packets, a result set closed by a short
OK packet is read as exactly the rows that were sent, and nothing behind it is touched. -/
theorem readQueryResponse_resultSet (s : MysqlAsync) (hopen : s.socketOpen = true)
    (hcaps : deprecatesEof s.negotiatedCapabilities = true) (rs : ResultSet)
    (finalOk eof : Bytes) (ok : OkPacket) (hhead : finalOk.head? = some 0xfe)
    (hok : parseOkPacket finalOk = .ok ok) (hshort : finalOk.length < 9) (q : Byte) (rest : Bytes)
    (hin : s.input = wireStream q (rs.packets s.negotiatedCapabilities finalOk eof) ++ rest) :
    ∃ (columns : List ColumnDefinition) (s' : MysqlAsync),
      readQueryResponse s = .ok { hasResultset := true, columns, rows := rs.toText } s' ∧
        columns.length = rs.columns.length ∧ s'.input = rest := by
  rw [ResultSet.packets, if_pos hcaps] at hin
  obtain ⟨columns, q', hlen, hread⟩ :=
    readQueryResponse_of_short hopen rs [] rest hin hhead hok hshort
  exact ⟨columns, _, hread, hlen, rfl⟩

theorem readQueryResponse_resultSet_ofColumn :
    ∃ (columns : List ColumnDefinition) (s' : MysqlAsync),
      readQueryResponse
          { socketOpen := true, negotiatedCapabilities := clientDeprecateEof
            input := wireStream 1 ((ResultSet.ofColumn [none, some default]).packets
              clientDeprecateEof [0xfe, 0, 0, 2, 0, 0, 0] []) ++ [7] }
        = .ok { hasResultset := true, columns, rows := [[none], [some []]] } s' ∧
        columns.length = 1 ∧ s'.input = [7] :=
  readQueryResponse_resultSet
    { socketOpen := true, negotiatedCapabilities := clientDeprecateEof
      input := wireStream 1 ((ResultSet.ofColumn [none, some default]).packets
        clientDeprecateEof [0xfe, 0, 0, 2, 0, 0, 0] []) ++ [7] }
    rfl (by decide) (ResultSet.ofColumn [none, some default]) [0xfe, 0, 0, 2, 0, 0, 0] []
    { statusFlags := 2 } rfl rfl (by decide) 1 [7] rfl

/-- **Recognising the end of the rows.** An OK packet with header `0xfe` behind the rows is taken
for the end of the result set exactly when it is shorter than nine bytes. -/
theorem readQueryResponse_finalOk_iff (s : MysqlAsync) (hopen : s.socketOpen = true)
    (hcaps : deprecatesEof s.negotiatedCapabilities = true) (rs : ResultSet)
    (finalOk eof : Bytes) (ok : OkPacket) (hhead : finalOk.head? = some 0xfe)
    (hok : parseOkPacket finalOk = .ok ok) (q : Byte) (rest : Bytes)
    (hin : s.input = wireStream q (rs.packets s.negotiatedCapabilities finalOk eof) ++ rest) :
    (∃ (columns : List ColumnDefinition) (s' : MysqlAsync),
        readQueryResponse s = .ok { hasResultset := true, columns, rows := rs.toText } s' ∧
          s'.input = rest) ↔
      finalOk.length < 9 := by
  rw [ResultSet.packets, if_pos hcaps] at hin
  constructor
  · rintro ⟨columns, s', hread, -⟩
    by_contra hlong
    exact rows_ne_of_long hopen rs [] rest hin hhead hlong hread rfl
  · intro hshort
    obtain ⟨columns, q', -, hread⟩ :=
      readQueryResponse_of_short hopen rs [] rest hin hhead hok hshort
    exact ⟨columns, _, hread, rfl⟩

theorem readQueryResponse_finalOk_ofColumn :
    (∃ (columns : List ColumnDefinition) (s' : MysqlAsync),
        readQueryResponse
            { socketOpen := true, negotiatedCapabilities := clientDeprecateEof
              input := wireStream 1 ((ResultSet.ofColumn [none]).packets
                clientDeprecateEof [0xfe, 0, 0, 2, 0, 0, 0] []) }
          = .ok { hasResultset := true, columns, rows := [[none]] } s' ∧ s'.input = []) ↔
      ([0xfe, 0, 0, 2, 0, 0, 0] : Bytes).length < 9 :=
  readQueryResponse_finalOk_iff
    { socketOpen := true, negotiatedCapabilities := clientDeprecateEof
      input := wireStream 1 ((ResultSet.ofColumn [none]).packets
        clientDeprecateEof [0xfe, 0, 0, 2, 0, 0, 0] []) }
    rfl (by decide) (ResultSet.ofColumn [none]) [0xfe, 0, 0, 2, 0, 0, 0] []
    { statusFlags := 2 } rfl rfl 1 [] (List.append_nil _).symm

/-- An information text of two bytes behind the fixed fields is enough to miss the end. -/
theorem readQueryResponse_longOk :
    parseOkPacket [0xfe, 0, 0, 2, 0, 0, 0, 1, 0x78]
        = .ok { statusFlags := 2, info := [1, 0x78] } ∧
      ¬∃ (columns : List ColumnDefinition) (s' : MysqlAsync),
        readQueryResponse
            { socketOpen := true, negotiatedCapabilities := clientDeprecateEof
              input := wireStream 1 ((ResultSet.ofColumn []).packets
                clientDeprecateEof [0xfe, 0, 0, 2, 0, 0, 0, 1, 0x78] []) }
          = .ok { hasResultset := true, columns, rows := [] } s' := by
  refine ⟨rfl, ?_⟩
  rintro ⟨columns, s', hread⟩
  exact rows_ne_of_long
    (s := { socketOpen := true, negotiatedCapabilities := clientDeprecateEof
            input := wireStream 1 ((ResultSet.ofColumn []).packets
              clientDeprecateEof [0xfe, 0, 0, 2, 0, 0, 0, 1, 0x78] []) })
    rfl (ResultSet.ofColumn []) [] [] (List.append_nil _).symm rfl (by decide) hread rfl

/-! ## The negotiated end of the rows -/

/-- Reading a response does not depend on the negotiated capabilities. An EOF packet behind the
column definitions is taken for the end of the rows, and what follows it stays unread. -/
theorem input_ne_of_eofPacket {s s' : MysqlAsync} (hopen : s.socketOpen = true) (rs : ResultSet)
    (fin : OkFields) (rest : Bytes) {q : Byte}
    (hin : s.input
      = wireStream q
          (rs.headPackets ++ fin.eofPacket :: (rs.rowPackets ++ [fin.eofPacket])) ++ rest)
    {result : QueryResult} (hresult : readQueryResponse s = .ok result s') : s'.input ≠ rest := by
  obtain ⟨columns, q', -, hhead⟩ := readQueryResponse_headPackets hopen rs _ rest hin
  rw [hhead, readRows, Effect.get_bind] at hresult
  obtain ⟨rows, u, hloop, hfinish⟩ := Effect.bind_eq_ok hresult
  cases hfinish
  obtain ⟨p, t, hp, -, hcase⟩ := readRowsLoop_succ_eq_ok hloop
  rw [readPacket_upTo hopen] at hp
  cases hp
  have heof : looksLikeEofPacket fin.eofPacket = true :=
    (looksLikeEofPacket_iff rfl).mpr (by simp [OkFields.eofPacket])
  obtain ⟨-, -, ok, -, rfl⟩ | ⟨hrow, -⟩ := hcase
  · intro heq
    have hlen := congrArg List.length heq
    have hleft := length_le_length_wireStream (rs.rowPackets ++ [fin.eofPacket])
      (sequenceIdAfter q' fin.eofPacket)
    simp only [MysqlAsync.withOk, MysqlAsync.upTo, List.length_append,
      List.length_singleton] at hlen hleft
    omega
  · rw [heof] at hrow
    cases hrow

/-- **Reading under negotiated capabilities.** A result set is read whole, with the server's status
flags and backslash mode, exactly when the server does without EOF packets and its OK packet is
short. -/
theorem readQueryResponse_negotiated_iff (s : MysqlAsync) (hopen : s.socketOpen = true)
    (database : Bytes) (serverCapabilities : UInt32)
    (hcaps : s.negotiatedCapabilities = negotiatedCapabilities database serverCapabilities)
    (rs : ResultSet) (fin : OkFields) (q : Byte) (rest : Bytes)
    (hin : s.input = wireStream q
      (rs.packets s.negotiatedCapabilities (fin.packet 0xfe) fin.eofPacket) ++ rest) :
    (∃ (columns : List ColumnDefinition) (s' : MysqlAsync),
        readQueryResponse s = .ok { hasResultset := true, columns, rows := rs.toText } s' ∧
          s'.input = rest ∧ s'.statusFlags = fin.statusFlags.toNat ∧
          s'.backslashEscapes = (fin.statusFlags.toNat &&& statusNoBackslashEscapes == 0)) ↔
      deprecatesEof serverCapabilities = true ∧ (fin.packet 0xfe).length < 9 := by
  rw [ResultSet.packets, hcaps, deprecatesEof_negotiatedCapabilities] at hin
  by_cases hdep : deprecatesEof serverCapabilities = true
  · rw [if_pos hdep] at hin
    rw [and_iff_right hdep]
    constructor
    · rintro ⟨columns, s', hread, -⟩
      by_contra hlong
      exact rows_ne_of_long hopen rs [] rest hin rfl hlong hread rfl
    · intro hshort
      obtain ⟨columns, q', -, hread⟩ := readQueryResponse_of_short hopen rs [] rest hin rfl
        (parseOkPacket_packet fin (Or.inr rfl)) hshort
      exact ⟨columns, _, hread, rfl, rfl, rfl⟩
  · rw [if_neg hdep] at hin
    refine iff_of_false ?_ fun h ↦ hdep h.1
    rintro ⟨columns, s', hread, hrest, -⟩
    exact input_ne_of_eofPacket hopen rs fin rest hin hread hrest

theorem readQueryResponse_negotiated_ofColumn :
    (∃ (columns : List ColumnDefinition) (s' : MysqlAsync),
        readQueryResponse
            { socketOpen := true
              negotiatedCapabilities := negotiatedCapabilities [] 0xffffffff
              input := wireStream 1 ((ResultSet.ofColumn [none]).packets
                (negotiatedCapabilities [] 0xffffffff)
                (OkFields.packet { statusFlags := 0x0202 } 0xfe)
                (OkFields.eofPacket { statusFlags := 0x0202 })) }
          = .ok { hasResultset := true, columns, rows := [[none]] } s' ∧
          s'.input = [] ∧ s'.statusFlags = 0x0202 ∧ s'.backslashEscapes = false) ↔
      deprecatesEof 0xffffffff = true ∧
        (OkFields.packet { statusFlags := 0x0202 } 0xfe).length < 9 :=
  readQueryResponse_negotiated_iff
    { socketOpen := true
      negotiatedCapabilities := negotiatedCapabilities [] 0xffffffff
      input := wireStream 1 ((ResultSet.ofColumn [none]).packets
        (negotiatedCapabilities [] 0xffffffff)
        (OkFields.packet { statusFlags := 0x0202 } 0xfe)
        (OkFields.eofPacket { statusFlags := 0x0202 })) }
    rfl [] 0xffffffff rfl (ResultSet.ofColumn [none]) { statusFlags := 0x0202 } 1 []
    (List.append_nil _).symm

/-- A server that keeps EOF packets, as every one before the flag existed, is not understood. -/
theorem readQueryResponse_withEof :
    ¬∃ (columns : List ColumnDefinition) (s' : MysqlAsync),
      readQueryResponse
          { socketOpen := true
            negotiatedCapabilities := negotiatedCapabilities [] clientProtocol41
            input := wireStream 1 ((ResultSet.ofColumn [some default]).packets
              (negotiatedCapabilities [] clientProtocol41)
              (OkFields.packet { statusFlags := 2 } 0xfe)
              (OkFields.eofPacket { statusFlags := 2 })) }
        = .ok { hasResultset := true, columns, rows := [[some []]] } s' ∧
        s'.input = [] ∧ s'.statusFlags = 2 ∧ s'.backslashEscapes = true := by
  rintro ⟨columns, s', hread, hrest, -⟩
  refine input_ne_of_eofPacket
    (s := { socketOpen := true
            negotiatedCapabilities := negotiatedCapabilities [] clientProtocol41
            input := wireStream 1 ((ResultSet.ofColumn [some default]).packets
              (negotiatedCapabilities [] clientProtocol41)
              (OkFields.packet { statusFlags := 2 } 0xfe)
              (OkFields.eofPacket { statusFlags := 2 })) })
    rfl (ResultSet.ofColumn [some default]) { statusFlags := 2 } [] (q := 1) ?_ hread hrest
  rw [List.append_nil]
  rfl

end Ormpp
