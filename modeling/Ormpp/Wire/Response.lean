import Ormpp.Wire.Framing
import Ormpp.Wire.Packet

/-!
# Reading the response to a command

`readQueryResponse` reads one response: an error packet, an OK packet, or a result set made of a
column count, that many column definitions, the rows and a terminator. The rows and the terminator
are told apart packet by packet.
-/

namespace Ormpp

open PacketReader

/-- The result of a parser, its exception thrown. -/
def orThrow {α : Type} : Except Exn α → Async α
  | .ok a => pure a
  | .error e => throw e

/-- `static_cast<int>` of a 64-bit count. -/
def castInt (n : ℕ) : ℤ := Int.bmod n (2 ^ 32)

/-- `status_no_backslash_escapes`. -/
def statusNoBackslashEscapes : ℕ := 0x0200

/-- The connection after the members that an OK packet sets have been assigned. -/
def MysqlAsync.withOk (s : MysqlAsync) (ok : OkPacket) : MysqlAsync :=
  { s with
    lastAffectRows := castInt ok.affectedRows
    lastInsertId := ok.lastInsertId
    statusFlags := ok.statusFlags
    backslashEscapes := ok.statusFlags &&& statusNoBackslashEscapes == 0 }

/-- `apply_ok`. -/
def applyOk (ok : OkPacket) : Async Unit := modify fun s ↦ s.withOk ok

/-- The exception for an error packet of the server. -/
def throwServerError {α : Type} (what payload : Bytes) : Async α := do
  let err ← orThrow (parseErrorPacket payload)
  throw (.runtimeError (what ++ natText err.code ++ ascii "] " ++ err.message))

/-- The first loop of `read_query_response`. -/
def readColumns : ℕ → Async (List ColumnDefinition)
  | 0 => pure []
  | columnCount + 1 => do
    let payload ← readPacket
    let column ← orThrow (parseColumnDefinition payload)
    let columns ← readColumns columnCount
    pure (column :: columns)

/-- The second loop of `read_query_response`: one packet a round, until one of them is an error or
looks like the end of the rows. -/
def readRowsLoop : ℕ → ℕ → List TextRow → Async (List TextRow)
  | 0, _, _ => throw .outOfFuel
  | fuel + 1, columns, rows => do
    let rowPayload ← readPacket
    if isErrPacket rowPayload then
      throwServerError (ascii "mysql_async row fetch failed [") rowPayload
    else if looksLikeEofPacket rowPayload then do
      let ok ← orThrow (parseOkPacket rowPayload)
      applyOk ok
      pure rows
    else do
      let row ← orThrow (parseTextRow rowPayload columns)
      readRowsLoop fuel columns (rows ++ [row])

/-- The last statements of `read_query_response`. -/
def finishRows (columns : List ColumnDefinition) (rows : List TextRow) : Async QueryResult := do
  modify fun s ↦ { s with lastAffectRows := castInt rows.length }
  pure { hasResultset := true, columns, rows }

/-- What `read_query_response` does after the column definitions. Every round of the loop takes a
packet, so the number of bytes that will ever arrive bounds the rounds. -/
def readRows (columns : List ColumnDefinition) : Async QueryResult := do
  let s ← get
  let rows ← readRowsLoop (s.input.length + 1) columns.length []
  finishRows columns rows

/-- `read_query_response`. -/
def readQueryResponse : Async QueryResult := do
  let payload ← readPacket
  if isErrPacket payload then throwServerError (ascii "mysql_async query failed [") payload
  else if isOkPacket payload then do
    let ok ← orThrow (parseOkPacket payload)
    applyOk ok
    pure { ok }
  else do
    let columnCount ← orThrow (StateT.run' readLenencInt payload)
    let columns ← readColumns columnCount
    readRows columns

/-! ## Outcomes

What each step did, read off from how it ended. -/

theorem orThrow_of_ok {α : Type} {r : Except Exn α} {a : α} (h : r = .ok a) (s : MysqlAsync) :
    orThrow r s = .ok a s := by
  rw [h]
  rfl

theorem orThrow_eq_ok {α : Type} {r : Except Exn α} {a : α} {s s' : MysqlAsync}
    (h : orThrow r s = .ok a s') : r = .ok a ∧ s' = s := by
  cases r with
  | error e => cases h
  | ok b =>
    cases h
    exact ⟨rfl, rfl⟩

theorem throwServerError_ne_ok {α : Type} {what payload : Bytes} {s s' : MysqlAsync} {a : α} :
    throwServerError what payload s ≠ .ok a s' := by
  intro h
  obtain ⟨err, t, -, h⟩ := Effect.bind_eq_ok h
  cases h

/-- A round of the row loop that was followed by a good end: it either met the end of the rows, or
took one row and went on. -/
theorem readRowsLoop_succ_eq_ok {fuel columns : ℕ} {acc rows : List TextRow} {s s' : MysqlAsync}
    (h : readRowsLoop (fuel + 1) columns acc s = .ok rows s') :
    ∃ p t, readPacket s = .ok p t ∧ isErrPacket p = false ∧
      ((looksLikeEofPacket p = true ∧ rows = acc ∧
          ∃ ok, parseOkPacket p = .ok ok ∧ s' = t.withOk ok) ∨
        (looksLikeEofPacket p = false ∧
          ∃ row, parseTextRow p columns = .ok row ∧
            readRowsLoop fuel columns (acc ++ [row]) t = .ok rows s')) := by
  obtain ⟨p, t, hread, hround⟩ := Effect.bind_eq_ok h
  refine ⟨p, t, hread, ?_⟩
  split_ifs at hround with herr heof
  · exact absurd hround throwServerError_ne_ok
  · obtain ⟨ok, u, hparse, hend⟩ := Effect.bind_eq_ok hround
    obtain ⟨hok, rfl⟩ := orThrow_eq_ok hparse
    cases hend
    exact ⟨by simpa using herr, Or.inl ⟨heof, rfl, ok, hok, rfl⟩⟩
  · obtain ⟨row, u, hparse, hnext⟩ := Effect.bind_eq_ok hround
    obtain ⟨hrow, rfl⟩ := orThrow_eq_ok hparse
    exact ⟨by simpa using herr, Or.inr ⟨by simpa using heof, row, hrow, hnext⟩⟩

/-- A row loop that ends well returns at least the rows it started with. -/
theorem prefix_of_readRowsLoop {fuel columns : ℕ} {acc rows : List TextRow} {s s' : MysqlAsync}
    (h : readRowsLoop fuel columns acc s = .ok rows s') : acc <+: rows := by
  induction fuel generalizing acc s with
  | zero => cases h
  | succ fuel ih =>
    obtain ⟨p, t, -, -, ⟨-, rfl, -⟩ | ⟨-, row, -, hnext⟩⟩ := readRowsLoop_succ_eq_ok h
    · exact List.prefix_refl rows
    · exact (List.prefix_append acc [row]).trans (ih hnext)

/-- The end of the rows, met. -/
theorem readRowsLoop_of_eof {fuel columns : ℕ} {acc : List TextRow} {s t : MysqlAsync} {p : Bytes}
    {ok : OkPacket} (hread : readPacket s = .ok p t) (herr : isErrPacket p = false)
    (heof : looksLikeEofPacket p = true) (hok : parseOkPacket p = .ok ok) :
    readRowsLoop (fuel + 1) columns acc s = .ok acc (t.withOk ok) := by
  rw [readRowsLoop, Effect.bind_of_ok hread, herr, heof]
  simp only [Bool.false_eq_true, if_false, if_true]
  rw [Effect.bind_of_ok (orThrow_of_ok hok _)]
  rfl

end Ormpp
