import Ormpp.Wire.Extent

/-!
# Commands

The public operations that send a command and read its response. Each is a `try` block that ends in
the same way: the text of the exception becomes the last error, and a value of the return type
stands for the failure. The socket stays as it is.
-/

namespace Ormpp

/-! ## The operations -/

/-- `set_last_error`. -/
def setLastError (error : Bytes) : Async Unit :=
  modify fun s ↦ { s with hasError := true, lastError := error }

/-- A `try` block with the `catch` block of every operation. -/
def caught {α : Type} (failure : α) (block : Async α) : Async α :=
  tryCatch block fun e ↦ do
    setLastError e.what
    pure failure

/-- `command_simple`. -/
def commandSimple (command : Byte) (sql : Bytes) : Async QueryResult := do
  modify fun s ↦ { s with sequenceId := 0 }
  writePacket (command :: sql)
  readQueryResponse

/-- `query_text`. -/
def queryText (sql : Bytes) : Async QueryResult := commandSimple 0x03 sql

def pingBlock : Async Bool := do
  let result ← commandSimple 0x0e []
  pure (!result.hasResultset)

/-- `ping`. -/
def ping : Async Bool := caught false pingBlock

/-- `if (result.has_resultset) last_affect_rows_ = 0`. -/
def clearAffectRows (result : QueryResult) : Async Unit :=
  modify fun s ↦ if result.hasResultset then { s with lastAffectRows := 0 } else s

def executeBlock (sql : Bytes) : Async Bool := do
  let result ← queryText sql
  clearAffectRows result
  pure true

/-- `execute`. -/
def execute (sql : Bytes) : Async Bool := caught false (executeBlock sql)

/-- `begin`. -/
def beginTransaction : Async Bool := execute (ascii "BEGIN")

/-- `commit`. -/
def commit : Async Bool := execute (ascii "COMMIT")

/-- `rollback`. -/
def rollback : Async Bool := execute (ascii "ROLLBACK")

/-- The `try` block of `query_s` from where the text of the query is built, which depends on the
escaping mode; `mapRow` is `map_row<T>`. -/
def queryBlock {α : Type} (formatQuery : Bool → Bytes) (mapRow : TextRow → Except Exn α) :
    Async (List α) := do
  let s ← get
  let result ← queryText (formatQuery (!s.backslashEscapes))
  orThrow (result.rows.mapM mapRow)

/-- `query_s`. -/
def queryS {α : Type} (formatQuery : Bool → Bytes) (mapRow : TextRow → Except Exn α) :
    Async (List α) :=
  caught [] (queryBlock formatQuery mapRow)

/-! ## One type for all of them -/

inductive Command (α : Type)
  | ping
  | execute (sql : Bytes)
  | begin
  | commit
  | rollback
  | query (formatQuery : Bool → Bytes) (mapRow : TextRow → Except Exn α)

/-- What a command returns. -/
inductive Returned (α : Type)
  | flag (success : Bool)
  | rows (rows : List α)

namespace Command

variable {α : Type}

def run : Command α → Async (Returned α)
  | .ping => .flag <$> Ormpp.ping
  | .execute sql => .flag <$> Ormpp.execute sql
  | .begin => .flag <$> beginTransaction
  | .commit => .flag <$> Ormpp.commit
  | .rollback => .flag <$> Ormpp.rollback
  | .query formatQuery mapRow => .rows <$> queryS formatQuery mapRow

/-- The command without its `catch` block. -/
def block : Command α → Async (Returned α)
  | .ping => .flag <$> pingBlock
  | .execute sql => .flag <$> executeBlock sql
  | .begin => .flag <$> executeBlock (ascii "BEGIN")
  | .commit => .flag <$> executeBlock (ascii "COMMIT")
  | .rollback => .flag <$> executeBlock (ascii "ROLLBACK")
  | .query formatQuery mapRow => .rows <$> queryBlock formatQuery mapRow

def failure : Command α → Returned α
  | .query _ _ => .rows []
  | _ => .flag false

/-- The command byte of the packet that is sent. -/
def code : Command α → Byte
  | .ping => 0x0e
  | _ => 0x03

/-- The text behind the command byte. -/
def text (s : MysqlAsync) : Command α → Bytes
  | .ping => []
  | .execute sql => sql
  | .begin => ascii "BEGIN"
  | .commit => ascii "COMMIT"
  | .rollback => ascii "ROLLBACK"
  | .query formatQuery _ => formatQuery (!s.backslashEscapes)

/-- What the command does with its response. -/
def finish (result : QueryResult) : Command α → Async (Returned α)
  | .ping => pure (.flag (!result.hasResultset))
  | .query _ mapRow => .rows <$> orThrow (result.rows.mapM mapRow)
  | _ => do
    clearAffectRows result
    pure (.flag true)

theorem block_eq (command : Command α) (s : MysqlAsync) :
    command.block s
      = (commandSimple command.code (command.text s) >>= fun result ↦ command.finish result) s := by
  cases command with
  | ping | query => simp only [block, pingBlock, queryBlock, map_eq_pure_bind, bind_assoc]; rfl
  | execute | begin | commit | rollback =>
    simp only [block, executeBlock, map_eq_pure_bind, bind_assoc, pure_bind]
    rfl

end Command

/-! ## The catch block -/

section Caught

variable {α β : Type}

theorem caught_of_ok {failure : α} {block : Async α} {s t : MysqlAsync} {a : α}
    (h : block s = .ok a t) : caught failure block s = .ok a t := by
  change EStateM.tryCatch block _ s = _
  rw [EStateM.tryCatch, h]

theorem caught_of_error {failure : α} {block : Async α} {s t : MysqlAsync} {e : Exn}
    (h : block s = .error e t) :
    caught failure block s = .ok failure { t with hasError := true, lastError := e.what } := by
  change EStateM.tryCatch block _ s = _
  rw [EStateM.tryCatch, h]
  rfl

theorem map_caught (f : α → β) (failure : α) (block : Async α) :
    f <$> caught failure block = caught (f failure) (f <$> block) := by
  funext s
  cases h : block s with
  | ok a t => rw [Effect.map_of_ok f (caught_of_ok h), caught_of_ok (Effect.map_of_ok f h)]
  | error e t =>
    rw [Effect.map_of_ok f (caught_of_error h), caught_of_error (Effect.map_of_error f h)]

/-- The catch block touches none of the members that the protocol functions read. -/
theorem final_caught {τ : Type} {g : MysqlAsync → τ}
    (hg : ∀ t error, g { t with hasError := true, lastError := error } = g t) (failure : α)
    (block : Async α) (s : MysqlAsync) :
    g (Effect.final (caught failure block) s) = g (Effect.final block s) := by
  cases h : block s with
  | ok a t => rw [Effect.final_of_ok (caught_of_ok h), Effect.final_of_ok h]
  | error e t => rw [Effect.final_of_ok (caught_of_error h), Effect.final_of_error h, hg]

theorem Command.run_eq (command : Command α) :
    command.run = caught command.failure command.block := by
  cases command <;> exact map_caught _ _ _

end Caught

/-! ## The socket stays open -/

section SocketOpen

open Effect

theorem keeps_asyncRead (size : ℕ) : Keeps MysqlAsync.socketOpen (asyncRead size) := by
  intro s
  rw [final, asyncRead]
  split_ifs <;> rfl

theorem keeps_requireSocket : Keeps MysqlAsync.socketOpen requireSocket := by
  intro s
  rw [final, requireSocket]
  split_ifs <;> rfl

theorem keeps_readPacketLoop (fuel : ℕ) (payload : Bytes) :
    Keeps MysqlAsync.socketOpen (readPacketLoop fuel payload) := by
  induction fuel generalizing payload with
  | zero => exact keeps_throw _
  | succ fuel ih =>
    apply (keeps_asyncRead 4).bind
    intro headerBuf
    refine Keeps.bind (keeps_modify fun _ ↦ rfl) fun _ ↦ Keeps.bind ?_ fun chunk ↦ ?_
    · rw [readChunk]
      split_ifs
      · exact keeps_asyncRead _
      · exact keeps_pure _
    · split_ifs
      · exact keeps_pure _
      · exact ih _

theorem keeps_readPacket : Keeps MysqlAsync.socketOpen readPacket :=
  keeps_requireSocket.bind fun _ ↦ keeps_get.bind fun _ ↦ keeps_readPacketLoop _ _

theorem keeps_readColumns (columnCount : ℕ) :
    Keeps MysqlAsync.socketOpen (readColumns columnCount) := by
  induction columnCount with
  | zero => exact keeps_pure _
  | succ columnCount ih =>
    exact keeps_readPacket.bind fun payload ↦ (keeps_orThrow _).bind fun column ↦
      ih.bind fun columns ↦ keeps_pure _

theorem keeps_readRowsLoop (fuel columns : ℕ) (rows : List TextRow) :
    Keeps MysqlAsync.socketOpen (readRowsLoop fuel columns rows) := by
  induction fuel generalizing rows with
  | zero => exact keeps_throw _
  | succ fuel ih =>
    apply keeps_readPacket.bind
    intro rowPayload
    split_ifs
    · exact keeps_throwServerError _ _
    · exact keeps_takeOk (fun _ _ ↦ rfl) _ _
    · exact (keeps_orThrow _).bind fun row ↦ ih _

theorem keeps_readQueryResponse : Keeps MysqlAsync.socketOpen readQueryResponse := by
  apply keeps_readPacket.bind
  intro payload
  split_ifs
  · exact keeps_throwServerError _ _
  · exact keeps_takeOk (fun _ _ ↦ rfl) _ _
  · exact (keeps_orThrow _).bind fun columnCount ↦ (keeps_readColumns _).bind fun columns ↦
      keeps_get.bind fun _ ↦
        (keeps_readRowsLoop _ _ _).bind fun rows ↦ keeps_finishRows (fun _ _ ↦ rfl) _ _

end SocketOpen

/-! ## What a command sends and how much it reads -/

section Request

variable {α : Type}

/-- The connection once a request has gone out. -/
def MysqlAsync.sent (s : MysqlAsync) (request : Bytes) : MysqlAsync :=
  { s with
    output := s.output ++ wirePacket 0 request
    sequenceId := sequenceIdAfter 0 request }

theorem commandSimple_of_open {s : MysqlAsync} (hopen : s.socketOpen = true) (command : Byte)
    (sql : Bytes) : commandSimple command sql s = readQueryResponse (s.sent (command :: sql)) := by
  have hwrite := writePacket_wirePacket (s := { s with sequenceId := 0 }) hopen (command :: sql)
  rw [commandSimple, Effect.modify_bind, Effect.bind_of_ok hwrite]
  rfl

/-- On a closed socket no command goes out. -/
theorem commandSimple_of_closed {s : MysqlAsync} (hclosed : s.socketOpen = false) (command : Byte)
    (sql : Bytes) : commandSimple command sql s
      = .error (.runtimeError (ascii "mysql_async: socket is not connected"))
          { s with sequenceId := 0 } := by
  have hsocket : requireSocket { s with sequenceId := 0 }
      = .error (.runtimeError (ascii "mysql_async: socket is not connected"))
          { s with sequenceId := 0 } := by
    rw [requireSocket, hclosed]
    rfl
  have hwrite : writePacket (command :: sql) { s with sequenceId := 0 }
      = .error (.runtimeError (ascii "mysql_async: socket is not connected"))
          { s with sequenceId := 0 } :=
    Effect.bind_of_error hsocket
  rw [commandSimple, Effect.modify_bind, Effect.bind_of_error hwrite]

namespace Command

theorem keeps_finish {τ : Type} {g : MysqlAsync → τ}
    (hg : ∀ s affected, g { s with lastAffectRows := affected } = g s) (command : Command α)
    (result : QueryResult) : Effect.Keeps g (command.finish result) := by
  have hclear : Effect.Keeps g (clearAffectRows result) := by
    apply Effect.keeps_modify
    intro s
    split_ifs
    · exact hg s 0
    · rfl
  cases command with
  | ping => exact Effect.keeps_pure _
  | query => exact (keeps_orThrow _).map _
  | execute | begin | commit | rollback => exact hclear.bind fun _ ↦ Effect.keeps_pure _

/-- A command reads what `readQueryResponse` reads after its request. -/
theorem final_input {s : MysqlAsync} (hopen : s.socketOpen = true) (command : Command α) :
    (Effect.final command.run s).input
      = (Effect.final readQueryResponse (s.sent (command.code :: command.text s))).input := by
  have hblock : (Effect.final command.block s).input
      = (Effect.final (commandSimple command.code (command.text s)) s).input := by
    rw [Effect.final, block_eq, ← Effect.final]
    exact Effect.final_bind_of_keeps (command.keeps_finish fun _ _ ↦ rfl) s
  rw [run_eq, final_caught (g := MysqlAsync.input) (fun _ _ ↦ rfl), hblock, Effect.final,
    commandSimple_of_open hopen, ← Effect.final]

theorem throws_of_closed {s : MysqlAsync} (hclosed : s.socketOpen = false) (command : Command α) :
    Effect.Throws command.block s := by
  rw [Effect.Throws, block_eq]
  exact (Effect.throws_of_error (commandSimple_of_closed hclosed _ _)).bind _

theorem socketOpen_final (command : Command α) (s : MysqlAsync) :
    (Effect.final command.run s).socketOpen = s.socketOpen := by
  have hblock : (Effect.final command.block s).socketOpen
      = (Effect.final (commandSimple command.code (command.text s)) s).socketOpen := by
    rw [Effect.final, block_eq, ← Effect.final]
    exact Effect.final_bind_of_keeps (command.keeps_finish fun _ _ ↦ rfl) s
  rw [run_eq, final_caught (g := MysqlAsync.socketOpen) (fun _ _ ↦ rfl), hblock]
  cases hopen : s.socketOpen with
  | true =>
    rw [Effect.final, commandSimple_of_open hopen, ← Effect.final, keeps_readQueryResponse]
    exact hopen
  | false => rw [Effect.final_of_error (commandSimple_of_closed hopen _ _)]; exact hopen

end Command

end Request

end Ormpp
