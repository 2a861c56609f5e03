import Ormpp.Data.Run
import Ormpp.Wire.Answer
import Ormpp.Wire.Command

/-!
# Sessions

Runs of one connection. In each step the client either runs a command, to which the server answers
with some packets, or disconnects. The client knows nothing of where an answer ends, so what one
command leaves unread is the first thing that the next one reads. Two properties of runs are
compared with what the answers are: that every command reads exactly its own answer, and that
nothing is made of an answer which an earlier command abandoned.
-/

namespace Ormpp

variable {α : Type}

/-! ## Steps -/

/-- What the user of a connection does next, with what the server answers. -/
inductive Operation (α : Type)
  | exchange (command : Command α) (answer : List Bytes)
  | disconnect

namespace MysqlAsync

/-- The bytes that arrive during an operation. A server that got no request does not answer; the
packets of an answer are numbered on from those of the request. -/
def received (s : MysqlAsync) : Operation α → Bytes
  | .exchange command answer =>
    if s.socketOpen then wireStream (sequenceIdAfter 0 (command.code :: command.text s)) answer
    else []
  | .disconnect => []

/-- The connection with the bytes of the answer behind those that it has not read. -/
def serving (s : MysqlAsync) (op : Operation α) : MysqlAsync :=
  { s with input := s.input ++ s.received op }

/-- `close_socket`. -/
def closeSocket (s : MysqlAsync) : MysqlAsync := { s with socketOpen := false, input := [] }

/-- The connection after an operation. -/
def step (s : MysqlAsync) : Operation α → MysqlAsync
  | .exchange command answer =>
    Effect.final command.run (s.serving (.exchange command answer))
  | .disconnect => s.closeSocket

/-- The bytes that the client takes from the stream during an operation. -/
def consumed (s : MysqlAsync) (op : Operation α) : Bytes :=
  (s.serving op).input.take ((s.serving op).input.length - (s.step op).input.length)

/-- The number of bytes that arrive during a run. -/
def receivedIn : MysqlAsync → List (Operation α) → ℕ
  | _, [] => 0
  | s, op :: ops => (s.received op).length + (s.step op).receivedIn ops

theorem socketOpen_step (s : MysqlAsync) (command : Command α) (answer : List Bytes) :
    (s.step (.exchange command answer)).socketOpen = s.socketOpen :=
  command.socketOpen_final _

/-- The connection as it starts to read the answer to a command. -/
def awaiting (s : MysqlAsync) (command : Command α) (answer : List Bytes) : MysqlAsync :=
  (s.sent (command.code :: command.text s)).upTo
    (sequenceIdAfter 0 (command.code :: command.text s)) answer []

/-- With nothing unread, the answer is what is read after the request has gone out. -/
theorem sent_serving {s : MysqlAsync} (hopen : s.socketOpen = true) (hin : s.input = [])
    (command : Command α) (answer : List Bytes) :
    (s.serving (.exchange command answer)).sent (command.code :: command.text s)
      = s.awaiting command answer := by
  simp only [serving, received, hopen, if_true, hin, List.nil_append, sent, awaiting, upTo,
    List.append_nil]

theorem text_serving (s : MysqlAsync) (op : Operation α) (command : Command α) :
    command.text (s.serving op) = command.text s := by
  cases command <;> rfl

/-- What is left unread is what `readQueryResponse` leaves. -/
theorem step_input {s : MysqlAsync} (hopen : s.socketOpen = true) (hin : s.input = [])
    (command : Command α) (answer : List Bytes) :
    (s.step (.exchange command answer)).input
      = (Effect.final readQueryResponse (s.awaiting command answer)).input := by
  have hread := command.final_input (s := s.serving (.exchange command answer)) hopen
  rw [text_serving, sent_serving hopen hin] at hread
  exact hread

/-- A command fails when the reading of its response does. -/
theorem throws_of_readQueryResponse {s : MysqlAsync} (hopen : s.socketOpen = true)
    (hin : s.input = []) (command : Command α) (answer : List Bytes)
    (h : Effect.Throws readQueryResponse (s.awaiting command answer)) :
    Effect.Throws command.block (s.serving (.exchange command answer)) := by
  obtain ⟨e, t, h⟩ := h
  have hsimple := commandSimple_of_open (s := s.serving (.exchange command answer)) hopen
    command.code (command.text s)
  rw [sent_serving hopen hin] at hsimple
  rw [Effect.Throws, Command.block_eq, text_serving]
  exact (Effect.throws_of_error (hsimple.trans h)).bind _

/-- **One exchange.** A command that starts with nothing unread leaves nothing unread exactly when
the reader does not stop before the last packet of the answer. -/
theorem step_input_eq_nil {s : MysqlAsync} (hopen : s.socketOpen = true) (hin : s.input = [])
    (command : Command α) (answer : List Bytes) :
    (s.step (.exchange command answer)).input = [] ↔ readsAll answer = true := by
  rw [step_input hopen hin, awaiting]
  exact readQueryResponse_extent (s := s.sent (command.code :: command.text s)) hopen _ answer

/-- A command that starts with nothing unread takes its own answer and nothing else exactly when
it leaves nothing unread. -/
theorem consumed_eq_received {s : MysqlAsync} (hopen : s.socketOpen = true) (hin : s.input = [])
    (command : Command α) (answer : List Bytes) :
    s.consumed (.exchange command answer) = s.received (.exchange command answer) ↔
      readsAll answer = true := by
  have hserving : (s.serving (.exchange command answer)).input
      = s.received (.exchange command answer) := by
    rw [serving, hin, List.nil_append]
  rw [consumed, hserving]
  cases answer with
  | nil =>
    have hnil : s.received (.exchange command []) = [] := by
      rw [received, hopen, if_pos rfl, wireStream]
    rw [hnil, List.take_nil]
    exact iff_of_true rfl rfl
  | cons p ps =>
    rw [← step_input_eq_nil hopen hin command (p :: ps), List.take_eq_self_iff,
      ← List.length_eq_zero_iff]
    have hpos := length_le_length_wireStream (p :: ps)
      (sequenceIdAfter 0 (command.code :: command.text s))
    rw [List.length_cons] at hpos
    rw [received, hopen, if_pos rfl]
    omega

end MysqlAsync

/-! ## Every command reads its own answer -/

/-- Wherever the run stands, the next command takes exactly the bytes of its answer. -/
def Paired (s : MysqlAsync) (ops : List (Operation α)) : Prop :=
  ∀ pre op post, ops = pre ++ op :: post →
    (pre.foldl MysqlAsync.step s).consumed op = (pre.foldl MysqlAsync.step s).received op

/-- The operations of a run of commands. -/
def exchanges (commands : List (Command α × List Bytes)) : List (Operation α) :=
  commands.map fun e ↦ .exchange e.1 e.2

theorem along_exchanges (commands : List (Command α × List Bytes)) {s : MysqlAsync}
    (hopen : s.socketOpen = true) (hin : s.input = []) :
    Run.Along MysqlAsync.step (fun s op ↦ s.consumed op = s.received op) s (exchanges commands) ↔
      ∀ e ∈ commands, readsAll e.2 = true := by
  induction commands generalizing s with
  | nil => simp [exchanges, Run.Along]
  | cons e commands ih =>
    rw [exchanges, List.map_cons, Run.Along, List.forall_mem_cons,
      MysqlAsync.consumed_eq_received hopen hin]
    refine and_congr_right fun hread ↦ ih ?_ ?_
    · rw [MysqlAsync.socketOpen_step, hopen]
    · rwa [MysqlAsync.step_input_eq_nil hopen hin]

/-- Every command of a run reads its own answer exactly when the reader stops before the last packet
of no answer, whatever the packets are. -/
theorem paired_iff_readsAll (s : MysqlAsync) (hopen : s.socketOpen = true) (hin : s.input = [])
    (commands : List (Command α × List Bytes)) :
    Paired s (exchanges commands) ↔ ∀ e ∈ commands, readsAll e.2 = true :=
  (Run.along_iff MysqlAsync.step).symm.trans (along_exchanges commands hopen hin)

/-- The packets of the answers of a run. -/
def answered (capabilities : UInt32) (commands : List (Command α × Answer)) :
    List (Command α × List Bytes) :=
  commands.map fun e ↦ (e.1, e.2.packets capabilities)

/-- The answer to a text of two statements that both succeed. -/
def twoStatements : Answer where
  leading := [.ok { statusFlags := Reply.serverMoreResultsExists }]
  last := .ok {}
  leading_more := by decide
  last_more := by decide

/-- If a command failed and left something unread, then what a later successful command starts to
read arrived after the answer to the failed one. -/
def NoStaleResponse (s : MysqlAsync) (ops : List (Operation α)) : Prop :=
  ∀ pre command answer mid command' answer' post,
    ops = pre ++ .exchange command answer :: (mid ++ .exchange command' answer' :: post) →
    let before := pre.foldl MysqlAsync.step s
    let failed := before.step (.exchange command answer)
    let later := mid.foldl MysqlAsync.step failed
    Effect.Throws command.block (before.serving (.exchange command answer)) → failed.input ≠ [] →
      ¬Effect.Throws command'.block (later.serving (.exchange command' answer')) →
        later.input.length ≤ failed.receivedIn mid

/-- The run goes no further, or goes on by disconnecting. -/
def Closes (ops : List (Operation α)) : Prop := ops = [] ∨ ∃ rest, ops = .disconnect :: rest

/-- Up to the first disconnect, every answer is read to its end or followed by that disconnect. -/
def Guarded : List (Operation α) → Prop
  | [] => True
  | .disconnect :: _ => True
  | .exchange _ answer :: ops => (readsAll answer = true ∧ Guarded ops) ∨ Closes ops

/-- An open connection has nothing unread when a command starts. -/
def StartsClean (s : MysqlAsync) : Operation α → Prop
  | .exchange _ _ => s.socketOpen = true → s.input = []
  | .disconnect => True

theorem along_of_closed {s : MysqlAsync} (hclosed : s.socketOpen = false)
    (ops : List (Operation α)) : Run.Along MysqlAsync.step StartsClean s ops := by
  refine Run.along_of_invariant _ (fun s ↦ s.socketOpen = false) hclosed fun op _ s hclosed ↦ ?_
  cases op with
  | exchange command answer =>
    refine ⟨fun hopen ↦ ?_, by rw [MysqlAsync.socketOpen_step, hclosed]⟩
    rw [hclosed] at hopen
    cases hopen
  | disconnect => exact ⟨trivial, rfl⟩

theorem along_of_closes {ops : List (Operation α)} (h : Closes ops) (s : MysqlAsync) :
    Run.Along MysqlAsync.step StartsClean s ops := by
  obtain rfl | ⟨rest, rfl⟩ := h
  · trivial
  · exact ⟨trivial, along_of_closed rfl rest⟩

/-- In a guarded run every command starts clean. -/
theorem along_of_guarded {ops : List (Operation α)} (h : Guarded ops) {s : MysqlAsync}
    (hin : s.input = []) : Run.Along MysqlAsync.step StartsClean s ops := by
  induction ops generalizing s with
  | nil => trivial
  | cons op ops ih =>
    cases op with
    | disconnect => exact ⟨trivial, along_of_closed rfl ops⟩
    | exchange command answer =>
      refine ⟨fun _ ↦ hin, ?_⟩
      obtain ⟨hread, hrest⟩ | hcloses := h
      · cases hopen : s.socketOpen with
        | true => exact ih hrest ((MysqlAsync.step_input_eq_nil hopen hin command answer).mpr hread)
        | false => exact along_of_closed (by rw [MysqlAsync.socketOpen_step, hopen]) ops
      · exact along_of_closes hcloses _

/-- A response whose first column definition does not parse is abandoned there. -/
theorem readQueryResponse_of_badColumn {s : MysqlAsync} (hopen : s.socketOpen = true) (q : Byte)
    (count bad : Bytes) (ps : List Bytes) (rest : Bytes) {n : ℕ} {e : Exn}
    (herr : isErrPacket count = false) (hok : isOkPacket count = false)
    (hcount : StateT.run' PacketReader.readLenencInt count = .ok (n + 1))
    (hbad : parseColumnDefinition bad = .error e) :
    readQueryResponse (s.upTo q (count :: bad :: ps) rest)
      = .error e (s.upTo (sequenceIdAfter (sequenceIdAfter q count) bad) ps rest) := by
  rw [readQueryResponse, Effect.bind_of_ok (readPacket_upTo hopen _ _ _ _), herr, hok]
  simp only [Bool.false_eq_true, if_false]
  rw [Effect.bind_of_ok (orThrow_of_ok hcount _), readColumns]
  apply Effect.bind_of_error
  rw [Effect.bind_of_ok (readPacket_upTo hopen _ _ _ _)]
  exact Effect.bind_of_error (orThrow_of_error hbad _)

/-- A command that meets an OK packet succeeds, whoever the packet was for. -/
theorem execute_of_okPacket {s : MysqlAsync} (hopen : s.socketOpen = true) {q : Byte} {p : Bytes}
    {ps : List Bytes} {rest : Bytes} (hin : s.input = wireStream q (p :: ps) ++ rest)
    (herr : isErrPacket p = false) (hok : isOkPacket p = true) {ok : OkPacket}
    (hparse : parseOkPacket p = .ok ok) (sql : Bytes) :
    ¬Effect.Throws (Command.execute sql : Command α).block s := by
  have hread := readPacket_wireStream
    (s := s.sent ((Command.execute sql : Command α).code :: sql)) hopen hin
  rintro ⟨e, t, h⟩
  rw [Command.block_eq, Command.text] at h
  rw [Effect.bind_congr (commandSimple_of_open hopen _ _)] at h
  obtain hthrow | ⟨result, u, -, hfinish⟩ := Effect.bind_eq_error h
  · rw [readQueryResponse, Effect.bind_of_ok hread, herr, hok] at hthrow
    simp only [Bool.false_eq_true, if_false, if_true] at hthrow
    rw [Effect.bind_of_ok (orThrow_of_ok hparse _)] at hthrow
    cases hthrow
  · cases hfinish

/-- The packets of an answer that goes wrong at its second one: a column count, something that is
no column definition, and an OK packet. -/
def malformedAnswer : List Bytes := [[1], [], [0, 1, 0, 2, 0, 0, 0]]

end Ormpp
