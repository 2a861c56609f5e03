import Ormpp.Data.Effect
import Ormpp.Data.Bytes

/-!
# The asynchronous MySQL connection

The state of a `mysql_async` object and the reads and writes on its socket. Each coroutine of the
class becomes an action on this state; a `co_await` is a step of the action, since one connection
runs one coroutine at a time.

The two directions of the socket are byte sequences. `input` holds the bytes that the server sends
and the client has not read; a read that asks for more than will ever come does not return, and is
modelled by the exception `endOfStream` that asio raises when the peer closes. Reads and writes are
otherwise reliable and in order.
-/

namespace Ormpp

/-- What a coroutine can throw. -/
inductive Exn
  /-- A `std::runtime_error` with its text. -/
  | runtimeError (what : Bytes)
  /-- The stream ended before the bytes asked for arrived. -/
  | endOfStream
  /-- A loop of the model was given too few rounds. No function of this development throws it. -/
  | outOfFuel
  deriving DecidableEq

/-- The text of an exception. -/
def Exn.what : Exn → Bytes
  | .runtimeError what => what
  | .endOfStream => ascii "End of file"
  | .outOfFuel => []

/-- The members of `mysql_async` that the protocol functions read and write. -/
structure MysqlAsync where
  socketOpen : Bool := false
  input : Bytes := []
  output : Bytes := []
  serverCapabilities : UInt32 := 0
  negotiatedCapabilities : UInt32 := 0
  sequenceId : Byte := 0
  statusFlags : ℕ := 0
  backslashEscapes : Bool := true
  lastInsertId : ℕ := 0
  lastAffectRows : ℤ := 0
  lastError : Bytes := []
  hasError : Bool := false
  deriving DecidableEq

/-- A coroutine of the connection. -/
abbrev Async := EStateM Exn MysqlAsync

/-- `asio::async_read` of a buffer of the given size. -/
def asyncRead (size : ℕ) : Async Bytes := fun s ↦
  if s.input.length < size then .error .endOfStream { s with input := [] }
  else .ok (s.input.take size) { s with input := s.input.drop size }

/-- `asio::async_write` of a whole buffer. -/
def asyncWrite (buffer : Bytes) : Async Unit := fun s ↦
  .ok () { s with output := s.output ++ buffer }

/-- `sequence_id_++`: the old value, the member one further modulo `256`. -/
def nextSequenceId : Async Byte := fun s ↦
  .ok s.sequenceId { s with sequenceId := s.sequenceId + 1 }

/-- `if (!socket_ || !socket_->is_open()) throw …`, the first statement of every packet
function. -/
def requireSocket : Async Unit := fun s ↦
  if s.socketOpen then .ok () s
  else .error (.runtimeError (ascii "mysql_async: socket is not connected")) s

theorem asyncRead_of_append {s : MysqlAsync} {buf rest : Bytes} {size : ℕ}
    (hin : s.input = buf ++ rest) (hsize : buf.length = size) :
    asyncRead size s = .ok buf { s with input := rest } := by
  rw [asyncRead, if_neg (by rw [hin, List.length_append]; omega), hin, ← hsize, List.take_left,
    List.drop_left]

theorem requireSocket_of_open {s : MysqlAsync} (h : s.socketOpen = true) :
    requireSocket s = .ok () s := by
  rw [requireSocket, if_pos h]

end Ormpp
