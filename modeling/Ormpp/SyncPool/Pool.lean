import Ormpp.AsyncPool.Pool

/-!
# The blocking connection pool

`connection_pool`, whose `get` and whose handles are used by threads. A thread runs alone from one
point at which it gives up the mutex, or begins to wait for the database, to the next; `init` takes
no lock and is expected to run alone as a whole. The pointers of the deque are never null, as no
deleter runs for a null pointer, so the test of `get` for one is left out.
-/

namespace Ormpp

namespace SyncPool

open AsyncPool (Parameters)

/-- A connection object. -/
structure Connection where
  /-- The objects are numbered as they are made. -/
  id : ℕ
  /-- What it was connected with. -/
  args : Parameters
  deriving DecidableEq

/-- The fields of the pool. The number of the connection objects made so far is counted for the
statements only. -/
structure Pool where
  /-- `flag_`, with the size that the `init` which has set it was called with. -/
  flag : Option ℤ
  args : Parameters
  pool : List Connection
  created : ℕ

/-- What a thread finds when it goes on. No segment asks for all of it. -/
structure Answer where
  /-- Whether the calls of `connect` succeed that the segment makes, one after the other. -/
  connects : ℕ → Bool := fun _ ↦ true
  /-- Whether `wait_for` has run into its timeout. -/
  timeout : Bool := false
  /-- What `ping` returns. -/
  alive : Bool := true
  /-- The minutes since the connection was last used. -/
  mins : ℤ := 0

inductive Call
  | init (maxsize : ℤ) (args : Parameters)
  | get
  deriving DecidableEq

inductive Result
  | initialized
  /-- `init` has thrown `invalid_argument`. -/
  | initFailed
  | nullptr
  /-- The deleter of the handle has run. -/
  | released
  deriving DecidableEq

/-- Where a thread is. A connection that `get` has returned is a handle until it is released. -/
inductive Frame
  | init (maxsize : ℤ) (args : Parameters)
  | get
  | getWaiting
  | getPinging (conn : Connection)
  | createConnection (conn : Connection)
  | handle (conn : Connection)
  | returned (result : Result)
  deriving DecidableEq

abbrev Segment := Pool × Frame × List Empty

namespace Pool

/-- A new connection object, which is connected at once. -/
def newConnection (s : Pool) : Connection := ⟨s.created, s.args⟩

def make (s : Pool) : Pool := { s with created := s.created + 1 }

/-! ## `init` -/

/-- The loop of `init_impl` from `i` on, with the number of turns that are left, and whether it has
run to its end. -/
def initLoop (connects : ℕ → Bool) : ℕ → ℕ → Pool → Pool × Bool
  | 0, _, s => (s, true)
  | left + 1, i, s =>
    if connects i then
      initLoop connects left (i + 1) { s.make with pool := s.pool ++ [s.newConnection] }
    else (s.make, false)

def initImpl (s : Pool) (maxsize : ℤ) (args : Parameters) (connects : ℕ → Bool) : Pool × Bool :=
  initLoop connects maxsize.toNat 0 { s with args }

/-- `std::call_once` sets the flag when `init_impl` returns, and not when it throws. -/
def init (s : Pool) (maxsize : ℤ) (args : Parameters) (connects : ℕ → Bool) : Pool × Bool :=
  if s.flag.isSome then (s, true)
  else
    match s.initImpl maxsize args connects with
    | (t, true) => ({ t with flag := some maxsize }, true)
    | (t, false) => (t, false)

def initSegment (s : Pool) (maxsize : ℤ) (args : Parameters) (connects : ℕ → Bool) : Segment :=
  match s.init maxsize args connects with
  | (t, true) => (t, .returned .initialized, [])
  | (t, false) => (t, .returned .initFailed, [])

/-! ## `get` -/

/-- The head of the loop, with the mutex locked. -/
def getLoop (s : Pool) : Segment :=
  match s.pool with
  | [] => (s, .getWaiting, [])
  | conn :: rest => ({ s with pool := rest }, .getPinging conn, [])

def getWaited (s : Pool) (timeout : Bool) : Segment :=
  if timeout then (s, .returned .nullptr, []) else s.getLoop

/-- The connection was not used for too long. -/
def isStale (mins : ℤ) : Bool := mins - 6 * 60 > 0

def getPinged (s : Pool) (conn : Connection) (alive : Bool) (mins : ℤ) : Segment :=
  if !alive then (s, .createConnection conn, [])
  else if isStale mins then (s, .createConnection conn, [])
  else (s, .handle conn, [])

/-- `create_connection`. The connection that `get` has taken out is destroyed when it returns. -/
def createConnection (s : Pool) (connected : Bool) : Segment :=
  if connected then (s.make, .handle s.newConnection, []) else (s.make, .returned .nullptr, [])

/-- The deleter of a handle. -/
def release (s : Pool) (conn : Connection) : Segment :=
  ({ s with pool := s.pool ++ [conn] }, .returned .released, [])

end Pool

/-! ## The program -/

def resume (s : Pool) : Frame → Answer → Option Segment
  | .init maxsize args, answer => some (s.initSegment maxsize args answer.connects)
  | .get, _ => some s.getLoop
  | .getWaiting, answer => some (s.getWaited answer.timeout)
  | .getPinging conn, answer => some (s.getPinged conn answer.alive answer.mins)
  | .createConnection _, answer => some (s.createConnection (answer.connects 0))
  | .handle conn, _ => some (s.release conn)
  | .returned result, _ => some (s, .returned result, [])

def start : Call → Frame
  | .init maxsize args => .init maxsize args
  | .get => .get

def program : Program Pool Frame Call Answer Empty := ⟨start, resume⟩

/-- A pool as its constructor leaves it. -/
def Pool.empty : Pool where
  flag := none
  args := ⟨[], [], [], [], none, none⟩
  pool := []
  created := 0

def empty : Config Pool Frame := ⟨Pool.empty, []⟩

end SyncPool

end Ormpp
