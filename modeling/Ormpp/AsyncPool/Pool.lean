import Ormpp.Data.Bytes
import Ormpp.Data.Interleaving

/-!
# The asynchronous connection pool

`async_connection_pool` and its coroutines, one definition for each segment between two suspension
points. The database and the clock answer when a coroutine is resumed: whether the call to the
connection that it waited for has succeeded, or whether there is time left before its deadline. No
segment needs both.
-/

namespace Ormpp

namespace AsyncPool

/-- What `connect` is called with. -/
structure Parameters where
  host : Bytes
  user : Bytes
  passwd : Bytes
  database : Bytes
  timeout : Option ℤ
  port : Option ℤ
  deriving DecidableEq

/-- A connection object. -/
structure Connection where
  /-- The objects are numbered as they are made. -/
  id : ℕ
  /-- What it was last connected with. -/
  parameters : Parameters
  /-- The generation of the pool in which it was made or last taken out. -/
  generation : ℕ
  deriving DecidableEq

structure PoolOptions where
  enableDynamicExpansion : Bool := false
  maxDynamicConnections : ℕ := 10

/-- The fields of the pool, and what is counted here for the statements only: the connection objects
made so far, the calls of `init` that have stored their arguments, and the arguments of the last one
that opened the pool. -/
structure Pool where
  initialized : Bool
  closing : Bool
  poolSize : ℕ
  inUseCount : ℕ
  dynamicConnectionCount : ℕ
  parameters : Parameters
  availableConnections : List Connection
  created : ℕ
  generation : ℕ
  opened : Parameters

inductive Call
  | init (poolSize : ℕ) (parameters : Parameters)
  | get
  | closeAll (waitForReturn : Bool)
  deriving DecidableEq

inductive Result
  | init (success : Bool)
  | nullptr
  /-- The posted return has run. -/
  | released
  | closed
  deriving DecidableEq

/-- Where a coroutine is suspended, with its local variables. A connection that `get` has returned
is a handle until it is released, and the release posts its return. -/
inductive Frame
  | init (poolSize : ℕ) (parameters : Parameters)
  | initConnecting (parameters : Parameters) (i : ℕ) (conn : Connection)
  | initDisconnecting (failed conn : Connection) (behind : List Connection)
  | get
  | getPosted
  | getPinging (connection : Connection)
  | getReconnecting (connection : Connection)
  | getFailed (connection : Connection)
  | getVerified (connection : Connection)
  | getDisconnecting (connection : Connection)
  | getWaiting
  | dynamicPosted
  | dynamicConnecting (conn : Connection)
  | dynamicFailed (conn : Connection)
  | dynamicConnected (conn : Connection)
  | dynamicDisconnecting (conn : Connection)
  | handle (connection : Connection) (dynamic : Bool)
  | returning (connection : Connection) (dynamic : Bool)
  | closeAll (waitForReturn : Bool)
  | closePosted (waitForReturn : Bool)
  | closeRecounting
  | closeWaiting
  | closeReady
  | closeDisconnecting (conn : Connection) (behind : List Connection)
  | returned (result : Result)
  deriving DecidableEq

inductive Counter
  | inUse
  | dynamic
  deriving DecidableEq

/-- What a segment does besides: it starts to disconnect a connection, or lowers a counter that it
has found at a value. -/
inductive Action
  | disconnect (connection : Connection)
  | decrement (counter : Counter) (found : ℕ)
  deriving DecidableEq

abbrev Segment := Pool × Frame × List Action

/-! ## The counters

They are `size_t`. They count connections, so only a decrement can leave its range. -/

/-- `if (n > 0) --n`. -/
def decrementGuarded (n : ℕ) : ℕ := if 0 < n then n - 1 else n

/-- `--n`, which wraps around. -/
def decrement (n : ℕ) : ℕ := if n = 0 then 2 ^ 64 - 1 else n - 1

namespace Pool

def releaseGuarded (s : Pool) : Pool := { s with inUseCount := decrementGuarded s.inUseCount }

def releaseDynamicGuarded (s : Pool) : Pool :=
  { s with
    inUseCount := decrementGuarded s.inUseCount
    dynamicConnectionCount := decrementGuarded s.dynamicConnectionCount }

def releaseDynamic (s : Pool) : Pool :=
  { s with
    inUseCount := decrement s.inUseCount
    dynamicConnectionCount := decrement s.dynamicConnectionCount }

def decrementsInUse (s : Pool) : List Action := [.decrement .inUse s.inUseCount]

def decrementsDynamic (s : Pool) : List Action :=
  [.decrement .dynamic s.dynamicConnectionCount, .decrement .inUse s.inUseCount]

/-- `initialized_ && !closing_`. -/
def isOpen (s : Pool) : Bool := s.initialized && !s.closing

/-- A new connection object, which is connected at once. -/
def newConnection (s : Pool) : Connection := ⟨s.created, s.parameters, s.generation⟩

/-! ## `init` -/

/-- The head of the loop in `init`. -/
def initNext (s : Pool) (parameters : Parameters) (i : ℕ) : Segment :=
  if i < s.poolSize then
    ({ s with created := s.created + 1 }, .initConnecting parameters i s.newConnection, [])
  else ({ s with initialized := true, opened := parameters }, .returned (.init true), [])

def initStart (s : Pool) (poolSize : ℕ) (parameters : Parameters) : Segment :=
  if s.initialized then (s, .returned (.init true), [])
  else if s.closing then (s, .returned (.init false), [])
  else
    initNext { s with poolSize, parameters, generation := s.generation + 1 } parameters 0

/-- The loop over the available connections in `disconnect_available_connections`, with what is left
to disconnect. -/
def disconnectAvailable (s : Pool) (failed : Connection) : List Connection → Segment
  | [] => ({ s with availableConnections := [] }, .returned (.init false), [])
  | conn :: behind => (s, .initDisconnecting failed conn behind, [.disconnect conn])

def initConnected (s : Pool) (parameters : Parameters) (i : ℕ) (conn : Connection)
    (connected : Bool) : Segment :=
  if connected then
    initNext { s with availableConnections := s.availableConnections ++ [conn] } parameters (i + 1)
  else s.disconnectAvailable conn s.availableConnections

/-- The iterator at a connection of the deque, and the end of the deque that was taken before the
loop, are still valid: nothing was added, and neither the connection nor one behind it was
removed. -/
def IsValid (s : Pool) (conn : Connection) (behind : List Connection) : Prop :=
  conn :: behind <:+ s.availableConnections

instance (s : Pool) (conn : Connection) (behind : List Connection) :
    Decidable (s.IsValid conn behind) :=
  inferInstanceAs (Decidable (_ <:+ _))

/-! ## `get` -/

def getLoop (s : Pool) (timeLeft : Bool) : Segment :=
  if timeLeft then (s, .getPosted, []) else (s, .returned .nullptr, [])

def getWait (s : Pool) (timeLeft : Bool) : Segment :=
  if timeLeft then (s, .getWaiting, []) else (s, .returned .nullptr, [])

def getCheck (options : PoolOptions) (s : Pool) (timeLeft : Bool) : Segment :=
  if !s.initialized || s.closing then (s, .returned .nullptr, [])
  else
    match s.availableConnections with
    | connection :: behind =>
      ({ s with availableConnections := behind, inUseCount := s.inUseCount + 1 },
        .getPinging { connection with generation := s.generation }, [])
    | [] =>
      if options.enableDynamicExpansion &&
          s.dynamicConnectionCount < options.maxDynamicConnections then
        (s, .dynamicPosted, [])
      else s.getWait timeLeft

def getPinged (s : Pool) (connection : Connection) (alive : Bool) : Segment :=
  if alive then (s, .getVerified connection, [])
  else (s, .getReconnecting { connection with parameters := s.parameters }, [])

def getReconnected (s : Pool) (connection : Connection) (alive : Bool) : Segment :=
  if alive then (s, .getVerified connection, []) else (s, .getFailed connection, [])

/-- The connection is given up, on either of the two paths that do so. -/
def getDrop (s : Pool) (connection : Connection) : Segment :=
  (s.releaseGuarded, .getDisconnecting connection, s.decrementsInUse ++ [.disconnect connection])

def getHandOut (s : Pool) (connection : Connection) : Segment :=
  if !s.initialized || s.closing then s.getDrop connection
  else (s, .handle connection false, [])

/-! ## `create_dynamic_connection` -/

def dynamicCheck (options : PoolOptions) (s : Pool) (timeLeft : Bool) : Segment :=
  if !s.initialized || s.closing || options.maxDynamicConnections ≤ s.dynamicConnectionCount then
    s.getWait timeLeft
  else
    ({ s with
        dynamicConnectionCount := s.dynamicConnectionCount + 1
        inUseCount := s.inUseCount + 1
        created := s.created + 1 },
      .dynamicConnecting s.newConnection, [])

def dynamicAnswered (s : Pool) (conn : Connection) (connected : Bool) : Segment :=
  if connected then (s, .dynamicConnected conn, []) else (s, .dynamicFailed conn, [])

/-- The decrements on the path of a failed `connect` are not guarded. -/
def dynamicGiveUp (s : Pool) (timeLeft : Bool) : Segment :=
  let (t, f, actions) := s.releaseDynamic.getWait timeLeft
  (t, f, s.decrementsDynamic ++ actions)

def dynamicHandOut (s : Pool) (conn : Connection) : Segment :=
  if !s.initialized || s.closing then
    (s.releaseDynamicGuarded, .dynamicDisconnecting conn, s.decrementsDynamic ++ [.disconnect conn])
  else (s, .handle conn true, [])

/-! ## `return_connection` -/

def returnConnection (s : Pool) (connection : Connection) (dynamic : Bool) : Segment :=
  if dynamic then (s.releaseDynamicGuarded, .returned .released, s.decrementsDynamic)
  else if s.initialized && !s.closing then
    ({ s.releaseGuarded with availableConnections := s.availableConnections ++ [connection] },
      .returned .released, s.decrementsInUse)
  else (s.releaseGuarded, .returned .released, s.decrementsInUse)

/-! ## `close_all` -/

/-- The head of the loop that waits for connections to be returned. -/
def closeLoop (s : Pool) (timeLeft : Bool) : Segment :=
  if timeLeft then (s, .closeRecounting, []) else (s, .closeReady, [])

def closeCheck (s : Pool) (waitForReturn timeLeft : Bool) : Segment :=
  if !s.initialized || s.closing then (s, .returned .closed, [])
  else if waitForReturn && 0 < s.inUseCount then closeLoop { s with closing := true } timeLeft
  else ({ s with closing := true }, .closeReady, [])

def closeRecount (s : Pool) (timeLeft : Bool) : Segment :=
  if s.inUseCount = 0 then (s, .closeReady, [])
  else if timeLeft then (s, .closeWaiting, []) else (s, .closeReady, [])

/-- The loop over the available connections, with what is left to disconnect. -/
def closeNext (s : Pool) : List Connection → Segment
  | [] =>
    ({ s with availableConnections := [], initialized := false, closing := false },
      .returned .closed, [])
  | conn :: behind => (s, .closeDisconnecting conn behind, [.disconnect conn])

end Pool

/-! ## The program -/

/-- A coroutine runs until it is suspended again. A loop over the deque goes on only with a valid
iterator; a coroutine that has returned does nothing. -/
def resume (options : PoolOptions) (s : Pool) : Frame → Bool → Option Segment
  | .init poolSize parameters, _ => some (s.initStart poolSize parameters)
  | .initConnecting parameters i conn, answer => some (s.initConnected parameters i conn answer)
  | .initDisconnecting failed conn behind, _ =>
    if s.IsValid conn behind then some (s.disconnectAvailable failed behind) else none
  | .get, answer => some (s.getLoop answer)
  | .getPosted, answer => some (s.getCheck options answer)
  | .getPinging connection, answer => some (s.getPinged connection answer)
  | .getReconnecting connection, answer => some (s.getReconnected connection answer)
  | .getFailed connection, _ => some (s.getDrop connection)
  | .getVerified connection, _ => some (s.getHandOut connection)
  | .getDisconnecting _, answer => some (s.getLoop answer)
  | .getWaiting, answer => some (s.getLoop answer)
  | .dynamicPosted, answer => some (s.dynamicCheck options answer)
  | .dynamicConnecting conn, answer => some (s.dynamicAnswered conn answer)
  | .dynamicFailed _, answer => some (s.dynamicGiveUp answer)
  | .dynamicConnected conn, _ => some (s.dynamicHandOut conn)
  | .dynamicDisconnecting _, answer => some (s.getWait answer)
  | .handle connection dynamic, _ => some (s, .returning connection dynamic, [])
  | .returning connection dynamic, _ => some (s.returnConnection connection dynamic)
  | .closeAll waitForReturn, _ => some (s, .closePosted waitForReturn, [])
  | .closePosted waitForReturn, answer => some (s.closeCheck waitForReturn answer)
  | .closeRecounting, answer => some (s.closeRecount answer)
  | .closeWaiting, answer => some (s.closeLoop answer)
  | .closeReady, _ => some (s.closeNext s.availableConnections)
  | .closeDisconnecting conn behind, _ =>
    if s.IsValid conn behind then some (s.closeNext behind) else none
  | .returned result, _ => some (s, .returned result, [])

def start : Call → Frame
  | .init poolSize parameters => .init poolSize parameters
  | .get => .get
  | .closeAll waitForReturn => .closeAll waitForReturn

def program (options : PoolOptions) : Program Pool Frame Call Bool Action :=
  ⟨start, resume options⟩

/-- A pool as its constructor leaves it, before any call. -/
def empty : Config Pool Frame where
  shared :=
    { initialized := false
      closing := false
      poolSize := 0
      inUseCount := 0
      dynamicConnectionCount := 0
      parameters := ⟨[], [], [], [], none, none⟩
      availableConnections := []
      created := 0
      generation := 0
      opened := ⟨[], [], [], [], none, none⟩ }
  frames := []

end AsyncPool

end Ormpp
