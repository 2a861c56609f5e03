import Ormpp.Wire.LittleEndian
import Ormpp.Wire.Password
import Ormpp.Wire.Response

/-!
# Logging in

The members of `mysql_async` that only a login needs, and the first packet that the client sends.
The state keeps an account of the packets that have been read and written.
-/

namespace Ormpp

/-- A packet that goes over the wire during a login. -/
inductive LoginEvent
  | wrote (packet : Bytes)
  | read (packet : Bytes)
  /-- What is read after a public key has been asked for. -/
  | readPublicKey (packet : Bytes)
  deriving DecidableEq

/-- The connection, with what a login reads and writes beyond it. -/
structure Login where
  conn : MysqlAsync
  user : Bytes
  password : Bytes
  database : Bytes
  authPluginName : Bytes := mysqlNativePassword
  scramble : Scramble := copyScramble []
  events : List LoginEvent := []

/-- A coroutine of a login. -/
abbrev AsyncLogin := EStateM Exn Login

/-- A coroutine that uses the connection only. -/
def onConnection {α : Type} (x : Async α) : AsyncLogin α := fun s ↦
  match x s.conn with
  | .ok a conn => .ok a { s with conn }
  | .error e conn => .error e { s with conn }

def record (event : LoginEvent) : AsyncLogin Unit :=
  modify fun s ↦ { s with events := s.events ++ [event] }

/-- `read_packet`. -/
def readLoginPacket (event : Bytes → LoginEvent) : AsyncLogin Bytes := do
  let packet ← onConnection readPacket
  record (event packet)
  pure packet

/-- `write_packet`. -/
def writeLoginPacket (packet : Bytes) : AsyncLogin Unit := do
  onConnection (writePacket packet)
  record (.wrote packet)

/-! ## The handshake response -/

/-- The members that `connect` takes from the greeting. -/
def Login.takeHandshake (s : Login) (handshake : ServerHandshake) : Login where
  conn :=
    { s.conn with
      serverCapabilities := handshake.capabilities
      negotiatedCapabilities := Ormpp.negotiatedCapabilities s.database handshake.capabilities }
  user := s.user
  password := s.password
  database := s.database
  authPluginName :=
    if handshake.authPluginName = [] then mysqlNativePassword else handshake.authPluginName
  scramble := handshake.scramble
  events := s.events

/-- `max_packet_size_`. -/
def maxPacketSize : UInt32 := 1024 * 1024 * 16

/-- `collation_id_`. -/
def collationId : Byte := 45

/-- `append_connect_attr`. -/
def appendConnectAttr (key value : Bytes) : Bytes :=
  appendLenencString key ++ appendLenencString value

/-- The attributes of the connection. -/
def connectAttrs : Bytes :=
  appendConnectAttr (ascii "_client_name") (ascii "ormpp") ++
    (appendConnectAttr (ascii "_client_version") (ascii "async") ++
      appendConnectAttr (ascii "_os") (ascii "linux"))

/-- The database, if there is a place for it. -/
def databaseField (capabilities : UInt32) (database : Bytes) : Bytes :=
  if hasFlag capabilities clientConnectWithDb then database ++ [0] else []

variable {Key : Type} (ssl : Openssl Key)

/-- The packet that `write_handshake_response` builds. The name of the plugin and the attributes are
put in whatever has been negotiated. -/
def Login.handshakeResponse (s : Login) : Except Exn Bytes := do
  let authData ← buildAuthResponse ssl s.password s.scramble s.authPluginName
  pure (appendLe32 s.conn.negotiatedCapabilities ++ (appendLe32 maxPacketSize ++ ([collationId] ++
    (List.replicate 23 0 ++ ((s.user ++ [0]) ++ ((appendLenencInt authData.length ++ authData) ++
      (databaseField s.conn.negotiatedCapabilities s.database ++ ((s.authPluginName ++ [0]) ++
        (appendLenencInt connectAttrs.length ++ connectAttrs)))))))))

/-- `write_handshake_response`. -/
def writeHandshakeResponse : AsyncLogin Unit := do
  let s ← get
  let response ← onConnection (orThrow (s.handshakeResponse ssl))
  modify fun s ↦ { s with conn := { s.conn with sequenceId := 1 } }
  writeLoginPacket response

/-! ## Outcomes -/

theorem onConnection_of_ok {α : Type} {x : Async α} {s : Login} {a : α} {conn : MysqlAsync}
    (h : x s.conn = .ok a conn) : onConnection x s = .ok a { s with conn } := by
  rw [onConnection, h]

theorem onConnection_of_error {α : Type} {x : Async α} {s : Login} {e : Exn} {conn : MysqlAsync}
    (h : x s.conn = .error e conn) : onConnection x s = .error e { s with conn } := by
  rw [onConnection, h]

/-- The state once a packet has been written. -/
def Login.wrote (s : Login) (packet : Bytes) : Login :=
  { s with
    conn :=
      { s.conn with
        output := s.conn.output ++ wirePacket s.conn.sequenceId packet
        sequenceId := sequenceIdAfter s.conn.sequenceId packet }
    events := s.events ++ [.wrote packet] }

theorem writeLoginPacket_of_open {s : Login} (hopen : s.conn.socketOpen = true) (packet : Bytes) :
    writeLoginPacket packet s = .ok () (s.wrote packet) := by
  rw [writeLoginPacket,
    Effect.bind_of_ok (onConnection_of_ok (writePacket_wirePacket hopen packet))]
  rfl

/-- What goes out is the packet that has been built, as the second of the exchange. -/
theorem writeHandshakeResponse_of_ok {s : Login} (hopen : s.conn.socketOpen = true)
    {response : Bytes} (h : s.handshakeResponse ssl = .ok response) :
    writeHandshakeResponse ssl s
      = .ok () ({ s with conn := { s.conn with sequenceId := 1 } }.wrote response) := by
  have hthrow : onConnection (orThrow (s.handshakeResponse ssl)) s = .ok response s :=
    onConnection_of_ok (orThrow_of_ok h _)
  rw [writeHandshakeResponse, Effect.get_bind, Effect.bind_of_ok hthrow, Effect.modify_bind]
  exact writeLoginPacket_of_open (s := { s with conn := { s.conn with sequenceId := 1 } }) hopen
    response

theorem writeHandshakeResponse_of_error {s : Login} {e : Exn}
    (h : s.handshakeResponse ssl = .error e) : writeHandshakeResponse ssl s = .error e s := by
  have hthrow : onConnection (orThrow (s.handshakeResponse ssl)) s = .error e s :=
    onConnection_of_error (by rw [h]; rfl)
  rw [writeHandshakeResponse, Effect.get_bind, Effect.bind_of_error hthrow]

end Ormpp
