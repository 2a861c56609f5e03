import Ormpp.Wire.Command
import Ormpp.Wire.Login
import Ormpp.Wire.Robustness

/-!
# The authentication exchange

What follows the handshake response: the server sends packets of five kinds in whatever order it
likes, and the client answers them one by one until one of them ends the exchange. A server can name
another plugin and another scramble on the way, as often as it wants.

`Rounds` is the exchange as the protocol has it, a packet and its answer at a time, without the
state of the client. The loop of the client has no other runs than these.
-/

namespace Ormpp

open PacketReader

/-! ## The packets -/

def isAuthSwitchRequest (payload : Bytes) : Bool :=
  payload.head? == some 0xfe && payload.length > 1

def isAuthMoreData (payload : Bytes) : Bool := payload.head? == some 0x01

/-- The content of an auth switch request. -/
structure AuthSwitch where
  pluginName : Bytes
  pluginData : Bytes

def parseAuthSwitch (payload : Bytes) : Except Exn AuthSwitch :=
  StateT.run' (do
    let _header ← readByte
    let pluginName ← readNullTerminatedString
    let pluginData ← readRemaining
    pure { pluginName, pluginData } : PacketReader AuthSwitch) payload

def parseAuthMoreData (payload : Bytes) : Except Exn Bytes :=
  StateT.run' (do
    let _header ← readByte
    readRemaining : PacketReader Bytes) payload

/-! ## The loop -/

variable {Key : Type} (ssl : Openssl Key)

/-- `is_secure_channel`. -/
def isSecureChannel : Bool := false

/-- The members that an auth switch request replaces. -/
def Login.switchTo (s : Login) (request : AuthSwitch) : Login :=
  { s with
    scramble := copyScramble (dropTerminator request.pluginData)
    authPluginName := request.pluginName }

def answerAuthSwitch (payload : Bytes) : AsyncLogin Unit := do
  let request ← onConnection (orThrow (parseAuthSwitch payload))
  modify fun s ↦ s.switchTo request
  let s ← get
  let response ←
    onConnection (orThrow (buildAuthResponse ssl s.password s.scramble s.authPluginName))
  writeLoginPacket response

/-- The password under the public key of the server. -/
def sendEncryptedPassword : AsyncLogin Unit := do
  writeLoginPacket [2]
  let publicKeyPacket ← readLoginPacket .readPublicKey
  if isErrPacket publicKeyPacket then
    onConnection (throwServerError (ascii "mysql_async auth public key failed [") publicKeyPacket)
  else do
    let s ← get
    let encrypted ← onConnection
      (orThrow (rsaEncryptPassword ssl s.events.length s.password s.scramble publicKeyPacket))
    writeLoginPacket encrypted

def sendPlainPassword : AsyncLogin Unit := do
  let s ← get
  writeLoginPacket (s.password ++ [0])

/-- The codes of `caching_sha2_password`: `3` if the server has found the password in its cache, and
`4` if it asks for the password itself. -/
def answerAuthMoreData (payload : Bytes) : AsyncLogin Unit := do
  let data ← onConnection (orThrow (parseAuthMoreData payload))
  let s ← get
  if s.authPluginName = cachingSha2Password ∧ data = [3] then pure ()
  else if s.authPluginName = cachingSha2Password ∧ data = [4] then
    if isSecureChannel then sendPlainPassword else sendEncryptedPassword ssl
  else throw (.runtimeError (ascii "mysql_async: unsupported auth more data"))

/-- What is done before the next packet is read. -/
def answerAuth (payload : Bytes) : AsyncLogin Unit :=
  if isAuthSwitchRequest payload then answerAuthSwitch ssl payload
  else if isAuthMoreData payload then answerAuthMoreData ssl payload
  else throw (.runtimeError (ascii "mysql_async: unsupported auth response packet"))

/-- `handle_auth_response`. -/
def handleAuthResponse : ℕ → Bytes → AsyncLogin Bool
  | 0, _ => throw .outOfFuel
  | fuel + 1, payload =>
    if isErrPacket payload then
      onConnection (throwServerError (ascii "mysql_async auth failed [") payload)
    else if isOkPacket payload ∧ !isAuthSwitchRequest payload then do
      let ok ← onConnection (orThrow (parseOkPacket payload))
      onConnection (applyOk ok)
      pure true
    else do
      answerAuth ssl payload
      let next ← readLoginPacket .read
      handleAuthResponse fuel next

/-- The last statements of `connect`. Every round takes a packet, so the number of bytes that will
ever arrive bounds the rounds. -/
def authenticate : AsyncLogin Bool := do
  let authResponse ← readLoginPacket .read
  let s ← get
  handleAuthResponse ssl (s.conn.input.length + 1) authResponse

/-! ## The exchange -/

/-- The response of the plugin that a request names, for the scramble that comes with it. -/
def switchResponse (password payload : Bytes) : Except Exn Bytes := do
  let request ← parseAuthSwitch payload
  buildAuthResponse ssl password (copyScramble (dropTerminator request.pluginData))
    request.pluginName

/-- The whole answer to a packet. -/
inductive Answers (password payload : Bytes) : List LoginEvent → Prop
  | switch {response : Bytes} (hkind : isAuthSwitchRequest payload = true)
    (hresponse : switchResponse ssl password payload = .ok response) :
    Answers password payload [.wrote response]
  | fast (hkind : isAuthMoreData payload = true) : Answers password payload []
  | full {key encrypted : Bytes} {drawn : ℕ} {scramble : Scramble}
    (hkind : isAuthMoreData payload = true)
    (hencrypted : rsaEncryptPassword ssl drawn password scramble key = .ok encrypted) :
    Answers password payload [.wrote [2], .readPublicKey key, .wrote encrypted]

/-- As much of an answer as there is when the exchange ends with an error. -/
inductive Breaks (password payload : Bytes) : List LoginEvent → Exn → Prop
  | refused {e : Exn} (hkind : isAuthSwitchRequest payload = false) : Breaks password payload [] e
  | switch {e : Exn} (hkind : isAuthSwitchRequest payload = true)
    (hresponse : switchResponse ssl password payload = .error e) : Breaks password payload [] e
  | asked {e : Exn} (hkind : isAuthMoreData payload = true) :
    Breaks password payload [.wrote [2]] e
  | keyed {key : Bytes} {e : Exn} (hkind : isAuthMoreData payload = true) :
    Breaks password payload [.wrote [2], .readPublicKey key] e
  | unread {answer : List LoginEvent} {e : Exn} (hanswer : Answers ssl password payload answer) :
    Breaks password payload answer e

/-- The rounds from a packet on, and how they end. -/
inductive Rounds (password : Bytes) : Bytes → List LoginEvent → Except Exn Bool → Prop
  | done {payload : Bytes} (hok : isOkPacket payload = true) : Rounds password payload [] (.ok true)
  | broken {payload : Bytes} {answer : List LoginEvent} {e : Exn} (he : e ≠ .outOfFuel)
    (hbreaks : Breaks ssl password payload answer e) : Rounds password payload answer (.error e)
  | next {payload payload' : Bytes} {answer more : List LoginEvent} {result : Except Exn Bool}
    (hanswer : Answers ssl password payload answer)
    (hmore : Rounds password payload' more result) :
    Rounds password payload (answer ++ .read payload' :: more) result

/-! ## Exceptions -/

theorem parseAuthSwitch_ne {payload : Bytes} {e : Exn} (h : parseAuthSwitch payload = .error e) :
    e ≠ .outOfFuel := by
  have himplements : PacketCursor.Implements ⟨payload, fun _ ↦ 0⟩ _ parseAuthSwitch :=
    ⟨_, fun _ ↦ rfl, PacketCursor.follows_readByte.bind fun _ ↦
      PacketCursor.follows_readNullTerminatedString.bind fun _ ↦
        PacketCursor.follows_readRemaining.bind fun _ ↦ .pure _⟩
  obtain ⟨msg, rfl⟩ := himplements.exists_of_error h
  exact nofun

theorem parseAuthMoreData_ne {payload : Bytes} {e : Exn}
    (h : parseAuthMoreData payload = .error e) : e ≠ .outOfFuel := by
  have himplements : PacketCursor.Implements ⟨payload, fun _ ↦ 0⟩ _ parseAuthMoreData :=
    ⟨_, fun _ ↦ rfl, PacketCursor.follows_readByte.bind fun _ ↦ PacketCursor.follows_readRemaining⟩
  obtain ⟨msg, rfl⟩ := himplements.exists_of_error h
  exact nofun

theorem parseOkPacket_ne {payload : Bytes} {e : Exn} (h : parseOkPacket payload = .error e) :
    e ≠ .outOfFuel := by
  have himplements := PacketCursor.implements_parseOkPacket (m := ⟨payload, fun _ ↦ 0⟩)
  obtain ⟨msg, rfl⟩ := himplements.exists_of_error h
  exact nofun

theorem throwServerError_cases {α : Type} (what payload : Bytes) (s : MysqlAsync) :
    ∃ e, throwServerError (α := α) what payload s = .error e s ∧ e ≠ .outOfFuel := by
  generalize hparse : parseErrorPacket payload = r
  obtain e | err := r
  · have hthrow : orThrow (parseErrorPacket payload) s = .error e s := by
      rw [hparse]
      rfl
    obtain ⟨msg, rfl⟩ :=
      (PacketCursor.implements_parseErrorPacket (m := ⟨payload, fun _ ↦ 0⟩)).exists_of_error hparse
    exact ⟨_, Effect.bind_of_error hthrow, nofun⟩
  · exact ⟨_, Effect.bind_of_ok (orThrow_of_ok hparse s), nofun⟩

theorem buildAuthResponse_ne {password : Bytes} {scramble : Scramble} {plugin : Bytes} {e : Exn}
    (h : buildAuthResponse ssl password scramble plugin = .error e) : e ≠ .outOfFuel := by
  rintro rfl
  rw [buildAuthResponse] at h
  split_ifs at h
  cases h

theorem opensslError_ne (call : Bytes) : opensslError call ≠ .error .outOfFuel := by
  rw [opensslError]
  exact nofun

theorem rsaEncryptPassword_ne {drawn : ℕ} {password : Bytes} {scramble : Scramble} {key : Bytes}
    {e : Exn} (h : rsaEncryptPassword ssl drawn password scramble key = .error e) :
    e ≠ .outOfFuel := by
  rintro rfl
  rw [rsaEncryptPassword] at h
  split_ifs at h
  · exact opensslError_ne _ h
  generalize ssl.pemReadBioPubkey key = found at h
  obtain _ | key := found
  · exact opensslError_ne _ h
  dsimp only at h
  split_ifs at h
  all_goals first
    | exact opensslError_ne _ h
    | skip
  generalize ssl.evpPkeyEncrypt drawn key (saltCachingSha2Password password scramble) = encrypted
    at h
  obtain _ | encrypted := encrypted
  · exact opensslError_ne _ h
  · cases h

/-! ## The client stays within the exchange -/

/-- The client has gone on, and recorded so much more. -/
structure Login.Continues (s t : Login) (more : List LoginEvent) : Prop where
  events : t.events = s.events ++ more
  password : t.password = s.password
  socketOpen : t.conn.socketOpen = true
  input : t.conn.input.length ≤ s.conn.input.length

theorem Login.Continues.trans {s t u : Login} {more more' : List LoginEvent}
    (h : s.Continues t more) (h' : t.Continues u more') : s.Continues u (more ++ more') where
  events := by rw [h'.events, h.events, List.append_assoc]
  password := h'.password.trans h.password
  socketOpen := h'.socketOpen
  input := h'.input.trans h.input

theorem continues_wrote {s : Login} (hopen : s.conn.socketOpen = true) (packet : Bytes) :
    s.Continues (s.wrote packet) [.wrote packet] :=
  ⟨rfl, rfl, hopen, Nat.le_refl _⟩

/-- A packet is read, or the stream ends. -/
theorem readLoginPacket_cases {s : Login} (hopen : s.conn.socketOpen = true)
    (event : Bytes → LoginEvent) :
    (∃ p t, readLoginPacket event s = .ok p t ∧ s.Continues t [event p] ∧
        t.conn.input.length < s.conn.input.length) ∨
      ∃ t, readLoginPacket event s = .error .endOfStream t ∧ t.events = s.events := by
  obtain ⟨p, conn, hread, hlength⟩ | ⟨conn, hread⟩ := readPacket_cases hopen
  · have hkeeps : conn.socketOpen = true := by
      have hfinal := keeps_readPacket s.conn
      rwa [Effect.final_of_ok hread, hopen] at hfinal
    refine Or.inl ⟨p, { s with conn, events := s.events ++ [event p] }, ?_,
      ⟨rfl, rfl, hkeeps, hlength.le⟩, hlength⟩
    rw [readLoginPacket, Effect.bind_of_ok (onConnection_of_ok hread)]
    rfl
  · refine Or.inr ⟨{ s with conn }, ?_, rfl⟩
    rw [readLoginPacket, Effect.bind_of_error (onConnection_of_error hread)]

theorem onConnection_orThrow_of_ok {α : Type} {r : Except Exn α} {a : α} (h : r = .ok a)
    (s : Login) : onConnection (orThrow r) s = .ok a s :=
  onConnection_of_ok (orThrow_of_ok h s.conn)

theorem onConnection_orThrow_of_error {α : Type} {r : Except Exn α} {e : Exn} (h : r = .error e)
    (s : Login) : onConnection (orThrow r) s = .error e s :=
  onConnection_of_error (by rw [h]; rfl)

/-- A switch is answered with the response of the plugin that it names. -/
theorem answerAuthSwitch_cases {s : Login} (hopen : s.conn.socketOpen = true) (payload : Bytes) :
    (∃ response t, switchResponse ssl s.password payload = .ok response ∧
        answerAuthSwitch ssl payload s = .ok () t ∧ s.Continues t [.wrote response]) ∨
      ∃ e t, switchResponse ssl s.password payload = .error e ∧ e ≠ .outOfFuel ∧
        answerAuthSwitch ssl payload s = .error e t ∧ t.events = s.events := by
  generalize hparse : parseAuthSwitch payload = r
  obtain e | request := r
  · refine Or.inr ⟨e, s, ?_, parseAuthSwitch_ne hparse, ?_, rfl⟩
    · rw [switchResponse, hparse]
      rfl
    · rw [answerAuthSwitch, Effect.bind_of_error (onConnection_orThrow_of_error hparse s)]
  · have hswitch : switchResponse ssl s.password payload = buildAuthResponse ssl s.password
        (copyScramble (dropTerminator request.pluginData)) request.pluginName := by
      rw [switchResponse, hparse]
      rfl
    rw [hswitch, answerAuthSwitch, Effect.bind_of_ok (onConnection_orThrow_of_ok hparse s),
      Effect.modify_bind, Effect.get_bind]
    generalize hbuild : buildAuthResponse ssl s.password
      (copyScramble (dropTerminator request.pluginData)) request.pluginName = built
    obtain e | response := built
    · refine Or.inr ⟨e, s.switchTo request, rfl, buildAuthResponse_ne ssl hbuild, ?_, rfl⟩
      exact Effect.bind_of_error (onConnection_orThrow_of_error hbuild _)
    · refine Or.inl ⟨response, (s.switchTo request).wrote response, rfl, ?_,
        ⟨rfl, rfl, hopen, Nat.le_refl _⟩⟩
      exact (Effect.bind_of_ok (onConnection_orThrow_of_ok hbuild _)).trans
        (writeLoginPacket_of_open (s := s.switchTo request) hopen response)

/-- The request for a public key, the key and the encrypted password. -/
theorem sendEncryptedPassword_cases {s : Login} (hopen : s.conn.socketOpen = true) :
    (∃ key encrypted drawn scramble t,
        rsaEncryptPassword ssl drawn s.password scramble key = .ok encrypted ∧
        sendEncryptedPassword ssl s = .ok () t ∧
        s.Continues t [.wrote [2], .readPublicKey key, .wrote encrypted]) ∨
      ∃ e t, e ≠ .outOfFuel ∧ sendEncryptedPassword ssl s = .error e t ∧
        (t.events = s.events ++ [.wrote [2]] ∨
          ∃ key, t.events = s.events ++ [.wrote [2], .readPublicKey key]) := by
  rw [sendEncryptedPassword, Effect.bind_of_ok (writeLoginPacket_of_open hopen [2])]
  have hasked := continues_wrote hopen [2]
  obtain ⟨key, t, hread, hkey, -⟩ | ⟨t, hread, hevents⟩ :=
    readLoginPacket_cases hasked.socketOpen .readPublicKey
  · have hkeyed := hasked.trans hkey
    rw [Effect.bind_of_ok hread]
    split_ifs with herr
    · obtain ⟨e, hthrow, hne⟩ := throwServerError_cases (α := Unit)
        (ascii "mysql_async auth public key failed [") key t.conn
      exact Or.inr ⟨e, t, hne, onConnection_of_error hthrow, Or.inr ⟨key, hkeyed.events⟩⟩
    · rw [Effect.get_bind]
      generalize hrsa : rsaEncryptPassword ssl t.events.length t.password t.scramble key = r
      obtain e | encrypted := r
      · exact Or.inr ⟨e, t, rsaEncryptPassword_ne ssl hrsa,
          Effect.bind_of_error (onConnection_orThrow_of_error rfl t),
          Or.inr ⟨key, hkeyed.events⟩⟩
      · refine Or.inl ⟨key, encrypted, t.events.length, t.scramble, t.wrote encrypted, ?_, ?_,
          hkeyed.trans (continues_wrote hkeyed.socketOpen encrypted)⟩
        · rw [← hkeyed.password]
          exact hrsa
        · exact (Effect.bind_of_ok (onConnection_orThrow_of_ok rfl t)).trans
            (writeLoginPacket_of_open hkeyed.socketOpen encrypted)
  · refine Or.inr ⟨.endOfStream, t, nofun, Effect.bind_of_error hread, Or.inl ?_⟩
    rw [hevents]
    rfl

theorem answerAuthMoreData_cases {s : Login} (hopen : s.conn.socketOpen = true) {payload : Bytes}
    (hkind : isAuthMoreData payload = true) (hnot : isAuthSwitchRequest payload = false) :
    (∃ answer t, Answers ssl s.password payload answer ∧
        answerAuthMoreData ssl payload s = .ok () t ∧ s.Continues t answer) ∨
      ∃ answer e t, Breaks ssl s.password payload answer e ∧ e ≠ .outOfFuel ∧
        answerAuthMoreData ssl payload s = .error e t ∧ t.events = s.events ++ answer := by
  rw [answerAuthMoreData]
  generalize hparse : parseAuthMoreData payload = r
  obtain e | data := r
  · exact Or.inr ⟨[], e, s, .refused hnot, parseAuthMoreData_ne hparse,
      Effect.bind_of_error (onConnection_orThrow_of_error rfl s), (List.append_nil _).symm⟩
  · rw [Effect.bind_of_ok (onConnection_orThrow_of_ok rfl s), Effect.get_bind]
    split_ifs with hfast hfull hsecure
    · exact Or.inl ⟨[], s, .fast hkind, rfl,
        ⟨(List.append_nil _).symm, rfl, hopen, Nat.le_refl _⟩⟩
    · exact absurd hsecure nofun
    · obtain ⟨key, encrypted, drawn, scramble, t, hrsa, hsend, hcontinues⟩ |
        ⟨e, t, hne, hsend, hevents | ⟨key, hevents⟩⟩ := sendEncryptedPassword_cases ssl hopen
      · exact Or.inl ⟨_, t, .full hkind hrsa, hsend, hcontinues⟩
      · exact Or.inr ⟨_, e, t, .asked hkind, hne, hsend, hevents⟩
      · exact Or.inr ⟨_, e, t, .keyed hkind, hne, hsend, hevents⟩
    · exact Or.inr ⟨[], .runtimeError _, s, .refused hnot, nofun, rfl, (List.append_nil _).symm⟩

theorem answerAuth_cases {s : Login} (hopen : s.conn.socketOpen = true) (payload : Bytes) :
    (∃ answer t, Answers ssl s.password payload answer ∧
        answerAuth ssl payload s = .ok () t ∧ s.Continues t answer) ∨
      ∃ answer e t, Breaks ssl s.password payload answer e ∧ e ≠ .outOfFuel ∧
        answerAuth ssl payload s = .error e t ∧ t.events = s.events ++ answer := by
  rw [answerAuth]
  split_ifs with hswitch hmore
  · obtain ⟨response, t, hresponse, hanswer, hcontinues⟩ |
      ⟨e, t, hresponse, hne, hanswer, hevents⟩ := answerAuthSwitch_cases ssl hopen payload
    · exact Or.inl ⟨_, t, .switch hswitch hresponse, hanswer, hcontinues⟩
    · refine Or.inr ⟨[], e, t, .switch hswitch hresponse, hne, hanswer, ?_⟩
      rw [hevents, List.append_nil]
  · exact answerAuthMoreData_cases ssl hopen hmore (Bool.eq_false_iff.mpr hswitch)
  · exact Or.inr ⟨[], .runtimeError _, s, .refused (Bool.eq_false_iff.mpr hswitch), nofun, rfl,
      (List.append_nil _).symm⟩

/-- How an action ends, without the state. -/
def outcome {α : Type} (x : AsyncLogin α) (s : Login) : Except Exn α :=
  match x s with
  | .ok a _ => .ok a
  | .error e _ => .error e

/-- The action records so much, and ends so. -/
structure Login.Runs {α : Type} (s : Login) (x : AsyncLogin α) (more : List LoginEvent)
    (result : Except Exn α) : Prop where
  events : (Effect.final x s).events = s.events ++ more
  outcome : outcome x s = result

theorem Login.runs_of_ok {α : Type} {s t : Login} {x : AsyncLogin α} {more : List LoginEvent}
    {a : α} (h : x s = .ok a t) (hevents : t.events = s.events ++ more) :
    s.Runs x more (.ok a) where
  events := by rw [Effect.final_of_ok h, hevents]
  outcome := by rw [Ormpp.outcome, h]

theorem Login.runs_of_error {α : Type} {s t : Login} {x : AsyncLogin α} {more : List LoginEvent}
    {e : Exn} (h : x s = .error e t) (hevents : t.events = s.events ++ more) :
    s.Runs x more (.error e) where
  events := by rw [Effect.final_of_error h, hevents]
  outcome := by rw [Ormpp.outcome, h]

/-- What is left to run decides about the rest. -/
theorem Login.Continues.runs {α : Type} {s t : Login} {x y : AsyncLogin α}
    {more more' : List LoginEvent} {result : Except Exn α} (h : s.Continues t more)
    (hy : t.Runs y more' result) (heq : x s = y t) : s.Runs x (more ++ more') result where
  events := by
    have hfinal : Effect.final x s = Effect.final y t := by rw [Effect.final, Effect.final, heq]
    rw [hfinal, hy.events, h.events, List.append_assoc]
  outcome := by
    rw [← hy.outcome, Ormpp.outcome, Ormpp.outcome, heq]

theorem isAuthSwitchRequest_of_head {payload : Bytes} {header : Byte}
    (h : (payload.head? == some header) = true) (hheader : header ≠ 0xfe) :
    isAuthSwitchRequest payload = false := by
  have hne : (some header == some (0xfe : Byte)) = false := by
    rw [beq_eq_false_iff_ne, ne_eq, Option.some.injEq]
    exact hheader
  rw [isAuthSwitchRequest, beq_iff_eq.mp h, hne]
  rfl

/-- **The loop.** From a packet on, the client goes through rounds of the exchange. -/
theorem handleAuthResponse_rounds {fuel : ℕ} {payload : Bytes} {s : Login}
    (hopen : s.conn.socketOpen = true) (hfuel : s.conn.input.length < fuel) :
    ∃ more result, Rounds ssl s.password payload more result ∧
      s.Runs (handleAuthResponse ssl fuel payload) more result := by
  induction fuel generalizing payload s with
  | zero => exact absurd hfuel (Nat.not_lt_zero _)
  | succ fuel ih =>
    rw [handleAuthResponse]
    split_ifs with herr hok
    · have hnot := isAuthSwitchRequest_of_head herr (by decide)
      obtain ⟨e, hthrow, hne⟩ := throwServerError_cases (α := Bool)
        (ascii "mysql_async auth failed [") payload s.conn
      exact ⟨[], .error e, .broken hne (.refused hnot),
        Login.runs_of_error (onConnection_of_error hthrow) (List.append_nil _).symm⟩
    · generalize hparse : parseOkPacket payload = r
      obtain e | ok := r
      · have hnot := isAuthSwitchRequest_of_head hok.1 (by decide)
        exact ⟨[], .error e, .broken (parseOkPacket_ne hparse) (.refused hnot),
          Login.runs_of_error (Effect.bind_of_error (onConnection_orThrow_of_error rfl s))
            (List.append_nil _).symm⟩
      · refine ⟨[], .ok true, .done hok.1, Login.runs_of_ok
          (t := { s with conn := s.conn.withOk ok }) ?_ (List.append_nil _).symm⟩
        rw [Effect.bind_of_ok (onConnection_orThrow_of_ok rfl s)]
        rfl
    · obtain ⟨answer, t, hanswer, hrun, hcontinues⟩ | ⟨answer, e, t, hbreaks, hne, hrun, hevents⟩ :=
        answerAuth_cases ssl hopen payload
      · obtain ⟨next, u, hread, hnext, hlt⟩ | ⟨u, hread, hevents⟩ :=
          readLoginPacket_cases hcontinues.socketOpen .read
        · -- the next packet has been taken off the stream
          have hgone := hcontinues.trans hnext
          have hshorter : u.conn.input.length < fuel := by
            have hle := hcontinues.input
            omega
          obtain ⟨more, result, hrounds, hruns⟩ : ∃ more result,
              Rounds ssl u.password next more result ∧
                u.Runs (handleAuthResponse ssl fuel next) more result :=
            ih hgone.socketOpen hshorter
          rw [hgone.password] at hrounds
          refine ⟨answer ++ .read next :: more, result, .next hanswer hrounds, ?_⟩
          rw [← List.singleton_append, ← List.append_assoc]
          apply hgone.runs hruns
          rw [Effect.bind_of_ok hrun, Effect.bind_of_ok hread]
        · refine ⟨answer, .error .endOfStream, .broken nofun (.unread hanswer), ?_⟩
          apply Login.runs_of_error (t := u)
          · rw [Effect.bind_of_ok hrun, Effect.bind_of_error hread]
          · rw [hevents, hcontinues.events]
      · exact ⟨answer, .error e, .broken hne hbreaks,
          Login.runs_of_error (Effect.bind_of_error hrun) hevents⟩

theorem readLoginPacket_of_closed {s : Login} (hclosed : s.conn.socketOpen = false)
    (event : Bytes → LoginEvent) :
    readLoginPacket event s
      = .error (.runtimeError (ascii "mysql_async: socket is not connected")) s := by
  have hread : readPacket s.conn
      = .error (.runtimeError (ascii "mysql_async: socket is not connected")) s.conn := by
    apply Effect.bind_of_error
    rw [requireSocket, hclosed]
    rfl
  rw [readLoginPacket, Effect.bind_of_error (onConnection_of_error hread)]

/-- **The exchange.** Without a first packet there is none; otherwise it goes through its rounds. -/
theorem authenticate_rounds (s : Login) :
    (∃ e, e ≠ .outOfFuel ∧ s.Runs (authenticate ssl) [] (.error e)) ∨
      ∃ payload more result, Rounds ssl s.password payload more result ∧
        s.Runs (authenticate ssl) (.read payload :: more) result := by
  rw [authenticate]
  by_cases hopen : s.conn.socketOpen = true
  · obtain ⟨payload, t, hread, hcontinues, -⟩ | ⟨t, hread, hevents⟩ :=
      readLoginPacket_cases hopen .read
    · obtain ⟨more, result, hrounds, hruns⟩ : ∃ more result,
          Rounds ssl t.password payload more result ∧
            t.Runs (handleAuthResponse ssl (t.conn.input.length + 1) payload) more result :=
        handleAuthResponse_rounds ssl hcontinues.socketOpen (Nat.lt_succ_self _)
      rw [hcontinues.password] at hrounds
      refine Or.inr ⟨payload, more, result, hrounds, ?_⟩
      apply hcontinues.runs hruns
      rw [Effect.bind_of_ok hread, Effect.get_bind]
    · refine Or.inl ⟨.endOfStream, nofun, ?_⟩
      apply Login.runs_of_error (Effect.bind_of_error hread)
      rw [hevents, List.append_nil]
  · have hread := readLoginPacket_of_closed (Bool.eq_false_iff.mpr hopen) .read
    refine Or.inl ⟨.runtimeError _, nofun, Login.runs_of_error (Effect.bind_of_error hread) ?_⟩
    rw [List.append_nil]

end Ormpp
