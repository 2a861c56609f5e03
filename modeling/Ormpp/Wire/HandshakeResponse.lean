import Mathlib.Data.List.TakeWhile
import Ormpp.Wire.Login

/-!
# The grammar of the handshake response

A server takes the packet apart by the capability flags in its first four bytes: they say in which
of three forms the authentication data come, and whether a database, the name of a plugin and
attributes follow. Nothing of `readHandshakeResponse` is translated from the client; it is what the
client's packet is compared with.

The client builds the packet in one form only, and puts in the name of the plugin and the attributes
without a look at the flags.
-/

namespace Ormpp

open PacketReader Decoder

/-! ## The grammar -/

/-- The fields that the flags decide about. -/
structure ResponseFields where
  authData : Bytes
  database : Option Bytes
  pluginName : Option Bytes
  attributes : Option (List (Bytes × Bytes))
  deriving DecidableEq

/-- A response of version 4.1 of the protocol. -/
structure HandshakeResponse extends ResponseFields where
  capabilities : UInt32
  maxPacketSize : ℕ
  collationId : Byte
  user : Bytes
  deriving DecidableEq

/-- Bytes with their number in front. -/
def readCounted : PacketReader Bytes := do
  let size ← readLenencInt
  readString size

def readAuthData (capabilities : UInt32) : PacketReader Bytes :=
  if hasFlag capabilities clientPluginAuthLenencData then readCounted
  else if hasFlag capabilities clientSecureConnection then do
    let size ← readByte
    readString size.toNat
  else readNullTerminatedString

/-- A field that is there if a flag is set. -/
def readIf {α : Type} (capabilities flag : UInt32) (d : PacketReader α) :
    PacketReader (Option α) :=
  if hasFlag capabilities flag then some <$> d else pure none

/-- Keys and values up to the end. A pair takes a byte or more. -/
def readPairs : ℕ → PacketReader (List (Bytes × Bytes))
  | 0 => pure []
  | fuel + 1 => do
    let rest ← get
    if rest = [] then pure []
    else do
      let key ← readCounted
      let value ← readCounted
      let pairs ← readPairs fuel
      pure ((key, value) :: pairs)

def readAttributes : PacketReader (List (Bytes × Bytes)) := do
  let data ← readCounted
  match StateT.run' (readPairs data.length) data with
  | .ok pairs => pure pairs
  | .error e => throw e

/-- The fields behind the database, with what has been read in front of them. -/
def readPluginAndAttributes (capabilities : UInt32) (authData : Bytes) (database : Option Bytes) :
    PacketReader ResponseFields := do
  let pluginName ← readIf capabilities clientPluginAuth readNullTerminatedString
  let attributes ← readIf capabilities clientConnectAttrs readAttributes
  pure { authData, database, pluginName, attributes }

def readResponseFields (capabilities : UInt32) : PacketReader ResponseFields := do
  let authData ← readAuthData capabilities
  let database ← readIf capabilities clientConnectWithDb readNullTerminatedString
  readPluginAndAttributes capabilities authData database

/-- The whole packet. The flag for version 4.1 is set in it. -/
def readHandshakeResponse : PacketReader HandshakeResponse := do
  let flags ← readU32
  let capabilities := UInt32.ofNat flags
  if hasFlag capabilities clientProtocol41 then do
    let maxPacketSize ← readU32
    let collationId ← readByte
    skip 23
    let user ← readNullTerminatedString
    let fields ← readResponseFields capabilities
    pure { fields with capabilities, maxPacketSize, collationId, user }
  else throw (makeProtocolError (ascii "not a response of version 4.1"))

/-! ## What the client means -/

/-- A field that is there if a flag has been negotiated. -/
def Login.fieldIf {α : Type} (s : Login) (flag : UInt32) (a : α) : Option α :=
  if hasFlag s.conn.negotiatedCapabilities flag then some a else none

def connectAttrPairs : List (Bytes × Bytes) :=
  [(ascii "_client_name", ascii "ormpp"), (ascii "_client_version", ascii "async"),
    (ascii "_os", ascii "linux")]

def Login.fields (s : Login) (authData : Bytes) : ResponseFields where
  authData := authData
  database := s.fieldIf clientConnectWithDb s.database
  pluginName := s.fieldIf clientPluginAuth s.authPluginName
  attributes := s.fieldIf clientConnectAttrs connectAttrPairs

def Login.response (s : Login) (authData : Bytes) : HandshakeResponse where
  toResponseFields := s.fields authData
  capabilities := s.conn.negotiatedCapabilities
  maxPacketSize := 16777216
  collationId := 45
  user := s.user

/-- The bytes behind the database. -/
def pluginAndAttributes (plugin : Bytes) : Bytes :=
  (plugin ++ [0]) ++ (appendLenencInt connectAttrs.length ++ connectAttrs)

/-- The bytes behind the user. -/
def Login.fieldBytes (s : Login) (authData : Bytes) : Bytes :=
  (appendLenencInt authData.length ++ authData) ++
    (databaseField s.conn.negotiatedCapabilities s.database ++ pluginAndAttributes s.authPluginName)

variable {Key : Type} (ssl : Openssl Key)

/-- What is sent, if anything, is read as what is meant, and nothing is left over. -/
def Login.SendsReadable (s : Login) : Prop :=
  ∀ (s' : Login) (packet : Bytes), writeHandshakeResponse ssl s = .ok () s' →
    s'.events = s.events ++ [.wrote packet] →
    ∃ authData, buildAuthResponse ssl s.password s.scramble s.authPluginName = .ok authData ∧
      readHandshakeResponse.run packet = .ok (s.response authData, [])

/-! ## The fields -/

theorem decodes_readCounted {bs : Bytes} (h : bs.length < 256 ^ 8) :
    Decodes readCounted (appendLenencInt bs.length ++ bs) bs :=
  (decodes_readLenencInt h).bind (decodes_readString rfl)

theorem decodes_readIf {α : Type} {capabilities flag : UInt32} {d : PacketReader α} {bs : Bytes}
    {a : α} (h : Decodes d bs a) :
    Decodes (readIf capabilities flag d) (if hasFlag capabilities flag then bs else [])
      (if hasFlag capabilities flag then some a else none) := by
  rw [readIf]
  split_ifs
  · exact h.map some
  · exact Decodes.pure none

/-- A length below `0xfb` is a byte in both counted forms, and the zero of an empty string in the
third one. -/
theorem decodes_readAuthData {capabilities : UInt32} {authData : Bytes}
    (hlength : authData.length < 0xfb)
    (h : hasFlag capabilities clientSecureConnection = true ∨
      hasFlag capabilities clientPluginAuthLenencData = true ∨ authData = []) :
    Decodes (readAuthData capabilities) (appendLenencInt authData.length ++ authData) authData := by
  rw [readAuthData]
  split_ifs with hlenenc hsecure
  · exact decodes_readCounted (by omega)
  · have hbyte : (UInt8.ofNat authData.length).toNat = authData.length :=
      UInt8.toNat_ofNat_of_lt' (by change _ < 256; omega)
    rw [appendLenencInt, if_pos hlength]
    exact (decodes_readByte _).bind (decodes_readString hbyte.symm)
  · obtain hsecure' | hlenenc' | rfl := h
    · exact absurd hsecure' hsecure
    · exact absurd hlenenc' hlenenc
    · have hnil : Decodes readNullTerminatedString ([] ++ [0]) [] :=
        decodes_readNullTerminatedString fun _ hb ↦ absurd hb List.not_mem_nil
      exact hnil

theorem eq_takeWhile_of_readNullTerminatedString {bs text rest : Bytes}
    (h : readNullTerminatedString.run bs = .ok (text, rest)) :
    text = bs.takeWhile fun b ↦ b != 0 := by
  rw [readNullTerminatedString, run_get_bind] at h
  dsimp only at h
  split_ifs at h with hend
  · cases h
  · obtain ⟨u, left, -, hpure⟩ := run_bind_eq_ok h
    cases hpure
    rfl

/-- Data with something in front of them do not come back from a search that goes past it. -/
theorem takeWhile_cons_ne {p : Byte → Bool} {c : Byte} (hc : p c = true) (data rest : Bytes) :
    (c :: (data ++ rest)).takeWhile p ≠ data := by
  intro h
  have hall : ∀ b ∈ data, p b = true := by
    intro b hb
    rw [← h] at hb
    exact List.mem_takeWhile_imp hb
  have hlength := congrArg List.length h
  rw [List.takeWhile_cons_of_pos hc, List.takeWhile_append_of_pos hall, List.length_cons,
    List.length_append] at hlength
  omega

theorem readAuthData_ne {capabilities : UInt32} {authData : Bytes}
    (hlength : authData.length < 0xfb)
    (h : ¬(hasFlag capabilities clientSecureConnection = true ∨
      hasFlag capabilities clientPluginAuthLenencData = true ∨ authData = [])) (rest left : Bytes) :
    (readAuthData capabilities).run ((appendLenencInt authData.length ++ authData) ++ rest)
      ≠ .ok (authData, left) := by
  obtain ⟨hsecure, hlenenc, hne⟩ : hasFlag capabilities clientSecureConnection ≠ true ∧
      hasFlag capabilities clientPluginAuthLenencData ≠ true ∧ authData ≠ [] := by
    simpa only [not_or] using h
  have hpos : 0 < authData.length := List.length_pos_iff.mpr hne
  have hbyte : (UInt8.ofNat authData.length != 0) = true := by
    rw [bne_iff_ne, ne_eq, ← UInt8.toNat_inj, UInt8.toNat_ofNat_of_lt' (by change _ < 256; omega)]
    change ¬authData.length = 0
    omega
  intro hread
  rw [readAuthData, if_neg hlenenc, if_neg hsecure, appendLenencInt, if_pos hlength] at hread
  have htext := eq_takeWhile_of_readNullTerminatedString hread
  exact takeWhile_cons_ne (p := fun b ↦ b != 0) hbyte authData rest htext.symm

/-- The attributes that the client sends. -/
theorem decodes_readAttributes :
    Decodes readAttributes (appendLenencInt connectAttrs.length ++ connectAttrs)
      connectAttrPairs := by
  have hcounted : Decodes readCounted (appendLenencInt connectAttrs.length ++ connectAttrs)
      connectAttrs := decodes_readCounted (by decide)
  have hpairs : StateT.run' (readPairs connectAttrs.length) connectAttrs
      = .ok connectAttrPairs := rfl
  intro rest
  rw [readAttributes, run_bind_ok (hcounted rest), hpairs]
  rfl

/-- In the place of the attributes, the name of a plugin begins with a length that there are not the
bytes for. -/
theorem readAttributes_plugin {plugin : Bytes}
    (h : plugin = mysqlNativePassword ∨ plugin = cachingSha2Password) :
    readAttributes.run ((plugin ++ [0]) ++ (appendLenencInt connectAttrs.length ++ connectAttrs))
      = .error (makeProtocolError (ascii "truncated packet")) := by
  obtain rfl | rfl := h
  · rfl
  · rfl

theorem plugin_ne_zero {plugin : Bytes}
    (h : plugin = mysqlNativePassword ∨ plugin = cachingSha2Password) : ∀ b ∈ plugin, b ≠ 0 := by
  obtain rfl | rfl := h
  · decide
  · decide

section Tail

variable {s : Login} {authData : Bytes}

/-- The two fields that are always sent are read exactly if both flags are set. -/
theorem readPluginAndAttributes_iff
    (hplugin : s.authPluginName = mysqlNativePassword ∨ s.authPluginName = cachingSha2Password) :
    (readPluginAndAttributes s.conn.negotiatedCapabilities authData
        (s.fieldIf clientConnectWithDb s.database)).run (pluginAndAttributes s.authPluginName)
        = .ok (s.fields authData, [])
      ↔ hasFlag s.conn.negotiatedCapabilities clientPluginAuth = true ∧
        hasFlag s.conn.negotiatedCapabilities clientConnectAttrs = true := by
  have hname : Decodes readNullTerminatedString (s.authPluginName ++ [0]) s.authPluginName :=
    decodes_readNullTerminatedString (plugin_ne_zero hplugin)
  have hpairs := decodes_readAttributes.run_self
  rw [readPluginAndAttributes, pluginAndAttributes]
  by_cases hauth : hasFlag s.conn.negotiatedCapabilities clientPluginAuth = true
  · have hfirst := hname.map some
    rw [readIf, if_pos hauth, run_bind_ok (hfirst _)]
    by_cases hattrs : hasFlag s.conn.negotiatedCapabilities clientConnectAttrs = true
    · have hsecond := (decodes_readAttributes.map some).run_self
      rw [readIf, if_pos hattrs, run_bind_ok hsecond, Login.fields, Login.fieldIf, Login.fieldIf,
        Login.fieldIf, if_pos hauth, if_pos hattrs]
      exact iff_of_true rfl ⟨hauth, hattrs⟩
    · -- nobody takes the attributes
      rw [readIf, if_neg hattrs]
      refine iff_of_false ?_ fun h ↦ hattrs h.2
      intro hread
      exact absurd (congrArg (fun r ↦ r.map Prod.snd) hread) nofun
  · rw [readIf, if_neg hauth, pure_bind]
    refine iff_of_false ?_ fun h ↦ hauth h.1
    intro hread
    by_cases hattrs : hasFlag s.conn.negotiatedCapabilities clientConnectAttrs = true
    · have hfails := readAttributes_plugin hplugin
      rw [readIf, if_pos hattrs] at hread
      obtain ⟨attributes, left, hmap, -⟩ := run_bind_eq_ok hread
      rw [StateT.run_map, hfails] at hmap
      exact absurd hmap nofun
    · -- nobody takes the name of the plugin
      rw [readIf, if_neg hattrs] at hread
      have hleft := congrArg (fun r ↦ r.map Prod.snd) hread
      obtain hplugin | hplugin := hplugin
      · rw [hplugin] at hleft
        exact absurd hleft nofun
      · rw [hplugin] at hleft
        exact absurd hleft nofun

theorem readResponseFields_iff
    (hplugin : s.authPluginName = mysqlNativePassword ∨ s.authPluginName = cachingSha2Password)
    (hdatabase : ∀ b ∈ s.database, b ≠ 0) (hlength : authData.length < 0xfb) :
    (readResponseFields s.conn.negotiatedCapabilities).run (s.fieldBytes authData)
        = .ok (s.fields authData, [])
      ↔ (hasFlag s.conn.negotiatedCapabilities clientSecureConnection = true ∨
          hasFlag s.conn.negotiatedCapabilities clientPluginAuthLenencData = true ∨
          authData = []) ∧
        hasFlag s.conn.negotiatedCapabilities clientPluginAuth = true ∧
        hasFlag s.conn.negotiatedCapabilities clientConnectAttrs = true := by
  rw [readResponseFields, Login.fieldBytes]
  by_cases hform : hasFlag s.conn.negotiatedCapabilities clientSecureConnection = true ∨
      hasFlag s.conn.negotiatedCapabilities clientPluginAuthLenencData = true ∨ authData = []
  · have hdb : Decodes
        (readIf s.conn.negotiatedCapabilities clientConnectWithDb readNullTerminatedString)
        (databaseField s.conn.negotiatedCapabilities s.database)
        (s.fieldIf clientConnectWithDb s.database) :=
      decodes_readIf (decodes_readNullTerminatedString hdatabase)
    rw [run_bind_ok (decodes_readAuthData hlength hform _), run_bind_ok (hdb _),
      readPluginAndAttributes_iff hplugin]
    exact (and_iff_right hform).symm
  · refine iff_of_false ?_ fun h ↦ hform h.1
    intro hread
    obtain ⟨authData', left, hauth, hrest⟩ := run_bind_eq_ok hread
    obtain ⟨database, left, -, hrest⟩ := run_bind_eq_ok hrest
    obtain ⟨pluginName, left, -, hrest⟩ := run_bind_eq_ok hrest
    obtain ⟨attributes, left, -, hrest⟩ := run_bind_eq_ok hrest
    have hsame : authData' = authData := by
      cases hrest
      rfl
    rw [hsame] at hauth
    exact readAuthData_ne hlength hform _ _ hauth

/-- The packet of the client, with the fields at its end. -/
def Login.packet (s : Login) (authData : Bytes) : Bytes :=
  appendLe32 s.conn.negotiatedCapabilities ++ (appendLe32 maxPacketSize ++ ([collationId] ++
    (List.replicate 23 0 ++ ((s.user ++ [0]) ++ s.fieldBytes authData))))

theorem readHandshakeResponse_iff
    (hplugin : s.authPluginName = mysqlNativePassword ∨ s.authPluginName = cachingSha2Password)
    (huser : ∀ b ∈ s.user, b ≠ 0) (hdatabase : ∀ b ∈ s.database, b ≠ 0)
    (hlength : authData.length < 0xfb) :
    readHandshakeResponse.run (s.packet authData) = .ok (s.response authData, [])
      ↔ hasFlag s.conn.negotiatedCapabilities clientProtocol41 = true ∧
        (hasFlag s.conn.negotiatedCapabilities clientSecureConnection = true ∨
          hasFlag s.conn.negotiatedCapabilities clientPluginAuthLenencData = true ∨
          authData = []) ∧
        hasFlag s.conn.negotiatedCapabilities clientPluginAuth = true ∧
        hasFlag s.conn.negotiatedCapabilities clientConnectAttrs = true := by
  have hcaps : Decodes readU32 (appendLe32 s.conn.negotiatedCapabilities)
      s.conn.negotiatedCapabilities.toNat := by
    rw [appendLe32_eq]
    exact decodes_readLe (UInt32.toNat_lt _)
  have hmax : Decodes readU32 (appendLe32 maxPacketSize) 16777216 := by
    rw [appendLe32_eq]
    exact decodes_readLe (by decide)
  rw [readHandshakeResponse, Login.packet, run_bind_ok (hcaps _), UInt32.ofNat_toNat]
  by_cases hversion : hasFlag s.conn.negotiatedCapabilities clientProtocol41 = true
  · have hskip : Decodes (skip 23) (List.replicate 23 0) () := decodes_skip rfl
    have huser' := decodes_readNullTerminatedString huser
    rw [if_pos hversion, run_bind_ok (hmax _), run_bind_ok (decodes_readByte collationId _),
      run_bind_ok (hskip _), run_bind_ok (huser' _), and_iff_right hversion,
      ← readResponseFields_iff hplugin hdatabase hlength]
    constructor
    · intro hread
      obtain ⟨fields, left, hfields, hrest⟩ := run_bind_eq_ok hread
      have hsame : fields = s.fields authData ∧ left = [] := by
        cases hrest
        exact ⟨rfl, rfl⟩
      rw [hfields, hsame.1, hsame.2]
    · intro hfields
      rw [run_bind_ok hfields]
      rfl
  · rw [if_neg hversion]
    exact iff_of_false nofun fun h ↦ hversion h.1

end Tail

/-! ## What a server has to offer -/

/-- The client asks for the flag, with a database or without. -/
theorem hasFlag_negotiatedCapabilities {flag : UInt32}
    (h : ∀ database, clientCapabilities database &&& flag = flag) (database : Bytes)
    (capabilities : UInt32) :
    hasFlag (negotiatedCapabilities database capabilities) flag = hasFlag capabilities flag := by
  rw [hasFlag, hasFlag, negotiatedCapabilities, UInt32.and_assoc, UInt32.and_comm capabilities,
    ← UInt32.and_assoc, h, UInt32.and_comm]

theorem clientCapabilities_and {flag : UInt32}
    (h : clientCapabilities [] &&& flag = flag ∧
      (clientCapabilities [] ||| clientConnectWithDb) &&& flag = flag) (database : Bytes) :
    clientCapabilities database &&& flag = flag := by
  by_cases hdatabase : database = []
  · rw [hdatabase]
    exact h.1
  · have hwith : clientCapabilities database = clientCapabilities [] ||| clientConnectWithDb := by
      rw [clientCapabilities, if_pos hdatabase]
      rfl
    rw [hwith]
    exact h.2

/-- The members as `connect` has set them when the greeting has arrived. -/
def Login.connecting (user password database input : Bytes) (handshake : ServerHandshake) : Login :=
  Login.takeHandshake { conn := { socketOpen := true, input }, user, password, database } handshake

/-- The greeting offers what the response takes for granted. -/
structure ServerHandshake.OffersEnough (handshake : ServerHandshake) (password : Bytes) :
    Prop where
  protocol41 : hasFlag handshake.capabilities clientProtocol41 = true
  counted : hasFlag handshake.capabilities clientSecureConnection = true ∨
    hasFlag handshake.capabilities clientPluginAuthLenencData = true ∨ password = []
  pluginAuth : hasFlag handshake.capabilities clientPluginAuth = true
  connectAttrs : hasFlag handshake.capabilities clientConnectAttrs = true

section Connecting

variable {user password database input : Bytes} {handshake : ServerHandshake}

theorem connecting_response_iff {ssl : Openssl Key} {authData : Bytes} (huser : ∀ b ∈ user, b ≠ 0)
    (hdatabase : ∀ b ∈ database, b ≠ 0)
    (h : buildAuthResponse ssl password handshake.scramble
      (Login.connecting user password database input handshake).authPluginName = .ok authData) :
    readHandshakeResponse.run
        ((Login.connecting user password database input handshake).packet authData)
      = .ok ((Login.connecting user password database input handshake).response authData, [])
      ↔ handshake.OffersEnough password := by
  have hlength := length_buildAuthResponse ssl h
  have hshort : authData.length < 0xfb := by
    obtain ⟨-, rfl⟩ | ⟨-, h20 | h32⟩ := hlength
    · exact Nat.succ_pos _
    · rw [h20]
      decide
    · rw [h32]
      decide
  have hempty : authData = [] ↔ password = [] := by
    obtain ⟨hpassword, hdata⟩ | ⟨hpassword, hdata⟩ := hlength
    · exact iff_of_true hdata hpassword
    · refine iff_of_false ?_ hpassword
      rintro rfl
      exact absurd hdata (by decide)
  have hflag {flag : UInt32} (hoffered : ∀ database, clientCapabilities database &&& flag = flag) :
      hasFlag (Login.connecting user password database input handshake).conn.negotiatedCapabilities
        flag = hasFlag handshake.capabilities flag :=
    hasFlag_negotiatedCapabilities hoffered database handshake.capabilities
  rw [readHandshakeResponse_iff (supported_of_buildAuthResponse ssl h) huser hdatabase hshort,
    hflag (clientCapabilities_and (by decide)), hflag (clientCapabilities_and (by decide)),
    hflag (clientCapabilities_and (by decide)), hflag (clientCapabilities_and (by decide)),
    hflag (clientCapabilities_and (by decide)), hempty]
  constructor
  · rintro ⟨hversion, hcounted, hauth, hattrs⟩
    exact ⟨hversion, hcounted, hauth, hattrs⟩
  · intro h
    exact ⟨h.protocol41, h.counted, h.pluginAuth, h.connectAttrs⟩

theorem supported_connecting_iff :
    (Login.connecting user password database input handshake).authPluginName = mysqlNativePassword ∨
      (Login.connecting user password database input handshake).authPluginName = cachingSha2Password
      ↔ handshake.authPluginName ∈ [[], mysqlNativePassword, cachingSha2Password] := by
  have hname : (Login.connecting user password database input handshake).authPluginName
      = if handshake.authPluginName = [] then mysqlNativePassword
        else handshake.authPluginName := rfl
  rw [hname]
  split_ifs with hempty
  · exact iff_of_true (Or.inl rfl) (by rw [hempty]; exact List.mem_cons_self)
  · simp [hempty]

end Connecting

theorem Login.handshakeResponse_of_ok {s : Login} {authData : Bytes}
    (h : buildAuthResponse ssl s.password s.scramble s.authPluginName = .ok authData) :
    s.handshakeResponse ssl = .ok (s.packet authData) := by
  rw [handshakeResponse, h]
  rfl

theorem Login.exists_of_handshakeResponse_eq_ok {s : Login} {response : Bytes}
    (h : s.handshakeResponse ssl = .ok response) :
    ∃ authData, buildAuthResponse ssl s.password s.scramble s.authPluginName = .ok authData := by
  generalize hbuild : buildAuthResponse ssl s.password s.scramble s.authPluginName = r
  obtain e | authData := r
  · rw [handshakeResponse, hbuild] at h
    exact absurd h nofun
  · exact ⟨authData, rfl⟩

/-- The one packet that is sent decides. -/
theorem Login.sendsReadable_of_ok {s : Login} (hopen : s.conn.socketOpen = true) {authData : Bytes}
    (h : buildAuthResponse ssl s.password s.scramble s.authPluginName = .ok authData) :
    s.SendsReadable ssl
      ↔ readHandshakeResponse.run (s.packet authData) = .ok (s.response authData, []) := by
  have hwrite := writeHandshakeResponse_of_ok ssl hopen (handshakeResponse_of_ok ssl h)
  constructor
  · intro hsends
    obtain ⟨authData', hbuild, hread⟩ := hsends _ (s.packet authData) hwrite rfl
    rw [hbuild] at h
    cases h
    exact hread
  · intro hread s' packet hrun hevents
    rw [hwrite] at hrun
    cases hrun
    have hpacket : [LoginEvent.wrote (s.packet authData)] = [.wrote packet] :=
      List.append_cancel_left hevents
    cases hpacket
    exact ⟨authData, h, hread⟩

/-- **The response.** What the client sends is read as what it means, under the flags that it sends
with it, exactly if the server offers enough; for a plugin that the client does not know it sends
nothing. -/
theorem sendsReadable_iff (user password database input : Bytes) (handshake : ServerHandshake)
    (huser : ∀ b ∈ user, b ≠ 0) (hdatabase : ∀ b ∈ database, b ≠ 0) :
    (Login.connecting user password database input handshake).SendsReadable ssl
      ↔ handshake.authPluginName ∉ [[], mysqlNativePassword, cachingSha2Password] ∨
        handshake.OffersEnough password := by
  by_cases hplugin : handshake.authPluginName ∈ [[], mysqlNativePassword, cachingSha2Password]
  · have hsupported :
        (Login.connecting user password database input handshake).authPluginName
            = mysqlNativePassword ∨
          (Login.connecting user password database input handshake).authPluginName
            = cachingSha2Password := supported_connecting_iff.mpr hplugin
    obtain ⟨authData, hbuild⟩ :=
      exists_buildAuthResponse ssl password handshake.scramble hsupported
    rw [Login.sendsReadable_of_ok ssl rfl hbuild, connecting_response_iff huser hdatabase hbuild]
    exact (or_iff_right (not_not.mpr hplugin)).symm
  · refine iff_of_true ?_ (Or.inl hplugin)
    intro s' packet hrun
    generalize hresponse :
      (Login.connecting user password database input handshake).handshakeResponse ssl = r
    obtain e | response := r
    · rw [writeHandshakeResponse_of_error ssl hresponse] at hrun
      exact absurd hrun nofun
    · obtain ⟨authData, hbuild⟩ := Login.exists_of_handshakeResponse_eq_ok ssl hresponse
      exact absurd (supported_connecting_iff.mp (supported_of_buildAuthResponse ssl hbuild)) hplugin

/-- An OpenSSL of which no call succeeds. An empty password calls none. -/
def Openssl.failing : Openssl Unit where
  sha1 := fun _ ↦ List.replicate 20 0
  length_sha1 := fun _ ↦ List.length_replicate
  sha256 := fun _ ↦ List.replicate 32 0
  length_sha256 := fun _ ↦ List.length_replicate
  bioNewMemBuf := fun _ ↦ false
  pemReadBioPubkey := fun _ ↦ none
  evpPkeyCtxNew := fun _ ↦ false
  evpPkeyEncryptInit := fun _ ↦ false
  evpPkeyCtxSetRsaPadding := fun _ ↦ false
  evpPkeySize := fun _ ↦ 0
  evpPkeyEncrypt := fun _ _ _ ↦ none

/-- The greeting of a server of version 5.5, which knows plugins and no attributes. -/
def handshakeWithoutAttrs : ServerHandshake where
  protocolVersion := 10
  serverVersion := ascii "5.5.62"
  connectionId := 1
  scramble := copyScramble (ascii "abcdefghijklmnopqrst")
  capabilities := 0x800ff7ff
  characterSet := 8
  statusFlags := 2
  authPluginName := mysqlNativePassword

theorem sendsReadable_iff_root :
    (Login.connecting (ascii "root") [] (ascii "test") [] handshakeWithoutAttrs).SendsReadable
        Openssl.failing
      ↔ mysqlNativePassword ∉ [[], mysqlNativePassword, cachingSha2Password] ∨
        handshakeWithoutAttrs.OffersEnough [] :=
  sendsReadable_iff Openssl.failing (ascii "root") [] (ascii "test") [] handshakeWithoutAttrs
    (by decide) (by decide)

/-- The attributes are sent to a server that does not know them. -/
theorem not_sendsReadable : ¬ ∀ (Key : Type) (ssl : Openssl Key)
    (user password database input : Bytes) (handshake : ServerHandshake),
    (∀ b ∈ user, b ≠ 0) → (∀ b ∈ database, b ≠ 0) →
      (Login.connecting user password database input handshake).SendsReadable ssl := by
  intro h
  have huser : ∀ b ∈ ascii "root", b ≠ 0 := by decide
  have hdatabase : ∀ b ∈ ascii "test", b ≠ 0 := by decide
  have hsends := h Unit Openssl.failing (ascii "root") [] (ascii "test") [] handshakeWithoutAttrs
    huser hdatabase
  have hbuild : buildAuthResponse Openssl.failing [] handshakeWithoutAttrs.scramble
      mysqlNativePassword = .ok [] := rfl
  have hread := (Login.sendsReadable_of_ok Openssl.failing rfl hbuild).mp hsends
  have hoffers := (connecting_response_iff huser hdatabase hbuild).mp hread
  have hattrs : hasFlag handshakeWithoutAttrs.capabilities clientConnectAttrs = false := by decide
  exact absurd (hattrs.symm.trans hoffers.connectAttrs) nofun

end Ormpp
