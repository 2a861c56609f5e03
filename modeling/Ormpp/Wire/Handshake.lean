import Ormpp.Wire.Capability
import Ormpp.Wire.Packet

/-!
# The server's greeting

The first packet of a connection, and how it is taken apart. Its layout depends on capability bits
that stand in two places of it, and the scramble comes in two parts. The second part is as long as
the server says, but never shorter than 13 bytes, and ends with a byte that is not part of it.

`Greeting` is a greeting as a server of version 10 of the protocol writes it.
-/

namespace Ormpp

open PacketReader Decoder

/-! ## Strings and scrambles -/

/-- `read_null_terminated_string`. -/
def readNullTerminatedString : PacketReader Bytes := do
  let rest ← get
  let text := rest.takeWhile fun b ↦ b != 0
  if text.length = rest.length then throw (makeProtocolError (ascii "missing null terminator"))
  else do
    skip (text.length + 1)
    pure text

/-- `std::array<byte, 20>`. -/
abbrev Scramble := { bytes : Bytes // bytes.length = 20 }

/-- A last byte that is zero is taken away. -/
def dropTerminator (data : Bytes) : Bytes := if data.getLast? = some 0 then data.dropLast else data

/-- Zeros are put behind what is too short for a scramble, and the first bytes are copied into
one. -/
def copyScramble (data : Bytes) : Scramble :=
  ⟨(data ++ List.replicate (20 - data.length) 0).take 20, by simp; omega⟩

def mysqlNativePassword : Bytes := ascii "mysql_native_password"

def cachingSha2Password : Bytes := ascii "caching_sha2_password"

/-! ## The parser -/

structure ServerHandshake where
  protocolVersion : Byte
  serverVersion : Bytes
  connectionId : ℕ
  scramble : Scramble
  capabilities : UInt32
  characterSet : Byte
  statusFlags : ℕ
  authPluginName : Bytes
  deriving DecidableEq

/-- A capability flag is set. -/
def hasFlag (capabilities flag : UInt32) : Bool := capabilities &&& flag != 0

/-- The length of the authentication data, or a byte that says nothing. -/
def readAuthPluginLen (capabilities : UInt32) : PacketReader Byte :=
  if hasFlag capabilities clientPluginAuth then readByte
  else do
    skip 1
    pure 0

/-- The second part of the scramble, without the byte behind it. -/
def readScramblePart (capabilities : UInt32) (authPluginLen : Byte) : PacketReader Bytes :=
  if hasFlag capabilities clientSecureConnection then do
    let part2 ← readString (max 13 (authPluginLen.toNat - 8))
    pure (dropTerminator part2)
  else pure []

/-- The name of the plugin, where the greeting has one. -/
def readAuthPluginName (capabilities : UInt32) : PacketReader Bytes := do
  let rest ← get
  if hasFlag capabilities clientPluginAuth ∧ rest.length ≠ 0 then readNullTerminatedString
  else pure mysqlNativePassword

/-- The two halves of the capabilities. -/
def joinCapabilities (lower upper : ℕ) : UInt32 := UInt32.ofNat lower ||| UInt32.ofNat upper <<< 16

/-- What follows the lower half of the capabilities. -/
def readHandshakeRest (protocolVersion : Byte) (serverVersion : Bytes) (connectionId : ℕ)
    (scramble1 : Bytes) (lower : ℕ) : PacketReader ServerHandshake := do
  let characterSet ← readByte
  let statusFlags ← readU16
  let upper ← readU16
  let capabilities := joinCapabilities lower upper
  let authPluginLen ← readAuthPluginLen capabilities
  skip 10
  let part2 ← readScramblePart capabilities authPluginLen
  let authPluginName ← readAuthPluginName capabilities
  pure
    { protocolVersion, serverVersion, connectionId, capabilities, characterSet, statusFlags,
      authPluginName, scramble := copyScramble (scramble1 ++ part2) }

/-- `parse_server_handshake`, as a reader. -/
def readServerHandshake : PacketReader ServerHandshake := do
  let protocolVersion ← readByte
  let serverVersion ← readNullTerminatedString
  let connectionId ← readU32
  let scramble1 ← readString 8
  skip 1
  let lower ← readU16
  let rest ← get
  if rest.length = 0 then
    throw (makeProtocolError (ascii "old mysql protocol is not supported"))
  else readHandshakeRest protocolVersion serverVersion connectionId scramble1 lower

/-- `parse_server_handshake`. -/
def parseServerHandshake (payload : Bytes) : Except Exn ServerHandshake :=
  StateT.run' readServerHandshake payload

/-! ## Greetings -/

/-- A greeting of version 10 of the protocol. -/
structure Greeting where
  serverVersion : Bytes
  serverVersion_ne : ∀ b ∈ serverVersion, b ≠ 0
  connectionId : UInt32
  scramble : Scramble
  capabilities : UInt32
  secure : hasFlag capabilities clientSecureConnection = true
  characterSet : Byte
  statusFlags : UInt16
  authDataLength : Byte
  le_authDataLength : 8 ≤ authDataLength.toNat
  /-- The byte in the place of the length where there is no plugin name. -/
  unusedLength : Byte := 0
  reserved : Bytes := List.replicate 10 0
  length_reserved : reserved.length = 10
  /-- What follows the zero behind the scramble. -/
  padding : Bytes
  length_padding : padding.length = max 13 (authDataLength.toNat - 8) - 13
  pluginName : Bytes
  pluginName_ne : ∀ b ∈ pluginName, b ≠ 0

namespace Greeting

variable (g : Greeting)

/-- The greeting names a plugin. -/
def namesPlugin : Bool := hasFlag g.capabilities clientPluginAuth

/-- The byte for the length of the authentication data. -/
def lengthByte : Byte := if g.namesPlugin then g.authDataLength else g.unusedLength

/-- The scramble from its ninth byte on, with what follows it. -/
def part2 : Bytes := g.scramble.val.drop 8 ++ 0 :: g.padding

def pluginField : Bytes := if g.namesPlugin then g.pluginName ++ [0] else []

def packet : Bytes :=
  [10] ++ ((g.serverVersion ++ [0]) ++ (leBytes 4 g.connectionId.toNat ++
    (g.scramble.val.take 8 ++ ([0] ++ (leBytes 2 (g.capabilities.toNat % 2 ^ 16) ++
      ([g.characterSet] ++ (leBytes 2 g.statusFlags.toNat ++
        (leBytes 2 (g.capabilities.toNat / 2 ^ 16) ++ ([g.lengthByte] ++ (g.reserved ++
          (g.part2 ++ g.pluginField)))))))))))

/-- What the greeting says. -/
def handshake : ServerHandshake where
  protocolVersion := 10
  serverVersion := g.serverVersion
  connectionId := g.connectionId.toNat
  scramble := g.scramble
  capabilities := g.capabilities
  characterSet := g.characterSet
  statusFlags := g.statusFlags.toNat
  authPluginName := if g.namesPlugin then g.pluginName else mysqlNativePassword

end Greeting

/-! ## Reading the fields -/

theorem decodes_readNullTerminatedString {text : Bytes} (h : ∀ b ∈ text, b ≠ 0) :
    Decodes readNullTerminatedString (text ++ [0]) text := by
  intro rest
  have htake : (text ++ [0] ++ rest).takeWhile (fun b ↦ b != 0) = text := by
    rw [List.append_assoc, List.takeWhile_append_of_pos fun b hb ↦ bne_iff_ne.mpr (h b hb)]
    exact List.append_nil text
  have hlong : ¬text.length = (text ++ [0] ++ rest).length := by
    simp only [List.length_append, List.length_singleton]
    omega
  have hskip : Decodes (skip (text.length + 1)) (text ++ [0]) () :=
    (decodes_readString (by rw [List.length_append, List.length_singleton])).map _
  rw [readNullTerminatedString, run_get_bind, htake, if_neg hlong, run_bind_ok (hskip rest)]
  rfl

theorem decodes_skip {bs : Bytes} {size : ℕ} (h : bs.length = size) :
    Decodes (skip size) bs () := (decodes_readString h).map _

/-- Only the first bytes go into a scramble. -/
theorem copyScramble_append (scramble : Scramble) (rest : Bytes) :
    copyScramble (scramble.val ++ rest) = scramble := by
  apply Subtype.ext
  have htake :
      (scramble.val ++ (rest ++ List.replicate (20 - (scramble.val ++ rest).length) 0)).take 20
        = scramble.val := List.take_left' scramble.property
  exact (congrArg (List.take 20) (List.append_assoc _ _ _)).trans htake

theorem exists_dropTerminator_append (data rest : Bytes) (h : rest ≠ []) :
    ∃ rest', dropTerminator (data ++ rest) = data ++ rest' := by
  rw [dropTerminator]
  split_ifs
  · exact ⟨rest.dropLast, List.dropLast_append_of_ne_nil h⟩
  · exact ⟨rest, rfl⟩

theorem joinCapabilities_split (capabilities : UInt32) :
    joinCapabilities (capabilities.toNat % 2 ^ 16) (capabilities.toNat / 2 ^ 16)
      = capabilities := by
  have hlt : capabilities.toNat < 2 ^ 32 := capabilities.toNat_lt
  have hlow : capabilities.toNat % 2 ^ 16 < 2 ^ 16 := Nat.mod_lt _ (by decide)
  have hhigh : capabilities.toNat / 2 ^ 16 < 2 ^ 16 := by omega
  have hshift : (UInt32.ofNat (capabilities.toNat / 2 ^ 16) <<< 16).toNat
      = capabilities.toNat / 2 ^ 16 * 2 ^ 16 := by
    rw [UInt32.toNat_shiftLeft, UInt32.toNat_ofNat_of_lt' (by change _ < 2 ^ 32; omega)]
    change (capabilities.toNat / 2 ^ 16) <<< 16 % 2 ^ 32 = _
    rw [Nat.shiftLeft_eq]
    omega
  apply UInt32.toNat_inj.mp
  rw [joinCapabilities, UInt32.toNat_or, hshift,
    UInt32.toNat_ofNat_of_lt' (by change _ < 2 ^ 32; omega), Nat.or_comm, ← Nat.shiftLeft_eq,
    ← Nat.shiftLeft_add_eq_or_of_lt hlow, Nat.shiftLeft_eq]
  omega

namespace Greeting

variable (g : Greeting)

theorem decodes_lengthByte :
    Decodes (readAuthPluginLen g.capabilities) [g.lengthByte]
      (if g.namesPlugin then g.authDataLength else 0) := by
  rw [readAuthPluginLen, lengthByte, namesPlugin]
  rcases hasFlag g.capabilities clientPluginAuth with _ | _
  · have hskip : Decodes (skip 1) [g.unusedLength] () := decodes_skip rfl
    exact hskip.bind (Decodes.pure 0)
  · exact decodes_readByte g.authDataLength

theorem length_part2 : g.part2.length = max 13 (g.authDataLength.toNat - 8) := by
  rw [part2, List.length_append, List.length_cons, List.length_drop, g.scramble.property,
    g.length_padding]
  omega

/-- The second part of the scramble and the name of the plugin. Where the greeting names no plugin,
13 bytes are read whatever its length is, and the others are ignored. -/
theorem exists_readScramblePart : ∃ more left left',
    (readScramblePart g.capabilities (if g.namesPlugin then g.authDataLength else 0)).run
        (g.part2 ++ g.pluginField) = .ok (g.scramble.val.drop 8 ++ more, left) ∧
      (readAuthPluginName g.capabilities).run left = .ok (g.handshake.authPluginName, left') := by
  have hread (length : Byte) : readScramblePart g.capabilities length = (do
      let part2 ← readString (max 13 (length.toNat - 8))
      pure (dropTerminator part2)) := if_pos g.secure
  rw [hread]
  by_cases hplugin : g.namesPlugin = true
  · have hpart : Decodes (readString (max 13 (g.authDataLength.toNat - 8))) g.part2 g.part2 :=
      decodes_readString g.length_part2
    obtain ⟨more, hmore⟩ :=
      exists_dropTerminator_append (g.scramble.val.drop 8) (0 :: g.padding) (List.cons_ne_nil _ _)
    have hname : Decodes readNullTerminatedString (g.pluginName ++ [0]) g.pluginName :=
      decodes_readNullTerminatedString g.pluginName_ne
    have hfield : g.pluginField = g.pluginName ++ [0] := if_pos hplugin
    have hleft : (g.pluginName ++ [0]).length ≠ 0 := by
      rw [List.length_append]
      exact Nat.succ_ne_zero _
    refine ⟨more, g.pluginField, [], ?_, ?_⟩
    · rw [if_pos hplugin, run_bind_ok (hpart g.pluginField), ← hmore]
      rfl
    · rw [readAuthPluginName, run_get_bind, hfield, if_pos ⟨hplugin, hleft⟩, hname.run_self]
      exact congrArg (fun name ↦ Except.ok (name, [])) (if_pos hplugin).symm
  · have hfield : g.pluginField = [] := if_neg hplugin
    have hpart : Decodes (readString 13) (g.scramble.val.drop 8 ++ [0])
        (g.scramble.val.drop 8 ++ [0]) := by
      apply decodes_readString
      rw [List.length_append, List.length_drop, g.scramble.property]
      rfl
    have hbytes : g.part2 ++ g.pluginField = (g.scramble.val.drop 8 ++ [0]) ++ g.padding := by
      rw [hfield, List.append_nil, part2, List.append_assoc]
      rfl
    obtain ⟨more, hmore⟩ :=
      exists_dropTerminator_append (g.scramble.val.drop 8) [0] (List.cons_ne_nil _ _)
    refine ⟨more, g.padding, g.padding, ?_, ?_⟩
    · rw [if_neg hplugin, hbytes, ← hmore]
      exact run_bind_ok (hpart g.padding)
    · rw [readAuthPluginName, run_get_bind, if_neg fun h ↦ hplugin h.1]
      exact congrArg (fun name ↦ Except.ok (name, g.padding)) (if_neg hplugin).symm

/-- What is read behind the lower half of the capabilities. -/
theorem exists_readHandshakeRest : ∃ left,
    (readHandshakeRest 10 g.serverVersion g.connectionId.toNat (g.scramble.val.take 8)
        (g.capabilities.toNat % 2 ^ 16)).run
      ([g.characterSet] ++ (leBytes 2 g.statusFlags.toNat ++
        (leBytes 2 (g.capabilities.toNat / 2 ^ 16) ++ ([g.lengthByte] ++ (g.reserved ++
          (g.part2 ++ g.pluginField)))))) = .ok (g.handshake, left) := by
  have hcapabilities : g.capabilities.toNat < 2 ^ 32 := g.capabilities.toNat_lt
  have hstatus : Decodes readU16 (leBytes 2 g.statusFlags.toNat) g.statusFlags.toNat :=
    decodes_readLe g.statusFlags.toNat_lt
  have hupper : Decodes readU16 (leBytes 2 (g.capabilities.toNat / 2 ^ 16))
      (g.capabilities.toNat / 2 ^ 16) := decodes_readLe (by omega)
  obtain ⟨more, left, left', hpart, hname⟩ := g.exists_readScramblePart
  have hscramble : copyScramble (g.scramble.val.take 8 ++ (g.scramble.val.drop 8 ++ more))
      = g.scramble := by
    rw [← List.append_assoc, List.take_append_drop, copyScramble_append]
  refine ⟨left', ?_⟩
  rw [readHandshakeRest, run_bind_ok (decodes_readByte g.characterSet _), run_bind_ok (hstatus _),
    run_bind_ok (hupper _), joinCapabilities_split, run_bind_ok (g.decodes_lengthByte _),
    run_bind_ok (decodes_skip g.length_reserved _), run_bind_ok hpart, run_bind_ok hname, hscramble]
  rfl

/-- **The greeting.** Every field of a greeting is recovered, and the scramble byte by byte. -/
theorem parseServerHandshake_packet : parseServerHandshake g.packet = .ok g.handshake := by
  have hid : Decodes readU32 (leBytes 4 g.connectionId.toNat) g.connectionId.toNat :=
    decodes_readLe g.connectionId.toNat_lt
  have hscramble : Decodes (readString 8) (g.scramble.val.take 8) (g.scramble.val.take 8) := by
    apply decodes_readString
    rw [List.length_take, g.scramble.property]
    rfl
  have hskip : Decodes (skip 1) [0] () := decodes_skip rfl
  have hlower : Decodes readU16 (leBytes 2 (g.capabilities.toNat % 2 ^ 16))
      (g.capabilities.toNat % 2 ^ 16) := decodes_readLe (Nat.mod_lt _ (by decide))
  obtain ⟨left, hrest⟩ := g.exists_readHandshakeRest
  have hversion := decodes_readNullTerminatedString g.serverVersion_ne
  rw [parseServerHandshake, packet, StateT.run'_eq, readServerHandshake,
    run_bind_ok (decodes_readByte 10 _), run_bind_ok (hversion _), run_bind_ok (hid _),
    run_bind_ok (hscramble _), run_bind_ok (hskip _), run_bind_ok (hlower _), run_get_bind,
    if_neg (by simp), hrest]
  rfl

end Greeting

end Ormpp
