import Ormpp.Data.Bytes

/-!
# Capability flags

`connect` offers a fixed set of capabilities, extended by one flag when a database is named, and
keeps those that the server has too. The grammar of every later response depends on what was kept.
-/

namespace Ormpp

def clientLongPassword : UInt32 := 0x00000001
def clientFoundRows : UInt32 := 0x00000002
def clientLongFlag : UInt32 := 0x00000004
def clientConnectWithDb : UInt32 := 0x00000008
def clientProtocol41 : UInt32 := 0x00000200
def clientTransactions : UInt32 := 0x00002000
def clientSecureConnection : UInt32 := 0x00008000
def clientMultiStatements : UInt32 := 0x00010000
def clientMultiResults : UInt32 := 0x00020000
def clientPluginAuth : UInt32 := 0x00080000
def clientConnectAttrs : UInt32 := 0x00100000
def clientPluginAuthLenencData : UInt32 := 0x00200000
def clientDeprecateEof : UInt32 := 0x01000000

/-- The capabilities that `connect` offers. -/
def clientCapabilities (database : Bytes) : UInt32 :=
  let clientCaps :=
    clientLongPassword ||| clientFoundRows ||| clientLongFlag ||| clientProtocol41 |||
    clientTransactions ||| clientSecureConnection ||| clientMultiStatements |||
    clientMultiResults |||
    clientPluginAuth ||| clientPluginAuthLenencData ||| clientConnectAttrs ||| clientDeprecateEof
  if database ≠ [] then clientCaps ||| clientConnectWithDb else clientCaps

/-- The value `connect` gives to `negotiated_capabilities_`. -/
def negotiatedCapabilities (database : Bytes) (serverCapabilities : UInt32) : UInt32 :=
  clientCapabilities database &&& serverCapabilities

/-- A response to a connection with these capabilities has no EOF packets. -/
def deprecatesEof (capabilities : UInt32) : Bool := capabilities &&& clientDeprecateEof != 0

/-- The client always offers to do without EOF packets, so the server decides. -/
theorem deprecatesEof_negotiatedCapabilities (database : Bytes) (serverCapabilities : UInt32) :
    deprecatesEof (negotiatedCapabilities database serverCapabilities)
      = deprecatesEof serverCapabilities := by
  have hoffer : clientCapabilities database &&& clientDeprecateEof = clientDeprecateEof := by
    rw [clientCapabilities]
    split <;> decide
  rw [deprecatesEof, deprecatesEof, negotiatedCapabilities, UInt32.and_assoc,
    UInt32.and_comm serverCapabilities, ← UInt32.and_assoc, hoffer, UInt32.and_comm]

end Ormpp
