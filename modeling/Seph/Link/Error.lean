import Seph.Packet.Error

/-!
# Link errors

Why a packet from the firmware, or an APDU for it, is refused by the link.
-/

namespace Seph

/-- Why a link refuses something. -/
inductive LinkError
  | wire (e : WireError)
  /-- A chunk came out of order. -/
  | sequence (expected actual : UInt16)
  /-- A chunk of another channel or command. -/
  | channel (channel : UInt16) (command : UInt8)
  /-- More data than an endpoint can hold. -/
  | overflow (size : Nat)
  deriving DecidableEq, Repr

def LinkError.message : LinkError → String
  | .wire e => "protocol decode error: " ++ e.message
  | .sequence expected actual =>
    "sequence mismatch (expected: " ++ toString expected.toNat ++ ", actual: " ++
      toString actual.toNat ++ ")"
  | .channel c command =>
    "unexpected chunk channel 0x" ++ Hex.pad 4 c.toNat ++ " / command 0x" ++ Hex.byte command
  | .overflow size => "endpoint buffer overflow (" ++ toString size ++ " bytes)"

end Seph
