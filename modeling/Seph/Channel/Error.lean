import Seph.Automation.Document
import Seph.Model
import Seph.Text.Decimal
import Seph.Text.Hex

/-!
# Rejected input

What reaches the bridge from outside is checked first. Input that is refused changes nothing, and
whoever sent it may go on.
-/

namespace Seph

/-- Why input is refused. -/
inductive InputError
  /-- A field of a finger command is no numeral. -/
  | fingerNumber (line : String) (fault : Decimal.Fault)
  /-- A finger command does not consist of triples. -/
  | fingerCount (line : String)
  | fingerOutside (x y : UInt16) (panel : Panel)
  | unknownButton (mask : UInt8)
  /-- A key that no button stands for. -/
  | unknownKey (key : UInt8)
  | apduTooLong (size : Nat)
  | rules (e : RulesError)
  deriving DecidableEq, Repr

/-- The longest APDU that a client may send. -/
def maxApdu : Nat := 65535

def InputError.message : InputError → String
  | fingerNumber line fault => "finger command '" ++ line ++ "': " ++ fault.message
  | fingerCount line => "finger command '" ++ line ++ "' is not a list of x,y,p triples"
  | fingerOutside x y panel =>
    "finger (" ++ toString x.toNat ++ ", " ++ toString y.toNat ++ ") outside " ++
      toString panel.width ++ "x" ++ toString panel.height ++ " screen"
  | unknownButton mask => "unknown button " ++ toString mask.toNat
  | unknownKey key => "unknown vnc key 0x" ++ Hex.byte key
  | apduTooLong size => "apdu length " ++ toString size ++ " exceeds " ++ toString maxApdu
  | rules e => e.message

end Seph
