import Seph.Text.Hex

/-!
# Wire errors

Why a byte string is not the encoding of a value, or a value has no encoding.
-/

namespace Seph

/-- What is wrong with an encoding. -/
inductive WireError
  /-- The bytes end before the value does, or the room is too small for the value. -/
  | badLength
  /-- A field holds a number that stands for nothing. -/
  | badEncoding
  /-- No packet tag has this number. -/
  | unknownTag (code : UInt8)
  /-- The value has `size` bytes of data, more than its length field can say. -/
  | tooLarge (size : Nat)
  deriving DecidableEq, Repr

namespace WireError

def message : WireError → String
  | badLength => "Invalid length"
  | badEncoding => "Invalid encoding"
  | unknownTag code => "Unknown SEPH tag 0x" ++ Hex.byte code
  | tooLarge size => "Payload too large (" ++ toString size ++ " bytes)"

end WireError
end Seph
