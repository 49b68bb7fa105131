import Seph.Bytes
import Seph.Packet.Tag

/-!
# Packets

A packet is a tag and a payload of at most 65535 bytes. Its encoding is the tag's number, the
length of the payload in two bytes, high byte first, and the payload.
-/

namespace Seph

/-- The tag and payload length that stand before a payload. -/
structure PacketHeader where
  tag : Tag
  size : UInt16
  deriving DecidableEq, Repr

/-- A tagged payload. -/
structure Packet where
  tag : Tag
  payload : Bytes
  deriving DecidableEq, Repr

namespace PacketHeader

/-- Three bytes: the tag's number and the length, high byte first. -/
def encode (h : PacketHeader) : Bytes := h.tag.code :: Word.be16 h.size

/-- A header at the start of the bytes, and the bytes after it. -/
def decode : Bytes → Except WireError (PacketHeader × Bytes)
  | t :: a :: b :: rest => do
    let tag ← Tag.ofCode t
    return (⟨tag, Word.ofBE16 a b⟩, rest)
  | _ => .error .badLength

end PacketHeader

namespace Packet

/-- The longest payload that the length field can say. -/
def maxPayload : Nat := 65535

/-- A packet whose payload fits the length field. -/
def make (tag : Tag) (payload : Bytes) : Except WireError Packet :=
  if payload.length > maxPayload then .error (.tooLarge payload.length)
  else .ok ⟨tag, payload⟩

def empty (tag : Tag) : Packet := ⟨tag, []⟩

/-- The header of a packet; the length is taken modulo `2 ^ 16`. -/
def header (p : Packet) : PacketHeader := ⟨p.tag, UInt16.ofNat p.payload.length⟩

/-- The encoding of a packet; a payload beyond the length field has none. -/
def encode (p : Packet) : Except WireError Bytes :=
  if p.payload.length > maxPayload then .error (.tooLarge p.payload.length)
  else .ok (p.header.encode ++ p.payload)

/-- A packet at the start of the bytes, and the bytes after it. -/
def decode (bs : Bytes) : Except WireError (Packet × Bytes) := do
  let (h, rest) ← PacketHeader.decode bs
  let n := h.size.toNat
  if rest.length < n then throw .badLength
  return (⟨h.tag, rest.take n⟩, rest.drop n)

/-! ## Events with a payload of their own -/

/-- The button event for a mask of pressed buttons: the mask shifted left by one bit. -/
def buttonPush (mask : UInt8) : Packet := ⟨.buttonPush, [mask <<< 1]⟩

/-- The touch (`1`) or release (`2`) of a finger at a point, coordinates high byte first. -/
def finger (x y : UInt16) (pressed : Bool) : Packet :=
  ⟨.finger, (if pressed then 1 else 2) :: (Word.be16 x ++ Word.be16 y)⟩

/-- The acknowledgement of a drawing. -/
def displayProcessed : Packet := empty .displayProcessed

/-- The passing of a ticker period. -/
def tick : Packet := empty .ticker

end Packet
end Seph
