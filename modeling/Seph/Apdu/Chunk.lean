import Seph.Packet.Basic

/-!
# APDU chunks

An APDU travels over a small frame size in numbered chunks. A chunk opens with the channel, the
command and the sequence number; chunk 0 also carries the length of the whole APDU.
-/

namespace Seph

/-- The header of a chunk. -/
structure ChunkHeader where
  channel : UInt16
  command : UInt8
  seq : UInt16
  /-- The length of the whole APDU, carried by chunk 0. -/
  length : Option UInt16
  deriving DecidableEq, Repr

namespace ChunkHeader

/-- The command of APDU data. -/
def apduCommand : UInt8 := 0x05

/-- The header of APDU chunk `seq`; the length is kept for chunk 0 only. -/
def make (channel seq length : UInt16) : ChunkHeader :=
  { channel, command := apduCommand, seq, length := if seq = 0 then some length else none }

/-- Channel, command, sequence number and, where there is one, length; high bytes first. -/
def encode (h : ChunkHeader) : Bytes :=
  Word.be16 h.channel ++ h.command :: Word.be16 h.seq ++
    match h.length with
    | some n => Word.be16 n
    | none => []

/-- A header at the start of a frame, and the frame's body. A length is read after sequence number
0 and after no other. -/
def decode : Bytes → Except WireError (ChunkHeader × Bytes)
  | c₁ :: c₂ :: command :: s₁ :: s₂ :: rest =>
    let channel := Word.ofBE16 c₁ c₂
    let seq := Word.ofBE16 s₁ s₂
    if seq = 0 then
      match rest with
      | l₁ :: l₂ :: body => .ok (⟨channel, command, seq, some (Word.ofBE16 l₁ l₂)⟩, body)
      | _ => .error .badLength
    else .ok (⟨channel, command, seq, none⟩, rest)
  | _ => .error .badLength

end ChunkHeader

namespace Apdu

/-- The longest APDU that a chunk header can announce. -/
def maxLength : Nat := 65535

/-- The channel of APDU chunks over USB HID. -/
def hidChannel : UInt16 := 0x0101

/-- The channel of APDU chunks over NFC. -/
def nfcChannel : UInt16 := 0x0000

/-- The frame size over USB HID. -/
def hidFrame : Nat := 64

/-- The frame size over NFC. -/
def nfcFrame : Nat := 140

/-- The bodies of an APDU's chunks: what fits beside the seven bytes of the first header, then what
fits beside the five bytes of each later one. -/
def bodies (frame : Nat) (apdu : Bytes) : List Bytes :=
  apdu.take (frame - 7) :: Bytes.pieces (frame - 5) (apdu.drop (frame - 7))

/-- An APDU cut into chunks of at most `frame` bytes, each filled up with zero bytes if `fill`. -/
def chunks (channel : UInt16) (frame : Nat) (fill : Bool) (apdu : Bytes) :
    Except WireError (List Bytes) :=
  if apdu.length > maxLength then .error (.tooLarge apdu.length)
  else .ok <| (bodies frame apdu).zipIdx.map fun (body, i) =>
    let chunk :=
      (ChunkHeader.make channel (UInt16.ofNat i) (UInt16.ofNat apdu.length)).encode ++ body
    if fill then Bytes.resize frame chunk else chunk

end Apdu
end Seph
