import Seph.Packet.Basic

/-!
# USB payloads

What the packets about the USB device carry: configuration messages and transfers from the
firmware, and the transfer events sent to it.
-/

namespace Seph.Usb

/-- The largest transfer of an endpoint. -/
def maxTransfer : Nat := 64

/-- The standard request that assigns an address. -/
def setAddress : UInt8 := 0x05

/-- The standard request that selects a configuration. -/
def setConfiguration : UInt8 := 0x09

/-- The eight bytes of a standard request with value 1. -/
def setupRequest (request : UInt8) : Bytes := [0, request, 1, 0, 0, 0, 0, 0]

/-! ## Configuration messages -/

/-- An endpoint that the device announces. -/
structure Endpoint where
  ep : UInt8
  kind : UInt8
  maxLen : UInt8
  deriving DecidableEq, Repr

/-- A configuration message. -/
inductive Config
  | connect
  | disconnect
  | address
  | endpoints (eps : List Endpoint)
  deriving DecidableEq, Repr

namespace Config

/-- One byte for the kind; the endpoints follow their number, three bytes each. The number is taken
modulo 256. -/
def encode : Config → Bytes
  | connect => [1]
  | disconnect => [2]
  | address => [3]
  | endpoints eps =>
    4 :: UInt8.ofNat eps.length :: eps.flatMap fun e => [e.ep, e.kind, e.maxLen]

/-- `n` endpoints at the start of the bytes, and the bytes after them. -/
def takeEndpoints : Nat → Bytes → Option (List Endpoint × Bytes)
  | 0, rest => some ([], rest)
  | n + 1, ep :: kind :: maxLen :: rest =>
    (takeEndpoints n rest).map fun (eps, rest) => (⟨ep, kind, maxLen⟩ :: eps, rest)
  | _ + 1, _ => none

/-- A configuration message at the start of the bytes, and the bytes after it. -/
def decode : Bytes → Except WireError (Config × Bytes)
  | [] => .error .badLength
  | kind :: rest =>
    if kind = 1 then .ok (connect, rest)
    else if kind = 2 then .ok (disconnect, rest)
    else if kind = 3 then .ok (address, rest)
    else if kind = 4 then
      match rest with
      | [] => .error .badLength
      | count :: rest =>
        match takeEndpoints count.toNat rest with
        | some (eps, rest) => .ok (endpoints eps, rest)
        | none => .error .badLength
    else .error .badEncoding

end Config

/-! ## Transfers -/

/-- The kind of a transfer reported to the firmware. -/
inductive TransferKind
  | setup
  | input
  | output
  deriving DecidableEq, Repr

namespace TransferKind

def code : TransferKind → UInt8
  | setup => 0x01
  | input => 0x02
  | output => 0x04

def ofCode? (b : UInt8) : Option TransferKind :=
  [setup, input, output].find? fun k => k.code == b

end TransferKind

/-- A transfer reported to the firmware. -/
structure Transfer where
  ep : UInt8
  kind : TransferKind
  data : Bytes
  deriving DecidableEq, Repr

namespace Transfer

/-- Endpoint, kind, length in one byte (taken modulo 256), data. -/
def payload (t : Transfer) : Bytes :=
  t.ep :: t.kind.code :: UInt8.ofNat t.data.length :: t.data

/-- The encoding of a transfer; data beyond the length byte has none. -/
def encode (t : Transfer) : Except WireError Bytes :=
  if t.data.length > 255 then .error (.tooLarge t.data.length) else .ok t.payload

/-- A transfer at the start of the bytes, and the bytes after it. -/
def decode : Bytes → Except WireError (Transfer × Bytes)
  | ep :: kind :: size :: rest =>
    match TransferKind.ofCode? kind with
    | none => .error .badEncoding
    | some kind =>
      if rest.length < size.toNat then .error .badLength
      else .ok (⟨ep, kind, rest.take size.toNat⟩, rest.drop size.toNat)
  | _ => .error .badLength

def packet (t : Transfer) : Packet := ⟨.usbTransfer, t.payload⟩

end Transfer

/-! ## Preparations -/

/-- What the firmware prepares an endpoint for. -/
inductive Direction
  | setup
  | input
  | output
  | stall
  | unstall
  deriving DecidableEq, Repr

namespace Direction

def code : Direction → UInt8
  | setup => 0x10
  | input => 0x20
  | output => 0x30
  | stall => 0x40
  | unstall => 0x80

def ofCode? (b : UInt8) : Option Direction :=
  [setup, input, output, stall, unstall].find? fun d => d.code == b

end Direction

/-- The preparation of an endpoint by the firmware. -/
structure Preparation where
  ep : UInt8
  dir : Direction
  data : Bytes
  deriving DecidableEq, Repr

namespace Preparation

/-- Endpoint, direction, length in one byte, data of at most one transfer. -/
def encode (p : Preparation) : Except WireError Bytes :=
  if p.data.length > maxTransfer then .error (.tooLarge p.data.length)
  else .ok (p.ep :: p.dir.code :: UInt8.ofNat p.data.length :: p.data)

/-- The preparation that the bytes are, all of them: the length must be that of the data, and is
checked against the largest transfer first. -/
def decode : Bytes → Except WireError Preparation
  | ep :: dir :: size :: data =>
    match Direction.ofCode? dir with
    | none => .error .badEncoding
    | some dir =>
      if size.toNat > maxTransfer then .error (.tooLarge size.toNat)
      else if data.length ≠ size.toNat then .error .badLength
      else .ok ⟨ep, dir, data⟩
  | _ => .error .badLength

end Preparation
end Seph.Usb
