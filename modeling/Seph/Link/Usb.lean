import Seph.Usb.Payload
import Seph.Apdu.Assembly

/-!
# The USB link

The host's side of the USB device. The firmware connects, is given an address and a configuration,
and announces its endpoints; from then on APDUs are sent as OUT transfers. Transfers sent before
that wait in `pending` and follow in order once the endpoints are there.
-/

namespace Seph

/-- How far the enumeration of the device has come. -/
inductive UsbState
  /-- Not yet connected. -/
  | default
  | disconnected
  /-- An address is assigned. -/
  | addressed
  /-- A configuration is selected. -/
  | configured
  deriving DecidableEq, Repr

/-- How APDUs are cut into the frames of an endpoint. -/
inductive UsbFraming
  /-- Numbered chunks in both directions. -/
  | hid (rx : Assembly)
  /-- The bare bytes; every frame from the firmware is a response. -/
  | u2f
  deriving DecidableEq, Repr

namespace UsbFraming

/-- The endpoint from the device. -/
def epIn : UsbFraming → UInt8
  | hid _ => 0x82
  | u2f => 0x81

/-- The endpoint to the device. -/
def epOut : UsbFraming → UInt8
  | hid _ => 0x02
  | u2f => 0x01

/-- The frames of an APDU, each filled up to a whole transfer. -/
def frames (f : UsbFraming) (apdu : Bytes) : Except WireError (List Bytes) :=
  match f with
  | hid _ => Apdu.chunks Apdu.hidChannel Apdu.hidFrame true apdu
  | u2f =>
    let pieces := if apdu.isEmpty then [[]] else Bytes.pieces Usb.maxTransfer apdu
    .ok (pieces.map (Bytes.resize Usb.maxTransfer))

/-- Takes a frame from the device; gives the response when it is complete. -/
def receive (f : UsbFraming) (frame : Bytes) : Except LinkError (Option Bytes) × UsbFraming :=
  match f with
  | hid rx =>
    let (r, rx) := rx.push frame
    (r, hid rx)
  | u2f => (.ok (some frame), u2f)

end UsbFraming

/-- A USB device as the host sees it. -/
structure UsbLink where
  state : UsbState
  /-- The endpoints were announced after the configuration. -/
  ready : Bool
  framing : UsbFraming
  /-- Transfers that wait for the endpoints. -/
  pending : List Packet
  /-- Packets for the firmware. -/
  outbox : List Packet
  deriving DecidableEq, Repr

namespace UsbLink

/-- A device that is not connected. -/
def new (framing : UsbFraming) : UsbLink := ⟨.default, false, framing, [], []⟩

/-- Puts packets at the end of the outbox. -/
def post (l : UsbLink) (ps : List Packet) : UsbLink := { l with outbox := l.outbox ++ ps }

/-- The packet of a standard request. -/
def setup (request : UInt8) : Packet :=
  Usb.Transfer.packet ⟨0, .setup, Usb.setupRequest request⟩

/-- Handles a configuration message that was understood. A connection is answered with an address,
an address with a configuration; endpoints count only when a configuration is selected and the
endpoint to the device is among them. -/
def configure (l : UsbLink) : Usb.Config → UsbLink
  | .connect => { l.post [setup Usb.setAddress] with state := .addressed }
  | .address => { l.post [setup Usb.setConfiguration] with state := .configured }
  | .endpoints eps =>
    if l.state = .configured ∧ eps.any (fun e => e.ep == l.framing.epOut) then
      { l.post l.pending with ready := true, pending := [] }
    else l
  | .disconnect => { l with state := .disconnected, ready := false }

/-- Handles the payload of a configuration message. -/
def config (l : UsbLink) (bs : Bytes) : Except LinkError Unit × UsbLink :=
  match Usb.Config.decode bs with
  | .ok (c, _) => (.ok (), l.configure c)
  | .error e => (.error (.wire e), l)

/-- The acknowledgement of data from an endpoint. -/
def acknowledge (ep : UInt8) : Packet := Usb.Transfer.packet ⟨ep, .input, []⟩

/-- Handles a preparation. Data from the device is acknowledged, whatever its endpoint, and is part
of a response if it is on the device's endpoint; gives the response when it is complete. -/
def prepare (l : UsbLink) (bs : Bytes) : Except LinkError (Option Bytes) × UsbLink :=
  match Usb.Preparation.decode bs with
  | .error (.tooLarge n) => (.error (.overflow n), l)
  | .error e => (.error (.wire e), l)
  | .ok p =>
    if p.dir ≠ .input then (.ok none, l)
    else
      let l := l.post [acknowledge p.ep]
      if p.ep ≠ l.framing.epIn then (.ok none, l)
      else
        let { state, ready, framing, pending, outbox } := l
        let (r, framing) := framing.receive p.data
        (r, { state, ready, framing, pending, outbox })

def transfers (l : UsbLink) (apdu : Bytes) : Except WireError (List Packet) :=
  (l.framing.frames apdu).map fun fs =>
    fs.map fun f => Usb.Transfer.packet ⟨l.framing.epOut, .output, f⟩

/-- Sends an APDU: at once if the endpoints are there and nothing waits, else behind what waits. -/
def send (l : UsbLink) (apdu : Bytes) : Except LinkError Unit × UsbLink :=
  match l.transfers apdu with
  | .error e => (.error (.wire e), l)
  | .ok ps =>
    if l.state = .configured ∧ l.ready ∧ l.pending = [] then (.ok (), l.post ps)
    else (.ok (), { l with pending := l.pending ++ ps })

end UsbLink
end Seph
