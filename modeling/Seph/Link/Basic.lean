import Seph.Model
import Seph.Link.Usb
import Seph.Link.Nfc

/-!
# Links

The link between the host and the firmware, over USB or NFC. A link takes APDUs and the firmware's
packets about it, and fills an outbox with packets for the firmware. An operation that fails may
still have changed the link, so each gives the link back beside its result.
-/

namespace Seph

/-- A link to the firmware. -/
inductive Link
  | usb (l : UsbLink)
  | nfc (l : NfcLink)
  deriving DecidableEq, Repr

namespace Link

def new : LinkKind → Link
  | .hid => usb (UsbLink.new (.hid (Assembly.empty Apdu.hidChannel)))
  | .u2f => usb (UsbLink.new .u2f)
  | .nfc => nfc NfcLink.new

/-- Handles a USB configuration message; it means nothing to NFC. -/
def config (l : Link) (bs : Bytes) : Except LinkError Unit × Link :=
  match l with
  | usb l => let (r, l) := l.config bs; (r, usb l)
  | nfc l => (.ok (), nfc l)

/-- Handles the preparation of a USB endpoint; it means nothing to NFC. -/
def prepare (l : Link) (bs : Bytes) : Except LinkError (Option Bytes) × Link :=
  match l with
  | usb l => let (r, l) := l.prepare bs; (r, usb l)
  | nfc l => (.ok none, nfc l)

def send (l : Link) (apdu : Bytes) : Except LinkError Unit × Link :=
  match l with
  | usb l => let (r, l) := l.send apdu; (r, usb l)
  | nfc l => let (r, l) := l.send apdu; (r, nfc l)

/-- Takes response data that the firmware sends outside USB: a whole response beside a USB link, a
chunk of one over NFC. -/
def respond (l : Link) (bs : Bytes) : Except LinkError (Option Bytes) × Link :=
  match l with
  | usb l => (.ok (some bs), usb l)
  | nfc l => let (r, l) := l.receive bs; (r, nfc l)

/-- The packets for the firmware. -/
def outbox : Link → List Packet
  | usb l => l.outbox
  | nfc l => l.outbox

/-- The link with other packets for the firmware. -/
def setOutbox (ps : List Packet) : Link → Link
  | usb l => usb { l with outbox := ps }
  | nfc l => nfc { l with outbox := ps }

def poll (l : Link) : Option Packet × Link :=
  match l.outbox with
  | p :: ps => (some p, l.setOutbox ps)
  | [] => (none, l)

def drain (l : Link) : List Packet × Link := (l.outbox, l.setOutbox [])

end Link
end Seph
