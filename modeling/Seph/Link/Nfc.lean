import Seph.Apdu.Assembly

/-!
# The NFC link

APDUs go to the firmware as chunks of at most 140 bytes, one in a packet, and responses come back as
such chunks.
-/

namespace Seph

/-- A contactless link. -/
structure NfcLink where
  rx : Assembly
  /-- Packets for the firmware. -/
  outbox : List Packet
  deriving DecidableEq, Repr

namespace NfcLink

/-- A link without traffic. -/
def new : NfcLink := ⟨Assembly.empty Apdu.nfcChannel, []⟩

def send (l : NfcLink) (apdu : Bytes) : Except LinkError Unit × NfcLink :=
  match Apdu.chunks Apdu.nfcChannel Apdu.nfcFrame false apdu with
  | .error e => (.error (.wire e), l)
  | .ok cs => (.ok (), { l with outbox := l.outbox ++ cs.map fun c => ⟨.capdu, c⟩ })

/-- Takes a chunk of a response; gives the response when it is complete. -/
def receive (l : NfcLink) (frame : Bytes) : Except LinkError (Option Bytes) × NfcLink :=
  let { rx, outbox } := l
  let (r, rx) := rx.push frame
  (r, { rx, outbox })

end NfcLink
end Seph
