import Seph.Automation.Action
import Seph.Display.Framebuffer
import Seph.Display.ScreenText
import Seph.Link.Error
import Seph.Packet.Basic
import Seph.Picture.Fault

/-!
# What the engine gives back

The outputs of a packet from the firmware, in the order in which they take effect, and the errors
that end the session.
-/

namespace Seph

/-- What the engine asks for. -/
inductive Output
  /-- An event for the firmware, behind those that wait. -/
  | event (p : Packet)
  /-- The answer to the status just received, before all that waits. -/
  | reply (p : Packet)
  /-- The firmware finished a command: one event may follow. -/
  | statusReceived
  /-- A response of the firmware. -/
  | apdu (bs : Bytes)
  /-- A text on the screen. -/
  | text (e : TextEvent)
  /-- An action of an automation rule. -/
  | action (a : Action)
  /-- The pixels that a refresh shows. -/
  | screen (ps : Array Pixel)
  /-- The session is over. -/
  | exit
  deriving DecidableEq, Repr

/-- Why the engine refuses a packet or an APDU. -/
inductive EngineError
  | wire (e : WireError)
  /-- The tag has no place in this direction or with this graphics library. -/
  | unexpectedTag (t : Tag)
  | unexpectedStatus (code : UInt16)
  | link (e : LinkError)
  | draw (e : DrawError)
  deriving DecidableEq, Repr

def EngineError.message : EngineError → String
  | wire e => "protocol decode error: " ++ e.message
  | unexpectedTag t => "unexpected tag " ++ t.name
  | unexpectedStatus c => "unexpected general status 0x" ++ Hex.pad 4 c.toNat
  | link e => e.message
  | draw e => e.message

end Seph
