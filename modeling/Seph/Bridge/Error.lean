import Seph.Channel.Error
import Seph.Engine.Output
import Seph.Pacer.Basic

/-!
# Bridge errors

Why a session ends, or why something asked of it is refused. Errors of those who use the bridge leave
it running; all others end the session (`isFatal`).
-/

namespace Seph

/-- What can go wrong in a session. -/
inductive BridgeError
  /-- The firmware closed its stream. -/
  | ended
  | protocol (e : PacingError)
  /-- Too many ticks passed before the response. -/
  | timeout
  /-- The other end of a side link is gone. -/
  | peerGone
  | wire (e : WireError)
  | engine (e : EngineError)
  /-- The automation document of the options is refused. -/
  | rules (e : RulesError)
  | input (e : InputError)
  /-- The session is over. -/
  | closed
  deriving DecidableEq, Repr

namespace BridgeError

def message : BridgeError → String
  | ended => "firmware connection closed"
  | protocol e => "protocol violation: " ++ e.message
  | timeout => "timeout waiting for APDU response"
  | peerGone => "peer disconnected"
  | wire e => "wire error: " ++ e.message
  | engine e => "engine error: " ++ e.message
  | rules e => "engine error: " ++ e.message
  | input e => "invalid input: " ++ e.message
  | closed => "bridge closed"

/-- Does the error end the session? -/
def isFatal : BridgeError → Bool
  | timeout | peerGone | input _ => false
  | _ => true

end BridgeError
end Seph
