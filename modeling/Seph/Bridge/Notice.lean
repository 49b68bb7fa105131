import Seph.Exchange.Basic

/-!
# Notices

What a bridge lets those around it see: packets for the firmware, texts and pixels of the screen,
responses, the ends of exchanges, and remarks for the log. Those who follow the texts or the screen
get the latest of them when there are more than their feed can hold.
-/

namespace Seph

/-- A line of the log. -/
inductive Remark
  /-- A line on the firmware's console. -/
  | printed (line : String)
  /-- A response that no exchange waits for. -/
  | unsolicited (response : Bytes)
  /-- An action of an automation rule that cannot be performed. -/
  | actionFailed (e : InputError)
  /-- Input of the viewer that is refused. -/
  | viewerInput (e : InputError)
  /-- The viewer was too slow for some updates of the screen. -/
  | viewerLagged (lost : Nat)
  | viewerClosed (e : BridgeError)
  /-- A finger command or a touch in one that is refused. -/
  | finger (e : InputError)
  deriving DecidableEq, Repr

def Remark.message : Remark → String
  | printed line => "printf: " ++ line
  | unsolicited response => "unsolicited response APDU: " ++ Hex.list response
  | actionFailed e => "automation action failed: " ++ (BridgeError.input e).message
  | viewerInput e => "vnc input dropped: " ++ e.message
  | viewerLagged lost => "vnc lagged by " ++ toString lost ++ " updates"
  | viewerClosed e => "vnc link closed: " ++ e.message
  | finger e => (BridgeError.input e).message

/-- Something that can be seen of a bridge. -/
inductive Notice
  /-- A packet goes to the firmware. -/
  | sent (p : Packet)
  | text (e : TextEvent)
  /-- Pixels come to the screen. -/
  | screen (ps : Array Pixel)
  /-- A listener hears a response. -/
  | heard (listener : Nat) (response : Bytes)
  | settled (s : Settled)
  /-- A call of the host is over, perhaps with a number of ticks. -/
  | finished (name : String) (result : Except BridgeError (Option Nat))
  /-- The session with the firmware is over. -/
  | ended (result : Except BridgeError Unit)
  /-- Bytes go to the viewer. -/
  | shown (bs : Bytes)
  /-- The link to the viewer is over. -/
  | viewerClosed (e : BridgeError)
  /-- Bytes go to a client of a side channel. -/
  | answered (client : String) (bs : Bytes)
  /-- The connection to a client is over. -/
  | hungUp (client : String)
  | remark (r : Remark)

/-! ## Feeds -/

namespace Feed

/-- The texts that a follower may be behind. -/
def textCapacity : Nat := 64

/-- The updates of the screen that a follower may be behind. -/
def screenCapacity : Nat := 16

/-- The number of items that a follower loses who takes them all at once, and those that are left. -/
def latest (capacity : Nat) (items : List α) : Nat × List α :=
  (items.length - capacity, items.drop (items.length - capacity))

end Feed
end Seph
