import Seph.Channel.Viewer
import Seph.Packet.Stream
import Seph.Session.Call
import Seph.Session.Client

/-!
# Sessions

A session is a bridge among those who use it: the firmware at the other end of a byte stream, calls
of the host, the viewer and the clients of the side channels. When something has come, everything
goes on until nothing can (`Session.settle`): all that came from the firmware is handled before
anything is sent to it.
-/

namespace Seph

/-- A bridge in use. -/
structure Session where
  bridge : Bridge
  /-- The ticker period in milliseconds. -/
  period : Nat
  /-- The time in milliseconds. -/
  clock : Nat := 0
  /-- What came from the firmware and is not yet a packet. -/
  unread : Bytes := []
  /-- The firmware has closed its stream. -/
  ended : Bool := false
  /-- The session with the firmware goes on. -/
  running : Bool := true
  calls : List (String × Call) := []
  /-- What came from the viewer and is not yet a record, while the link to it is up. -/
  viewer : Option Bytes := none
  clients : List Client := []

namespace Session

/-- The session with another bridge. -/
def withBridge (s : Session) (bridge : Bridge) : Session := { s with bridge }

/-! ## The firmware -/

/-- The session with the firmware ends: first nothing is released any more, and then no exchange waits
any more. -/
def finish (s : Session) (result : Except BridgeError Unit) : Session :=
  { s with bridge := s.bridge.close.clear.notify (.ended result), running := false, unread := [] }

/-- What could be seen of a bridge since it had `n` notices. -/
def seenSince (n : Nat) (b : Bridge) : List Notice :=
  (b.notices.take (b.notices.length - n)).reverse

/-- Sends updates of the screen to the viewer. -/
def display (s : Session) (seen : List Notice) : Session :=
  if s.viewer.isNone then s
  else
    let updates := seen.filterMap fun | .screen ps => some ps | _ => none
    let (lost, updates) := Feed.latest Feed.screenCapacity updates
    let b := if lost = 0 then s.bridge else s.bridge.remark (.viewerLagged lost)
    s.withBridge (updates.foldl
      (fun b ps => b.notify (.shown (ps.toList.flatMap Viewer.encodePixel))) b)

/-- How a session ends, if the packets that were handled or the stream behind them end it. -/
def verdict? (ended : Bool) (result : Option (Except BridgeError Unit)) (stop : Option WireError) :
    Option (Except BridgeError Unit) :=
  match result, stop with
  | some r, _ => some r
  | none, some e => some (.error (.wire e))
  | none, none => if ended then some (.error .ended) else none

/-- Handles all packets that have come. -/
def receive (s : Session) : Session :=
  if !s.running then s
  else
    let (packets, stop, unread) := Packet.stream.takeAll s.unread
    let { bridge, period, clock, unread := _, ended, running, calls, viewer, clients } := s
    let before := bridge.notices.length
    let (result, bridge) := bridge.dispatchAll packets
    let seen := seenSince before bridge
    let s : Session :=
      { bridge, period, clock, unread, ended, running, calls, viewer, clients }
    let s := s.display seen
    match verdict? ended result stop with
    | none => s
    | some r => s.finish r

/-- Sends the packet that may be sent now. -/
def send (s : Session) : Session :=
  if !s.running then s
  else match s.bridge.send with
    | (none, b) => s.withBridge b
    | (some e, b) => (s.withBridge b).finish (.error e)

/-! ## Those who wait -/

/-- Reads what every client has sent, after what could be seen of the bridge. -/
def readClients (s : Session) (seen : List Notice) : Session :=
  let (clients, bridge) := s.clients.foldl (fun (cs, b) c =>
    let (c, b) := c.goOn seen b
    (c :: cs, b)) ([], s.bridge)
  { s with clients := clients.reverse, bridge }

/-- All exchanges go as far as they can; clients read on, and exchanges that this starts go on too, up
to `n` times. -/
def serve (n : Nat) (s : Session) : Session :=
  let before := s.bridge.notices.length
  let s := s.withBridge s.bridge.serveAll
  let s := s.readClients (seenSince before s.bridge)
  match n with
  | 0 => s
  | n + 1 =>
    if s.bridge.desk.turn.isNone ∧ s.bridge.desk.waiting ≠ [] then serve n s else s

/-- All exchanges go as far as they can. Each round takes a request that a client has sent. -/
def serveAll (s : Session) : Session :=
  s.serve (s.clients.foldl (fun n c => n + c.unread.length) 1)

def endCalls (s : Session) : Session :=
  let (calls, bridge) := s.calls.foldl (fun (calls, b) (name, call) =>
    match call.outcome? b.pacer s.clock with
    | none => ((name, call) :: calls, b)
    | some r => (calls, (call.conclude b).notify (.finished name r))) ([], s.bridge)
  { s with calls := calls.reverse, bridge }

/-- Everything goes on until nothing can. -/
def settle (s : Session) : Session := s.receive.endCalls.send.serveAll.send.endCalls

/-! ## Looking on -/

/-- What could be seen of the session since it was last looked at, in order. -/
def look (s : Session) : List Notice × Session :=
  (s.bridge.notices.reverse, s.withBridge { s.bridge with notices := [] })

end Session
end Seph
