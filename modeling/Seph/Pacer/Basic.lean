import Seph.Packet.Basic

/-!
# Pacing

The firmware takes one packet for each status that it sends. A status opens the slot and the packet
that is released next closes it again. The answer to a drawing goes to the head of the queue and
opens the slot itself; all else waits for its turn. When nothing waits, a tick that was asked for
fills the slot.
-/

namespace Seph

/-- What is known of the ticks. -/
structure TickStatus where
  /-- The ticks that the firmware has processed. -/
  count : Nat := 0
  /-- A tick was released and is not yet processed. -/
  inFlight : Bool := false
  paused : Bool := false
  /-- No packet is released any more. -/
  closed : Bool := false
  deriving DecidableEq, Repr

/-- The packets for the firmware, and the state of the handshake. -/
structure Pacer where
  queue : List Packet := []
  /-- The firmware waits for a packet. -/
  slot : Bool := false
  /-- A period has passed since the last tick. -/
  tickRequested : Bool := false
  /-- A tick is wanted even while ticks are paused. -/
  tickForced : Bool := false
  ticks : TickStatus := {}
  deriving DecidableEq, Repr

/-- A status that came while the slot was open. -/
inductive PacingError
  | reply (t : Tag)
  | status
  deriving DecidableEq, Repr

def PacingError.message : PacingError → String
  | reply t => "reply " ++ t.name ++ " with a slot already open"
  | status => "status received with a slot already open"

/-- What there is to be sent. -/
inductive Release
  | packet (p : Packet)
  /-- Nothing yet. -/
  | waiting
  /-- Nothing ever again. -/
  | closed
  deriving DecidableEq, Repr

/-- What is found to fill the slot. -/
inductive Found
  | packet (p : Packet)
  /-- A tick, of which those who wait for one do not know yet. -/
  | tick
  | nothing
  deriving DecidableEq, Repr

namespace TickStatus

/-- A tick in flight has been processed. -/
def acknowledge (t : TickStatus) : TickStatus :=
  if t.inFlight then { t with inFlight := false, count := t.count + 1 } else t

end TickStatus

namespace Pacer

/-- An event goes behind all that waits. -/
def push (s : Pacer) (p : Packet) : Pacer := { s with queue := s.queue ++ [p] }

/-- A reply goes before all that waits, and opens the slot. -/
def reply (s : Pacer) (p : Packet) : Except PacingError Pacer :=
  if s.slot then .error (.reply p.tag) else .ok { s with queue := p :: s.queue, slot := true }

/-- A status opens the slot, and says that a tick in flight was processed. -/
def statusReceived (s : Pacer) : Except PacingError Pacer :=
  if s.slot then .error .status else .ok { s with slot := true, ticks := s.ticks.acknowledge }

/-- Notes that a tick was asked for. -/
def note (s : Pacer) : Pacer := { s with tickRequested := true }

/-- Asks for a tick; says whether ticks are not paused. -/
def requestTick (s : Pacer) : Bool × Pacer :=
  if s.ticks.paused then (false, s) else (true, s.note)

def forceTick (s : Pacer) : Pacer := { s with tickForced := true }

/-- Releases no tick from now on but one that is forced. -/
def stop (s : Pacer) : Pacer := { s with ticks := { s.ticks with paused := true } }

/-- Gives up the tick that was asked for. -/
def forget (s : Pacer) : Pacer := { s with tickRequested := false }

/-- Pauses the ticks, and gives up the one that was asked for. -/
def pause (s : Pacer) : Pacer := s.stop.forget

def resume (s : Pacer) : Pacer := { s with ticks := { s.ticks with paused := false } }

/-- Releases nothing from now on. -/
def close (s : Pacer) : Pacer := { s with ticks := { s.ticks with closed := true } }

/-- A tick may fill the slot. -/
def wantsTick (s : Pacer) : Bool := s.tickForced || (s.tickRequested && !s.ticks.paused)

/-- Fills an open slot with the head of the queue, or else with a tick, which uses up all wishes for
one. -/
def fetch (s : Pacer) : Found × Pacer :=
  if s.slot then
    match s.queue with
    | p :: ps => (.packet p, { s with queue := ps, slot := false })
    | [] =>
      if s.wantsTick then
        (.tick, { s with slot := false, tickRequested := false, tickForced := false })
      else (.nothing, s)
  else (.nothing, s)

/-- Tells that a tick is in flight. -/
def launch (s : Pacer) : Pacer := { s with ticks := { s.ticks with inFlight := true } }

/-- Releases a packet into an open slot: the head of the queue or else a tick. -/
def next (s : Pacer) : Release × Pacer :=
  if s.ticks.closed then (.closed, s)
  else
    match s.fetch with
    | (.packet p, s) => (.packet p, s)
    | (.tick, s) => (.packet .tick, s.launch)
    | (.nothing, s) => (.waiting, s)

/-! ## Waiting for ticks -/

/-- How a wait stands: over, in vain, or not over. -/
inductive Wait
  | over
  | vain
  | on
  deriving DecidableEq, Repr

/-- How a wait for a condition on the ticks stands. What holds when the pacer closes still counts. -/
def wait (s : Pacer) (done : TickStatus → Bool) : Wait :=
  if done s.ticks then .over else if s.ticks.closed then .vain else .on

/-- How the wait for the end of a tick in flight stands. -/
def waitIdle (s : Pacer) : Wait := s.wait fun t => !t.inFlight

/-- How the wait for a number of ticks stands. -/
def waitCount (s : Pacer) (target : Nat) : Wait := s.wait fun t => target ≤ t.count

/-- The count that shows that a tick asked for now has been processed. -/
def nextTick (s : Pacer) : Nat := s.ticks.count + 1 + s.ticks.inFlight.toNat

end Pacer
end Seph
