import Seph.Bridge.Error

/-!
# APDU exchanges

An exchange sends an APDU to the firmware and waits for the response. Exchanges take turns in the
order in which they were asked for. The one whose turn it is installs its ticket, and the next
response goes to the ticket that is installed, whatever it answers. An exchange that fails removes the
ticket before it gives up its turn. A session that ends first closes, so that no ticket is installed
any more, and then removes the one that is.
-/

namespace Seph

/-- Who asked for an exchange. -/
inductive Caller
  /-- A call of the host, by its name. -/
  | call (name : String)
  /-- A connection to the APDU channel, by its name. -/
  | client (name : String)
  deriving DecidableEq, Repr

/-- An exchange that was asked for. -/
structure Exchange where
  ticket : Nat
  caller : Caller
  apdu : Bytes
  /-- The number of ticks that the response may take. -/
  limit : Option Nat
  deriving DecidableEq, Repr

/-- What has come back for an exchange. -/
inductive Receipt
  | nothing
  | response (bs : Bytes)
  /-- The ticket was removed by the end of the session. -/
  | dropped
  deriving DecidableEq, Repr

/-- How far an exchange has got in its turn. -/
inductive Progress
  /-- The ticket is installed; the APDU is not yet sent. -/
  | installed
  /-- The APDU is sent. When the tick count reaches the deadline, time is up. -/
  | sent (deadline : Option Nat)
  /-- It has failed, and has yet to remove its ticket. -/
  | failing (e : BridgeError)
  deriving DecidableEq, Repr

/-- The exchange whose turn it is. -/
structure Turn where
  exchange : Exchange
  progress : Progress
  receipt : Receipt
  deriving DecidableEq, Repr

/-- The end of an exchange. -/
structure Settled where
  exchange : Exchange
  result : Except BridgeError Bytes

/-- All exchanges that are not over. -/
structure Desk where
  /-- The number of tickets issued. -/
  issued : Nat := 0
  /-- Those that wait for their turn, the first in front. -/
  waiting : List Exchange := []
  turn : Option Turn := none
  /-- The ticket that is installed. -/
  ticket : Option Nat := none
  deriving DecidableEq, Repr

namespace Desk

/-- A new exchange waits for its turn behind the others. -/
def enter (d : Desk) (caller : Caller) (apdu : Bytes) (limit : Option Nat) : Desk :=
  { d with
    issued := d.issued + 1
    waiting := d.waiting ++ [⟨d.issued, caller, apdu, limit⟩] }

/-- When it is nobody's turn, the first exchange that waits gets it: it installs its ticket, or ends
at once when the session is closed. -/
def startTurn (d : Desk) (closed : Bool) : Option Settled × Desk :=
  match d.turn, d.waiting with
  | none, x :: rest =>
    if closed then (some ⟨x, .error .closed⟩, { d with waiting := rest })
    else (none, { d with
      waiting := rest, turn := some ⟨x, .installed, .nothing⟩, ticket := some x.ticket })
  | _, _ => (none, d)

/-- The exchange whose turn it is goes on. -/
def advance (d : Desk) (progress : Progress) : Desk :=
  { d with turn := d.turn.map fun t => { t with progress } }

/-- What comes back goes to the holder of a ticket, if it is that one's turn. -/
def give (d : Desk) (ticket : Nat) (receipt : Receipt) : Desk :=
  { d with turn := d.turn.map fun t =>
      if t.exchange.ticket = ticket then { t with receipt } else t }

/-- Takes the installed ticket out, and gives a receipt for it. -/
def redeem (d : Desk) (receipt : Receipt) : Desk :=
  match d.ticket with
  | none => d
  | some k => { d.give k receipt with ticket := none }

/-- A response goes to the installed ticket; says whether there was one. -/
def deliver (d : Desk) (response : Bytes) : Bool × Desk :=
  (d.ticket.isSome, d.redeem (.response response))

/-- The end of a session removes the installed ticket. -/
def clear (d : Desk) : Desk := d.redeem .dropped

/-- The exchange whose turn it is ends, if it can: with the response, or after it has failed. One that
has failed removes the installed ticket. -/
def leave (d : Desk) : Option Settled × Desk :=
  match d.turn with
  | some ⟨x, .failing e, _⟩ => (some ⟨x, .error e⟩, { d with turn := none, ticket := none })
  | some ⟨x, .sent _, .response bs⟩ => (some ⟨x, .ok bs⟩, { d with turn := none })
  | _ => (none, d)

/-- The exchange whose turn it is fails when nothing can come back any more or time is up; `wait` says
how the wait for a tick count stands. -/
def expire (d : Desk) (wait : Nat → Pacer.Wait) : Desk :=
  match d.turn with
  | some ⟨_, .sent _, .dropped⟩ => d.advance (.failing .closed)
  | some ⟨_, .sent (some deadline), .nothing⟩ =>
    match wait deadline with
    | .over => d.advance (.failing .timeout)
    | .vain => d.advance (.failing .closed)
    | .on => d
  | _ => d

end Desk
end Seph
