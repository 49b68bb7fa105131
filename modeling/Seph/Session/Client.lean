import Seph.Bridge.Basic
import Seph.Channel.Apdu
import Seph.Channel.Button
import Seph.Text.Utf8

/-!
# Clients of the side channels

A client is connected to one of the side channels. What it sends is read as far as it is complete;
a client of the APDU channel is not read while an exchange of its own goes on.
-/

namespace Seph

/-- A side channel. -/
inductive Service
  | apdu
  | button
  | finger
  deriving DecidableEq, Repr

/-- A connection to a side channel. -/
structure Client where
  name : String
  service : Service
  /-- What it sent and is not yet read. -/
  unread : Bytes := []
  /-- It sends nothing more. -/
  ended : Bool := false
  /-- An exchange of its own goes on. -/
  busy : Bool := false
  /-- The connection is up. -/
  connected : Bool := true
  deriving DecidableEq, Repr

namespace Client

def hangUp (c : Client) (b : Bridge) : Client × Bridge :=
  ({ c with connected := false, unread := [] }, b.notify (.hungUp c.name))

/-- The client when all it sent is read; a client that sends nothing more is let go. -/
def readOut (c : Client) (rest : Bytes) (b : Bridge) : Client × Bridge :=
  if c.ended then c.hangUp b else ({ c with unread := rest }, b)

/-- Queues the touches of a line; what is wrong with it is remarked. -/
def readLine (line : String) (b : Bridge) : Bridge :=
  if (Text.trim line.toList).isEmpty then b
  else match FingerChannel.command line with
    | .error e => b.remark (.finger e)
    | .ok ts => ts.foldl (fun b t => b.tryTouch .finger t) b

/-- Reads lines up to the first that is no text; says whether all of them are. -/
def readLines : List Bytes → Bridge → Bool × Bridge
  | [], b => (true, b)
  | l :: ls, b =>
    match Utf8.decode? l with
    | none => (false, b)
    | some line => readLines ls (readLine line b)

def read (c : Client) (b : Bridge) : Client × Bridge :=
  if !c.connected then (c, b)
  else match c.service with
    | .button =>
      c.readOut [] ((ButtonChannel.commands c.unread).foldl (fun b (x, p) => b.queueButton x p) b)
    | .finger =>
      let (ls, _, rest) := FingerChannel.lines.takeAll c.unread
      let (fine, b) := readLines (if c.ended ∧ rest ≠ [] then ls ++ [rest] else ls) b
      if fine then c.readOut rest b else c.hangUp b
    | .apdu =>
      if c.busy then (c, b)
      else match ApduChannel.takeRequest? c.unread with
        | none => c.readOut c.unread b
        | some (.error _, _) => c.hangUp b
        | some (.ok apdu, rest) =>
          ({ c with unread := rest, busy := true }, b.exchange (.client c.name) apdu b.timeout)

/-- Takes the end of an exchange of the client: the response goes to it, and after an error the
connection ends. -/
def settled (c : Client) (result : Except BridgeError Bytes) (b : Bridge) : Client × Bridge :=
  if !c.connected then (c, b)
  else match result with
    | .error _ => c.hangUp b
    | .ok response =>
      ({ c with busy := false }, b.notify (.answered c.name (ApduChannel.encodeResponse response)))

/-- The end of an exchange, if it is one of the client's. -/
def result? (c : Client) : Notice → Option (Except BridgeError Bytes)
  | .settled s => if s.exchange.caller = .client c.name then some s.result else none
  | _ => none

/-- Goes on after what could be seen of the bridge: takes the ends of the client's own exchanges, and
reads on. -/
def goOn (c : Client) (seen : List Notice) (b : Bridge) : Client × Bridge :=
  let (c, b) := (seen.filterMap c.result?).foldl (fun (c, b) r => c.settled r b) (c, b)
  c.read b

end Client
end Seph
