import Seph.Bridge.Notice
import Seph.Channel.Finger
import Seph.Engine.Basic
import Seph.Options.Basic
import Seph.Picture.Png

/-!
# The bridge

The bridge stands between the firmware and those who use the device. It hands packets from the
firmware to the engine and carries out what the engine asks for; it queues input for the firmware and
releases packets as the handshake allows; and it lets APDU exchanges take turns.
-/

namespace Seph

/-- The state of a bridge. -/
structure Bridge where
  engine : Engine
  pacer : Pacer := {}
  /-- The buttons that are held down. -/
  pressed : UInt8 := 0
  desk : Desk := {}
  /-- The number of ticks that a response may take unless something else is asked for. -/
  timeout : Option Nat := none
  /-- The number of those who listen to responses. -/
  listeners : Nat := 0
  /-- What could be seen since it was last looked at, the latest first. -/
  notices : List Notice := []

namespace Bridge

/-- A bridge with given options; `files` are the contents of files. -/
def ofOptions (files : String → Option String) (o : Options) : Except BridgeError Bridge :=
  let engine := Engine.new o.model o.link o.graphics
  match o.automation with
  | none => .ok { engine, timeout := o.apduTimeout }
  | some doc =>
    match Automation.load files .here doc with
    | .error e => .error (.rules e)
    | .ok a => .ok { engine := engine.setRules (some a), timeout := o.apduTimeout }

def notify (b : Bridge) (n : Notice) : Bridge := { b with notices := n :: b.notices }

def remark (b : Bridge) (r : Remark) : Bridge := b.notify (.remark r)

/-- One more listens to responses. -/
def listen (b : Bridge) : Bridge := { b with listeners := b.listeners + 1 }

/-! ## Input -/

/-- The mask of pressed buttons after a press or release. -/
def pressedAfter (mask : UInt8) (button : Button) (pressed : Bool) : UInt8 :=
  if pressed then mask ||| button.mask else mask &&& ~~~button.mask

/-- Queues a press or release of a button. -/
def queueButton (b : Bridge) (button : Button) (pressed : Bool) : Bridge :=
  let mask := pressedAfter b.pressed button pressed
  { b with pressed := mask, pacer := b.pacer.push (Packet.buttonPush mask) }

/-- Queues a touch or release of the finger, if it is on the screen. -/
def queueTouch (b : Bridge) (t : Touch) : Except InputError Bridge :=
  let panel := b.engine.model.panel
  if panel.width ≤ t.x.toNat ∨ panel.height ≤ t.y.toNat then
    .error (.fingerOutside t.x t.y panel)
  else .ok { b with pacer := b.pacer.push (Packet.finger t.x t.y t.pressed) }

/-- Queues a touch, or remarks why not. -/
def tryTouch (b : Bridge) (refused : InputError → Remark) (t : Touch) : Bridge :=
  match b.queueTouch t with
  | .ok b => b
  | .error e => b.remark (refused e)

/-- Performs an action of an automation rule. Switches and the end of the session are the engine's. -/
def perform (b : Bridge) : Action → Bridge
  | .button mask pressed =>
    match Button.ofMask? mask with
    | some button => b.queueButton button pressed
    | none => b.remark (.actionFailed (.unknownButton mask))
  | .finger x y pressed => b.tryTouch .actionFailed ⟨x, y, pressed⟩
  | .setBool _ _ | .exit => b

/-- Replaces the automation rules, or removes them. -/
def setRules (b : Bridge) (files : String → Option String) (origin : Origin) (doc : Option String) :
    Except InputError Bridge :=
  match doc with
  | none => .ok { b with engine := b.engine.setRules none }
  | some doc =>
    match Automation.load files origin doc with
    | .error e => .error (.rules e)
    | .ok a => .ok { b with engine := b.engine.setRules (some a) }

/-! ## Packets from the firmware -/

/-- Everyone who listens hears a response, and it goes to the exchange that waits for one. -/
def deliver (b : Bridge) (response : Bytes) : Bridge :=
  let b := (List.range b.listeners).foldl (fun b i => b.notify (.heard i response)) b
  let (expected, desk) := b.desk.deliver response
  let b := { b with desk }
  if expected then b else b.remark (.unsolicited response)

/-- Carries out an output of the engine. -/
def carryOut (b : Bridge) : Output → Except PacingError Bridge
  | .event p => .ok { b with pacer := b.pacer.push p }
  | .reply p => (b.pacer.reply p).map fun pacer => { b with pacer }
  | .statusReceived => b.pacer.statusReceived.map fun pacer => { b with pacer }
  | .apdu bs => .ok (b.deliver bs)
  | .text e => .ok (b.notify (.text e))
  | .action a => .ok (b.perform a)
  | .screen ps => .ok (b.notify (.screen ps))
  | .exit => .ok b

/-- Carries out outputs in their order, up to the first that the handshake forbids. -/
def carryOutAll (b : Bridge) : List Output → Option PacingError × Bridge
  | [] => (none, b)
  | o :: os =>
    match b.carryOut o with
    | .error e => (some e, b)
    | .ok b => carryOutAll b os

/-- Handles a packet; says whether the session goes on. -/
def dispatch (b : Bridge) (p : Packet) : Except BridgeError Bool × Bridge :=
  let { engine, pacer, pressed, desk, timeout, listeners, notices } := b
  let { engine, log, result } := engine.update p
  let notices := log.foldl (fun ns line => .remark (.printed line) :: ns) notices
  let b : Bridge := { engine, pacer, pressed, desk, timeout, listeners, notices }
  match result with
  | .error e => (.error (.engine e), b)
  | .ok outputs =>
    match b.carryOutAll outputs with
    | (some e, b) => (.error (.protocol e), b)
    | (none, b) => (.ok (!outputs.contains .exit), b)

/-- Handles packets until there are no more or the session ends; then also how it ends. -/
def dispatchAll (b : Bridge) : List Packet → Option (Except BridgeError Unit) × Bridge
  | [] => (none, b)
  | p :: ps =>
    match b.dispatch p with
    | (.error e, b) => (some (.error e), b)
    | (.ok false, b) => (some (.ok ()), b)
    | (.ok true, b) => dispatchAll b ps

/-! ## Packets for the firmware -/

/-- Sends the packet that may be sent now, if there is one. -/
def send (b : Bridge) : Option BridgeError × Bridge :=
  match b.pacer.next with
  | (.packet p, pacer) =>
    match p.encode with
    | .error e => (some (.wire e), { b with pacer })
    | .ok _ => (none, { b with pacer }.notify (.sent p))
  | _ => (none, b)

/-! ## Exchanges -/

def exchange (b : Bridge) (caller : Caller) (apdu : Bytes) (limit : Option Nat) : Bridge :=
  { b with desk := b.desk.enter caller apdu limit }

/-- Lets the end of an exchange be seen. -/
def conclude (b : Bridge) (r : Option Settled × Desk) : Bridge :=
  let b := { b with desk := r.2 }
  match r.1 with
  | none => b
  | some s => b.notify (.settled s)

/-- The first exchange that waits gets its turn, if it is nobody's. -/
def startTurn (b : Bridge) : Bridge := b.conclude (b.desk.startTurn b.pacer.ticks.closed)

/-- The exchange that has its ticket installed sends its APDU. -/
def transmit (b : Bridge) : Bridge :=
  match b.desk.turn with
  | some ⟨x, .installed, _⟩ =>
    let (r, engine) := b.engine.sendApdu x.apdu
    let b := { b with engine }
    match r with
    | .error e => { b with desk := b.desk.advance (.failing (.engine e)) }
    | .ok outputs =>
      match b.carryOutAll outputs with
      | (some e, b) => { b with desk := b.desk.advance (.failing (.protocol e)) }
      | (none, b) =>
        let deadline := x.limit.map (b.pacer.ticks.count + ·)
        { b with desk := b.desk.advance (.sent deadline) }
  | _ => b

/-- The exchange whose turn it is ends, if it can. -/
def leave (b : Bridge) : Bridge := b.conclude b.desk.leave

/-- The exchange whose turn it is fails, if it has to. -/
def expire (b : Bridge) : Bridge := { b with desk := b.desk.expire b.pacer.waitCount }

/-- The exchange whose turn it is goes as far as it can; then the next gets its turn, and so on for
up to `n` of those that wait. A response that has come counts even if time is up. -/
def serve (n : Nat) (b : Bridge) : Bridge :=
  let b := b.transmit.leave.expire.leave
  match n with
  | 0 => b
  | n + 1 => if b.desk.turn.isSome then b else serve n b.startTurn

/-- All exchanges go as far as they can. -/
def serveAll (b : Bridge) : Bridge := b.serve (b.desk.waiting.length + 1)

/-! ## The screen -/

/-- The picture on the screen as a PNG file. -/
def screenshotPng (b : Bridge) : Bytes :=
  let panel := b.engine.canvas.frame.panel
  Png.encode panel.width panel.height b.engine.screenshot

/-! ## The end -/

/-- Nothing is released any more. -/
def close (b : Bridge) : Bridge := { b with pacer := b.pacer.close }

/-- No exchange waits for a response any more. -/
def clear (b : Bridge) : Bridge := { b with desk := b.desk.clear }

end Bridge
end Seph
