import Seph.Automation.Basic
import Seph.Bagl.Drawing
import Seph.Engine.Console
import Seph.Engine.Output
import Seph.Engine.Refresh
import Seph.Link.Basic
import Seph.Nbgl.Drawing

/-!
# The engine

What the device does beside its firmware: it draws, reads the text it draws, applies the automation
rules, and keeps the link over which APDUs go. Each packet from the firmware leads to a list of
outputs (`Engine.update`); nothing is sent from here.
-/

namespace Seph

/-- The state of a device. -/
structure Engine where
  model : Model
  graphics : Graphics
  canvas : Canvas
  /-- Where the bitmap of raw statuses goes on. -/
  cursor : Option Bagl.RawCursor
  link : Link
  rules : Option Automation
  /-- What was asked to be shown since the last general status. -/
  refresh : Option Refresh
  /-- Console output that is not yet a line. -/
  console : Bytes

namespace Engine

/-- A new device; without a choice of graphics, that of the model. -/
def new (m : Model) (k : LinkKind) (g : Option Graphics) : Engine :=
  { model := m, graphics := g.getD m.graphics, canvas := Canvas.blank m, cursor := none
    link := Link.new k, rules := none, refresh := none, console := [] }

/-- The device with other automation rules. -/
def setRules (e : Engine) (rules : Option Automation) : Engine := { e with rules }

/-- An engine, the console lines that it logs and its outputs or an error. An engine that fails may
still have changed. -/
structure Step where
  engine : Engine
  log : List String
  result : Except EngineError (List Output)

/-- A step without a trace in the log. -/
def quiet (e : Engine) (r : Except EngineError (List Output)) : Step := ⟨e, [], r⟩

/-! ## Drawing -/

/-- The answer to a status that was drawn or printed. -/
def processed : Output := .reply Packet.displayProcessed

/-- The engine with one more refresh to show. -/
def addRefresh (e : Engine) (r : Refresh) : Engine :=
  { e with refresh := some (Refresh.add e.refresh r) }

def draw (e : Engine) (f : Canvas → Canvas) : Engine :=
  let { model, graphics, canvas, cursor, link, rules, refresh, console } := e
  { model, graphics, canvas := f canvas, cursor, link, rules, refresh, console }

def displayStatus (e : Engine) (bs : Bytes) : Step :=
  match Bagl.Drawing.ofStatus bs with
  | .error x => quiet e (.error (.draw x))
  | .ok d => quiet ((e.draw d.draw).addRefresh .full) (.ok [processed])

def displayRawStatus (e : Engine) (bs : Bytes) : Step :=
  let (r, cursor) := Bagl.RawPiece.ofStatus e.cursor bs
  let e := { e with cursor }
  match r with
  | .error x => quiet e (.error (.draw x))
  | .ok p =>
    quiet ((e.draw (p.draw e.model.readsRawBitmaps)).addRefresh .full) (.ok [processed])

/-- Draws a shape or a picture, if it is one. -/
def drawNbgl (e : Engine) (r : Except DrawError Nbgl.Drawing) : Step :=
  match r with
  | .error x => quiet e (.error (.draw x))
  | .ok d => quiet (e.draw d.draw) (.ok [])

def refreshNbgl (e : Engine) (bs : Bytes) : Step :=
  match Nbgl.refreshArea e.canvas.frame.panel bs with
  | .error x => quiet e (.error (.draw x))
  | .ok a => quiet (e.addRefresh (Refresh.ofArea? a)) (.ok [])

/-- A step that needs a graphics library. -/
def withGraphics (e : Engine) (g : Graphics) (t : Tag) (step : Engine → Step) : Step :=
  if e.graphics = g then step e else quiet e (.error (.unexpectedTag t))

/-! ## The console -/

/-- Prints bytes; the lines that become complete are logged. -/
def print (e : Engine) (bs : Bytes) (outputs : List Output) : Step :=
  let (pieces, console) := Console.push e.console bs
  ⟨{ e with console }, pieces.map ConsolePiece.text, .ok outputs⟩

/-! ## The link -/

/-- Takes the packets that the link has for the firmware. -/
def drainLink (e : Engine) (l : Link) : Engine × List Output :=
  let (ps, link) := l.drain
  ({ e with link }, ps.map .event)

def response : Option Bytes → List Output
  | some bs => [.apdu bs]
  | none => []

/-- Takes response data from outside USB. The response goes before what the link has to send. -/
def receiveApdu (e : Engine) (bs : Bytes) : Step :=
  let (r, l) := e.link.respond bs
  match r with
  | .error x => quiet { e with link := l } (.error (.link x))
  | .ok apdu =>
    let (e, events) := e.drainLink l
    quiet e (.ok (response apdu ++ events))

/-- Takes a USB configuration message. -/
def configureUsb (e : Engine) (bs : Bytes) : Step :=
  let (r, l) := e.link.config bs
  match r with
  | .error x => quiet { e with link := l } (.error (.link x))
  | .ok _ =>
    let (e, events) := e.drainLink l
    quiet e (.ok events)

/-- Takes a USB transfer. The response goes behind what the link has to send. -/
def prepareUsb (e : Engine) (bs : Bytes) : Step :=
  let (r, l) := e.link.prepare bs
  match r with
  | .error x => quiet { e with link := l } (.error (.link x))
  | .ok apdu =>
    let (e, events) := e.drainLink l
    quiet e (.ok (events ++ response apdu))

/-- Sends an APDU; gives the events for the firmware. -/
def sendApdu (e : Engine) (apdu : Bytes) : Except EngineError (List Output) × Engine :=
  let (r, l) := e.link.send apdu
  match r with
  | .error x => (.error (.link x), { e with link := l })
  | .ok _ =>
    let (e, events) := e.drainLink l
    (.ok events, e)

/-! ## The general status -/

/-- What the rules do at a text: a switch is set at once, all else is an output. -/
def react (rules : Option Automation) (e : TextEvent) : Option Automation × List Output :=
  match rules with
  | none => (none, [])
  | some a =>
    let (a, outputs) := ((a.actions? e).getD []).foldl (fun (a, outputs) action =>
      match action with
      | .setBool key value => (a.setBool key value, outputs)
      | .exit => (a, .exit :: outputs)
      | action => (a, .action action :: outputs)) (a, [])
    (some a, outputs.reverse)

/-- What the rules do at several texts, one after the other. -/
def reactAll (rules : Option Automation) : List TextEvent → Option Automation × List Output
  | [] => (rules, [])
  | e :: es =>
    let (rules, outputs) := react rules e
    let (rules, more) := reactAll rules es
    (rules, outputs ++ more)

/-- The output of pixels, if there are any. -/
def shown (ps : Array Pixel) : List Output := if ps.isEmpty then [] else [.screen ps]

/-- Shows what was refreshed and reports the texts, then what the rules do at them, and last that
the status was received. -/
def finish (e : Engine) : Step :=
  let { model, graphics, canvas := { frame, text }, cursor, link, rules, refresh, console } := e
  let (frame, pixels) := match refresh with
    | some r => r.commit frame
    | none => (frame, #[])
  let (texts, text) := text.take
  let (rules, reactions) := reactAll rules texts
  quiet
    { model, graphics, canvas := { frame, text }, cursor, link, rules, refresh := none, console }
    (.ok (shown pixels ++ texts.map .text ++ reactions ++ [.statusReceived]))

/-- The general status that ends a command. -/
def lastCommand : UInt16 := 0

def generalStatus (e : Engine) (bs : Bytes) : Step :=
  match bs with
  | a :: b :: _ =>
    let code := Word.ofBE16 a b
    if code = lastCommand then e.finish else quiet e (.error (.unexpectedStatus code))
  | _ => quiet e (.error (.wire .badLength))

/-! ## Packets -/

/-- Handles a packet from the firmware. -/
def update (e : Engine) (p : Packet) : Step :=
  let bs := p.payload
  let panel := e.canvas.frame.panel
  match p.tag with
  | .generalStatus => e.generalStatus bs
  | .displayStatus => e.withGraphics .bagl p.tag (·.displayStatus bs)
  | .displayRawStatus => e.withGraphics .bagl p.tag (·.displayRawStatus bs)
  | .printfStatus => e.print bs [processed]
  | .printcStatus => e.print bs (if e.model = .blue then [processed] else [])
  | .rapdu => e.receiveApdu bs
  | .usbConfig => e.configureUsb bs
  | .usbPrepare => e.prepareUsb bs
  | .nbglRect => e.withGraphics .nbgl p.tag (·.drawNbgl (Nbgl.Drawing.ofRect panel bs))
  | .nbglLine => e.withGraphics .nbgl p.tag (·.drawNbgl (Nbgl.Drawing.ofLine panel bs))
  | .nbglImage => e.withGraphics .nbgl p.tag (·.drawNbgl (Nbgl.Drawing.ofImage panel bs))
  | .nbglImageFile => e.withGraphics .nbgl p.tag (·.drawNbgl (Nbgl.Drawing.ofFile panel bs))
  | .nbglImageRle => e.withGraphics .nbgl p.tag (·.drawNbgl (Nbgl.Drawing.ofRuns panel bs))
  | .nbglRefresh => e.withGraphics .nbgl p.tag (·.refreshNbgl bs)
  | .powerOff => quiet e (.ok [.exit])
  | .bleSend | .bleRadioPower | .playTune | .mcu | .requestStatus => quiet e (.ok [])
  | .buttonPush | .finger | .displayProcessed | .ticker | .usbEvent | .usbTransfer | .capdu =>
    quiet e (.error (.unexpectedTag p.tag))

/-- The colours on the screen, row by row. -/
def screenshot (e : Engine) : List Color := e.canvas.frame.image

end Engine
end Seph
