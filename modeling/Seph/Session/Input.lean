import Seph.Session.Basic

/-!
# Inputs of a session

What can happen to a session, one thing at a time. Time passes in ticker periods only. Each input has
its effect at once, and then everything goes on until nothing can (`Session.step`).
-/

namespace Seph

/-- What can happen to a session. -/
inductive Input
  | firmware (bs : Bytes)
  | firmwareEnd
  | button (b : Button) (pressed : Bool)
  | touch (t : Touch)
  | rules (origin : Origin) (doc : Option String)
  | resume
  /-- A ticker period passes. -/
  | period
  | exchange (name : String) (apdu : Bytes) (limit : Option Nat)
  | pause (name : String)
  | tick (name : String)
  /-- A button is pressed, and released after a number of milliseconds. -/
  | press (name : String) (b : Button) (delay : Nat)
  | viewer (bs : Bytes)
  | viewerEnd
  | connect (client : String) (service : Service)
  | client (client : String) (bs : Bytes)
  | clientEnd (client : String)
  deriving DecidableEq, Repr

/-- What an input is answered with at once. -/
inductive Answer
  | done
  /-- Whether bytes are taken. -/
  | taken (b : Bool)
  | refused (e : InputError)
  deriving DecidableEq, Repr

namespace Session

/-- A session that begins, with or without a viewer. -/
def start (b : Bridge) (period : Nat) (viewer : Bool) : Session :=
  settle
    { bridge := { b with pacer := b.pacer.requestTick.2 }, period
      viewer := if viewer then some [] else none }

/-- The session with one more call of the host that is not over. -/
def call (s : Session) (name : String) (c : Call) : Session :=
  { s with calls := s.calls ++ [(name, c)] }

/-- The session with its pacer changed by `f`. -/
def mapPacer (s : Session) (f : Pacer → Pacer) : Session :=
  s.withBridge { s.bridge with pacer := f s.bridge.pacer }

/-- The answer to an input that may be refused; what is refused changes nothing. -/
def attempt (s : Session) : Except InputError Bridge → Answer × Session
  | .ok b => (.done, s.withBridge b)
  | .error e => (.refused e, s)

/-- Queues what the viewer sends, or remarks why not. -/
def forward (b : Bridge) : Except InputError Viewer.Input → Bridge
  | .ok (.pointer x y pressed) => b.tryTouch .viewerInput ⟨x, y, pressed⟩
  | .ok (.button button pressed) => b.queueButton button pressed
  | .error e => b.remark (.viewerInput e)

/-- The session with the client of a given name changed by `f`. -/
def mapClient (s : Session) (name : String) (f : Client → Client) : Session :=
  { s with clients := s.clients.map fun c => if c.name = name then f c else c }

/-- Takes an input, as far as it has an effect at once; `files` are the contents of files. -/
def take (files : String → Option String) (s : Session) : Input → Answer × Session
  | .firmware bs =>
    if s.running ∧ !s.ended then (.taken true, { s with unread := s.unread ++ bs })
    else (.taken false, s)
  | .firmwareEnd => (.done, { s with ended := true })
  | .button b pressed => (.done, s.withBridge (s.bridge.queueButton b pressed))
  | .touch t => s.attempt (s.bridge.queueTouch t)
  | .rules origin doc => s.attempt (s.bridge.setRules files origin doc)
  | .resume => (.done, s.mapPacer .resume)
  | .period =>
    let s := { s with clock := s.clock + s.period }
    (.done, if s.bridge.pacer.ticks.closed then s else s.mapPacer fun p => p.requestTick.2)
  | .exchange name apdu limit => (.done, s.withBridge (s.bridge.exchange (.call name) apdu limit))
  | .pause name => (.done, (s.mapPacer .pause).call name .pause)
  | .tick name => (.done, (s.mapPacer .forceTick).call name (.tick s.bridge.pacer.nextTick))
  | .press name b delay =>
    (.done, (s.withBridge (s.bridge.queueButton b true)).call name (.release b (s.clock + delay)))
  | .viewer bs =>
    match s.viewer with
    | none => (.taken false, s)
    | some unread =>
      let (records, _, rest) := Viewer.Input.stream.takeAll (unread ++ bs)
      (.taken true, { s with bridge := records.foldl forward s.bridge, viewer := some rest })
  | .viewerEnd =>
    if s.viewer.isNone then (.done, s)
    else (.done, { s with
      bridge := (s.bridge.remark (.viewerClosed .peerGone)).notify (.viewerClosed .peerGone)
      viewer := none })
  | .connect name service => (.done, { s with clients := s.clients ++ [{ name, service }] })
  | .client name bs =>
    (.done, (s.mapClient name fun c => { c with unread := c.unread ++ bs }).readClients [])
  | .clientEnd name => (.done, (s.mapClient name fun c => { c with ended := true }).readClients [])

/-- Takes an input, and goes on until nothing can. -/
def step (files : String → Option String) (s : Session) (i : Input) : Answer × Session :=
  let (a, s) := s.take files i
  (a, s.settle)

end Session
end Seph
