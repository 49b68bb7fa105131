import Seph.Session.Input

/-!
# The command line

The bridge as a program. The firmware's stream is the program's standard input and output, options
are given as arguments, and the log goes to standard error.
-/

namespace Seph.Main

/-- What has come from the firmware, the latest byte first, and whether its stream has ended. -/
structure Inbox where
  bytes : Bytes := []
  ended : Bool := false

/-- Moves the firmware's stream into the inbox, byte by byte, until it ends. -/
partial def fill (input : IO.FS.Stream) (inbox : IO.Ref Inbox) : IO Unit := do
  let got ← input.read 1
  if got.isEmpty then inbox.modify fun box => { box with ended := true }
  else
    inbox.modify fun box => { box with bytes := got.toList.reverse ++ box.bytes }
    fill input inbox

/-- The inputs that the contents of an inbox are. -/
def Inbox.inputs (box : Inbox) : List Input :=
  (if box.bytes.isEmpty then [] else [.firmware box.bytes.reverse]) ++
    (if box.ended then [.firmwareEnd] else [])

/-- Shows a notice to the firmware or in the log; gives the exit code when the session is over. -/
def present (output log : IO.FS.Stream) : Notice → IO (Option UInt32)
  | .sent p => do
    match p.encode with
    | .ok bs => output.write (ByteArray.mk bs.toArray); output.flush
    | .error e => log.putStrLn e.message
    return none
  | .remark r => do
    log.putStrLn r.message
    return none
  | .ended (.ok _) => return some 0
  | .ended (.error e) => do
    log.putStrLn e.message
    return some 1
  | _ => return none

/-- Takes what has come and lets time pass, again and again until the session is over. -/
partial def serve (files : String → Option String) (inbox : IO.Ref Inbox)
    (output log : IO.FS.Stream) (began : Nat) (s : Session) : IO UInt32 := do
  let box ← inbox.modifyGet fun box => (box, { box with bytes := [] })
  let now ← IO.monoMsNow
  let time := if s.clock + s.period ≤ now - began then [Input.period] else []
  let s := (box.inputs ++ time).foldl (fun s i => (s.step files i).2) s
  let (notices, s) := s.look
  let codes ← notices.filterMapM (present output log)
  match codes with
  | code :: _ => return code
  | [] =>
    IO.sleep 1
    serve files inbox output log began s

/-- The file that an automation option refers to, with its contents. -/
def readRules (o : Options) : IO (String → Option String) := do
  match (o.automation.getD "").toList with
  | 'f' :: 'i' :: 'l' :: 'e' :: ':' :: path =>
    let path := String.ofList path
    try
      let text ← IO.FS.readFile path
      return fun p => if p = path then some text else none
    catch _ => return fun _ => none
  | _ => return fun _ => none

def run (o : Options) (input output log : IO.FS.Stream) : IO UInt32 := do
  let files ← readRules o
  match Bridge.ofOptions files o with
  | .error e =>
    log.putStrLn e.message
    return 1
  | .ok b =>
    let inbox ← IO.mkRef ({} : Inbox)
    let _ ← (fill input inbox).asTask
    serve files inbox output log (← IO.monoMsNow) (Session.start b o.period false)

end Seph.Main

def main (arguments : List String) : IO UInt32 := do
  let log ← IO.getStderr
  match Seph.Options.ofArguments arguments with
  | .error e =>
    log.putStrLn e.message
    return 2
  | .ok o => Seph.Main.run o (← IO.getStdin) (← IO.getStdout) log
