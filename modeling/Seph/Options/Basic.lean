import Seph.Model
import Seph.Options.Address
import Seph.Text.Decimal

/-!
# Options

What can be chosen for a session, and how it is chosen on a command line: each setting at most once,
as `--name value` or as `--name=value`, in any order. Nothing else may stand there.
-/

namespace Seph

/-- The choices for a session. -/
structure Options where
  model : Model := .nanoSP
  link : LinkKind := .hid
  /-- The graphics library, if it is not that of the model. -/
  graphics : Option Graphics := none
  /-- The automation document, or a reference to the file that holds it. -/
  automation : Option String := none
  /-- The time between two ticks in milliseconds. -/
  tickMillis : Nat := 100
  /-- The address that the side channels listen at. -/
  bind : Address := .loopback
  /-- The number of the listener for each side channel, if there is to be one. -/
  apduListener : Option UInt16 := none
  buttonListener : Option UInt16 := none
  fingerListener : Option UInt16 := none
  /-- The number of ticks that a response may take. -/
  apduTimeout : Option Nat := none
  deriving DecidableEq, Repr

/-- The settings that a command line can make. -/
inductive Setting
  | model
  | link
  | graphics
  | automation
  | tickMillis
  | bind
  | apduListener
  | buttonListener
  | fingerListener
  | apduTimeout
  deriving DecidableEq, Repr

/-- Why a command line is refused. -/
inductive OptionsError
  | unexpected (argument : String)
  | missingValue (s : Setting)
  | repeated (s : Setting)
  | badValue (s : Setting) (value : String)
  deriving DecidableEq, Repr

namespace Setting

def all : List Setting :=
  [model, link, graphics, automation, tickMillis, bind, apduListener, buttonListener,
   fingerListener, apduTimeout]

/-- The name of a setting on the command line, without the dashes before it. -/
def name : Setting → String
  | model => "model"
  | link => "transport"
  | graphics => "graphics"
  | automation => "automation"
  | tickMillis => "ticker-period-ms"
  | bind => "bind"
  | apduListener => "apdu-port"
  | buttonListener => "button-port"
  | fingerListener => "finger-port"
  | apduTimeout => "apdu-timeout-ticks"

def ofName? (s : String) : Option Setting := all.find? fun k => k.name == s

@[simp] theorem ofName?_name (s : Setting) : ofName? s.name = some s := by cases s <;> rfl

/-- The greatest number of milliseconds or ticks. -/
def maxCount : Nat := UInt64.size - 1

/-- A number of milliseconds or ticks. -/
def count? (value : String) : Option Nat := (Decimal.parse maxCount value.toList).toOption

/-- The number of a listener; a minus sign does no harm to zero. -/
def listener? (value : String) : Option UInt16 :=
  (Decimal.parseSigned? 65535 value.toList).bind fun n =>
    if 0 ≤ n then some (UInt16.ofNat n.toNat) else none

/-- The options with one setting made; `none` when the value is not one for the setting. -/
def set? (s : Setting) (value : String) (o : Options) : Option Options :=
  match s with
  | model => (Model.ofName? value).map fun model => { o with model }
  | link => (LinkKind.ofName? value).map fun link => { o with link }
  | graphics => (Graphics.ofName? value).map fun g => { o with graphics := some g }
  | automation => some { o with automation := some value }
  | tickMillis => (count? value).map fun tickMillis => { o with tickMillis }
  | bind => (Address.ofText? value).map fun bind => { o with bind }
  | apduListener => (listener? value).map fun p => { o with apduListener := some p }
  | buttonListener => (listener? value).map fun p => { o with buttonListener := some p }
  | fingerListener => (listener? value).map fun p => { o with fingerListener := some p }
  | apduTimeout => (count? value).map fun n => { o with apduTimeout := some n }

/-- A setting as it is written in one argument: its name, and the value if there is one. -/
def ofArgument? (argument : String) : Option (Setting × Option String) :=
  match argument.toList with
  | '-' :: '-' :: cs =>
    let (name, rest) := cs.span (· ≠ '=')
    (ofName? (String.ofList name)).map fun s =>
      (s, match rest with
        | [] => none
        | _ :: value => some (String.ofList value))
  | _ => none

/-- An argument that begins with a dash is no value of the setting before it. A dash alone is. -/
def isValue (argument : String) : Bool :=
  match argument.toList with
  | '-' :: _ :: _ => false
  | _ => true

/-- The settings on a command line with their values. Two dashes may end it. -/
def ofArguments : List String → Except OptionsError (List (Setting × String))
  | [] => .ok []
  | ["--"] => .ok []
  | [argument] =>
    match ofArgument? argument with
    | none => .error (.unexpected argument)
    | some (s, some value) => .ok [(s, value)]
    | some (s, none) => .error (.missingValue s)
  | argument :: next :: rest =>
    match ofArgument? argument with
    | none => .error (.unexpected argument)
    | some (s, some value) => do return (s, value) :: (← ofArguments (next :: rest))
    | some (s, none) =>
      if isValue next then do return (s, next) :: (← ofArguments rest)
      else .error (.missingValue s)

end Setting

def OptionsError.message : OptionsError → String
  | .unexpected a => "unexpected argument '" ++ a ++ "'"
  | .missingValue s => "a value is required for '--" ++ s.name ++ "'"
  | .repeated s => "'--" ++ s.name ++ "' cannot be used more than once"
  | .badValue s v => "invalid value '" ++ v ++ "' for '--" ++ s.name ++ "'"

namespace Options

/-- Makes settings one after the other; `made` are those made before. -/
def make (made : List Setting) (o : Options) :
    List (Setting × String) → Except OptionsError Options
  | [] => .ok o
  | (s, value) :: rest =>
    if s ∈ made then .error (.repeated s)
    else match s.set? value o with
      | none => .error (.badValue s value)
      | some o => make (s :: made) o rest

/-- The options that a command line chooses. -/
def ofArguments (arguments : List String) : Except OptionsError Options := do
  make [] {} (← Setting.ofArguments arguments)

/-- The time between two ticks in milliseconds; it is never zero. -/
def period (o : Options) : Nat := max o.tickMillis 1

/-- Is nothing chosen but what is chosen by default? -/
def isDefault (o : Options) : Bool := o = {}

end Options
end Seph
