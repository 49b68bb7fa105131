import Seph.Json.Value

/-!
# Actions

What an automation rule does when it applies: buttons, touches, named switches, and the end of the
session. An action is written as a list of a verb and its arguments.
-/

namespace Seph

/-- An action of a rule. -/
inductive Action
  /-- The buttons with bits in `mask` are pressed or released. -/
  | button (mask : UInt8) (pressed : Bool)
  | finger (x y : UInt16) (pressed : Bool)
  | setBool (key : String) (value : Bool)
  | exit
  deriving DecidableEq, Repr

/-- Why a list of values is no action. -/
inductive ActionFault
  | noVerb
  | unknownVerb (verb : String)
  /-- Argument `i` is no natural number. -/
  | notNatural (i : Nat)
  | notBoolean (i : Nat)
  | outOfRange (i : Nat)
  | buttonOutOfRange
  | keyNotText
  /-- A number of arguments other than `count`. -/
  | wrongCount (verb : String) (count : Nat)
  deriving DecidableEq, Repr

def ActionFault.message : ActionFault → String
  | noVerb => "action must start with a verb"
  | unknownVerb verb => "unknown action '" ++ verb ++ "'"
  | notNatural i => "argument " ++ toString i ++ " must be an unsigned integer"
  | notBoolean i => "argument " ++ toString i ++ " must be a boolean"
  | outOfRange i => "argument " ++ toString i ++ " out of range"
  | buttonOutOfRange => "button out of range"
  | keyNotText => "setbool key must be a string"
  | wrongCount verb count => "'" ++ verb ++ "' expects " ++ toString count ++ " arguments"

namespace Action

open Json (Value)

/-- Argument `i` as a natural number. -/
def naturalAt (args : List Value) (i : Nat) : Except ActionFault Nat :=
  match args[i]? with
  | some (.nat n) => .ok n
  | _ => .error (.notNatural i)

def booleanAt (args : List Value) (i : Nat) : Except ActionFault Bool :=
  match args[i]? with
  | some (.bool b) => .ok b
  | _ => .error (.notBoolean i)

def coordinateAt (args : List Value) (i : Nat) : Except ActionFault UInt16 := do
  let n ← naturalAt args i
  if n < UInt16.size then .ok (UInt16.ofNat n) else .error (.outOfRange i)

/-- The action that a verb and its arguments write. The arguments are checked in order, and last
their number. -/
def ofVerb (verb : String) (args : List Value) : Except ActionFault Action := do
  let (a, count) ← match verb with
    | "button" => do
      let n ← naturalAt args 0
      if n ≥ UInt8.size then .error .buttonOutOfRange
      else .ok (button (UInt8.ofNat n) (← booleanAt args 1), 2)
    | "finger" => do
      .ok (finger (← coordinateAt args 0) (← coordinateAt args 1) (← booleanAt args 2), 3)
    | "setbool" =>
      match args[0]? with
      | some (Value.text key) => do .ok (setBool key (← booleanAt args 1), 2)
      | _ => .error .keyNotText
    | "exit" => .ok (exit, 0)
    | _ => .error (.unknownVerb verb)
  if args.length = count then .ok a else .error (.wrongCount verb count)

/-- The action that a list of values writes. -/
def ofValues : List Value → Except ActionFault Action
  | .text verb :: args => ofVerb verb args
  | _ => .error .noVerb

end Action
end Seph
