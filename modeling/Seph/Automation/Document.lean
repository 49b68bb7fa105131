import Seph.Automation.Action

/-!
# Automation documents

A document is a JSON record of a version and a list of rules. Records are also accepted as lists of
their fields, all of them in their order. Of several faults the first one in the text is reported.
-/

namespace Seph

/-- Why an automation document is refused. -/
inductive RulesError
  /-- The text is no document. -/
  | malformed
  | action (f : ActionFault)
  | version (n : Nat)
  /-- A pattern is refused. -/
  | pattern
  /-- A file cannot be read. -/
  | unreadable (path : String)
  | fileNotAllowed
  deriving DecidableEq, Repr

def RulesError.message : RulesError → String
  | malformed => "invalid automation: malformed document"
  | action f => "invalid automation: " ++ f.message
  | version n => "invalid automation: unsupported version " ++ toString n
  | pattern => "invalid automation: malformed pattern"
  | unreadable path => "invalid automation: failed to read " ++ path
  | fileNotAllowed => "file: automation references are not allowed here"

/-- A rule as it is written. -/
structure WrittenRule where
  text : Option String
  pattern : Option String
  x : Option UInt16
  y : Option UInt16
  conditions : List (String × Bool)
  actions : List Action
  deriving DecidableEq, Repr

/-- A document as it is written. -/
structure Document where
  version : Nat
  rules : List WrittenRule
  deriving DecidableEq, Repr

namespace Document

open Json (Value)

/-! ## Values -/

def optional (read : Value → Except RulesError α) : Value → Except RulesError (Option α)
  | .null => .ok none
  | v => (read v).map some

def text : Value → Except RulesError String
  | .text s => .ok s
  | _ => .error .malformed

/-- A natural number below a bound. -/
def natural (bound : Nat) : Value → Except RulesError Nat
  | .nat n => if n < bound then .ok n else .error .malformed
  | _ => .error .malformed

def coordinate (v : Value) : Except RulesError UInt16 := (natural UInt16.size v).map UInt16.ofNat

def listOf (read : Value → Except RulesError α) : Value → Except RulesError (List α)
  | .list l => l.mapM read
  | _ => .error .malformed

/-- A condition: the name of a switch and the value it has to have. -/
def condition : Value → Except RulesError (String × Bool)
  | .list [.text key, .bool value] => .ok (key, value)
  | _ => .error .malformed

def action : Value → Except RulesError Action
  | .list l =>
    if Value.allWhole l then (Action.ofValues l).mapError .action else .error .malformed
  | _ => .error .malformed

/-! ## Records -/

/-- Reads the fields of a record in the order of the text, each at most once, into what is read so
far. -/
def fields (read : σ → String → Value → Except RulesError σ) :
    List String → σ → List (String × Value) → Except RulesError σ
  | _, s, [] => .ok s
  | seen, s, (name, v) :: fs =>
    if seen.contains name then .error .malformed
    else do fields read (name :: seen) (← read s name v) fs

/-- Reads a record, or a list of all fields in their order. -/
def record (names : List String) (read : σ → String → Value → Except RulesError σ) (s : σ) :
    Value → Except RulesError σ
  | .record fs => fields read [] s fs
  | .list l => do
    let s ← fields read [] s (names.zip l)
    if l.length = names.length then .ok s else .error .malformed
  | _ => .error .malformed

/-- A rule of which some fields are read. -/
structure PartialRule where
  text : Option String
  pattern : Option String
  x : Option UInt16
  y : Option UInt16
  conditions : List (String × Bool)
  actions : Option (List Action)

def ruleField (r : PartialRule) (name : String) (v : Value) : Except RulesError PartialRule :=
  match name with
  | "text" => do .ok { r with text := ← optional text v }
  | "regexp" => do .ok { r with pattern := ← optional text v }
  | "x" => do .ok { r with x := ← optional coordinate v }
  | "y" => do .ok { r with y := ← optional coordinate v }
  | "conditions" => do .ok { r with conditions := ← listOf condition v }
  | "actions" => do .ok { r with actions := some (← listOf action v) }
  | _ => .error .malformed

/-- Reads a rule. Only its actions have to be there. -/
def rule (v : Value) : Except RulesError WrittenRule := do
  let r ← record ["text", "regexp", "x", "y", "conditions", "actions"] ruleField
    ⟨none, none, none, none, [], none⟩ v
  match r.actions with
  | some actions => .ok { r with actions }
  | none => .error .malformed

def documentField (d : Option Nat × Option (List WrittenRule)) (name : String) (v : Value) :
    Except RulesError (Option Nat × Option (List WrittenRule)) :=
  match name with
  | "version" => do .ok (some (← natural UInt32.size v), d.2)
  | "rules" => do .ok (d.1, some (← listOf rule v))
  | _ => .error .malformed

def ofValue (v : Value) : Except RulesError Document := do
  match ← record ["version", "rules"] documentField (none, none) v with
  | (some version, some rules) => .ok ⟨version, rules⟩
  | _ => .error .malformed

def ofText (s : String) : Except RulesError Document := do
  let (v, more) := Value.ofText s
  let d ← ofValue v
  if more then .error .malformed else .ok d

end Document
end Seph
