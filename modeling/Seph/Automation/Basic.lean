import Seph.Automation.Document
import Seph.Display.ScreenText
import Seph.Pattern.Parse

/-!
# Automation

Rules that answer texts on the screen with actions. A rule applies to a text if everything that it
asks for holds: the text itself, a pattern at its start, its place, and the values of named
switches. The first rule that applies counts.
-/

namespace Seph

/-- Where a document comes from. -/
inductive Origin
  /-- The command line or the program itself. -/
  | here
  | network
  deriving DecidableEq, Repr

/-- A rule. -/
structure Rule where
  text : Option String
  pattern : Option Pattern
  x : Option UInt16
  y : Option UInt16
  conditions : List (String × Bool)
  actions : List Action
  deriving DecidableEq, Repr

/-- Rules with the named switches. -/
structure Automation where
  rules : List Rule
  switches : List (String × Bool)
  deriving DecidableEq, Repr

namespace Rule

/-- What a pattern of a rule is read as: it has to match at the start of the text. -/
def anchored (p : String) : List Char := "^(?:".toList ++ p.toList ++ ")".toList

/-- The rule that is written, with its pattern read. -/
def ofWritten (r : WrittenRule) : Except RulesError Rule :=
  let { text, pattern, x, y, conditions, actions } := r
  match pattern with
  | none => .ok ⟨text, none, x, y, conditions, actions⟩
  | some p =>
    match Pattern.parse? (anchored p) with
    | some p => .ok ⟨text, some p, x, y, conditions, actions⟩
    | none => .error .pattern

/-- Whether a rule applies to a text, given the values of the switches. -/
def applies (r : Rule) (value : String → Bool) (e : TextEvent) : Bool :=
  r.text.all (· == e.text) && r.pattern.all (·.isMatch e.text.toList) && r.x.all (· == e.x) &&
    r.y.all (· == e.y) && r.conditions.all fun c => value c.1 == c.2

end Rule

namespace Automation

/-- The value of a switch; a switch that was never set is off. -/
def getBool (a : Automation) (key : String) : Bool := (a.switches.lookup key).getD false

def setBool (a : Automation) (key : String) (value : Bool) : Automation :=
  { a with switches := (key, value) :: a.switches.filter fun s => s.1 != key }

@[simp] theorem getBool_setBool_self (a : Automation) (key : String) (value : Bool) :
    (a.setBool key value).getBool key = value := by
  simp [getBool, setBool]

/-- The actions of the first rule that applies to a text. -/
def actions? (a : Automation) (e : TextEvent) : Option (List Action) :=
  (a.rules.find? fun r => r.applies a.getBool e).map Rule.actions

/-- The version of documents that is understood. -/
def version : Nat := 1

def ofDocument (d : Document) : Except RulesError Automation :=
  if d.version ≠ version then .error (.version d.version)
  else do .ok ⟨← d.rules.mapM Rule.ofWritten, []⟩

def ofText (s : String) : Except RulesError Automation := do ofDocument (← Document.ofText s)

/-- Reads a document, or the file that it names. A document from the network names no file; `files`
gives the content of the files that can be read. -/
def load (files : String → Option String) (origin : Origin) (doc : String) :
    Except RulesError Automation :=
  match doc.toList with
  | 'f' :: 'i' :: 'l' :: 'e' :: ':' :: path =>
    if origin = .network then .error .fileNotAllowed
    else match files (String.ofList path) with
      | some s => ofText s
      | none => .error (.unreadable (String.ofList path))
  | _ => ofText doc

end Automation
end Seph
