import Seph.Unicode.Property
import Seph.Unicode.Script
import Seph.Unicode.Age

/-!
# Sets of characters by name

Properties, general categories and scripts have names, which are compared loosely: case, blanks,
hyphens, underscores and a leading "is" do not count.
-/

namespace Seph.Named

def loose (name : List Char) : List Char :=
  let bare (cs : List Char) : List Char :=
    (cs.filter fun c => c.toNat < 128 && c != ' ' && c != '_' && c != '-').map Char.toLower
  match name with
  | i :: s :: rest =>
    if i.toLower = 'i' ∧ s.toLower = 's' then
      let r := bare rest
      if r = ['c'] then ['i', 's', 'c'] else r
    else bare name
  | _ => bare name

/-- Whether a name, as it is compared, is one of the given names. -/
def isOneOf (name : List Char) (names : List String) : Bool :=
  names.any fun n => loose n.toList == name

/-- The groups of general categories, and what is defined like one. -/
def groups : List (List String × (Unit → CharSet)) := [
  (["L", "Letter"], fun _ => Category.anyOf Category.letters),
  (["LC", "Cased_Letter"], fun _ => Category.anyOf Category.casedLetters),
  (["M", "Mark", "Combining_Mark"], fun _ => Category.anyOf Category.marks),
  (["N", "Number"], fun _ => Category.anyOf Category.numbers),
  (["P", "Punctuation", "punct"], fun _ => Category.anyOf Category.punctuation),
  (["S", "Symbol"], fun _ => Category.anyOf Category.symbols),
  (["Z", "Separator"], fun _ => Category.anyOf Category.separators),
  (["C", "Other"], fun _ => Category.others),
  (["Cn", "Unassigned"], fun _ => Category.unassigned),
  (["Any"], fun _ => CharSet.all),
  (["Assigned"], fun _ => Category.unassigned.compl),
  (["ASCII"], fun _ => CharSet.range 0 0x7F)]

/-- The set of a general category or of a group of them. -/
def category? (name : List Char) : Option CharSet :=
  match Category.all.find? fun c => isOneOf name c.names with
  | some c => some c.members
  | none => (groups.find? fun g => isOneOf name g.1).map fun g => g.2 ()

def script? (name : List Char) : Option Script := Script.all.find? fun s => isOneOf name s.names

def property? (name : List Char) : Option CharSet :=
  match Listed.all.find? fun p => isOneOf name p.names with
  | some p => some p.members
  | none => (Derived.all.find? fun p => isOneOf name p.names).map Derived.members

/-- The set of a name: of a property, else of a general category, else of a script. -/
def set? (name : List Char) : Option CharSet :=
  let n := loose name
  (property? n).orElse fun _ => (category? n).orElse fun _ => (script? n).map Script.members

/-- The set of the characters for which a property of several values has a given one. -/
def valued? (name value : List Char) : Option CharSet :=
  let n := loose name
  let v := loose value
  if isOneOf n ["gc", "General_Category"] then category? v
  else if isOneOf n ["sc", "Script"] then (script? v).map Script.members
  else if isOneOf n ["scx", "Script_Extensions"] then (script? v).map Script.extended
  else if isOneOf n ["age"] then Age.members? fun a => loose a.toList == v
  else none

end Seph.Named
