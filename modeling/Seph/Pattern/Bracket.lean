import Seph.Pattern.Syntax

/-!
# Sets in brackets

A set in brackets lists characters, ranges, named sets and other sets in brackets. `&&`, `--` and
`~~` between lists give what is in both, in the first alone, and in exactly one; they group from
the left. What is open is kept on a stack.
-/

namespace Seph.Pattern

open Seph.Text (isBlank)

/-- A set, and how deep the brackets, lists and operations are that write it. -/
structure Nested where
  set : CharSet
  depth : Nat
  deriving DecidableEq, Repr

/-- A list of sets: what is in any of them, their number, and the depth of the deepest. -/
structure Listing where
  set : CharSet
  count : Nat
  depth : Nat
  deriving DecidableEq, Repr

namespace Listing

def empty : Listing := ⟨.empty, 0, 0⟩

def add (l : Listing) (s : Nested) : Listing :=
  ⟨l.set.union s.set, l.count + 1, max l.depth s.depth⟩

/-- The set of a list. A list of one set is no deeper than that. -/
def close (l : Listing) : Nested := ⟨l.set, if l.count ≤ 1 then l.depth else l.depth + 1⟩

end Listing

/-- An operation between two lists. -/
inductive SetOp
  | both
  | firstAlone
  | eitherAlone
  deriving DecidableEq, Repr

/-- The operation applied to two sets. -/
def SetOp.apply : SetOp → CharSet → CharSet → CharSet
  | both, s, t => s.inter t
  | firstAlone, s, t => s.diff t
  | eitherAlone, s, t => s.symmDiff t

/-- A bracket that is open: what was listed before it, whether it is negated, and the operation in
it that waits for its second list. -/
structure Bracket where
  outer : Listing
  negated : Bool
  waiting : Option (SetOp × Nested)
  deriving DecidableEq, Repr

/-- A list with the operation before it applied. -/
def Bracket.combine (f : Flags) (b : Bracket) (l : Listing) : Nested :=
  match b.waiting with
  | none => l.close
  | some (op, first) =>
    let second := l.close
    ⟨op.apply (foldSet f first.set) (foldSet f second.set), max first.depth second.depth + 1⟩

/-- Takes the hyphens at the start of a list, of which there are at most `n`. -/
def takeHyphens (f : Flags) : Nat → Listing → List Char → Listing × List Char
  | n + 1, l, '-' :: cs => takeHyphens f n (l.add ⟨CharSet.single '-', 0⟩) (skip f cs)
  | _, l, cs => (l, cs)

/-- Reads the start of a set, behind its bracket: the sign `^` negates it, and hyphens, or else a
closing bracket, stand for themselves. -/
def openBracket? (f : Flags) (cs : List Char) : Option (Bool × Listing × List Char) :=
  let (negated, cs) := match skip f cs with
    | '^' :: cs => (true, skip f cs)
    | cs => (false, cs)
  match takeHyphens f cs.length Listing.empty cs with
  | (_, []) => none
  | (l, c :: cs) =>
    if c = ']' ∧ l.count = 0 then
      let rest := skip f cs
      if rest.isEmpty then none else some (negated, l.add ⟨CharSet.single ']', 0⟩, rest)
    else some (negated, l, c :: cs)

/-- Reads a set that is named between `[:` and `:]`, behind its first bracket; `none` if there is no
such name here. -/
def namedSet? (cs : List Char) : Option (Bool × CharSet × List Char) := do
  let ':' :: cs := cs | none
  let (negated, cs) := match cs with
    | '^' :: cs => (true, cs)
    | cs => (false, cs)
  match cs.dropWhile (· != ':') with
  | ':' :: ']' :: rest =>
    let s ← asciiSet? (String.ofList (cs.takeWhile (· != ':')))
    some (negated, s, rest)
  | _ => none

def listSign? (f : Flags) : List Char → Option (Sign × List Char)
  | [] => none
  | '\\' :: cs => escape? f cs
  | c :: cs => some (.char c, cs)

/-- Whether a hyphen, which the rest `cs` of the pattern begins with, stands between the two ends of
a range: neither a closing bracket nor another hyphen follows it. Behind one comment sign only
blanks are left out here. -/
def isRangeSign (f : Flags) : List Char → Bool
  | '-' :: cs =>
    let cs :=
      if !f.spaced then cs
      else match cs.dropWhile isBlank with
        | '#' :: cs => cs.dropWhile isBlank
        | cs => cs
    cs.head? != some ']' && cs.head? != some '-'
  | _ => false

/-- The set of a sign in a list. A look is no set, and without the flag `u` characters are ASCII. -/
def signSet? (f : Flags) : Sign → Option CharSet
  | .char c => if f.unicode || c.toNat < 128 then some (CharSet.single c) else none
  | .set s => some s
  | .look _ => none

/-- Reads a character, a range or a set of a list. -/
def listItem? (f : Flags) (cs : List Char) : Option (CharSet × List Char) := do
  let (first, rest) ← listSign? f cs
  let rest := skip f rest
  if rest.isEmpty then none
  else if !isRangeSign f rest then return (← signSet? f first, rest)
  else
    let (last, rest) ← listSign? f (skip f (rest.drop 1))
    match first, last with
    | .char a, .char b =>
      if a.toNat ≤ b.toNat && (f.unicode || b.toNat < 128) then
        return (CharSet.range a.toNat b.toNat, rest)
      else none
    | _, _ => none

/-- A place inside brackets: the list that is read, the bracket around it, and the brackets around
that one. -/
structure Brackets where
  list : Listing
  here : Bracket
  outer : List Bracket
  deriving DecidableEq, Repr

/-- What one sign of a list does: the set is not complete, or it is, with what follows it. -/
inductive ListStep
  | more (b : Brackets) (rest : List Char)
  | done (s : Nested) (rest : List Char)
  deriving DecidableEq, Repr

def Brackets.close? (f : Flags) (b : Brackets) (rest : List Char) : Option ListStep := do
  let inner := b.here.combine f b.list
  let s : Nested := ⟨← negate? f b.here.negated (foldSet f inner.set), inner.depth + 1⟩
  match b.outer with
  | [] => some (.done s rest)
  | around :: outer => some (.more ⟨b.here.outer.add s, around, outer⟩ rest)

/-- Ends a list with an operation. -/
def Brackets.operate (f : Flags) (b : Brackets) (op : SetOp) : Brackets :=
  { b with list := .empty, here := { b.here with waiting := some (op, b.here.combine f b.list) } }

/-- Reads one item of a list, or a sign between lists. -/
def Brackets.step? (f : Flags) (b : Brackets) (cs : List Char) : Option ListStep :=
  let listed (r : CharSet × List Char) : ListStep := .more { b with list := b.list.add ⟨r.1, 0⟩ } r.2
  match skip f cs with
  | [] => none
  | '[' :: cs =>
    match namedSet? cs with
    | some (negated, s, rest) =>
      (negate? f negated (foldSet f s)).map fun s => listed (s, rest)
    | none =>
      (openBracket? f cs).map fun (negated, l, rest) =>
        .more ⟨l, ⟨b.list, negated, none⟩, b.here :: b.outer⟩ rest
  | ']' :: cs => b.close? f cs
  | '&' :: '&' :: cs => some (.more (b.operate f .both) cs)
  | '-' :: '-' :: cs => some (.more (b.operate f .firstAlone) cs)
  | '~' :: '~' :: cs => some (.more (b.operate f .eitherAlone) cs)
  | cs => (listItem? f cs).map listed

/-- Reads the rest of a set; every step takes at least one of the `n` characters left. -/
def Brackets.read? (f : Flags) : Nat → Brackets → List Char → Option (Nested × List Char)
  | 0, _, _ => none
  | n + 1, b, cs =>
    match b.step? f cs with
    | none => none
    | some (.done s rest) => some (s, rest)
    | some (.more b rest) => read? f n b rest

/-- Reads a set, behind its first bracket. -/
def bracketSet? (f : Flags) (cs : List Char) : Option (Nested × List Char) := do
  let (negated, l, rest) ← openBracket? f cs
  Brackets.read? f (rest.length + 1) ⟨l, ⟨.empty, negated, none⟩, []⟩ rest

end Seph.Pattern
