import Seph.Pattern.Bracket

/-!
# Reading patterns

A pattern is a sequence of signs, sets and groups, each of which may be repeated, in alternatives
between bars. It is read from left to right; the groups that are open are kept on a stack. A pattern
that is badly written, too deep or too large is refused.
-/

namespace Seph.Pattern

open Seph.Text (isBlank)

/-- A part of a pattern, and how deep the groups, repetitions, sets and sequences are that write
it. What only sets flags cannot be repeated. -/
structure Part where
  pattern : Pattern
  depth : Nat
  isFlags : Bool
  deriving DecidableEq, Repr

namespace Part

/-- A part without parts of its own. -/
def leaf (p : Pattern) : Part := ⟨p, 0, false⟩

/-- The parts, of which the last comes first, one after the other. One part is no deeper alone. -/
def sequence : List Part → Part
  | [] => leaf .empty
  | [p] => p
  | p :: ps =>
    ⟨ps.foldl (fun q r => .seq r.pattern q) p.pattern,
      ps.foldl (fun d r => max d r.depth) p.depth + 1, false⟩

/-- The alternatives, of which the last comes first. -/
def choice (p : Part) : List Part → Part
  | [] => p
  | ps =>
    ⟨ps.foldl (fun q r => .either r.pattern q) p.pattern,
      ps.foldl (fun d r => max d r.depth) p.depth + 1, false⟩

def repeated (p : Part) (least : Nat) (most : Option Nat) : Part :=
  ⟨.times p.pattern least most, p.depth + 1, false⟩

def grouped (p : Part) : Part := ⟨p.pattern, p.depth + 1, false⟩

end Part

/-- What is read of a group: the alternatives before the last bar and the parts behind it, each with
the last one first, and the flags that are in force. -/
structure Group where
  branches : List Part
  parts : List Part
  flags : Flags
  deriving DecidableEq, Repr

namespace Group

def start (f : Flags) : Group := ⟨[], [], f⟩

def add (g : Group) (p : Part) : Group := { g with parts := p :: g.parts }

/-- A group with a bar behind what is read. -/
def bar (g : Group) : Group :=
  { g with branches := Part.sequence g.parts :: g.branches, parts := [] }

def close (g : Group) : Part := (Part.sequence g.parts).choice g.branches

/-- Takes the last part, to repeat it. -/
def takeLast? (g : Group) : Option (Part × Group) :=
  match g.parts with
  | p :: ps => if p.isFlags then none else some (p, { g with parts := ps })
  | [] => none

end Group

/-- A place in a pattern: the group that is read, the groups around it, and the names of the groups
that have one. -/
structure Place where
  here : Group
  outer : List Group
  names : List (List Char)
  deriving DecidableEq, Repr

namespace Place

def start : Place := ⟨Group.start Flags.initial, [], []⟩

def add (s : Place) (p : Part) : Place := { s with here := s.here.add p }

def enter (s : Place) (f : Flags) : Place :=
  { s with here := Group.start f, outer := s.here :: s.outer }

/-! ## Groups -/

/-- Whether a character may stand in the name of a group. -/
def isNameChar (first : Bool) (c : Char) : Bool :=
  c == '_' || Derived.alphabetic.members.contains c ||
    (!first && (c == '.' || c == '[' || c == ']' || (Category.anyOf Category.numbers).contains c))

/-- Reads the name of a group up to `>`. No two groups have one name. -/
def openNamed? (s : Place) (cs : List Char) : Option (Place × List Char) :=
  match cs.span (· != '>') with
  | (c :: name, '>' :: rest) =>
    if isNameChar true c && name.all (isNameChar false) && !s.names.contains (c :: name) then
      some ({ s.enter s.here.flags with names := (c :: name) :: s.names }, rest)
    else none
  | _ => none

/-- Reads what follows an opening parenthesis. A look at what stands before or behind a place is
refused. -/
def openGroup? (s : Place) (cs : List Char) : Option (Place × List Char) :=
  match skip s.here.flags cs with
  | '?' :: '=' :: _ | '?' :: '!' :: _ | '?' :: '<' :: '=' :: _ | '?' :: '<' :: '!' :: _ => none
  | '?' :: 'P' :: '<' :: cs | '?' :: '<' :: cs => s.openNamed? cs
  | '?' :: cs =>
    match Flags.read? [] true false s.here.flags cs with
    | some (f, any, sign, rest) =>
      if sign = ':' then some (s.enter f, rest)
      else if any then
        some ({ s with here := { s.here.add ⟨.empty, 0, true⟩ with flags := f } }, rest)
      else none
    | none => none
  | cs => some (s.enter s.here.flags, cs)

/-- Closes a group. The flags that were set in it end with it. -/
def closeGroup? (s : Place) : Option Place :=
  match s.outer with
  | [] => none
  | g :: outer => some { s with here := g.add s.here.close.grouped, outer }

/-! ## Repetitions -/

def repeatLast? (s : Place) (least : Nat) (most : Option Nat) : Option Place :=
  s.here.takeLast?.map fun (p, g) => { s with here := g.add (p.repeated least most) }

/-- A question mark behind a repetition prefers the shorter match, which does not change whether
there is one. -/
def dropLazy : List Char → List Char
  | '?' :: cs => cs
  | cs => cs

/-- Reads a count, with blanks around it. -/
def count? (f : Flags) (cs : List Char) : Option (Nat × List Char) :=
  let (ds, rest) := takeDigits f false [] (cs.dropWhile isBlank)
  let n := numeral 10 ds
  if ds.isEmpty || n ≥ UInt32.size then none else some (n, rest.dropWhile isBlank)

/-- Reads the counts of a repetition, behind the opening brace. -/
def counts? (f : Flags) (cs : List Char) : Option (Nat × Option Nat × List Char) := do
  let (least, rest) ← count? f (skip f cs)
  match rest with
  | '\x7d' :: rest => some (least, some least, rest)
  | ',' :: rest =>
    match skip f rest with
    | '\x7d' :: rest => some (least, none, rest)
    | rest =>
      match ← count? f rest with
      | (most, '\x7d' :: rest) => if least ≤ most then some (least, some most, rest) else none
      | _ => none
  | _ => none

/-! ## Signs -/

/-- The part of a sign outside brackets. -/
def signPart (f : Flags) : Sign → Part
  | .char c => Part.leaf (.one (charSet f c))
  | .set s => Part.leaf (.one s)
  | .look l => Part.leaf (.look l)

/-- Reads one sign, set, parenthesis, bar or repetition, with which `c :: cs` begins. -/
def step? (s : Place) (c : Char) (cs : List Char) : Option (Place × List Char) :=
  let f := s.here.flags
  match c with
  | '(' => s.openGroup? cs
  | ')' => s.closeGroup?.map fun s => (s, cs)
  | '|' => some ({ s with here := s.here.bar }, cs)
  | '[' => (bracketSet? f cs).map fun (b, rest) => (s.add ⟨.one b.set, b.depth, false⟩, rest)
  | '?' => (s.repeatLast? 0 (some 1)).map fun s => (s, dropLazy cs)
  | '*' => (s.repeatLast? 0 none).map fun s => (s, dropLazy cs)
  | '+' => (s.repeatLast? 1 none).map fun s => (s, dropLazy cs)
  | '\x7b' => do
    let (least, most, rest) ← counts? f cs
    return (← s.repeatLast? least most, dropLazy (skip f rest))
  | '.' => (dotSet? f).map fun d => (s.add (Part.leaf (.one d)), cs)
  | '^' => some (s.add (Part.leaf (.look (if f.lines then .lineStart f.crlf else .textStart))), cs)
  | '$' => some (s.add (Part.leaf (.look (if f.lines then .lineEnd f.crlf else .textEnd))), cs)
  | '\\' => (escape? f cs).map fun (g, rest) => (s.add (signPart f g), rest)
  | c => some (s.add (signPart f (.char c)), cs)

/-- Reads the rest of a pattern; every step takes at least one of the `n` characters left. -/
def read? : Nat → Place → List Char → Option Place
  | n, s, cs =>
    match skip s.here.flags cs with
    | [] => some s
    | c :: cs =>
      match n, s.step? c cs with
      | n + 1, some (s, rest) => read? n s rest
      | _, _ => none

end Place

/-- The deepest pattern that is accepted. -/
def maxDepth : Nat := 250

def parse? (cs : List Char) : Option Pattern := do
  let s ← Place.read? cs.length Place.start cs
  let p := s.here.close
  if s.outer.isEmpty && p.depth ≤ maxDepth && p.pattern.size ≤ maxSize then some p.pattern else none

end Seph.Pattern
