import Seph.Unicode.Property

/-!
# Patterns

A pattern describes pieces of a text: characters of a set in sequence, alternatives and
repetitions, between places that a look may ask for. Where a match of a pattern can end is computed
for all starting places at once (`Pattern.ends`), so no pattern takes long for a text.

A place is the number of characters before it, and a set of places is a number whose bit `i` stands
for place `i`.
-/

namespace Seph

/-- What a look asks about the two characters around a place, by whether they belong to words. -/
inductive WordLook
  /-- One of the two does. -/
  | edge
  /-- Both or none do. -/
  | inside
  /-- The second alone does. -/
  | start
  /-- The first alone does. -/
  | stop
  /-- The first does not. -/
  | startHalf
  /-- The second does not. -/
  | stopHalf
  deriving DecidableEq, Repr

/-- What a look asks of a place. -/
inductive Look
  | textStart
  | textEnd
  /-- The start of a line; with `crlf`, a carriage return ends a line too. -/
  | lineStart (crlf : Bool)
  | lineEnd (crlf : Bool)
  /-- Words hold letters, digits and the like of ASCII alone, or of all scripts. -/
  | word (ascii : Bool) (kind : WordLook)
  deriving DecidableEq, Repr

/-- The characters of words, in all scripts. -/
def wordSet : CharSet :=
  (Category.anyOf (.decimalNumber :: .connectorPunctuation :: Category.marks)).union
    (Derived.alphabetic.members.union Listed.joinControl.members)

/-- The characters of words in ASCII. -/
def asciiWordSet : CharSet := CharSet.ofRanges [(0x30, 0x39), (0x41, 0x5A), (0x5F, 0x5F), (0x61, 0x7A)]

namespace Look

/-- Whether a character next to a place belongs to a word. -/
def inWord (ascii : Bool) : Option Char → Bool
  | some c => if ascii then asciiWordSet.contains c else wordSet.contains c
  | none => false

/-- Whether a place between two characters is as a look asks. -/
def holds (l : Look) (before after : Option Char) : Bool :=
  match l with
  | textStart => before.isNone
  | textEnd => after.isNone
  | lineStart false => before.isNone || before == some '\n'
  | lineStart true =>
    before.isNone || before == some '\n' || (before == some '\r' && after != some '\n')
  | lineEnd false => after.isNone || after == some '\n'
  | lineEnd true =>
    after.isNone || after == some '\r' || (after == some '\n' && before != some '\r')
  | word ascii kind =>
    let a := inWord ascii before
    let b := inWord ascii after
    match kind with
    | .edge => a != b
    | .inside => a == b
    | .start => !a && b
    | .stop => a && !b
    | .startHalf => !a
    | .stopHalf => !b

/-- The places of a text that are as a look asks, after the character `before`. -/
def places (l : Look) (before : Option Char) : List Char → Nat
  | [] => (l.holds before none).toNat
  | c :: cs => (l.holds before (some c)).toNat + 2 * places l (some c) cs

end Look

/-- A pattern. -/
inductive Pattern
  | empty
  /-- One character of a set. -/
  | one (s : CharSet)
  /-- No character, at a place as the look asks. -/
  | look (l : Look)
  | seq (p q : Pattern)
  | either (p q : Pattern)
  /-- At least `least` times, and at most `most` times if that is given. -/
  | times (p : Pattern) (least : Nat) (most : Option Nat)
  deriving DecidableEq, Repr

namespace Pattern

/-- The places of a text before a character of a set. -/
def starts (s : CharSet) : List Char → Nat
  | [] => 0
  | c :: cs => (s.contains c).toNat + 2 * starts s cs

/-- Applies a step `n` times, or until it changes nothing. -/
def iterate (f : Nat → Nat) : Nat → Nat → Nat
  | 0, s => s
  | n + 1, s =>
    let t := f s
    if t = s then s else iterate f n t

/-- Where matches end that begin in the set `s` of places. A text of `n` characters has `n + 1`
places, and no match ends before it begins, so after `n + 1` repetitions another one changes
nothing. -/
def ends (text : List Char) : Pattern → Nat → Nat
  | empty, s => s
  | one c, s => (s &&& starts c text) * 2
  | look l, s => s &&& l.places none text
  | seq p q, s => ends text q (ends text p s)
  | either p q, s => ends text p s ||| ends text q s
  | times p least most, s =>
    let room := text.length + 1
    let more := match most with
      | some m => min (m - least) room
      | none => room
    iterate (fun t => t ||| ends text p t) more (iterate (ends text p) (min least room) s)

/-- Every place of a text. -/
def everywhere (text : List Char) : Nat := Nat.pow 2 (text.length + 1) - 1

/-- Whether a pattern matches some piece of a text. -/
def isMatch (p : Pattern) (text : List Char) : Bool := p.ends text (everywhere text) != 0

/-! ## Estimated size -/

/-- Whether a pattern matches the empty piece alone. -/
def isZeroWidth : Pattern → Bool
  | empty | look _ => true
  | one _ => false
  | seq p q | either p q => isZeroWidth p && isZeroWidth q
  | times p _ most => isZeroWidth p || most == some 0

/-- An estimate of the bytes that a compiled set of characters takes. -/
def setSize (s : CharSet) : Nat :=
  let n := s.ranges.length
  if s.ranges.all fun r => r.2 < 128 then (if n = 1 then 32 else 32 + 8 * n)
  else if n = 1 ∧ s.ranges.all fun r => r.1 = r.2 then 96
  else 200 + 72 * n

/-- An estimate of the bytes that a compiled pattern takes, where counted repetitions are copies. A compiler
of patterns has a figure of its own, from which this one may differ near `maxSize`. -/
def size : Pattern → Nat
  | empty | look _ => 32
  | one s => setSize s
  | seq p q => size p + size q
  | either p q => size p + size q + 40
  | times p least most =>
    if isZeroWidth p then size p + 40
    else match most with
      | none => max least 1 * size p + 40
      | some 0 => 32
      | some m => m * size p + (m - least) * 40

/-- The largest estimate with which a pattern is accepted. -/
def maxSize : Nat := 10 * Nat.pow 2 20

end Pattern
end Seph
