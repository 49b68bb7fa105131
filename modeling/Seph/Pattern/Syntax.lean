import Seph.Unicode.CaseFold
import Seph.Unicode.Named
import Seph.Pattern.Basic

/-!
# The signs of patterns

The parts that patterns are written with, below groups and repetitions: flags, blanks and comments,
escapes. What is not well written gives `none`.
-/

namespace Seph.Pattern

open Seph.Text (isBlank)

/-- The flags that are in force at a place of a pattern. -/
structure Flags where
  /-- `i`: the case of letters does not count. -/
  ignoreCase : Bool
  /-- `m`: `^` and `$` ask for lines. -/
  lines : Bool
  /-- `s`: the dot is any character. -/
  dotAll : Bool
  /-- `R`: a carriage return ends a line too. -/
  crlf : Bool
  /-- `u`: sets hold characters of all scripts; without it, of ASCII alone. -/
  unicode : Bool
  /-- `x`: blanks and comments are left out. -/
  spaced : Bool
  deriving DecidableEq, Repr

namespace Flags

/-- The flags at the start of a pattern. -/
def initial : Flags := ⟨false, false, false, false, true, false⟩

/-- The flags with one of them switched. The flag `U`, which prefers short matches, does not change
whether there is a match. -/
def set? (f : Flags) (c : Char) (on : Bool) : Option Flags :=
  match c with
  | 'i' => some { f with ignoreCase := on }
  | 'm' => some { f with lines := on }
  | 's' => some { f with dotAll := on }
  | 'R' => some { f with crlf := on }
  | 'u' => some { f with unicode := on }
  | 'x' => some { f with spaced := on }
  | 'U' => some f
  | _ => none

/-- Reads the flags of a group up to `:` or `)`. Gives the flags, whether any was written, the sign
that ended them and what follows. No flag comes twice, and the hyphen that switches the flags behind
it off comes once and not at the end. -/
def read? : List Char → Bool → Bool → Flags → List Char → Option (Flags × Bool × Char × List Char)
  | _, _, _, _, [] => none
  | seen, on, open?, f, c :: cs =>
    if c = ':' ∨ c = ')' then
      if open? then none else some (f, !seen.isEmpty, c, cs)
    else if seen.contains c then none
    else if c = '-' then read? (c :: seen) false true f cs
    else match f.set? c on with
      | some f => read? (c :: seen) on false f cs
      | none => none

end Flags

/-! ## Blanks and comments -/

/-- A pattern without the blanks and comments at its start; a comment goes from `#` to the end of
its line. -/
def dropBlanks : Bool → List Char → List Char
  | _, [] => []
  | true, c :: cs => dropBlanks (c != '\n') cs
  | false, c :: cs =>
    if isBlank c then dropBlanks false cs
    else if c = '#' then dropBlanks true cs
    else c :: cs

/-- A pattern from its next sign on. -/
def skip (f : Flags) (cs : List Char) : List Char := if f.spaced then dropBlanks false cs else cs

/-- Whether a character is left out. -/
def isSkipped (f : Flags) (c : Char) : Bool := f.spaced && (isBlank c || c == '#')

/-- The signs up to a closing brace, and what follows it; `inComment` tells whether a comment is
being read. -/
def upToBrace? (f : Flags) : Bool → List Char → List Char → Option (List Char × List Char)
  | _, _, [] => none
  | true, acc, c :: cs => upToBrace? f (c != '\n') acc cs
  | false, acc, c :: cs =>
    if isSkipped f c then upToBrace? f (c == '#') acc cs
    else if c = '\x7d' then some (acc.reverse, cs)
    else upToBrace? f false (c :: acc) cs

/-- The next `n` signs, and what follows them. -/
def take? (f : Flags) : Bool → Nat → List Char → List Char → Option (List Char × List Char)
  | _, 0, acc, cs => some (acc.reverse, cs)
  | _, _ + 1, _, [] => none
  | true, n + 1, acc, c :: cs => take? f (c != '\n') (n + 1) acc cs
  | false, n + 1, acc, c :: cs =>
    if isSkipped f c then take? f (c == '#') (n + 1) acc cs
    else take? f false n (c :: acc) cs

/-- The digits at the start of a pattern, and what follows them. -/
def takeDigits (f : Flags) : Bool → List Char → List Char → List Char × List Char
  | _, acc, [] => (acc.reverse, [])
  | true, acc, c :: cs => takeDigits f (c != '\n') acc cs
  | false, acc, c :: cs =>
    if c.isDigit then takeDigits f false (c :: acc) cs
    else if isSkipped f c && !acc.isEmpty then takeDigits f (c == '#') acc cs
    else (acc.reverse, c :: cs)

/-! ## Sets -/

/-- The number that digits write in a base. -/
def numeral (base : Nat) (ds : List Char) : Nat :=
  ds.foldl (fun n d => n * base + (if d.isDigit then d.toNat - '0'.toNat
    else d.toLower.toNat - 'a'.toNat + 10)) 0

/-- A set in which case does not count, if it does not. -/
def foldSet (f : Flags) (s : CharSet) : CharSet :=
  if !f.ignoreCase then s
  else if f.unicode then s.foldCase
  else s.foldCase.inter (CharSet.range 0 0x7F)

/-- A set or its complement. Without the flag `u` a complement would hold bytes that are no
characters. -/
def negate? (f : Flags) (negated : Bool) (s : CharSet) : Option CharSet :=
  if !negated then some s
  else if f.unicode then some s.compl
  else none

def charSet (f : Flags) (c : Char) : CharSet :=
  if f.unicode || c.toNat < 128 then foldSet f (CharSet.single c) else CharSet.single c

def dotSet? (f : Flags) : Option CharSet :=
  if !f.unicode then none
  else if f.dotAll then some CharSet.all
  else if f.crlf then some (CharSet.ofChars "\r\n").compl
  else some (CharSet.ofChars "\n").compl

/-- The set of the digits, the blanks or the characters of words, by its letter. -/
def shortSet? (f : Flags) (c : Char) : Option CharSet :=
  let base? : Option CharSet := match c.toLower with
    | 'd' => some (if f.unicode then Category.decimalNumber.members else CharSet.range 0x30 0x39)
    | 's' => some (if f.unicode then Derived.whiteSpace.members else CharSet.ofRanges
        [(0x09, 0x0D), (0x20, 0x20)])
    | 'w' => some (if f.unicode then wordSet else asciiWordSet)
    | _ => none
  base?.bind (negate? f c.isUpper)

/-- The ranges of a set that is named between `[:` and `:]`. -/
def asciiSet? (name : String) : Option CharSet :=
  let upper := (0x41, 0x5A)
  let lower := (0x61, 0x7A)
  let digit := (0x30, 0x39)
  let rs? : Option (List (Nat × Nat)) := match name with
    | "alnum" => some [digit, upper, lower]
    | "alpha" => some [upper, lower]
    | "ascii" => some [(0, 0x7F)]
    | "blank" => some [(0x09, 0x09), (0x20, 0x20)]
    | "cntrl" => some [(0, 0x1F), (0x7F, 0x7F)]
    | "digit" => some [digit]
    | "graph" => some [(0x21, 0x7E)]
    | "lower" => some [lower]
    | "print" => some [(0x20, 0x7E)]
    | "punct" => some [(0x21, 0x2F), (0x3A, 0x40), (0x5B, 0x60), (0x7B, 0x7E)]
    | "space" => some [(0x09, 0x0D), (0x20, 0x20)]
    | "upper" => some [upper]
    | "word" => some [digit, upper, (0x5F, 0x5F), lower]
    | "xdigit" => some [digit, (0x41, 0x46), (0x61, 0x66)]
    | _ => none
  rs?.map CharSet.ofRanges

/-! ## Escapes -/

/-- One sign of a pattern. -/
inductive Sign
  | char (c : Char)
  | set (s : CharSet)
  | look (l : Look)
  deriving DecidableEq, Repr

/-- The characters that mean something in patterns. -/
def isMeta (c : Char) : Bool := "\\.+*?()|[]\x7b\x7d^$#&-~".toList.contains c

/-- Whether a backslash before a character makes it stand for itself. -/
def isEscapable (c : Char) : Bool :=
  isMeta c || (c.toNat < 128 && !c.isAlphanum && c != '<' && c != '>')

def charOf? (n : Nat) : Option Char := if n.isValidChar then some (Char.ofNat n) else none

/-- Whether a character is a hexadecimal digit. -/
def isHex (c : Char) : Bool := c.isDigit || ('a' ≤ c && c ≤ 'f') || ('A' ≤ c && c ≤ 'F')

/-- Reads a character by its number, behind `\x`, `\u` or `\U`: a fixed number of digits or any
number of them in braces. Without the flag `u`, two digits write a byte, which has to be ASCII. -/
def hexChar? (f : Flags) (digits : Nat) (cs : List Char) : Option (Char × List Char) := do
  match skip f cs with
  | '\x7b' :: cs =>
    let (ds, rest) ← upToBrace? f false [] cs
    if ds.isEmpty || !ds.all isHex then none
    else return (← charOf? (numeral 16 ds), rest)
  | cs =>
    let (ds, rest) ← take? f false digits [] cs
    if !ds.all isHex then none
    else
      let c ← charOf? (numeral 16 ds)
      if !f.unicode && digits == 2 && c.toNat ≥ 128 then none else return (c, rest)

/-- Cuts a text at the first place where a separator stands. -/
def cutAt? (sep : List Char) : List Char → List Char → Option (List Char × List Char)
  | _, [] => none
  | acc, c :: cs =>
    if sep.isPrefixOf (c :: cs) then some (acc.reverse, (c :: cs).drop sep.length)
    else cutAt? sep (c :: acc) cs

/-- The set of what is written in braces behind `\p`: a name, or the name of a property with a
value. -/
def classByName? (name : List Char) : Option CharSet :=
  match (cutAt? ['!', '='] [] name).orElse fun _ =>
      (cutAt? [':'] [] name).orElse fun _ => cutAt? ['='] [] name with
  | some (p, v) => Named.valued? p v
  | none => Named.set? name

/-- Reads the set behind `\p` or `\P`. -/
def propertySet? (f : Flags) (negated : Bool) (cs : List Char) : Option (CharSet × List Char) := do
  if !f.unicode then none
  let (s, rest) ← match skip f cs with
    | [] => none
    | '\x7b' :: cs =>
      let (name, rest) ← upToBrace? f false [] cs
      pure (← classByName? name, rest)
    | '\\' :: _ => none
    | c :: cs => pure (← Named.set? [c], cs)
  return (← negate? f negated (foldSet f s), rest)

/-- Reads what follows `\b`. A word in braces asks for one side of a word; braces that hold
something else are no part of it. -/
def wordLook? (f : Flags) (cs : List Char) : Option (WordLook × List Char) :=
  let isNameChar (c : Char) : Bool := c.isAlpha || c == '-'
  match cs with
  | '\x7b' :: inner =>
    match skip f inner with
    | [] => none
    | c :: _ =>
      if !isNameChar c then some (.edge, cs)
      else match upToBrace? f false [] inner with
        | none => none
        | some (name, rest) =>
          match String.ofList name with
          | "start" => some (.start, rest)
          | "end" => some (.stop, rest)
          | "start-half" => some (.startHalf, rest)
          | "end-half" => some (.stopHalf, rest)
          | _ => none
  | _ => some (.edge, cs)

/-- Reads the sign behind a backslash. -/
def escape? (f : Flags) : List Char → Option (Sign × List Char)
  | [] => none
  | c :: cs =>
    let word (k : WordLook) : Look := .word (!f.unicode) k
    match c with
    | 'x' => (hexChar? f 2 cs).map fun (c, r) => (.char c, r)
    | 'u' => (hexChar? f 4 cs).map fun (c, r) => (.char c, r)
    | 'U' => (hexChar? f 8 cs).map fun (c, r) => (.char c, r)
    | 'p' => (propertySet? f false cs).map fun (s, r) => (.set s, r)
    | 'P' => (propertySet? f true cs).map fun (s, r) => (.set s, r)
    | 'd' | 'D' | 's' | 'S' | 'w' | 'W' => (shortSet? f c).map fun s => (.set s, cs)
    | 'a' => some (.char '\x07', cs)
    | 'f' => some (.char '\x0c', cs)
    | 't' => some (.char '\t', cs)
    | 'n' => some (.char '\n', cs)
    | 'r' => some (.char '\r', cs)
    | 'v' => some (.char '\x0b', cs)
    | 'A' => some (.look .textStart, cs)
    | 'z' => some (.look .textEnd, cs)
    | 'b' => (wordLook? f cs).map fun (k, r) => (.look (word k), r)
    | 'B' => some (.look (word .inside), cs)
    | '<' => some (.look (word .start), cs)
    | '>' => some (.look (word .stop), cs)
    | _ => if isEscapable c then some (.char c, cs) else none

end Seph.Pattern
