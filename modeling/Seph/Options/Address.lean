import Seph.Text.Hex

/-!
# Network addresses

The two kinds of address and their texts. The longer kind is written in eight groups; the first of
the longest runs of at least two zero groups is left out, and the last two groups may be written like
an address of the shorter kind.
-/

namespace Seph

/-- A network address. -/
inductive Address
  | v4 (a b c d : UInt8)
  | v6 (groups : Vector UInt16 8)
  deriving DecidableEq, Repr

namespace Address

/-- The address of the machine itself. -/
def loopback : Address := v4 127 0 0 1

/-! ## Reading -/

/-- The value of a digit in bases up to sixteen. -/
def digit? (base : Nat) (c : Char) : Option Nat :=
  let n :=
    if '0' ≤ c ∧ c ≤ '9' then c.toNat - '0'.toNat
    else if 'a' ≤ c ∧ c ≤ 'f' then c.toNat - 'a'.toNat + 10
    else if 'A' ≤ c ∧ c ≤ 'F' then c.toNat - 'A'.toNat + 10
    else base
  if n < base then some n else none

/-- The numeral at the start of a text, of all the digits there but at most `width`. -/
def numeral? (base width : Nat) (cs : List Char) : Option (List Nat × List Char) :=
  let ds := (cs.takeWhile fun c => (digit? base c).isSome).filterMap (digit? base)
  if ds.isEmpty ∨ ds.length > width then none else some (ds, cs.drop ds.length)

def ofDigits (base : Nat) (ds : List Nat) : Nat := ds.foldl (fun n d => n * base + d) 0

/-- A part of a short address: a decimal number below 256 without a superfluous zero. -/
def octet? (cs : List Char) : Option (UInt8 × List Char) :=
  match numeral? 10 3 cs with
  | none => none
  | some (ds, rest) =>
    let n := ofDigits 10 ds
    if n > 255 ∨ (ds.head? = some 0 ∧ ds.length > 1) then none else some (UInt8.ofNat n, rest)

/-- A part of a short address behind a point. -/
def pointOctet? : List Char → Option (UInt8 × List Char)
  | '.' :: cs => octet? cs
  | _ => none

/-- The short address at the start of a text. -/
def short? (cs : List Char) : Option ((UInt8 × UInt8 × UInt8 × UInt8) × List Char) := do
  let (a, cs) ← octet? cs
  let (b, cs) ← pointOctet? cs
  let (c, cs) ← pointOctet? cs
  let (d, cs) ← pointOctet? cs
  return ((a, b, c, d), cs)

/-- The text behind the separator of groups; the first group has none before it. -/
def separated? (first : Bool) (cs : List Char) : Option (List Char) :=
  if first then some cs
  else match cs with
    | ':' :: cs => some cs
    | _ => none

def group (a b : UInt8) : UInt16 := UInt16.ofNat (a.toNat * 256 + b.toNat)

/-- Up to `n` groups at the start of a text, whether a short address ends them, and the rest. -/
def groups : Nat → Bool → List Char → List UInt16 × Bool × List Char
  | 0, _, cs => ([], false, cs)
  | n + 1, first, cs =>
    match separated? first cs with
    | none => ([], false, cs)
    | some rest =>
      match if n = 0 then none else short? rest with
      | some ((a, b, c, d), rest) => ([group a b, group c d], true, rest)
      | none =>
        match numeral? 16 4 rest with
        | none => ([], false, cs)
        | some (ds, rest) =>
          let (gs, ended, rest) := groups n false rest
          (UInt16.ofNat (ofDigits 16 ds) :: gs, ended, rest)

/-- The long address with given groups. -/
def ofGroups? (gs : List UInt16) : Option Address :=
  if h : gs.toArray.size = 8 then some (v6 ⟨gs.toArray, h⟩) else none

/-- The long address that a text is. -/
def long? (cs : List Char) : Option Address :=
  match groups 8 true cs with
  | (front, ended, rest) =>
    if front.length = 8 then (if rest.isEmpty then ofGroups? front else none)
    else if ended then none
    else match rest with
      | ':' :: ':' :: rest =>
        match groups (7 - front.length) true rest with
        | (back, _, []) =>
          ofGroups? (front ++ List.replicate (8 - front.length - back.length) 0 ++ back)
        | _ => none
      | _ => none

def ofText? (s : String) : Option Address :=
  match short? s.toList with
  | some ((a, b, c, d), []) => some (v4 a b c d)
  | _ => long? s.toList

/-! ## Writing -/

def shortText (a b c d : UInt8) : String :=
  ".".intercalate ([a, b, c, d].map fun n => toString n.toNat)

/-- The texts of groups between colons. -/
def groupsText (gs : List UInt16) : String :=
  ":".intercalate (gs.map fun g => Hex.pad 1 g.toNat)

/-- The first of the longest runs of zero groups: its place and its length. -/
def zeroRun (gs : List UInt16) : Nat × Nat :=
  let runs := (List.range gs.length).map fun i => (i, ((gs.drop i).takeWhile (· = 0)).length)
  runs.foldl (fun best r => if r.2 > best.2 then r else best) (0, 0)

def text : Address → String
  | v4 a b c d => shortText a b c d
  | v6 groups =>
    match groups.toList with
    | [0, 0, 0, 0, 0, 0xFFFF, m, n] =>
      "::ffff:" ++ shortText (m >>> 8).toUInt8 m.toUInt8 (n >>> 8).toUInt8 n.toUInt8
    | gs =>
      let (i, n) := zeroRun gs
      if n > 1 then groupsText (gs.take i) ++ "::" ++ groupsText (gs.drop (i + n))
      else groupsText gs

end Address
end Seph
