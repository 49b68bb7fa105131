import Seph.Unicode.Row

/-!
# Sets of characters

A set of code points, as ranges in order that neither overlap nor touch.
-/

namespace Seph

/-- A set of code points. -/
structure CharSet where
  ranges : List (Nat × Nat)
  deriving DecidableEq, Repr

namespace CharSet

def top : Nat := 0x10FFFF

def empty : CharSet := ⟨[]⟩

def all : CharSet := ⟨[(0, top)]⟩

/-- The ranges, in order of their first code points, joined where they overlap or touch; `a` to `b`
is the range that is open. -/
def join (a b : Nat) : List (Nat × Nat) → List (Nat × Nat)
  | [] => [(a, b)]
  | (c, d) :: rs => if c ≤ b + 1 then join a (max b d) rs else (a, b) :: join c d rs

/-- The set of the code points in any of the ranges. -/
def ofRanges (rs : List (Nat × Nat)) : CharSet :=
  match rs.mergeSort fun p q => p.1 ≤ q.1 with
  | [] => empty
  | (a, b) :: rs => ⟨join a b rs⟩

def range (a b : Nat) : CharSet := ⟨[(a, b)]⟩

def single (c : Char) : CharSet := range c.toNat c.toNat

def has (s : CharSet) (n : Nat) : Bool := s.ranges.any fun r => r.1 ≤ n && n ≤ r.2

def contains (s : CharSet) (c : Char) : Bool := s.has c.toNat

def union (s t : CharSet) : CharSet := ofRanges (s.ranges ++ t.ranges)

def unions (l : List CharSet) : CharSet := ofRanges (l.flatMap ranges)

/-- The gaps between ranges, from `a` on. -/
def gaps (a : Nat) : List (Nat × Nat) → List (Nat × Nat)
  | [] => if a ≤ top then [(a, top)] else []
  | (c, d) :: rs => if a < c then (a, c - 1) :: gaps (d + 1) rs else gaps (d + 1) rs

def compl (s : CharSet) : CharSet := ⟨gaps 0 s.ranges⟩

def inter (s t : CharSet) : CharSet := (s.compl.union t.compl).compl

/-- What is in the first set alone. -/
def diff (s t : CharSet) : CharSet := s.inter t.compl

/-- What is in exactly one of the sets. -/
def symmDiff (s t : CharSet) : CharSet := (s.diff t).union (t.diff s)

def ofChars (s : String) : CharSet := ofRanges (s.toList.map fun c => (c.toNat, c.toNat))

def ofText (s : String) : CharSet :=
  ofRanges ((Row.ofText s).flatMap fun r =>
    if r.step ≤ 1 then [(r.first, r.last)]
    else (List.range r.size).map fun i => (r.first + i * r.step, r.first + i * r.step))

end CharSet
end Seph
