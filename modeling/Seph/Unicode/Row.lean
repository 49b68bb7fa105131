/-!
# Tables of code points

Tables of characters are kept as text. A row is one code point, a range `first-last`, or every
`step`-th code point of a range, `first-last/step`, in hexadecimal; a row of a mapping adds the
image of the first code point, `first-last/step:target`. Rows stand between blanks.
-/

namespace Seph

/-- A row of a table: the code points `first`, `first + step`, … up to `last`. -/
structure Row where
  first : Nat
  last : Nat
  step : Nat
  target : Nat
  deriving DecidableEq, Repr

namespace Row

/-- The number that is being read. -/
inductive Slot
  | first
  | last
  | step
  | target
  deriving DecidableEq, Repr

/-- The value of a hexadecimal digit. -/
def digit (c : Char) : Nat := if c ≤ '9' then c.toNat - '0'.toNat else c.toNat - 'A'.toNat + 10

def push (r : Row) (slot : Slot) (d : Nat) : Row :=
  match slot with
  | .first => ⟨r.first * 16 + d, r.first * 16 + d, 1, 0⟩
  | .last => { r with last := r.last * 16 + d }
  | .step => { r with step := r.step * 16 + d }
  | .target => { r with target := r.target * 16 + d }

/-- Reads rows; `open?` is the row that has begun. -/
def read : List Char → Option (Row × Slot) → List Row → List Row
  | [], none, done => done.reverse
  | [], some (r, _), done => (r :: done).reverse
  | c :: cs, none, done =>
    if c.isWhitespace then read cs none done
    else read cs (some (push ⟨0, 0, 1, 0⟩ .first (digit c), .first)) done
  | c :: cs, some (r, slot), done =>
    if c.isWhitespace then read cs none (r :: done)
    else if c = '-' then read cs (some ({ r with last := 0 }, .last)) done
    else if c = '/' then read cs (some ({ r with step := 0 }, .step)) done
    else if c = ':' then read cs (some (r, .target)) done
    else read cs (some (r.push slot (digit c), slot)) done

def ofText (s : String) : List Row := read s.toList none []

/-- The number of code points in a row. -/
def size (r : Row) : Nat := if r.step = 0 then 1 else (r.last - r.first) / r.step + 1

end Row
end Seph
