/-!
# Decimal numerals

Numerals of ASCII digits, optionally behind one plus sign, for numbers up to a bound. A numeral is
read from the left and the first fault counts: a character that is no digit, or the digit with which
the number exceeds the bound.
-/

namespace Seph.Decimal

/-- Why a text is not the numeral of a number within the bound. -/
inductive Fault
  | empty
  | badDigit
  | tooLarge
  deriving DecidableEq, Repr

def Fault.message : Fault → String
  | empty => "cannot parse integer from empty string"
  | badDigit => "invalid digit found in string"
  | tooLarge => "number too large to fit in target type"

def digit? (c : Char) : Option Nat :=
  if '0' ≤ c ∧ c ≤ '9' then some (c.toNat - '0'.toNat) else none

/-- The number whose digits are those of `n` followed by the given ones. -/
def digits (bound n : Nat) : List Char → Except Fault Nat
  | [] => .ok n
  | c :: cs =>
    match digit? c with
    | none => .error .badDigit
    | some d => if 10 * n + d > bound then .error .tooLarge else digits bound (10 * n + d) cs

/-- The number that a text stands for, if it is at most `bound`. -/
def parse (bound : Nat) : List Char → Except Fault Nat
  | [] => .error .empty
  | '+' :: cs => if cs.isEmpty then .error .badDigit else digits bound 0 cs
  | cs => digits bound 0 cs

/-- The number that a text stands for, where a minus sign is understood as well. -/
def parseSigned? (bound : Nat) : List Char → Option Int
  | '-' :: cs => if cs.isEmpty then none else (digits bound 0 cs).toOption.map fun n => -(n : Int)
  | cs => (parse bound cs).toOption.map Int.ofNat

end Seph.Decimal
