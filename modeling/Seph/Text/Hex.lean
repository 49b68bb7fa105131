/-!
# Hexadecimal numerals

Lower-case hexadecimal with a least number of digits, as error texts and log lines write bytes.
-/

namespace Seph.Hex

/-- The digit of a number below sixteen. -/
def digit (n : Nat) : Char := "0123456789abcdef".toList.getD n '0'

/-- The hexadecimal digits of `n`, at least `width` of them. -/
def pad (width n : Nat) : String :=
  let ds := Nat.toDigits 16 n
  String.ofList (List.replicate (width - ds.length) '0' ++ ds)

def byte (b : UInt8) : String := pad 2 b.toNat

/-- A list of bytes in square brackets, separated by a comma and a space. -/
def list (bs : List UInt8) : String :=
  "[" ++ ", ".intercalate (bs.map byte) ++ "]"

end Seph.Hex
