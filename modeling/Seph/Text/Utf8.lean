import Seph.Bytes

/-!
# Reading UTF-8 with repairs

Bytes that are not UTF-8 still have to be shown. Each maximal part that starts like a character and
cannot go on is replaced by one U+FFFD, and reading goes on behind it.
-/

namespace Seph.Utf8

/-- The character shown for a part that is not UTF-8. -/
def replacement : Char := '\uFFFD'

/-- Is the byte a continuation byte? -/
def isTail (b : UInt8) : Bool := 0x80 ≤ b && b ≤ 0xBF

/-- The bytes that may follow `lead` in a character of three bytes: they rule out overlong forms and
surrogates. -/
def secondOfThree (lead b : UInt8) : Bool :=
  if lead = 0xE0 then 0xA0 ≤ b && b ≤ 0xBF
  else if lead = 0xED then 0x80 ≤ b && b ≤ 0x9F
  else isTail b

/-- The bytes that may follow `lead` in a character of four bytes: they rule out overlong forms and
numbers beyond the last character. -/
def secondOfFour (lead b : UInt8) : Bool :=
  if lead = 0xF0 then 0x90 ≤ b && b ≤ 0xBF
  else if lead = 0xF4 then 0x80 ≤ b && b ≤ 0x8F
  else isTail b

/-- The low six bits of a continuation byte. -/
def low (b : UInt8) : Nat := b.toNat % 64

/-- The first character of the bytes after `lead` (or the replacement), and the number of bytes that
it takes behind `lead`. -/
def readChar (lead : UInt8) (rest : Bytes) : Char × Nat :=
  if lead < 0x80 then (Char.ofNat lead.toNat, 0)
  else if 0xC2 ≤ lead && lead ≤ 0xDF then
    match rest with
    | b :: _ =>
      if isTail b then (Char.ofNat (lead.toNat % 32 * 64 + low b), 1) else (replacement, 0)
    | [] => (replacement, 0)
  else if 0xE0 ≤ lead && lead ≤ 0xEF then
    match rest with
    | b :: c :: _ =>
      if !secondOfThree lead b then (replacement, 0)
      else if !isTail c then (replacement, 1)
      else (Char.ofNat ((lead.toNat % 16 * 64 + low b) * 64 + low c), 2)
    | [b] => (replacement, if secondOfThree lead b then 1 else 0)
    | [] => (replacement, 0)
  else if 0xF0 ≤ lead && lead ≤ 0xF4 then
    match rest with
    | b :: rest =>
      if !secondOfFour lead b then (replacement, 0)
      else match rest with
        | c :: rest =>
          if !isTail c then (replacement, 1)
          else match rest with
            | d :: _ =>
              if !isTail d then (replacement, 2)
              else (Char.ofNat
                (((lead.toNat % 8 * 64 + low b) * 64 + low c) * 64 + low d), 3)
            | [] => (replacement, 2)
        | [] => (replacement, 1)
    | [] => (replacement, 0)
  else (replacement, 0)

/-- The characters of the bytes, with repairs, behind those in `acc` (which is in reverse). -/
def charsFrom (acc : List Char) : Bytes → List Char
  | [] => acc.reverse
  | lead :: rest =>
    let (c, n) := readChar lead rest
    charsFrom (c :: acc) (rest.drop n)
termination_by bs => bs.length
decreasing_by simp only [List.length_drop, List.length_cons]; omega

/-- The text that the bytes spell, with repairs. -/
def repair (bs : Bytes) : String := String.ofList (charsFrom [] bs)

/-- The characters of the bytes if they are UTF-8 throughout. -/
def decode? (bs : Bytes) : Option String :=
  String.fromUTF8? ⟨bs.toArray⟩

def encode (s : String) : Bytes := s.toUTF8.toList

end Seph.Utf8
