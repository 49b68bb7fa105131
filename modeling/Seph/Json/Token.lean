/-!
# JSON tokens

The tokens of a JSON text. A text is cut into tokens up to the first place where there is none;
there the token `bad` stands, and nothing follows it.
-/

namespace Seph.Json

/-- A token. -/
inductive Token
  | openList
  | closeList
  | openRecord
  | closeRecord
  | colon
  | comma
  | null
  | bool (b : Bool)
  /-- A number without sign, point and exponent, below `2 ^ 64`. -/
  | nat (n : Nat)
  /-- Any other number. -/
  | number
  | text (s : List Char)
  | bad
  deriving DecidableEq, Repr

/-! ## Numbers -/

def decimal (ds : List Char) : Nat := ds.foldl (fun n d => 10 * n + (d.toNat - '0'.toNat)) 0

/-- The digits at the start of a text, and what follows them. -/
def digits (cs : List Char) : List Char × List Char := cs.span Char.isDigit

/-- Whether `m * 10 ^ e` is as large as the first number beyond the range of double precision, with
rounding: `2 ^ 1024 - 2 ^ 970`. -/
def isOutOfRange (m : Nat) (e : Int) : Bool :=
  let bound := Nat.pow 2 1024 - Nat.pow 2 970
  if m = 0 then false
  else if e > 400 then true
  else if e ≥ 0 then m * Nat.pow 10 e.toNat ≥ bound
  else if Nat.log2 m < (-e).toNat then false
  else m ≥ bound * Nat.pow 10 (-e).toNat

/-- The exponent of a number and what follows it; `none` if it lacks digits. -/
def exponent? : List Char → Option (Int × List Char)
  | c :: cs =>
    if c = 'e' ∨ c = 'E' then
      let (negative, cs) := match cs with
        | '-' :: cs => (true, cs)
        | '+' :: cs => (false, cs)
        | cs => (false, cs)
      let (ds, rest) := digits cs
      if ds.isEmpty then none
      else some (if negative then -(decimal ds : Int) else decimal ds, rest)
    else some (0, c :: cs)
  | [] => some (0, [])

/-- The digits behind a decimal point and what follows them; `none` if there is a point and no
digit. -/
def fraction? : List Char → Option (List Char × List Char)
  | '.' :: cs =>
    let (ds, rest) := digits cs
    if ds.isEmpty then none else some (ds, rest)
  | cs => some ([], cs)

/-- The token of a numeral: an integer without leading zeros, with a fraction and an exponent if
there is need. -/
def ofNumeral (cs : List Char) : Token :=
  let (negative, cs) := match cs with
    | '-' :: cs => (true, cs)
    | cs => (false, cs)
  let (whole, afterWhole) := digits cs
  if whole.isEmpty || (whole.length > 1 && whole.head? == some '0') then .bad
  else match fraction? afterWhole with
    | none => .bad
    | some (part, afterPart) =>
      match exponent? afterPart with
      | some (e, []) =>
        if isOutOfRange (decimal (whole ++ part)) (e - part.length) then .bad
        else if negative || !afterWhole.isEmpty then .number
        else if decimal whole < UInt64.size then .nat (decimal whole) else .number
      | _ => .bad

/-- Whether a character can stand in a numeral. -/
def isNumeral (c : Char) : Bool :=
  c.isDigit || c == '-' || c == '+' || c == '.' || c == 'e' || c == 'E'

/-! ## Texts -/

/-- The value of a hexadecimal digit. -/
def hexDigit? (c : Char) : Option Nat :=
  if '0' ≤ c ∧ c ≤ '9' then some (c.toNat - '0'.toNat)
  else if 'a' ≤ c ∧ c ≤ 'f' then some (c.toNat - 'a'.toNat + 10)
  else if 'A' ≤ c ∧ c ≤ 'F' then some (c.toNat - 'A'.toNat + 10)
  else none

/-- The number that four hexadecimal digits write. -/
def hex4? (a b c d : Char) : Option Nat := do
  return (((← hexDigit? a) * 16 + (← hexDigit? b)) * 16 + (← hexDigit? c)) * 16 + (← hexDigit? d)

/-- The character behind a backslash that stands for one character. -/
def escaped? (c : Char) : Option Char :=
  match c with
  | '"' => some '"'
  | '\\' => some '\\'
  | '/' => some '/'
  | 'b' => some '\x08'
  | 'f' => some '\x0c'
  | 'n' => some '\n'
  | 'r' => some '\r'
  | 't' => some '\t'
  | _ => none

/-- Whether a UTF-16 unit is the first of a pair. -/
def isFirstOfPair (n : Nat) : Bool := 0xD800 ≤ n && n < 0xDC00

/-- Whether a UTF-16 unit is the second of a pair. -/
def isSecondOfPair (n : Nat) : Bool := 0xDC00 ≤ n && n < 0xE000

/-- Reads a text up to its closing quote. Characters beyond the first plane are escaped as a pair of
UTF-16 units; half a pair is refused. -/
def text? : List Char → List Char → Option (List Char × List Char)
  | acc, '"' :: cs => some (acc.reverse, cs)
  | acc, '\\' :: 'u' :: a :: b :: c :: d :: '\\' :: 'u' :: a2 :: b2 :: c2 :: d2 :: cs =>
    match hex4? a b c d with
    | none => none
    | some n =>
      if isFirstOfPair n then
        match hex4? a2 b2 c2 d2 with
        | some m =>
          if isSecondOfPair m then
            text? (Char.ofNat (0x10000 + (n - 0xD800) * 0x400 + (m - 0xDC00)) :: acc) cs
          else none
        | none => none
      else if isSecondOfPair n then none
      else text? (Char.ofNat n :: acc) ('\\' :: 'u' :: a2 :: b2 :: c2 :: d2 :: cs)
  | acc, '\\' :: 'u' :: a :: b :: c :: d :: cs =>
    match hex4? a b c d with
    | none => none
    | some n =>
      if isFirstOfPair n || isSecondOfPair n then none else text? (Char.ofNat n :: acc) cs
  | acc, '\\' :: c :: cs =>
    match escaped? c with
    | some c => text? (c :: acc) cs
    | none => none
  | acc, c :: cs => if c.toNat < 0x20 ∨ c = '\\' then none else text? (c :: acc) cs
  | _, [] => none

theorem length_of_text? {acc cs : List Char} {s r : List Char} (h : text? acc cs = some (s, r)) :
    r.length < cs.length := by
  fun_induction text? acc cs with
  | case1 acc cs =>
    simp only [Option.some.injEq, Prod.mk.injEq] at h
    simp [← h.2]
  | case3 | case7 | case10 | case11 | case14 =>
    rename_i ih
    have := ih h
    simp only [List.length_cons] at this ⊢
    omega
  | _ => simp at h

/-! ## Tokens -/

/-- Whether a character may stand between tokens. -/
def isSpace (c : Char) : Bool := c == ' ' || c == '\n' || c == '\r' || c == '\t'

def tokens (cs : List Char) : List Token :=
  match cs with
  | [] => []
  | '[' :: cs => .openList :: tokens cs
  | ']' :: cs => .closeList :: tokens cs
  | '\x7b' :: cs => .openRecord :: tokens cs
  | '\x7d' :: cs => .closeRecord :: tokens cs
  | ':' :: cs => .colon :: tokens cs
  | ',' :: cs => .comma :: tokens cs
  | 'n' :: 'u' :: 'l' :: 'l' :: cs => .null :: tokens cs
  | 't' :: 'r' :: 'u' :: 'e' :: cs => .bool true :: tokens cs
  | 'f' :: 'a' :: 'l' :: 's' :: 'e' :: cs => .bool false :: tokens cs
  | '"' :: cs =>
    match _h : text? [] cs with
    | some (s, rest) => .text s :: tokens rest
    | none => [.bad]
  | c :: cs =>
    if isSpace c then tokens cs
    else if c.isDigit ∨ c = '-' then
      match ofNumeral (c :: cs.takeWhile isNumeral) with
      | .bad => [.bad]
      | t => t :: tokens (cs.dropWhile isNumeral)
    else [.bad]
termination_by cs.length
decreasing_by
  all_goals simp_wf
  all_goals try omega
  · have := length_of_text? _h
    omega
  · have := (List.dropWhile_suffix (l := cs) isNumeral).length_le
    omega

end Seph.Json
