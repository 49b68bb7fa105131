import Seph.Json.Token

/-!
# JSON values

The value that the tokens of a JSON text write. Where the text is not well formed, the value
`broken` stands in place of what could not be read, and everything that is open there ends with
it; so a reader that takes a value apart in the order of the text meets what is wrong in the order
of the text.
-/

namespace Seph.Json

/-- A value. The fields of a record keep their order and their repetitions. -/
inductive Value
  | null
  | bool (b : Bool)
  /-- A number that is written as a natural number below `2 ^ 64`. -/
  | nat (n : Nat)
  /-- Any other number. -/
  | number
  | text (s : String)
  | list (l : List Value)
  | record (l : List (String × Value))
  /-- The text is not well formed here. -/
  | broken
  deriving Repr

namespace Value

mutual

/-- Whether nothing in a value is broken. -/
def isWhole : Value → Bool
  | list l => allWhole l
  | record l => fieldsWhole l
  | broken => false
  | _ => true

/-- Whether nothing in a list is broken. -/
def allWhole : List Value → Bool
  | [] => true
  | v :: vs => isWhole v && allWhole vs

/-- Whether nothing in the fields of a record is broken. -/
def fieldsWhole : List (String × Value) → Bool
  | [] => true
  | (_, v) :: fs => isWhole v && fieldsWhole fs

end

end Value

/-- A list or record that is open, with what has been read of it, the last one first. A record also
has the name of the field that comes. -/
inductive Frame
  | list (done : List Value)
  | record (done : List (String × Value)) (name : String)
  deriving Repr

/-- A list or record that ends with a last value. -/
def Frame.close : Frame → Value → Value
  | list done, v => .list (v :: done).reverse
  | record done name, v => .record ((name, v) :: done).reverse

/-- What may come next. -/
inductive Next
  | value
  /-- A value or the end of the list that was just opened. -/
  | valueOrEnd
  /-- The name of a field or the end of the record that was just opened. -/
  | nameOrEnd
  | name
  | colon
  /-- A comma, or the end of what is open. -/
  | rest
  deriving DecidableEq, Repr

/-- The deepest nesting of lists and records that is accepted. -/
def maxDepth : Nat := 127

/-- The value that ends with what is broken. -/
def breakOff (stack : List Frame) : Value := stack.foldl (fun v f => f.close v) .broken

/-- Reads a value from tokens; gives it with the tokens behind it. -/
def read : List Frame → Next → List Token → Value × List Token
  | stack, _, [] => (breakOff stack, [])
  | stack, next, t :: ts =>
    let placed (outer : List Frame) (v : Value) : Value × List Token :=
      match outer with
      | [] => (v, ts)
      | .list done :: outer => read (.list (v :: done) :: outer) .rest ts
      | .record done name :: outer => read (.record ((name, v) :: done) "" :: outer) .rest ts
    let opened (f : Frame) (next : Next) : Value × List Token :=
      if stack.length < maxDepth then read (f :: stack) next ts else (breakOff stack, ts)
    match next, t, stack with
    | .value, .null, _ | .valueOrEnd, .null, _ => placed stack .null
    | .value, .bool b, _ | .valueOrEnd, .bool b, _ => placed stack (.bool b)
    | .value, .nat n, _ | .valueOrEnd, .nat n, _ => placed stack (.nat n)
    | .value, .number, _ | .valueOrEnd, .number, _ => placed stack .number
    | .value, .text s, _ | .valueOrEnd, .text s, _ => placed stack (.text (String.ofList s))
    | .value, .openList, _ | .valueOrEnd, .openList, _ => opened (.list []) .valueOrEnd
    | .value, .openRecord, _ | .valueOrEnd, .openRecord, _ => opened (.record [] "") .nameOrEnd
    | .valueOrEnd, .closeList, .list done :: outer => placed outer (.list done.reverse)
    | .nameOrEnd, .closeRecord, .record done _ :: outer => placed outer (.record done.reverse)
    | .name, .text s, .record done _ :: outer
    | .nameOrEnd, .text s, .record done _ :: outer =>
      read (.record done (String.ofList s) :: outer) .colon ts
    | .colon, .colon, _ => read stack .value ts
    | .rest, .comma, .list _ :: _ => read stack .value ts
    | .rest, .comma, .record _ _ :: _ => read stack .name ts
    | .rest, .closeList, .list done :: outer => placed outer (.list done.reverse)
    | .rest, .closeRecord, .record done _ :: outer => placed outer (.record done.reverse)
    | _, _, _ => (breakOff stack, ts)

/-- The value of a text, and whether anything follows it. -/
def Value.ofText (s : String) : Value × Bool :=
  let (v, rest) := read [] .value (tokens s.toList)
  (v, !rest.isEmpty)

end Seph.Json
