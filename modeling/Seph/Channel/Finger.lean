import Seph.Channel.Error
import Seph.Framing
import Seph.Text.Blank

/-!
# The finger channel

Each line is a list of numbers separated by commas, three for each touch: the point, and whether the
finger is down (any number but zero). Blanks around the line and around each number do not count.
-/

namespace Seph

/-- A touch or release of the finger at a point. -/
structure Touch where
  x : UInt16
  y : UInt16
  pressed : Bool
  deriving DecidableEq, Repr

namespace FingerChannel

/-- The pieces of a text between commas; a text without commas is one piece. -/
def fields : List Char → List (List Char)
  | [] => [[]]
  | c :: cs =>
    if c = ',' then [] :: fields cs
    else match fields cs with
      | [] => [[c]]
      | f :: fs => (c :: f) :: fs

/-- The touches that numbers stand for, if their count is a multiple of three. -/
def touches : List Nat → Option (List Touch)
  | [] => some []
  | x :: y :: p :: rest =>
    (touches rest).map (⟨UInt16.ofNat x, UInt16.ofNat y, p != 0⟩ :: ·)
  | _ => none

def command (line : String) : Except InputError (List Touch) :=
  match (fields (Text.trim line.toList)).mapM fun f => Decimal.parse 65535 (Text.trim f) with
  | .error fault => .error (.fingerNumber line fault)
  | .ok numbers =>
    match touches numbers with
    | none => .error (.fingerCount line)
    | some ts => .ok ts

def encode (ts : List Touch) : String :=
  ",".intercalate (ts.flatMap fun t =>
    [toString t.x.toNat, toString t.y.toNat, if t.pressed then "1" else "0"])

/-! ## Lines -/

/-- A line without the carriage return at its end. -/
def withoutReturn (line : Bytes) : Bytes :=
  if line.getLast? = some 0x0D then line.dropLast else line

/-- The line at the start of the bytes, and the bytes behind its newline. -/
def takeLine? (bs : Bytes) : Option (Except Empty Bytes × Bytes) :=
  match bs.idxOf? 0x0A with
  | none => none
  | some i => some (.ok (withoutReturn (bs.take i)), bs.drop (i + 1))

theorem takeLine?_shorter {bs : Bytes} {r : Except Empty Bytes} {rest : Bytes}
    (h : takeLine? bs = some (r, rest)) : rest.length < bs.length := by
  unfold takeLine? at h
  split at h
  · cases h
  · rename_i i hi
    cases h
    have hb : bs ≠ [] := by rintro rfl; simp at hi
    have := List.length_pos_iff.2 hb
    simp only [List.length_drop]
    omega

def lines : Framing Empty Bytes := ⟨takeLine?, takeLine?_shorter⟩

end FingerChannel
end Seph
