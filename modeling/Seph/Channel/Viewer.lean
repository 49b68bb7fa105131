import Seph.Channel.Error
import Seph.Display.Framebuffer
import Seph.Framing

/-!
# The viewer link

A remote viewer shows the screen and sends input. Each changed pixel is sent to it as a record of
nine bytes, and its input comes in records of six bytes. In both, numbers have their low byte first.
-/

namespace Seph.Viewer

/-- The byte that ends the record of a pixel. -/
def recordEnd : UInt8 := 0x0A

/-- The record of a pixel: row, column, colour, end. -/
def encodePixel (p : Pixel) : Bytes :=
  Word.toLE 2 p.y ++ Word.toLE 2 p.x ++ Word.le32 p.color ++ [recordEnd]

/-- What a viewer may send. -/
inductive Input
  | pointer (x y : UInt16) (pressed : Bool)
  | button (b : Button) (pressed : Bool)
  deriving DecidableEq, Repr

namespace Input

def size : Nat := 6

/-- The input of a record with a point, a byte that says whether the pointer or the button is
pressed, and a key: none, or a letter for the button. -/
def decode (a b c d pressed key : UInt8) : Except InputError Input :=
  let pressed := pressed != 0
  if key = 0 then .ok (.pointer (Word.ofLE16 a b) (Word.ofLE16 c d) pressed)
  else if key = 'L'.toUInt8 then .ok (.button .left pressed)
  else if key = 'R'.toUInt8 then .ok (.button .right pressed)
  else .error (.unknownKey key)

/-- The record at the start of the bytes, and the bytes behind it. A record that stands for nothing
does not stop the stream. -/
def take? : Bytes → Option (Except Empty (Except InputError Input) × Bytes)
  | a :: b :: c :: d :: pressed :: key :: rest => some (.ok (decode a b c d pressed key), rest)
  | _ => none

theorem take?_shorter {bs : Bytes} {r : Except Empty (Except InputError Input)} {rest : Bytes}
    (h : take? bs = some (r, rest)) : rest.length < bs.length := by
  unfold take? at h
  split at h
  · cases h
    simp only [List.length_cons]
    omega
  · cases h

def stream : Framing Empty (Except InputError Input) := ⟨take?, take?_shorter⟩

end Input
end Seph.Viewer
