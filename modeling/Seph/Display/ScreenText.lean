import Seph.Display.Font

/-!
# Text on the screen

Characters that are drawn next to each other on one line are read as one text. The texts read since
the last refresh are kept with the latest in front; `events` lists them in the order of reading.
-/

namespace Seph

/-- A text on the screen and the box around it. -/
structure TextEvent where
  text : String
  x : UInt16
  y : UInt16
  width : UInt16
  height : UInt16
  /-- The first text after the whole screen was cleared. -/
  clear : Bool
  deriving DecidableEq, Repr

namespace TextEvent

/-- The column behind the box. -/
def right (e : TextEvent) : Nat := e.x.toNat + e.width.toNat

/-- The row below the box. -/
def bottom (e : TextEvent) : Nat := e.y.toNat + e.height.toNat

/-- A character in the given box goes on a text if it is not left of it, the gap between them is
below `maxGap`, and they share a row. -/
def continuedBy (e : TextEvent) (maxGap : Nat) (x y h : UInt16) : Bool :=
  e.x ≤ x && x.toNat < e.right + maxGap && y.toNat < e.bottom &&
    e.y.toNat < y.toNat + h.toNat

/-- The text with one more character, in the smallest box around both; sizes are taken modulo
`2 ^ 16`. -/
def extend (e : TextEvent) (c : Char) (x y w h : UInt16) : TextEvent :=
  let right := max e.right (x.toNat + w.toNat)
  let top := min e.y y
  let bottom := max e.bottom (y.toNat + h.toNat)
  { e with
    text := e.text.push c
    width := UInt16.ofNat (right - e.x.toNat)
    y := top
    height := UInt16.ofNat (bottom - top.toNat) }

end TextEvent

/-- The texts read since they were last taken. -/
structure ScreenText where
  /-- The gap from which on two characters are not one text. -/
  maxGap : Nat
  /-- The texts read, the latest first. -/
  latest : List TextEvent
  /-- The screen was cleared after the latest text. -/
  cleared : Bool
  deriving DecidableEq, Repr

namespace ScreenText

def empty (maxGap : Nat) : ScreenText := ⟨maxGap, [], false⟩

/-- The texts in the order of reading. -/
def events (s : ScreenText) : List TextEvent := s.latest.reverse

/-- Notes that the whole screen was cleared. -/
def clearScreen (s : ScreenText) : ScreenText := { s with cleared := true }

/-- Adds a whole text; the first one after a clearing is marked. -/
def addEvent (s : ScreenText) (e : TextEvent) : ScreenText :=
  { s with latest := { e with clear := e.clear || s.cleared } :: s.latest, cleared := false }

/-- Adds a character, to the latest text if it goes on that text. -/
def addChar (s : ScreenText) (c : Char) (x y w h : UInt16) : ScreenText :=
  match s.latest with
  | e :: older =>
    if e.continuedBy s.maxGap x y h then { s with latest := e.extend c x y w h :: older }
    else s.addEvent ⟨c.toString, x, y, w, h, false⟩
  | [] => s.addEvent ⟨c.toString, x, y, w, h, false⟩

def take (s : ScreenText) : List TextEvent × ScreenText := (s.events, { s with latest := [] })

end ScreenText

/-! ## Recognition -/

namespace Glyph

/-- The bytes without the zeros at their end. -/
def trimZeros (bs : Bytes) : Bytes := (bs.reverse.dropWhile (· == 0)).reverse

/-- The characters of the built-in fonts whose glyph has the given size and starts with the given
bytes. -/
def candidates (bitmap : Bytes) (w h : Nat) : List Char :=
  (Font.builtin.flatMap Font.entries).filterMap fun (c, g) =>
    if g.width = w ∧ g.height = h ∧ bitmap.isPrefixOf g.bitmap then some c else none

/-- The character that a bitmap shows. Zero bytes at the end are ignored, a bitmap without any other
byte is a space, and of several characters the greatest is taken. -/
def recognize (bitmap : Bytes) (w h : Nat) : Option Char :=
  let bitmap := trimZeros bitmap
  if bitmap.isEmpty then some ' '
  else (candidates bitmap w h).foldl
    (fun best c => match best with
      | some b => if b < c then some c else best
      | none => some c) none

end Glyph

namespace ScreenText

/-- Adds the character that a bitmap shows, if there is one. -/
def addBitmap (s : ScreenText) (bitmap : Bytes) (x y w h : UInt16) : Option ScreenText :=
  (Glyph.recognize bitmap w.toNat h.toNat).map fun c => s.addChar c x y w h

end ScreenText
end Seph
