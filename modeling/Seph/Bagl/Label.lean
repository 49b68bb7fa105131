import Seph.Bagl.Payload
import Seph.Bagl.Shape
import Seph.Display.ScreenText

/-!
# Labels

One line of text. Bytes from `0x80` to `0xBF` are symbols, bytes from `0xC0` on leave as many blank
columns as their six low bits say, and all others are characters of the label's font.
-/

namespace Seph.Bagl

/-- A line of text in a font. -/
structure Label where
  font : Font
  bytes : Bytes

namespace Label

/-- The label that the context of a component is. -/
def ofContext (fontId : UInt16) (ctx : Bytes) : Label := ⟨Font.ofId fontId.toNat, contextBytes ctx⟩

/-- What a byte of a label shows. -/
def glyph? (l : Label) (b : UInt8) : Option Glyph :=
  if b ≥ 0xC0 then none
  else if b ≥ 0x80 then Font.symbols.glyph? (Char.ofNat b.toNat)
  else l.font.glyph? (Char.ofNat b.toNat)

/-- The columns that a byte of a label takes. -/
def advance (l : Label) (b : UInt8) : Nat :=
  if b ≥ 0xC0 then b.toNat % 64 else (l.glyph? b).elim 0 Glyph.width

/-- The columns that the label takes. -/
def width (l : Label) : Nat := l.bytes.foldl (fun n b => n + l.advance b) 0

/-- The printable characters of the label. -/
def text (l : Label) : String :=
  String.ofList ((l.bytes.filter fun b => 0x20 ≤ b && b < 0x7F).map fun b => Char.ofNat b.toNat)

/-- Nothing is to be read but spaces. -/
def isBlank (l : Label) : Bool := l.text.toList.all (· == ' ')

/-- Draws the label with its corner at `(x, y)`. -/
def draw (l : Label) (fb : Framebuffer) (x y : Int) (fg bg : Color) : Framebuffer :=
  (l.bytes.foldl (fun (fb, x) b =>
    (match l.glyph? b with
      | some g => drawGlyph fb g x y fg bg
      | none => fb, x + l.advance b)) (fb, x)).1

/-- The column at which the label of a component starts. -/
def startX (l : Label) (c : Component) : Int :=
  let x := c.x.toInt
  let room : Int := c.width.toNat - l.width
  match c.hAlign with
  | .left => x
  | .right => x + room
  | .center => x + room.tdiv 2

/-- The row at which the label of a component starts. The field `y` of a labeline is its
baseline. -/
def startY (l : Label) (c : Component) : Int :=
  let y := c.y.toInt
  let room : Int := c.height.toNat - l.font.height
  if c.kind = .labeline then y - l.font.baseline
  else match c.vAlign with
    | .top => y
    | .middle => y + room.tdiv 2
    | .bottom => y + room

/-- A coordinate of a text: negative ones are zero, and sizes are taken modulo `2 ^ 16`. -/
def coordinate (n : Int) : UInt16 := UInt16.ofNat n.toNat

/-- The text that a label starting at `(x, y)` shows. -/
def event (l : Label) (x y : Int) : TextEvent :=
  { text := l.text
    x := coordinate x
    y := coordinate y
    width := UInt16.ofNat l.width
    height := UInt16.ofNat l.font.height
    clear := false }

end Label
end Seph.Bagl
