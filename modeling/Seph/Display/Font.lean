import Seph.Display.Packing

/-!
# Fonts

Bitmap glyphs and the three built-in fonts. A glyph packs its pixels row by row, eight to a byte
from the lowest bit. Images of one bit to the pixel are packed in the same way, so that drawn
characters can be looked up by their bytes.
-/

namespace Seph

/-- A character's bitmap. -/
structure Glyph where
  width : Nat
  height : Nat
  bitmap : Bytes
  deriving DecidableEq, Repr

namespace Glyph

/-- The glyph with the pixels where `lit` holds. -/
def ofFn (width height : Nat) (lit : Nat → Nat → Bool) : Glyph :=
  { width, height
    bitmap := packBits ((List.range (width * height)).map fun i => lit (i % width) (i / width)) }

/-- Is the pixel at `(x, y)` lit? -/
def bit (g : Glyph) (x y : Nat) : Bool :=
  if x < g.width ∧ y < g.height then
    let i := y * g.width + x
    (g.bitmap.getD (i / 8) 0).toNat.testBit (i % 8)
  else false

end Glyph

/-- A bitmap font. -/
structure Font where
  id : Nat
  /-- The height of a line. -/
  height : Nat
  /-- The distance from the top of a line to the baseline. -/
  baseline : Nat
  /-- The code point of the first glyph; the others follow without a gap. -/
  first : Nat
  glyphs : Array Glyph
  deriving Repr

namespace Font

def glyph? (f : Font) (c : Char) : Option Glyph :=
  if c.toNat < f.first then none else f.glyphs[c.toNat - f.first]?

/-- The width of a character; one that the font lacks has none. -/
def charWidth (f : Font) (c : Char) : Nat := (f.glyph? c).elim 0 Glyph.width

def textWidth (f : Font) (text : String) : Nat :=
  text.toList.foldl (fun n c => n + f.charWidth c) 0

/-- The characters with their glyphs, in the order of the characters. -/
def entries (f : Font) : List (Char × Glyph) :=
  f.glyphs.toList.zipIdx.map fun (g, i) => (Char.ofNat (f.first + i), g)

/-! ## The built-in fonts -/

/-- The printable characters from the space on, five columns each, the lowest bit at the top. -/
def columns : List (List Nat) :=
  [[0x00, 0x00, 0x00, 0x00, 0x00], [0x00, 0x00, 0x5F, 0x00, 0x00], [0x00, 0x07, 0x00, 0x07, 0x00],
   [0x14, 0x7F, 0x14, 0x7F, 0x14], [0x24, 0x2A, 0x7F, 0x2A, 0x12], [0x23, 0x13, 0x08, 0x64, 0x62],
   [0x36, 0x49, 0x55, 0x22, 0x50], [0x00, 0x05, 0x03, 0x00, 0x00], [0x00, 0x1C, 0x22, 0x41, 0x00],
   [0x00, 0x41, 0x22, 0x1C, 0x00], [0x14, 0x08, 0x3E, 0x08, 0x14], [0x08, 0x08, 0x3E, 0x08, 0x08],
   [0x00, 0x50, 0x30, 0x00, 0x00], [0x08, 0x08, 0x08, 0x08, 0x08], [0x00, 0x60, 0x60, 0x00, 0x00],
   [0x20, 0x10, 0x08, 0x04, 0x02], [0x3E, 0x51, 0x49, 0x45, 0x3E], [0x00, 0x42, 0x7F, 0x40, 0x00],
   [0x42, 0x61, 0x51, 0x49, 0x46], [0x21, 0x41, 0x45, 0x4B, 0x31], [0x18, 0x14, 0x12, 0x7F, 0x10],
   [0x27, 0x45, 0x45, 0x45, 0x39], [0x3C, 0x4A, 0x49, 0x49, 0x30], [0x01, 0x71, 0x09, 0x05, 0x03],
   [0x36, 0x49, 0x49, 0x49, 0x36], [0x06, 0x49, 0x49, 0x29, 0x1E], [0x00, 0x36, 0x36, 0x00, 0x00],
   [0x00, 0x56, 0x36, 0x00, 0x00], [0x08, 0x14, 0x22, 0x41, 0x00], [0x14, 0x14, 0x14, 0x14, 0x14],
   [0x00, 0x41, 0x22, 0x14, 0x08], [0x02, 0x01, 0x51, 0x09, 0x06], [0x32, 0x49, 0x79, 0x41, 0x3E],
   [0x7E, 0x11, 0x11, 0x11, 0x7E], [0x7F, 0x49, 0x49, 0x49, 0x36], [0x3E, 0x41, 0x41, 0x41, 0x22],
   [0x7F, 0x41, 0x41, 0x22, 0x1C], [0x7F, 0x49, 0x49, 0x49, 0x41], [0x7F, 0x09, 0x09, 0x09, 0x01],
   [0x3E, 0x41, 0x49, 0x49, 0x7A], [0x7F, 0x08, 0x08, 0x08, 0x7F], [0x00, 0x41, 0x7F, 0x41, 0x00],
   [0x20, 0x40, 0x41, 0x3F, 0x01], [0x7F, 0x08, 0x14, 0x22, 0x41], [0x7F, 0x40, 0x40, 0x40, 0x40],
   [0x7F, 0x02, 0x0C, 0x02, 0x7F], [0x7F, 0x04, 0x08, 0x10, 0x7F], [0x3E, 0x41, 0x41, 0x41, 0x3E],
   [0x7F, 0x09, 0x09, 0x09, 0x06], [0x3E, 0x41, 0x51, 0x21, 0x5E], [0x7F, 0x09, 0x19, 0x29, 0x46],
   [0x46, 0x49, 0x49, 0x49, 0x31], [0x01, 0x01, 0x7F, 0x01, 0x01], [0x3F, 0x40, 0x40, 0x40, 0x3F],
   [0x1F, 0x20, 0x40, 0x20, 0x1F], [0x3F, 0x40, 0x38, 0x40, 0x3F], [0x63, 0x14, 0x08, 0x14, 0x63],
   [0x07, 0x08, 0x70, 0x08, 0x07], [0x61, 0x51, 0x49, 0x45, 0x43], [0x00, 0x7F, 0x41, 0x41, 0x00],
   [0x02, 0x04, 0x08, 0x10, 0x20], [0x00, 0x41, 0x41, 0x7F, 0x00], [0x04, 0x02, 0x01, 0x02, 0x04],
   [0x40, 0x40, 0x40, 0x40, 0x40], [0x00, 0x01, 0x02, 0x04, 0x00], [0x20, 0x54, 0x54, 0x54, 0x78],
   [0x7F, 0x48, 0x44, 0x44, 0x38], [0x38, 0x44, 0x44, 0x44, 0x20], [0x38, 0x44, 0x44, 0x48, 0x7F],
   [0x38, 0x54, 0x54, 0x54, 0x18], [0x08, 0x7E, 0x09, 0x01, 0x02], [0x0C, 0x52, 0x52, 0x52, 0x3E],
   [0x7F, 0x08, 0x04, 0x04, 0x78], [0x00, 0x44, 0x7D, 0x40, 0x00], [0x20, 0x40, 0x44, 0x3D, 0x00],
   [0x7F, 0x10, 0x28, 0x44, 0x00], [0x00, 0x41, 0x7F, 0x40, 0x00], [0x7C, 0x04, 0x18, 0x04, 0x78],
   [0x7C, 0x08, 0x04, 0x04, 0x78], [0x38, 0x44, 0x44, 0x44, 0x38], [0x7C, 0x14, 0x14, 0x14, 0x08],
   [0x08, 0x14, 0x14, 0x18, 0x7C], [0x7C, 0x08, 0x04, 0x04, 0x08], [0x48, 0x54, 0x54, 0x54, 0x20],
   [0x04, 0x3F, 0x44, 0x40, 0x20], [0x3C, 0x40, 0x40, 0x20, 0x7C], [0x1C, 0x20, 0x40, 0x20, 0x1C],
   [0x3C, 0x40, 0x30, 0x40, 0x3C], [0x44, 0x28, 0x10, 0x28, 0x44], [0x0C, 0x50, 0x50, 0x50, 0x3C],
   [0x44, 0x64, 0x54, 0x4C, 0x44], [0x00, 0x08, 0x36, 0x41, 0x00], [0x00, 0x00, 0x7F, 0x00, 0x00],
   [0x00, 0x41, 0x36, 0x08, 0x00], [0x08, 0x04, 0x08, 0x10, 0x08]]

/-- The first symbols, one byte for each row, the lowest bit at the left: check, cross, arrows to the
left, right, up and down, dashboard, warning. -/
def drawnSymbols : List (List Nat) :=
  [[0x00, 0x80, 0x40, 0x20, 0x11, 0x0A, 0x04, 0x00],
   [0x00, 0x42, 0x24, 0x18, 0x18, 0x24, 0x42, 0x00],
   [0x00, 0x08, 0x04, 0x02, 0x04, 0x08, 0x00, 0x00],
   [0x00, 0x04, 0x08, 0x10, 0x08, 0x04, 0x00, 0x00],
   [0x00, 0x00, 0x08, 0x14, 0x22, 0x00, 0x00, 0x00],
   [0x00, 0x00, 0x22, 0x14, 0x08, 0x00, 0x00, 0x00],
   [0x3C, 0x42, 0x81, 0x99, 0x99, 0x81, 0x42, 0x3C],
   [0x18, 0x18, 0x3C, 0x24, 0x66, 0x42, 0xDB, 0xFF]]

/-- The font of the printable characters, every pixel drawn `scale` times in each direction. -/
def mono (id scale : Nat) : Font :=
  { id
    height := 8 * scale
    baseline := 7 * scale
    first := 0x20
    glyphs := (columns.map fun cols => Glyph.ofFn (6 * scale) (8 * scale) fun x y =>
      decide (y / scale < 7) && (cols.getD (x / scale) 0).testBit (y / scale)).toArray }

/-- The pixels of symbol `n` when it is not drawn by hand: a frame around the number, whose twelve
bits fill two rows of six. -/
def framedSymbol (n x y : Nat) : Bool :=
  if x = 0 ∨ x = 7 ∨ y = 0 ∨ y = 7 then true
  else if y = 3 ∨ y = 4 then n.testBit (x - 1 + (y - 3) * 6)
  else false

/-- The font of the 64 symbols. -/
def symbols : Font :=
  { id := 2
    height := 8
    baseline := 8
    first := 0x80
    glyphs := ((List.range 64).map fun n => Glyph.ofFn 8 8 <|
      match drawnSymbols[n]? with
      | some rows => fun x y => (rows.getD y 0).testBit x
      | none => framedSymbol n).toArray }

def small : Font := mono 0 1

def large : Font := mono 1 2

def builtin : List Font := [small, large, symbols]

/-- The font with a given number; an unknown number stands for the small font. -/
def ofId (id : Nat) : Font := (builtin.find? fun f => f.id == id).getD small

end Font
end Seph
