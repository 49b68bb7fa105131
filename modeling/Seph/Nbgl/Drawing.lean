import Seph.Nbgl.Picture
import Seph.Display.Canvas

/-!
# NBGL drawings

A drawing command is checked first: `Drawing.ofRect` and its companions read a payload and refuse
what is malformed or leaves the screen. What they accept is drawn by `Drawing.draw`, which cannot
fail.
-/

namespace Seph

namespace Nbgl

/-! ## Colours -/

/-- The grey of a two-bit colour, from black to white. -/
def gray (c : UInt8) : Color := 0x555555 * (c &&& 3).toUInt32

/-- The colour `i` fifteenths of the way from `front` to `back`, each channel rounded down. -/
def blend (front back : Color) (i : UInt32) : Color :=
  let channel (shift : UInt32) : Color :=
    let f := (front >>> shift) &&& 0xFF
    let b := (back >>> shift) &&& 0xFF
    ((f * (15 - i) + b * i) / 15) <<< shift
  channel 16 ||| channel 8 ||| channel 0

/-- The colour of a pixel value. One bit chooses between the map and the background; two bits choose
one of the four colours of the map; four bits are a grey if the map is zero, else a step between the
map's two colours. -/
def pixelColor (depth : Depth) (back colorMap v : UInt8) : Color :=
  match depth with
  | .one => if v != 0 then gray colorMap else gray back
  | .two => gray (colorMap >>> (2 * (v &&& 3)))
  | .four =>
    if colorMap = 0 then 0x111111 * (v &&& 15).toUInt32
    else blend (gray (colorMap >>> 2)) (gray colorMap) (v &&& 15).toUInt32

/-! ## Checks -/

/-- An area on the screen begins and ends at a multiple of four rows, and is not cut off. -/
def Area.check (a : Area) (panel : Panel) : Except DrawError Unit :=
  if a.y0 % 4 != 0 || a.height % 4 != 0 then .error (.misaligned a.y0 a.height)
  else if panel.width < a.x0.toNat + a.width.toNat ∨
      panel.height < a.y0.toNat + a.height.toNat then .error .outOfScreen
  else .ok ()

/-- A drawing whose area is on the screen. -/
inductive Drawing
  | rect (area : Area)
  | line (line : Line)
  | picture (area : Area) (depth : Depth) (colorMap : UInt8) (picture : Picture)
    (stamp : Option Char)

namespace Drawing

/-- A malformed payload as a drawing error. -/
def read (r : Except WireError α) : Except DrawError α := r.mapError .wire

/-- The filled area that the bytes are. -/
def ofRect (panel : Panel) (bs : Bytes) : Except DrawError Drawing := do
  let (a, _) ← read (Area.decode bs)
  a.check panel
  return rect a

/-- The block of rows that the bytes are. -/
def ofLine (panel : Panel) (bs : Bytes) : Except DrawError Drawing := do
  let (l, _) ← read (Line.decode bs)
  l.area.check panel
  return line l

/-- The picture of an area with its values in a given order. -/
def pictureOf (a : Area) (order : Order) (values : Bytes) : Picture :=
  { width := a.width.toNat, height := a.height.toNat, order, values := values.toArray }

def ofImage (panel : Panel) (bs : Bytes) : Except DrawError Drawing := do
  let i ← read (Image.decode bs)
  i.area.check panel
  return picture i.area i.area.depth i.colorMap
    (pictureOf i.area i.order (unpack i.area.depth i.pixels)) i.stamp

/-- The colour map that goes with an image file: one bit is black on the background, two bits are
the four greys, four bits take the two lowest bits of the area's colour. -/
def fileColorMap (depth : Depth) (color : UInt8) : UInt8 :=
  match depth with
  | .one => 0
  | .two => 0b11100100
  | .four => color &&& 3

/-- The image file that the bytes are; it has to be as large as the area. -/
def ofFile (panel : Panel) (bs : Bytes) : Except DrawError Drawing := do
  let i ← read (FileImage.decode bs)
  i.area.check panel
  if i.file.width ≠ i.area.width ∨ i.file.height ≠ i.area.height then throw (.image .fileSize)
  let values ← i.file.values
  return picture i.area i.file.depth (fileColorMap i.file.depth i.area.color)
    (pictureOf i.area .plain values) i.stamp

/-- The image in run-length code that the bytes are. -/
def ofRuns (panel : Panel) (bs : Bytes) : Except DrawError Drawing := do
  let i ← read (RunImage.decode bs)
  i.area.check panel
  let values ← unpackRuns i.area.depth i.data
  return picture i.area i.area.depth i.colorMap (pictureOf i.area .plain values) i.stamp

/-! ## Drawing -/

/-- Draws a picture with its corner at `(x₀, y₀)`. -/
def drawPicture (fb : Framebuffer) (x₀ y₀ : Nat) (color : UInt8 → Color) (p : Picture) :
    Framebuffer :=
  Nat.fold p.height (fun y _ fb =>
    Nat.fold p.width (fun x _ fb =>
      fb.drawPoint ((x₀ + x : Nat) : Int) ((y₀ + y : Nat) : Int) (color (p.value x y))) fb) fb

/-- A control character is never shown. -/
def isControl (c : Char) : Bool := c.toNat < 0x20 || (0x7F ≤ c.toNat && c.toNat ≤ 0x9F)

/-- Reads the character of a picture: its stamp, or what a picture of one bit shows. -/
def readText (text : ScreenText) (a : Area) (depth : Depth) (p : Picture) :
    Option Char → ScreenText
  | some c => if isControl c then text else text.addChar c a.x0 a.y0 a.width a.height
  | none =>
    if depth = .one then (text.addBitmap p.bitmap a.x0 a.y0 a.width a.height).getD text else text

/-- Draws row `r` of a block of rows. -/
def drawRow (l : Line) (r : Nat) (fb : Framebuffer) : Framebuffer :=
  let c := if r < 8 && l.mask.toNat.testBit r then l.color else l.area.color
  fb.fillRect l.area.x0.toNat ((l.area.y0.toNat + r : Nat) : Int) l.area.width.toNat 1 (gray c)

/-- The area is the whole screen. -/
def coversScreen (a : Area) (panel : Panel) : Bool :=
  a.x0 == 0 && a.y0 == 0 && a.width.toNat == panel.width && a.height.toNat == panel.height

def draw (d : Drawing) (c : Canvas) : Canvas :=
  match d with
  | rect a =>
    let full := coversScreen a c.frame.panel
    let c := c.mapFrame fun fb =>
      fb.fillRect a.x0.toNat a.y0.toNat a.width.toNat a.height.toNat (gray a.color)
    if full then c.mapText ScreenText.clearScreen else c
  | line l =>
    c.mapFrame fun fb => Nat.fold l.area.height.toNat (fun r _ fb => drawRow l r fb) fb
  | picture a depth colorMap p stamp =>
    (c.mapFrame fun fb =>
      drawPicture fb a.x0.toNat a.y0.toNat (pixelColor depth a.color colorMap) p).mapText
        fun text => readText text a depth p stamp

end Drawing

/-- The area of a refresh, checked like that of a drawing; none for the whole screen. -/
def refreshArea (panel : Panel) (bs : Bytes) : Except DrawError (Option Area) := do
  let a ← Drawing.read (Area.ofRefresh bs)
  match a with
  | some a => a.check panel; return some a
  | none => return none

end Nbgl
end Seph
