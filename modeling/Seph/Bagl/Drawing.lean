import Seph.Bagl.Label
import Seph.Display.Canvas
import Seph.Picture.Fault

/-!
# BAGL drawings

Components are checked by `Drawing.ofStatus` and drawn by `Drawing.draw`, which cannot fail. A raw
bitmap comes in pieces: `RawCursor` remembers its header and how many of its pixels were drawn, and
`RawPiece.ofStatus` is the only place that moves the cursor.
-/

namespace Seph.Bagl

/-- Bitmaps have one, two, four or eight bits to the pixel. -/
def validDepth (depth : UInt8) : Bool := depth == 1 || depth == 2 || depth == 4 || depth == 8

/-- The pixel values of a bitmap. -/
def unpack (depth : UInt8) (bitmap : Bytes) : Bytes := bitmap.flatMap (lowValues depth.toNat)

/-- Draws pixel values row by row in a rectangle of `w` columns at `(x, y)`, from pixel `start`
on. -/
def drawValues (fb : Framebuffer) (x y : Int) (w start : Nat) (colors : List UInt32)
    (values : Bytes) : Framebuffer :=
  let colors := colors.toArray
  (values.foldl (fun (fb, i) v =>
    (fb.drawPoint (x + (i % w : Nat)) (y + (i / w : Nat)) (colors.getD v.toNat 0), i + 1))
    (fb, start)).1

/-! ## Components -/

/-- A component that can be drawn. -/
inductive Drawing
  /-- A component with its context. -/
  | component (c : Component) (ctx : Bytes)
  /-- An icon that brings its own bitmap. -/
  | icon (c : Component) (icon : CustomIcon)

namespace Drawing

/-- The component that the bytes are. An icon without a number has to bring a bitmap of a depth that
can be drawn. -/
def ofStatus (bs : Bytes) : Except DrawError Drawing := do
  let (c, ctx) ← (Component.decode bs).mapError .wire
  if c.kind = .icon ∧ c.iconId = 0 then
    let i ← (CustomIcon.decode ctx).mapError .wire
    if validDepth i.depth then return icon c i
    else throw (.image .unsupportedDepth)
  else return component c ctx

/-- Draws a rectangle: filled with the foreground, or with a border as wide as the stroke around the
background. -/
def drawRectangle (c : Component) (fb : Framebuffer) : Framebuffer :=
  let x := c.x.toInt
  let y := c.y.toInt
  let w : Int := c.width.toNat
  let h : Int := c.height.toNat
  let r : Int := c.radius.toNat
  let s : Int := c.stroke.toNat
  let fb := fillRounded fb x y w h r c.fgColor
  if c.filled then fb
  else fillRounded fb (x + s) (y + s) (w - 2 * s) (h - 2 * s) (r - s) c.bgColor

/-- Draws the circle in the square at the component's corner: filled with the foreground, or with a
border as wide as the stroke around the background. -/
def drawCircle (c : Component) (fb : Framebuffer) : Framebuffer :=
  let r : Int := c.radius.toNat
  let cx := c.x.toInt + r
  let cy := c.y.toInt + r
  let fb := fillCircle fb cx cy r c.fgColor
  if c.filled then fb else fillCircle fb cx cy (r - c.stroke.toNat) c.bgColor

def fillBox (c : Component) (color : Color) (fb : Framebuffer) : Framebuffer :=
  fb.fillRect c.x.toInt c.y.toInt c.width.toNat c.height.toNat color

/-- Draws and reads the label of a component; an empty label is neither drawn nor read, and one of
spaces is not read. -/
def drawLabel (c : Component) (ctx : Bytes) (fg bg : Color) (canvas : Canvas) : Canvas :=
  let l := Label.ofContext c.font ctx
  if l.bytes.isEmpty then canvas
  else
    let x := l.startX c
    let y := l.startY c
    let canvas := canvas.mapFrame fun fb => l.draw fb x y fg bg
    if l.isBlank then canvas else canvas.mapText fun t => t.addEvent (l.event x y)

/-- Draws the symbol of a numbered icon in the middle of the component's box. -/
def drawSymbol (c : Component) (fb : Framebuffer) : Framebuffer :=
  match Font.symbols.glyph? (Char.ofNat (0x80 + c.iconId.toNat % 64)) with
  | some g =>
    let x := c.x.toInt + ((c.width.toNat : Int) - g.width).tdiv 2
    let y := c.y.toInt + ((c.height.toNat : Int) - g.height).tdiv 2
    drawGlyph fb g x y c.fgColor c.bgColor
  | none => fb

/-- The component's box contains the whole screen. -/
def coversScreen (c : Component) (panel : Panel) : Bool :=
  c.x ≤ 0 && c.y ≤ 0 && panel.width ≤ c.width.toNat && panel.height ≤ c.height.toNat

def draw (d : Drawing) (canvas : Canvas) : Canvas :=
  match d with
  | icon c i =>
    let w := c.width.toNat
    canvas.mapFrame fun fb => drawValues fb c.x.toInt c.y.toInt w 0 i.colors
      ((unpack i.depth i.bitmap).take (w * c.height.toNat))
  | component c ctx =>
    match c.kind with
    | .none => canvas
    | .rectangle =>
      let full := coversScreen c canvas.frame.panel
      let canvas := canvas.mapFrame (drawRectangle c)
      if full then canvas.mapText ScreenText.clearScreen else canvas
    | .line => canvas.mapFrame (fillBox c c.fgColor)
    | .circle => canvas.mapFrame (drawCircle c)
    | .label | .labeline =>
      let canvas := if c.filled then canvas.mapFrame (fillBox c c.bgColor) else canvas
      drawLabel c ctx c.fgColor c.bgColor canvas
    | .button =>
      let canvas := canvas.mapFrame (drawRectangle c)
      if c.filled then drawLabel c ctx c.bgColor c.fgColor canvas
      else drawLabel c ctx c.fgColor c.bgColor canvas
    | .icon => canvas.mapFrame (drawSymbol c)

end Drawing

/-! ## Raw bitmaps -/

/-- A raw bitmap and the number of its pixels drawn so far. -/
structure RawCursor where
  header : BitmapHeader
  drawn : Nat
  deriving DecidableEq, Repr

/-- A piece of a raw bitmap that can be drawn. -/
structure RawPiece where
  /-- The place of the piece in its bitmap. -/
  cursor : RawCursor
  /-- The pixels of the piece, no more than the bitmap still lacks. -/
  values : Bytes
  /-- The bytes of the piece, if it is the first. -/
  first : Option Bytes

namespace RawPiece

/-- The piece that the bytes are, and the cursor behind it. A first piece sets the cursor to its
bitmap even if its depth cannot be drawn. -/
def ofStatus (cursor : Option RawCursor) (bs : Bytes) :
    Except DrawError RawPiece × Option RawCursor :=
  match RawStatus.decode bs with
  | .error e => (.error (.wire e), cursor)
  | .ok status =>
    let current : Option RawCursor := match status with
      | .start header _ => some ⟨header, 0⟩
      | .more _ => cursor
    let first : Option Bytes := match status with
      | .start _ bitmap => some bitmap
      | .more _ => none
    match current with
    | none => (.error (.image .noBitmapStarted), none)
    | some current =>
      let h := current.header
      if h.width = 0 then (.ok ⟨current, [], first⟩, some current)
      else if !validDepth h.depth then (.error (.image .unsupportedDepth), some current)
      else
        let missing := h.width.toNat * h.height.toNat - current.drawn
        let values := (unpack h.depth status.bitmap).take missing
        (.ok ⟨current, values, first⟩, some { current with drawn := current.drawn + values.length })

/-- Reads the character of a first piece of one bit to the pixel, if its corner is not left of or
above the screen. -/
def readText (p : RawPiece) (text : ScreenText) : ScreenText :=
  let h := p.cursor.header
  match p.first with
  | some bitmap =>
    if h.depth = 1 ∧ 0 ≤ h.x ∧ 0 ≤ h.y then
      (text.addBitmap bitmap h.x.toUInt16 h.y.toUInt16 h.width h.height).getD text
    else text
  | none => text

/-- Draws an accepted piece; its text is read if `reads` says so. -/
def draw (p : RawPiece) (reads : Bool) (canvas : Canvas) : Canvas :=
  let h := p.cursor.header
  let canvas := if reads then canvas.mapText p.readText else canvas
  canvas.mapFrame fun fb =>
    drawValues fb h.x.toInt h.y.toInt h.width.toNat p.cursor.drawn h.colors p.values

end RawPiece
end Seph.Bagl
