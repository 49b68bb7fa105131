import Seph.Display.Framebuffer
import Seph.Display.Font

/-!
# Rounded shapes

Quarter discs by the midpoint method, and the rectangles and circles put together from them. A
quarter disc is a list of spans, each a row and an extent from the centre outwards
(`quarterSpans`). A shape is a list of boxes, wherever they lie; what is filled of it is what is on
the screen (`fillBoxes`).
-/

namespace Seph.Bagl

/-- The spans of a quarter disc from the point `(dx, dy)` of its edge on. While the point is below
the diagonal, it gives the span of row `dy` and, mirrored, that of row `dx`; `err` says on which side
of the circle the next point lies. -/
def spansFrom (dx dy err : Int) : List (Int × Int) :=
  if dy ≤ dx then
    (dy, dx) :: (dx, dy) ::
      if err < 0 then spansFrom dx (dy + 1) (err + (2 * (dy + 1) + 1))
      else spansFrom (dx - 1) (dy + 1) (err + (2 * (dy + 1 - (dx - 1)) + 1))
  else []
termination_by (dx - dy + 1).toNat
decreasing_by all_goals omega

/-- The spans of the quarter disc of radius `r`: rows and extents, counted from the centre. -/
def quarterSpans (r : Int) : List (Int × Int) := spansFrom r 0 (1 - r)

/-! ## Boxes -/

/-- A rectangle of `width` columns and `height` rows with its corner at `(x, y)`. It is empty unless
both are positive. -/
structure Box where
  x : Int
  y : Int
  width : Int
  height : Int
  deriving DecidableEq, Repr

/-- A point lies in a box. -/
def Box.Contains (b : Box) (x y : Int) : Prop :=
  (b.x ≤ x ∧ x < b.x + b.width) ∧ b.y ≤ y ∧ y < b.y + b.height

/-- Fills boxes, as far as they are on the screen. -/
def fillBoxes (fb : Framebuffer) (bs : List Box) (c : Color) : Framebuffer :=
  bs.foldl (fun fb b => fb.fillRect b.x b.y b.width b.height c) fb

/-- The quarter disc of radius `r` around `(cx, cy)`, to its left or right and above or below. -/
def quarter (cx cy r : Int) (left above : Bool) : List Box :=
  (quarterSpans r).map fun (row, extent) =>
    { x := if left then cx - extent else cx
      y := if above then cy - row else cy + row
      width := extent + 1
      height := 1 }

/-- The rectangle of `w` columns and `h` rows with its corner at `(x, y)`. Its corners are rounded
with radius `r`, which is at most half of either side. -/
def rounded (x y w h r : Int) : List Box :=
  if w ≤ 0 ∨ h ≤ 0 then []
  else
    let r := max 0 (min r (min (w / 2) (h / 2)))
    if r = 0 then [⟨x, y, w, h⟩]
    else
      let left := x + r
      let right := x + w - r - 1
      let top := y + r
      let bottom := y + h - r - 1
      [⟨x + r, y, w - 2 * r, h⟩, ⟨x, y + r, r, h - 2 * r⟩, ⟨x + w - r, y + r, r, h - 2 * r⟩] ++
        quarter left top r true true ++ quarter right top r false true ++
        quarter left bottom r true false ++ quarter right bottom r false false

/-- Fills a rectangle with rounded corners. -/
def fillRounded (fb : Framebuffer) (x y w h r : Int) (c : Color) : Framebuffer :=
  fillBoxes fb (rounded x y w h r) c

/-- The circle of radius `r` around `(cx, cy)`. -/
def circle (cx cy r : Int) : List Box :=
  if r < 0 then []
  else quarter cx cy r true true ++ quarter cx cy r false true ++
    quarter cx cy r true false ++ quarter cx cy r false false

def fillCircle (fb : Framebuffer) (cx cy r : Int) (c : Color) : Framebuffer :=
  fillBoxes fb (circle cx cy r) c

/-- Draws a glyph with its corner at `(x, y)`, unlit pixels in the colour `bg`. -/
def drawGlyph (fb : Framebuffer) (g : Glyph) (x y : Int) (fg bg : Color) : Framebuffer :=
  Nat.fold g.height (fun j _ fb =>
    Nat.fold g.width (fun i _ fb =>
      fb.drawPoint (x + i) (y + j) (if g.bit i j then fg else bg)) fb) fb

end Seph.Bagl
