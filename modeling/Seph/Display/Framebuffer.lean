import Seph.Model

/-!
# The framebuffer

Drawing leaves pending colours behind; committing a region moves the pending colours inside it to
the screen and lists them from top to bottom, each row from left to right. `pendingAt` and
`screenAt` are the views that the laws below speak of; both are total on all points, and empty or
black outside the screen.
-/

namespace Seph

/-- A colour: red, green and blue in the three low bytes. -/
abbrev Color := UInt32

/-- The colour of a lit pixel of a black and white panel. -/
def white : Color := 0xFFFFFF

/-- The colour that a panel shows for a requested one. -/
def Panel.normalize (p : Panel) (c : Color) : Color :=
  if p.monochrome && c &&& 0xFFFFFF != 0 then white else c &&& 0xFFFFFF

/-- A pixel that a commit moved to the screen. -/
structure Pixel where
  x : Nat
  y : Nat
  color : Color
  deriving DecidableEq, Repr

/-- A screen and the drawings that wait to be shown on it. -/
structure Framebuffer where
  panel : Panel
  pending : Vector (Option Color) (panel.width * panel.height)
  screen : Vector Color (panel.width * panel.height)

namespace Framebuffer

/-- A black screen without drawings. -/
def blank (panel : Panel) : Framebuffer :=
  { panel, pending := Vector.replicate _ none, screen := Vector.replicate _ 0 }

theorem index_lt {w h x y : Nat} (hx : x < w) (hy : y < h) : y * w + x < w * h := by
  have : (y + 1) * w ≤ h * w := Nat.mul_le_mul_right w hy
  rw [Nat.succ_mul] at this
  rw [Nat.mul_comm w h]
  omega

/-- The colour drawn and not yet shown at a point. -/
def pendingAt (fb : Framebuffer) (x y : Nat) : Option Color :=
  if h : x < fb.panel.width ∧ y < fb.panel.height then
    fb.pending.get ⟨y * fb.panel.width + x, index_lt h.1 h.2⟩
  else none

def screenAt (fb : Framebuffer) (x y : Nat) : Color :=
  if h : x < fb.panel.width ∧ y < fb.panel.height then
    fb.screen.get ⟨y * fb.panel.width + x, index_lt h.1 h.2⟩
  else 0

/-- The colour last drawn at a point of the screen, shown or not. -/
def pixel? (fb : Framebuffer) (x y : Nat) : Option Color :=
  if x < fb.panel.width ∧ y < fb.panel.height then
    some ((fb.pendingAt x y).getD (fb.screenAt x y))
  else none

/-- Drawings wait to be shown. -/
def isDirty (fb : Framebuffer) : Bool := fb.pending.any Option.isSome

/-! ## Drawing -/

/-- Draws a pending colour at a point of the screen. -/
def set (fb : Framebuffer) (x y : Nat) (c : Option Color) : Framebuffer :=
  if h : x < fb.panel.width ∧ y < fb.panel.height then
    { fb with pending := fb.pending.set (y * fb.panel.width + x) c (index_lt h.1 h.2) }
  else fb

/-- Draws a point; points outside the screen are left out. -/
def drawPoint (fb : Framebuffer) (x y : Int) (c : Color) : Framebuffer :=
  match x, y with
  | .ofNat x, .ofNat y => fb.set x y (some (fb.panel.normalize c))
  | _, _ => fb

/-- Draws the points of the rows `y₀, …, y₁ - 1` and the columns `x₀, …, x₁ - 1`. -/
def fillRange (fb : Framebuffer) (x₀ y₀ x₁ y₁ : Nat) (c : Color) : Framebuffer :=
  let color := some (fb.panel.normalize c)
  Nat.fold (y₁ - y₀) (fun j _ fb =>
    Nat.fold (x₁ - x₀) (fun i _ fb => fb.set (x₀ + i) (y₀ + j) color) fb) fb

/-- Fills the rectangle of `w` columns and `h` rows with its corner at `(x, y)`, as far as it is on
the screen. -/
def fillRect (fb : Framebuffer) (x y w h : Int) (c : Color) : Framebuffer :=
  fb.fillRange x.toNat y.toNat (min (x + w) fb.panel.width).toNat
    (min (y + h) fb.panel.height).toNat c

/-! ## Committing -/

/-- Shows the pending colour at a point, if there is one, and puts it at the end of the list. -/
def commitPoint (x y : Nat) (s : Framebuffer × Array Pixel) : Framebuffer × Array Pixel :=
  let (fb, shown) := s
  if h : x < fb.panel.width ∧ y < fb.panel.height then
    let i := y * fb.panel.width + x
    have hi : i < fb.panel.width * fb.panel.height := index_lt h.1 h.2
    match fb.pending[i] with
    | none => (fb, shown)
    | some c =>
      ({ fb with pending := fb.pending.set i none, screen := fb.screen.set i c },
        shown.push ⟨x, y, c⟩)
  else (fb, shown)

/-- Shows the pending colours of the rows `y₀, …, y₁ - 1` and the columns `x₀, …, x₁ - 1`. -/
def commitRange (fb : Framebuffer) (x₀ y₀ x₁ y₁ : Nat) : Framebuffer × Array Pixel :=
  Nat.fold (y₁ - y₀) (fun j _ s =>
    Nat.fold (x₁ - x₀) (fun i _ s => commitPoint (x₀ + i) (y₀ + j) s) s) (fb, #[])

/-- Shows the pending colours of the region of `w` columns and `h` rows at `(x, y)`. -/
def commit (fb : Framebuffer) (x y w h : Nat) : Framebuffer × Array Pixel :=
  fb.commitRange x y (min (x + w) fb.panel.width) (min (y + h) fb.panel.height)

def commitAll (fb : Framebuffer) : Framebuffer × Array Pixel :=
  fb.commit 0 0 fb.panel.width fb.panel.height

/-- The colours shown, row by row. -/
def image (fb : Framebuffer) : List Color := fb.screen.toList

end Framebuffer
end Seph
