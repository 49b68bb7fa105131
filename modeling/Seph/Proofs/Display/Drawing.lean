import Seph.Bagl.Drawing
import Seph.Nbgl.Drawing
import Seph.Proofs.Display.Framebuffer

/-!
# Drawings as strokes

A drawing is a list of strokes: it says which rectangles are filled with which colours, one after the
other, and nothing of what was drawn before makes a difference. `Bagl.Drawing.frame_draw`,
`Bagl.RawPiece.frame_draw` and `Nbgl.Drawing.frame_draw` show that every drawing draws its strokes.
-/

namespace Seph

open Framebuffer (Stroke)

namespace Framebuffer

/-- The stroke of a point. -/
def Stroke.point (x y : Int) (c : Color) : Stroke := ⟨⟨x, y, 1, 1⟩, c⟩

/-- The strokes of boxes in one colour. -/
def Stroke.boxes (bs : List Bagl.Box) (c : Color) : List Stroke := bs.map (⟨·, c⟩)

/-- The strokes of a rectangle of points, row by row. -/
def Stroke.grid (x y : Int) (w h : Nat) (color : Nat → Nat → Color) : List Stroke :=
  (List.range h).flatMap fun j : Nat => (List.range w).map fun i : Nat =>
    .point (x + i) (y + j) (color i j)

theorem Stroke.contains_of_mem_grid {x y : Int} {w h : Nat} {color : Nat → Nat → Color} {s : Stroke}
    {u v : Int} (hs : s ∈ Stroke.grid x y w h color) (hc : s.box.Contains u v) :
    (⟨x, y, w, h⟩ : Bagl.Box).Contains u v := by
  simp only [Stroke.grid, List.mem_flatMap, List.mem_map, List.mem_range] at hs
  obtain ⟨j, hj, i, hi, rfl⟩ := hs
  unfold Bagl.Box.Contains Stroke.point at *
  dsimp only at *
  omega

variable (fb : Framebuffer)

theorem drawPoint_eq_paint (x y : Int) (c : Color) : fb.drawPoint x y c = fb.paint [.point x y c] :=
  drawPoint_eq_fillRect fb x y c

theorem fold_paint {f : Nat → Framebuffer → Framebuffer} {strokes : Nat → List Stroke}
    (h : ∀ fb i, f i fb = fb.paint (strokes i)) (n : Nat) :
    Nat.fold n (fun i _ fb => f i fb) fb = fb.paint ((List.range n).flatMap strokes) := by
  induction n with
  | zero => rfl
  | succ n ih =>
    rw [Nat.fold_succ, ih, h, List.range_succ, List.flatMap_append, List.flatMap_singleton, paint_append]

theorem fold_drawPoint (x y : Int) (w h : Nat) (color : Nat → Nat → Color) :
    Nat.fold h (fun j _ fb => Nat.fold w (fun i _ fb =>
      fb.drawPoint (x + i) (y + j) (color i j)) fb) fb = fb.paint (Stroke.grid x y w h color) := by
  let row (j : Nat) (fb : Framebuffer) :=
    Nat.fold w (fun i _ fb => fb.drawPoint (x + i) (y + j) (color i j)) fb
  refine fold_paint (f := row) fb (fun fb j => ?_) h
  rw [List.map_eq_flatMap]
  exact fold_paint fb (fun fb i => drawPoint_eq_paint fb (x + i) (y + j) (color i j)) w

section Grid

variable {ss : List Stroke} {u v : Nat}

theorem lastColor?_of_forall_not (h : ∀ s ∈ ss, ¬ s.box.Contains u v) : lastColor? ss u v = none := by
  have hn : ss.reverse.find? (fun s => s.box.Contains u v) = none := by
    rw [List.find?_eq_none]
    exact fun s hs => by simpa using h s (List.mem_reverse.1 hs)
  rw [lastColor?, hn]
  rfl

/-- Strokes that agree on the colour of a point leave it there, if one of them covers the point. -/
theorem lastColor?_of_agree {c : Color} (h : ∀ s ∈ ss, s.box.Contains u v → s.color = c)
    (he : ∃ s ∈ ss, s.box.Contains u v) : lastColor? ss u v = some c := by
  unfold lastColor?
  cases hf : ss.reverse.find? fun s => s.box.Contains u v with
  | none =>
    obtain ⟨s, hs, hc⟩ := he
    exact absurd (decide_eq_true hc) (List.find?_eq_none.1 hf s (List.mem_reverse.2 hs))
  | some s =>
    have hs : s ∈ ss := List.mem_reverse.1 (List.mem_of_find?_eq_some hf)
    have hc := List.find?_some hf
    exact congrArg some (h s hs (of_decide_eq_true hc))

/-- **A rectangle of points leaves its colours.** -/
theorem lastColor?_grid (x y w h : Nat) (color : Nat → Nat → Color) (u v : Nat) :
    lastColor? (Stroke.grid x y w h color) u v =
      if (x ≤ u ∧ u < x + w) ∧ y ≤ v ∧ v < y + h then some (color (u - x) (v - y)) else none := by
  have mem {s : Stroke} : s ∈ Stroke.grid x y w h color ↔
      ∃ j, j < h ∧ ∃ i, i < w ∧ Stroke.point (x + i) (y + j) (color i j) = s := by
    simp only [Stroke.grid, List.mem_flatMap, List.mem_map, List.mem_range]
  have contains (i j : Nat) (c : Color) : (Stroke.point (x + i : Nat) (y + j : Nat) c).box.Contains u v ↔
      u = x + i ∧ v = y + j := by
    unfold Bagl.Box.Contains Stroke.point
    dsimp only
    omega
  by_cases hin : (x ≤ u ∧ u < x + w) ∧ y ≤ v ∧ v < y + h
  · rw [if_pos hin]
    refine lastColor?_of_agree (fun s hs hc => ?_) ⟨_, mem.2 ⟨v - y, by omega, u - x, by omega, rfl⟩, ?_⟩
    · obtain ⟨j, -, i, -, rfl⟩ := mem.1 hs
      obtain ⟨hu, hv⟩ := (contains i j _).1 hc
      have hi : u - x = i := by omega
      have hj : v - y = j := by omega
      rw [hi, hj]
      rfl
    · exact (contains _ _ _).2 (by omega)
  · rw [if_neg hin]
    refine lastColor?_of_forall_not fun s hs hc => hin ?_
    obtain ⟨j, hj, i, hi, rfl⟩ := mem.1 hs
    have := (contains i j _).1 hc
    omega

end Grid

end Framebuffer

/-! ## Boxes, labels and bitmaps -/

namespace Bagl

theorem fillBoxes_eq_paint (fb : Framebuffer) (bs : List Box) (c : Color) :
    fillBoxes fb bs c = fb.paint (Stroke.boxes bs c) := by
  rw [Framebuffer.paint, Stroke.boxes, List.foldl_map]
  rfl

def Glyph.strokes (g : Glyph) (x y : Int) (fg bg : Color) : List Stroke :=
  Stroke.grid x y g.width g.height fun i j => if g.bit i j then fg else bg

theorem drawGlyph_eq_paint (fb : Framebuffer) (g : Glyph) (x y : Int) (fg bg : Color) :
    drawGlyph fb g x y fg bg = fb.paint (Glyph.strokes g x y fg bg) :=
  Framebuffer.fold_drawPoint fb x y g.width g.height fun i j => if g.bit i j then fg else bg

/-- The strokes of the bytes of a label from the column `x` on. -/
def Label.strokes (l : Label) (y : Int) (fg bg : Color) : Bytes → Int → List Stroke
  | [], _ => []
  | b :: bs, x =>
    (l.glyph? b).elim [] (Glyph.strokes · x y fg bg) ++ strokes l y fg bg bs (x + l.advance b)

theorem Label.draw_eq_paint (l : Label) (fb : Framebuffer) (x y : Int) (fg bg : Color) :
    l.draw fb x y fg bg = fb.paint (l.strokes y fg bg l.bytes x) := by
  unfold Label.draw
  generalize l.bytes = bs
  induction bs generalizing fb x with
  | nil => rfl
  | cons b bs ih =>
    rw [List.foldl_cons, ih, Label.strokes, Framebuffer.paint_append]
    cases l.glyph? b with
    | none => rfl
    | some g => exact congrArg (Framebuffer.paint · _) (drawGlyph_eq_paint fb g x y fg bg)

/-- The strokes of pixel values row by row, from pixel `start` on. -/
def valueStrokes (x y : Int) (w start : Nat) (colors : List UInt32) (values : Bytes) : List Stroke :=
  (values.zipIdx start).map fun (v, i) =>
    .point (x + (i % w : Nat)) (y + (i / w : Nat)) (colors.toArray.getD v.toNat 0)

theorem drawValues_eq_paint (fb : Framebuffer) (x y : Int) (w start : Nat) (colors : List UInt32)
    (values : Bytes) :
    drawValues fb x y w start colors values = fb.paint (valueStrokes x y w start colors values) := by
  unfold drawValues valueStrokes
  induction values generalizing fb start with
  | nil => rfl
  | cons v values ih =>
    dsimp only
    rw [List.foldl_cons, ih, Framebuffer.drawPoint_eq_paint, ← Framebuffer.paint_append]
    rfl

/-! ## Components -/

namespace Drawing

variable (c : Component) (fb : Framebuffer) (canvas : Canvas)

def rectangleStrokes : List Stroke :=
  let x := c.x.toInt
  let y := c.y.toInt
  let w : Int := c.width.toNat
  let h : Int := c.height.toNat
  let r : Int := c.radius.toNat
  let s : Int := c.stroke.toNat
  Stroke.boxes (rounded x y w h r) c.fgColor ++
    if c.filled then []
    else Stroke.boxes (rounded (x + s) (y + s) (w - 2 * s) (h - 2 * s) (r - s)) c.bgColor

theorem drawRectangle_eq_paint : drawRectangle c fb = fb.paint (rectangleStrokes c) := by
  unfold drawRectangle rectangleStrokes fillRounded
  simp only [fillBoxes_eq_paint, Framebuffer.paint_append]
  split <;> rfl

def circleStrokes : List Stroke :=
  let r : Int := c.radius.toNat
  let cx := c.x.toInt + r
  let cy := c.y.toInt + r
  Stroke.boxes (circle cx cy r) c.fgColor ++
    if c.filled then [] else Stroke.boxes (circle cx cy (r - c.stroke.toNat)) c.bgColor

theorem drawCircle_eq_paint : drawCircle c fb = fb.paint (circleStrokes c) := by
  unfold drawCircle circleStrokes fillCircle
  simp only [fillBoxes_eq_paint, Framebuffer.paint_append]
  split <;> rfl

/-- The stroke of the component's box. -/
def boxStroke (color : Color) : Stroke :=
  ⟨⟨c.x.toInt, c.y.toInt, c.width.toNat, c.height.toNat⟩, color⟩

/-- The strokes of the label of a component. -/
def labelStrokes (ctx : Bytes) (fg bg : Color) : List Stroke :=
  let l := Label.ofContext c.font ctx
  l.strokes (l.startY c) fg bg l.bytes (l.startX c)

theorem frame_drawLabel (ctx : Bytes) (fg bg : Color) :
    (drawLabel c ctx fg bg canvas).frame = canvas.frame.paint (labelStrokes c ctx fg bg) := by
  unfold drawLabel labelStrokes
  dsimp only
  split
  · rename_i he
    rw [List.isEmpty_iff.1 he]
    rfl
  · rw [← Label.draw_eq_paint]
    split <;> rfl

/-- The strokes of the symbol of a numbered icon. -/
def symbolStrokes : List Stroke :=
  match Font.symbols.glyph? (Char.ofNat (0x80 + c.iconId.toNat % 64)) with
  | some g =>
    Glyph.strokes g (c.x.toInt + ((c.width.toNat : Int) - g.width).tdiv 2)
      (c.y.toInt + ((c.height.toNat : Int) - g.height).tdiv 2) c.fgColor c.bgColor
  | none => []

theorem drawSymbol_eq_paint : drawSymbol c fb = fb.paint (symbolStrokes c) := by
  unfold drawSymbol symbolStrokes
  cases Font.symbols.glyph? (Char.ofNat (0x80 + c.iconId.toNat % 64)) with
  | none => rfl
  | some g => exact drawGlyph_eq_paint fb g _ _ _ _

/-- The strokes of an accepted component. -/
def strokes : Drawing → List Stroke
  | icon c i =>
    valueStrokes c.x.toInt c.y.toInt c.width.toNat 0 i.colors
      ((unpack i.depth i.bitmap).take (c.width.toNat * c.height.toNat))
  | component c ctx =>
    match c.kind with
    | .none => []
    | .rectangle => rectangleStrokes c
    | .line => [boxStroke c c.fgColor]
    | .circle => circleStrokes c
    | .label | .labeline =>
      (if c.filled then [boxStroke c c.bgColor] else []) ++ labelStrokes c ctx c.fgColor c.bgColor
    | .button =>
      rectangleStrokes c ++ if c.filled then labelStrokes c ctx c.bgColor c.fgColor
        else labelStrokes c ctx c.fgColor c.bgColor
    | .icon => symbolStrokes c

/-- **A component draws its strokes.** -/
theorem frame_draw (d : Drawing) : (d.draw canvas).frame = canvas.frame.paint d.strokes := by
  cases d with
  | icon c i => exact drawValues_eq_paint _ _ _ _ _ _ _
  | component c ctx =>
    unfold draw strokes
    dsimp only
    cases c.kind with
    | none => rfl
    | rectangle =>
      dsimp only
      split <;> exact drawRectangle_eq_paint c canvas.frame
    | line => rfl
    | circle => exact drawCircle_eq_paint c canvas.frame
    | label | labeline =>
      dsimp only
      rw [frame_drawLabel, Framebuffer.paint_append]
      split <;> rfl
    | button =>
      dsimp only
      rw [Framebuffer.paint_append, ← drawRectangle_eq_paint]
      split <;> exact frame_drawLabel c _ ctx _ _
    | icon => exact drawSymbol_eq_paint c canvas.frame

end Drawing

/-! ## Raw bitmaps -/

/-- The strokes of an accepted piece of a raw bitmap. -/
def RawPiece.strokes (p : RawPiece) : List Stroke :=
  let h := p.cursor.header
  valueStrokes h.x.toInt h.y.toInt h.width.toNat p.cursor.drawn h.colors p.values

/-- **A piece of a raw bitmap draws its strokes**, whether its text is read or not. -/
theorem RawPiece.frame_draw (p : RawPiece) (reads : Bool) (canvas : Canvas) :
    (p.draw reads canvas).frame = canvas.frame.paint p.strokes := by
  unfold RawPiece.draw RawPiece.strokes
  rw [← drawValues_eq_paint]
  dsimp only
  split <;> rfl

end Bagl

/-! ## Shapes and pictures -/

namespace Nbgl.Drawing

/-- The stroke of row `r` of a block of rows. -/
def rowStroke (l : Line) (r : Nat) : Stroke where
  box := ⟨l.area.x0.toNat, (l.area.y0.toNat + r : Nat), l.area.width.toNat, 1⟩
  color := gray (if r < 8 && l.mask.toNat.testBit r then l.color else l.area.color)

/-- The strokes of an accepted command. -/
def strokes : Drawing → List Stroke
  | rect a => [⟨⟨a.x0.toNat, a.y0.toNat, a.width.toNat, a.height.toNat⟩, gray a.color⟩]
  | line l => (List.range l.area.height.toNat).map (rowStroke l)
  | picture a depth colorMap p _ =>
    Stroke.grid a.x0.toNat a.y0.toNat p.width p.height fun x y =>
      pixelColor depth a.color colorMap (p.value x y)

/-- **A command draws its strokes.** -/
theorem frame_draw (d : Drawing) (c : Canvas) : (d.draw c).frame = c.frame.paint d.strokes := by
  cases d with
  | rect a =>
    unfold draw
    dsimp only
    split <;> rfl
  | line l =>
    rw [strokes, List.map_eq_flatMap]
    exact Framebuffer.fold_paint (f := drawRow l) c.frame (fun fb r => rfl) l.area.height.toNat
  | picture a depth colorMap p stamp =>
    exact Framebuffer.fold_drawPoint c.frame a.x0.toNat a.y0.toNat p.width p.height fun x y =>
      pixelColor depth a.color colorMap (p.value x y)

end Nbgl.Drawing
end Seph
