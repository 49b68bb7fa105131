import Seph.Proofs.Display.Drawing
import Seph.Proofs.Display.Refresh
import Seph.Proofs.Nbgl.Picture
import Seph.Proofs.Wire

/-!
# What accepted commands paint

A command of the NBGL library draws in an area. What it says of each point of the area is told from its
bytes alone (`Command.Gives`); that is what an accepted command leaves there.

1. `Drawing.Paints`: a drawing leaves a colour at each point of an area and nothing outside of it, for
   rectangles, lines and pictures (`paints_rect`, `paints_line`, `paints_picture`).
2. `Kind.command_of_accept`: the bytes that are accepted spell a command whose area is on the screen, and
   the drawing is that of the command.
3. `Command.Draws.paints`: a command gives each point of its area one colour, the one that is drawn.
4. `accepted_command_paints`: all together.
-/

namespace Seph

namespace Nbgl

open Framebuffer (Stroke lastColor?)

/-! ## Drawings -/

namespace Drawing

theorem eq_ok_of_read {α : Type} {r : Except WireError α} {a : α} (h : read r = .ok a) : r = .ok a := by
  cases r with
  | error e => cases h
  | ok b => cases h; rfl

/-- A drawing leaves a colour at each point of an area, counted from its corner, and nothing outside. -/
structure Paints (d : Drawing) (a : Area) (color : Nat → Nat → Color) : Prop where
  inside : ∀ u v, a.Contains u v →
    lastColor? d.strokes u v = some (color (u - a.x0.toNat) (v - a.y0.toNat))
  outside : ∀ u v, ¬ a.Contains u v → lastColor? d.strokes u v = none

theorem paints_rect (a : Area) : (rect a).Paints a fun _ _ => gray a.color := by
  have contains (u v : Nat) : (⟨a.x0.toNat, a.y0.toNat, a.width.toNat, a.height.toNat⟩ : Bagl.Box).Contains
      u v ↔ a.Contains u v := by
    unfold Bagl.Box.Contains Area.Contains
    dsimp only
    omega
  constructor
  · intro u v h
    exact (Framebuffer.lastColor?_singleton u v _).trans (if_pos ((contains u v).2 h))
  · intro u v h
    exact (Framebuffer.lastColor?_singleton u v _).trans (if_neg (mt (contains u v).1 h))

/-- The colour of row `y` of a block of rows. -/
def rowColor (l : Line) (y : Nat) : Color :=
  gray (if y < 8 ∧ l.mask.toNat.testBit y then l.color else l.area.color)

theorem paints_line (l : Line) : (line l).Paints l.area fun _ y => rowColor l y := by
  have contains (r u v : Nat) : (rowStroke l r).box.Contains u v ↔
      (l.area.x0.toNat ≤ u ∧ u < l.area.x0.toNat + l.area.width.toNat) ∧ v = l.area.y0.toNat + r := by
    unfold Bagl.Box.Contains rowStroke
    dsimp only
    omega
  have color (r : Nat) : (rowStroke l r).color = rowColor l r := by
    simp [rowStroke, rowColor]
  have mem {s : Stroke} : s ∈ (line l).strokes ↔ ∃ r, r < l.area.height.toNat ∧ rowStroke l r = s := by
    simp only [strokes, List.mem_map, List.mem_range]
  constructor
  · intro u v h
    unfold Area.Contains at h
    refine Framebuffer.lastColor?_of_agree (fun s hs hc => ?_)
      ⟨_, mem.2 ⟨v - l.area.y0.toNat, by omega, rfl⟩, (contains _ u v).2 ⟨h.1, by omega⟩⟩
    obtain ⟨r, -, rfl⟩ := mem.1 hs
    have hr : v - l.area.y0.toNat = r := by
      have := ((contains r u v).1 hc).2
      omega
    rw [color, hr]
  · intro u v h
    refine Framebuffer.lastColor?_of_forall_not fun s hs hc => h ?_
    obtain ⟨r, hr, rfl⟩ := mem.1 hs
    obtain ⟨hu, hv⟩ := (contains r u v).1 hc
    unfold Area.Contains
    omega

theorem paints_picture (a : Area) (d : Depth) (colorMap : UInt8) {p : Picture} (stamp : Option Char)
    (hw : p.width = a.width.toNat) (hh : p.height = a.height.toNat) :
    (picture a d colorMap p stamp).Paints a fun x y => pixelColor d a.color colorMap (p.value x y) := by
  have grid (u v : Nat) := Framebuffer.lastColor?_grid a.x0.toNat a.y0.toNat p.width p.height
    (fun x y => pixelColor d a.color colorMap (p.value x y)) u v
  rw [hw, hh] at grid
  constructor
  · intro u v h
    rw [strokes, hw, hh, grid]
    exact if_pos h
  · intro u v h
    rw [strokes, hw, hh, grid]
    exact if_neg h

section Paints

variable {d : Drawing} {a : Area} {color : Nat → Nat → Color} (h : d.Paints a color) (c : Canvas)
  {u v : Nat}

include h

theorem Paints.pendingAt (ha : a.Contains u v) (ho : c.frame.OnScreen u v) :
    (d.draw c).frame.pendingAt u v =
      some (c.frame.panel.normalize (color (u - a.x0.toNat) (v - a.y0.toNat))) := by
  rw [frame_draw, Framebuffer.pendingAt_paint _ _ _ _ ho, h.inside u v ha]
  rfl

theorem Paints.pixel? (ha : a.Contains u v) (ho : c.frame.OnScreen u v) :
    (d.draw c).frame.pixel? u v =
      some (c.frame.panel.normalize (color (u - a.x0.toNat) (v - a.y0.toNat))) := by
  rw [frame_draw, Framebuffer.pixel?_paint _ _ _ _ ho, h.inside u v ha]
  rfl

theorem Paints.pendingAt_of_not (ha : ¬ a.Contains u v) :
    (d.draw c).frame.pendingAt u v = c.frame.pendingAt u v := by
  rw [frame_draw]
  by_cases ho : c.frame.OnScreen u v
  · rw [Framebuffer.pendingAt_paint _ _ _ _ ho, h.outside u v ha]
    rfl
  · have hoff : ¬ (c.frame.paint d.strokes).OnScreen u v := by
      rwa [Framebuffer.OnScreen, Framebuffer.panel_paint]
    rw [Framebuffer.pendingAt_of_off ho, Framebuffer.pendingAt_of_off hoff]

end Paints

end Drawing

/-! ## Commands -/

/-- The kinds of drawing commands. -/
inductive Kind
  | rect
  | line
  | image
  | file
  | runs

/-- A drawing command as its bytes spell it. -/
inductive Command
  | rect (area : Area)
  | line (line : Line)
  | image (image : Image)
  | file (image : FileImage)
  | runs (image : RunImage)

/-- The command that bytes spell. -/
def Kind.decode : Kind → Bytes → Except WireError Command
  | rect, bs => (Area.decode bs).map fun (a, _) => .rect a
  | line, bs => (Line.decode bs).map fun (l, _) => .line l
  | image, bs => (Image.decode bs).map .image
  | file, bs => (FileImage.decode bs).map .file
  | runs, bs => (RunImage.decode bs).map .runs

/-- The drawing of a command, if it is accepted. -/
def Kind.accept : Kind → Panel → Bytes → Except DrawError Drawing
  | rect => Drawing.ofRect
  | line => Drawing.ofLine
  | image => Drawing.ofImage
  | file => Drawing.ofFile
  | runs => Drawing.ofRuns

/-- The values that a command lists, and how to read them. -/
structure Listing where
  depth : Depth
  colorMap : UInt8
  order : Order
  values : Bytes

namespace Command

def area : Command → Area
  | rect a => a
  | line l => l.area
  | image i => i.area
  | file i => i.area
  | runs i => i.area

/-- The values that a command lists, where it lists any: an image packs them in an order of its own, an
image file and an image in run-length code go through columns from the top right. -/
def listing? : Command → Option Listing
  | rect _ | line _ => none
  | image i => some ⟨i.area.depth, i.colorMap, i.order, unpack i.area.depth i.pixels⟩
  | file i => i.file.values.toOption.map fun values =>
    ⟨i.file.depth, Drawing.fileColorMap i.file.depth i.area.color, .plain, values⟩
  | runs i => (unpackRuns i.area.depth i.data).toOption.map fun values =>
    ⟨i.area.depth, i.colorMap, .plain, values⟩

/-- The colour that a command gives the point in column `x` and row `y` of its area. -/
inductive Gives : Command → Nat → Nat → Color → Prop
  | filled (a : Area) (x y : Nat) : Gives (rect a) x y (gray a.color)
  | marked {l : Line} (x : Nat) {y : Nat} (hy : y < 8) (hm : l.mask.toNat.testBit y) :
    Gives (line l) x y (gray l.color)
  | unmarked {l : Line} (x : Nat) {y : Nat} (hm : ¬ (y < 8 ∧ l.mask.toNat.testBit y)) :
    Gives (line l) x y (gray l.area.color)
  /-- The place of the point in the order has a value. -/
  | listed {cmd : Command} {s : Listing} {x y i : Nat} {v : UInt8} (hs : cmd.listing? = some s)
    (hp : s.order.position cmd.area.width.toNat cmd.area.height.toNat i = some (x, y))
    (hv : s.values[i]? = some v) :
    Gives cmd x y (pixelColor s.depth cmd.area.color s.colorMap v)
  /-- The values end before the place of the point. -/
  | missing {cmd : Command} {s : Listing} {x y i : Nat} (hs : cmd.listing? = some s)
    (hp : s.order.position cmd.area.width.toNat cmd.area.height.toNat i = some (x, y))
    (hv : s.values.length ≤ i) : Gives cmd x y (pixelColor s.depth cmd.area.color s.colorMap 0)

/-- The drawing of a command. -/
inductive Draws : Command → Drawing → Prop
  | rect (a : Area) : Draws (rect a) (.rect a)
  | line (l : Line) : Draws (line l) (.line l)
  | picture {cmd : Command} {s : Listing} (hs : cmd.listing? = some s) (stamp : Option Char) :
    Draws cmd (.picture cmd.area s.depth s.colorMap
      (Drawing.pictureOf cmd.area s.order s.values) stamp)

end Command

/-- **The bytes that are accepted spell a command**, its area is on the screen, and it is drawn. -/
theorem Kind.command_of_accept {k : Kind} {panel : Panel} {bs : Bytes} {d : Drawing}
    (h : k.accept panel bs = .ok d) :
    ∃ cmd, k.decode bs = .ok cmd ∧ cmd.area.check panel = .ok () ∧ cmd.Draws d := by
  cases k with
  | rect =>
    obtain ⟨⟨a, rest⟩, hr, h⟩ := exists_ok_of_bind h
    obtain ⟨⟨⟩, hc, h⟩ := exists_ok_of_bind h
    cases h
    refine ⟨.rect a, ?_, hc, .rect a⟩
    rw [decode, Drawing.eq_ok_of_read hr]
    rfl
  | line =>
    obtain ⟨⟨l, rest⟩, hr, h⟩ := exists_ok_of_bind h
    obtain ⟨⟨⟩, hc, h⟩ := exists_ok_of_bind h
    cases h
    refine ⟨.line l, ?_, hc, .line l⟩
    rw [decode, Drawing.eq_ok_of_read hr]
    rfl
  | image =>
    obtain ⟨i, hr, h⟩ := exists_ok_of_bind h
    obtain ⟨⟨⟩, hc, h⟩ := exists_ok_of_bind h
    cases h
    have hs : (Command.image i).listing? = some
        ⟨i.area.depth, i.colorMap, i.order, unpack i.area.depth i.pixels⟩ := rfl
    refine ⟨.image i, ?_, hc, .picture hs i.stamp⟩
    rw [decode, Drawing.eq_ok_of_read hr]
    rfl
  | file =>
    obtain ⟨i, hr, h⟩ := exists_ok_of_bind h
    obtain ⟨⟨⟩, hc, h⟩ := exists_ok_of_bind h
    dsimp only at h
    split at h
    · cases h
    · obtain ⟨values, hv, h⟩ := exists_ok_of_bind h
      cases h
      have hs : (Command.file i).listing? = some
          ⟨i.file.depth, Drawing.fileColorMap i.file.depth i.area.color, .plain, values⟩ := by
        rw [Command.listing?, hv]
        rfl
      refine ⟨.file i, ?_, hc, .picture hs i.stamp⟩
      rw [decode, Drawing.eq_ok_of_read hr]
      rfl
  | runs =>
    obtain ⟨i, hr, h⟩ := exists_ok_of_bind h
    obtain ⟨⟨⟩, hc, h⟩ := exists_ok_of_bind h
    obtain ⟨values, hv, h⟩ := exists_ok_of_bind h
    cases h
    have hs : (Command.runs i).listing? = some ⟨i.area.depth, i.colorMap, .plain, values⟩ := by
      rw [Command.listing?, hv]
      rfl
    refine ⟨.runs i, ?_, hc, .picture hs i.stamp⟩
    rw [decode, Drawing.eq_ok_of_read hr]
    rfl

/-! ## Colours of commands -/

namespace Command

theorem value_pictureOf (a : Area) (o : Order) (values : Bytes) (x y : Nat) :
    (Drawing.pictureOf a o values).value x y =
      values[o.index a.width.toNat a.height.toNat x y]?.getD 0 := by
  rw [Picture.value, Drawing.pictureOf, Array.getD_eq_getD_getElem?, List.getElem?_toArray]

section Colors

variable {x y : Nat} {c : Color}

theorem gives_rect_iff (a : Area) : (rect a).Gives x y c ↔ c = gray a.color := by
  constructor
  · intro h
    cases h with
    | filled => rfl
    | listed hs | missing hs => cases hs
  · rintro rfl
    exact .filled a x y

theorem gives_line_iff (l : Line) : (line l).Gives x y c ↔ c = Drawing.rowColor l y := by
  unfold Drawing.rowColor
  constructor
  · intro h
    cases h with
    | marked _ hy hm => rw [if_pos ⟨hy, hm⟩]
    | unmarked _ hm => rw [if_neg hm]
    | listed hs | missing hs => cases hs
  · rintro rfl
    by_cases hm : y < 8 ∧ l.mask.toNat.testBit y
    · rw [if_pos hm]
      exact .marked x hm.1 hm.2
    · rw [if_neg hm]
      exact .unmarked x hm

/-- A command that lists values gives a point the colour of the value in its place. -/
theorem gives_listing_iff {cmd : Command} {s : Listing} (hs : cmd.listing? = some s)
    (hx : x < cmd.area.width.toNat) (hy : y < cmd.area.height.toNat) :
    cmd.Gives x y c ↔ c = pixelColor s.depth cmd.area.color s.colorMap
      ((Drawing.pictureOf cmd.area s.order s.values).value x y) := by
  rw [value_pictureOf]
  constructor
  · intro h
    cases h with
    | filled | marked | unmarked => cases hs
    | listed hs' hp hv =>
      obtain rfl := Option.some.inj (hs.symm.trans hs')
      rw [Order.index_of_position _ hp, hv]
      rfl
    | missing hs' hp hv =>
      obtain rfl := Option.some.inj (hs.symm.trans hs')
      rw [Order.index_of_position _ hp, List.getElem?_eq_none hv]
      rfl
  · rintro rfl
    obtain ⟨-, hp⟩ := s.order.position_index hx hy
    cases hv : s.values[s.order.index cmd.area.width.toNat cmd.area.height.toNat x y]? with
    | none => exact .missing hs hp (List.getElem?_eq_none_iff.1 hv)
    | some v => exact .listed hs hp hv

/-- **The drawing of a command leaves what the command gives**, one colour at each point of its area. -/
theorem Draws.paints {cmd : Command} {d : Drawing} (h : cmd.Draws d) :
    ∃ color, d.Paints cmd.area color ∧ ∀ x y, x < cmd.area.width.toNat → y < cmd.area.height.toNat →
      ∀ c, cmd.Gives x y c ↔ c = color x y := by
  cases h with
  | rect a => exact ⟨_, Drawing.paints_rect a, fun x y _ _ c => gives_rect_iff a⟩
  | line l => exact ⟨_, Drawing.paints_line l, fun x y _ _ c => gives_line_iff l⟩
  | picture hs stamp =>
    exact ⟨_, Drawing.paints_picture cmd.area _ _ stamp rfl rfl, fun x y hx hy c =>
      gives_listing_iff hs hx hy⟩

end Colors

end Command

/-! ## Accepted commands -/

/-- **An accepted command paints its area.** Let a command of any of the five kinds be accepted, whatever is
on the canvas. Its bytes spell a command whose area lies on the screen. The drawing changes nothing of what
is shown and nothing outside of the area. To each point of the area the command gives one colour, and the
point has that colour afterwards as the panel shows it. -/
theorem accepted_command_paints (k : Kind) (bs : Bytes) (canvas : Canvas) (d : Drawing)
    (h : k.accept canvas.frame.panel bs = .ok d) :
    let before := canvas.frame
    let after := (d.draw canvas).frame
    ∃ cmd, k.decode bs = .ok cmd ∧ cmd.area.Fits before.panel ∧
      (∀ u v, after.screenAt u v = before.screenAt u v) ∧
      (∀ u v, ¬ cmd.area.Contains u v →
        after.pendingAt u v = before.pendingAt u v ∧ after.pixel? u v = before.pixel? u v) ∧
      ∀ x y, x < cmd.area.width.toNat → y < cmd.area.height.toNat →
        ∃ c, (∀ c', cmd.Gives x y c' ↔ c' = c) ∧
          after.pendingAt (cmd.area.x0.toNat + x) (cmd.area.y0.toNat + y) =
            some (before.panel.normalize c) ∧
          after.pixel? (cmd.area.x0.toNat + x) (cmd.area.y0.toNat + y) =
            some (before.panel.normalize c) := by
  intro before after
  obtain ⟨cmd, hdec, hcheck, hdraws⟩ := Kind.command_of_accept h
  obtain ⟨color, hpaints, hgives⟩ := hdraws.paints
  have hfits : cmd.area.Fits before.panel := Area.fits_of_check hcheck
  have hscreen (u v : Nat) : after.screenAt u v = before.screenAt u v := by
    show (d.draw canvas).frame.screenAt u v = _
    rw [Drawing.frame_draw, Framebuffer.screenAt_paint]
  have hpanel : after.panel = before.panel := by
    show (d.draw canvas).frame.panel = _
    rw [Drawing.frame_draw, Framebuffer.panel_paint]
  refine ⟨cmd, hdec, hfits, hscreen, fun u v hout => ?_, fun x y hx hy => ?_⟩
  · have hp := hpaints.pendingAt_of_not canvas hout
    refine ⟨hp, ?_⟩
    rw [Framebuffer.pixel?, Framebuffer.pixel?, hpanel, hscreen, hp]
  · have hin : cmd.area.Contains (cmd.area.x0.toNat + x) (cmd.area.y0.toNat + y) := by
      unfold Area.Contains
      omega
    have hon : before.OnScreen (cmd.area.x0.toNat + x) (cmd.area.y0.toNat + y) := by
      unfold Area.Fits at hfits
      unfold Framebuffer.OnScreen
      omega
    have hp := hpaints.pendingAt canvas hin hon
    have hq := hpaints.pixel? canvas hin hon
    rw [Nat.add_sub_cancel_left, Nat.add_sub_cancel_left] at hp hq
    exact ⟨color x y, hgives x y hx hy, hp, hq⟩

/-- An image of two columns and four rows in the last corner of a screen, in columns from the bottom right,
with a byte of pixels for the first column and none for the second. -/
theorem truncated_image_paints :
    let canvas := Canvas.blank .flex
    let bs : Bytes := [0xDE, 0x01, 0x54, 0x02, 2, 0, 4, 0, 0, 1, 2, 0xE4, 0xE4]
    ∃ d, Kind.image.accept canvas.frame.panel bs = .ok d ∧
      (d.draw canvas).frame.pixel? 479 599 = some 0xFFFFFF ∧
      (d.draw canvas).frame.pixel? 479 598 = some 0xAAAAAA ∧
      (d.draw canvas).frame.pixel? 478 599 = some 0 := by
  intro canvas bs
  let a : Area := ⟨478, 596, 2, 4, 0, .two⟩
  let d : Drawing := .picture a .two 0xE4 (Drawing.pictureOf a .flipVertical (unpack .two [0xE4])) none
  let cmd : Command := .image ⟨a, .flipVertical, 0xE4, [0xE4], none⟩
  have hd : Kind.image.accept canvas.frame.panel bs = .ok d := rfl
  have hcmd : Kind.image.decode bs = .ok cmd := rfl
  obtain ⟨cmd', hdec, -, -, -, hin⟩ := accepted_command_paints .image bs canvas d hd
  obtain rfl : cmd = cmd' := Except.ok.inj (hcmd.symm.trans hdec)
  have hv : unpack .two [0xE4] = [3, 2, 1, 0] := by decide
  have hs : cmd.listing? = some ⟨.two, 0xE4, .flipVertical, [3, 2, 1, 0]⟩ := by
    rw [← hv]
    rfl
  have color {x y : Nat} {c shown : Color} (hx : x < 2) (hy : y < 4) (hg : cmd.Gives x y c)
      (hn : Model.flex.panel.normalize c = shown) :
      (d.draw canvas).frame.pixel? (478 + x) (596 + y) = some shown := by
    obtain ⟨c', hc, -, hp⟩ := hin x y hx hy
    rw [← hn, (hc c).1 hg]
    exact hp
  refine ⟨d, hd, ?_, ?_, ?_⟩
  · exact color (x := 1) (y := 3) (by decide) (by decide) (.listed (i := 0) hs (by decide) rfl)
      (by decide)
  · exact color (x := 1) (y := 2) (by decide) (by decide) (.listed (i := 1) hs (by decide) rfl)
      (by decide)
  · exact color (x := 0) (y := 3) (by decide) (by decide) (.missing (i := 4) hs (by decide) (by decide))
      (by decide)

end Nbgl
end Seph
