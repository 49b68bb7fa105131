import Seph.Proofs.Display.Drawing
import Seph.Proofs.Display.Refresh
import Seph.Proofs.Nbgl.Painting
import Seph.Proofs.Nbgl.Payload
import Seph.Proofs.Nbgl.Picture
import Seph.Proofs.Picture.RunLength

/-!
# How pictures are drawn

What a picture leaves on a canvas depends on its values alone, not on the order in which they are
listed, on how they are packed or on the command that brings them.

1. `Drawing.draw_congr`: pictures with the same values leave the same canvas.
2. `Drawing.draw_listed`: so does a matrix in any order of its points, and `Drawing.pendingAt_ofMatrix`
   says which colours it leaves in the framebuffer.
3. `unpackRuns_encodeRuns`: values in run-length code are those that were encoded.
4. `Drawing.encodings_render_alike`: every encoding of a matrix leaves the same canvas.
-/

namespace Seph

theorem Canvas.eq_of_parts {c e : Canvas} (frame : c.frame = e.frame) (text : c.text = e.text) :
    c = e := by
  obtain ⟨f, t⟩ := c
  obtain rfl : f = e.frame := frame
  obtain rfl : t = e.text := text
  rfl

namespace Nbgl

open Framebuffer (Stroke)

namespace Drawing

section Draw

variable {a : Area} {d : Depth} {colorMap : UInt8} {p q : Picture} {stamp : Option Char}

theorem draw_congr (hw : p.width = q.width) (hh : p.height = q.height)
    (hv : ∀ x y, x < p.width → y < p.height → p.value x y = q.value x y) (c : Canvas) :
    (picture a d colorMap p stamp).draw c = (picture a d colorMap q stamp).draw c := by
  have frame : ((picture a d colorMap p stamp).draw c).frame =
      ((picture a d colorMap q stamp).draw c).frame := by
    rw [frame_draw, frame_draw, strokes, strokes, Stroke.grid, Stroke.grid, ← hw, ← hh]
    congr 1
    refine List.flatMap_congr fun y hy => List.map_congr_left fun x hx => ?_
    rw [hv x y (List.mem_range.1 hx) (List.mem_range.1 hy)]
  have text : ((picture a d colorMap p stamp).draw c).text =
      ((picture a d colorMap q stamp).draw c).text := by
    show readText c.text a d p stamp = readText c.text a d q stamp
    unfold readText
    rw [Picture.bitmap_congr hw hh hv]
  exact Canvas.eq_of_parts frame text

end Draw

/-! ## Matrices -/

/-- The values of a matrix in an order of the points of an area. -/
def listed (a : Area) (o : Order) (m : Nat → Nat → UInt8) : Bytes :=
  o.scan a.width.toNat a.height.toNat m

/-- The values of a matrix in an area fit into the bits of a pixel. -/
def FitsIn (d : Depth) (a : Area) (m : Nat → Nat → UInt8) : Prop :=
  ∀ x y, x < a.width.toNat → y < a.height.toNat → (m x y).toNat < 2 ^ d.bits

/-- The drawing of the values of a matrix. -/
def ofMatrix (a : Area) (d : Depth) (colorMap : UInt8) (m : Nat → Nat → UInt8) (stamp : Option Char) :
    Drawing :=
  picture a d colorMap (pictureOf a .rows (listed a .rows m)) stamp

section Matrix

variable (a : Area) (d : Depth) (colorMap : UInt8) (m : Nat → Nat → UInt8) (stamp : Option Char)

theorem length_listed (o : Order) : (listed a o m).length = a.pixels := Order.length_scan _ _ _ _

theorem fits_listed {a : Area} {d : Depth} {m : Nat → Nat → UInt8} (h : FitsIn d a m) (o : Order) :
    d.Fits (listed a o m) := by
  intro v hv
  obtain ⟨x, y, hx, hy, rfl⟩ := o.exists_of_mem_scan hv
  exact h x y hx hy

section Point

variable {x y : Nat} (hx : x < a.width.toNat) (hy : y < a.height.toNat)

include hx hy

theorem value_listed_append (o : Order) (fill : Bytes) :
    (pictureOf a o (listed a o m ++ fill)).value x y = m x y := Picture.value_scan fill hx hy

theorem value_listed (o : Order) : (pictureOf a o (listed a o m)).value x y = m x y := by
  have := value_listed_append a m hx hy o []
  rwa [List.append_nil] at this

end Point

/-- A matrix in any order leaves the same canvas, whatever is listed behind it. -/
theorem draw_listed (o : Order) (fill : Bytes) (c : Canvas) :
    (picture a d colorMap (pictureOf a o (listed a o m ++ fill)) stamp).draw c =
      (ofMatrix a d colorMap m stamp).draw c := by
  let p := pictureOf a o (listed a o m ++ fill)
  let q := pictureOf a .rows (listed a .rows m)
  have values (x y : Nat) (hx : x < a.width.toNat) (hy : y < a.height.toNat) :
      p.value x y = q.value x y :=
    (value_listed_append a m hx hy o fill).trans (value_listed a m hx hy .rows).symm
  exact draw_congr (p := p) (q := q) rfl rfl values c

/-- The colours that the values of a matrix leave: in the area that of the value, and outside of it what
was there before. -/
theorem pendingAt_ofMatrix (c : Canvas) {u v : Nat} (h : c.frame.OnScreen u v) :
    ((ofMatrix a d colorMap m stamp).draw c).frame.pendingAt u v =
      if (a.x0.toNat ≤ u ∧ u < a.x0.toNat + a.width.toNat) ∧
          a.y0.toNat ≤ v ∧ v < a.y0.toNat + a.height.toNat then
        some (c.frame.panel.normalize
          (pixelColor d a.color colorMap (m (u - a.x0.toNat) (v - a.y0.toNat))))
      else c.frame.pendingAt u v := by
  have hp : (ofMatrix a d colorMap m stamp).Paints a fun x y =>
      pixelColor d a.color colorMap ((pictureOf a .rows (listed a .rows m)).value x y) :=
    paints_picture a d colorMap stamp rfl rfl
  split
  · rename_i hin
    have hx : u - a.x0.toNat < a.width.toNat := by omega
    have hy : v - a.y0.toNat < a.height.toNat := by omega
    rw [hp.pendingAt c hin h, value_listed a m hx hy]
  · rename_i hout
    exact hp.pendingAt_of_not c hout

end Matrix

/-! ## Commands -/

section Commands

variable {panel : Panel}

theorem ofImage_encode {i : Image} (ha : i.area.check panel = .ok ())
    (hl : i.pixels.length = i.area.depth.packedSize i.area.pixels) :
    ofImage panel i.encode = .ok (picture i.area i.area.depth i.colorMap
      (pictureOf i.area i.order (unpack i.area.depth i.pixels)) i.stamp) := by
  unfold ofImage
  rw [Image.decode_encode hl]
  simp only [read, Except.mapError, bind, Except.bind, ha]
  rfl

theorem ofRuns_encode {i : RunImage} {values : Bytes} (ha : i.area.check panel = .ok ())
    (hl : i.data.length < 256 ^ 4) (hv : unpackRuns i.area.depth i.data = .ok values) :
    ofRuns panel i.encode = .ok (picture i.area i.area.depth i.colorMap
      (pictureOf i.area .plain values) i.stamp) := by
  unfold ofRuns
  rw [RunImage.decode_encode hl]
  simp only [read, Except.mapError, bind, Except.bind, ha, hv]
  rfl

theorem ofFile_encode {i : FileImage} {bs values : Bytes} (ha : i.area.check panel = .ok ())
    (hb : i.encode = .ok bs) (hw : i.file.width = i.area.width) (hh : i.file.height = i.area.height)
    (hv : i.file.values = .ok values) :
    ofFile panel bs = .ok (picture i.area i.file.depth (fileColorMap i.file.depth i.area.color)
      (pictureOf i.area .plain values) i.stamp) := by
  unfold ofFile
  rw [FileImage.decode_encode hb]
  have hsize : ¬ (i.file.width ≠ i.area.width ∨ i.file.height ≠ i.area.height) := by
    rintro (h | h)
    · exact h hw
    · exact h hh
  simp only [read, Except.mapError, bind, Except.bind, ha, if_neg hsize, hv]
  rfl

end Commands

end Drawing

/-! ## Run-length code -/

/-- Values in run-length code. There is no such code for two bits to the pixel. -/
def encodeRuns : Depth → Bytes → Option Bytes
  | .one, vs => some (RunLength.encode1 vs)
  | .two, _ => none
  | .four, vs => some (RunLength.encode4 vs)

/-- Values in run-length code are those that were encoded, and the code is no longer than they. -/
theorem unpackRuns_encodeRuns {d : Depth} {vs data : Bytes} (hf : d.Fits vs)
    (h : encodeRuns d vs = some data) : unpackRuns d data = .ok vs ∧ data.length ≤ vs.length := by
  cases d with
  | one =>
    cases h
    have hl : vs.map RunLength.lit = vs :=
      (List.map_congr_left fun v hv => RunLength.lit_of_lt (hf v hv)).trans (List.map_id vs)
    exact ⟨congrArg Except.ok ((RunLength.decode1_encode1 vs).trans hl), RunLength.length_encode1_le vs⟩
  | two => cases h
  | four =>
    cases h
    have hl : vs.map RunLength.low = vs :=
      (List.map_congr_left fun v hv => RunLength.low_of_lt (hf v hv)).trans (List.map_id vs)
    exact ⟨(RunLength.decode4_encode4 vs).trans (congrArg Except.ok hl), RunLength.length_encode4_le vs⟩

/-! ## Encodings -/

/-- A command is accepted, and what it draws leaves a canvas behind. -/
def Leaves (r : Except DrawError Drawing) (c after : Canvas) : Prop :=
  ∃ d, r = .ok d ∧ d.draw c = after

namespace Drawing

section Encodings

variable {a : Area} {colorMap : UInt8} {m : Nat → Nat → UInt8} {stamp : Option Char} {panel : Panel}
  (c : Canvas)

theorem leaves_ofImage (ha : a.check panel = .ok ()) (hm : FitsIn a.depth a m) (o : Order) :
    Leaves (ofImage panel (Image.encode ⟨a, o, colorMap, pack a.depth (listed a o m), stamp⟩)) c
      ((ofMatrix a a.depth colorMap m stamp).draw c) := by
  obtain ⟨n, hu⟩ := unpack_pack (fits_listed hm o)
  refine ⟨_, ofImage_encode ha ?_, ?_⟩
  · dsimp only
    rw [length_pack, length_listed]
  · dsimp only
    rw [hu]
    exact draw_listed a a.depth colorMap m stamp o _ c

theorem leaves_ofRuns (ha : a.check panel = .ok ()) (hm : FitsIn a.depth a m) {data : Bytes}
    (hd : encodeRuns a.depth (listed a .plain m) = some data) :
    Leaves (ofRuns panel (RunImage.encode ⟨a, data, colorMap, stamp⟩)) c
      ((ofMatrix a a.depth colorMap m stamp).draw c) := by
  obtain ⟨hu, hl⟩ := unpackRuns_encodeRuns (fits_listed hm .plain) hd
  have hlt : data.length < 256 ^ 4 := by
    have hp : a.pixels < 65536 * 65536 := Nat.mul_lt_mul'' a.width.toNat_lt a.height.toNat_lt
    rw [length_listed] at hl
    omega
  refine ⟨_, ofRuns_encode ha hlt hu, ?_⟩
  have := draw_listed a a.depth colorMap m stamp .plain [] c
  rwa [List.append_nil] at this

theorem leaves_ofFile (ha : a.check panel = .ok ()) {f : File} {fill : Bytes} (hw : f.width = a.width)
    (hh : f.height = a.height) (hl : f.data.length ≤ File.maxData)
    (hv : f.values = .ok (listed a .plain m ++ fill)) :
    ∃ bs, FileImage.encode ⟨a, f, stamp⟩ = .ok bs ∧ Leaves (ofFile panel bs) c
      ((ofMatrix a f.depth (fileColorMap f.depth a.color) m stamp).draw c) := by
  obtain ⟨enc, he⟩ := File.exists_encode_iff.2 hl
  have hb : FileImage.encode ⟨a, f, stamp⟩ = .ok (a.encode ++ enc ++ stampBytes stamp) := by
    rw [FileImage.encode, he]
    rfl
  exact ⟨_, hb, _, ofFile_encode ha hb hw hh hv, draw_listed a f.depth _ m stamp .plain fill c⟩

/-- An area on the screen of a device has no more pixels than an image file may have bytes of data. -/
theorem pixels_le {model : Model} (ha : a.check model.panel = .ok ()) : a.pixels ≤ File.maxData := by
  obtain ⟨hw, hh⟩ := Area.fits_of_check ha
  have hmul : a.pixels ≤ model.panel.width * model.panel.height :=
    Nat.mul_le_mul (by omega) (by omega)
  have hpanel : model.panel.width * model.panel.height ≤ File.maxData := by
    cases model <;> decide
  exact Nat.le_trans hmul hpanel

end Encodings

/-- **All encodings of a picture leave the same canvas.** Let an area lie on the screen of a device, and
take a matrix of values, with or without a stamp. Whatever is on the canvas before:

1. If the values fit into the bits of the area, an image with the matrix in any of the five orders, packed
   from the highest bits, is accepted, and so is one in run-length code, where there is such a code. All
   leave what a drawing of the matrix leaves.
2. If the values fit into the bits of an image file, a file with the packed matrix has bytes and is
   accepted, and so is one in run-length code. Both leave what a drawing of the matrix leaves with the
   colours of a file.

`pendingAt_ofMatrix` says which colours a drawing of the matrix leaves. -/
theorem encodings_render_alike (model : Model) (c : Canvas) (hc : c.frame.panel = model.panel) (a : Area)
    (ha : a.check c.frame.panel = .ok ()) (m : Nat → Nat → UInt8) (stamp : Option Char) :
    (FitsIn a.depth a m → ∀ colorMap,
      let after := (ofMatrix a a.depth colorMap m stamp).draw c
      (∀ o, Leaves (ofImage c.frame.panel
        (Image.encode ⟨a, o, colorMap, pack a.depth (listed a o m), stamp⟩)) c after) ∧
      ∀ data, encodeRuns a.depth (listed a .plain m) = some data →
        Leaves (ofRuns c.frame.panel (RunImage.encode ⟨a, data, colorMap, stamp⟩)) c after) ∧
    ∀ d, FitsIn d a m →
      let after := (ofMatrix a d (fileColorMap d a.color) m stamp).draw c
      let file (k : Compression) (data : Bytes) : FileImage :=
        ⟨a, ⟨a.width, a.height, d, k, data⟩, stamp⟩
      (∃ bs, (file .none (pack d (listed a .plain m))).encode = .ok bs ∧
        Leaves (ofFile c.frame.panel bs) c after) ∧
      ∀ data, encodeRuns d (listed a .plain m) = some data →
        ∃ bs, (file .runs data).encode = .ok bs ∧ Leaves (ofFile c.frame.panel bs) c after := by
  have hle : a.pixels ≤ File.maxData := pixels_le (hc ▸ ha)
  have hl : (listed a .plain m).length = a.pixels := length_listed a m .plain
  refine ⟨fun hm colorMap => ⟨leaves_ofImage c ha hm, fun data => leaves_ofRuns c ha hm⟩,
    fun d hm => ⟨?_, fun data hd => ?_⟩⟩
  · obtain ⟨n, hu⟩ := unpack_pack (fits_listed hm .plain)
    have hp : (pack d (listed a .plain m)).length ≤ File.maxData := by
      rw [length_pack, hl]
      exact Nat.le_trans (d.packedSize_le a.pixels) hle
    exact leaves_ofFile c ha rfl rfl hp (congrArg Except.ok hu)
  · obtain ⟨hu, hs⟩ := unpackRuns_encodeRuns (fits_listed hm .plain) hd
    have hv : unpackRuns d data = .ok (listed a .plain m ++ []) := by rw [List.append_nil, hu]
    exact leaves_ofFile c ha rfl rfl (Nat.le_trans hs (hl ▸ hle)) hv

/-- Twelve pixels of four bits, packed column by column from the bottom left and in run-length code. -/
theorem twelve_pixels_render_alike :
    let c := Canvas.blank .flex
    let a : Area := ⟨4, 8, 3, 4, 1, .four⟩
    let m (x y : Nat) : UInt8 := if x = 0 then 15 else UInt8.ofNat (x + 2 * y)
    let packed : Bytes := [255, 255, 117, 49, 134, 66]
    let runs : Bytes := [178, 70, 129, 48, 5, 7, 195]
    (c.frame.panel = Model.flex.panel ∧ a.check c.frame.panel = .ok () ∧ FitsIn a.depth a m) ∧
    pack .four (listed a .flipBoth m) = packed ∧ encodeRuns .four (listed a .plain m) = some runs ∧
    ∃ after, Leaves (ofImage c.frame.panel (Image.encode ⟨a, .flipBoth, 0, packed, some 'A'⟩)) c after ∧
      Leaves (ofRuns c.frame.panel (RunImage.encode ⟨a, runs, 0, some 'A'⟩)) c after ∧
      after.frame.pendingAt 4 8 = some 0xFFFFFF := by
  intro c a m packed runs
  have ha : a.check c.frame.panel = .ok () := by
    unfold Area.check
    rw [if_neg (by decide), if_neg (by decide)]
  have hm : FitsIn a.depth a m := by
    intro x y (hx : x < 3) (hy : y < 4)
    show (if x = 0 then (15 : UInt8) else UInt8.ofNat (x + 2 * y)).toNat < 16
    split
    · decide
    · rw [UInt8.toNat_ofNat']
      omega
  have hp : pack .four (listed a .flipBoth m) = packed := by decide +kernel
  have hr : encodeRuns .four (listed a .plain m) = some runs := by decide +kernel
  obtain ⟨image, runImage⟩ := (encodings_render_alike .flex c rfl a ha m (some 'A')).1 hm 0
  have on : c.frame.OnScreen 4 8 := ⟨by decide, by decide⟩
  refine ⟨⟨rfl, ha, hm⟩, hp, hr, _, ?_, runImage runs hr, ?_⟩
  · rw [← hp]
    exact image .flipBoth
  · rw [pendingAt_ofMatrix a a.depth 0 m (some 'A') c on, if_pos (by decide)]
    decide

end Drawing

end Nbgl
end Seph
