import Seph.Proofs.Display.Drawing
import Seph.Proofs.Display.Reading

/-!
# Where drawings show their texts

A label is drawn glyph by glyph from a point on, and a recognised bitmap pixel by pixel in its rectangle.
What is read there is told in the box of that layout, in exact numbers. Only the corner is moved onto the
screen if it is left of or above it, since a text has no negative coordinates (`Bagl.Box.clamped`).

1. `Bagl.Label.strokes_append`: each byte is drawn where the bytes before it end.
2. `Bagl.Label.contains_layout`, `Bagl.RawPiece.contains_box`: nothing is drawn beside the layout.
3. `Bagl.Drawing.reading_draw` and its companions: what a drawing adds to the texts.
-/

namespace Seph

open Framebuffer (Stroke)
open ScreenText (Reading)

/-! ## Fonts -/

namespace Font

theorem ofId_mem (id : Nat) : ofId id ∈ builtin := by
  unfold ofId
  cases h : builtin.find? fun f => f.id == id with
  | none => exact List.mem_cons_self
  | some f => exact List.mem_of_find?_eq_some h

variable {f : Font} {c : Char} {g : Glyph}

theorem mem_of_glyph? (h : f.glyph? c = some g) : g ∈ f.glyphs := by
  unfold glyph? at h
  split at h
  · cases h
  · exact Array.mem_of_getElem? h

theorem height_of_glyph?_mono {id scale : Nat} (h : (mono id scale).glyph? c = some g) :
    g.height = 8 * scale := by
  obtain ⟨cols, -, rfl⟩ := List.mem_map.1 (List.mem_toArray.1 (mem_of_glyph? h))
  rfl

theorem height_of_glyph?_symbols (h : symbols.glyph? c = some g) : g.height = 8 := by
  obtain ⟨n, -, rfl⟩ := List.mem_map.1 (List.mem_toArray.1 (mem_of_glyph? h))
  rfl

theorem height_of_glyph? (hf : f ∈ builtin) (h : f.glyph? c = some g) : g.height = f.height := by
  simp only [builtin, List.mem_cons, List.not_mem_nil, or_false] at hf
  rcases hf with rfl | rfl | rfl
  · exact height_of_glyph?_mono h
  · exact height_of_glyph?_mono h
  · exact height_of_glyph?_symbols h

theorem symbols_height_le (hf : f ∈ builtin) : symbols.height ≤ f.height := by
  simp only [builtin, List.mem_cons, List.not_mem_nil, or_false] at hf
  rcases hf with rfl | rfl | rfl <;> decide

end Font

namespace Bagl

/-- The edges of a box, with its corner moved to where coordinates are not negative. -/
def Box.clamped (b : Box) : Seph.Box :=
  ⟨b.x.toNat, b.y.toNat, b.x.toNat + b.width.toNat, b.y.toNat + b.height.toNat⟩

/-! ## Labels -/

namespace Label

variable (l : Label) (x y : Int) (fg bg : Color)

/-- The columns that some bytes of a label take together. -/
def advances : Bytes → Nat
  | [] => 0
  | b :: bs => l.advance b + advances bs

/-- The box of a label that starts at `(x, y)`: as wide as all its bytes, and as high as a line. -/
def layout : Box := ⟨x, y, l.advances l.bytes, l.font.height⟩

/-- A label that starts at `(x, y)` as one piece. -/
def piece : Piece := ⟨l.text, (l.layout x y).clamped⟩

@[simp] theorem advances_nil : l.advances [] = 0 := rfl

@[simp] theorem advances_cons (b : UInt8) (bs : Bytes) :
    l.advances (b :: bs) = l.advance b + l.advances bs := rfl

theorem width_eq_advances : l.width = l.advances l.bytes := by
  have go (bs : Bytes) (n : Nat) : bs.foldl (fun n b => n + l.advance b) n = n + l.advances bs := by
    induction bs generalizing n with
    | nil => rfl
    | cons b bs ih => rw [List.foldl_cons, ih, advances_cons, Nat.add_assoc]
  rw [width, go, Nat.zero_add]

/-- **Each byte is drawn where the bytes before it end.** -/
theorem strokes_append (bs cs : Bytes) :
    l.strokes y fg bg (bs ++ cs) x =
      l.strokes y fg bg bs x ++ l.strokes y fg bg cs (x + l.advances bs) := by
  induction bs generalizing x with
  | nil =>
    rw [advances_nil, Int.natCast_zero, Int.add_zero]
    rfl
  | cons b bs ih =>
    rw [List.cons_append, strokes, ih, strokes, List.append_assoc, advances_cons, Int.natCast_add,
      Int.add_assoc]

variable {l x y fg bg}

theorem glyph?_size (hl : l.font ∈ Font.builtin) {b : UInt8} {g : Glyph} (hg : l.glyph? b = some g) :
    g.width = l.advance b ∧ g.height ≤ l.font.height := by
  have hb : ¬ b ≥ 0xC0 := by
    intro hb
    rw [glyph?, if_pos hb] at hg
    cases hg
  constructor
  · rw [advance, if_neg hb, hg]
    rfl
  · rw [glyph?, if_neg hb] at hg
    split at hg
    · rw [Font.height_of_glyph? (by simp [Font.builtin]) hg]
      exact Font.symbols_height_le hl
    · exact Nat.le_of_eq (Font.height_of_glyph? hl hg)

/-- **Nothing of a label is drawn beside its layout.** -/
theorem contains_layout (hl : l.font ∈ Font.builtin) {s : Stroke} {u v : Int}
    (hs : s ∈ l.strokes y fg bg l.bytes x) (hc : s.box.Contains u v) : (l.layout x y).Contains u v := by
  unfold layout
  generalize l.bytes = bs at hs
  induction bs generalizing x with
  | nil => cases hs
  | cons b bs ih =>
    rw [advances_cons]
    rcases List.mem_append.1 hs with hs | hs
    · cases hg : l.glyph? b with
      | none =>
        rw [hg] at hs
        cases hs
      | some g =>
        rw [hg] at hs
        obtain ⟨hw, hh⟩ := glyph?_size hl hg
        have hin := Stroke.contains_of_mem_grid hs hc
        unfold Box.Contains at *
        dsimp only at *
        omega
    · have hin := ih hs
      unfold Box.Contains at *
      dsimp only at *
      omega

/-- The text of a label shows it as it is laid out. -/
theorem event_shows (l : Label) (x y : Int) : (l.event x y).Shows (l.piece x y) where
  text := rfl
  left := rfl
  top := rfl
  wide := ⟨l.advances l.bytes, rfl, by rw [← width_eq_advances]; rfl⟩
  high := ⟨l.font.height, rfl, rfl⟩

theorem isBlank_of_isEmpty (h : l.bytes.isEmpty = true) : l.isBlank = true := by
  rw [isBlank, text, List.isEmpty_iff.1 h]
  rfl

end Label

namespace Drawing

/-- The kinds of components that show a label. -/
def showsLabel (c : Component) : Bool := c.kind == .label || c.kind == .labeline || c.kind == .button

/-- The label that a component shows. -/
def labelOf (c : Component) (ctx : Bytes) : Label := .ofContext c.font ctx

/-- What is read from a component: its label, if there is more to it than spaces. -/
def piece? : Drawing → Option Piece
  | icon _ _ => none
  | component c ctx =>
    let l := labelOf c ctx
    if showsLabel c && !l.isBlank then some (l.piece (l.startX c) (l.startY c)) else none

theorem font_labelOf (c : Component) (ctx : Bytes) : (labelOf c ctx).font ∈ Font.builtin :=
  Font.ofId_mem _

/-- The strokes of a component end with those of the label that it shows. -/
theorem exists_label_strokes {c : Component} (hk : showsLabel c = true) (ctx : Bytes) :
    let l := labelOf c ctx
    ∃ (before : List Stroke) (fg bg : Color),
      (component c ctx).strokes = before ++ l.strokes (l.startY c) fg bg l.bytes (l.startX c) := by
  unfold showsLabel at hk
  unfold strokes
  dsimp only
  cases hc : c.kind with
  | label | labeline => exact ⟨_, _, _, rfl⟩
  | button =>
    dsimp only
    split <;> exact ⟨_, _, _, rfl⟩
  | none | rectangle | line | circle | icon =>
    rw [hc] at hk
    cases hk

theorem text_drawLabel (c : Component) (ctx : Bytes) (fg bg : Color) (canvas : Canvas) :
    let l := labelOf c ctx
    (drawLabel c ctx fg bg canvas).text =
      if l.isBlank then canvas.text else canvas.text.addEvent (l.event (l.startX c) (l.startY c)) := by
  unfold drawLabel labelOf
  dsimp only
  split
  · rename_i he
    rw [Label.isBlank_of_isEmpty he]
    rfl
  · split <;> rfl

theorem text_draw {c : Component} (hk : showsLabel c = true) (ctx : Bytes) (canvas : Canvas) :
    let l := labelOf c ctx
    ((component c ctx).draw canvas).text =
      if l.isBlank then canvas.text else canvas.text.addEvent (l.event (l.startX c) (l.startY c)) := by
  unfold showsLabel at hk
  unfold draw
  dsimp only
  cases hc : c.kind with
  | label | labeline =>
    dsimp only
    rw [text_drawLabel]
    cases c.filled <;> rfl
  | button =>
    dsimp only
    split <;> exact text_drawLabel c ctx _ _ _
  | none | rectangle | line | circle | icon =>
    rw [hc] at hk
    cases hk

/-- **What a component adds to the texts.** -/
theorem reading_draw {maxGap : Nat} {ps : List Piece} {taken : List TextEvent} (d : Drawing)
    {canvas : Canvas} (h : Reading maxGap ps taken canvas.text) :
    Reading maxGap (ps ++ d.piece?.toList) taken (d.draw canvas).text := by
  have nothing := h.append_nil
  cases d with
  | icon c i => exact nothing
  | component c ctx =>
    cases hk : showsLabel c with
    | true =>
      rw [text_draw hk, piece?, hk, Bool.true_and]
      cases (labelOf c ctx).isBlank with
      | true => exact nothing
      | false => exact .label (Label.event_shows _ _ _) h
    | false =>
      have hn : (component c ctx).piece? = Option.none := by
        rw [piece?, hk]
        rfl
      rw [hn]
      unfold draw
      dsimp only
      cases hc : c.kind with
      | none | line | circle | icon => exact nothing
      | rectangle =>
        dsimp only
        split
        · exact nothing.clear
        · exact nothing
      | label | labeline | button =>
        rw [showsLabel, hc] at hk
        cases hk

end Drawing

/-! ## Bitmaps -/

section Bitmaps

variable {maxGap : Nat} {ps : List Piece} {taken : List TextEvent} {s : ScreenText}

/-- A bitmap adds the character that it shows, if it shows one. -/
theorem reading_addBitmap (h : Reading maxGap ps taken s) (bs : Bytes) (x y w k : UInt16) :
    Reading maxGap (ps ++ ((Glyph.recognize bs w.toNat k.toNat).map fun c =>
      ScreenText.Placed.piece ⟨c, x, y, w, k⟩).toList) taken ((s.addBitmap bs x y w k).getD s) := by
  unfold ScreenText.addBitmap
  cases Glyph.recognize bs w.toNat k.toNat with
  | none => exact h.append_nil
  | some c => exact .char ⟨c, x, y, w, k⟩ h

/-- The rectangle of a raw bitmap. -/
def BitmapHeader.box (h : BitmapHeader) : Box := ⟨h.x.toInt, h.y.toInt, h.width.toNat, h.height.toNat⟩

namespace RawPiece

/-- What is read from a piece of a raw bitmap: the character that it shows, if it is a first piece of one
bit to the pixel with its corner not left of or above the screen. -/
def piece? (p : RawPiece) : Option Piece :=
  let h := p.cursor.header
  match p.first with
  | some bitmap =>
    if h.depth = 1 ∧ 0 ≤ h.x ∧ 0 ≤ h.y then
      (Glyph.recognize bitmap h.width.toNat h.height.toNat).map fun c => ⟨c.toString, h.box.clamped⟩
    else none
  | none => none

theorem toNat_toUInt16 {x : Int16} (hx : 0 ≤ x) : x.toUInt16.toNat = x.toInt.toNat := by
  have h := Int16.le_iff_toInt_le.1 hx
  have h0 : (0 : Int16).toInt = 0 := rfl
  have hn : x.toInt = x.toBitVec.toInt := rfl
  rw [BitVec.toInt_eq_toNat_cond] at hn
  have hlt := x.toBitVec.isLt
  show x.toBitVec.toNat = _
  split at hn <;> omega

theorem piece_placed {h : BitmapHeader} (hx : 0 ≤ h.x) (hy : 0 ≤ h.y) (c : Char) :
    (⟨c, h.x.toUInt16, h.y.toUInt16, h.width, h.height⟩ : ScreenText.Placed).piece =
      ⟨c.toString, h.box.clamped⟩ := by
  unfold BitmapHeader.box Box.clamped ScreenText.Placed.piece Seph.Box.sized
  rw [toNat_toUInt16 hx, toNat_toUInt16 hy]
  rfl

theorem reading_readText (p : RawPiece) (h : Reading maxGap ps taken s) :
    Reading maxGap (ps ++ p.piece?.toList) taken (p.readText s) := by
  unfold piece? readText
  dsimp only
  cases p.first with
  | none => exact h.append_nil
  | some bitmap =>
    dsimp only
    split
    · rename_i hd
      have := reading_addBitmap h bitmap p.cursor.header.x.toUInt16 p.cursor.header.y.toUInt16
        p.cursor.header.width p.cursor.header.height
      simpa only [piece_placed hd.2.1 hd.2.2] using this
    · exact h.append_nil

/-- **What a piece of a raw bitmap adds to the texts**, on a device that reads them. -/
theorem reading_draw (p : RawPiece) (reads : Bool) {canvas : Canvas}
    (h : Reading maxGap ps taken canvas.text) :
    Reading maxGap (ps ++ (if reads then p.piece? else none).toList) taken (p.draw reads canvas).text := by
  cases reads with
  | true => exact reading_readText p h
  | false => exact h.append_nil

/-- A piece that is read is as large as its bitmap, and can be told in 16 bits. -/
theorem box_of_piece? {p : RawPiece} {q : Piece} (hq : p.piece? = some q) :
    q.box = p.cursor.header.box.clamped ∧ q.box.Tellable := by
  unfold piece? at hq
  dsimp only at hq
  split at hq
  · split at hq
    · rename_i hd
      obtain ⟨c, -, rfl⟩ := Option.map_eq_some_iff.1 hq
      refine ⟨rfl, ?_⟩
      rw [← piece_placed hd.2.1 hd.2.2]
      exact Seph.Box.tellable_sized _ _ _ _
    · cases hq
  · cases hq

theorem drawn_add_length_le {cursor : Option RawCursor} {bs : Bytes} {p : RawPiece}
    (hp : (ofStatus cursor bs).1 = .ok p) : p.values = [] ∨
      p.cursor.drawn + p.values.length ≤ p.cursor.header.width.toNat * p.cursor.header.height.toNat := by
  unfold ofStatus at hp
  split at hp
  · cases hp
  · dsimp only at hp
    split at hp
    · cases hp
    · split at hp
      · cases hp
        exact .inl rfl
      · split at hp
        · cases hp
        · cases hp
          dsimp only
          rename_i current _ _ _
          rw [List.length_take]
          rcases Nat.lt_or_ge current.drawn (current.header.width.toNat * current.header.height.toNat)
            with hlt | hge
          · exact .inr (by omega)
          · exact .inl (by rw [Nat.sub_eq_zero_of_le hge, List.take_zero])

/-- **Nothing of a raw bitmap is drawn beside its rectangle.** -/
theorem contains_box {cursor : Option RawCursor} {bs : Bytes} {p : RawPiece}
    (hp : (ofStatus cursor bs).1 = .ok p) {s : Stroke} {u v : Int} (hs : s ∈ p.strokes)
    (hc : s.box.Contains u v) : p.cursor.header.box.Contains u v := by
  unfold strokes valueStrokes at hs
  obtain ⟨⟨b, i⟩, hi, rfl⟩ := List.mem_map.1 hs
  obtain ⟨hlo, hhi, -⟩ := List.mem_zipIdx hi
  have hlen : i < p.cursor.header.width.toNat * p.cursor.header.height.toNat := by
    rcases drawn_add_length_le hp with hv | hle
    · rw [hv] at hi
      cases hi
    · omega
  have hw : 0 < p.cursor.header.width.toNat := Nat.pos_of_mul_pos_right (Nat.zero_lt_of_lt hlen)
  have hcol : i % p.cursor.header.width.toNat < p.cursor.header.width.toNat := Nat.mod_lt i hw
  have hrow : i / p.cursor.header.width.toNat < p.cursor.header.height.toNat := by
    rw [Nat.div_lt_iff_lt_mul hw, Nat.mul_comm]
    exact hlen
  unfold Box.Contains Stroke.point at hc
  unfold Box.Contains BitmapHeader.box
  dsimp only at hc ⊢
  generalize i % p.cursor.header.width.toNat = col at hc hcol
  generalize i / p.cursor.header.width.toNat = row at hc hrow
  omega

end RawPiece

end Bitmaps

end Bagl

/-! ## Pictures -/

namespace Nbgl.Drawing

/-- What is read from a command: the stamp of a picture, or the character that a picture of one bit
shows. -/
def piece? : Drawing → Option Piece
  | rect _ => none
  | line _ => none
  | picture a depth _ p stamp =>
    let char? : Option Char := match stamp with
      | some c => if isControl c then none else some c
      | none => if depth = .one then Glyph.recognize p.bitmap a.width.toNat a.height.toNat else none
    char?.map fun c => ScreenText.Placed.piece ⟨c, a.x0, a.y0, a.width, a.height⟩

/-- **What a command adds to the texts.** -/
theorem reading_draw {maxGap : Nat} {ps : List Piece} {taken : List TextEvent} (d : Drawing)
    {canvas : Canvas} (h : Reading maxGap ps taken canvas.text) :
    Reading maxGap (ps ++ d.piece?.toList) taken (d.draw canvas).text := by
  have nothing := h.append_nil
  cases d with
  | rect a =>
    unfold draw
    dsimp only
    split
    · exact .clear nothing
    · exact nothing
  | line l => exact nothing
  | picture a depth colorMap p stamp =>
    show Reading maxGap _ taken (readText canvas.text a depth p stamp)
    unfold readText piece?
    cases stamp with
    | some c =>
      dsimp only
      split
      · exact nothing
      · exact .char ⟨c, a.x0, a.y0, a.width, a.height⟩ h
    | none =>
      dsimp only
      by_cases hd : depth = .one
      · rw [if_pos hd, if_pos hd]
        exact Bagl.reading_addBitmap h p.bitmap a.x0 a.y0 a.width a.height
      · rw [if_neg hd, if_neg hd]
        exact nothing

end Nbgl.Drawing
end Seph
