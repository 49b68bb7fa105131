import Seph.Proofs.Bagl.Payload
import Seph.Proofs.Engine.Run

/-!
# Raw bitmaps in pieces

A raw bitmap is sent at once or in pieces, cut between any two of its bytes. What is carried from one
piece to the next is the cursor, and it says all that is needed: the device after some pieces is told
from the bytes in them alone (`Engine.received`).

1. `drawValues_append`, `BitmapHeader.pixels_append`: pixels that are drawn in two goes, and what the
   second go still has to draw.
2. `RawPiece.ofStatus_start`, `RawPiece.ofStatus_more`: what is accepted, and the cursor behind it.
3. `Engine.after_pieces`: the device after all pieces.
4. `Engine.pieces_draw_whole`: the pieces draw what the whole bitmap draws.
-/

namespace Seph

namespace Bagl

/-! ## Pixels -/

theorem le_of_validDepth {depth : UInt8} (hv : validDepth depth = true) : depth ≤ 8 := by
  simp only [validDepth, Bool.or_eq_true, beq_iff_eq] at hv
  rcases hv with ((hv | hv) | hv) | hv <;> rw [hv] <;> decide

theorem length_unpack (depth : UInt8) (bs : Bytes) :
    (unpack depth bs).length = 8 / depth.toNat * bs.length := by
  induction bs with
  | nil => rfl
  | cons b bs ih =>
    have hb : (lowValues depth.toNat b).length = 8 / depth.toNat := by simp [lowValues]
    rw [unpack, List.flatMap_cons, List.length_append, hb, List.length_cons, Nat.mul_succ, Nat.add_comm]
    exact congrArg (· + _) ih

theorem unpack_append (depth : UInt8) (bs cs : Bytes) :
    unpack depth (bs ++ cs) = unpack depth bs ++ unpack depth cs := List.flatMap_append

/-- Drawing goes on where it stopped. -/
theorem drawValues_append (fb : Framebuffer) (x y : Int) (w start : Nat) (colors : List UInt32)
    (vs ws : Bytes) :
    drawValues fb x y w start colors (vs ++ ws) =
      drawValues (drawValues fb x y w start colors vs) x y w (start + vs.length) colors ws := by
  simp only [drawValues_eq_paint, ← Framebuffer.paint_append, valueStrokes, List.zipIdx_append,
    List.map_append]

namespace BitmapHeader

variable (h : BitmapHeader)

/-- The number of pixels of a bitmap. -/
def area : Nat := h.width.toNat * h.height.toNat

/-- The pixels in the first bytes of a bitmap; what is left over behind its last pixel is no pixel. -/
def pixels (bs : Bytes) : Bytes := (unpack h.depth bs).take h.area

theorem length_pixels (bs : Bytes) :
    (h.pixels bs).length = min h.area (8 / h.depth.toNat * bs.length) := by
  rw [pixels, List.length_take, length_unpack]

theorem pixels_append (bs cs : Bytes) :
    h.pixels (bs ++ cs) =
      h.pixels bs ++ (unpack h.depth cs).take (h.area - (h.pixels bs).length) := by
  have missing : h.area - (h.pixels bs).length = h.area - (unpack h.depth bs).length := by
    rw [pixels, List.length_take]
    omega
  rw [missing, pixels, unpack_append, List.take_append, pixels]

variable {h}

theorem area_of_width (hw : h.width = 0) : h.area = 0 := by
  rw [area, hw]
  exact Nat.zero_mul _

end BitmapHeader

/-! ## What is accepted -/

namespace RawPiece

variable {h : BitmapHeader}

theorem ofStatus_start (hc : h.Colored) (hv : validDepth h.depth = true) (cursor : Option RawCursor)
    (bitmap : Bytes) :
    ofStatus cursor (RawStatus.start h bitmap).encode =
      (.ok ⟨⟨h, 0⟩, h.pixels bitmap, some bitmap⟩, some ⟨h, (h.pixels bitmap).length⟩) := by
  unfold ofStatus
  rw [RawStatus.decode_start hc]
  dsimp only
  by_cases hw : h.width = 0
  · have hp : h.pixels bitmap = [] := by
      rw [BitmapHeader.pixels, BitmapHeader.area_of_width hw, List.take_zero]
    rw [if_pos hw, hp]
    rfl
  · rw [if_neg hw, hv, Nat.zero_add]
    rfl

theorem ofStatus_more (hv : validDepth h.depth = true) (drawn : Nat) (bitmap : Bytes) :
    let values := (unpack h.depth bitmap).take (h.area - drawn)
    ofStatus (some ⟨h, drawn⟩) (RawStatus.more bitmap).encode =
      (.ok ⟨⟨h, drawn⟩, values, none⟩, some ⟨h, drawn + values.length⟩) := by
  unfold ofStatus
  rw [RawStatus.decode_more]
  dsimp only
  by_cases hw : h.width = 0
  · rw [if_pos hw, BitmapHeader.area_of_width hw, Nat.zero_sub, List.take_zero]
    rfl
  · rw [if_neg hw, hv]
    rfl

theorem first_of_more {cursor : Option RawCursor} {bitmap : Bytes} {p : RawPiece}
    (hp : (ofStatus cursor (RawStatus.more bitmap).encode).1 = .ok p) : p.first = none := by
  unfold ofStatus at hp
  rw [RawStatus.decode_more] at hp
  cases cursor with
  | none => cases hp
  | some cursor =>
    dsimp only at hp
    split at hp
    · cases hp
      rfl
    · split at hp
      · cases hp
      · cases hp
        rfl

theorem text_draw_of_first {p : RawPiece} (hp : p.first = none) (reads : Bool) (canvas : Canvas) :
    (p.draw reads canvas).text = canvas.text := by
  have hr (text : ScreenText) : p.readText text = text := by rw [readText, hp]
  cases reads with
  | true => exact hr canvas.text
  | false => rfl

end RawPiece

namespace RawStatus

def packet (s : RawStatus) : Packet := ⟨.displayRawStatus, s.encode⟩

def pieces (h : BitmapHeader) (first : Bytes) (rest : List Bytes) : List RawStatus :=
  start h first :: rest.map more

end RawStatus
end Bagl

open Bagl (BitmapHeader RawStatus RawPiece validDepth drawValues)

namespace Engine

/-! ## Devices that receive a bitmap -/

/-- The device when it has drawn the pixels in the first bytes of a bitmap, and read some text. -/
def received (e : Engine) (h : BitmapHeader) (bs : Bytes) (text : ScreenText) : Engine :=
  let { model, graphics, canvas, cursor := _, link, rules, refresh := _, console } := e
  let values := h.pixels bs
  { model, graphics
    canvas := ⟨drawValues canvas.frame h.x.toInt h.y.toInt h.width.toNat 0 h.colors values, text⟩
    cursor := some ⟨h, values.length⟩
    link, rules, refresh := some .full, console }

theorem add_full (r : Option Refresh) : Refresh.add r .full = .full := by
  rcases r with _ | _ | _ <;> rfl

theorem update_packet {e : Engine} (hg : e.graphics = .bagl) (s : RawStatus) :
    e.update s.packet = e.displayRawStatus s.encode := by
  show e.withGraphics .bagl .displayRawStatus (·.displayRawStatus s.encode) = _
  rw [withGraphics, if_pos hg]

/-- The operations that tell a device the pieces. -/
def told (ss : List RawStatus) : List Op := ss.map fun s => .update s.packet

theorem told_cons (s : RawStatus) (ss : List RawStatus) :
    told (s :: ss) = .update s.packet :: told ss := rfl

section Pieces

variable {e : Engine} {h : BitmapHeader}

theorem exists_update_start (hg : e.graphics = .bagl) (hc : h.Colored) (hv : validDepth h.depth = true)
    (bs : Bytes) :
    ∃ text, e.update (RawStatus.start h bs).packet = quiet (e.received h bs text) (.ok [processed]) := by
  rw [update_packet hg, displayRawStatus, RawPiece.ofStatus_start hc hv]
  obtain ⟨model, graphics, ⟨frame, text⟩, cursor, link, rules, refresh, console⟩ := e
  cases hr : model.readsRawBitmaps with
  | true =>
    refine ⟨RawPiece.readText ⟨⟨h, 0⟩, h.pixels bs, some bs⟩ text, ?_⟩
    dsimp only [draw, RawPiece.draw, addRefresh, received]
    rw [hr, add_full]
    rfl
  | false =>
    refine ⟨text, ?_⟩
    dsimp only [draw, RawPiece.draw, addRefresh, received]
    rw [hr, add_full]
    rfl

theorem update_more (hg : e.graphics = .bagl) (hv : validDepth h.depth = true) (bs cs : Bytes)
    (text : ScreenText) :
    (e.received h bs text).update (RawStatus.more cs).packet =
      quiet (e.received h (bs ++ cs) text) (.ok [processed]) := by
  have hg' : (e.received h bs text).graphics = .bagl := hg
  rw [update_packet hg', displayRawStatus]
  have ho := RawPiece.ofStatus_more hv (h.pixels bs).length cs
  obtain ⟨model, graphics, ⟨frame, t⟩, cursor, link, rules, refresh, console⟩ := e
  dsimp only [received] at ho ⊢
  rw [ho, h.pixels_append bs cs, Bagl.drawValues_append, Nat.zero_add, List.length_append]
  dsimp only [draw, RawPiece.draw, addRefresh]
  cases model.readsRawBitmaps <;> rfl

/-- What a device that drew some of a bitmap does at later pieces: it accepts them all, and what it is
afterwards is told from the bytes received. -/
theorem after_more (hg : e.graphics = .bagl) (hv : validDepth h.depth = true) (bs : Bytes)
    (text : ScreenText) (rest : List Bytes) :
    (e.received h bs text).after (told (rest.map .more)) = e.received h (bs ++ rest.flatten) text ∧
      ∀ s ∈ (e.received h bs text).history (told (rest.map .more)),
        (s.1.step s.2).result = .ok [processed] := by
  induction rest generalizing bs with
  | nil =>
    rw [List.flatten_nil, List.append_nil]
    refine ⟨rfl, fun s hs => ?_⟩
    cases hs
  | cons cs rest ih =>
    have hs : (e.received h bs text).step (.update (RawStatus.more cs).packet) =
        quiet (e.received h (bs ++ cs) text) (.ok [processed]) := update_more hg hv bs cs text
    obtain ⟨ha, hr⟩ := ih (bs ++ cs)
    rw [List.map_cons, told_cons, after_cons, history_cons, hs, List.flatten_cons, ← List.append_assoc]
    refine ⟨ha, fun s hm => ?_⟩
    rcases List.mem_cons.1 hm with rfl | hm
    · exact congrArg Step.result hs
    · exact hr s hm

end Pieces

/-- A later piece of a bitmap is not read, whether it is accepted or not. -/
theorem text_update_more (e : Engine) (bs : Bytes) :
    (e.update (RawStatus.more bs).packet).engine.canvas.text = e.canvas.text := by
  by_cases hg : e.graphics = .bagl
  · rw [update_packet hg]
    unfold displayRawStatus
    dsimp only
    cases hp : (RawPiece.ofStatus e.cursor (RawStatus.more bs).encode).1 with
    | error x => rfl
    | ok p => exact RawPiece.text_draw_of_first (RawPiece.first_of_more hp) e.model.readsRawBitmaps e.canvas
  · show (e.withGraphics .bagl .displayRawStatus (·.displayRawStatus _)).engine.canvas.text = _
    rw [withGraphics, if_neg hg]
    rfl

/-- **A bitmap in pieces draws what the whole bitmap draws.** Wherever the bytes are cut, every piece
is accepted, and the device is afterwards as if the whole bitmap had come at once, but for the text:
that is read from the first piece alone, since no device reads a later piece. The cursor stands behind
the pixels received, and never behind the last pixel of the bitmap. -/
theorem pieces_draw_whole (e : Engine) (h : BitmapHeader) (first : Bytes) (rest : List Bytes)
    (hg : e.graphics = .bagl) (hv : validDepth h.depth = true)
    (hc : h.colors.length = 2 ^ h.depth.toNat) :
    let cut := told (RawStatus.pieces h first rest)
    let whole := first ++ rest.flatten
    let atOnce := (e.update (RawStatus.start h whole).packet).engine
    (∀ s ∈ e.history cut, (s.1.step s.2).result = .ok [processed]) ∧
      (e.after cut).canvas.frame = atOnce.canvas.frame ∧
      { e.after cut with canvas := atOnce.canvas } = atOnce ∧
      (e.after cut).cursor = some ⟨h, min (h.width.toNat * h.height.toNat)
        (8 / h.depth.toNat * whole.length)⟩ ∧
      (e.after cut).canvas.text =
        (e.update (RawStatus.start h first).packet).engine.canvas.text ∧
      ∀ (d : Engine) (bs : Bytes),
        (d.update (RawStatus.more bs).packet).engine.canvas.text = d.canvas.text := by
  have hd : h.depth ≤ 8 := Bagl.le_of_validDepth hv
  obtain ⟨t, ht⟩ := exists_update_start hg ⟨hd, hc⟩ hv first
  obtain ⟨u, hu⟩ := exists_update_start hg ⟨hd, hc⟩ hv (first ++ rest.flatten)
  have hs : e.step (.update (RawStatus.start h first).packet) =
      quiet (e.received h first t) (.ok [processed]) := ht
  obtain ⟨ha, hr⟩ := after_more hg hv first t rest
  have hcut : e.after (told (RawStatus.pieces h first rest)) =
      e.received h (first ++ rest.flatten) t := by
    rw [RawStatus.pieces, told_cons, after_cons, hs]
    exact ha
  dsimp only
  rw [hcut, hu, ht]
  refine ⟨fun s hm => ?_, rfl, rfl, ?_, rfl, text_update_more⟩
  · rw [RawStatus.pieces, told_cons, history_cons, hs] at hm
    rcases List.mem_cons.1 hm with rfl | hm
    · exact congrArg Step.result hs
    · exact hr s hm
  · rw [← BitmapHeader.area, ← h.length_pixels]
    rfl

/-- A bitmap of twelve pixels that starts left of the screen, cut into four pieces, the second of them
empty and the last with twelve bits too many. -/
theorem pieces_draw_twelve_pixels :
    let e := new .nanoSP .hid (some .bagl)
    let h : BitmapHeader := ⟨-1, 2, 4, 3, 1, [0, 0xFFFFFF]⟩
    let cut := e.after (told (RawStatus.pieces h [0xA5] [[], [0x5A], [0xFF]]))
    let atOnce := (e.update (RawStatus.start h [0xA5, 0x5A, 0xFF]).packet).engine
    (e.graphics = .bagl ∧ validDepth h.depth = true ∧ h.colors.length = 2 ^ h.depth.toNat) ∧
      cut.canvas.frame = atOnce.canvas.frame ∧ cut.cursor = atOnce.cursor ∧
      cut.cursor = some ⟨h, 12⟩ := by
  intro e h cut atOnce
  have hg : e.graphics = .bagl := rfl
  -- the device is opaque from here on: no step has to draw anything
  clear_value e
  obtain ⟨-, hf, hr, hc, -⟩ :=
    pieces_draw_whole e h [0xA5] [[], [0x5A], [0xFF]] hg (by decide) (by decide)
  have counted : min (h.width.toNat * h.height.toNat)
      (8 / h.depth.toNat * ([0xA5] ++ [[], [0x5A], [0xFF]].flatten : Bytes).length) = 12 := by decide
  rw [counted] at hc
  exact ⟨⟨hg, by decide, by decide⟩, hf, (congrArg Engine.cursor hr :), hc⟩

end Engine
end Seph
