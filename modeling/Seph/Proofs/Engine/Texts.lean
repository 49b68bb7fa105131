import Seph.Proofs.Display.Layout
import Seph.Proofs.Engine.RawBitmap
import Seph.Proofs.Engine.Reactions

/-!
# The texts of a run and their boxes

What is read in a run is told piece by piece, each in the box of what was drawn, in exact numbers
(`Engine.pieces`). The texts that are reported, and after them those that still wait, are put together
from these pieces. They tell their boxes in 16 bits, and nothing keeps a box from being larger than that:
a label may be wider than any screen, or start far beyond it, and bitmaps may be put side by side.

1. `Engine.reading_step`: what one operation adds to the pieces and to the texts.
2. `Engine.reading_after`: a run leads to a reading.
3. `Engine.texts_told_in_boxes`: when the boxes of the texts are those of what was drawn.
-/

namespace Seph

open Framebuffer (Stroke)
open ScreenText (Reading)

def Output.text? : Output → Option TextEvent
  | .text t => some t
  | _ => none

namespace Engine

/-! ## What is read -/

def Step.texts (s : Step) : List TextEvent :=
  match s.result with
  | .ok outputs => outputs.filterMap Output.text?
  | .error _ => []

/-- What is read from a payload that is meant for one graphics library, if the device has it and accepts
the payload. -/
def readFrom {α : Type} (e : Engine) (g : Graphics) (r : Except DrawError α) (piece? : α → Option Piece) :
    Option Piece :=
  if e.graphics = g then
    match r with
    | .ok a => piece? a
    | .error _ => none
  else none

def piece? (e : Engine) : Op → Option Piece
  | .update ⟨.displayStatus, bs⟩ => e.readFrom .bagl (Bagl.Drawing.ofStatus bs) Bagl.Drawing.piece?
  | .update ⟨.displayRawStatus, bs⟩ =>
    e.readFrom .bagl (Bagl.RawPiece.ofStatus e.cursor bs).1
      fun p => if e.model.readsRawBitmaps then p.piece? else none
  | .update ⟨.nbglRect, bs⟩ => picture (Nbgl.Drawing.ofRect e.canvas.frame.panel bs)
  | .update ⟨.nbglLine, bs⟩ => picture (Nbgl.Drawing.ofLine e.canvas.frame.panel bs)
  | .update ⟨.nbglImage, bs⟩ => picture (Nbgl.Drawing.ofImage e.canvas.frame.panel bs)
  | .update ⟨.nbglImageFile, bs⟩ => picture (Nbgl.Drawing.ofFile e.canvas.frame.panel bs)
  | .update ⟨.nbglImageRle, bs⟩ => picture (Nbgl.Drawing.ofRuns e.canvas.frame.panel bs)
  | _ => none
where
  picture (r : Except DrawError Nbgl.Drawing) : Option Piece := e.readFrom .nbgl r Nbgl.Drawing.piece?

/-- The pieces that are read in a run, in order. -/
def pieces (e : Engine) (os : List Op) : List Piece :=
  (e.history os).filterMap fun (e, o) => e.piece? o

/-- The texts that a run reports, in order. -/
def reported (e : Engine) (os : List Op) : List TextEvent :=
  (e.history os).flatMap fun (e, o) => (e.step o).texts

/-! ## One operation -/

/-- A step takes what was read so far to what was read with one more piece, if there is one. -/
def Reads (e : Engine) (q? : Option Piece) (s : Step) : Prop :=
  ∀ maxGap ps taken, Reading maxGap ps taken e.canvas.text →
    Reading maxGap (ps ++ q?.toList) (taken ++ s.texts) s.engine.canvas.text

section Packets

variable {e : Engine}

theorem reads_nothing {s : Step} (hs : s.texts = []) (ht : s.engine.canvas.text = e.canvas.text) :
    Reads e none s := by
  intro maxGap ps taken h
  rw [hs, ht]
  exact h.append_nil.taken_append_nil

theorem LinkOnly.reads {s : Step} (h : LinkOnly e s) : Reads e none s := by
  obtain ⟨l, hl⟩ := h.engine
  refine reads_nothing ?_ (by rw [hl])
  unfold Step.texts
  split
  · rename_i outs hs
    exact h.filterMap_eq_nil hs (fun _ => rfl) fun _ => rfl
  · rfl

theorem reads_withGraphics {α : Type} {g : Graphics} {t : Tag} {step : Engine → Step}
    {r : Except DrawError α} {q? : α → Option Piece}
    (hok : ∀ a, r = .ok a → Reads e (q? a) (step e)) (herr : ∀ x, r = .error x → Reads e none (step e)) :
    Reads e (e.readFrom g r q?) (e.withGraphics g t step) := by
  unfold readFrom withGraphics
  split
  · cases r with
    | ok a => exact hok a rfl
    | error x => exact herr x rfl
  · exact reads_nothing rfl rfl

theorem reads_drawNbgl {t : Tag} (r : Except DrawError Nbgl.Drawing) :
    Reads e (piece?.picture e r) (e.withGraphics .nbgl t (·.drawNbgl r)) := by
  refine reads_withGraphics ?_ ?_
  · rintro d rfl maxGap ps taken h
    exact (d.reading_draw h).taken_append_nil
  · rintro x rfl
    exact reads_nothing rfl rfl

theorem reads_displayStatus {t : Tag} (bs : Bytes) :
    Reads e (e.readFrom .bagl (Bagl.Drawing.ofStatus bs) Bagl.Drawing.piece?)
      (e.withGraphics .bagl t (·.displayStatus bs)) := by
  refine reads_withGraphics (fun d hd => ?_) fun x hx => ?_
  · intro maxGap ps taken h
    unfold displayStatus
    rw [hd]
    exact (d.reading_draw h).taken_append_nil
  · unfold displayStatus
    rw [hx]
    exact reads_nothing rfl rfl

theorem reads_displayRawStatus {t : Tag} (bs : Bytes) :
    Reads e (e.readFrom .bagl (Bagl.RawPiece.ofStatus e.cursor bs).1
      fun p => if e.model.readsRawBitmaps then p.piece? else none)
      (e.withGraphics .bagl t (·.displayRawStatus bs)) := by
  refine reads_withGraphics (fun p hp => ?_) fun x hx => ?_
  · intro maxGap ps taken h
    unfold displayRawStatus
    dsimp only
    rw [hp]
    exact (p.reading_draw e.model.readsRawBitmaps h).taken_append_nil
  · unfold displayRawStatus
    dsimp only
    rw [hx]
    exact reads_nothing rfl rfl

theorem reads_refreshNbgl {t : Tag} (bs : Bytes) :
    Reads e none (e.withGraphics .nbgl t (·.refreshNbgl bs)) := by
  have h : Reads e none (e.refreshNbgl bs) := by
    unfold refreshNbgl
    split
    · exact reads_nothing rfl rfl
    · exact reads_nothing rfl rfl
  unfold withGraphics
  split
  · exact h
  · exact reads_nothing rfl rfl

theorem texts_finish (e : Engine) : e.finish.texts = e.canvas.text.events := by
  have shown (ps : Array Pixel) : (shown ps).filterMap Output.text? = [] := by
    unfold Engine.shown
    split <;> rfl
  have reactions : (reactAll e.rules e.canvas.text.events).2.filterMap Output.text? = [] := by
    rw [List.filterMap_eq_nil_iff]
    intro o ho
    have hr := isReaction_of_mem_reactAll ho
    cases o with
    | action | exit => rfl
    | event | reply | statusReceived | apdu | text | screen => cases hr
  have texts (es : List TextEvent) : (es.map Output.text).filterMap Output.text? = es := by
    rw [List.filterMap_map]
    exact List.filterMap_some
  rw [Step.texts, result_finish]
  simp only [List.filterMap_append, shown, reactions, texts, List.nil_append, List.append_nil]
  exact List.append_nil _

theorem reads_finish (e : Engine) : Reads e none e.finish := by
  intro maxGap ps taken h
  rw [texts_finish, text_finish]
  exact h.append_nil.take

theorem reads_generalStatus (bs : Bytes) : Reads e none (e.generalStatus bs) := by
  rcases generalStatus_cases e bs with hc | ⟨x, hc⟩
  · rw [hc]
    exact reads_finish e
  · rw [hc]
    exact reads_nothing rfl rfl

end Packets

/-- **Every operation adds what is read at it.** -/
theorem reading_step (e : Engine) (o : Op) : Reads e (e.piece? o) (e.step o) := by
  cases o with
  | setRules rules => exact reads_nothing rfl rfl
  | sendApdu apdu => exact (linkOnly_sendApdu apdu).reads
  | update p =>
    obtain ⟨tag, bs⟩ := p
    cases tag with
    | generalStatus => exact reads_generalStatus bs
    | displayStatus => exact reads_displayStatus bs
    | displayRawStatus => exact reads_displayRawStatus bs
    | nbglRect | nbglLine | nbglImage | nbglImageFile | nbglImageRle => exact reads_drawNbgl _
    | nbglRefresh => exact reads_refreshNbgl bs
    | rapdu => exact (linkOnly_receiveApdu bs).reads
    | usbConfig => exact (linkOnly_configureUsb bs).reads
    | usbPrepare => exact (linkOnly_prepareUsb bs).reads
    | printfStatus => exact reads_nothing rfl rfl
    | printcStatus =>
      refine reads_nothing ?_ rfl
      show (if e.model = .blue then [processed] else []).filterMap Output.text? = []
      split <;> rfl
    | powerOff | bleSend | bleRadioPower | playTune | mcu | requestStatus | buttonPush | finger
      | displayProcessed | ticker | usbEvent | usbTransfer | capdu => exact reads_nothing rfl rfl

/-! ## Runs -/

theorem pieces_concat (e : Engine) (os : List Op) (o : Op) :
    e.pieces (os ++ [o]) = e.pieces os ++ ((e.after os).piece? o).toList := by
  rw [pieces, history_concat, filterMap_concat, pieces]

theorem reported_concat (e : Engine) (os : List Op) (o : Op) :
    e.reported (os ++ [o]) = e.reported os ++ ((e.after os).step o).texts := by
  rw [reported, history_concat, List.flatMap_append, List.flatMap_singleton, reported]

theorem reported_status (e : Engine) (os : List Op) :
    e.reported (os ++ [.update ⟨.generalStatus, [0, 0]⟩]) =
      e.reported os ++ (e.after os).canvas.text.events := by
  rw [reported_concat]
  exact congrArg _ (texts_finish (e.after os))

/-- **A run leads to a reading.** -/
theorem reading_after (m : Model) (k : LinkKind) (g : Option Graphics) (os : List Op) :
    let e := new m k g
    Reading m.maxGap (e.pieces os) (e.reported os) (e.after os).canvas.text := by
  induction os using List.reverseRecOn with
  | nil => exact .start
  | append_singleton os o ih =>
    dsimp only
    rw [pieces_concat, reported_concat, after_concat]
    exact reading_step _ o _ _ _ ih

/-! ## Boxes -/

/-- **When a text is told in the box of what was drawn.**

1. In any run of any device, the texts that are reported and after them those that wait are put together
   from the pieces read, in order. The box of a text is the smallest rectangle around the boxes of its
   pieces exactly if 16 bits can tell that rectangle and those boxes.
2. A component that shows a label draws it from the pen's start, each byte where the bytes before it end,
   and nothing beside. What is read is as wide as all bytes together and as high as a line, and starts
   where the pen does, or at zero where that is negative. The text shows this modulo `2 ^ 16`.
3. A piece of a raw bitmap that is accepted is drawn in the rectangle of its header, and nothing beside.
   What is read from it has the same rectangle, and 16 bits can tell that. -/
theorem texts_told_in_boxes (m : Model) (k : LinkKind) (g : Option Graphics) (os : List Op) :
    let e := new m k g
    (∃ groups, groups.flatten = e.pieces os ∧
      List.Forall₂ TextEvent.Collects (e.reported os ++ (e.after os).canvas.text.events) groups) ∧
    (∀ (c : Bagl.Component) (ctx : Bytes), Bagl.Drawing.showsLabel c = true →
      let d := Bagl.Drawing.component c ctx
      let l := Bagl.Drawing.labelOf c ctx
      let x := l.startX c
      let y := l.startY c
      let q : Piece := ⟨l.text, x.toNat, y.toNat, x.toNat + l.advances l.bytes, y.toNat + l.font.height⟩
      (∃ before fg bg, d.strokes = before ++ l.strokes y fg bg l.bytes x ∧
        (∀ bs cs, l.bytes = bs ++ cs → l.strokes y fg bg l.bytes x =
          l.strokes y fg bg bs x ++ l.strokes y fg bg cs (x + l.advances bs)) ∧
        ∀ s ∈ l.strokes y fg bg l.bytes x, ∀ u v, s.box.Contains u v →
          (x ≤ u ∧ u < x + l.advances l.bytes) ∧ y ≤ v ∧ v < y + l.font.height) ∧
      d.piece? = (if l.isBlank then none else some q) ∧
      ∃ t : TextEvent, t.Shows q ∧ ∀ canvas : Canvas, (d.draw canvas).text =
        if l.isBlank then canvas.text else canvas.text.addEvent t) ∧
    ∀ cursor bs p, (Bagl.RawPiece.ofStatus cursor bs).1 = .ok p →
      (∀ s ∈ p.strokes, ∀ u v, s.box.Contains u v → p.cursor.header.box.Contains u v) ∧
      ∀ q, p.piece? = some q → q.box = p.cursor.header.box.clamped ∧ q.box.Tellable := by
  intro e
  refine ⟨?_, fun c ctx hk => ?_, fun cursor bs p hp => ⟨?_, fun q hq => ?_⟩⟩
  · obtain ⟨groups, hflat, hg⟩ := (reading_after m k g os).groups
    exact ⟨groups, hflat, hg.imp fun t ps h => h.collects⟩
  · intro d l x y q
    obtain ⟨before, fg, bg, hs⟩ := Bagl.Drawing.exists_label_strokes hk ctx
    refine ⟨⟨before, fg, bg, hs, fun bs cs h => ?_, fun s hs u v hc => ?_⟩, ?_, l.event x y,
      l.event_shows x y, Bagl.Drawing.text_draw hk ctx⟩
    · rw [h]
      exact l.strokes_append x y fg bg bs cs
    · exact Bagl.Label.contains_layout (Bagl.Drawing.font_labelOf c ctx) hs hc
    · show Bagl.Drawing.piece? (.component c ctx) = _
      rw [Bagl.Drawing.piece?, hk, Bool.true_and]
      cases l.isBlank <;> rfl
  · exact fun s hs u v hc => Bagl.RawPiece.contains_box hp hs hc
  · exact Bagl.RawPiece.box_of_piece? hq

/-- A label of two letters and a blank bitmap right behind it are one text, in the box around both. -/
theorem label_and_blank_told_in_box :
    let c : Bagl.Component := ⟨.label, 0, 10, 20, 30, 8, 0, 0, 0, 0xFFFFFF, 0, 0, 0⟩
    let ctx : Bytes := [0x4F, 0x6B]
    let header : Bagl.BitmapHeader := ⟨22, 20, 6, 8, 1, [0, 0xFFFFFF]⟩
    let blank := Bagl.RawStatus.start header []
    let p : Bagl.RawPiece := ⟨⟨header, 0⟩, header.pixels [], some []⟩
    (∃ groups, groups.flatten = [⟨"Ok", 10, 20, 22, 28⟩, ⟨" ", 22, 20, 28, 28⟩] ∧
      List.Forall₂ TextEvent.Collects [⟨"Ok ", 10, 20, 18, 8, false⟩] groups) ∧
    Bagl.Drawing.showsLabel c = true ∧
    (∃ t : TextEvent, t.Shows ⟨"Ok", 10, 20, 22, 28⟩ ∧ ∀ canvas : Canvas,
      ((Bagl.Drawing.component c ctx).draw canvas).text = canvas.text.addEvent t) ∧
    (Bagl.RawPiece.ofStatus none blank.encode).1 = .ok p ∧ p.piece? = some ⟨" ", 22, 20, 28, 28⟩ ∧
    (⟨22, 20, 28, 28⟩ : Box) = header.box.clamped := by
  intro c ctx header blank p
  let os : List Op := [.update ⟨.displayStatus, c.encode ++ ctx⟩, .update blank.packet]
  let l := Bagl.Drawing.labelOf c ctx
  obtain ⟨⟨groups, hflat, hg⟩, labels, bitmaps⟩ := texts_told_in_boxes .nanoSP .hid none os
  have pieces : (new .nanoSP .hid none).pieces os =
      [⟨"Ok", 10, 20, 22, 28⟩, ⟨" ", 22, 20, 28, 28⟩] := by decide +kernel
  have texts : (new .nanoSP .hid none).reported os ++
      ((new .nanoSP .hid none).after os).canvas.text.events = [⟨"Ok ", 10, 20, 18, 8, false⟩] := by
    decide +kernel
  rw [texts] at hg
  have hk : Bagl.Drawing.showsLabel c = true := by decide
  have hl : l.piece (l.startX c) (l.startY c) = ⟨"Ok", 10, 20, 22, 28⟩ := by decide +kernel
  have hb : l.isBlank = false := by decide +kernel
  obtain ⟨-, -, t, ht, hd⟩ := labels c ctx hk
  have ht : t.Shows (l.piece (l.startX c) (l.startY c)) := ht
  have hp : (Bagl.RawPiece.ofStatus none blank.encode).1 = .ok p :=
    congrArg Prod.fst (Bagl.RawPiece.ofStatus_start (by decide) rfl none [])
  have hq : p.piece? = some ⟨" ", 22, 20, 28, 28⟩ := by decide +kernel
  refine ⟨⟨groups, hflat.trans pieces, hg⟩, hk, ⟨t, hl ▸ ht, fun canvas => ?_⟩, hp, hq,
    ((bitmaps none blank.encode p hp).2 _ hq).1⟩
  rw [hd canvas, hb]
  rfl

/-- **A text may be told in a box that is too narrow.** A letter and 1041 bytes that each leave 63 columns
blank are 65589 columns wide, and are told to be 53; two blank bitmaps beside each other, each within the
coordinates that it can have, are 65635 columns wide, and are told to be 99. -/
theorem wide_texts_told_too_narrow :
    let c : Bagl.Component := ⟨.label, 0, 0, 0, 128, 8, 0, 0, 0, 0xFFFFFF, 0, 0, 0⟩
    let ctx : Bytes := 0x61 :: List.replicate 1041 0xFF
    let blank (x : Int16) : Op := .update ⟨.displayRawStatus,
      (Bagl.RawStatus.start ⟨x, 0, 65535, 8, 1, [0, 0xFFFFFF]⟩ []).encode⟩
    let status : Op := .update ⟨.generalStatus, [0, 0]⟩
    let e := new .nanoSP .hid none
    (e.reported [.update ⟨.displayStatus, c.encode ++ ctx⟩, status] = [⟨"a", 0, 0, 53, 8, false⟩] ∧
      (Bagl.Drawing.component c ctx).piece? = some ⟨"a", 0, 0, 65589, 8⟩) ∧
    e.reported [blank 0, blank 100, status] = [⟨"  ", 0, 0, 99, 8, false⟩] ∧
      e.pieces [blank 0, blank 100] = [⟨" ", 0, 0, 65535, 8⟩, ⟨" ", 100, 0, 65635, 8⟩] ∧
      (⟨0, 0, 65635, 8⟩ : Box).Smallest [⟨0, 0, 65535, 8⟩, ⟨100, 0, 65635, 8⟩] := by
  intro c ctx blank status e
  refine ⟨⟨?_, by decide +kernel⟩, ?_, by decide +kernel, ?_⟩
  · rw [← List.singleton_append, reported_status]
    decide +kernel
  · show e.reported ([blank 0, blank 100] ++ [status]) = _
    rw [reported_status]
    decide +kernel
  · exact (Box.Smallest.single ⟨0, 0, 65535, 8⟩).add ⟨100, 0, 65635, 8⟩

end Engine
end Seph
