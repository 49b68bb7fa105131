import Seph.Proofs.Engine.Display

/-!
# Packets that are refused

A packet that the engine refuses leaves its display as it was: what is drawn and shown, the texts read,
what is to be refreshed, the rules and the console. Only two things can be other than before. The link
keeps what it took of a transfer before it refused it, and the cursor of raw bitmaps goes to the start
of a bitmap whose depth cannot be drawn.

1. `Bagl.RawPiece.cursor_of_error`: where a refused piece of a bitmap leaves the cursor.
2. `Engine.Refusal`: the three ways in which a packet is refused, and what each leaves.
3. `Engine.refusal_of_error`: there is no other way.
4. `Engine.refused_leaves_display`: so the display is as it was.
-/

namespace Seph

/-- A refused piece leaves the cursor where it is, or at the start of its own bitmap if that has a depth
that cannot be drawn. -/
theorem Bagl.RawPiece.cursor_of_error {cursor after : Option RawCursor} {bs : Bytes} {x : DrawError}
    (h : ofStatus cursor bs = (.error x, after)) :
    after = cursor ∨ ∃ header bitmap, RawStatus.decode bs = .ok (.start header bitmap) ∧
      validDepth header.depth = false ∧ after = some ⟨header, 0⟩ := by
  unfold ofStatus at h
  split at h
  · cases h
    exact .inl rfl
  · rename_i status hd
    cases status with
    | more bitmap =>
      cases cursor with
      | none =>
        cases h
        exact .inl rfl
      | some current =>
        dsimp only at h
        split at h
        · cases h
        · split at h
          · cases h
            exact .inl rfl
          · cases h
    | start header bitmap =>
      dsimp only at h
      split at h
      · cases h
      · split at h
        · rename_i hv
          cases h
          exact .inr ⟨header, bitmap, hd, Bool.not_eq_eq_eq_not.1 hv, rfl⟩
        · cases h

namespace Engine

/-- The ways in which a packet is refused, and what is left of the engine. -/
inductive Refusal (e : Engine) (p : Packet) : Step → Prop
  /-- Before anything is changed. -/
  | outright (x : EngineError) : Refusal e p (quiet e (.error x))
  /-- By the link. -/
  | byLink {x : LinkError} {l : Link}
    (ht : p.tag = .rapdu ∨ p.tag = .usbConfig ∨ p.tag = .usbPrepare)
    (hl : e.link.Takes (.error x) l) : Refusal e p (quiet { e with link := l } (.error (.link x)))
  /-- As a piece of a raw bitmap. -/
  | asPiece {x : DrawError} {c : Option Bagl.RawCursor} (ht : p.tag = .displayRawStatus)
    (hp : Bagl.RawPiece.ofStatus e.cursor p.payload = (.error x, c)) :
    Refusal e p (quiet { e with cursor := c } (.error (.draw x)))

/-! ## Each way of handling -/

section Handlers

variable {e : Engine} {p : Packet} {x : EngineError}

theorem refusal_generalStatus {bs : Bytes} (h : (e.generalStatus bs).result = .error x) :
    Refusal e p (e.generalStatus bs) := by
  rcases generalStatus_cases e bs with hc | ⟨y, hc⟩
  · rw [hc] at h
    cases h
  · rw [hc]
    exact .outright y

theorem refusal_displayStatus {bs : Bytes} (h : (e.displayStatus bs).result = .error x) :
    Refusal e p (e.displayStatus bs) := by
  unfold displayStatus at h ⊢
  split
  · exact .outright _
  · rename_i d hd
    rw [hd] at h
    cases h

theorem refusal_displayRawStatus (ht : p.tag = .displayRawStatus)
    (h : (e.displayRawStatus p.payload).result = .error x) :
    Refusal e p (e.displayRawStatus p.payload) := by
  unfold displayRawStatus at h ⊢
  generalize hp : Bagl.RawPiece.ofStatus e.cursor p.payload = r at h
  obtain ⟨y | piece, c⟩ := r
  · exact .asPiece ht hp
  · cases h

theorem refusal_drawNbgl {r : Except DrawError Nbgl.Drawing} (h : (e.drawNbgl r).result = .error x) :
    Refusal e p (e.drawNbgl r) := by
  cases r with
  | error y => exact .outright _
  | ok d => cases h

theorem refusal_refreshNbgl {bs : Bytes} (h : (e.refreshNbgl bs).result = .error x) :
    Refusal e p (e.refreshNbgl bs) := by
  unfold refreshNbgl at h ⊢
  split
  · exact .outright _
  · rename_i a ha
    rw [ha] at h
    cases h

theorem refusal_withGraphics {g : Graphics} {t : Tag} {step : Engine → Step}
    (hs : (step e).result = .error x → Refusal e p (step e))
    (h : (e.withGraphics g t step).result = .error x) : Refusal e p (e.withGraphics g t step) := by
  unfold withGraphics at h ⊢
  split at h
  · rw [if_pos ‹_›]
    exact hs h
  · rw [if_neg ‹_›]
    exact .outright _

theorem refusal_receiveApdu (ht : p.tag = .rapdu) (h : (e.receiveApdu p.payload).result = .error x) :
    Refusal e p (e.receiveApdu p.payload) := by
  have hl := Link.Takes.respond (l := e.link) p.payload
  unfold receiveApdu at h ⊢
  generalize e.link.respond p.payload = a at hl h
  obtain ⟨y | r, l⟩ := a
  · exact .byLink (.inl ht) hl
  · cases h

theorem refusal_configureUsb (ht : p.tag = .usbConfig)
    (h : (e.configureUsb p.payload).result = .error x) : Refusal e p (e.configureUsb p.payload) := by
  have hl := Link.Takes.config (l := e.link) p.payload
  unfold configureUsb at h ⊢
  generalize e.link.config p.payload = a at hl h
  obtain ⟨y | r, l⟩ := a
  · exact .byLink (.inr (.inl ht)) hl
  · cases h

theorem refusal_prepareUsb (ht : p.tag = .usbPrepare)
    (h : (e.prepareUsb p.payload).result = .error x) : Refusal e p (e.prepareUsb p.payload) := by
  have hl := Link.Takes.prepare (l := e.link) p.payload
  unfold prepareUsb at h ⊢
  generalize e.link.prepare p.payload = a at hl h
  obtain ⟨y | r, l⟩ := a
  · exact .byLink (.inr (.inr ht)) hl
  · cases h

/-- **A packet is refused in one of the three ways.** -/
theorem refusal_of_error (h : (e.update p).result = .error x) : Refusal e p (e.update p) := by
  obtain ⟨tag, bs⟩ := p
  cases tag with
  | generalStatus => exact refusal_generalStatus h
  | displayStatus => exact refusal_withGraphics refusal_displayStatus h
  | displayRawStatus => exact refusal_withGraphics (refusal_displayRawStatus rfl) h
  | rapdu => exact refusal_receiveApdu rfl h
  | usbConfig => exact refusal_configureUsb rfl h
  | usbPrepare => exact refusal_prepareUsb rfl h
  | nbglRect | nbglLine | nbglImage | nbglImageFile | nbglImageRle =>
    exact refusal_withGraphics refusal_drawNbgl h
  | nbglRefresh => exact refusal_withGraphics refusal_refreshNbgl h
  | printfStatus | printcStatus | powerOff | bleSend | bleRadioPower | playTune | mcu
    | requestStatus => cases h
  | buttonPush | finger | displayProcessed | ticker | usbEvent | usbTransfer | capdu =>
    exact .outright _

end Handlers

/-! ## The display -/

/-- **A packet that is refused leaves the display as it was.** Whatever state an engine is in, when it
refuses a packet it is the same afterwards up to the link and the cursor of raw bitmaps, and nothing is
logged. The link is another only if it was the link that refused the packet. The cursor is another only
if the packet is the first piece of a bitmap whose depth cannot be drawn; then it is at its start. -/
theorem refused_leaves_display (e : Engine) (p : Packet) (x : EngineError)
    (h : (e.update p).result = .error x) :
    let s := e.update p
    s.engine = { e with link := s.engine.link, cursor := s.engine.cursor } ∧ s.log = [] ∧
    (s.engine.link = e.link ∨ ∃ y, x = .link y ∧ e.link.Takes (.error y) s.engine.link ∧
      (p.tag = .rapdu ∨ p.tag = .usbConfig ∨ p.tag = .usbPrepare)) ∧
    (s.engine.cursor = e.cursor ∨ p.tag = .displayRawStatus ∧ ∃ header bitmap,
      Bagl.RawStatus.decode p.payload = .ok (.start header bitmap) ∧
      Bagl.validDepth header.depth = false ∧ s.engine.cursor = some ⟨header, 0⟩) := by
  intro s
  have hr : Refusal e p s := refusal_of_error h
  have hx : s.result = .error x := h
  generalize s = s at hr hx
  cases hr with
  | outright y => exact ⟨rfl, rfl, .inl rfl, .inl rfl⟩
  | @byLink y l ht hl =>
    cases hx
    exact ⟨rfl, rfl, .inr ⟨y, rfl, hl, ht⟩, .inl rfl⟩
  | asPiece ht hp =>
    exact ⟨rfl, rfl, .inl rfl, (Bagl.RawPiece.cursor_of_error hp).imp_right fun hc => ⟨ht, hc⟩⟩

/-- After a bitmap of one bit to the pixel is drawn, one of no bits to the pixel is refused: the cursor
is at its start, and all else is as before. -/
theorem refused_bitmap_leaves_display :
    let bitmap : Packet := ⟨.displayRawStatus,
      [0, 0, 0, 0, 0, 0, 8, 0, 1, 1, 0, 0, 0, 0, 0, 255, 255, 255, 0x3C]⟩
    let broken : Packet := ⟨.displayRawStatus, [0, 0, 4, 0, 4, 0, 8, 0, 1, 0, 0, 0, 0, 0]⟩
    let e := ((new .nanoS .hid none).update bitmap).engine
    let after := (e.update broken).engine
    (e.update broken).result = .error (.draw (.image .unsupportedDepth)) ∧
      after.cursor = some ⟨⟨4, 4, 8, 1, 0, [0]⟩, 0⟩ ∧ after ≠ e ∧
      after = { e with link := after.link, cursor := after.cursor } := by
  intro bitmap broken e after
  have hr : (e.update broken).result = .error (.draw (.image .unsupportedDepth)) := by rfl
  have hc : after.cursor = some ⟨⟨4, 4, 8, 1, 0, [0]⟩, 0⟩ := by rfl
  have he : e.cursor = some ⟨⟨0, 0, 8, 1, 1, [0, 0xFFFFFF]⟩, 8⟩ := by rfl
  refine ⟨hr, hc, fun h => ?_, (refused_leaves_display e broken _ hr).1⟩
  rw [h, he] at hc
  exact absurd hc (by decide)

end Engine
end Seph
