import Seph.Proofs.Display.Drawing
import Seph.Proofs.Display.Refresh
import Seph.Proofs.Engine.Handling

/-!
# What the engine does to its display

A general status that succeeds commits what was asked to be refreshed (`Engine.update_of_finishes`).
All other that an engine can be told only draws strokes on its framebuffer and asks for refreshes, and
shows nothing (`Engine.draws_step`).
-/

namespace Seph

open Framebuffer (Stroke)

def Output.pixels? : Output → Option (Array Pixel)
  | .screen ps => some ps
  | _ => none

namespace Engine

/-! ## Operations -/

/-- What an engine can be told. -/
inductive Op
  | update (p : Packet)
  | setRules (rules : Option Automation)
  | sendApdu (apdu : Bytes)

def step (e : Engine) : Op → Step
  | .update p => e.update p
  | .setRules rules => quiet (e.setRules rules) (.ok [])
  | .sendApdu apdu => quiet (e.sendApdu apdu).2 (e.sendApdu apdu).1

def Step.screens (s : Step) : List (Array Pixel) :=
  match s.result with
  | .ok outputs => outputs.filterMap Output.pixels?
  | .error _ => []

/-- The operation is a general status that succeeds. -/
def finishes (e : Engine) : Op → Bool
  | .update p => p.tag == .generalStatus && (e.update p).result.isOk
  | .setRules _ | .sendApdu _ => false

/-- What an operation wants of the display. -/
structure Wish where
  /-- What is to be drawn. -/
  strokes : List Stroke := []
  /-- The areas to be refreshed; none stands for the whole screen. -/
  areas : List (Option Nbgl.Area) := []

/-- What a payload wants that is meant for one graphics library, if the device has it and accepts the
payload. -/
def accepted {α : Type} (e : Engine) (g : Graphics) (r : Except DrawError α) (wish : α → Wish) :
    Wish :=
  if e.graphics = g then
    match r with
    | .ok a => wish a
    | .error _ => {}
  else {}

/-- What an operation wants of the display. -/
def wish (e : Engine) : Op → Wish
  | .update ⟨.displayStatus, bs⟩ =>
    e.accepted .bagl (Bagl.Drawing.ofStatus bs) fun d => { strokes := d.strokes, areas := [none] }
  | .update ⟨.displayRawStatus, bs⟩ =>
    e.accepted .bagl (Bagl.RawPiece.ofStatus e.cursor bs).1
      fun p => { strokes := p.strokes, areas := [none] }
  | .update ⟨.nbglRect, bs⟩ => drawing (Nbgl.Drawing.ofRect e.canvas.frame.panel bs)
  | .update ⟨.nbglLine, bs⟩ => drawing (Nbgl.Drawing.ofLine e.canvas.frame.panel bs)
  | .update ⟨.nbglImage, bs⟩ => drawing (Nbgl.Drawing.ofImage e.canvas.frame.panel bs)
  | .update ⟨.nbglImageFile, bs⟩ => drawing (Nbgl.Drawing.ofFile e.canvas.frame.panel bs)
  | .update ⟨.nbglImageRle, bs⟩ => drawing (Nbgl.Drawing.ofRuns e.canvas.frame.panel bs)
  | .update ⟨.nbglRefresh, bs⟩ =>
    e.accepted .nbgl (Nbgl.refreshArea e.canvas.frame.panel bs) fun a => { areas := [a] }
  | _ => {}
where
  drawing (r : Except DrawError Nbgl.Drawing) : Wish :=
    e.accepted .nbgl r fun d => { strokes := d.strokes }

/-! ## Drawing and asking -/

/-- A step drew what was wanted and noted what is to be refreshed, and showed nothing. -/
structure Draws (e : Engine) (w : Wish) (s : Step) : Prop where
  frame : s.engine.canvas.frame = e.canvas.frame.paint w.strokes
  refresh : s.engine.refresh =
    w.areas.foldl (fun r a => some (Refresh.add r (Refresh.ofArea? a))) e.refresh
  screens : s.screens = []

section Packets

variable {e : Engine}

theorem draws_withGraphics {α : Type} {g : Graphics} {t : Tag} {step : Engine → Step}
    {r : Except DrawError α} {wish : α → Wish}
    (hok : ∀ a, r = .ok a → Draws e (wish a) (step e)) (herr : ∀ x, r = .error x → Draws e {} (step e)) :
    Draws e (e.accepted g r wish) (e.withGraphics g t step) := by
  unfold accepted withGraphics
  split
  · cases r with
    | ok a => exact hok a rfl
    | error x => exact herr x rfl
  · exact ⟨rfl, rfl, rfl⟩

theorem draws_drawNbgl {t : Tag} (r : Except DrawError Nbgl.Drawing) :
    Draws e (wish.drawing e r) (e.withGraphics .nbgl t (·.drawNbgl r)) := by
  refine draws_withGraphics ?_ ?_
  · rintro d rfl
    exact ⟨d.frame_draw e.canvas, rfl, rfl⟩
  · rintro x rfl
    exact ⟨rfl, rfl, rfl⟩

theorem draws_displayStatus {t : Tag} (bs : Bytes) :
    Draws e (e.accepted .bagl (Bagl.Drawing.ofStatus bs)
      fun d => { strokes := d.strokes, areas := [none] })
      (e.withGraphics .bagl t (·.displayStatus bs)) := by
  refine draws_withGraphics (fun d h => ?_) fun x h => ?_
  · unfold displayStatus
    rw [h]
    exact ⟨Bagl.Drawing.frame_draw e.canvas d, rfl, rfl⟩
  · unfold displayStatus
    rw [h]
    exact ⟨rfl, rfl, rfl⟩

theorem draws_displayRawStatus {t : Tag} (bs : Bytes) :
    Draws e (e.accepted .bagl (Bagl.RawPiece.ofStatus e.cursor bs).1
      fun p => { strokes := p.strokes, areas := [none] })
      (e.withGraphics .bagl t (·.displayRawStatus bs)) := by
  refine draws_withGraphics (fun p h => ?_) fun x h => ?_
  · unfold displayRawStatus
    dsimp only
    rw [h]
    exact ⟨p.frame_draw _ e.canvas, rfl, rfl⟩
  · unfold displayRawStatus
    dsimp only
    rw [h]
    exact ⟨rfl, rfl, rfl⟩

theorem draws_refreshNbgl {t : Tag} (bs : Bytes) :
    Draws e (e.accepted .nbgl (Nbgl.refreshArea e.canvas.frame.panel bs) fun a => { areas := [a] })
      (e.withGraphics .nbgl t (·.refreshNbgl bs)) := by
  refine draws_withGraphics (fun a h => ?_) fun x h => ?_
  · unfold refreshNbgl
    rw [h]
    exact ⟨rfl, rfl, rfl⟩
  · unfold refreshNbgl
    rw [h]
    exact ⟨rfl, rfl, rfl⟩

end Packets

/-! ## What has nothing to do with the display -/

/-- The step has to do with the link alone: nothing else changes, and it puts out events and responses. -/
structure LinkOnly (e : Engine) (s : Step) : Prop where
  engine : ∃ l, s.engine = { e with link := l }
  outputs : ∀ outs, s.result = .ok outs → ∀ o ∈ outs, (∃ p, o = .event p) ∨ ∃ bs, o = .apdu bs

section Links

variable {e : Engine}

theorem mem_events {ps : List Packet} {o : Output} (h : o ∈ ps.map .event) : ∃ p, o = .event p := by
  obtain ⟨p, -, rfl⟩ := List.mem_map.1 h
  exact ⟨p, rfl⟩

theorem mem_response {r : Option Bytes} {o : Output} (h : o ∈ response r) : ∃ bs, o = .apdu bs := by
  cases r with
  | none => cases h
  | some bs => exact ⟨bs, List.mem_singleton.1 h⟩

theorem linkOnly_receiveApdu (bs : Bytes) : LinkOnly e (e.receiveApdu bs) := by
  unfold receiveApdu
  generalize e.link.respond bs = a
  obtain ⟨r | r, l⟩ := a
  · exact ⟨⟨l, rfl⟩, nofun⟩
  · refine ⟨⟨_, rfl⟩, fun outs hs o ho => ?_⟩
    cases hs
    exact (List.mem_append.1 ho).symm.imp mem_events mem_response

theorem linkOnly_configureUsb (bs : Bytes) : LinkOnly e (e.configureUsb bs) := by
  unfold configureUsb
  generalize e.link.config bs = a
  obtain ⟨r | r, l⟩ := a
  · exact ⟨⟨l, rfl⟩, nofun⟩
  · refine ⟨⟨_, rfl⟩, fun outs hs o ho => ?_⟩
    cases hs
    exact .inl (mem_events ho)

theorem linkOnly_prepareUsb (bs : Bytes) : LinkOnly e (e.prepareUsb bs) := by
  unfold prepareUsb
  generalize e.link.prepare bs = a
  obtain ⟨r | r, l⟩ := a
  · exact ⟨⟨l, rfl⟩, nofun⟩
  · refine ⟨⟨_, rfl⟩, fun outs hs o ho => ?_⟩
    cases hs
    exact (List.mem_append.1 ho).imp mem_events mem_response

theorem linkOnly_sendApdu (apdu : Bytes) : LinkOnly e (quiet (e.sendApdu apdu).2 (e.sendApdu apdu).1) := by
  unfold sendApdu
  generalize e.link.send apdu = a
  obtain ⟨x | u, l⟩ := a
  · exact ⟨⟨l, rfl⟩, nofun⟩
  · refine ⟨⟨_, rfl⟩, fun outs hs o ho => ?_⟩
    cases hs
    exact .inl (mem_events ho)

theorem LinkOnly.filterMap_eq_nil {s : Step} (h : LinkOnly e s) {outs : List Output}
    (hs : s.result = .ok outs) {β : Type} {f : Output → Option β} (hp : ∀ p, f (.event p) = none)
    (ha : ∀ bs, f (.apdu bs) = none) : outs.filterMap f = [] := by
  rw [List.filterMap_eq_nil_iff]
  intro o ho
  rcases h.outputs outs hs o ho with ⟨p, rfl⟩ | ⟨bs, rfl⟩
  · exact hp p
  · exact ha bs

theorem LinkOnly.draws {s : Step} (h : LinkOnly e s) : Draws e {} s := by
  obtain ⟨l, hl⟩ := h.engine
  refine ⟨by rw [hl]; rfl, by rw [hl]; rfl, ?_⟩
  unfold Step.screens
  split
  · rename_i outs hs
    exact h.filterMap_eq_nil hs (fun _ => rfl) fun _ => rfl
  · rfl

end Links

/-! ## The general status -/

/-- The framebuffer after what is to be refreshed is committed, and the pixels of the commit. -/
def committed (e : Engine) : Framebuffer × Array Pixel :=
  match e.refresh with
  | some r => r.commit e.canvas.frame
  | none => (e.canvas.frame, #[])

theorem frame_finish (e : Engine) : e.finish.engine.canvas.frame = e.committed.1 := by
  obtain ⟨model, graphics, ⟨frame, text⟩, cursor, link, rules, _ | r, console⟩ := e
  · rfl
  · rfl

theorem refresh_finish (e : Engine) : e.finish.engine.refresh = none := by
  obtain ⟨model, graphics, ⟨frame, text⟩, cursor, link, rules, _ | r, console⟩ := e
  · rfl
  · rfl

theorem screens_map {α : Type} {f : α → Output} (h : ∀ a, (f a).pixels? = none) (as : List α) :
    (as.map f).filterMap Output.pixels? = [] := by
  rw [List.filterMap_map]
  exact List.filterMap_eq_nil_iff.2 fun a _ => h a

theorem screens_shown (ps : Array Pixel) :
    (shown ps).filterMap Output.pixels? = if ps.isEmpty then [] else [ps] := by
  unfold shown
  split <;> rfl

theorem screens_reactAll (rules : Option Automation) (evs : List TextEvent) :
    (reactAll rules evs).2.filterMap Output.pixels? = [] := by
  rw [List.filterMap_eq_nil_iff]
  intro o ho
  have hr := isReaction_of_mem_reactAll ho
  cases o with
  | action | exit => rfl
  | event | reply | statusReceived | apdu | text | screen => cases hr

theorem screens_finish (e : Engine) :
    e.finish.screens = if e.committed.2.isEmpty then [] else [e.committed.2] := by
  have h (ps : Array Pixel) (rules : Option Automation) (evs : List TextEvent) :
      (shown ps ++ evs.map Output.text ++ (reactAll rules evs).2 ++
        [Output.statusReceived]).filterMap Output.pixels? = if ps.isEmpty then [] else [ps] := by
    have texts : (evs.map Output.text).filterMap Output.pixels? = [] := screens_map (fun _ => rfl) evs
    simp only [List.filterMap_append, screens_shown, texts, screens_reactAll, List.append_nil]
    exact List.append_nil _
  obtain ⟨model, graphics, ⟨frame, text⟩, cursor, link, rules, _ | r, console⟩ := e
  · exact h _ _ _
  · exact h _ _ _

theorem generalStatus_cases (e : Engine) (bs : Bytes) :
    e.generalStatus bs = e.finish ∨ ∃ x, e.generalStatus bs = quiet e (.error x) := by
  unfold generalStatus
  split
  · dsimp only
    split
    · exact .inl rfl
    · exact .inr ⟨_, rfl⟩
  · exact .inr ⟨_, rfl⟩

theorem exists_of_finishes {e : Engine} {o : Op} (h : e.finishes o = true) :
    ∃ bs outputs, o = .update ⟨.generalStatus, bs⟩ ∧ (e.step o).result = .ok outputs := by
  cases o with
  | setRules | sendApdu => cases h
  | update p =>
    obtain ⟨tag, bs⟩ := p
    obtain ⟨ht, hr⟩ := Bool.and_eq_true_iff.1 h
    obtain rfl : tag = .generalStatus := eq_of_beq ht
    have hs : (e.generalStatus bs).result.isOk = true := hr
    cases ho : (e.generalStatus bs).result with
    | error x => rw [ho] at hs; cases hs
    | ok outputs => exact ⟨bs, outputs, rfl, ho⟩

theorem step_of_finishes {e : Engine} {o : Op} (h : e.finishes o = true) : e.step o = e.finish := by
  obtain ⟨bs, outputs, rfl, ho⟩ := exists_of_finishes h
  have ho : (e.generalStatus bs).result = .ok outputs := ho
  rcases generalStatus_cases e bs with hc | ⟨x, hc⟩
  · exact hc
  · rw [hc] at ho
    cases ho

theorem draws_generalStatus {e : Engine} {bs : Bytes}
    (h : (e.generalStatus bs).result.isOk = false) : Draws e {} (e.generalStatus bs) := by
  rcases generalStatus_cases e bs with hc | ⟨x, hc⟩
  · rw [hc] at h
    cases h
  · rw [hc]
    exact ⟨rfl, rfl, rfl⟩

/-- **Nothing but a general status that succeeds shows anything.** All else draws what it wants to be
drawn and asks for what it wants to be refreshed. -/
theorem draws_step {e : Engine} {o : Op} (h : e.finishes o = false) : Draws e (e.wish o) (e.step o) := by
  cases o with
  | setRules rules => exact ⟨rfl, rfl, rfl⟩
  | sendApdu apdu => exact (linkOnly_sendApdu apdu).draws
  | update p =>
    obtain ⟨tag, bs⟩ := p
    cases tag with
    | generalStatus => exact draws_generalStatus h
    | displayStatus => exact draws_displayStatus bs
    | displayRawStatus => exact draws_displayRawStatus bs
    | nbglRect | nbglLine | nbglImage | nbglImageFile | nbglImageRle => exact draws_drawNbgl _
    | nbglRefresh => exact draws_refreshNbgl bs
    | rapdu => exact (linkOnly_receiveApdu bs).draws
    | usbConfig => exact (linkOnly_configureUsb bs).draws
    | usbPrepare => exact (linkOnly_prepareUsb bs).draws
    | printfStatus => exact ⟨rfl, rfl, rfl⟩
    | printcStatus =>
      refine ⟨rfl, rfl, ?_⟩
      show (if e.model = .blue then [processed] else []).filterMap Output.pixels? = []
      split <;> rfl
    | powerOff | bleSend | bleRadioPower | playTune | mcu | requestStatus | buttonPush | finger
      | displayProcessed | ticker | usbEvent | usbTransfer | capdu => exact ⟨rfl, rfl, rfl⟩

end Engine
end Seph
