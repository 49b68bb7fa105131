import Seph.Engine.Basic

/-!
# How the engine handles a packet

What the handling of a packet can come to, as far as the handshake and the link are concerned, is
said once, in `Handling`; `update_handling` shows that nothing else can happen. From it:

1. `filter_opensSlot`: a packet that is handled opens the slot once if its tag calls for it, in the
   way that its tag calls for, and else not at all.
2. `eq_displayProcessed_of_reply`: the only replies are acknowledgements.
3. `opensSlot_of_response`: a packet that brings a response does not open the slot.
4. `silent_update`, `exists_print`: nothing but the two packets that print does anything to the console
   or the log.
5. `model_update`: the model of the device never changes.
-/

namespace Seph

def Tag.prints : Tag → Bool
  | .printfStatus | .printcStatus => true
  | _ => false

def Output.opensSlot : Output → Bool
  | .reply _ | .statusReceived => true
  | _ => false

def Output.response? : Output → Option Bytes
  | .apdu bs => some bs
  | _ => none

def Output.event? : Output → Option Packet
  | .event p => some p
  | _ => none

/-- The output neither opens the slot nor has to do with the link. -/
def Output.isNews : Output → Bool
  | .text _ | .action _ | .screen _ | .exit => true
  | _ => false

/-- The output comes of an automation rule. -/
def Output.isReaction : Output → Bool
  | .action _ | .exit => true
  | _ => false

/-- How a packet with this tag opens the slot of a device, if it does. -/
def Tag.opening? (m : Model) : Tag → Option Output
  | .displayStatus | .displayRawStatus | .printfStatus => some Engine.processed
  | .printcStatus => if m = .blue then some Engine.processed else none
  | .generalStatus => some .statusReceived
  | _ => none

/-- A link takes a packet's payload in one of the three ways. -/
inductive Link.Takes (l : Link) : Except LinkError (Option Bytes) → Link → Prop
  | respond (bs : Bytes) : Takes l (l.respond bs).1 (l.respond bs).2
  | config (bs : Bytes) : Takes l ((l.config bs).1.map fun _ => none) (l.config bs).2
  | prepare (bs : Bytes) : Takes l (l.prepare bs).1 (l.prepare bs).2

namespace Engine

/-- What the handling of a packet comes to: the link afterwards, and the outputs or an error. -/
inductive Handling (e : Engine) (t : Tag) : Link → Except EngineError (List Output) → Prop
  | refused (x : EngineError) : Handling e t e.link (.error x)
  | processed (ht : t.opening? e.model = some processed) :
    Handling e t e.link (.ok [Engine.processed])
  | finished (news : List Output) (ht : t = .generalStatus) (hn : ∀ o ∈ news, o.isNews = true) :
    Handling e t e.link (.ok (news ++ [.statusReceived]))
  | silent (news : List Output) (ht : t.opening? e.model = none)
      (hn : ∀ o ∈ news, o.isNews = true) : Handling e t e.link (.ok news)
  | garbled {x : LinkError} {l : Link} (hl : e.link.Takes (.error x) l) :
    Handling e t l (.error (.link x))
  | taken {r : Option Bytes} {l : Link} {outs : List Output} (ht : t.opening? e.model = none)
      (hl : e.link.Takes (.ok r) l)
      (ho : outs = response r ++ l.outbox.map .event ∨ outs = l.outbox.map .event ++ response r) :
    Handling e t (l.setOutbox []) (.ok outs)

/-! ## The outputs of a general status -/

/-- What one action of a rule adds to the outputs, the latest first. -/
def reactStep (s : Automation × List Output) : Action → Automation × List Output
  | .setBool key value => (s.1.setBool key value, s.2)
  | .exit => (s.1, .exit :: s.2)
  | action => (s.1, .action action :: s.2)

theorem react_some (a : Automation) (ev : TextEvent) :
    react (some a) ev =
      (some (((a.actions? ev).getD []).foldl reactStep (a, [])).1,
        (((a.actions? ev).getD []).foldl reactStep (a, [])).2.reverse) := rfl

theorem isReaction_foldl_reactStep (actions : List Action) {s : Automation × List Output}
    (hs : ∀ o ∈ s.2, o.isReaction = true) :
    ∀ o ∈ (actions.foldl reactStep s).2, o.isReaction = true := by
  induction actions generalizing s with
  | nil => exact hs
  | cons action actions ih =>
    refine ih fun o ho => ?_
    cases action with
    | setBool key value => exact hs o ho
    | exit | button | finger =>
      rcases List.mem_cons.1 ho with rfl | ho
      · rfl
      · exact hs o ho

theorem isReaction_of_mem_react {rules : Option Automation} {ev : TextEvent} {o : Output}
    (h : o ∈ (react rules ev).2) : o.isReaction = true := by
  cases rules with
  | none => cases h
  | some a =>
    rw [react_some] at h
    exact isReaction_foldl_reactStep _ (by simp) o (List.mem_reverse.1 h)

theorem isReaction_of_mem_reactAll {rules : Option Automation} {evs : List TextEvent} {o : Output}
    (h : o ∈ (reactAll rules evs).2) : o.isReaction = true := by
  induction evs generalizing rules with
  | nil => cases h
  | cons ev evs ih =>
    rcases List.mem_append.1 h with h | h
    · exact isReaction_of_mem_react h
    · exact ih h

theorem isNews_of_isReaction {o : Output} (h : o.isReaction = true) : o.isNews = true := by
  cases o with
  | action | exit => rfl
  | event | reply | statusReceived | apdu | text | screen => cases h

theorem isNews_of_mem_shown {ps : Array Pixel} {o : Output} (h : o ∈ shown ps) :
    o.isNews = true := by
  unfold shown at h
  split at h
  · cases h
  · rw [List.mem_singleton.1 h]; rfl

/-! ## Each way of handling -/

variable {e : Engine} {t : Tag}

theorem finish_handling (e : Engine) : Handling e .generalStatus e.finish.engine.link e.finish.result := by
  obtain ⟨model, graphics, ⟨frame, text⟩, cursor, link, rules, refresh, console⟩ := e
  refine Handling.finished _ rfl fun o ho => ?_
  rcases List.mem_append.1 ho with ho | ho
  · rcases List.mem_append.1 ho with ho | ho
    · exact isNews_of_mem_shown ho
    · obtain ⟨ev, -, rfl⟩ := List.mem_map.1 ho
      rfl
  · exact isNews_of_isReaction (isReaction_of_mem_reactAll ho)

theorem generalStatus_handling (e : Engine) (bs : Bytes) :
    Handling e .generalStatus (e.generalStatus bs).engine.link (e.generalStatus bs).result := by
  unfold generalStatus
  split
  · dsimp only
    split
    · exact finish_handling e
    · exact .refused _
  · exact .refused _

theorem displayStatus_handling (ht : t.opening? e.model = some processed) (bs : Bytes) :
    Handling e t (e.displayStatus bs).engine.link (e.displayStatus bs).result := by
  unfold displayStatus
  split
  · exact .refused _
  · exact .processed ht

theorem displayRawStatus_handling (ht : t.opening? e.model = some processed) (bs : Bytes) :
    Handling e t (e.displayRawStatus bs).engine.link (e.displayRawStatus bs).result := by
  unfold displayRawStatus
  dsimp only
  split
  · exact .refused _
  · exact .processed ht

theorem drawNbgl_handling (ht : t.opening? e.model = none) (r : Except DrawError Nbgl.Drawing) :
    Handling e t (e.drawNbgl r).engine.link (e.drawNbgl r).result := by
  cases r with
  | error x => exact .refused _
  | ok d => exact .silent [] ht (by simp)

theorem refreshNbgl_handling (ht : t.opening? e.model = none) (bs : Bytes) :
    Handling e t (e.refreshNbgl bs).engine.link (e.refreshNbgl bs).result := by
  unfold refreshNbgl
  split
  · exact .refused _
  · exact .silent [] ht (by simp)

theorem withGraphics_handling {g : Graphics} {step : Engine → Step} {t' : Tag}
    (h : Handling e t (step e).engine.link (step e).result) :
    Handling e t (e.withGraphics g t' step).engine.link (e.withGraphics g t' step).result := by
  unfold withGraphics
  split
  · exact h
  · exact .refused _

theorem receiveApdu_handling (ht : t.opening? e.model = none) (bs : Bytes) :
    Handling e t (e.receiveApdu bs).engine.link (e.receiveApdu bs).result := by
  have hl := Link.Takes.respond (l := e.link) bs
  unfold receiveApdu
  generalize e.link.respond bs = a at hl
  obtain ⟨r | r, l⟩ := a
  · exact .garbled hl
  · exact .taken ht hl (.inl rfl)

theorem configureUsb_handling (ht : t.opening? e.model = none) (bs : Bytes) :
    Handling e t (e.configureUsb bs).engine.link (e.configureUsb bs).result := by
  have hl := Link.Takes.config (l := e.link) bs
  unfold configureUsb
  generalize e.link.config bs = a at hl
  obtain ⟨r | r, l⟩ := a
  · exact .garbled hl
  · exact .taken ht hl (.inl rfl)

theorem prepareUsb_handling (ht : t.opening? e.model = none) (bs : Bytes) :
    Handling e t (e.prepareUsb bs).engine.link (e.prepareUsb bs).result := by
  have hl := Link.Takes.prepare (l := e.link) bs
  unfold prepareUsb
  generalize e.link.prepare bs = a at hl
  obtain ⟨r | r, l⟩ := a
  · exact .garbled hl
  · exact .taken ht hl (.inr rfl)

/-- **Nothing else can happen.** -/
theorem update_handling (e : Engine) (p : Packet) :
    Handling e p.tag (e.update p).engine.link (e.update p).result := by
  obtain ⟨tag, bs⟩ := p
  cases tag with
  | generalStatus => exact generalStatus_handling e bs
  | displayStatus => exact withGraphics_handling (displayStatus_handling rfl bs)
  | displayRawStatus => exact withGraphics_handling (displayRawStatus_handling rfl bs)
  | printfStatus => exact .processed rfl
  | printcStatus =>
    by_cases hm : e.model = .blue
    · have ht : Tag.printcStatus.opening? e.model = some processed := if_pos hm
      simpa [update, print, hm] using Handling.processed ht
    · have ht : Tag.printcStatus.opening? e.model = none := if_neg hm
      simpa [update, print, hm] using Handling.silent [] ht (by simp)
  | rapdu => exact receiveApdu_handling rfl bs
  | usbConfig => exact configureUsb_handling rfl bs
  | usbPrepare => exact prepareUsb_handling rfl bs
  | nbglRect | nbglLine | nbglImage | nbglImageFile | nbglImageRle =>
    exact withGraphics_handling (drawNbgl_handling rfl _)
  | nbglRefresh => exact withGraphics_handling (refreshNbgl_handling rfl bs)
  | powerOff => exact .silent [.exit] rfl (by simp [Output.isNews])
  | bleSend | bleRadioPower | playTune | mcu | requestStatus => exact .silent [] rfl (by simp)
  | buttonPush | finger | displayProcessed | ticker | usbEvent | usbTransfer | capdu =>
    exact .refused _

/-- What holds of a link goes on to hold, if it does whatever the link takes and when it is emptied. -/
theorem link_update {P : Link → Prop} (takes : ∀ {l r l'}, P l → l.Takes r l' → P l')
    (empties : ∀ {l : Link}, P l → P (l.setOutbox [])) (h : P e.link) (p : Packet) :
    P (e.update p).engine.link := by
  have hh := update_handling e p
  generalize (e.update p).engine.link = l at hh ⊢
  generalize (e.update p).result = r at hh
  cases hh with
  | refused | processed | finished | silent => exact h
  | garbled hl => exact takes h hl
  | taken _ hl => exact empties (takes h hl)

theorem eq_of_mem_response {r : Option Bytes} {bs : Bytes} (h : .apdu bs ∈ response r) : r = some bs := by
  cases r with
  | none => cases h
  | some => cases List.mem_singleton.1 h; rfl

theorem apdu_notMem_events (bs : Bytes) (ps : List Packet) : .apdu bs ∉ ps.map Output.event := by
  intro h
  obtain ⟨p, -, hp⟩ := List.mem_map.1 h
  cases hp

theorem opening?_of_apdu {p : Packet} {outs : List Output} {bs : Bytes}
    (h : (e.update p).result = .ok outs) (hb : .apdu bs ∈ outs) : p.tag.opening? e.model = none := by
  have hh := update_handling e p
  rw [h] at hh
  generalize (e.update p).engine.link = l at hh
  cases hh with
  | processed => cases List.mem_singleton.1 hb
  | finished news _ hn =>
    rcases List.mem_append.1 hb with hb | hb
    · cases hn _ hb
    · cases List.mem_singleton.1 hb
  | silent _ ht => exact ht
  | taken ht => exact ht

theorem result_withGraphics {g : Graphics} {step : Engine → Step} {outs : List Output}
    (h : (e.withGraphics g t step).result = .ok outs) : (step e).result = .ok outs := by
  unfold withGraphics at h
  split at h
  · exact h
  · cases h

theorem result_drawNbgl {r : Except DrawError Nbgl.Drawing} {outs : List Output}
    (h : (e.drawNbgl r).result = .ok outs) : outs = [] := by
  cases r <;> cases h
  rfl

theorem result_refreshNbgl {bs : Bytes} {outs : List Output}
    (h : (e.refreshNbgl bs).result = .ok outs) : outs = [] := by
  unfold refreshNbgl at h
  split at h <;> cases h
  rfl

/-- A packet that brings a response has its payload taken in one of two ways. -/
theorem taken_of_apdu {p : Packet} {outs : List Output} {bs : Bytes}
    (h : (e.update p).result = .ok outs) (hb : .apdu bs ∈ outs) :
    (e.link.respond p.payload).1 = .ok (some bs) ∨ (e.link.prepare p.payload).1 = .ok (some bs) := by
  have ht := opening?_of_apdu h hb
  obtain ⟨tag, payload⟩ := p
  cases tag with
  | generalStatus | displayStatus | displayRawStatus | printfStatus => cases ht
  | rapdu =>
    left
    replace h : (e.receiveApdu payload).result = .ok outs := h
    unfold receiveApdu at h
    generalize e.link.respond payload = a at h ⊢
    obtain ⟨x | r, l⟩ := a <;> cases h
    rw [eq_of_mem_response ((List.mem_append.1 hb).resolve_right (apdu_notMem_events bs _))]
  | usbPrepare =>
    right
    replace h : (e.prepareUsb payload).result = .ok outs := h
    unfold prepareUsb at h
    generalize e.link.prepare payload = a at h ⊢
    obtain ⟨x | r, l⟩ := a <;> cases h
    rw [eq_of_mem_response ((List.mem_append.1 hb).resolve_left (apdu_notMem_events bs _))]
  | usbConfig =>
    replace h : (e.configureUsb payload).result = .ok outs := h
    unfold configureUsb at h
    generalize e.link.config payload = a at h
    obtain ⟨x | r, l⟩ := a <;> cases h
    exact absurd hb (apdu_notMem_events bs _)
  | nbglRect | nbglLine | nbglImage | nbglImageFile | nbglImageRle =>
    rw [result_drawNbgl (result_withGraphics h)] at hb
    cases hb
  | nbglRefresh =>
    rw [result_refreshNbgl (result_withGraphics h)] at hb
    cases hb
  | printcStatus =>
    have hm : e.model ≠ .blue := fun hm => by rw [Tag.opening?, if_pos hm] at ht; cases ht
    replace h : (e.print payload (if e.model = .blue then [processed] else [])).result = .ok outs := h
    rw [if_neg hm] at h
    cases h
    cases hb
  | powerOff =>
    cases h
    cases List.mem_singleton.1 hb
  | bleSend | bleRadioPower | playTune | mcu | requestStatus =>
    cases h
    cases hb
  | buttonPush | finger | displayProcessed | ticker | usbEvent | usbTransfer | capdu => cases h

/-! ## The outputs -/

theorem opensSlot_of_isNews {o : Output} (h : o.isNews = true) : o.opensSlot = false := by
  cases o with
  | reply | statusReceived | event | apdu => cases h
  | text | action | screen | exit => rfl

theorem response?_of_isNews {o : Output} (h : o.isNews = true) : o.response? = none := by
  cases o with
  | reply | statusReceived | event | apdu => cases h
  | text | action | screen | exit => rfl

theorem opensSlot_of_mem_taken {r : Option Bytes} {ps : List Packet} {outs : List Output}
    (ho : outs = response r ++ ps.map .event ∨ outs = ps.map .event ++ response r) :
    ∀ o ∈ outs, o.opensSlot = false := by
  have hr : ∀ o ∈ response r, o.opensSlot = false := by
    cases r <;> simp [response, Output.opensSlot]
  have hp : ∀ o ∈ ps.map Output.event, o.opensSlot = false := by simp [Output.opensSlot]
  intro o hm
  rcases ho with rfl | rfl
  · exact (List.mem_append.1 hm).elim (hr o) (hp o)
  · exact (List.mem_append.1 hm).elim (hp o) (hr o)

theorem filter_opensSlot_of_all {outs : List Output} (h : ∀ o ∈ outs, o.opensSlot = false) :
    outs.filter Output.opensSlot = [] := by
  rw [List.filter_eq_nil_iff]
  intro o ho
  rw [h o ho]
  exact Bool.false_ne_true

/-- **The slot is opened as the tag calls for**, once or not at all. -/
theorem filter_opensSlot {p : Packet} {outs : List Output} (h : (e.update p).result = .ok outs) :
    outs.filter Output.opensSlot = (p.tag.opening? e.model).toList := by
  have hh := update_handling e p
  rw [h] at hh
  generalize (e.update p).engine.link = l at hh
  cases hh with
  | processed ht => rw [ht]; rfl
  | finished news ht hn =>
    rw [ht, List.filter_append, filter_opensSlot_of_all fun o ho => opensSlot_of_isNews (hn o ho)]
    rfl
  | silent news ht hn =>
    rw [ht, filter_opensSlot_of_all fun o ho => opensSlot_of_isNews (hn o ho)]
    rfl
  | taken ht _ ho => rw [ht, filter_opensSlot_of_all (opensSlot_of_mem_taken ho)]; rfl

theorem outputs_of_processed {p : Packet} {outs : List Output}
    (ht : p.tag.opening? e.model = some processed) (h : (e.update p).result = .ok outs) :
    outs = [processed] := by
  have hh := update_handling e p
  rw [h] at hh
  generalize (e.update p).engine.link = l at hh
  cases hh with
  | processed => rfl
  | finished _ hg => rw [hg] at ht; cases ht
  | silent _ hn => rw [hn] at ht; cases ht
  | taken hn => rw [hn] at ht; cases ht

theorem eq_displayProcessed_of_reply {p q : Packet} {outs : List Output}
    (h : (e.update p).result = .ok outs) (hq : .reply q ∈ outs) : q = .displayProcessed := by
  have hh := update_handling e p
  rw [h] at hh
  generalize (e.update p).engine.link = l at hh
  cases hh with
  | processed =>
    cases List.mem_singleton.1 hq
    rfl
  | finished news _ hn =>
    rcases List.mem_append.1 hq with hq | hq
    · cases hn _ hq
    · cases List.mem_singleton.1 hq
  | silent _ _ hn => cases hn _ hq
  | taken _ _ ho => cases opensSlot_of_mem_taken ho _ hq

theorem responses_of_isNews {news : List Output} (hn : ∀ o ∈ news, o.isNews = true) :
    news.filterMap Output.response? = [] :=
  List.filterMap_eq_nil_iff.2 fun o ho => response?_of_isNews (hn o ho)

theorem opensSlot_of_response {p : Packet} {outs : List Output}
    (h : (e.update p).result = .ok outs) (hr : outs.filterMap Output.response? ≠ []) :
    ∀ o ∈ outs, o.opensSlot = false := by
  have hh := update_handling e p
  rw [h] at hh
  generalize (e.update p).engine.link = l at hh
  cases hh with
  | processed => exact absurd rfl hr
  | finished news _ hn => exact absurd (by simp [responses_of_isNews hn, Output.response?]) hr
  | silent _ _ hn => exact absurd (responses_of_isNews hn) hr
  | taken _ _ ho => exact opensSlot_of_mem_taken ho

/-! ## Steps that print nothing -/

/-- A step leaves the model and the console as they were, and logs nothing. -/
structure Silent (e : Engine) (s : Step) : Prop where
  model : s.engine.model = e.model
  console : s.engine.console = e.console
  log : s.log = []

section Silent

variable (e : Engine) (bs : Bytes)

theorem silent_generalStatus : Silent e (e.generalStatus bs) := by
  unfold generalStatus
  split
  · dsimp only
    split
    · obtain ⟨model, graphics, ⟨frame, text⟩, cursor, link, rules, refresh, console⟩ := e
      exact ⟨rfl, rfl, rfl⟩
    · exact ⟨rfl, rfl, rfl⟩
  · exact ⟨rfl, rfl, rfl⟩

theorem silent_withGraphics {g : Graphics} {t : Tag} {step : Engine → Step}
    (h : ∀ e, Silent e (step e)) : Silent e (e.withGraphics g t step) := by
  unfold withGraphics
  split
  · exact h e
  · exact ⟨rfl, rfl, rfl⟩

theorem silent_displayStatus : Silent e (e.displayStatus bs) := by
  unfold displayStatus
  split <;> exact ⟨rfl, rfl, rfl⟩

theorem silent_displayRawStatus : Silent e (e.displayRawStatus bs) := by
  unfold displayRawStatus
  dsimp only
  split <;> exact ⟨rfl, rfl, rfl⟩

theorem silent_drawNbgl (r : Except DrawError Nbgl.Drawing) : Silent e (e.drawNbgl r) := by
  cases r <;> exact ⟨rfl, rfl, rfl⟩

theorem silent_refreshNbgl : Silent e (e.refreshNbgl bs) := by
  unfold refreshNbgl
  split <;> exact ⟨rfl, rfl, rfl⟩

theorem silent_receiveApdu : Silent e (e.receiveApdu bs) := by
  unfold receiveApdu
  dsimp only
  split <;> exact ⟨rfl, rfl, rfl⟩

theorem silent_configureUsb : Silent e (e.configureUsb bs) := by
  unfold configureUsb
  dsimp only
  split <;> exact ⟨rfl, rfl, rfl⟩

theorem silent_prepareUsb : Silent e (e.prepareUsb bs) := by
  unfold prepareUsb
  dsimp only
  split <;> exact ⟨rfl, rfl, rfl⟩

theorem silent_sendApdu (apdu : Bytes) : Silent e (quiet (e.sendApdu apdu).2 (e.sendApdu apdu).1) := by
  unfold sendApdu
  dsimp only
  split <;> exact ⟨rfl, rfl, rfl⟩

end Silent

/-- **What does not print is silent.** -/
theorem silent_update (e : Engine) {p : Packet} (h : p.tag.prints = false) : Silent e (e.update p) := by
  obtain ⟨tag, bs⟩ := p
  cases tag with
  | printfStatus | printcStatus => cases h
  | generalStatus => exact silent_generalStatus e bs
  | displayStatus => exact silent_withGraphics e (silent_displayStatus · bs)
  | displayRawStatus => exact silent_withGraphics e (silent_displayRawStatus · bs)
  | rapdu => exact silent_receiveApdu e bs
  | usbConfig => exact silent_configureUsb e bs
  | usbPrepare => exact silent_prepareUsb e bs
  | nbglRect | nbglLine | nbglImage | nbglImageFile | nbglImageRle =>
    exact silent_withGraphics e (silent_drawNbgl · _)
  | nbglRefresh => exact silent_withGraphics e (silent_refreshNbgl · bs)
  | powerOff | bleSend | bleRadioPower | playTune | mcu | requestStatus | buttonPush | finger
    | displayProcessed | ticker | usbEvent | usbTransfer | capdu => exact ⟨rfl, rfl, rfl⟩

theorem exists_print (e : Engine) {p : Packet} (h : p.tag.prints = true) :
    ∃ outputs, e.update p = e.print p.payload outputs := by
  obtain ⟨tag, bs⟩ := p
  cases tag with
  | printfStatus | printcStatus => exact ⟨_, rfl⟩
  | generalStatus | displayStatus | displayRawStatus | rapdu | usbConfig | usbPrepare | nbglRect | nbglLine
    | nbglImage | nbglImageFile | nbglImageRle | nbglRefresh | powerOff | bleSend | bleRadioPower | playTune
    | mcu | requestStatus | buttonPush | finger | displayProcessed | ticker | usbEvent | usbTransfer
    | capdu => cases h

theorem model_update (e : Engine) (p : Packet) : (e.update p).engine.model = e.model := by
  cases h : p.tag.prints with
  | false => exact (silent_update e h).model
  | true =>
    obtain ⟨outputs, hu⟩ := exists_print e h
    rw [hu]
    rfl

end Engine
end Seph
