import Seph.Proofs.Bridge.Presses
import Seph.Proofs.Link.Events
import Seph.Proofs.Session.Moves

/-!
# What goes to the firmware

Packets for the firmware come from the link, from the acknowledgements, from the buttons and the finger,
and from the ticker. Wherever they come from, they are events of a known kind.

1. `Engine.ofLink_update`: the events among the outputs of a packet are packets of the link.
2. `Bridge.known_ops`: what a move queues is of a known kind.
3. `Bridge.Sound.move`: so is what is queued and written after any move.
4. `Bridge.pushes_move`: the events of the buttons keep their order on the way.
5. `Bridge.events_are_proper`: all of it along a run.
-/

namespace Seph

/-- The events among the outputs of a packet are packets of the link, which goes on to hold such. -/
theorem Engine.ofLink_update {e : Engine} (h : e.link.Sound) (p : Packet) :
    (e.update p).engine.link.Sound ∧
      ∀ outs, (e.update p).result = .ok outs → ∀ q, .event q ∈ outs → q.OfLink := by
  have hh := update_handling e p
  generalize (e.update p).engine.link = l at hh ⊢
  generalize (e.update p).result = r at hh ⊢
  have news {os : List Output} (hn : ∀ o ∈ os, o.isNews = true) {q : Packet} (hq : .event q ∈ os) :
      q.OfLink := by cases hn _ hq
  cases hh with
  | refused x => exact ⟨h, nofun⟩
  | processed ht =>
    refine ⟨h, ?_⟩
    rintro outs ⟨⟩ q hq
    cases List.mem_singleton.1 hq
  | finished os ht hn =>
    refine ⟨h, ?_⟩
    rintro outs ⟨⟩ q hq
    rcases List.mem_append.1 hq with hq | hq
    · exact news hn hq
    · cases List.mem_singleton.1 hq
  | silent os ht hn =>
    refine ⟨h, ?_⟩
    rintro outs ⟨⟩ q hq
    exact news hn hq
  | garbled hl => exact ⟨hl.sound h, nofun⟩
  | @taken r l outs ht hl ho =>
    have hs : l.Sound := hl.sound h
    have hr {q : Packet} (hq : .event q ∈ response r) : q.OfLink := by
      cases r with
      | none => cases hq
      | some bs => cases List.mem_singleton.1 hq
    have hp {q : Packet} (hq : .event q ∈ l.outbox.map Output.event) : q.OfLink := by
      obtain ⟨q', hm, he⟩ := List.mem_map.1 hq
      cases he
      exact hs q (List.mem_append_left _ hm)
    refine ⟨hs.setOutbox, ?_⟩
    rintro outs ⟨⟩ q hq
    rcases ho with rfl | rfl
    · exact (List.mem_append.1 hq).elim hr hp
    · exact (List.mem_append.1 hq).elim hp hr

/-- What waits after operations waited before them or was put there by them. -/
theorem Pacer.mem_queue_after {s : Pacer} {os : List Op} {p : Packet} (h : p ∈ (s.after os).queue) :
    p ∈ s.queue ∨ .push p ∈ os ∨ .reply p ∈ os := by
  induction os generalizing s with
  | nil => exact .inl h
  | cons o os ih =>
    rcases ih h with h | h | h
    · have hr := step_rule s o
      generalize (s.step o).1 = r at hr
      generalize (s.step o).2 = s' at h hr
      cases hr with
      | push q =>
        rcases List.mem_append.1 h with h | h
        · exact .inl h
        · rw [List.mem_singleton.1 h]
          exact .inr (.inl List.mem_cons_self)
      | reply q hs =>
        rcases List.mem_cons.1 h with rfl | h
        · exact .inr (.inr List.mem_cons_self)
        · exact .inl h
      | head q ps _ _ hq =>
        rw [hq]
        exact .inl (List.mem_cons_of_mem q h)
      | tick _ _ hq _ => exact .inl h
      | replyRefused | status | statusRefused | requestTick | requestIgnored | forceTick | pause
        | resume | close | waiting | ended => exact .inl h
    · exact .inr (.inl (List.mem_cons_of_mem o h))
    · exact .inr (.inr (List.mem_cons_of_mem o h))

namespace Bridge

def panel (b : Bridge) : Panel := b.engine.model.panel

/-- All that waits for the firmware, all that went to it, and all that the link holds is of a known
kind. -/
structure Sound (b : Bridge) : Prop where
  queue : ∀ p ∈ b.pacer.queue, p.Known b.panel
  written : ∀ p ∈ b.written, p.Known b.panel
  link : b.engine.link.Sound

/-! ## What is queued -/

section Queued

variable {b : Bridge} {p : Packet}

theorem known_touchOps {t : Touch} (h : .push p ∈ b.touchOps t) : p.Known b.panel := by
  unfold touchOps at h
  split at h
  · cases h
  · rename_i hp
    cases List.mem_singleton.1 h
    exact .finger _ _ _ (Nat.lt_of_not_le fun hx => hp (.inl hx)) (Nat.lt_of_not_le fun hy => hp (.inr hy))

theorem known_outputOps {o : Output} (ho : ∀ q, o = .event q → q.OfLink) (h : .push p ∈ b.outputOps o) :
    p.Known b.panel := by
  cases o with
  | event q =>
    cases List.mem_singleton.1 h
    exact .link (ho _ rfl)
  | action a =>
    cases a with
    | button mask pressed =>
      simp only [outputOps, actionOps] at h
      split at h
      · cases List.mem_singleton.1 h
        exact .button _
      · cases h
    | finger x y pressed => exact known_touchOps h
    | setBool | exit => cases h
  | reply | statusReceived => cases List.mem_singleton.1 h
  | apdu | text | screen | exit => cases h

theorem known_carryOps {os : List Output} (ho : ∀ q, .event q ∈ os → q.OfLink)
    (h : .push p ∈ b.carryOps os) : p.Known b.panel := by
  induction os generalizing b with
  | nil => cases h
  | cons o os ih =>
    rcases List.mem_append.1 h with h | h
    · exact known_outputOps (fun q hq => ho q (hq ▸ List.mem_cons_self)) h
    · cases hc : b.carryOut o with
      | error e =>
        rw [hc] at h
        cases h
      | ok b' =>
        rw [hc] at h
        have hp : b'.panel = b.panel := congrArg (·.model.panel) (carryOut_ok hc).engine
        rw [← hp]
        exact ih (fun q hq => ho q (List.mem_cons_of_mem _ hq)) h

theorem ofLink_outputs (hl : b.engine.link.Sound) {q : Packet} (hq : .event q ∈ b.outputs p) :
    q.OfLink := by
  unfold outputs at hq
  split at hq
  · rename_i outs hr
    exact (Engine.ofLink_update hl p).2 outs hr q hq
  · cases hq

theorem ofLink_transmitOps (hl : b.engine.link.Sound) (h : .push p ∈ b.transmitOps) : p.OfLink := by
  unfold transmitOps at h
  split at h
  · split at h
    · obtain ⟨q, hq, he⟩ := List.mem_map.1 h
      cases he
      exact hl.send _ p (List.mem_append_left _ hq)
    · cases h
  · cases h

/-- **What a move queues is of a known kind.** -/
theorem known_ops (hl : b.engine.link.Sound) {m : Move} (h : .push p ∈ b.ops m) : p.Known b.panel := by
  cases m with
  | button x pressed =>
    cases List.mem_singleton.1 h
    exact .button _
  | touch t => exact known_touchOps h
  | transmit => exact .link (ofLink_transmitOps hl h)
  | dispatch q =>
    have hp : (b.heed q).panel = b.panel := congrArg Model.panel (Engine.model_update b.engine q)
    rw [← hp]
    exact known_carryOps (fun _ => ofLink_outputs hl) h
  | requestTick | forceTick | pause | resume | send | close => cases List.mem_singleton.1 h
  | note | setRules | listen | exchange | startTurn | leave | expire | lapse | clear => cases h

theorem eq_displayProcessed_of_mem_ops {m : Move} (h : .reply p ∈ b.ops m) : p = .displayProcessed := by
  cases m with
  | dispatch q => exact eq_displayProcessed_of_mem_outputs (reply_mem_carryOps h)
  | touch t =>
    simp only [ops, touchOps] at h
    split at h
    · cases h
    · cases List.mem_singleton.1 h
  | transmit =>
    simp only [ops, transmitOps] at h
    split at h
    · split at h
      · obtain ⟨q, -, he⟩ := List.mem_map.1 h
        cases he
      · cases h
    · cases h
  | button | requestTick | forceTick | pause | resume | send | close => cases List.mem_singleton.1 h
  | note | setRules | listen | exchange | startTurn | leave | expire | lapse | clear => cases h

end Queued

/-! ## What is released -/

section Released

variable {b : Bridge}

theorem Sound.released (h : b.Sound) {p : Packet} (hn : b.pacer.next.1 = .packet p) :
    p.Known b.panel := by
  have hr := Pacer.step_rule b.pacer .next
  simp only [Pacer.step] at hr
  generalize b.pacer.next = r at hn hr
  obtain ⟨r, s⟩ := r
  cases hn
  cases hr with
  | head p ps _ _ hq => exact h.queue p (hq ▸ List.mem_cons_self)
  | tick => exact .tick

theorem Sound.link_move (h : b.Sound) (m : Move) : (b.move m).engine.link.Sound :=
  Bridge.link_move (fun hl ht => ht.sound hl) (fun hl apdu => hl.send apdu) (fun hl => hl.setOutbox)
    h.link m

theorem mem_writes {m : Move} {p : Packet} (h : p ∈ b.writes m) : b.pacer.next.1 = .packet p := by
  unfold writes at h
  split at h
  · split at h
    · rename_i q hq
      split at h
      · cases h
      · rw [hq, List.mem_singleton.1 h]
    · cases h
  · cases h

/-- **Whatever happens**, what waits and what goes to the firmware is of a known kind. -/
theorem Sound.move (h : b.Sound) (m : Move) : (b.move m).Sound := by
  have hp : (b.move m).panel = b.panel := congrArg Model.panel (model_move b m)
  constructor
  · intro p hm
    rw [pacer_move] at hm
    rw [hp]
    rcases Pacer.mem_queue_after hm with hq | ho | ho
    · exact h.queue p hq
    · exact known_ops h.link ho
    · rw [eq_displayProcessed_of_mem_ops ho]
      exact .processed
  · intro p hm
    rw [(seen_move b m).1] at hm
    rw [hp]
    rcases List.mem_append.1 hm with hw | hw
    · exact h.written p hw
    · exact h.released (mem_writes hw)
  · exact h.link_move m

theorem Sound.run (h : b.Sound) (ms : List Move) : (b.run ms).Sound := by
  induction ms generalizing b with
  | nil => exact h
  | cons m ms ih => exact ih (h.move m)

theorem IsNew.sound (h : b.IsNew) : b.Sound where
  queue := by
    rw [h.pacer]
    intro p hp
    exact absurd hp List.not_mem_nil
  written := by
    rw [Bridge.written, h.notices]
    intro p hp
    exact absurd hp List.not_mem_nil
  link := by
    obtain ⟨k, hl⟩ := h.link
    rw [hl]
    exact Link.sound_new k

end Released

/-! ## The buttons -/

section Buttons

variable {b : Bridge} {before : List Press}

theorem pressed_conclude (b : Bridge) (r : Option Settled × Desk) :
    (b.conclude r).pressed = b.pressed := by
  obtain ⟨_ | s, d⟩ := r <;> rfl

theorem isPush_of_ofLink {p : Packet} (h : p.OfLink) : p.isPush = false :=
  beq_eq_false_iff_ne.2 h.tag_ne_buttonPush

/-- **A move queues the events of its presses and releases**, and afterwards what they leave is held. -/
theorem presses_ops (hl : b.engine.link.Sound) (hb : b.pressed = heldMask before) (m : Move) :
    (b.move m).pressed = heldMask (before ++ b.presses m) ∧
      ((b.ops m).filterMap Pacer.Op.pushed?).filter Packet.isPush = heldEvents before (b.presses m) := by
  -- of the moves that press nothing it is enough that they leave the mask as it was
  have same {c : Bridge} (hc : c.pressed = b.pressed) : c.pressed = heldMask (before ++ []) := by
    rw [List.append_nil, hc, hb]
  cases m with
  | button x pressed =>
    have hx : pressedAfter b.pressed x pressed = heldMask (before ++ [⟨x, pressed⟩]) := by
      rw [heldMask_concat, hb]
    refine ⟨hx, ?_⟩
    show [Packet.buttonPush (pressedAfter b.pressed x pressed)].filter Packet.isPush = _
    rw [hx, buttonPush_heldMask]
    rfl
  | touch t =>
    refine ⟨same ?_, isPush_touchOps b t⟩
    simp only [move]
    cases h : b.queueTouch t with
    | ok b' => exact pressed_queueTouch h
    | error e => rfl
  | transmit =>
    constructor
    · apply same
      simp only [move]
      rcases transmit_cases b with ⟨x, rc, u, ht, hs⟩ | ⟨x, rc, e, ht, hs⟩ | hi
      · rw [transmit_ok ht hs]
        rfl
      · rw [transmit_error ht hs]
        rfl
      · rw [transmit_idle hi]
    · show ((b.transmitOps).filterMap Pacer.Op.pushed?).filter Packet.isPush = []
      rw [List.filter_eq_nil_iff]
      intro p hp
      obtain ⟨o, ho, hop⟩ := List.mem_filterMap.1 hp
      cases o with
      | push q =>
        cases hop
        rw [isPush_of_ofLink (ofLink_transmitOps hl ho)]
        exact Bool.false_ne_true
      | reply | status | requestTick | forceTick | pause | resume | close | next => cases hop
  | dispatch p =>
    simp only [move, dispatch_snd]
    exact presses_carryOutAll (b := b.heed p) hb fun q hq => isPush_of_ofLink (ofLink_outputs hl hq)
  | startTurn | leave => exact ⟨same (pressed_conclude b _), rfl⟩
  | send =>
    refine ⟨same ?_, rfl⟩
    simp only [move]
    by_cases h : ∃ p, b.pacer.next.1 = .packet p
    · obtain ⟨p, hp⟩ := h
      rw [send_packet hp]
      split <;> rfl
    · rw [(send_nothing fun p hp => h ⟨p, hp⟩).1]
  | clear =>
    refine ⟨same ?_, rfl⟩
    simp only [move]
    split <;> rfl
  | note | setRules | listen | requestTick | forceTick | pause | resume | exchange | expire | lapse
    | close => exact ⟨same rfl, rfl⟩

theorem ne_next_of_mem_ops {m : Move} (hm : m ≠ .send) {o : Pacer.Op} (ho : o ∈ b.ops m) :
    o ≠ .next := by
  by_cases hc : m = .close
  · subst hc
    cases List.mem_singleton.1 ho
    exact Pacer.Op.noConfusion
  · exact (mem_ops ho hm hc).1

/-- **The events of the buttons keep their order.** Those of a move go behind all that wait. -/
theorem pushes_move (h : b.Sound) (hb : b.pressed = heldMask before) (m : Move) :
    ((b.move m).written ++ (b.move m).pacer.queue).filter Packet.isPush =
      (b.written ++ b.pacer.queue).filter Packet.isPush ++ heldEvents before (b.presses m) := by
  rw [(seen_move b m).1, List.append_assoc, List.filter_append, List.filter_append (b.written),
    List.append_assoc, List.filter_append]
  congr 1
  -- sending takes the head of the queue to what is written; all else goes behind the queue
  by_cases hm : m = .send
  · subst hm
    have hq : ∀ p ∈ b.pacer.queue, p.isPush = true → p.payload.length ≤ Packet.maxPayload := by
      intro p hp _
      obtain ⟨bs, he⟩ := (h.queue p hp).proper.encodes
      unfold Packet.encode at he
      split at he
      · cases he
      · omega
    exact (filter_queue_send rfl hq).trans (List.append_nil _).symm
  · have hreply : ∀ p, .reply p ∈ b.ops m → p.isPush = false := by
      intro p hp
      rw [eq_displayProcessed_of_mem_ops hp]
      rfl
    rw [writes_of_ne_send hm, pacer_move,
      Pacer.filter_queue_after (fun o ho => ne_next_of_mem_ops hm ho) hreply,
      (presses_ops h.link hb m).2]
    rfl

theorem pushes_run (h : b.Sound) (hb : b.pressed = heldMask before) (ms : List Move) :
    (b.run ms).pressed = heldMask (before ++ b.runPresses ms) ∧
      ((b.run ms).written ++ (b.run ms).pacer.queue).filter Packet.isPush =
        (b.written ++ b.pacer.queue).filter Packet.isPush ++ heldEvents before (b.runPresses ms) := by
  induction ms generalizing b before with
  | nil =>
    refine ⟨?_, (List.append_nil _).symm⟩
    show b.pressed = heldMask (before ++ [])
    rw [List.append_nil, hb]
  | cons m ms ih =>
    obtain ⟨hp, he⟩ := ih (h.move m) (presses_ops h.link hb m).1
    rw [run_cons, hp, he, pushes_move h hb m, runPresses, heldEvents_append]
    simp only [List.append_assoc]
    exact ⟨trivial, trivial⟩

end Buttons

/-! ## Runs from the start -/

theorem start_of_ofOptions {files : String → Option String} {o : Options} {b : Bridge}
    (h : ofOptions files o = .ok b) : b.pressed = heldMask [] ∧ b.panel = o.model.panel := by
  obtain ⟨rules, rfl⟩ := eq_of_ofOptions h
  exact ⟨rfl, rfl⟩

/-- **Only proper events go to the firmware.** Let anything happen to a bridge from its start, in any
order: packets of the firmware, exchanges, and input from calls, clients, the viewer and automation rules,
as in any session.

1. Every packet that waits for the firmware, is released next or went to the firmware is an event that
   has an encoding. A finger is on the screen of the device, a transfer carries at most 64 bytes, and a
   chunk has at most 140.
2. The events of the buttons that went to the firmware, and behind them those that wait, are one for each
   press and release that came, in order. Each carries twice the mask of what is held after it: of each
   side the last press or release was a press. -/
theorem events_are_proper {files : String → Option String} {o : Options} {b : Bridge}
    (options : ofOptions files o = .ok b) :
    (∀ ms : List Move,
      let c := b.run ms
      let presses := b.runPresses ms
      (∀ p, p ∈ c.pacer.queue ∨ c.pacer.next.1 = .packet p ∨ p ∈ c.written → p.Proper o.model.panel) ∧
      (c.written ++ c.pacer.queue).filter (fun p => p.tag == .buttonPush) =
        (List.range presses.length).map fun i =>
          ⟨.buttonPush, [2 * heldMask (presses.take (i + 1))]⟩) ∧
    ∀ period viewer is, ∃ ms, ((Session.start b period viewer).after files is).bridge = b.run ms := by
  have hs : b.Sound := (isNew_of_ofOptions options).sound
  obtain ⟨hb, hp⟩ := start_of_ofOptions options
  refine ⟨fun ms => ⟨?_, ?_⟩, fun period viewer is => Session.reaches_after files b period viewer is⟩
  · have hc : (b.run ms).Sound := hs.run ms
    have hpanel : (b.run ms).panel = o.model.panel := by
      rw [← hp]
      exact congrArg Model.panel (model_run b ms)
    intro p h
    rw [← hpanel]
    rcases h with h | h | h
    · exact (hc.queue p h).proper
    · exact (hc.released h).proper
    · exact (hc.written p h).proper
  · have hn := isNew_of_ofOptions options
    have hstart : b.written ++ b.pacer.queue = [] := by
      rw [written, hn.notices, hn.pacer]
      rfl
    have h := (pushes_run hs hb ms).2
    rw [hstart] at h
    exact h

/-- The buttons are pressed one by one and then released together. Between that come a touch, an
exchange over NFC and a status of the firmware. -/
theorem events_of_both_buttons :
    let b : Bridge := { engine := Engine.new .stax .nfc none }
    let ms : List Move := [.button .left true, .touch ⟨399, 671, true⟩, .button .right true,
      .exchange (.call "a") [0x80, 0x01] none, .startTurn, .transmit, .dispatch ⟨.generalStatus, [0, 0]⟩,
      .send, .touch ⟨400, 0, true⟩, .button .both false]
    let c := b.run ms
    ofOptions (fun _ => none) { model := .stax, link := .nfc } = .ok b ∧
      c.written = [⟨.buttonPush, [2]⟩] ∧
      c.pacer.queue = [.finger 399 671 true, ⟨.buttonPush, [6]⟩,
        ⟨.capdu, [0, 0, 5, 0, 0, 0, 2, 0x80, 0x01]⟩, ⟨.buttonPush, [0]⟩] ∧
      (∀ p ∈ c.pacer.queue, p.Proper Model.stax.panel) ∧
      (c.written ++ c.pacer.queue).filter (fun p => p.tag == .buttonPush) =
        [⟨.buttonPush, [2]⟩, ⟨.buttonPush, [6]⟩, ⟨.buttonPush, [0]⟩] := by
  intro b ms c
  have ho : ofOptions (fun _ => none) { model := .stax, link := .nfc } = .ok b := rfl
  obtain ⟨hproper, hpush⟩ := (events_are_proper ho).1 ms
  refine ⟨ho, by decide +kernel, by decide +kernel, fun p hp => hproper p (.inl hp), ?_⟩
  exact hpush.trans (by decide +kernel)

end Bridge
end Seph
