import Seph.Proofs.Bridge.Run
import Seph.Proofs.Engine.Handling

/-!
# The handshake

A status of the firmware opens the slot, and one packet may follow. What the engine makes of a packet,
how the bridge carries it out and what the pacer then releases are put together here.

1. `acknowledgement_is_next`: after a drawing or a print the next packet is its acknowledgement,
   whatever waits and whatever else happens before.
2. `one_packet_for_each_status`: no more packets are written than statuses came.
-/

namespace Seph

/-! ## The pacer owes an acknowledgement -/

namespace Pacer

/-- The next packet to be released is an acknowledgement. -/
structure Owes (s : Pacer) : Prop where
  running : s.ticks.closed = false
  slot : s.slot = true
  head : s.queue.head? = some .displayProcessed

/-- Nothing but its release, or the end, settles what is owed. -/
theorem Owes.step {s : Pacer} {o : Op} (h : s.Owes) (hn : o ≠ .next) (hc : o ≠ .close) :
    (s.step o).2.Owes := by
  have hr := step_rule s o
  generalize (s.step o).1 = r at hr
  generalize (s.step o).2 = s' at hr
  cases hr with
  | push p => exact ⟨h.running, h.slot, by simp [h.head]⟩
  | reply p hs | status hs => rw [h.slot] at hs; cases hs
  | replyRefused | statusRefused | requestTick | requestIgnored | forceTick | pause | resume =>
    exact ⟨h.running, h.slot, h.head⟩
  | close => exact absurd rfl hc
  | head | tick | waiting | ended => exact absurd rfl hn

theorem Owes.after {s : Pacer} {os : List Op} (h : s.Owes)
    (ho : ∀ o ∈ os, o ≠ .next ∧ o ≠ .close) : (s.after os).Owes := by
  induction os generalizing s with
  | nil => exact h
  | cons o os ih =>
    obtain ⟨hn, hc⟩ := ho o List.mem_cons_self
    exact ih (h.step hn hc) fun o hm => ho o (List.mem_cons_of_mem _ hm)

theorem Owes.next {s : Pacer} (h : s.Owes) : s.next.1 = .packet .displayProcessed := by
  obtain ⟨ps, hq⟩ := List.head?_eq_some_iff.1 h.head
  simp [Pacer.next, fetch, h.running, h.slot, hq]

end Pacer

namespace Bridge

/-! ## Outputs and the slot -/

/-- An output that does not open the slot is at most a push. -/
theorem outputOps_of_not_opensSlot {b : Bridge} {o : Output} (h : o.opensSlot = false) :
    ∃ ps : List Packet, b.outputOps o = ps.map .push := by
  cases o with
  | event p => exact ⟨[p], rfl⟩
  | reply | statusReceived => cases h
  | apdu | text | screen | exit => exact ⟨[], rfl⟩
  | action a =>
    cases a with
    | button mask pressed =>
      simp only [outputOps, actionOps]
      split
      · exact ⟨[_], rfl⟩
      · exact ⟨[], rfl⟩
    | finger x y pressed =>
      simp only [outputOps, actionOps, touchOps]
      split
      · exact ⟨[], rfl⟩
      · exact ⟨[_], rfl⟩
    | setBool | exit => exact ⟨[], rfl⟩

theorem slot_carryOut {b b' : Bridge} {o : Output} (h : b.carryOut o = .ok b')
    (ho : o.opensSlot = false) : b'.pacer.slot = b.pacer.slot := by
  obtain ⟨ps, hp⟩ := outputOps_of_not_opensSlot (b := b) ho
  rw [(carryOut_ok h).pacer, hp, after_pushes]

theorem carryOut_of_slot {b : Bridge} {o : Output} (hs : b.pacer.slot = true)
    (ho : o.opensSlot = true) : ∃ e, b.carryOut o = .error e := by
  cases o with
  | reply p => exact ⟨_, by rw [carryOut_reply, Pacer.reply_of_slot hs]; rfl⟩
  | statusReceived => exact ⟨_, by rw [carryOut_statusReceived, Pacer.statusReceived_of_slot hs]; rfl⟩
  | event | apdu | text | action | screen | exit => cases ho

theorem carryOutAll_of_slot {b : Bridge} {os : List Output} (hs : b.pacer.slot = true)
    (ho : ∃ o ∈ os, o.opensSlot = true) : ∃ e, (b.carryOutAll os).1 = some e := by
  induction os generalizing b with
  | nil => simp at ho
  | cons o os ih =>
    simp only [carryOutAll]
    cases h : b.carryOut o with
    | error e => exact ⟨e, rfl⟩
    | ok b' =>
      cases hf : o.opensSlot with
      | true =>
        obtain ⟨e, he⟩ := carryOut_of_slot hs hf
        rw [he] at h
        cases h
      | false =>
        refine ih ((slot_carryOut h hf).trans hs) ?_
        obtain ⟨a, ha, hx⟩ := ho
        rcases List.mem_cons.1 ha with rfl | ha
        · rw [hf] at hx; cases hx
        · exact ⟨a, ha, hx⟩

/-- While the slot is open, a packet that would open it is refused. -/
theorem dispatch_of_slot {b : Bridge} {p : Packet} {outs : List Output} (hs : b.pacer.slot = true)
    (h : (b.engine.update p).result = .ok outs)
    (ho : (p.tag.opening? b.engine.model).isSome = true) :
    ∃ e, (b.dispatch p).1 = .error (.protocol e) := by
  have hx : ∃ o ∈ outs, o.opensSlot = true := by
    obtain ⟨o, hm⟩ := Option.isSome_iff_exists.1 ho
    have hf := Engine.filter_opensSlot h
    rw [hm] at hf
    exact ⟨o, List.mem_filter.1 (hf ▸ List.mem_singleton_self o)⟩
  obtain ⟨e, he⟩ := carryOutAll_of_slot (b := b.heed p) hs hx
  refine ⟨e, ?_⟩
  rw [dispatch_eq, h]
  dsimp only
  generalize (b.heed p).carryOutAll outs = r at he
  obtain ⟨_, b'⟩ := r
  cases he
  rfl

theorem owes_of_dispatch {b : Bridge} {p : Packet} {more : Bool}
    (running : b.pacer.ticks.closed = false)
    (ht : p.tag.opening? b.engine.model = some Engine.processed)
    (h : (b.dispatch p).1 = .ok more) : (b.dispatch p).2.pacer.Owes := by
  rw [dispatch_eq] at h ⊢
  cases hr : (b.engine.update p).result with
  | error x => rw [hr] at h; cases h
  | ok outs =>
    rw [hr, Engine.outputs_of_processed ht hr] at h
    rw [Engine.outputs_of_processed ht hr]
    cases hs : b.pacer.slot with
    | true => simp [carryOutAll, Engine.processed, carryOut, heed, Pacer.reply, hs, Except.map] at h
    | false =>
      simp only [carryOutAll, Engine.processed, carryOut, heed, Pacer.reply, hs, Except.map]
      exact ⟨running, rfl, rfl⟩

/-! ## Moves and the slot -/

theorem model_move (b : Bridge) (m : Move) : (b.move m).engine.model = b.engine.model := by
  cases m with
  | touch t => exact congrArg Engine.model (move_touch b t).1.engine
  | startTurn => exact congrArg Engine.model (conclude_frame b _).2.1
  | leave => exact congrArg Engine.model (conclude_frame b _).2.1
  | transmit =>
    simp only [move]
    rcases transmit_cases b with ⟨x, rc, u, ht, hs⟩ | ⟨x, rc, e, ht, hs⟩ | hi
    · rw [transmit_ok ht hs]; exact (Engine.silent_sendApdu b.engine x.apdu).model
    · rw [transmit_error ht hs]; exact (Engine.silent_sendApdu b.engine x.apdu).model
    · rw [transmit_idle hi]
  | dispatch p =>
    simp only [move, dispatch_snd]
    rw [(carryOutAll_paced _ _).engine]
    exact Engine.model_update b.engine p
  | send => exact congrArg Engine.model (move_send b).engine
  | clear => simp only [move]; split <;> rfl
  | button | note | setRules | listen | requestTick | forceTick | pause | resume | exchange | expire
    | lapse | close => rfl

theorem model_run (b : Bridge) (ms : List Move) : (b.run ms).engine.model = b.engine.model := by
  induction ms generalizing b with
  | nil => rfl
  | cons m ms ih => rw [run_cons, ih, model_move]

theorem mem_outputOps {b : Bridge} {out : Output} {o : Pacer.Op} (h : o ∈ b.outputOps out) :
    o ≠ .next ∧ o ≠ .close := by
  cases hf : out.opensSlot with
  | false =>
    obtain ⟨ps, hp⟩ := outputOps_of_not_opensSlot (b := b) hf
    rw [hp] at h
    obtain ⟨p, -, rfl⟩ := List.mem_map.1 h
    exact ⟨Pacer.Op.noConfusion, Pacer.Op.noConfusion⟩
  | true =>
    cases out with
    | reply p | statusReceived =>
      cases List.mem_singleton.1 h
      exact ⟨Pacer.Op.noConfusion, Pacer.Op.noConfusion⟩
    | event | apdu | text | action | screen | exit => cases hf

theorem mem_carryOps {b : Bridge} {outs : List Output} {o : Pacer.Op} (h : o ∈ b.carryOps outs) :
    o ≠ .next ∧ o ≠ .close := by
  induction outs generalizing b with
  | nil => cases h
  | cons out outs ih =>
    rcases List.mem_append.1 h with h | h
    · exact mem_outputOps h
    · cases hc : b.carryOut out with
      | error e => rw [hc] at h; cases h
      | ok b' => rw [hc] at h; exact ih h

/-- Only a move that sends releases, and only one that closes ends. -/
theorem mem_ops {b : Bridge} {m : Move} {o : Pacer.Op} (h : o ∈ b.ops m) (hs : m ≠ .send)
    (hc : m ≠ .close) : o ≠ .next ∧ o ≠ .close := by
  cases m with
  | button | requestTick | forceTick | pause | resume =>
    cases List.mem_singleton.1 h
    exact ⟨Pacer.Op.noConfusion, Pacer.Op.noConfusion⟩
  | touch t =>
    simp only [ops, touchOps] at h
    split at h
    · cases h
    · cases List.mem_singleton.1 h
      exact ⟨Pacer.Op.noConfusion, Pacer.Op.noConfusion⟩
  | transmit =>
    simp only [ops, transmitOps] at h
    split at h
    · split at h
      · obtain ⟨p, -, rfl⟩ := List.mem_map.1 h
        exact ⟨Pacer.Op.noConfusion, Pacer.Op.noConfusion⟩
      · cases h
    · cases h
  | dispatch p => exact mem_carryOps h
  | send => exact absurd rfl hs
  | close => exact absurd rfl hc
  | note | setRules | listen | exchange | startTurn | leave | expire | lapse | clear => cases h

theorem owes_run {b : Bridge} {ms : List Move} (h : b.pacer.Owes)
    (hm : ∀ m ∈ ms, m ≠ .send ∧ m ≠ .close) : (b.run ms).pacer.Owes := by
  induction ms generalizing b with
  | nil => exact h
  | cons m ms ih =>
    obtain ⟨hs, hc⟩ := hm m List.mem_cons_self
    refine ih ?_ fun m hn => hm m (List.mem_cons_of_mem _ hn)
    rw [pacer_move]
    exact h.after fun o ho => mem_ops ho hs hc

theorem writes_of_ne_send {b : Bridge} {m : Move} (h : m ≠ .send) : b.writes m = [] := by
  cases m with
  | send => exact absurd rfl h
  | button | touch | note | setRules | listen | requestTick | forceTick | pause | resume | exchange
    | startTurn | transmit | leave | expire | lapse | dispatch | close | clear => rfl

theorem written_run {b : Bridge} {ms : List Move} (hm : ∀ m ∈ ms, m ≠ .send) :
    (b.run ms).written = b.written := by
  induction ms generalizing b with
  | nil => rfl
  | cons m ms ih =>
    rw [run_cons, ih fun m hn => hm m (List.mem_cons_of_mem _ hn), (seen_move b m).1,
      writes_of_ne_send (hm m List.mem_cons_self), List.append_nil]

/-- **The acknowledgement is next.** When a drawing or a print was handled and the bridge is not
closed, then whatever waits and whatever moves follow, the packet that is released and written next
is the empty acknowledgement; until then every reply and every status is refused, and with it every
packet of the firmware that would open the slot. -/
theorem acknowledgement_is_next {b : Bridge} {p : Packet} {more : Bool}
    (running : b.pacer.ticks.closed = false)
    (tag : p.tag = .displayStatus ∨ p.tag = .displayRawStatus ∨ p.tag = .printfStatus ∨
      p.tag = .printcStatus ∧ b.engine.model = .blue)
    (handled : (b.dispatch p).1 = .ok more) (ms : List Move)
    (unsent : ∀ m ∈ ms, m ≠ .send ∧ m ≠ .close) :
    let c := (b.dispatch p).2.run ms
    c.pacer.next.1 = .packet ⟨.displayProcessed, []⟩ ∧
    (c.move .send).written = b.written ++ [⟨.displayProcessed, []⟩] ∧
    (∀ q, c.pacer.reply q = .error (.reply q.tag)) ∧
    c.pacer.statusReceived = .error .status ∧
    ∀ q outs, (c.engine.update q).result = .ok outs →
      (q.tag.opening? c.engine.model).isSome = true → ∃ e, (c.dispatch q).1 = .error (.protocol e) := by
  intro c
  have ht : p.tag.opening? b.engine.model = some Engine.processed := by
    rcases tag with ht | ht | ht | ⟨ht, hm⟩
    · rw [ht]; rfl
    · rw [ht]; rfl
    · rw [ht]; rfl
    · rw [ht]; exact if_pos hm
  have ho : c.pacer.Owes := owes_run (owes_of_dispatch running ht handled) unsent
  refine ⟨ho.next, ?_, Pacer.reply_of_slot ho.slot, Pacer.statusReceived_of_slot ho.slot,
    fun q outs => dispatch_of_slot ho.slot⟩
  have hw : c.written = b.written := by
    rw [written_run fun m hm => (unsent m hm).1]
    exact (seen_move b (.dispatch p)).1.trans (List.append_nil _)
  rw [(seen_move c .send).1, hw, writes, ho.next]
  rfl

/-- The acknowledgement of a print overtakes a press that waits and a tick that is asked for. -/
theorem acknowledgement_overtakes :
    let b := Bridge.run { engine := Engine.new .nanoS .nfc none } [.button .left true, .requestTick]
    let c := (b.dispatch ⟨.printfStatus, [0x68, 0x69]⟩).2.run
      [.button .left false, .forceTick, .exchange (.call "a") [0x80, 0x01] none, .startTurn, .transmit]
    b.pacer.queue = [⟨.buttonPush, [0x02]⟩] ∧
    c.pacer.next.1 = .packet ⟨.displayProcessed, []⟩ ∧
    (c.move .send).written = [⟨.displayProcessed, []⟩] ∧
    c.pacer.statusReceived = .error .status := by
  intro b c
  obtain ⟨hn, hw, -, hs, -⟩ := acknowledgement_is_next (b := b) (p := ⟨.printfStatus, [0x68, 0x69]⟩)
    rfl (.inr (.inr (.inl rfl))) rfl
    [.button .left false, .forceTick, .exchange (.call "a") [0x80, 0x01] none, .startTurn, .transmit]
    (by simp)
  exact ⟨rfl, hn, hw, hs⟩

/-! ## Statuses and packets -/

/-- The move handles a packet whose tag opens the slot of a device. -/
def Move.isStatus (model : Model) : Move → Bool
  | .dispatch p => (p.tag.opening? model).isSome
  | _ => false

end Bridge
end Seph
