import Seph.Proofs.Bridge.Exchanges
import Seph.Proofs.Bridge.Handshake
import Seph.Proofs.Link.Order

/-!
# Requests on their way

The packets of a request go from the link to the queue, some of them with a stay among those that wait
for the endpoints, and from the queue to the firmware. What is on its way (`Bridge.unsent`) keeps its
order under every move (`unsent_move`), so the firmware gets the packets of the requests in the order
in which the requests were sent, each packet once (`written_requests`).
-/

namespace Seph

namespace Pacer

/-- The event that an operation puts behind all that waits. -/
def Op.pushed? : Op → Option Packet
  | .push p => some p
  | _ => none

/-- An operation that neither releases nor puts such a packet first keeps the order of such packets. -/
theorem filter_queue_step {f : Packet → Bool} {s : Pacer} {o : Op} (hn : o ≠ .next)
    (hr : ∀ p, o = .reply p → f p = false) :
    (s.step o).2.queue.filter f = s.queue.filter f ++ o.pushed?.toList.filter f := by
  have h := step_rule s o
  generalize (s.step o).1 = r at h
  generalize (s.step o).2 = s' at h
  cases h with
  | push p => exact List.filter_append _ _
  | reply p hs =>
    show (p :: s.queue).filter f = s.queue.filter f ++ []
    rw [List.append_nil, List.filter_cons, if_neg (by simp [hr p rfl])]
  | replyRefused | status | statusRefused | requestTick | requestIgnored | forceTick | pause | resume
    | close => exact (List.append_nil _).symm
  | head | tick | waiting | ended => exact absurd rfl hn

theorem filter_queue_after {f : Packet → Bool} {s : Pacer} {os : List Op} (hn : ∀ o ∈ os, o ≠ .next)
    (hr : ∀ p, .reply p ∈ os → f p = false) :
    (s.after os).queue.filter f = s.queue.filter f ++ (os.filterMap Op.pushed?).filter f := by
  induction os generalizing s with
  | nil => exact (List.append_nil _).symm
  | cons o os ih =>
    have ho := filter_queue_step (s := s) (hn o List.mem_cons_self) fun p hp =>
      hr p (hp ▸ List.mem_cons_self)
    rw [after_cons, ih (fun o hm => hn o (List.mem_cons_of_mem _ hm))
      fun p hm => hr p (List.mem_cons_of_mem _ hm), ho, List.append_assoc, ← List.filter_append,
      List.filterMap_cons]
    cases o.pushed? <;> rfl

end Pacer

namespace Bridge

/-- The packets with APDU data that are on their way to the firmware, in order. -/
def unsent (b : Bridge) : List Packet :=
  b.pacer.queue.filter Packet.carriesApdu ++ b.engine.link.unsent

/-- The packets of the requests that a move sends. -/
def requests (b : Bridge) (m : Move) : List Packet :=
  (Desk.asked (b.desk.trace (b.calls m))).flatMap fun x => b.engine.link.kind.request x.apdu

/-! ## Outputs -/

theorem filter_actionOps (b : Bridge) (a : Action) :
    ((b.actionOps a).filterMap Pacer.Op.pushed?).filter Packet.carriesApdu = [] := by
  cases a with
  | button mask pressed => simp only [actionOps]; split <;> rfl
  | finger x y pressed => simp only [actionOps, touchOps]; split <;> rfl
  | setBool | exit => rfl

theorem filter_outputOps (b : Bridge) (o : Output) :
    ((b.outputOps o).filterMap Pacer.Op.pushed?).filter Packet.carriesApdu =
      o.event?.toList.filter Packet.carriesApdu := by
  cases o with
  | action a => exact filter_actionOps b a
  | event | reply | statusReceived | apdu | text | screen | exit => rfl

/-- Of the outputs that are carried out only the events put APDU data into the queue. -/
theorem filter_carryOps (b : Bridge) (os : List Output) :
    ((b.carryOps os).filterMap Pacer.Op.pushed?).filter Packet.carriesApdu =
      ((b.carried os).filterMap Output.event?).filter Packet.carriesApdu := by
  induction os generalizing b with
  | nil => rfl
  | cons o os ih =>
    simp only [carryOps, carried]
    cases h : b.carryOut o with
    | error e =>
      dsimp only
      rw [List.append_nil, filter_outputOps]
      cases o with
      | event => cases h
      | reply | statusReceived | apdu | text | action | screen | exit => rfl
    | ok b' =>
      dsimp only
      rw [List.filterMap_append, List.filter_append, filter_outputOps, ih, ← List.filter_append,
        List.filterMap_cons]
      cases o.event? <;> rfl

theorem reply_mem_carryOps {b : Bridge} {os : List Output} {p : Packet}
    (h : .reply p ∈ b.carryOps os) : .reply p ∈ os := by
  induction os generalizing b with
  | nil => cases h
  | cons o os ih =>
    rcases List.mem_append.1 h with h | h
    · refine List.mem_cons.2 (.inl ?_)
      cases hf : o.opensSlot with
      | false =>
        obtain ⟨ps, hp⟩ := outputOps_of_not_opensSlot (b := b) hf
        rw [hp] at h
        obtain ⟨q, -, hq⟩ := List.mem_map.1 h
        cases hq
      | true =>
        cases o with
        | reply q => cases List.mem_singleton.1 h; rfl
        | statusReceived => cases List.mem_singleton.1 h
        | event | apdu | text | action | screen | exit => cases hf
    · refine List.mem_cons_of_mem o ?_
      cases hc : b.carryOut o with
      | error e => rw [hc] at h; cases h
      | ok b' => rw [hc] at h; exact ih h

theorem eq_displayProcessed_of_mem_outputs {b : Bridge} {p q : Packet}
    (h : .reply q ∈ b.outputs p) : q = .displayProcessed := by
  unfold outputs at h
  split at h
  · rename_i outs hr
    exact Engine.eq_displayProcessed_of_reply hr h
  · cases h

/-- Outputs that do not open the slot are all carried out. -/
theorem carried_of_not_opensSlot {b : Bridge} {os : List Output}
    (h : ∀ o ∈ os, o.opensSlot = false) : b.carried os = os := by
  induction os generalizing b with
  | nil => rfl
  | cons o os ih =>
    have ho := h o List.mem_cons_self
    simp only [carried]
    cases hc : b.carryOut o with
    | ok b' => exact congrArg (o :: ·) (ih fun o hm => h o (List.mem_cons_of_mem _ hm))
    | error e =>
      cases o with
      | reply | statusReceived => cases ho
      | event | apdu | text | action | screen | exit => cases hc

/-! ## A packet of the firmware -/

theorem event?_of_isNews {o : Output} (h : o.isNews = true) : o.event? = none := by
  cases o with
  | reply | statusReceived | event | apdu => cases h
  | text | action | screen | exit => rfl

theorem filter_carried_of_no_event {b : Bridge} {os : List Output}
    (h : os.filterMap Output.event? = []) :
    ((b.carried os).filterMap Output.event?).filter Packet.carriesApdu = [] := by
  have hp := (carried_prefix_outputs b os).filterMap Output.event?
  rw [h, List.prefix_nil] at hp
  rw [hp, List.filter_nil]

theorem events_of_isNews {news : List Output} (hn : ∀ o ∈ news, o.isNews = true) :
    news.filterMap Output.event? = [] :=
  List.filterMap_eq_nil_iff.2 fun o ho => event?_of_isNews (hn o ho)

theorem events_response (r : Option Bytes) :
    (Engine.response r).filterMap Output.event? = [] := by cases r <;> rfl

theorem events_map_event (ps : List Packet) :
    (ps.map Output.event).filterMap Output.event? = ps := by
  rw [List.filterMap_map]
  exact List.filterMap_some

/-- What the engine does with a packet moves APDU data from the link to the events, in order. -/
theorem unsent_update (b : Bridge) (p : Packet) :
    ((((b.heed p).carried (b.outputs p)).filterMap Output.event?).filter Packet.carriesApdu) ++
        (b.engine.update p).engine.link.unsent = b.engine.link.unsent ∧
      (b.engine.update p).engine.link.kind = b.engine.link.kind := by
  have hh := Engine.update_handling b.engine p
  unfold outputs
  generalize (b.engine.update p).engine.link = l at hh ⊢
  generalize (b.engine.update p).result = r at hh ⊢
  generalize b.heed p = c
  cases hh with
  | refused x => exact ⟨rfl, rfl⟩
  | processed ht =>
    dsimp only
    rw [filter_carried_of_no_event rfl]
    exact ⟨rfl, rfl⟩
  | finished news ht hn =>
    dsimp only
    rw [filter_carried_of_no_event (by rw [List.filterMap_append, events_of_isNews hn]; rfl)]
    exact ⟨rfl, rfl⟩
  | silent news ht hn =>
    dsimp only
    rw [filter_carried_of_no_event (events_of_isNews hn)]
    exact ⟨rfl, rfl⟩
  | garbled hl => exact ⟨hl.keeps.unsent, hl.keeps.kind⟩
  | @taken r l outs ht hl ho =>
    have he : outs.filterMap Output.event? = l.outbox := by
      rcases ho with rfl | rfl
      · rw [List.filterMap_append, events_response, events_map_event, List.nil_append]
      · rw [List.filterMap_append, events_response, events_map_event, List.append_nil]
    dsimp only
    rw [carried_of_not_opensSlot (Engine.opensSlot_of_mem_taken ho), he, Link.unsent_setOutbox,
      Link.kind_setOutbox]
    exact ⟨hl.keeps.unsent, hl.keeps.kind⟩

theorem unsent_dispatch (b : Bridge) (p : Packet) :
    (b.move (.dispatch p)).unsent = b.unsent ∧
      (b.move (.dispatch p)).engine.link.kind = b.engine.link.kind := by
  obtain ⟨hu, hk⟩ := unsent_update b p
  have he : (b.move (.dispatch p)).engine = (b.engine.update p).engine := by
    simp only [move, dispatch_snd]
    exact (carryOutAll_paced _ _).engine
  have hq : (b.move (.dispatch p)).pacer.queue.filter Packet.carriesApdu =
      b.pacer.queue.filter Packet.carriesApdu ++
        (((b.heed p).carried (b.outputs p)).filterMap Output.event?).filter Packet.carriesApdu := by
    rw [pacer_move]
    show (b.pacer.after ((b.heed p).carryOps (b.outputs p))).queue.filter Packet.carriesApdu = _
    rw [Pacer.filter_queue_after (fun o ho => (mem_carryOps ho).1), filter_carryOps]
    · intro q hq
      rw [eq_displayProcessed_of_mem_outputs (reply_mem_carryOps hq)]
      rfl
  rw [unsent, he, hq, List.append_assoc, hu]
  exact ⟨rfl, hk⟩

/-! ## A request -/

theorem link_submit (b : Bridge) (apdu : Bytes) :
    (b.submit apdu).engine.link = match (b.engine.link.send apdu).1 with
      | .ok _ => (b.engine.link.send apdu).2.setOutbox []
      | .error _ => (b.engine.link.send apdu).2 := by
  unfold submit Engine.sendApdu
  generalize b.engine.link.send apdu = r
  obtain ⟨_ | _, l⟩ := r <;> rfl

theorem unsent_transmit (b : Bridge) :
    (b.move .transmit).unsent = b.unsent ++ b.requests .transmit ∧
      (b.move .transmit).engine.link.kind = b.engine.link.kind := by
  rcases transmit_cases b with ⟨x, rc, u, ht, hs⟩ | ⟨x, rc, e, ht, hs⟩ | hi
  · have hl := link_submit b x.apdu
    rw [hs] at hl
    obtain ⟨hu, hk, -⟩ := Link.unsent_send hs
    have hr : b.requests .transmit = b.engine.link.kind.request x.apdu := by
      simp [requests, calls, askCalls, ht, attempt, hs, Desk.step, Desk.asked, Desk.Event.asked?]
    simp only [move]
    rw [transmit_ok ht hs, hr]
    constructor
    · show (b.pacer.queue ++ b.frames x.apdu).filter Packet.carriesApdu ++
        (b.submit x.apdu).engine.link.unsent = _
      rw [hl, List.filter_append, List.append_assoc]
      show _ ++ ((b.engine.link.send x.apdu).2.outbox.filter Packet.carriesApdu ++
        ((b.engine.link.send x.apdu).2.setOutbox []).unsent) = _
      rw [Link.unsent_setOutbox, hu, unsent, List.append_assoc]
    · show (b.submit x.apdu).engine.link.kind = _
      rw [hl]
      exact (Link.kind_setOutbox _ _).trans hk
  · have hl := link_submit b x.apdu
    rw [hs] at hl
    have hr : b.requests .transmit = [] := by
      simp [requests, calls, askCalls, ht, attempt, hs, Desk.step, Desk.asked]
    simp only [move]
    rw [transmit_error ht hs, hr, List.append_nil]
    have he := Link.send_of_error hs
    constructor
    · show b.pacer.queue.filter Packet.carriesApdu ++ (b.submit x.apdu).engine.link.unsent = _
      rw [hl]
      exact congrArg (b.pacer.queue.filter Packet.carriesApdu ++ ·) (congrArg Link.unsent he)
    · show (b.submit x.apdu).engine.link.kind = _
      rw [hl]
      exact congrArg Link.kind he
  · have hr : b.requests .transmit = [] := by
      rw [requests, calls, askCalls_idle hi]
      rfl
    simp only [move]
    rw [transmit_idle hi, hr, List.append_nil]
    exact ⟨rfl, rfl⟩

/-! ## Moves -/

/-- The move has nothing to do with requests. -/
def Move.isAside : Move → Bool
  | .transmit | .dispatch _ | .send => false
  | _ => true

theorem link_aside {b : Bridge} {m : Move} (h : m.isAside = true) :
    (b.move m).engine.link = b.engine.link := by
  cases m with
  | transmit | dispatch | send => cases h
  | touch t => exact congrArg Engine.link (move_touch b t).1.engine
  | startTurn | leave => exact congrArg Engine.link (conclude_frame b _).2.1
  | clear => simp only [move]; split <;> rfl
  | button | note | setRules | listen | requestTick | forceTick | pause | resume | exchange | expire
    | lapse | close => rfl

/-- What holds of the link goes on to hold, if it does whatever the link takes or sends and when it is
emptied. -/
theorem link_move {P : Link → Prop} (takes : ∀ {l r l'}, P l → l.Takes r l' → P l')
    (sends : ∀ {l : Link}, P l → ∀ apdu, P (l.send apdu).2)
    (empties : ∀ {l : Link}, P l → P (l.setOutbox [])) {b : Bridge} (h : P b.engine.link) (m : Move) :
    P (b.move m).engine.link := by
  cases ha : m.isAside with
  | true =>
    rw [link_aside ha]
    exact h
  | false =>
    cases m with
    | send => exact (move_send b).engine ▸ h
    | transmit =>
      simp only [move]
      rcases transmit_cases b with ⟨x, rc, u, ht, hs⟩ | ⟨x, rc, e, ht, hs⟩ | hi
      · have hl := link_submit b x.apdu
        rw [hs] at hl
        rw [transmit_ok ht hs]
        show P (b.submit x.apdu).engine.link
        rw [hl]
        exact empties (sends h x.apdu)
      · have hl := link_submit b x.apdu
        rw [hs] at hl
        rw [transmit_error ht hs]
        show P (b.submit x.apdu).engine.link
        rw [hl]
        exact sends h x.apdu
      · rw [transmit_idle hi]
        exact h
    | dispatch p =>
      simp only [move, dispatch_snd]
      rw [(carryOutAll_paced _ _).engine]
      exact Engine.link_update takes empties h p
    | button | touch | note | setRules | listen | requestTick | forceTick | pause | resume | exchange
      | startTurn | leave | expire | lapse | close | clear => cases ha

theorem requests_aside {b : Bridge} {m : Move} (h : m.isAside = true) : b.requests m = [] := by
  have ha : Desk.asked (b.desk.trace (b.calls m)) = [] := by
    cases m with
    | transmit | dispatch | send => cases h
    | startTurn =>
      simp only [calls, Desk.trace_cons, Desk.trace_nil, List.append_nil, Desk.step]
      generalize b.desk.startTurn b.pacer.ticks.closed = r
      obtain ⟨_ | s, d⟩ := r
      · dsimp only
        cases b.desk.upNext? <;> rfl
      · rfl
    | leave =>
      simp only [calls, Desk.trace_cons, Desk.trace_nil, List.append_nil, Desk.step]
      cases b.desk.leave.1 <;> rfl
    | clear => simp only [calls]; split <;> rfl
    | button | touch | note | setRules | listen | requestTick | forceTick | pause | resume | exchange
      | expire | lapse | close => rfl
  rw [requests, ha]
  rfl

theorem filter_queue_aside {b : Bridge} {m : Move} (h : m.isAside = true) :
    (b.move m).pacer.queue.filter Packet.carriesApdu =
      b.pacer.queue.filter Packet.carriesApdu := by
  cases m with
  | transmit | dispatch | send => cases h
  | button x pressed =>
    show (b.pacer.queue ++ [_]).filter Packet.carriesApdu = _
    rw [List.filter_append]
    exact List.append_nil _
  | touch t =>
    rw [pacer_move]
    simp only [ops, touchOps]
    split
    · rfl
    · show (b.pacer.queue ++ [_]).filter Packet.carriesApdu = _
      rw [List.filter_append]
      exact List.append_nil _
  | requestTick => simp only [move, Pacer.requestTick]; split <;> rfl
  | startTurn | leave => rw [pacer_move]; rfl
  | clear => simp only [move]; split <;> rfl
  | note | setRules | listen | forceTick | pause | resume | exchange | expire | lapse | close => rfl

/-- Every packet on its way has an encoding. -/
def Bounded (b : Bridge) : Prop := ∀ p ∈ b.unsent, p.payload.length ≤ Packet.maxPayload

/-- What is released is the head of the queue, or a tick. It is written if it has an encoding. -/
theorem filter_queue_send {b : Bridge} {f : Packet → Bool} (ht : f .tick = false)
    (hq : ∀ p ∈ b.pacer.queue, f p = true → p.payload.length ≤ Packet.maxPayload) :
    (b.writes .send).filter f ++ (b.move .send).pacer.queue.filter f = b.pacer.queue.filter f := by
  have hr := Pacer.step_rule b.pacer .next
  rw [(move_send b).pacer]
  simp only [Pacer.step] at hr
  simp only [writes]
  generalize b.pacer.next = r at hr
  obtain ⟨r, s⟩ := r
  cases hr with
  | head p ps running slot queue =>
    rw [queue] at hq ⊢
    show (if p.payload.length > Packet.maxPayload then [] else [p]).filter f ++ ps.filter f =
      (p :: ps).filter f
    split
    · rename_i hp
      -- what has no encoding is not counted
      have hf : f p = false :=
        Bool.eq_false_iff.2 fun hf => Nat.not_le_of_lt hp (hq p List.mem_cons_self hf)
      rw [List.filter_cons_of_neg (ne_true_of_eq_false hf)]
      rfl
    · rw [← List.filter_append]
      rfl
  | tick running slot queue wanted =>
    show [Packet.tick].filter f ++ b.pacer.queue.filter f = b.pacer.queue.filter f
    rw [List.filter_cons_of_neg (ne_true_of_eq_false ht)]
    rfl
  | waiting | ended => rfl

/-- What is released is the first packet on its way, if it carries APDU data. -/
theorem unsent_send {b : Bridge} (hb : b.Bounded) :
    (b.writes .send).filter Packet.carriesApdu ++ (b.move .send).unsent = b.unsent ∧
      (b.move .send).engine.link = b.engine.link := by
  have hl : (b.move .send).engine.link = b.engine.link := congrArg Engine.link (move_send b).engine
  have hq : ∀ p ∈ b.pacer.queue, p.carriesApdu = true → p.payload.length ≤ Packet.maxPayload :=
    fun p hp hc => hb p (List.mem_append_left _ (List.mem_filter.2 ⟨hp, hc⟩))
  refine ⟨?_, hl⟩
  rw [unsent, hl, ← List.append_assoc, filter_queue_send rfl hq, unsent]

/-- **What is on its way keeps its order**, and what is sent goes behind it. -/
theorem unsent_move {b : Bridge} (hb : b.Bounded) (m : Move) :
    (b.writes m).filter Packet.carriesApdu ++ (b.move m).unsent = b.unsent ++ b.requests m ∧
      (b.move m).engine.link.kind = b.engine.link.kind := by
  cases ha : m.isAside with
  | true =>
    rw [writes_of_ne_send (by rintro rfl; cases ha), requests_aside ha, List.append_nil, unsent, unsent,
      filter_queue_aside ha, link_aside ha]
    exact ⟨rfl, rfl⟩
  | false =>
    cases m with
    | send =>
      obtain ⟨hu, hl⟩ := unsent_send hb
      exact ⟨hu.trans (List.append_nil _).symm, congrArg Link.kind hl⟩
    | transmit => exact unsent_transmit b
    | dispatch p =>
      have hr : b.requests (.dispatch p) = [] := by
        have ha : Desk.asked ((b.responses p).map .answered) = [] := by
          rw [Desk.asked, List.filterMap_eq_nil_iff]
          intro e he
          obtain ⟨r, -, rfl⟩ := List.mem_map.1 he
          rfl
        rw [requests, calls, Desk.trace_delivers, ha]
        rfl
      rw [hr, List.append_nil]
      exact unsent_dispatch b p
    | button | touch | note | setRules | listen | requestTick | forceTick | pause | resume | exchange
      | startTurn | leave | expire | lapse | close | clear => cases ha

theorem bounded_move {b : Bridge} (hb : b.Bounded) (m : Move) : (b.move m).Bounded := by
  intro p hp
  have hm : p ∈ b.unsent ++ b.requests m := by
    rw [← (unsent_move hb m).1]
    exact List.mem_append_right _ hp
  rcases List.mem_append.1 hm with hm | hm
  · exact hb p hm
  · obtain ⟨x, -, hx⟩ := List.mem_flatMap.1 hm
    exact (LinkKind.of_mem_request hx).2

/-! ## Runs -/

/-- The requests that a run sends, in order. -/
def asked (b : Bridge) (ms : List Move) : List Exchange := Desk.asked (b.exchanges ms)

/-- The packets of a request of a bridge. -/
def packets (b : Bridge) (x : Exchange) : List Packet := b.engine.link.kind.request x.apdu

theorem unsent_run {b : Bridge} (hb : b.Bounded) (ms : List Move) :
    (b.run ms).written.filter Packet.carriesApdu ++ (b.run ms).unsent =
      b.written.filter Packet.carriesApdu ++ b.unsent ++ (b.asked ms).flatMap b.packets := by
  induction ms generalizing b with
  | nil => exact (List.append_nil _).symm
  | cons m ms ih =>
    obtain ⟨hu, hk⟩ := unsent_move hb m
    have hp : (b.move m).packets = b.packets := by
      funext x
      rw [packets, hk, packets]
    rw [run_cons, ih (bounded_move hb m), hp, (seen_move b m).1, List.filter_append,
      List.append_assoc (b.written.filter _), hu, asked, asked, exchanges_cons, Desk.asked_append,
      List.flatMap_append]
    simp only [List.append_assoc]
    rfl

/-- **The firmware gets the requests in order.** The packets with APDU data that went to the firmware,
followed by those on their way, are the packets of the requests in the order in which they were sent. -/
theorem written_requests {b : Bridge} (hb : b.IsNew) (ms : List Move) :
    (b.run ms).written.filter Packet.carriesApdu ++ (b.run ms).unsent =
      (b.asked ms).flatMap b.packets := by
  have hw : b.written = [] := by rw [written, hb.notices]; rfl
  have hu : b.unsent = [] := by
    obtain ⟨k, hl⟩ := hb.link
    rw [unsent, hb.pacer, hl, Link.unsent_new]
    rfl
  rw [unsent_run (by rw [Bounded, hu]; simp) ms, hw, hu]
  rfl

end Bridge
end Seph
