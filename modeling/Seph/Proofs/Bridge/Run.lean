import Seph.Bridge.Basic
import Seph.Proofs.Exchange.Run
import Seph.Proofs.Pacer.Run

/-!
# Runs of a bridge

The firmware, the ticker, the host and the exchanges all work with one bridge, each in its own time.
A run is a list of moves, one for each thing that takes effect at once, in the order in which they
do; every interleaving of those around the bridge is such a list.

1. `pacer_move`: on the pacer each move is a list of operations (`Bridge.ops`), so a run of the
   bridge is a run of its pacer (`pacer_run`).
2. `seen_move`: only sending writes packets, and only a turn that begins or ends settles an
   exchange.
-/

namespace Seph

/-- The packet that went to the firmware, if one did. -/
def Notice.sent? : Notice → Option Packet
  | .sent p => some p
  | _ => none

/-- The end of an exchange, if it is one. -/
def Notice.settled? : Notice → Option Settled
  | .settled s => some s
  | _ => none

namespace Bridge

/-- One thing that happens to a bridge. -/
inductive Move
  | button (x : Button) (pressed : Bool)
  | touch (t : Touch)
  /-- Something is seen that is neither a packet for the firmware nor the end of an exchange. -/
  | note (n : Notice) (unsent : n.sent? = none) (unsettled : n.settled? = none)
  | setRules (rules : Option Automation)
  | listen
  | requestTick
  | forceTick
  | pause
  | resume
  /-- An exchange is asked for. -/
  | exchange (caller : Caller) (apdu : Bytes) (limit : Option Nat)
  | startTurn
  | transmit
  | leave
  | expire
  | lapse
  /-- A packet of the firmware is handled. -/
  | dispatch (p : Packet)
  | send
  | close
  /-- The second step of the end, which waits for the first. -/
  | clear

def move (b : Bridge) : Move → Bridge
  | .button x pressed => b.queueButton x pressed
  | .touch t => match b.queueTouch t with
    | .ok b => b
    | .error _ => b
  | .note n _ _ => b.notify n
  | .setRules rules => { b with engine := b.engine.setRules rules }
  | .listen => b.listen
  | .requestTick => { b with pacer := b.pacer.requestTick.2 }
  | .forceTick => { b with pacer := b.pacer.forceTick }
  | .pause => { b with pacer := b.pacer.pause }
  | .resume => { b with pacer := b.pacer.resume }
  | .exchange caller apdu limit => b.exchange caller apdu limit
  | .startTurn => b.startTurn
  | .transmit => b.transmit
  | .leave => b.leave
  | .expire => b.expire
  | .lapse => { b with desk := b.desk.lapse b.pacer.waitCount }
  | .dispatch p => (b.dispatch p).2
  | .send => b.send.2
  | .close => b.close
  | .clear => if b.pacer.ticks.closed then b.clear else b

def run (b : Bridge) (ms : List Move) : Bridge := ms.foldl move b

@[simp] theorem run_nil (b : Bridge) : b.run [] = b := rfl

@[simp] theorem run_cons (b : Bridge) (m : Move) (ms : List Move) :
    b.run (m :: ms) = (b.move m).run ms := rfl

theorem run_append (b : Bridge) (ms ns : List Move) : b.run (ms ++ ns) = (b.run ms).run ns :=
  List.foldl_append

theorem run_concat (b : Bridge) (ms : List Move) (m : Move) :
    b.run (ms ++ [m]) = (b.run ms).move m := run_append b ms [m]

/-! ## What can be seen -/

/-- The packets that went to the firmware, in order. -/
def written (b : Bridge) : List Packet := b.notices.reverse.filterMap Notice.sent?

def ended (b : Bridge) : List Settled := b.notices.reverse.filterMap Notice.settled?

/-- From one bridge to another, no packet went to the firmware and no exchange came to its end. -/
structure Quiet (b b' : Bridge) : Prop where
  written : b'.written = b.written
  ended : b'.ended = b.ended

namespace Quiet

variable {a b c : Bridge}

theorem of_notices (h : b.notices = a.notices) : Quiet a b :=
  ⟨by unfold Bridge.written; rw [h], by unfold Bridge.ended; rw [h]⟩

theorem refl (b : Bridge) : Quiet b b := ⟨rfl, rfl⟩

theorem trans (h : Quiet a b) (g : Quiet b c) : Quiet a c :=
  ⟨g.written.trans h.written, g.ended.trans h.ended⟩

end Quiet

@[simp] theorem written_notify (b : Bridge) (n : Notice) :
    (b.notify n).written = b.written ++ n.sent?.toList := by
  unfold written notify
  rw [List.reverse_cons, List.filterMap_append, List.filterMap_cons]
  cases n.sent? <;> rfl

@[simp] theorem ended_notify (b : Bridge) (n : Notice) :
    (b.notify n).ended = b.ended ++ n.settled?.toList := by
  unfold ended notify
  rw [List.reverse_cons, List.filterMap_append, List.filterMap_cons]
  cases n.settled? <;> rfl

theorem quiet_notify {n : Notice} (hs : n.sent? = none) (he : n.settled? = none) (b : Bridge) :
    Quiet b (b.notify n) := ⟨by simp [hs], by simp [he]⟩

theorem quiet_remark (b : Bridge) (r : Remark) : Quiet b (b.remark r) := quiet_notify rfl rfl b

/-- From one bridge to another the pacer performs operations, and the engine stays as it was. -/
structure Paced (b : Bridge) (os : List Pacer.Op) (b' : Bridge) : Prop where
  engine : b'.engine = b.engine
  pacer : b'.pacer = b.pacer.after os
  quiet : Quiet b b'

namespace Paced

variable {a b c : Bridge} {os ps : List Pacer.Op}

theorem refl (b : Bridge) : Paced b [] b := ⟨rfl, rfl, .refl b⟩

theorem trans (h : Paced a os b) (g : Paced b ps c) : Paced a (os ++ ps) c :=
  ⟨g.engine.trans h.engine, by rw [g.pacer, h.pacer, Pacer.after_append], h.quiet.trans g.quiet⟩

end Paced

theorem paced_notify {n : Notice} (hs : n.sent? = none) (he : n.settled? = none) (b : Bridge) :
    Paced b [] (b.notify n) := ⟨rfl, rfl, quiet_notify hs he b⟩

theorem paced_remark (b : Bridge) (r : Remark) : Paced b [] (b.remark r) := paced_notify rfl rfl b

/-! ## What outputs do -/

theorem foldl_heard (b : Bridge) (response : Bytes) (is : List Nat) :
    is.foldl (fun b i => b.notify (.heard i response)) b =
      { b with notices := (is.map (Notice.heard · response)).reverse ++ b.notices } := by
  induction is generalizing b with
  | nil => rfl
  | cons i is ih => rw [List.foldl_cons, ih]; simp [notify]

theorem paced_foldl_heard (b : Bridge) (response : Bytes) (is : List Nat) :
    Paced b [] (is.foldl (fun b i => b.notify (.heard i response)) b) := by
  induction is generalizing b with
  | nil => exact .refl b
  | cons i is ih => exact (paced_notify rfl rfl b).trans (ih _)

theorem deliver_eq (b : Bridge) (response : Bytes) :
    ∃ ns, Paced b [] { b with notices := ns } ∧
      let c := { b with notices := ns, desk := (b.desk.deliver response).2 }
      b.deliver response =
        if (b.desk.deliver response).1 then c else c.remark (.unsolicited response) := by
  have hp := paced_foldl_heard b response (List.range b.listeners)
  rw [foldl_heard] at hp
  refine ⟨_, hp, ?_⟩
  unfold deliver
  rw [foldl_heard]

theorem paced_deliver (b : Bridge) (response : Bytes) : Paced b [] (b.deliver response) := by
  obtain ⟨ns, hp, hd⟩ := deliver_eq b response
  have hc : Paced b [] { b with notices := ns, desk := (b.desk.deliver response).2 } :=
    ⟨rfl, rfl, hp.quiet.trans (.of_notices rfl)⟩
  rw [hd]
  split
  · exact hc
  · exact hc.trans (paced_remark _ _)

theorem desk_deliver (b : Bridge) (response : Bytes) :
    (b.deliver response).desk = (b.desk.deliver response).2 := by
  obtain ⟨ns, -, hd⟩ := deliver_eq b response
  rw [hd]
  split <;> rfl

/-- The operation of a touch on the pacer; one outside the screen has none. -/
def touchOps (b : Bridge) (t : Touch) : List Pacer.Op :=
  if b.engine.model.panel.width ≤ t.x.toNat ∨ b.engine.model.panel.height ≤ t.y.toNat then []
  else [.push (Packet.finger t.x t.y t.pressed)]

/-- The operation of an action on the pacer. -/
def actionOps (b : Bridge) : Action → List Pacer.Op
  | .button mask pressed =>
    match Button.ofMask? mask with
    | some x => [.push (Packet.buttonPush (pressedAfter b.pressed x pressed))]
    | none => []
  | .finger x y pressed => b.touchOps ⟨x, y, pressed⟩
  | .setBool _ _ | .exit => []

/-- The operation of an output on the pacer. -/
def outputOps (b : Bridge) : Output → List Pacer.Op
  | .event p => [.push p]
  | .reply p => [.reply p]
  | .statusReceived => [.status]
  | .action a => b.actionOps a
  | .apdu _ | .text _ | .screen _ | .exit => []

/-- The operations of outputs, up to the first that is refused. -/
def carryOps (b : Bridge) : List Output → List Pacer.Op
  | [] => []
  | o :: os =>
    b.outputOps o ++ match b.carryOut o with
      | .error _ => []
      | .ok b => carryOps b os

theorem queueTouch_ok {b b' : Bridge} {t : Touch} (h : b.queueTouch t = .ok b') :
    Paced b (b.touchOps t) b' ∧ b'.desk = b.desk := by
  unfold queueTouch at h
  dsimp only at h
  split at h
  · cases h
  · rename_i hp
    cases h
    rw [touchOps, if_neg hp]
    exact ⟨⟨rfl, rfl, .of_notices rfl⟩, rfl⟩

theorem queueTouch_error {b : Bridge} {t : Touch} {e : InputError}
    (h : b.queueTouch t = .error e) : b.touchOps t = [] := by
  unfold queueTouch at h
  dsimp only at h
  split at h
  · rename_i hp
    exact if_pos hp
  · cases h

theorem tryTouch_paced (b : Bridge) (refused : InputError → Remark) (t : Touch) :
    Paced b (b.touchOps t) (b.tryTouch refused t) ∧ (b.tryTouch refused t).desk = b.desk := by
  unfold tryTouch
  cases h : b.queueTouch t with
  | ok b' => exact queueTouch_ok h
  | error e =>
    rw [queueTouch_error h]
    exact ⟨paced_remark b _, rfl⟩

theorem perform_paced (b : Bridge) (a : Action) :
    Paced b (b.actionOps a) (b.perform a) ∧ (b.perform a).desk = b.desk := by
  cases a with
  | button mask pressed =>
    simp only [perform, actionOps]
    cases Button.ofMask? mask with
    | some x => exact ⟨⟨rfl, rfl, .of_notices rfl⟩, rfl⟩
    | none => exact ⟨paced_remark b _, rfl⟩
  | finger x y pressed => exact tryTouch_paced b .actionFailed ⟨x, y, pressed⟩
  | setBool | exit => exact ⟨.refl b, rfl⟩

theorem carryOut_reply (b : Bridge) (p : Packet) :
    b.carryOut (.reply p) = (b.pacer.reply p).map fun pacer => { b with pacer } := rfl

theorem carryOut_statusReceived (b : Bridge) :
    b.carryOut .statusReceived = b.pacer.statusReceived.map fun pacer => { b with pacer } := rfl

/-- An output that is carried out is its operations on the pacer. -/
theorem carryOut_ok {b b' : Bridge} {o : Output} (h : b.carryOut o = .ok b') :
    Paced b (b.outputOps o) b' := by
  cases o with
  | event p => cases h; exact ⟨rfl, rfl, .of_notices rfl⟩
  | reply p =>
    rw [carryOut_reply] at h
    cases hr : b.pacer.reply p with
    | error e => rw [hr] at h; cases h
    | ok s =>
      rw [hr] at h
      cases h
      exact ⟨rfl, by simp [outputOps, Pacer.step, Pacer.accept, hr], .of_notices rfl⟩
  | statusReceived =>
    rw [carryOut_statusReceived] at h
    cases hr : b.pacer.statusReceived with
    | error e => rw [hr] at h; cases h
    | ok s =>
      rw [hr] at h
      cases h
      exact ⟨rfl, by simp [outputOps, Pacer.step, Pacer.accept, hr], .of_notices rfl⟩
  | apdu bs => cases h; exact paced_deliver b bs
  | text ev => cases h; exact paced_notify rfl rfl b
  | action a => cases h; exact (perform_paced b a).1
  | screen ps => cases h; exact paced_notify rfl rfl b
  | exit => cases h; exact .refl b

theorem carryOut_error {b : Bridge} {o : Output} {e : PacingError} (h : b.carryOut o = .error e) :
    Paced b (b.outputOps o) b := by
  cases o with
  | reply p =>
    rw [carryOut_reply] at h
    cases hr : b.pacer.reply p with
    | ok s => rw [hr] at h; cases h
    | error e => exact ⟨rfl, by simp [outputOps, Pacer.step, Pacer.accept, hr], .refl b⟩
  | statusReceived =>
    rw [carryOut_statusReceived] at h
    cases hr : b.pacer.statusReceived with
    | ok s => rw [hr] at h; cases h
    | error e => exact ⟨rfl, by simp [outputOps, Pacer.step, Pacer.accept, hr], .refl b⟩
  | event | apdu | text | action | screen | exit => cases h

theorem carryOutAll_paced (b : Bridge) (os : List Output) :
    Paced b (b.carryOps os) (b.carryOutAll os).2 := by
  induction os generalizing b with
  | nil => exact .refl b
  | cons o os ih =>
    unfold carryOps carryOutAll
    cases h : b.carryOut o with
    | error e =>
      rw [List.append_nil]
      exact carryOut_error h
    | ok b' => exact (carryOut_ok h).trans (ih b')

/-! ## What moves do -/

/-- The bridge when its engine has handled a packet and the outputs are still to be carried out. -/
def heed (b : Bridge) (p : Packet) : Bridge :=
  { b with
    engine := (b.engine.update p).engine
    notices := (b.engine.update p).log.foldl (fun ns line => .remark (.printed line) :: ns) b.notices }

theorem dispatch_eq (b : Bridge) (p : Packet) :
    b.dispatch p =
      match (b.engine.update p).result with
      | .error e => (.error (.engine e), b.heed p)
      | .ok outs =>
        match (b.heed p).carryOutAll outs with
        | (some e, b) => (.error (.protocol e), b)
        | (none, b) => (.ok (!outs.contains .exit), b) := by
  obtain ⟨engine, pacer, pressed, desk, timeout, listeners, notices⟩ := b
  rfl

/-- The outputs of a packet; one that the engine refuses has none. -/
def outputs (b : Bridge) (p : Packet) : List Output :=
  match (b.engine.update p).result with
  | .ok outs => outs
  | .error _ => []

theorem dispatch_snd (b : Bridge) (p : Packet) :
    (b.dispatch p).2 = ((b.heed p).carryOutAll (b.outputs p)).2 := by
  rw [dispatch_eq, outputs]
  cases (b.engine.update p).result with
  | error e => rfl
  | ok outs =>
    dsimp only
    generalize (b.heed p).carryOutAll outs = r
    obtain ⟨_ | e, b⟩ := r <;> rfl

theorem quiet_heed (b : Bridge) (p : Packet) : Quiet b (b.heed p) := by
  unfold heed
  generalize (b.engine.update p).engine = e
  generalize (b.engine.update p).log = log
  induction log generalizing b with
  | nil => exact .of_notices rfl
  | cons line log ih =>
    exact (quiet_remark b (.printed line)).trans (ih (b.remark (.printed line)))

/-- Events for the firmware are pushed in their order; nothing refuses them. -/
theorem carryOutAll_events (b : Bridge) (ps : List Packet) :
    b.carryOutAll (ps.map .event) =
      (none, { b with pacer := { b.pacer with queue := b.pacer.queue ++ ps } }) := by
  induction ps generalizing b with
  | nil => simp [carryOutAll]
  | cons p ps ih => simp [carryOutAll, carryOut, ih, Pacer.push]

/-- The bridge when its engine has taken an APDU and the frames are still to be queued. -/
def submit (b : Bridge) (apdu : Bytes) : Bridge :=
  { b with engine := (b.engine.sendApdu apdu).2 }

/-- The frames of an APDU that the engine gives back when it takes the APDU. -/
def frames (b : Bridge) (apdu : Bytes) : List Packet := (b.engine.link.send apdu).2.outbox

theorem sendApdu_fst (e : Engine) (apdu : Bytes) :
    (e.sendApdu apdu).1 = match (e.link.send apdu).1 with
      | .ok _ => .ok ((e.link.send apdu).2.outbox.map .event)
      | .error x => .error (.link x) := by
  unfold Engine.sendApdu
  generalize e.link.send apdu = r
  obtain ⟨_ | _, l⟩ := r <;> rfl

theorem transmit_ok {b : Bridge} {x : Exchange} {rc : Receipt}
    (ht : b.desk.turn = some ⟨x, .installed, rc⟩) {u : Unit}
    (hs : (b.engine.link.send x.apdu).1 = .ok u) :
    b.transmit = { b.submit x.apdu with
      pacer := { b.pacer with queue := b.pacer.queue ++ b.frames x.apdu }
      desk := b.desk.advance (.sent (x.limit.map (b.pacer.ticks.count + ·))) } := by
  have hr := sendApdu_fst b.engine x.apdu
  rw [hs] at hr
  unfold transmit
  rw [ht]
  dsimp only
  rw [hr]
  dsimp only
  rw [carryOutAll_events]
  rfl

theorem transmit_error {b : Bridge} {x : Exchange} {rc : Receipt}
    (ht : b.desk.turn = some ⟨x, .installed, rc⟩) {e : LinkError}
    (hs : (b.engine.link.send x.apdu).1 = .error e) :
    b.transmit = { b.submit x.apdu with
      desk := b.desk.advance (.failing (.engine (.link e))) } := by
  have hr := sendApdu_fst b.engine x.apdu
  rw [hs] at hr
  unfold transmit
  rw [ht]
  dsimp only
  rw [hr]
  rfl

theorem transmit_idle {b : Bridge} (ht : ∀ x rc, b.desk.turn ≠ some ⟨x, .installed, rc⟩) :
    b.transmit = b := by
  unfold transmit
  split
  · rename_i x rc h
    exact absurd h (ht x rc)
  · rfl

theorem transmit_cases (b : Bridge) :
    (∃ x rc u, b.desk.turn = some ⟨x, .installed, rc⟩ ∧ (b.engine.link.send x.apdu).1 = .ok u) ∨
    (∃ x rc e, b.desk.turn = some ⟨x, .installed, rc⟩ ∧
      (b.engine.link.send x.apdu).1 = .error e) ∨
    ∀ x rc, b.desk.turn ≠ some ⟨x, .installed, rc⟩ := by
  by_cases h : ∃ x rc, b.desk.turn = some ⟨x, .installed, rc⟩
  · obtain ⟨x, rc, ht⟩ := h
    cases hs : (b.engine.link.send x.apdu).1 with
    | ok u => exact .inl ⟨x, rc, u, ht, hs⟩
    | error e => exact .inr (.inl ⟨x, rc, e, ht, hs⟩)
  · exact .inr (.inr fun x rc ht => h ⟨x, rc, ht⟩)

/-- The operations of a transmission on the pacer. -/
def transmitOps (b : Bridge) : List Pacer.Op :=
  match b.desk.turn with
  | some ⟨x, .installed, _⟩ =>
    match (b.engine.link.send x.apdu).1 with
    | .ok _ => (b.frames x.apdu).map .push
    | .error _ => []
  | _ => []

theorem transmitOps_idle {b : Bridge} (hi : ∀ x rc, b.desk.turn ≠ some ⟨x, .installed, rc⟩) :
    b.transmitOps = [] := by
  unfold transmitOps
  split
  · rename_i x rc h
    exact absurd h (hi x rc)
  · rfl

/-- The operations of a move on the pacer. -/
def ops (b : Bridge) : Move → List Pacer.Op
  | .button x pressed => [.push (Packet.buttonPush (pressedAfter b.pressed x pressed))]
  | .touch t => b.touchOps t
  | .requestTick => [.requestTick]
  | .forceTick => [.forceTick]
  | .pause => [.pause]
  | .resume => [.resume]
  | .transmit => b.transmitOps
  | .dispatch p => (b.heed p).carryOps (b.outputs p)
  | .send => [.next]
  | .close => [.close]
  | .note _ _ _ | .setRules _ | .listen | .exchange _ _ _ | .startTurn | .leave | .expire | .lapse
  | .clear => []

/-- The packet that a move writes, if it writes one. -/
def writes (b : Bridge) : Move → List Packet
  | .send => match b.pacer.next.1 with
    | .packet p => if p.payload.length > Packet.maxPayload then [] else [p]
    | _ => []
  | _ => []

/-- The exchange that a move ends, if it ends one. -/
def ends (b : Bridge) : Move → List Settled
  | .startTurn => (b.desk.startTurn b.pacer.ticks.closed).1.toList
  | .leave => b.desk.leave.1.toList
  | _ => []

theorem after_pushes (s : Pacer) (ps : List Packet) :
    s.after (ps.map .push) = { s with queue := s.queue ++ ps } := by
  induction ps generalizing s with
  | nil => simp
  | cons p ps ih => simp [Pacer.step, Pacer.push, ih]

theorem conclude_frame (b : Bridge) (r : Option Settled × Desk) :
    (b.conclude r).pacer = b.pacer ∧ (b.conclude r).engine = b.engine ∧
      (b.conclude r).desk = r.2 ∧ (b.conclude r).written = b.written ∧
      (b.conclude r).ended = b.ended ++ r.1.toList := by
  obtain ⟨_ | s, d⟩ := r
  · exact ⟨rfl, rfl, rfl, rfl, (List.append_nil _).symm⟩
  · refine ⟨rfl, rfl, rfl, ?_, ?_⟩
    · exact (written_notify _ _).trans (List.append_nil _)
    · exact ended_notify _ _

theorem send_packet {b : Bridge} {p : Packet} (h : b.pacer.next.1 = .packet p) :
    b.send.2 = if p.payload.length > Packet.maxPayload then { b with pacer := b.pacer.next.2 }
      else { b with pacer := b.pacer.next.2 }.notify (.sent p) := by
  unfold send
  generalize b.pacer.next = r at h
  obtain ⟨r, s⟩ := r
  cases h
  dsimp only
  unfold Packet.encode
  by_cases hp : p.payload.length > Packet.maxPayload
  · rw [if_pos hp, if_pos hp]
  · rw [if_neg hp, if_neg hp]

theorem send_nothing {b : Bridge} (h : ∀ p, b.pacer.next.1 ≠ .packet p) :
    b.send.2 = b ∧ b.pacer.next.2 = b.pacer := by
  constructor
  · unfold send
    split
    · rename_i p s hn
      exact absurd (by rw [hn]) (h p)
    · rfl
  · have hr := Pacer.step_rule b.pacer .next
    simp only [Pacer.step] at hr
    generalize b.pacer.next = r at h hr
    obtain ⟨r, s⟩ := r
    cases hr with
    | head p => exact absurd rfl (h p)
    | tick => exact absurd rfl (h .tick)
    | waiting | ended => rfl

theorem move_touch (b : Bridge) (t : Touch) :
    Paced b (b.touchOps t) (b.move (.touch t)) ∧ (b.move (.touch t)).desk = b.desk := by
  simp only [move]
  cases h : b.queueTouch t with
  | ok b' => exact queueTouch_ok h
  | error e =>
    rw [queueTouch_error h]
    exact ⟨.refl b, rfl⟩

/-- What a send leaves as it was, and the pacer after it. -/
structure Sent (b b' : Bridge) : Prop where
  engine : b'.engine = b.engine
  desk : b'.desk = b.desk
  pacer : b'.pacer = b.pacer.next.2

theorem move_send (b : Bridge) : Sent b (b.move .send) := by
  simp only [move]
  by_cases h : ∃ p, b.pacer.next.1 = .packet p
  · obtain ⟨p, hp⟩ := h
    rw [send_packet hp]
    split
    · exact ⟨rfl, rfl, rfl⟩
    · exact ⟨rfl, rfl, rfl⟩
  · obtain ⟨hs, hn⟩ := send_nothing fun p hp => h ⟨p, hp⟩
    rw [hs]
    exact ⟨rfl, rfl, hn.symm⟩

/-- **On the pacer a move is its operations.** -/
theorem pacer_move (b : Bridge) (m : Move) : (b.move m).pacer = b.pacer.after (b.ops m) := by
  cases m with
  | touch t => exact (move_touch b t).1.pacer
  | startTurn => exact (conclude_frame b _).1
  | leave => exact (conclude_frame b _).1
  | transmit =>
    simp only [move, ops]
    rcases transmit_cases b with ⟨x, rc, u, ht, hs⟩ | ⟨x, rc, e, ht, hs⟩ | hi
    · rw [transmit_ok ht hs, transmitOps, ht]
      simp only [hs, after_pushes]
    · rw [transmit_error ht hs, transmitOps, ht]
      simp only [hs]
      rfl
    · rw [transmit_idle hi, transmitOps_idle hi]
      rfl
  | dispatch p =>
    simp only [move, ops, dispatch_snd]
    exact (carryOutAll_paced _ _).pacer
  | send => exact (move_send b).pacer
  | clear => simp only [move, ops]; split <;> rfl
  | button | note | setRules | listen | requestTick | forceTick | pause | resume | exchange | expire
    | lapse | close => rfl

/-- **Only sending writes, and only turns that begin or end settle an exchange.** -/
theorem seen_move (b : Bridge) (m : Move) :
    (b.move m).written = b.written ++ b.writes m ∧ (b.move m).ended = b.ended ++ b.ends m := by
  have hquiet {b' : Bridge} (h : Quiet b b') :
      b'.written = b.written ++ [] ∧ b'.ended = b.ended ++ [] := by
    rw [List.append_nil, List.append_nil]
    exact ⟨h.written, h.ended⟩
  cases m with
  | touch t => exact hquiet (move_touch b t).1.quiet
  | note n hs he => exact hquiet (quiet_notify hs he b)
  | startTurn =>
    obtain ⟨-, -, -, hw, he⟩ := conclude_frame b (b.desk.startTurn b.pacer.ticks.closed)
    exact ⟨hw.trans (List.append_nil _).symm, he⟩
  | leave =>
    obtain ⟨-, -, -, hw, he⟩ := conclude_frame b b.desk.leave
    exact ⟨hw.trans (List.append_nil _).symm, he⟩
  | transmit =>
    refine hquiet ?_
    simp only [move]
    rcases transmit_cases b with ⟨x, rc, u, ht, hs⟩ | ⟨x, rc, e, ht, hs⟩ | hi
    · rw [transmit_ok ht hs]; exact .of_notices rfl
    · rw [transmit_error ht hs]; exact .of_notices rfl
    · rw [transmit_idle hi]; exact .refl b
  | dispatch p =>
    refine hquiet ?_
    simp only [move, dispatch_snd]
    exact (quiet_heed b p).trans (carryOutAll_paced _ _).quiet
  | send =>
    simp only [move, writes, ends]
    by_cases h : ∃ p, b.pacer.next.1 = .packet p
    · obtain ⟨p, hp⟩ := h
      rw [send_packet hp, hp]
      dsimp only
      split
      · exact hquiet (.of_notices rfl)
      · exact ⟨written_notify _ _, ended_notify _ _⟩
    · rw [(send_nothing fun p hp => h ⟨p, hp⟩).1]
      split
      · rename_i p hp
        exact absurd ⟨p, hp⟩ h
      · exact hquiet (.refl b)
  | clear =>
    refine hquiet ?_
    simp only [move]
    split
    · exact .of_notices rfl
    · exact .refl b
  | button | setRules | listen | requestTick | forceTick | pause | resume | exchange | expire | lapse
    | close => exact hquiet (.of_notices rfl)

/-! ## Runs -/

/-- The operations of a run on the pacer. -/
def runOps (b : Bridge) : List Move → List Pacer.Op
  | [] => []
  | m :: ms => b.ops m ++ runOps (b.move m) ms

/-- A run of a bridge is a run of its pacer. -/
theorem pacer_run (b : Bridge) (ms : List Move) : (b.run ms).pacer = b.pacer.after (b.runOps ms) := by
  induction ms generalizing b with
  | nil => rfl
  | cons m ms ih => rw [run_cons, ih, pacer_move, runOps, Pacer.after_append]

/-- A bridge at its start: nothing waits and nothing has been seen. -/
structure IsNew (b : Bridge) : Prop where
  pacer : b.pacer = {}
  desk : b.desk = {}
  link : ∃ k, b.engine.link = Link.new k
  notices : b.notices = []

/-- Options say what the device is and which rules it has; all else is as in any new bridge. -/
theorem eq_of_ofOptions {files : String → Option String} {o : Options} {b : Bridge}
    (h : ofOptions files o = .ok b) : ∃ rules, b = {
      engine := (Engine.new o.model o.link o.graphics).setRules rules, timeout := o.apduTimeout } := by
  unfold ofOptions at h
  dsimp only at h
  split at h
  · cases h
    exact ⟨none, rfl⟩
  · split at h
    · cases h
    · rename_i a _
      cases h
      exact ⟨some a, rfl⟩

theorem isNew_of_ofOptions {files : String → Option String} {o : Options} {b : Bridge}
    (h : ofOptions files o = .ok b) : b.IsNew := by
  obtain ⟨rules, rfl⟩ := eq_of_ofOptions h
  exact ⟨rfl, rfl, ⟨o.link, rfl⟩, rfl⟩

end Bridge
end Seph
