import Seph.Proofs.Exchange.Settlement
import Seph.Proofs.Session.Moves
import Seph.Proofs.Bridge.Responses

/-!
# The end of a bridge

A bridge ends in two steps: first it closes, then the ticket that is installed is removed. Between the
steps, and before and after them, exchanges, responses and ticks go on in any order.

1. `entries_run`: the exchanges that end and those that are held are those that were asked for.
2. `hears_dispatch`: everyone who listens hears every response once.
3. `IsOver.move`: when the end is complete, no ticket is installed again.
4. `IsOver.serve`: then every exchange that is held comes to its end.
-/

namespace Seph

/-- The response that a listener heard, if it is one. -/
def Notice.heard? : Notice → Option (Nat × Bytes)
  | .heard i bs => some (i, bs)
  | _ => none

namespace Bridge

/-! ## Exchanges asked for -/

/-- The exchange with a given ticket that a move asks for. -/
def Move.entry? (ticket : Nat) : Move → Option Exchange
  | .exchange caller apdu limit => some ⟨ticket, caller, apdu, limit⟩
  | _ => none

/-- The exchanges that a run asks for, in order, with tickets from `n` on. -/
def requested (n : Nat) : List Move → List Exchange
  | [] => []
  | m :: ms => (m.entry? n).toList ++ requested (n + (m.entry? n).toList.length) ms

theorem entries_calls (b : Bridge) (m : Move) :
    b.desk.entries (b.calls m) = (m.entry? b.desk.issued).toList := by
  cases m with
  | exchange caller apdu limit => rfl
  | transmit =>
    simp only [calls, askCalls]
    split <;> rfl
  | dispatch p =>
    refine Desk.entries_eq_nil (fun o ho d => ?_) _
    obtain ⟨r, -, rfl⟩ := List.mem_map.1 ho
    rfl
  | clear =>
    simp only [calls]
    split <;> rfl
  | button | touch | note | setRules | listen | requestTick | forceTick | pause | resume | startTurn
    | leave | expire | lapse | send | close => rfl

theorem requested_append (n : Nat) (ms ns : List Move) :
    requested n (ms ++ ns) = requested n ms ++ requested (n + (requested n ms).length) ns := by
  induction ms generalizing n with
  | nil => rfl
  | cons m ms ih =>
    rw [List.cons_append, requested, ih, requested, List.append_assoc, List.length_append,
      Nat.add_assoc]

theorem requested_tickets (n : Nat) (ms : List Move) :
    (requested n ms).map Exchange.ticket = List.range' n (requested n ms).length := by
  induction ms generalizing n with
  | nil => rfl
  | cons m ms ih =>
    have hm : (m.entry? n).toList.map Exchange.ticket =
        List.range' n (m.entry? n).toList.length := by cases m <;> rfl
    rw [requested, List.map_append, ih, hm, List.length_append, List.range'_append_1]

/-- The exchanges that a run asks for are those that come to the desk. -/
theorem entries_run {b : Bridge} (h : b.desk.Sound) (ms : List Move) :
    b.desk.entries (b.runCalls ms) = requested b.desk.issued ms := by
  induction ms generalizing b with
  | nil => rfl
  | cons m ms ih =>
    have hm := desk_move b m
    have hi := (Desk.held_after h (b.calls m)).2
    rw [← hm, entries_calls] at hi
    rw [runCalls, Desk.entries_append, ← hm, entries_calls, ih (hm ▸ h.after _), hi, requested]

/-! ## Those who listen -/

/-- What those who listen have heard, in order. -/
def heard (b : Bridge) : List (Nat × Bytes) := b.notices.reverse.filterMap Notice.heard?

/-- Everyone who listens hears these responses, one after the other, and nobody comes or goes. -/
structure Hears (b : Bridge) (responses : List Bytes) (b' : Bridge) : Prop where
  listeners : b'.listeners = b.listeners
  heard : b'.heard = b.heard ++ responses.flatMap fun r => (List.range b.listeners).map (·, r)

namespace Hears

variable {a b c : Bridge} {rs ss : List Bytes}

theorem of_notices (hl : b.listeners = a.listeners) (hn : b.notices = a.notices) : Hears a [] b where
  listeners := hl
  heard := by rw [Bridge.heard, hn]; exact (List.append_nil _).symm

theorem trans (h : Hears a rs b) (g : Hears b ss c) : Hears a (rs ++ ss) c where
  listeners := g.listeners.trans h.listeners
  heard := by rw [g.heard, h.heard, h.listeners, List.flatMap_append, List.append_assoc]

end Hears

theorem hears_notify {n : Notice} (h : n.heard? = none) (b : Bridge) : Hears b [] (b.notify n) where
  listeners := rfl
  heard := by
    unfold heard notify
    rw [List.reverse_cons, List.filterMap_append, List.filterMap_cons, h]
    rfl

theorem hears_deliver (b : Bridge) (response : Bytes) : Hears b [response] (b.deliver response) := by
  have hd (d : Desk) (ns : List Notice)
      (hn : ns = ((List.range b.listeners).map (Notice.heard · response)).reverse ++ b.notices) :
      Hears b [response] { b with notices := ns, desk := d } := by
    refine ⟨rfl, ?_⟩
    unfold heard
    rw [hn, List.reverse_append, List.reverse_reverse, List.filterMap_append, List.filterMap_map,
      List.flatMap_singleton, ← List.filterMap_eq_map]
    rfl
  unfold deliver
  rw [foldl_heard]
  dsimp only
  split
  · exact hd _ _ rfl
  · exact (hd _ _ rfl).trans (hears_notify rfl _)

theorem hears_perform (b : Bridge) (a : Action) : Hears b [] (b.perform a) := by
  cases a with
  | button mask pressed =>
    simp only [perform]
    split
    · exact .of_notices rfl rfl
    · exact hears_notify rfl b
  | finger x y pressed =>
    simp only [perform, tryTouch]
    split
    · rename_i b' h
      unfold queueTouch at h
      dsimp only at h
      split at h
      · cases h
      · cases h
        exact .of_notices rfl rfl
    · exact hears_notify rfl b
  | setBool | exit => exact .of_notices rfl rfl

theorem hears_carryOut {b b' : Bridge} {o : Output} (h : b.carryOut o = .ok b') :
    Hears b o.response?.toList b' := by
  cases o with
  | reply p =>
    rw [carryOut_reply] at h
    cases hr : b.pacer.reply p with
    | error e => rw [hr] at h; cases h
    | ok s => rw [hr] at h; cases h; exact .of_notices rfl rfl
  | statusReceived =>
    rw [carryOut_statusReceived] at h
    cases hr : b.pacer.statusReceived with
    | error e => rw [hr] at h; cases h
    | ok s => rw [hr] at h; cases h; exact .of_notices rfl rfl
  | apdu bs => cases h; exact hears_deliver b bs
  | action a => cases h; exact hears_perform b a
  | text | screen => cases h; exact hears_notify rfl b
  | event | exit => cases h; exact .of_notices rfl rfl

theorem hears_carryOutAll (b : Bridge) (os : List Output) :
    Hears b ((b.carried os).filterMap Output.response?) (b.carryOutAll os).2 := by
  induction os generalizing b with
  | nil => exact .of_notices rfl rfl
  | cons o os ih =>
    simp only [carryOutAll, carried]
    cases h : b.carryOut o with
    | error e => exact .of_notices rfl rfl
    | ok b' =>
      have ht := (hears_carryOut h).trans (ih b')
      dsimp only
      rw [List.filterMap_cons]
      cases hr : o.response? with
      | none => rwa [hr] at ht
      | some r => rwa [hr] at ht

theorem hears_heed (b : Bridge) (p : Packet) : Hears b [] (b.heed p) := by
  have hl (log : List String) (b : Bridge) : Hears b []
      { b with notices := log.foldl (fun ns line => .remark (.printed line) :: ns) b.notices } := by
    induction log generalizing b with
    | nil => exact .of_notices rfl rfl
    | cons line log ih =>
      exact (hears_notify (n := .remark (.printed line)) rfl b).trans (ih (b.remark (.printed line)))
  have hh := hl (b.engine.update p).log b
  exact ⟨rfl, hh.heard⟩

theorem responses_eq (b : Bridge) (p : Packet) :
    b.responses p = (b.outputs p).filterMap Output.response? := by
  by_cases hn : (b.outputs p).filterMap Output.response? = []
  · rw [hn, responses, List.filterMap_eq_nil_iff]
    exact fun o ho => List.filterMap_eq_nil_iff.1 hn o ((carried_prefix_outputs _ _).subset ho)
  · have ho : ∀ o ∈ b.outputs p, o.opensSlot = false := by
      unfold outputs at hn ⊢
      split
      · rename_i outs h
        rw [h] at hn
        exact Engine.opensSlot_of_response h hn
      · exact nofun
    rw [responses, carried_of_not_opensSlot ho]

theorem answers_dispatch (b : Bridge) (ms : List Move) (p : Packet) :
    b.answers (ms ++ [.dispatch p]) =
      b.answers ms ++ ((b.run ms).outputs p).filterMap Output.response? := by
  induction ms generalizing b with
  | nil =>
    have hf (rs : List Bytes) : Desk.answers (rs.map .answered) = rs := by
      rw [Desk.answers, List.filterMap_map]
      exact List.filterMap_some
    rw [List.nil_append, answers, exchanges_cons, calls, Desk.trace_delivers, Desk.answers_append, hf,
      run_nil, ← responses_eq]
    exact List.append_nil _
  | cons m ms ih =>
    unfold answers at ih ⊢
    rw [List.cons_append, exchanges_cons, exchanges_cons, Desk.answers_append, Desk.answers_append, ih,
      List.append_assoc, run_cons]

/-- **Everyone who listens hears every response of a packet once.** -/
theorem hears_dispatch (b : Bridge) (p : Packet) :
    Hears b ((b.outputs p).filterMap Output.response?) (b.move (.dispatch p)) := by
  simp only [move, dispatch_snd]
  rw [← responses_eq]
  exact (hears_heed b p).trans (hears_carryOutAll _ _)

/-! ## The end -/

/-- The end is complete: the bridge is closed, and no ticket is installed. -/
structure IsOver (b : Bridge) : Prop where
  closed : b.pacer.ticks.closed = true
  ticket : b.desk.ticket = none
  sound : b.desk.Sound

theorem closed_move_of_closed {b : Bridge} (h : b.pacer.ticks.closed = true) (m : Move) :
    (b.move m).pacer.ticks.closed = true := by
  cases hm : (b.move m).pacer.ticks.closed with
  | true => rfl
  | false =>
    rw [closed_move hm] at h
    cases h

theorem over_calls {b : Bridge} (h : b.pacer.ticks.closed = true) (m : Move) :
    ∀ o ∈ b.calls m, o.Over := by
  intro o ho
  cases m with
  | startTurn =>
    obtain rfl := List.mem_singleton.1 ho
    exact h
  | exchange | leave | expire | lapse =>
    obtain rfl := List.mem_singleton.1 ho
    trivial
  | transmit =>
    simp only [calls, askCalls] at ho
    split at ho
    · obtain rfl := List.mem_singleton.1 ho
      trivial
    · cases ho
  | dispatch p =>
    obtain ⟨r, -, rfl⟩ := List.mem_map.1 ho
    trivial
  | clear =>
    simp only [calls, if_pos h] at ho
    obtain rfl := List.mem_singleton.1 ho
    trivial
  | button | touch | note | setRules | listen | requestTick | forceTick | pause | resume | send
    | close => cases ho

theorem over_runCalls {b : Bridge} (h : b.pacer.ticks.closed = true) (ms : List Move) :
    ∀ o ∈ b.runCalls ms, o.Over := by
  induction ms generalizing b with
  | nil => exact nofun
  | cons m ms ih =>
    intro o ho
    exact (List.mem_append.1 ho).elim (over_calls h m o) (ih (closed_move_of_closed h m) o)

/-- **When the end is complete it stays so.** -/
theorem IsOver.move {b : Bridge} (h : b.IsOver) (m : Move) : (b.move m).IsOver where
  closed := closed_move_of_closed h.closed m
  ticket := by
    rw [desk_move]
    exact (Desk.dropped_after h.sound h.ticket (over_calls h.closed m)).ticket
  sound := by
    rw [desk_move]
    exact h.sound.after _

theorem IsOver.run {b : Bridge} (h : b.IsOver) (ms : List Move) : (b.run ms).IsOver := by
  induction ms generalizing b with
  | nil => exact h
  | cons m ms ih => exact ih (h.move m)

theorem isOver_clear {b : Bridge} (hc : b.pacer.ticks.closed = true) (hs : b.desk.Sound) :
    (b.move .clear).IsOver := by
  refine ⟨closed_move_of_closed hc .clear, ?_, ?_⟩
  · simp only [Bridge.move, if_pos hc, Bridge.clear, Desk.clear, Desk.redeem]
    split
    · rename_i h
      exact h
    · rfl
  · rw [desk_move]
    exact hs.after _

/-- A transmission leaves no exchange that has yet to send its request. -/
theorem desk_transmit (b : Bridge) :
    b.transmit.desk.waiting = b.desk.waiting ∧
      ∀ x rc, b.transmit.desk.turn ≠ some ⟨x, .installed, rc⟩ := by
  rcases transmit_cases b with ⟨x, rc, u, ht, hs⟩ | ⟨x, rc, e, ht, hs⟩ | hi
  · rw [transmit_ok ht hs, Desk.advance_of_turn ht]
    exact ⟨rfl, nofun⟩
  · rw [transmit_error ht hs, Desk.advance_of_turn ht]
    exact ⟨rfl, nofun⟩
  · rw [transmit_idle hi]
    exact ⟨rfl, hi⟩

theorem desk_leave (b : Bridge) : b.leave.desk = b.desk.leave.2 := (conclude_frame b _).2.2.1

/-- When the end is complete, the exchange whose turn it is comes to its end in one round. -/
theorem IsOver.round {b : Bridge} (h : b.IsOver) :
    b.transmit.leave.expire.leave.desk.turn = none ∧
      b.transmit.leave.expire.leave.desk.waiting = b.desk.waiting := by
  obtain ⟨hw, hi⟩ := desk_transmit b
  have ht : b.transmit.IsOver := h.move .transmit
  have hd : b.transmit.leave.expire.leave.desk =
      (b.transmit.desk.leave.2.expire b.transmit.leave.pacer.waitCount).leave.2 := by
    rw [desk_leave, expire, desk_leave]
  rw [hd, ← hw]
  refine Desk.turn_leave_expire_leave (fun x p rc hx => ⟨?_, ?_⟩) _
  · rintro rfl
    exact hi x rc hx
  · rintro rfl
    have hs := ht.sound
    rw [Desk.Sound, ht.ticket, hx] at hs
    cases hs

/-- **When the end is complete, every exchange that is held comes to its end.** -/
theorem IsOver.serve {b : Bridge} (h : b.IsOver) {n : Nat} (hn : b.desk.waiting.length ≤ n) :
    (b.serve n).desk.held = [] := by
  induction n generalizing b with
  | zero =>
    obtain ⟨ht, hw⟩ := h.round
    show Desk.held _ = []
    rw [Bridge.serve, Desk.held, ht, hw, List.length_eq_zero_iff.1 (Nat.le_zero.1 hn)]
    rfl
  | succ n ih =>
    obtain ⟨ht, hw⟩ := h.round
    have hr : b.transmit.leave.expire.leave.IsOver :=
      h.run [.transmit, .leave, .expire, .leave]
    rw [Bridge.serve, ht, Option.isSome_none, if_neg Bool.false_ne_true]
    refine ih (hr.move .startTurn) ?_
    have hd : b.transmit.leave.expire.leave.startTurn.desk =
        (b.transmit.leave.expire.leave.desk.startTurn
          b.transmit.leave.expire.leave.pacer.ticks.closed).2 := (conclude_frame _ _).2.2.1
    rw [hd, hr.closed, Desk.waiting_startTurn ht, hw, List.length_tail]
    omega

/-- When exchanges go as far as they can, none is asked for. -/
theorem serve_run (n : Nat) (b : Bridge) : ∃ ns, b.serve n = b.run ns ∧ ∀ k, requested k ns = [] := by
  induction n generalizing b with
  | zero => exact ⟨[.transmit, .leave, .expire, .leave], rfl, fun _ => rfl⟩
  | succ n ih =>
    simp only [serve]
    split
    · exact ⟨[.transmit, .leave, .expire, .leave], rfl, fun _ => rfl⟩
    · obtain ⟨ns, hr, hq⟩ := ih b.transmit.leave.expire.leave.startTurn
      exact ⟨.transmit :: .leave :: .expire :: .leave :: .startTurn :: ns, hr, hq⟩

/-- Of the exchanges that end after the end is complete, only the one whose turn it was ends otherwise
than by the end. -/
theorem ended_since {b : Bridge} (hc : b.pacer.ticks.closed = true) (hs : b.desk.Sound)
    {ms : List Move} {s : Settled} (h : s ∈ ((b.move .clear).run ms).ended) :
    s ∈ b.ended ∨ b.desk.turn.map Turn.exchange = some s.exchange ∨ s.result = .error .closed := by
  have isOver := isOver_clear hc hs
  have ended : (b.move .clear).ended = b.ended :=
    (seen_move b .clear).2.trans (List.append_nil _)
  have turn : (b.move .clear).desk.turn.map Turn.exchange = b.desk.turn.map Turn.exchange := by
    simp only [Bridge.move, if_pos hc]
    exact Desk.exchange_clear b.desk
  rw [ended_run, ended] at h
  rcases List.mem_append.1 h with h | h
  · exact .inl h
  · have hd := Desk.dropped_after isOver.sound isOver.ticket (over_runCalls isOver.closed ms)
    rw [← turn]
    exact .inr ((hd.settled s h).symm)

/-! ## All exchanges -/

theorem sound_run {b : Bridge} (hb : b.IsNew) (ms : List Move) : (b.run ms).desk.Sound := by
  rw [desk_run, hb.desk]
  exact Desk.sound_start.after _

/-- The exchanges that ended and those that are held are those that were asked for. -/
theorem ended_append_held {b : Bridge} (hb : b.IsNew) (ms : List Move) :
    (b.run ms).ended.map Settled.exchange ++ (b.run ms).desk.held = requested 0 ms := by
  have hs : b.desk.Sound := sound_run hb []
  rw [ended_new hb, desk_run, exchanges, (Desk.held_after hs _).1, entries_run hs, hb.desk]
  rfl

theorem ticket_lt {b : Bridge} (hb : b.IsNew) {ms : List Move} {x : Exchange}
    (h : x ∈ (b.run ms).ended.map Settled.exchange ++ (b.run ms).desk.held) :
    x.ticket < (requested 0 ms).length := by
  rw [ended_append_held hb] at h
  have hm := List.mem_map_of_mem (f := Exchange.ticket) h
  rw [requested_tickets, List.mem_range'_1] at hm
  omega

/-- After the end is complete, all exchanges come to their end, those asked for since then by the
end. -/
theorem serveAll_after_end {b : Bridge} (hb : b.IsNew) {pre post : List Move}
    (hc : (b.run pre).pacer.ticks.closed = true) :
    let last := (b.run (pre ++ .clear :: post)).serveAll
    last.ended.map Settled.exchange = requested 0 (pre ++ .clear :: post) ∧
      (∀ s ∈ last.ended, s ∈ (b.run pre).ended ∨
        (b.run pre).desk.turn.map Turn.exchange = some s.exchange ∨ s.result = .error .closed) ∧
      ∀ x ∈ requested (requested 0 pre).length post, ⟨x, .error .closed⟩ ∈ last.ended := by
  intro last
  have isOver : (b.run (pre ++ .clear :: post)).IsOver := by
    rw [run_append, run_cons]
    exact (isOver_clear hc (sound_run hb pre)).run post
  obtain ⟨ns, hl, hn⟩ := serve_run _ (b.run (pre ++ .clear :: post))
  have hlast : last = b.run (pre ++ .clear :: (post ++ ns)) := by
    rw [← List.cons_append, ← List.append_assoc, run_append]
    exact hl
  have held : last.desk.held = [] := isOver.serve (Nat.le_succ _)
  have all : last.ended.map Settled.exchange = requested 0 (pre ++ .clear :: post) := by
    have h := ended_append_held hb (pre ++ .clear :: (post ++ ns))
    rwa [← hlast, held, List.append_nil, ← List.cons_append, ← List.append_assoc, requested_append,
      hn, List.append_nil] at h
  have since : ∀ s ∈ last.ended, s ∈ (b.run pre).ended ∨
      (b.run pre).desk.turn.map Turn.exchange = some s.exchange ∨ s.result = .error .closed := by
    intro s hs
    rw [hlast, run_append, run_cons] at hs
    exact ended_since hc (sound_run hb pre) hs
  refine ⟨all, since, fun x hx => ?_⟩
  have later : (requested 0 pre).length ≤ x.ticket := by
    have hm := List.mem_map_of_mem (f := Exchange.ticket) hx
    rw [requested_tickets, List.mem_range'_1] at hm
    exact hm.1
  have hm : x ∈ last.ended.map Settled.exchange := by
    rw [all, requested_append]
    exact List.mem_append_right _ (by rwa [Nat.zero_add])
  obtain ⟨s, hs, rfl⟩ := List.mem_map.1 hm
  have none_before (h : s.exchange ∈ (b.run pre).ended.map Settled.exchange ++
      (b.run pre).desk.held) : False := Nat.not_lt.2 later (ticket_lt hb h)
  rcases since s hs with h | h | h
  · exact (none_before (List.mem_append_left _ (List.mem_map_of_mem h))).elim
  · obtain ⟨t, ht, hx⟩ := Option.map_eq_some_iff.1 h
    refine (none_before (List.mem_append_right _ ?_)).elim
    rw [Desk.held, ht, ← hx]
    exact List.mem_cons_self
  · obtain ⟨y, r⟩ := s
    cases h
    exact hs

/-- The responses that exchanges ended with are among those that came, each once and in order. -/
theorem responses_of_ended {b : Bridge} (hb : b.IsNew) (ms : List Move) :
    ((b.run ms).ended.filterMap Settled.response?).Sublist (b.answers ms) := by
  have hx : b.exchanges ms = Desk.trace {} (b.runCalls ms) := by rw [exchanges, hb.desk]
  rw [ended_new hb, answers, hx]
  exact Desk.responses_sublist _

/-- **Every exchange comes to one end.** In a run of a bridge from its start, whatever happens in
whatever order:

1. The exchanges that ended, and behind them those that are held, are those that were asked for, each
   once and in order.
2. The responses that they ended with are among those that came, each once and in order; those of one
   more packet are new, and everyone who listens hears each of them once.
3. An exchange that leaves removes no ticket but its own.
4. When the bridge was closed and then cleared, no ticket is installed. As soon as exchanges go as far
   as they can, all have ended: by the end of the session, unless they had ended before or were in
   their turn. So do all that were asked for since then. -/
theorem every_exchange_ends_once {files : String → Option String} {o : Options} {b : Bridge}
    (options : ofOptions files o = .ok b) (ms : List Move) :
    (((b.run ms).ended.map Settled.exchange ++ (b.run ms).desk.held = requested 0 ms ∧
        ((requested 0 ms).map Exchange.ticket).Nodup) ∧
      ((b.run ms).ended.filterMap Settled.response?).Sublist (b.answers ms) ∧
      ∀ p, let responses := ((b.run ms).outputs p).filterMap Output.response?
        b.answers (ms ++ [.dispatch p]) = b.answers ms ++ responses ∧
          Hears (b.run ms) responses ((b.run ms).move (.dispatch p))) ∧
    (∀ s k, (b.run ms).desk.leave.1 = some s → (b.run ms).desk.ticket = some k →
      k = s.exchange.ticket) ∧
    ∀ pre post, ms = pre ++ .clear :: post → (b.run pre).pacer.ticks.closed = true →
      (b.run ms).desk.ticket = none ∧
      let last := (b.run ms).serveAll
      last.ended.map Settled.exchange = requested 0 ms ∧
        (∀ s ∈ last.ended, s ∈ (b.run pre).ended ∨
          (b.run pre).desk.turn.map Turn.exchange = some s.exchange ∨ s.result = .error .closed) ∧
        ∀ x ∈ requested (requested 0 pre).length post, ⟨x, .error .closed⟩ ∈ last.ended := by
  have hb := isNew_of_ofOptions options
  refine ⟨⟨⟨ended_append_held hb ms, ?_⟩, responses_of_ended hb ms, fun p =>
    ⟨answers_dispatch b ms p, hears_dispatch _ p⟩⟩,
    fun s k hs hk => (sound_run hb ms).ticket_leave hs hk, ?_⟩
  · rw [requested_tickets]
    exact List.nodup_range'
  · rintro pre post rfl hc
    refine ⟨?_, serveAll_after_end hb hc⟩
    rw [run_append, run_cons]
    exact ((isOver_clear hc (sound_run hb pre)).run post).ticket

/-- The end comes upon an exchange in its turn and another that waits, and a third is asked for
later. -/
theorem exchanges_end_by_close :
    let b : Bridge := { engine := Engine.new .nanoSP .nfc none }
    let first : Exchange := ⟨0, .call "a", [0x80, 0x01], none⟩
    let second : Exchange := ⟨1, .client "b", [0x80, 0x02], some 1⟩
    let third : Exchange := ⟨2, .call "c", [0x80, 0x03], none⟩
    let pre : List Move := [.exchange first.caller first.apdu first.limit,
      .exchange second.caller second.apdu second.limit, .startTurn, .transmit, .close]
    let post : List Move := [.exchange third.caller third.apdu third.limit]
    let last := (b.run (pre ++ .clear :: post)).serveAll
    ofOptions (fun _ => none) { link := .nfc } = .ok b ∧ (b.run pre).pacer.ticks.closed = true ∧
      (b.run (pre ++ .clear :: post)).desk.ticket = none ∧ ⟨third, .error .closed⟩ ∈ last.ended ∧
      last.ended =
        [⟨first, .error .closed⟩, ⟨second, .error .closed⟩, ⟨third, .error .closed⟩] := by
  intro b first second third pre post last
  have ho : ofOptions (fun _ => none) { link := .nfc } = .ok b := rfl
  have hc : (b.run pre).pacer.ticks.closed = true := rfl
  obtain ⟨-, -, closed⟩ := every_exchange_ends_once ho (pre ++ .clear :: post)
  obtain ⟨hk, -, -, later⟩ := closed pre post rfl hc
  have third_later : third ∈ requested (requested 0 pre).length post := List.mem_singleton.2 rfl
  exact ⟨ho, hc, hk, later third third_later, by decide +kernel⟩

end Bridge
end Seph
