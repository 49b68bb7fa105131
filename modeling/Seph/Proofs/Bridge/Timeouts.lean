import Mathlib.Data.List.Induction
import Seph.Proofs.Bridge.Shutdown
import Seph.Proofs.Pacer.Waits

/-!
# Time limits in ticks

An exchange may take a number of ticks. When its request goes out it sets itself a deadline, the tick
count at that moment and its limit on top, and it fails when it finds the deadline reached.

1. `turn_move`: what one move does to the exchange whose turn it is.
2. `Timely`, `timely_run`: in every run a deadline was set when the request went out, and is reached
   before the exchange fails.
3. `waits_end_after_ticks`: calls and exchanges that wait for ticks end only after the ticks.
-/

namespace Seph

namespace Desk

/-- The operation moves the exchange whose turn it is on. -/
def Op.advances : Op → Bool
  | .ask _ | .expire _ | .lapse _ => true
  | .enter _ _ _ | .start _ | .deliver _ | .clear | .leave => false

section Rules

variable {d d' : Desk} {o : Op} {e : Option Event} {x : Exchange} {p : Progress} {rc : Receipt}

theorem Rule.of_progress (h : Rule d o e d') (ho : o.advances = false) (hp : p ≠ .installed)
    (ht : d'.turn = some ⟨x, p, rc⟩) : ∃ rc, d.turn = some ⟨x, p, rc⟩ := by
  cases h with
  | idle | enter | miss | refuse => exact ⟨rc, ht⟩
  | begin =>
    cases ht
    exact absurd rfl hp
  | take turn | drop turn =>
    cases ht
    exact ⟨_, turn⟩
  | serve | giveUp => cases ht
  | ask | fail | dropped => cases ho
  | timeout _ _ op | vain _ _ op => rcases op with rfl | rfl <;> cases ho

theorem of_progress_after (hd : d.Sound) (hp : p ≠ .installed) {os : List Op}
    (ho : ∀ o ∈ os, o.advances = false) (ht : (d.after os).turn = some ⟨x, p, rc⟩) :
    ∃ rc, d.turn = some ⟨x, p, rc⟩ := by
  induction os generalizing d with
  | nil => exact ⟨rc, ht⟩
  | cons o os ih =>
    have hr := step_rule hd o
    obtain ⟨rc', h⟩ := ih (hr.sound hd) (fun o hm => ho o (List.mem_cons_of_mem _ hm)) ht
    exact hr.of_progress (ho o List.mem_cons_self) hp h

/-- An exchange that looks at the tick count goes on as it was, or fails: with time up when its deadline
is reached. -/
theorem Rule.of_wait {wait : Nat → Pacer.Wait} (h : Rule d o e d') (ho : o = .expire wait ∨ o = .lapse wait)
    (ht : d'.turn = some ⟨x, p, rc⟩) :
    (∃ rc, d.turn = some ⟨x, p, rc⟩) ∨ p = .failing .closed ∨
      p = .failing .timeout ∧ ∃ deadline rc, d.turn = some ⟨x, .sent (some deadline), rc⟩ ∧
        wait deadline = .over := by
  cases h with
  | idle => exact .inl ⟨rc, ht⟩
  | timeout turn done op =>
    cases ht
    refine .inr (.inr ⟨rfl, _, _, turn, ?_⟩)
    rcases ho with rfl | rfl <;> rcases op with op | op <;> cases op <;> exact done
  | vain | dropped =>
    cases ht
    exact .inr (.inl rfl)
  | enter | begin | refuse | ask | fail | take | miss | drop | serve | giveUp =>
    rcases ho with ho | ho <;> cases ho

end Rules
end Desk

namespace Bridge

open Pacer (acknowledged)

theorem ticks_transmit (b : Bridge) : b.transmit.pacer.ticks = b.pacer.ticks := by
  rcases transmit_cases b with ⟨x, rc, u, ht, hs⟩ | ⟨x, rc, e, ht, hs⟩ | hi
  · rw [transmit_ok ht hs]
  · rw [transmit_error ht hs]
    rfl
  · rw [transmit_idle hi]

/-! ## One move -/

theorem advances_of_mem_calls {b : Bridge} {m : Move} (hm : m ≠ .transmit ∧ m ≠ .expire ∧ m ≠ .lapse) :
    ∀ o ∈ b.calls m, o.advances = false := by
  intro o ho
  cases m with
  | transmit | expire | lapse => simp at hm
  | exchange | startTurn | leave =>
    obtain rfl := List.mem_singleton.1 ho
    rfl
  | dispatch p =>
    obtain ⟨r, -, rfl⟩ := List.mem_map.1 ho
    rfl
  | clear =>
    simp only [calls] at ho
    split at ho
    · obtain rfl := List.mem_singleton.1 ho
      rfl
    · cases ho
  | button | touch | note | setRules | listen | requestTick | forceTick | pause | resume | send | close =>
    cases ho

/-- **What a move does to an exchange in its turn.** It has got as far as before; or its request goes
out or fails to; or it fails, with time up only when its deadline is reached. -/
theorem turn_move {b : Bridge} (hs : b.desk.Sound) {m : Move} {x : Exchange} {p : Progress} {rc : Receipt}
    (hp : p ≠ .installed) (ht : (b.move m).desk.turn = some ⟨x, p, rc⟩) :
    (∃ rc, b.desk.turn = some ⟨x, p, rc⟩) ∨
    (m = .transmit ∧ b.desk.turn = some ⟨x, .installed, rc⟩ ∧
      (p = .sent (x.limit.map (b.pacer.ticks.count + ·)) ∨ ∃ e, p = .failing (.engine (.link e)))) ∨
    p = .failing .closed ∨
    p = .failing .timeout ∧ ∃ deadline rc, b.desk.turn = some ⟨x, .sent (some deadline), rc⟩ ∧
      deadline ≤ b.pacer.ticks.count := by
  have waits {o : Desk.Op} (ho : o = .expire b.pacer.waitCount ∨ o = .lapse b.pacer.waitCount)
      (hr : b.desk.Rule o none (b.move m).desk) :
      (∃ rc, b.desk.turn = some ⟨x, p, rc⟩) ∨ p = .failing .closed ∨
        p = .failing .timeout ∧ ∃ deadline rc, b.desk.turn = some ⟨x, .sent (some deadline), rc⟩ ∧
          deadline ≤ b.pacer.ticks.count := by
    rcases hr.of_wait ho ht with h | h | ⟨h, n, rc, hn, ho⟩
    · exact .inl h
    · exact .inr (.inl h)
    · exact .inr (.inr ⟨h, n, rc, hn, Pacer.le_of_waitCount ho⟩)
  by_cases hm : m ≠ .transmit ∧ m ≠ .expire ∧ m ≠ .lapse
  · rw [desk_move] at ht
    exact .inl (Desk.of_progress_after hs hp (advances_of_mem_calls hm) ht)
  · rw [not_and_or, not_and_or, not_not, not_not, not_not] at hm
    rcases hm with rfl | rfl | rfl
    · simp only [move] at ht
      rcases transmit_cases b with ⟨y, rc', u, hy, hu⟩ | ⟨y, rc', e, hy, hu⟩ | hi
      · rw [transmit_ok hy hu, Desk.advance_of_turn hy] at ht
        cases ht
        exact .inr (.inl ⟨rfl, hy, .inl rfl⟩)
      · rw [transmit_error hy hu, Desk.advance_of_turn hy] at ht
        cases ht
        exact .inr (.inl ⟨rfl, hy, .inr ⟨e, rfl⟩⟩)
      · rw [transmit_idle hi] at ht
        exact .inl ⟨rc, ht⟩
    · exact (waits (.inl rfl) (Desk.expire_rule b.desk b.pacer.waitCount)).imp_right .inr
    · exact (waits (.inr rfl) (Desk.lapse_rule b.desk b.pacer.waitCount)).imp_right .inr

/-! ## Runs -/

def acknowledgedIn (b : Bridge) (ms : List Move) : Nat := acknowledged b.pacer (b.runOps ms)

theorem count_run (b : Bridge) (ms : List Move) :
    (b.run ms).pacer.ticks.count = b.pacer.ticks.count + b.acknowledgedIn ms := by
  rw [pacer_run, Pacer.count_after, acknowledgedIn]

/-- In a run the request of an exchange went out with this deadline: the tick count at that moment, and
on top of it the ticks that the response may take. -/
def Sends (b : Bridge) (ms : List Move) (x : Exchange) (deadline : Nat) : Prop :=
  ∃ pre post n, ms = pre ++ .transmit :: post ∧ x.limit = some n ∧
    deadline = (b.run pre).pacer.ticks.count + n ∧ ∃ rc,
      (b.run pre).desk.turn = some ⟨x, .installed, rc⟩ ∧
      (b.run (pre ++ [.transmit])).desk.turn = some ⟨x, .sent (some deadline), rc⟩

theorem Sends.concat {b : Bridge} {ms : List Move} {x : Exchange} {deadline : Nat}
    (h : b.Sends ms x deadline) (m : Move) : b.Sends (ms ++ [m]) x deadline := by
  obtain ⟨pre, post, n, rfl, hl, hd, hs⟩ := h
  exact ⟨pre, post ++ [m], n, by simp, hl, hd, hs⟩

/-- The exchange whose turn it is has the deadline that was set when its request went out, and if it fails
because time is up, the deadline is reached. -/
structure Timely (b : Bridge) (ms : List Move) : Prop where
  sent : ∀ x deadline rc, (b.run ms).desk.turn = some ⟨x, .sent (some deadline), rc⟩ →
    b.Sends ms x deadline
  failing : ∀ x rc, (b.run ms).desk.turn = some ⟨x, .failing .timeout, rc⟩ →
    ∃ deadline, b.Sends ms x deadline ∧ deadline ≤ (b.run ms).pacer.ticks.count

theorem timely_run {b : Bridge} (hb : b.IsNew) (ms : List Move) : b.Timely ms := by
  induction ms using List.reverseRecOn with
  | nil =>
    have hn : (b.run []).desk.turn = none := by rw [run_nil, hb.desk]
    exact ⟨fun x n rc h => (by rw [hn] at h; cases h), fun x rc h => (by rw [hn] at h; cases h)⟩
  | append_singleton ms m ih =>
    have hs := sound_run hb ms
    have grows : (b.run ms).pacer.ticks.count ≤ (b.run (ms ++ [m])).pacer.ticks.count := by
      rw [run_append, count_run _ [m]]
      exact Nat.le_add_right _ _
    constructor
    · intro x n rc ht
      have hm := ht
      rw [run_concat] at hm
      rcases turn_move hs (by simp) hm with ⟨rc', h⟩ | ⟨rfl, hi, h | ⟨e, h⟩⟩ | h | ⟨h, -⟩
      · exact (ih.sent x n rc' h).concat m
      · obtain ⟨k, hk, hn⟩ := Option.map_eq_some_iff.1 (Progress.sent.inj h).symm
        exact ⟨ms, [], k, rfl, hk, hn.symm, rc, hi, ht⟩
      · cases h
      · cases h
      · cases h
    · intro x rc ht
      rw [run_concat] at ht
      rcases turn_move hs (by simp) ht with ⟨rc', h⟩ | ⟨rfl, -, h | ⟨e, h⟩⟩ | h | ⟨-, n, rc', h, hn⟩
      · obtain ⟨n, hn, hle⟩ := ih.failing x rc' h
        exact ⟨n, hn.concat m, Nat.le_trans hle grows⟩
      · cases h
      · cases h
      · cases h
      · exact ⟨n, (ih.sent x n rc' h).concat m, Nat.le_trans hn grows⟩

theorem turn_of_timeout {b : Bridge} {m : Move} {x : Exchange}
    (h : ⟨x, .error .timeout⟩ ∈ b.ends m) : ∃ rc, b.desk.turn = some ⟨x, .failing .timeout, rc⟩ := by
  cases m with
  | startTurn =>
    simp only [ends, Desk.startTurn] at h
    split at h
    · split at h
      · cases List.mem_singleton.1 h
      · cases h
    · cases h
  | leave =>
    simp only [ends, Desk.leave] at h
    split at h
    · rename_i y e rc ht
      cases List.mem_singleton.1 h
      exact ⟨rc, ht⟩
    · cases List.mem_singleton.1 h
    · cases h
  | button | touch | note | setRules | listen | requestTick | forceTick | pause | resume | exchange
    | transmit | expire | lapse | dispatch | send | close | clear => cases h

/-- **Nobody who waits for ticks is let go too early.** Whatever happens in whatever order, with any number
of calls that wait at the same time:

1. A call for a single tick ends well only after a tick was released since it began and a status was
   accepted after that, while the tick was in flight. The count that it gives has grown since.
2. A call for a number of ticks ends well only after as many were acknowledged since it began.
3. An exchange ends because time is up only after as many ticks as it may take were acknowledged since
   its request went out. -/
theorem waits_end_after_ticks :
    (∀ (t : Timed) (as : List Timed.Act) (c : Option Nat),
      ((t.act .tickOnce).run as).outcome? t.calls.length = some (.ok c) →
      (∃ n, c = some n ∧ t.pacer.ticks.count < n) ∧ ∃ before between after rest,
        as = before ++ .op .next :: (between ++ .op .status :: (after ++ .look t.calls.length :: rest)) ∧
        let begun := t.act .tickOnce
        (begun.run before).pacer.makes .next = true ∧
        ((begun.run before).pacer.step .next).1 = .fetched (.packet .tick) ∧
        (begun.run (before ++ .op .next :: between)).pacer.acknowledges .status = true) ∧
    (∀ (t : Timed) (n : Nat) (as : List Timed.Act) (c : Option Nat),
      ((t.act (.waitTicks n)).run as).outcome? t.calls.length = some (.ok c) →
      ∃ before rest, as = before ++ .look t.calls.length :: rest ∧
        n ≤ acknowledged t.pacer (Timed.ops before)) ∧
    ∀ (files : String → Option String) (o : Options) (b : Bridge), ofOptions files o = .ok b →
      ∀ (ms : List Move) (m : Move) (x : Exchange), ⟨x, .error .timeout⟩ ∈ (b.run ms).ends m →
      ∃ pre post n deadline rc, ms = pre ++ .transmit :: post ∧ x.limit = some n ∧
        (b.run pre).desk.turn = some ⟨x, .installed, rc⟩ ∧
        (b.run (pre ++ [.transmit])).desk.turn = some ⟨x, .sent deadline, rc⟩ ∧
        n ≤ (b.run (pre ++ [.transmit])).acknowledgedIn post := by
  refine ⟨fun t as c => t.exists_tick as, fun t n as c => t.le_acknowledged n as, ?_⟩
  intro files o b options ms m x hx
  obtain ⟨rc, ht⟩ := turn_of_timeout hx
  obtain ⟨n, ⟨pre, post, k, rfl, hl, rfl, rc', hi, hs⟩, hle⟩ :=
    (timely_run (isNew_of_ofOptions options) ms).failing x rc ht
  refine ⟨pre, post, k, _, rc', rfl, hl, hi, hs, ?_⟩
  have hc : (b.run (pre ++ [.transmit])).pacer.ticks.count = (b.run pre).pacer.ticks.count := by
    rw [run_concat]
    exact congrArg TickStatus.count (ticks_transmit (b.run pre))
  rw [List.append_cons, run_append, count_run (b.run (pre ++ [Move.transmit])), hc] at hle
  omega

/-- A call for a single tick begins while a tick is in flight, and another that waits for one tick begins
behind it: that tick ends the second call, and only the next one the first. An exchange that may take one
tick ends when that is acknowledged. -/
theorem waits_end_after_one_tick_and_two :
    let t : Timed := { pacer := Pacer.after {} [.status, .requestTick, .next] }
    let as : List Timed.Act := [.op .forceTick, .op .requestTick, .op .status, .look 0, .look 1, .op .next,
      .op .status, .look 0]
    let both := ((t.act .tickOnce).act (.waitTicks 1)).run as
    let b : Bridge := { engine := Engine.new .nanoSP .nfc none }
    let x : Exchange := ⟨0, .call "a", [0x80, 0x01], some 1⟩
    let status : Packet := ⟨.generalStatus, [0, 0]⟩
    let ms : List Move := [.exchange x.caller x.apdu x.limit, .startTurn, .transmit, .dispatch status, .send,
      .requestTick, .dispatch status, .send, .dispatch status, .expire]
    (t.pacer.ticks.inFlight = true ∧ both.outcome? 0 = some (.ok (some 2)) ∧
        both.outcome? 1 = some (.ok (some 1))) ∧
      (∃ before between after rest,
        .waitTicks 1 :: as = before ++ .op .next :: (between ++ .op .status :: (after ++ .look 0 :: rest))) ∧
      (∃ before rest, as = before ++ .look 1 :: rest ∧ 1 ≤ acknowledged t.pacer (Timed.ops before)) ∧
      ofOptions (fun _ => none) { link := .nfc } = .ok b ∧ ⟨x, .error .timeout⟩ ∈ (b.run ms).ends .leave ∧
      ∃ pre post, ms = pre ++ .transmit :: post ∧
        1 ≤ (b.run (pre ++ [.transmit])).acknowledgedIn post := by
  intro t as both b x status ms
  have ho : ofOptions (fun _ => none) { link := .nfc } = .ok b := rfl
  have first : both.outcome? 0 = some (.ok (some 2)) := rfl
  have second : both.outcome? 1 = some (.ok (some 1)) := rfl
  have left : (b.run ms).ends .leave = [⟨x, .error .timeout⟩] := by decide +kernel
  have ends : ⟨x, .error .timeout⟩ ∈ (b.run ms).ends .leave := by rw [left]; exact List.mem_singleton.2 rfl
  obtain ⟨once, ticks, limit⟩ := waits_end_after_ticks
  obtain ⟨-, before, between, after, rest, hs, -⟩ := once t (.waitTicks 1 :: as) (some 2) first
  obtain ⟨pre, post, n, deadline, rc, hm, hl, -, -, hn⟩ := limit _ _ b ho ms .leave x ends
  cases hl
  exact ⟨⟨rfl, first, second⟩, ⟨before, between, after, rest, hs⟩,
    ticks (t.act .tickOnce) 1 as (some 1) second, ho, ends, pre, post, hm, hn⟩

end Bridge
end Seph
