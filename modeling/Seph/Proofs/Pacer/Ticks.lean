import Seph.Proofs.Pacer.Run

/-!
# Ticks

A pacer makes a tick when it releases a packet that its queue does not lose (`makes`).

1. `Guarded`: an open slot while a tick is in flight is the slot of a reply that still waits. So no
   tick is made while another is in flight, and `Rule.account` follows.
2. `Rule.count`, `Rule.in_flight`: only an accepted status ends the flight of a tick, and then it counts
   it.
-/

namespace Seph.Pacer

/-- The event of a pacer that was `s` before and is `s'` after it makes a packet: one is released, and
the queue is what it was. -/
def Event.makes (e : Event) (s s' : Pacer) : Bool := e.releases && decide (s'.queue = s.queue)

/-- The operation makes a packet. -/
def makes (s : Pacer) (o : Op) : Bool := Event.makes ⟨o, (s.step o).1⟩ s (s.step o).2

section Step

variable {s s' : Pacer} {e : Event}

theorem makes_release (p : Packet) :
    Event.makes ⟨.next, .fetched (.packet p)⟩ s s' = decide (s'.queue = s.queue) := rfl

/-- What is made is a tick, made to fill a slot for which nothing waits. -/
theorem Rule.of_makes (h : Rule s e s') (hm : e.makes s s' = true) :
    e = ⟨.next, .fetched (.packet .tick)⟩ ∧ s.slot = true ∧ s.queue = [] ∧ s.wantsTick = true ∧
      s'.ticks.inFlight = true ∧ s'.tickForced = false := by
  cases h with
  | tick _ hs hq hw => exact ⟨rfl, hs, hq, hw, rfl, rfl⟩
  | head p ps _ _ hq =>
    -- the queue loses its head
    simp [makes_release, hq] at hm
  | push | reply | replyRefused | status | statusRefused | requestTick | requestIgnored | forceTick
    | pause | resume | close | waiting | ended => cases hm

theorem Event.makes_of_ne_next {o : Op} {r : Result} (h : o ≠ .next) :
    Event.makes ⟨o, r⟩ s s' = false := by
  cases o with
  | next => exact absurd rfl h
  | push | reply | status | requestTick | forceTick | pause | resume | close => rfl

/-! ## Ticks and counts -/

/-- While a tick is in flight, an open slot is that of a packet that waits. -/
def Guarded (s : Pacer) : Prop := s.ticks.inFlight = true → s.slot = true → s.queue ≠ []

theorem guarded_new : Guarded {} := fun h _ => Bool.noConfusion h

theorem acknowledge_inFlight (t : TickStatus) : t.acknowledge.inFlight = false := by
  unfold TickStatus.acknowledge
  split
  · rfl
  · rename_i h
    exact eq_false_of_ne_true h

/-- An acknowledgement moves the tick in flight to the count. -/
theorem acknowledge_count (t : TickStatus) : t.acknowledge.count = t.count + t.inFlight.toNat := by
  unfold TickStatus.acknowledge
  split <;> simp_all

theorem Rule.guarded (h : Rule s e s') (hg : s.Guarded) : s'.Guarded := by
  intro hf hs
  cases h with
  | push p => simp
  | reply p _ => simp
  | status _ =>
    rw [show _ = false from acknowledge_inFlight s.ticks] at hf
    cases hf
  | head | tick => cases hs
  | replyRefused | statusRefused | requestTick | requestIgnored | forceTick | pause | resume | close
    | waiting | ended => exact hg hf hs

/-- **The ticks made are those counted and the one in flight.** -/
theorem Rule.account (h : Rule s e s') (hg : s.Guarded) :
    s'.ticks.count + s'.ticks.inFlight.toNat =
      s.ticks.count + s.ticks.inFlight.toNat + (e.makes s s').toNat := by
  cases h with
  | tick _ hs hq _ =>
    have hf : s.ticks.inFlight = false := eq_false_of_ne_true fun hf => hg hf hs hq
    simp [makes_release, hf]
  | status _ =>
    show s.ticks.acknowledge.count + s.ticks.acknowledge.inFlight.toNat = _
    rw [acknowledge_count, acknowledge_inFlight]
    rfl
  | head p ps _ _ hq => simp [makes_release, hq]
  | push | reply | replyRefused | statusRefused | requestTick | requestIgnored | forceTick | pause
    | resume | close | waiting | ended => rfl

/-- The count grows with an accepted status only, and never falls. -/
theorem Rule.count (h : Rule s e s') :
    s.ticks.count ≤ s'.ticks.count ∧
      (s.ticks.count < s'.ticks.count → e = ⟨.status, .done⟩) := by
  cases h with
  | status _ =>
    refine ⟨?_, fun _ => rfl⟩
    show s.ticks.count ≤ s.ticks.acknowledge.count
    rw [acknowledge_count]
    omega
  | push | reply | replyRefused | statusRefused | requestTick | requestIgnored | forceTick | pause
    | resume | close | head | tick | waiting | ended =>
    exact ⟨Nat.le_refl _, fun h => absurd h (Nat.lt_irrefl _)⟩

theorem Rule.in_flight (h : Rule s e s') (hf : s.ticks.inFlight = true) :
    s'.ticks.inFlight = true ∨ e = ⟨.status, .done⟩ := by
  cases h with
  | status _ => exact .inr rfl
  | tick => exact .inl rfl
  | push | reply | replyRefused | statusRefused | requestTick | requestIgnored | forceTick | pause
    | resume | close | head | waiting | ended => exact .inl hf

theorem Rule.forced (h : Rule s e s') (hf : s'.tickForced = true) :
    e.op = .forceTick ∨ s.tickForced = true := by
  cases h with
  | forceTick => exact .inl rfl
  | tick => cases hf
  | push | reply | replyRefused | status | statusRefused | requestTick | requestIgnored | pause
    | resume | close | head | waiting | ended => exact .inr hf

theorem Rule.requested (h : Rule s e s') (hr : s'.tickRequested = true) :
    e.op = .requestTick ∨ s.tickRequested = true := by
  cases h with
  | requestTick => exact .inl rfl
  | tick | pause => cases hr
  | push | reply | replyRefused | status | statusRefused | requestIgnored | forceTick | resume | close
    | head | waiting | ended => exact .inr hr

theorem Rule.paused (h : Rule s e s') (hp : s.ticks.paused = true) (hr : e.op ≠ .resume) :
    s'.ticks.paused = true := by
  cases h with
  | resume => exact absurd rfl hr
  | pause => rfl
  | status =>
    show s.ticks.acknowledge.paused = true
    unfold TickStatus.acknowledge
    split <;> exact hp
  | push | reply | replyRefused | statusRefused | requestTick | requestIgnored | forceTick | close | head
    | tick | waiting | ended => exact hp

/-- What is no status and releases nothing leaves the slot and the tick in flight. -/
theorem Rule.frame (h : Rule s e s') (hs : e.op.isStatus = false) (hn : e.op ≠ .next) :
    s'.slot = s.slot ∧ s'.ticks.inFlight = s.ticks.inFlight := by
  cases h with
  | reply | replyRefused | status | statusRefused => cases hs
  | head | tick | waiting | ended => exact absurd rfl hn
  | push | requestTick | requestIgnored | forceTick | pause | resume | close => exact ⟨rfl, rfl⟩

end Step

end Seph.Pacer
