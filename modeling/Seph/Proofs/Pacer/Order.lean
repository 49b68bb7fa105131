import Seph.Proofs.Pacer.Run

/-!
# The order of the queue

Replies go before all that waits and events behind it, in one queue. A ledger beside the pacer
keeps the origin of every packet: the queue's operations are repeated on pairs of an origin and a
packet, so the ledger says of each packet that waits, and of each that was released, whether it was
pushed, was a reply, or is a tick that was made because nothing waited.

1. `Kept.enter`: the ledger agrees with the pacer, and at most the head of the queue is a reply, for
   which the slot is open.
2. `all_enter`: what is pushed or replied enters behind what entered before, and stays.
3. `queue_keeps_order`: no packet is lost, doubled or overtaken by another of its origin.
-/

namespace Seph.Pacer

/-- Where a packet comes from. -/
inductive Origin
  | pushed
  | reply
  /-- It was made at its release. -/
  | tick
  deriving DecidableEq, Repr

/-- The packets that wait and those that were released, the first in front. -/
structure Ledger where
  waiting : List (Origin × Packet) := []
  released : List (Origin × Packet) := []
  deriving DecidableEq, Repr

def Ledger.enter (l : Ledger) : Event → Ledger
  | ⟨.push p, _⟩ => { l with waiting := l.waiting ++ [(.pushed, p)] }
  | ⟨.reply p, .done⟩ => { l with waiting := (.reply, p) :: l.waiting }
  | ⟨.next, .fetched (.packet p)⟩ =>
    match l.waiting with
    | x :: xs => ⟨xs, l.released ++ [x]⟩
    | [] => ⟨[], l.released ++ [(.tick, p)]⟩
  | _ => l

def ledger (es : List Event) : Ledger := es.foldl Ledger.enter {}

/-- The packets of a given origin, in order. -/
def ofOrigin (o : Origin) (xs : List (Origin × Packet)) : List Packet :=
  (xs.filter (·.1 = o)).map Prod.snd

/-- The packet of a given origin that an event brings, if it brings one. -/
def Event.given? : Origin → Event → Option Packet
  | .pushed, ⟨.push p, _⟩ => some p
  | .reply, ⟨.reply p, .done⟩ => some p
  | _, _ => none

@[simp] theorem ofOrigin_nil (o : Origin) : ofOrigin o [] = [] := rfl

@[simp] theorem ofOrigin_append (o : Origin) (xs ys : List (Origin × Packet)) :
    ofOrigin o (xs ++ ys) = ofOrigin o xs ++ ofOrigin o ys := by simp [ofOrigin]

@[simp] theorem ofOrigin_cons (o a : Origin) (p : Packet) (xs : List (Origin × Packet)) :
    ofOrigin o ((a, p) :: xs) = if a = o then p :: ofOrigin o xs else ofOrigin o xs := by
  by_cases h : a = o <;> simp [ofOrigin, h]

theorem ofOrigin_of_all {o : Origin} {xs : List (Origin × Packet)} (h : ∀ x ∈ xs, x.1 = .pushed)
    (ho : o ≠ .pushed) : ofOrigin o xs = [] := by
  unfold ofOrigin
  rw [List.map_eq_nil_iff, List.filter_eq_nil_iff]
  intro x hx he
  exact ho (by rw [← of_decide_eq_true he, h x hx])

/-! ## The ledger and the pacer -/

/-- A ledger agrees with a pacer: it holds the queue, in which all packets are pushed, but for a
reply at the head while the slot is open. -/
structure Kept (l : Ledger) (s : Pacer) : Prop where
  queue : l.waiting.map Prod.snd = s.queue
  shape : (∀ x ∈ l.waiting, x.1 = .pushed) ∨
    s.slot = true ∧ ∃ p xs, l.waiting = (.reply, p) :: xs ∧ ∀ x ∈ xs, x.1 = .pushed

namespace Kept

variable {l : Ledger} {s s' : Pacer} {e : Event}

theorem start : Kept {} {} := ⟨rfl, .inl (by simp)⟩

theorem all_pushed (h : Kept l s) (hs : s.slot = false) : ∀ x ∈ l.waiting, x.1 = .pushed := by
  rcases h.shape with hp | ⟨ht, -⟩
  · exact hp
  · rw [hs] at ht; cases ht

theorem congr (h : Kept l s) (hq : s'.queue = s.queue) (hs : s'.slot = s.slot) : Kept l s' :=
  ⟨hq ▸ h.queue, hs ▸ h.shape⟩

theorem push (h : Kept l s) (p : Packet) :
    Kept { l with waiting := l.waiting ++ [(.pushed, p)] } { s with queue := s.queue ++ [p] } := by
  refine ⟨by simp [h.queue], ?_⟩
  rcases h.shape with hp | ⟨ht, q, xs, hw, hp⟩
  · refine .inl fun x hx => ?_
    rcases List.mem_append.1 hx with hx | hx
    · exact hp x hx
    · rw [List.mem_singleton.1 hx]
  · refine .inr ⟨ht, q, xs ++ [(.pushed, p)], by simp [hw], fun x hx => ?_⟩
    rcases List.mem_append.1 hx with hx | hx
    · exact hp x hx
    · rw [List.mem_singleton.1 hx]

theorem head {p : Packet} {ps : List Packet} (h : Kept l s) (hq : s.queue = p :: ps) :
    ∃ o xs, l.waiting = (o, p) :: xs ∧ xs.map Prod.snd = ps := by
  have hw := h.queue
  rw [hq] at hw
  obtain ⟨⟨o, q⟩, xs, hl, rfl, hxs⟩ := List.map_eq_cons_iff.1 hw
  exact ⟨o, xs, hl, hxs⟩

theorem nil (h : Kept l s) (hq : s.queue = []) : l.waiting = [] := by simpa [hq] using h.queue

theorem ne_tick (h : Kept l s) {x : Origin × Packet} (hx : x ∈ l.waiting) : x.1 ≠ .tick := by
  rcases h.shape with hp | ⟨-, p, xs, hw, hp⟩
  · rw [hp x hx]; decide
  · rw [hw] at hx
    rcases List.mem_cons.1 hx with rfl | hx
    · exact Origin.noConfusion
    · rw [hp x hx]; decide

theorem tail {x : Origin × Packet} {xs : List (Origin × Packet)} (h : Kept l s)
    (hw : l.waiting = x :: xs) : ∀ y ∈ xs, y.1 = .pushed := by
  rcases h.shape with hp | ⟨-, p, ys, hy, hp⟩
  · exact fun y hy => hp y (by rw [hw]; exact List.mem_cons_of_mem x hy)
  · rw [hw] at hy
    cases hy
    exact hp

/-- **Agreement is kept.** Whatever happens, the ledger goes on to agree with the pacer. -/
theorem enter (h : Kept l s) (hr : Rule s e s') : Kept (l.enter e) s' := by
  cases hr with
  | push p => exact h.push p
  | reply p hs =>
    exact ⟨by simp [Ledger.enter, h.queue], .inr ⟨rfl, p, l.waiting, rfl, h.all_pushed hs⟩⟩
  | head p ps _ _ hq =>
    obtain ⟨o, xs, hl, hxs⟩ := h.head hq
    simp only [Ledger.enter, hl]
    exact ⟨hxs, .inl (h.tail hl)⟩
  | tick _ _ hq _ =>
    simp only [Ledger.enter, h.nil hq]
    exact ⟨hq.symm, .inl (by simp)⟩
  | status hs => exact ⟨h.queue, .inl (h.all_pushed hs)⟩
  | replyRefused | statusRefused | requestTick | requestIgnored | forceTick | pause | resume | close
    | waiting | ended => exact h.congr rfl rfl

end Kept

/-! ## What one event enters -/

/-- The packets of an origin: those released and those that wait. -/
def Ledger.all (l : Ledger) (o : Origin) : List Packet :=
  ofOrigin o l.released ++ ofOrigin o l.waiting

section Enter

variable {l : Ledger} {s s' : Pacer} {e : Event}

/-- The release of the head moves it from one list to the other. -/
theorem Ledger.all_release {x : Origin × Packet} {xs : List (Origin × Packet)} (o : Origin)
    (hw : l.waiting = x :: xs) : Ledger.all ⟨xs, l.released ++ [x]⟩ o = l.all o := by
  unfold Ledger.all
  rw [hw, ofOrigin_append, List.append_assoc, ← ofOrigin_append, List.singleton_append]

theorem Ledger.all_made {o : Origin} (p : Packet) (hw : l.waiting = []) (ho : o ≠ .tick) :
    Ledger.all ⟨[], l.released ++ [(.tick, p)]⟩ o = l.all o := by
  unfold Ledger.all
  rw [hw, ofOrigin_append, ofOrigin_cons, if_neg (Ne.symm ho), ofOrigin_nil, List.append_nil]

/-- **Packets of one origin stay in order.** What is given comes behind what was given before. -/
theorem all_enter (h : Kept l s) (hr : Rule s e s') {o : Origin} (ho : o ≠ .tick) :
    (l.enter e).all o = l.all o ++ (e.given? o).toList := by
  cases hr with
  | push p =>
    cases o with
    | pushed => simp [Ledger.enter, Ledger.all, Event.given?]
    | reply => simp [Ledger.enter, Ledger.all, Event.given?]
    | tick => exact absurd rfl ho
  | reply p hs =>
    cases o with
    | pushed => simp [Ledger.enter, Ledger.all, Event.given?]
    | reply =>
      -- the slot was closed, so that no other reply waits
      have hn := ofOrigin_of_all (h.all_pushed hs) (o := .reply) Origin.noConfusion
      simp [Ledger.enter, Ledger.all, Event.given?, hn]
    | tick => exact absurd rfl ho
  | head p ps _ _ hq =>
    obtain ⟨a, xs, hl, -⟩ := h.head hq
    simpa [Ledger.enter, hl, Event.given?] using Ledger.all_release o hl
  | tick _ _ hq _ =>
    simpa [Ledger.enter, h.nil hq, Event.given?] using Ledger.all_made .tick (h.nil hq) ho
  | status | replyRefused | statusRefused | requestTick | requestIgnored | forceTick | pause | resume
    | close | waiting | ended => simp [Ledger.enter, Event.given?]

/-- The ledger releases what the pacer does, and what it makes are ticks. -/
theorem released_enter (h : Kept l s) (hr : Rule s e s') :
    ∃ xs, (l.enter e).released = l.released ++ xs ∧ xs.map Prod.snd = e.released?.toList ∧
      ∀ p, (.tick, p) ∈ xs → p = .tick := by
  cases hr with
  | head p ps _ _ hq =>
    obtain ⟨a, xs, hl, -⟩ := h.head hq
    refine ⟨[(a, p)], by simp [Ledger.enter, hl], rfl, fun q hm => ?_⟩
    have ha := h.ne_tick (x := (a, p)) (by rw [hl]; exact List.mem_cons_self)
    cases List.mem_singleton.1 hm
    exact absurd rfl ha
  | tick _ _ hq _ =>
    refine ⟨[(.tick, .tick)], by simp [Ledger.enter, h.nil hq], rfl, fun p hm => ?_⟩
    cases List.mem_singleton.1 hm
    rfl
  | push | reply | status | replyRefused | statusRefused | requestTick | requestIgnored | forceTick
    | pause | resume | close | waiting | ended =>
    exact ⟨[], by simp [Ledger.enter], rfl, by simp⟩

end Enter

/-! ## Runs -/

theorem Kept.run {l : Ledger} {s : Pacer} (h : Kept l s) (os : List Op) :
    Kept ((s.trace os).foldl Ledger.enter l) (s.after os) := by
  induction os generalizing l s with
  | nil => exact h
  | cons o os ih => exact ih (h.enter (step_rule s o))

theorem all_run {l : Ledger} {s : Pacer} (h : Kept l s) {o : Origin} (ho : o ≠ .tick)
    (os : List Op) :
    ((s.trace os).foldl Ledger.enter l).all o = l.all o ++ (s.trace os).filterMap (Event.given? o) := by
  induction os generalizing l s with
  | nil => simp
  | cons a os ih =>
    have hr := step_rule s a
    rw [trace_cons, List.foldl_cons, ih (h.enter hr), all_enter h hr ho, List.append_assoc,
      List.filterMap_cons]
    cases Event.given? o ⟨a, (s.step a).1⟩ <;> rfl

theorem released_run {l : Ledger} {s : Pacer} (h : Kept l s) (os : List Op) :
    ∃ xs, ((s.trace os).foldl Ledger.enter l).released = l.released ++ xs ∧
      xs.map Prod.snd = (s.trace os).filterMap Event.released? ∧
      ∀ p, (.tick, p) ∈ xs → p = .tick := by
  induction os generalizing l s with
  | nil => exact ⟨[], by simp, rfl, by simp⟩
  | cons a os ih =>
    have hr := step_rule s a
    obtain ⟨xs, hx, hm, ht⟩ := released_enter h hr
    obtain ⟨ys, hy, hn, hu⟩ := ih (h.enter hr)
    refine ⟨xs ++ ys, ?_, ?_, fun p hp => ?_⟩
    · rw [trace_cons, List.foldl_cons, hy, hx, List.append_assoc]
    · rw [List.map_append, hm, hn, trace_cons, List.filterMap_cons]
      cases Event.released? ⟨a, (s.step a).1⟩ <;> rfl
    · rcases List.mem_append.1 hp with hp | hp
      · exact ht p hp
      · exact hu p hp

/-- **The queue keeps its order.** In every run of a new pacer, with the packets that were released
and those that wait marked with their origins: what was pushed is what was released of it and, behind
that, what waits of it; the same holds of replies; what was made at its release is a tick. A reply
waits only at the head, and only while the slot is open; a tick never waits. -/
theorem queue_keeps_order (os : List Op) :
    let s : Pacer := {}
    let l := ledger (s.trace os)
    l.waiting.map Prod.snd = (s.after os).queue ∧
    l.released.map Prod.snd = (s.trace os).filterMap Event.released? ∧
    (s.trace os).filterMap (Event.given? .pushed) =
      ofOrigin .pushed l.released ++ ofOrigin .pushed l.waiting ∧
    (s.trace os).filterMap (Event.given? .reply) =
      ofOrigin .reply l.released ++ ofOrigin .reply l.waiting ∧
    (∀ p, (.tick, p) ∈ l.released → p = .tick) ∧
    (∀ i p, l.waiting[i]? = some (.reply, p) → i = 0 ∧ (s.after os).slot = true) ∧
    ∀ p, (.tick, p) ∉ l.waiting := by
  intro s l
  have hk : Kept l (s.after os) := Kept.start.run os
  obtain ⟨xs, hx, hm, ht⟩ := released_run Kept.start os
  have hl : l.released = xs := by rw [← List.nil_append xs]; exact hx
  have hall (o : Origin) (ho : o ≠ .tick) :
      (s.trace os).filterMap (Event.given? o) = l.all o := by
    rw [← List.nil_append (List.filterMap _ _)]
    exact (all_run Kept.start ho os).symm
  refine ⟨hk.queue, by rw [hl, hm], hall .pushed Origin.noConfusion,
    hall .reply Origin.noConfusion, by rw [hl]; exact ht, fun i p hi => ?_, fun p hp => ?_⟩
  · rcases hk.shape with hs | ⟨hs, q, ys, hw, hp⟩
    · cases hs _ (List.mem_of_getElem? hi)
    · refine ⟨?_, hs⟩
      rw [hw] at hi
      cases i with
      | zero => rfl
      | succ i => cases hp _ (List.mem_of_getElem? hi)
  · exact hk.ne_tick hp rfl

end Seph.Pacer
