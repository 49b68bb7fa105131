import Seph.Proofs.Pacer.Ticks
import Seph.Session.Call

/-!
# Waiting for ticks

Any number of calls may wait for ticks at the same time, while the operations of the pacer go on in any
order. A call that begins reads the tick status, and from that alone says which count it waits for; it
then looks at the tick status again and again until the count is reached or the pacer is closed. Asking
for the tick is an operation like any other, whichever call performs it and whenever it does
(`Timed.Act`).

1. `count_after`: the count grows with each status that finds a tick in flight, and with nothing else.
2. `exists_tick_of_count`: the count that a call for a single tick waits for allows for the tick in
   flight, so that it is reached only after one more tick was made and acknowledged.
3. `Timed.exists_look`: a call ends with what one of its looks has shown.
-/

namespace Seph

namespace Pacer

/-! ## Acknowledgements -/

/-- The event of a pacer that was `s` before it acknowledges a tick: a status is accepted while a tick is
in flight. -/
def Event.lands (e : Event) (s : Pacer) : Bool := decide (e = ⟨.status, .done⟩) && s.ticks.inFlight

/-- The operation acknowledges a tick. -/
def acknowledges (s : Pacer) (o : Op) : Bool := Event.lands ⟨o, (s.step o).1⟩ s

def acknowledged (s : Pacer) : List Op → Nat
  | [] => 0
  | o :: os => (s.acknowledges o).toNat + acknowledged (s.step o).2 os

@[simp] theorem acknowledged_nil (s : Pacer) : s.acknowledged [] = 0 := rfl

@[simp] theorem acknowledged_cons (s : Pacer) (o : Op) (os : List Op) :
    s.acknowledged (o :: os) = (s.acknowledges o).toNat + (s.step o).2.acknowledged os := rfl

section Step

variable {s s' : Pacer} {e : Event}

theorem Rule.count_eq (h : Rule s e s') :
    s'.ticks.count = s.ticks.count + (e.lands s).toNat := by
  cases h with
  | status _ =>
    show s.ticks.acknowledge.count = _
    rw [acknowledge_count]
    simp [Event.lands]
  | push | reply | replyRefused | statusRefused | requestTick | requestIgnored | forceTick | pause | resume
    | close | head | tick | waiting | ended => simp [Event.lands]

theorem Rule.of_not_makes (h : Rule s e s') (hf : s.ticks.inFlight = false)
    (hm : e.makes s s' = false) : s'.ticks.inFlight = false := by
  cases h with
  | tick => simp [makes_release] at hm
  | status _ => exact acknowledge_inFlight s.ticks
  | push | reply | replyRefused | statusRefused | requestTick | requestIgnored | forceTick | pause | resume
    | close | head | waiting | ended => exact hf

theorem Rule.of_not_lands (h : Rule s e s') (hf : s.ticks.inFlight = true) (hl : e.lands s = false) :
    s'.ticks.inFlight = true := by
  rcases h.in_flight hf with h | rfl
  · exact h
  · simp [Event.lands, hf] at hl

theorem Rule.landed (h : Rule s e s') (hl : e.lands s = true) : s'.ticks.inFlight = false := by
  obtain rfl : e = ⟨.status, .done⟩ := of_decide_eq_true (Bool.and_eq_true_iff.1 hl).1
  cases h with
  | status _ => exact acknowledge_inFlight s.ticks

end Step

/-- **The count of a run** is that at its start and the ticks acknowledged in it. -/
theorem count_after (s : Pacer) (os : List Op) :
    (s.after os).ticks.count = s.ticks.count + s.acknowledged os := by
  induction os generalizing s with
  | nil => rfl
  | cons o os ih =>
    have hs : (s.step o).2.ticks.count = s.ticks.count + (s.acknowledges o).toNat :=
      (step_rule s o).count_eq
    rw [after_cons, ih, hs, acknowledged_cons]
    omega

theorem exists_landing {s : Pacer} {os : List Op} (h : s.ticks.count < (s.after os).ticks.count) :
    ∃ pre post, os = pre ++ .status :: post ∧ (s.after pre).acknowledges .status = true := by
  induction os generalizing s with
  | nil => exact absurd h (Nat.lt_irrefl _)
  | cons o os ih =>
    cases hl : s.acknowledges o with
    | true =>
      obtain ⟨rfl, -⟩ := Event.mk.inj (of_decide_eq_true (Bool.and_eq_true_iff.1 hl).1)
      exact ⟨[], os, rfl, hl⟩
    | false =>
      have hc : (s.step o).2.ticks.count = s.ticks.count := by
        have := (step_rule s o).count_eq
        rwa [show Event.lands _ s = false from hl] at this
      obtain ⟨pre, post, rfl, hp⟩ := ih (by rwa [hc])
      exact ⟨o :: pre, post, rfl, hp⟩

/-- The count that shows one more tick does not move but when a tick takes off. -/
theorem nextTick_step (s : Pacer) (o : Op) (h : s.ticks.inFlight = true ∨ s.makes o = false) :
    (s.step o).2.nextTick = s.nextTick := by
  have hr := step_rule s o
  unfold nextTick
  rw [hr.count_eq]
  cases hf : s.ticks.inFlight with
  | true =>
    cases hl : Event.lands ⟨o, (s.step o).1⟩ s with
    | true =>
      rw [hr.landed hl]
      rfl
    | false =>
      rw [hr.of_not_lands hf hl]
      rfl
  | false =>
    have hm : s.makes o = false := h.resolve_left (by simp [hf])
    rw [hr.of_not_makes hf hm]
    simp [Event.lands, hf]

/-- **A count that allows for the tick in flight** is reached only after one more tick was made, and a
status was accepted while that was in flight. -/
theorem exists_tick_of_count {s : Pacer} {os : List Op} (h : s.nextTick ≤ (s.after os).ticks.count) :
    ∃ pre mid post, os = pre ++ .next :: (mid ++ .status :: post) ∧
      (s.after pre).makes .next = true ∧ (s.after (pre ++ .next :: mid)).acknowledges .status = true := by
  induction os generalizing s with
  | nil =>
    rw [after_nil, nextTick] at h
    omega
  | cons o os ih =>
    by_cases hm : s.ticks.inFlight = true ∨ s.makes o = false
    · obtain ⟨pre, mid, post, rfl, hp, ha⟩ := ih (by rwa [nextTick_step s o hm])
      exact ⟨o :: pre, mid, post, rfl, hp, ha⟩
    · -- the tick takes off here, and what remains is to find where it lands
      rw [not_or, Bool.not_eq_true, Bool.not_eq_false] at hm
      obtain ⟨hf, hm⟩ := hm
      obtain ⟨ho, -⟩ := Event.mk.inj ((step_rule s o).of_makes hm).1
      subst ho
      have hc := (step_rule s .next).count_eq
      have hlt : (s.step .next).2.ticks.count < ((s.step .next).2.after os).ticks.count := by
        rw [nextTick, hf, after_cons] at h
        simp [Event.lands] at hc
        simp at h
        omega
      obtain ⟨mid, post, rfl, ha⟩ := exists_landing hlt
      exact ⟨[], mid, post, rfl, hm, ha⟩

theorem le_of_waitCount {s : Pacer} {n : Nat} (h : s.waitCount n = .over) : n ≤ s.ticks.count := by
  unfold waitCount wait at h
  split at h
  · rename_i hd
    exact of_decide_eq_true hd
  · split at h <;> cases h

end Pacer

/-! ## Calls that wait -/

open Pacer (Op)

/-- A call that waits for a tick count, and how it ended, if it did. -/
structure Waiter where
  call : Call
  ended : Option (Except BridgeError (Option Nat)) := none

/-- A call looks at the tick status, unless it is over. -/
def Waiter.look (w : Waiter) (s : Pacer) : Waiter := { w with ended := w.ended.or (w.call.outcome? s 0) }

/-- A pacer and the calls that wait for its ticks, in the order in which they began. -/
structure Timed where
  pacer : Pacer
  calls : List Waiter := []

namespace Timed

/-- What takes effect at once: an operation on the pacer, or a step of a call. -/
inductive Act
  | op (o : Op)
  /-- A call for a single tick begins. That it asks for the tick is an operation of its own. -/
  | tickOnce
  /-- A call for a number of ticks begins. -/
  | waitTicks (n : Nat)
  /-- The call of this number looks at the tick status, and ends if it can. -/
  | look (i : Nat)

/-- The operation on the pacer, if it is one. -/
def Act.op? : Act → Option Op
  | op o => some o
  | tickOnce | waitTicks _ | look _ => none

def begin (t : Timed) (count : Nat) : Timed := { t with calls := t.calls ++ [⟨.tick count, none⟩] }

/-- What takes effect. -/
def act (t : Timed) : Act → Timed
  | .op o => { t with pacer := (t.pacer.step o).2 }
  | .tickOnce => t.begin t.pacer.nextTick
  | .waitTicks n => t.begin (t.pacer.ticks.count + n)
  | .look i => { t with calls := t.calls.modify i (Waiter.look · t.pacer) }

/-- After a run. -/
def run (t : Timed) (as : List Act) : Timed := as.foldl act t

def ops (as : List Act) : List Op := as.filterMap Act.op?

/-- How a call ended, if it did. -/
def outcome? (t : Timed) (i : Nat) : Option (Except BridgeError (Option Nat)) :=
  t.calls[i]?.bind Waiter.ended

theorem run_cons (t : Timed) (a : Act) (as : List Act) : t.run (a :: as) = (t.act a).run as := rfl

theorem pacer_run (t : Timed) (as : List Act) : (t.run as).pacer = t.pacer.after (ops as) := by
  induction as generalizing t with
  | nil => rfl
  | cons a as ih =>
    rw [run_cons, ih]
    cases a <;> rfl

theorem exists_split {as : List Act} {os ps : List Op} {o : Op} (h : ops as = os ++ o :: ps) :
    ∃ bs cs, as = bs ++ .op o :: cs ∧ ops bs = os ∧ ops cs = ps := by
  obtain ⟨bs, rest, rfl, hb, hr⟩ := List.filterMap_eq_append_iff.1 h
  obtain ⟨idle, a, cs, rfl, hn, ha, hc⟩ := List.filterMap_eq_cons_iff.1 hr
  have hi : ops idle = [] := List.filterMap_eq_nil_iff.2 hn
  refine ⟨bs ++ idle, cs, ?_, ?_, hc⟩
  · cases a with
    | op o' =>
      cases ha
      simp
    | tickOnce | waitTicks | look => cases ha
  · rw [ops, List.filterMap_append, hb]
    exact (congrArg (os ++ ·) hi).trans (List.append_nil os)

/-! ### One call among others -/

/-- A call that is over stays as it is, and one that goes on changes only when it looks. -/
theorem getElem?_act {t : Timed} {i : Nat} {w : Waiter} (h : t.calls[i]? = some w) (a : Act) :
    (t.act a).calls[i]? = some w ∨ a = .look i ∧ (t.act a).calls[i]? = some (w.look t.pacer) := by
  have hi : i < t.calls.length := (List.getElem?_eq_some_iff.1 h).1
  have hbegin (n : Nat) : (t.begin n).calls[i]? = some w := by
    rw [begin, List.getElem?_append_left hi, h]
  cases a with
  | op o => exact .inl h
  | tickOnce => exact .inl (hbegin _)
  | waitTicks n => exact .inl (hbegin _)
  | look j =>
    by_cases hj : j = i
    · subst hj
      exact .inr ⟨rfl, by simp [act, h]⟩
    · left
      simp [act, hj, h]

theorem outcome?_run_of_ended {t : Timed} {i : Nat} {w : Waiter} {r : Except BridgeError (Option Nat)}
    (h : t.calls[i]? = some w) (he : w.ended = some r) (as : List Act) :
    (t.run as).outcome? i = some r := by
  induction as generalizing t with
  | nil => simp [run, outcome?, h, he]
  | cons a as ih =>
    rw [run_cons]
    rcases getElem?_act h a with ha | ⟨-, ha⟩
    · exact ih ha
    · have hw : w.look t.pacer = w := by
        unfold Waiter.look
        rw [he]
        cases w
        cases he
        rfl
      exact ih (hw ▸ ha)

/-- **A call ends with what one of its looks has shown.** -/
theorem exists_look {t : Timed} {i : Nat} {call : Call} {as : List Act}
    {r : Except BridgeError (Option Nat)} (h : t.calls[i]? = some ⟨call, none⟩)
    (hr : (t.run as).outcome? i = some r) :
    ∃ bs cs, as = bs ++ .look i :: cs ∧ call.outcome? (t.run bs).pacer 0 = some r := by
  induction as generalizing t with
  | nil =>
    rw [outcome?] at hr
    simp [run, h] at hr
  | cons a as ih =>
    rw [run_cons] at hr
    have later (ha : (t.act a).calls[i]? = some ⟨call, none⟩) :
        ∃ bs cs, a :: as = bs ++ .look i :: cs ∧ call.outcome? (t.run bs).pacer 0 = some r := by
      obtain ⟨bs, cs, rfl, hb⟩ := ih ha hr
      exact ⟨a :: bs, cs, rfl, hb⟩
    rcases getElem?_act h a with ha | ⟨rfl, ha⟩
    · exact later ha
    · cases ho : call.outcome? t.pacer 0 with
      | none => exact later (by rw [ha, Waiter.look, ho]; rfl)
      | some r' =>
        have he : (Waiter.look ⟨call, none⟩ t.pacer).ended = some r' := ho
        rw [outcome?_run_of_ended ha he] at hr
        cases hr
        exact ⟨[], as, rfl, ho⟩

theorem over_of_ofWait? {w : Pacer.Wait} {r c : Option Nat} (h : Call.ofWait? w r = some (.ok c)) :
    w = .over ∧ c = r := by
  unfold Call.ofWait? at h
  split at h
  · cases h
    exact ⟨rfl, rfl⟩
  all_goals cases h

theorem count_of_outcome {s : Pacer} {target clock : Nat} {c : Option Nat}
    (h : (Call.tick target).outcome? s clock = some (.ok c)) :
    target ≤ s.ticks.count ∧ c = some s.ticks.count := by
  obtain ⟨hw, hc⟩ := over_of_ofWait? h
  exact ⟨Pacer.le_of_waitCount hw, hc⟩

/-- **A call for a single tick** ends well only after a tick was made since it began and acknowledged after
that, and then with a count that has grown. -/
theorem exists_tick (t : Timed) (as : List Act) {c : Option Nat}
    (h : ((t.act .tickOnce).run as).outcome? t.calls.length = some (.ok c)) :
    (∃ n, c = some n ∧ t.pacer.ticks.count < n) ∧ ∃ before between after rest,
      as = before ++ .op .next :: (between ++ .op .status :: (after ++ .look t.calls.length :: rest)) ∧
      let begun := t.act .tickOnce
      (begun.run before).pacer.makes .next = true ∧
      ((begun.run before).pacer.step .next).1 = .fetched (.packet .tick) ∧
      (begun.run (before ++ .op .next :: between)).pacer.acknowledges .status = true := by
  have hw : (t.act .tickOnce).calls[t.calls.length]? = some ⟨.tick t.pacer.nextTick, none⟩ := by
    simp [act, begin]
  obtain ⟨bs, cs, rfl, ho⟩ := exists_look hw h
  obtain ⟨hn, rfl⟩ := count_of_outcome ho
  rw [pacer_run] at hn
  refine ⟨⟨_, rfl, ?_⟩, ?_⟩
  · rw [pacer_run]
    refine Nat.lt_of_lt_of_le ?_ hn
    rw [Pacer.nextTick]
    omega
  · obtain ⟨pre, mid, post, hs, hm, ha⟩ := Pacer.exists_tick_of_count hn
    obtain ⟨before, rest, rfl, rfl, hr⟩ := exists_split hs
    obtain ⟨between, after, rfl, rfl, -⟩ := exists_split hr
    refine ⟨before, between, after, cs, by simp, ?_, ?_, ?_⟩
    · rwa [pacer_run]
    · rw [pacer_run]
      exact (Pacer.Event.mk.inj ((Pacer.step_rule _ .next).of_makes hm).1).2
    · rw [pacer_run, ops, List.filterMap_append]
      exact ha

/-- **A call for a number of ticks** ends well only after as many were acknowledged since it began. -/
theorem le_acknowledged (t : Timed) (n : Nat) (as : List Act) {c : Option Nat}
    (h : ((t.act (.waitTicks n)).run as).outcome? t.calls.length = some (.ok c)) :
    ∃ before rest, as = before ++ .look t.calls.length :: rest ∧
      n ≤ t.pacer.acknowledged (ops before) := by
  have hw : (t.act (.waitTicks n)).calls[t.calls.length]? =
      some ⟨.tick (t.pacer.ticks.count + n), none⟩ := by
    simp [act, begin]
  obtain ⟨bs, cs, rfl, ho⟩ := exists_look hw h
  obtain ⟨hn, -⟩ := count_of_outcome ho
  rw [pacer_run, Pacer.count_after] at hn
  refine ⟨bs, cs, rfl, ?_⟩
  show n ≤ (t.act (.waitTicks n)).pacer.acknowledged (ops bs)
  have hc : (t.act (.waitTicks n)).pacer = t.pacer := rfl
  rw [hc] at hn ⊢
  omega

end Timed
end Seph
