import Seph.Proofs.Exchange.Response

/-!
# The end of every exchange

An exchange that was asked for is over, or has its turn, or waits for it; and exchanges come to their
turn and to their end in the order in which they were asked for.

1. `held_after`: along a run, the exchanges that ended and those that are held are those that were
   asked for, in order and each once.
2. `Drawn.step`: the responses with which exchanges end are among those that came, in order and each
   once.
3. `Dropped.step`: when the session is over and no ticket is installed, none is installed again, and
   only the exchange whose turn it was can end otherwise than by the end of the session.
-/

namespace Seph

/-- The response with which an exchange ended. -/
def Settled.response? : Settled → Option Bytes
  | ⟨_, .ok bs⟩ => some bs
  | ⟨_, .error _⟩ => none

/-- The response that has come for the exchange whose turn it is. -/
def Turn.response? (t : Turn) : Option Bytes :=
  match t.receipt with
  | .response bs => some bs
  | .nothing | .dropped => none

namespace Desk

/-! ## Exchanges asked for -/

/-- The exchanges that are not over: the one whose turn it is and those that wait. -/
def held (d : Desk) : List Exchange := d.turn.toList.map Turn.exchange ++ d.waiting

/-- The exchange that an operation asks for. -/
def entry? (d : Desk) : Op → Option Exchange
  | .enter caller apdu limit => some ⟨d.issued, caller, apdu, limit⟩
  | _ => none

/-- The exchanges that a run asks for, in order. -/
def entries (d : Desk) : List Op → List Exchange
  | [] => []
  | o :: os => (d.entry? o).toList ++ entries (d.step o).2 os

theorem entries_append (d : Desk) (os ps : List Op) :
    d.entries (os ++ ps) = d.entries os ++ (d.after os).entries ps := by
  induction os generalizing d with
  | nil => rfl
  | cons o os ih => rw [List.cons_append, entries, ih, entries, List.append_assoc, after_cons]

theorem entries_eq_nil {os : List Op} (h : ∀ o ∈ os, ∀ d : Desk, d.entry? o = none) (d : Desk) :
    d.entries os = [] := by
  induction os generalizing d with
  | nil => rfl
  | cons o os ih =>
    rw [entries, h o List.mem_cons_self, ih fun o hm => h o (List.mem_cons_of_mem _ hm)]
    rfl

/-- Unless it asks for one more, an operation takes exchanges from the front only. -/
theorem Rule.held {d d' : Desk} {o : Op} {e : Option Event} (hr : Rule d o e d')
    (ho : d.entry? o = none) :
    (settled e.toList).map Settled.exchange ++ d'.held = d.held ∧ d'.issued = d.issued := by
  cases hr with
  | idle | miss => exact ⟨rfl, rfl⟩
  | enter => cases ho
  | begin turn waiting | refuse turn waiting =>
    refine ⟨?_, rfl⟩
    rw [Desk.held, Desk.held, turn, waiting]
    rfl
  | ask turn | fail turn | take turn | drop turn | timeout turn | vain turn | dropped turn
  | serve turn | giveUp turn =>
    refine ⟨?_, rfl⟩
    rw [Desk.held, Desk.held, turn]
    rfl

theorem Sound.after {d : Desk} (h : d.Sound) (os : List Op) : (d.after os).Sound := by
  induction os generalizing d with
  | nil => exact h
  | cons o os ih => exact ih ((step_rule h o).sound h)

theorem held_step {d : Desk} (h : d.Sound) (o : Op) :
    (settled (d.step o).1.toList).map Settled.exchange ++ (d.step o).2.held =
        d.held ++ (d.entry? o).toList ∧
      (d.step o).2.issued = d.issued + (d.entry? o).toList.length := by
  cases ho : d.entry? o with
  | none =>
    obtain ⟨hh, hi⟩ := (step_rule h o).held ho
    exact ⟨hh.trans (List.append_nil _).symm, hi⟩
  | some x =>
    cases o with
    | enter caller apdu limit =>
      cases ho
      refine ⟨?_, rfl⟩
      show d.turn.toList.map Turn.exchange ++ (d.waiting ++ [_]) = _
      rw [← List.append_assoc]
      rfl
    | start | ask | deliver | clear | leave | expire | lapse => cases ho

/-- **Exchanges end in the order in which they were asked for**, each once and none left out. -/
theorem held_after {d : Desk} (h : d.Sound) (os : List Op) :
    (settled (d.trace os)).map Settled.exchange ++ (d.after os).held = d.held ++ d.entries os ∧
      (d.after os).issued = d.issued + (d.entries os).length := by
  induction os generalizing d with
  | nil => exact ⟨(List.append_nil _).symm, rfl⟩
  | cons o os ih =>
    obtain ⟨hs, hi⟩ := held_step h o
    obtain ⟨hs', hi'⟩ := ih ((step_rule h o).sound h)
    constructor
    · rw [trace_cons, settled_append, List.map_append, List.append_assoc, after_cons, hs',
        ← List.append_assoc, hs, entries, List.append_assoc]
    · rw [after_cons, hi', hi, entries, List.length_append, Nat.add_assoc]

/-! ## Responses -/

/-- The responses of the exchanges that ended with one, and the one that has come in the turn, are
among those that came. -/
def Drawn (t : List Event) (turn : Option Turn) : Prop :=
  ((settled t).filterMap Settled.response? ++ (turn.bind Turn.response?).toList).Sublist (answers t)

/-- What is drawn next is what has come in the turn, or comes now. -/
theorem Drawn.append {t u : List Event} {turn turn' : Option Turn} (h : Drawn t turn)
    (hu : ((settled u).filterMap Settled.response? ++ (turn'.bind Turn.response?).toList).Sublist
      ((turn.bind Turn.response?).toList ++ answers u)) : Drawn (t ++ u) turn' := by
  unfold Drawn at h ⊢
  rw [settled_append, answers_append, List.filterMap_append, List.append_assoc]
  refine ((List.Sublist.refl _).append hu).trans ?_
  rw [← List.append_assoc]
  exact h.append (.refl _)

/-- Every rule gives a response that comes to one exchange at most. -/
theorem Drawn.step {t : List Event} {d d' : Desk} {o : Op} {e : Option Event} (h : Drawn t d.turn)
    (hr : Rule d o e d') : Drawn (t ++ e.toList) d'.turn := by
  refine h.append ?_
  have keeps (r : List Bytes) : ([] ++ r).Sublist (r ++ []) := by
    rw [List.append_nil]
    exact .refl r
  cases hr with
  | idle | enter => exact keeps _
  | begin turn | refuse turn =>
    rw [turn]
    exact .slnil
  | ask turn | fail turn | timeout turn | vain turn | dropped turn =>
    rw [turn]
    exact keeps _
  | take turn | drop turn =>
    rw [turn]
    exact .refl _
  | miss ticket bs => exact List.sublist_append_left _ _
  | serve turn =>
    rw [turn]
    exact .refl _
  | giveUp turn => exact List.nil_sublist _

/-- **Every response serves one exchange at most.** -/
theorem responses_sublist (os : List Op) :
    ((settled (trace {} os)).filterMap Settled.response?).Sublist (answers (trace {} os)) := by
  have hd : Drawn ([] ++ trace {} os) (after {} os).turn :=
    run_induction (P := fun t d => Drawn t d.turn) (t := []) sound_start .slnil os
      fun _ _ _ _ _ _ _ hr h => h.step hr
  exact (List.sublist_append_left _ _).trans hd

/-! ## Tickets -/

theorem Sound.ticket_eq {d : Desk} (h : d.Sound) {k : Nat} (hk : d.ticket = some k) :
    ∃ x p, d.turn = some ⟨x, p, .nothing⟩ ∧ x.ticket = k := by
  rcases h.cases with ⟨x, p, ht⟩ | ⟨-, hn⟩
  · rw [h, ht] at hk
    exact ⟨x, p, ht, Option.some.inj hk⟩
  · rw [hn] at hk
    cases hk

/-- **An exchange that ends removes no ticket but its own.** -/
theorem Sound.ticket_leave {d : Desk} (h : d.Sound) {s : Settled} (hs : d.leave.1 = some s) {k : Nat}
    (hk : d.ticket = some k) : k = s.exchange.ticket := by
  obtain ⟨x, p, ht, rfl⟩ := h.ticket_eq hk
  unfold leave at hs
  rw [ht] at hs
  cases p with
  | failing e =>
    cases hs
    rfl
  | installed | sent => cases hs

/-! ## The end of the session -/

/-- The session is over: it lets no turn begin. -/
def Op.Over : Op → Prop
  | .start closed => closed = true
  | _ => True

/-- What has been seen since the session is over and the ticket was removed: no ticket is installed,
and but for the exchange whose turn it was, all end by the end of the session. -/
structure Dropped (last : Option Exchange) (t : List Event) (d : Desk) : Prop where
  ticket : d.ticket = none
  turn : ∀ u, d.turn = some u → last = some u.exchange
  settled : ∀ s ∈ settled t, s.result = .error .closed ∨ last = some s.exchange

theorem Dropped.start {d : Desk} (h : d.ticket = none) :
    Dropped (d.turn.map Turn.exchange) [] d where
  ticket := h
  turn u hu := by rw [hu]; rfl
  settled := nofun

theorem Dropped.step {last : Option Exchange} {t : List Event} {d d' : Desk} {o : Op}
    {e : Option Event} (h : Dropped last t d) (hd : d.Sound) (ho : o.Over) (hr : Rule d o e d') :
    Dropped last (t ++ e.toList) d' := by
  obtain ⟨hk, ht, hs⟩ := h
  have keeps {u : List Event} (hu : Desk.settled u = []) :
      ∀ s ∈ Desk.settled (t ++ u), s.result = .error .closed ∨ last = some s.exchange := by
    rwa [settled_append, hu, List.append_nil]
  have ends {r : Settled} (hr : r.result = .error .closed ∨ last = some r.exchange) :
      ∀ s ∈ Desk.settled (t ++ [.settled r]), s.result = .error .closed ∨ last = some s.exchange := by
    intro s hm
    rw [settled_append] at hm
    rcases List.mem_append.1 hm with hm | hm
    · exact hs s hm
    · obtain rfl := List.mem_singleton.1 hm
      exact hr
  -- nothing can come back in the turn any more
  have idle {x : Exchange} {p : Progress} : d.turn ≠ some ⟨x, p, .nothing⟩ := by
    intro hx
    rw [Sound, hk, hx] at hd
    cases hd
  cases hr with
  | idle | enter | miss => exact ⟨hk, ht, keeps rfl⟩
  | begin => cases ho
  | refuse => exact ⟨hk, ht, ends (.inl rfl)⟩
  | ask turn | fail turn | timeout turn | vain turn | dropped turn =>
    have hx := ht _ turn
    refine ⟨hk, fun u hu => ?_, keeps rfl⟩
    cases hu
    exact hx
  | take turn | drop turn => exact absurd turn idle
  | serve turn => exact ⟨hk, fun u hu => absurd hu (Option.some_ne_none u).symm, ends (.inr (ht _ turn))⟩
  | giveUp turn => exact ⟨rfl, fun u hu => absurd hu (Option.some_ne_none u).symm, ends (.inr (ht _ turn))⟩

/-- **Once the session is over and the ticket was removed, none is installed again**, and but for the
exchange whose turn it was, all end by the end of the session. -/
theorem dropped_after {d : Desk} (hd : d.Sound) (hk : d.ticket = none) {os : List Op}
    (ho : ∀ o ∈ os, o.Over) : Dropped (d.turn.map Turn.exchange) (d.trace os) (d.after os) :=
  run_induction (t := []) hd (.start hk) os fun o hm _ _ _ _ hd hr h => h.step hd (ho o hm) hr

theorem exchange_clear (d : Desk) : d.clear.turn.map Turn.exchange = d.turn.map Turn.exchange := by
  obtain ⟨issued, waiting, _ | t, _ | k⟩ := d
  · rfl
  · rfl
  · rfl
  · simp only [clear, redeem, give, Option.map_some]
    split <;> rfl

/-- Once the session is over, the first exchange that waits ends instead of getting its turn. -/
theorem waiting_startTurn {d : Desk} (h : d.turn = none) :
    (d.startTurn true).2.waiting = d.waiting.tail := by
  obtain ⟨issued, _ | ⟨x, rest⟩, turn, ticket⟩ := d
  · cases turn <;> rfl
  · cases h
    rfl

/-- When its request went out or failed to, and something has come back, a turn comes to its end. -/
theorem turn_leave_expire_leave {d : Desk}
    (h : ∀ x p rc, d.turn = some ⟨x, p, rc⟩ → p ≠ .installed ∧ rc ≠ .nothing)
    (wait : Nat → Pacer.Wait) :
    (d.leave.2.expire wait).leave.2.turn = none ∧
      (d.leave.2.expire wait).leave.2.waiting = d.waiting := by
  obtain ⟨issued, waiting, _ | ⟨x, p, rc⟩, ticket⟩ := d
  · exact ⟨rfl, rfl⟩
  · obtain ⟨hp, hr⟩ := h x p rc rfl
    cases p with
    | installed => exact absurd rfl hp
    | failing e => exact ⟨rfl, rfl⟩
    | sent deadline =>
      cases rc with
      | nothing => exact absurd rfl hr
      | response bs => exact ⟨rfl, rfl⟩
      | dropped => exact ⟨rfl, rfl⟩

end Desk
end Seph
