import Seph.Exchange.Basic

/-!
# Runs of exchanges

A run is a list of operations on the exchanges, in the order in which they take effect, and leaves a
list of events behind (`trace`). A ticket is installed exactly as long as the exchange whose turn it is
has got nothing back (`Sound`); so what an operation can do is said without tickets, in `Rule`.

1. `served`: an exchange that ends with a response has sent its own request in its turn, and the
   response is the first that came in its turn.
2. `asked_le`: until the session closes, there are no more requests than responses and timeouts,
   except for the one that waits.
-/

namespace Seph

/-- The ticket that is installed while an exchange has got nothing back. -/
def Turn.ticket? (t : Turn) : Option Nat :=
  match t.receipt with
  | .nothing => some t.exchange.ticket
  | .response _ | .dropped => none

namespace Desk

/-- When time is up although the response has come, the exchange may fail all the same. -/
def lapse (d : Desk) (wait : Nat → Pacer.Wait) : Desk :=
  match d.turn with
  | some ⟨_, .sent (some deadline), .response _⟩ =>
    match wait deadline with
    | .over => d.advance (.failing .timeout)
    | .vain => d.advance (.failing .closed)
    | .on => d
  | _ => d

/-- An operation on the exchanges. -/
inductive Op
  | enter (caller : Caller) (apdu : Bytes) (limit : Option Nat)
  | start (closed : Bool)
  /-- The request of the exchange whose turn it is goes out, with a deadline, or fails to. -/
  | ask (r : Except BridgeError (Option Nat))
  | deliver (response : Bytes)
  | clear
  | leave
  | expire (wait : Nat → Pacer.Wait)
  | lapse (wait : Nat → Pacer.Wait)

/-- Something that happens to exchanges. -/
inductive Event
  /-- An exchange gets its turn. -/
  | begun (x : Exchange)
  /-- The request of an exchange goes out. -/
  | asked (x : Exchange)
  /-- A response comes, whoever gets it. -/
  | answered (response : Bytes)
  | settled (s : Settled)

/-- The exchange that may get its turn. -/
def upNext? (d : Desk) : Option Exchange :=
  match d.turn with
  | none => d.waiting.head?
  | some _ => none

def step (d : Desk) : Op → Option Event × Desk
  | .enter caller apdu limit => (none, d.enter caller apdu limit)
  | .start closed =>
    match d.startTurn closed with
    | (some s, d') => (some (.settled s), d')
    | (none, d') => (d.upNext?.map .begun, d')
  | .ask r =>
    match d.turn, r with
    | some ⟨x, .installed, _⟩, .ok deadline => (some (.asked x), d.advance (.sent deadline))
    | some ⟨_, .installed, _⟩, .error e => (none, d.advance (.failing e))
    | _, _ => (none, d)
  | .deliver response => (some (.answered response), (d.deliver response).2)
  | .clear => (none, d.clear)
  | .leave => (d.leave.1.map .settled, d.leave.2)
  | .expire wait => (none, d.expire wait)
  | .lapse wait => (none, d.lapse wait)

def after (d : Desk) : List Op → Desk
  | [] => d
  | o :: os => after (d.step o).2 os

def trace (d : Desk) : List Op → List Event
  | [] => []
  | o :: os => (d.step o).1.toList ++ trace (d.step o).2 os

@[simp] theorem after_nil (d : Desk) : d.after [] = d := rfl

@[simp] theorem trace_nil (d : Desk) : d.trace [] = [] := rfl

@[simp] theorem after_cons (d : Desk) (o : Op) (os : List Op) :
    d.after (o :: os) = (d.step o).2.after os := rfl

@[simp] theorem trace_cons (d : Desk) (o : Op) (os : List Op) :
    d.trace (o :: os) = (d.step o).1.toList ++ (d.step o).2.trace os := rfl

theorem after_append (d : Desk) (os ps : List Op) : d.after (os ++ ps) = (d.after os).after ps := by
  induction os generalizing d with
  | nil => rfl
  | cons o os ih => exact ih _

theorem trace_append (d : Desk) (os ps : List Op) :
    d.trace (os ++ ps) = d.trace os ++ (d.after os).trace ps := by
  induction os generalizing d with
  | nil => rfl
  | cons o os ih => rw [List.cons_append, trace_cons, ih, trace_cons, List.append_assoc, after_cons]

/-! ## What an operation can do -/

/-- A ticket is installed exactly as long as nothing has come back for the exchange. -/
def Sound (d : Desk) : Prop := d.ticket = d.turn.bind Turn.ticket?

/-- The rules of the exchanges: an operation, what is seen of it, and the exchanges after it. -/
inductive Rule (d : Desk) : Op → Option Event → Desk → Prop
  | idle (o : Op) : Rule d o none d
  | enter (caller : Caller) (apdu : Bytes) (limit : Option Nat) :
    Rule d (.enter caller apdu limit) none (d.enter caller apdu limit)
  | begin {x : Exchange} {rest : List Exchange} (turn : d.turn = none)
      (waiting : d.waiting = x :: rest) :
    Rule d (.start false) (some (.begun x)) { d with
      waiting := rest, turn := some ⟨x, .installed, .nothing⟩, ticket := some x.ticket }
  | refuse {x : Exchange} {rest : List Exchange} (turn : d.turn = none)
      (waiting : d.waiting = x :: rest) :
    Rule d (.start true) (some (.settled ⟨x, .error .closed⟩)) { d with waiting := rest }
  | ask {x : Exchange} {rc : Receipt} (turn : d.turn = some ⟨x, .installed, rc⟩)
      (deadline : Option Nat) :
    Rule d (.ask (.ok deadline)) (some (.asked x)) { d with turn := some ⟨x, .sent deadline, rc⟩ }
  | fail {x : Exchange} {rc : Receipt} (turn : d.turn = some ⟨x, .installed, rc⟩) (e : BridgeError) :
    Rule d (.ask (.error e)) none { d with turn := some ⟨x, .failing e, rc⟩ }
  | take {x : Exchange} {p : Progress} (turn : d.turn = some ⟨x, p, .nothing⟩) (bs : Bytes) :
    Rule d (.deliver bs) (some (.answered bs))
      { d with turn := some ⟨x, p, .response bs⟩, ticket := none }
  | miss (ticket : d.turn.bind Turn.ticket? = none) (bs : Bytes) :
    Rule d (.deliver bs) (some (.answered bs)) d
  | drop {x : Exchange} {p : Progress} (turn : d.turn = some ⟨x, p, .nothing⟩) :
    Rule d .clear none { d with turn := some ⟨x, p, .dropped⟩, ticket := none }
  | timeout {x : Exchange} {deadline : Nat} {rc : Receipt} {wait : Nat → Pacer.Wait} {o : Op}
      (turn : d.turn = some ⟨x, .sent (some deadline), rc⟩) (done : wait deadline = .over)
      (op : o = .expire wait ∨ o = .lapse wait) :
    Rule d o none { d with turn := some ⟨x, .failing .timeout, rc⟩ }
  | vain {x : Exchange} {deadline : Nat} {rc : Receipt} {wait : Nat → Pacer.Wait} {o : Op}
      (turn : d.turn = some ⟨x, .sent (some deadline), rc⟩) (done : wait deadline = .vain)
      (op : o = .expire wait ∨ o = .lapse wait) :
    Rule d o none { d with turn := some ⟨x, .failing .closed, rc⟩ }
  | dropped {x : Exchange} {deadline : Option Nat} (turn : d.turn = some ⟨x, .sent deadline, .dropped⟩)
      (wait : Nat → Pacer.Wait) :
    Rule d (.expire wait) none { d with turn := some ⟨x, .failing .closed, .dropped⟩ }
  | serve {x : Exchange} {deadline : Option Nat} {bs : Bytes}
      (turn : d.turn = some ⟨x, .sent deadline, .response bs⟩) :
    Rule d .leave (some (.settled ⟨x, .ok bs⟩)) { d with turn := none }
  | giveUp {x : Exchange} {e : BridgeError} {rc : Receipt} (turn : d.turn = some ⟨x, .failing e, rc⟩) :
    Rule d .leave (some (.settled ⟨x, .error e⟩)) { d with turn := none, ticket := none }

theorem advance_of_turn {d : Desk} {x : Exchange} {p : Progress} {rc : Receipt}
    (ht : d.turn = some ⟨x, p, rc⟩) (q : Progress) :
    d.advance q = { d with turn := some ⟨x, q, rc⟩ } := by rw [advance, ht]; rfl

/-- While nothing has come back, what comes goes to the exchange whose turn it is. -/
theorem redeem_of_turn {d : Desk} (h : d.Sound) {x : Exchange} {p : Progress}
    (ht : d.turn = some ⟨x, p, .nothing⟩) (rc : Receipt) :
    d.redeem rc = { d with turn := some ⟨x, p, rc⟩, ticket := none } := by
  have hk : d.ticket = some x.ticket := by rw [h, ht]; rfl
  simp [redeem, hk, give, ht]

theorem redeem_of_none {d : Desk} (h : d.ticket = none) (rc : Receipt) : d.redeem rc = d := by
  rw [redeem, h]

/-- Either nothing has come back for the exchange whose turn it is, or no ticket is installed. -/
theorem Sound.cases {d : Desk} (h : d.Sound) :
    (∃ x p, d.turn = some ⟨x, p, .nothing⟩) ∨ d.turn.bind Turn.ticket? = none ∧ d.ticket = none := by
  rw [Sound] at h
  rw [h]
  obtain _ | ⟨x, p, _ | bs | _⟩ := d.turn
  · exact .inr ⟨rfl, rfl⟩
  · exact .inl ⟨x, p, rfl⟩
  · exact .inr ⟨rfl, rfl⟩
  · exact .inr ⟨rfl, rfl⟩

theorem start_rule (d : Desk) (closed : Bool) :
    Rule d (.start closed) (d.step (.start closed)).1 (d.step (.start closed)).2 := by
  cases ht : d.turn with
  | some t => simpa [step, startTurn, upNext?, ht] using Rule.idle (.start closed)
  | none =>
    cases hw : d.waiting with
    | nil => simpa [step, startTurn, upNext?, ht, hw] using Rule.idle (.start closed)
    | cons x rest =>
      cases closed with
      | true => simpa [step, startTurn, ht, hw] using Rule.refuse ht hw
      | false => simpa [step, startTurn, upNext?, ht, hw] using Rule.begin ht hw

theorem expire_rule (d : Desk) (wait : Nat → Pacer.Wait) :
    Rule d (.expire wait) none (d.expire wait) := by
  unfold expire
  split
  · rename_i x deadline ht
    rw [advance_of_turn ht]
    exact .dropped ht wait
  · rename_i x deadline ht
    split
    · rename_i hw
      rw [advance_of_turn ht]
      exact .timeout ht hw (.inl rfl)
    · rename_i hw
      rw [advance_of_turn ht]
      exact .vain ht hw (.inl rfl)
    · exact .idle _
  · exact .idle _

theorem lapse_rule (d : Desk) (wait : Nat → Pacer.Wait) :
    Rule d (.lapse wait) none (d.lapse wait) := by
  unfold lapse
  split
  · rename_i x deadline bs ht
    split
    · rename_i hw
      rw [advance_of_turn ht]
      exact .timeout ht hw (.inr rfl)
    · rename_i hw
      rw [advance_of_turn ht]
      exact .vain ht hw (.inr rfl)
    · exact .idle _
  · exact .idle _

theorem step_rule {d : Desk} (h : d.Sound) (o : Op) : Rule d o (d.step o).1 (d.step o).2 := by
  cases o with
  | enter caller apdu limit => exact .enter caller apdu limit
  | start closed => exact start_rule d closed
  | ask r =>
    by_cases ht : ∃ x rc, d.turn = some ⟨x, .installed, rc⟩
    · obtain ⟨x, rc, ht⟩ := ht
      cases r with
      | ok deadline => simpa [step, ht, advance_of_turn ht] using Rule.ask ht deadline
      | error e => simpa [step, ht, advance_of_turn ht] using Rule.fail ht e
    · simp only [step]
      split
      · rename_i x rc _ hx
        exact absurd ⟨x, rc, hx⟩ ht
      · rename_i x rc _ hx
        exact absurd ⟨x, rc, hx⟩ ht
      · exact .idle _
  | deliver bs =>
    simp only [step, deliver]
    rcases h.cases with ⟨x, p, ht⟩ | ⟨ht, hk⟩
    · rw [redeem_of_turn h ht]
      exact .take ht bs
    · rw [redeem_of_none hk]
      exact .miss ht bs
  | clear =>
    simp only [step, clear]
    rcases h.cases with ⟨x, p, ht⟩ | ⟨-, hk⟩
    · rw [redeem_of_turn h ht]
      exact .drop ht
    · rw [redeem_of_none hk]
      exact .idle _
  | leave =>
    simp only [step, leave]
    split
    · rename_i x e rc ht
      exact .giveUp ht
    · rename_i x deadline bs ht
      exact .serve ht
    · exact .idle _
  | expire wait => exact expire_rule d wait
  | lapse wait => exact lapse_rule d wait

theorem Rule.sound {d d' : Desk} {o : Op} {e : Option Event} (hr : Rule d o e d') (h : d.Sound) :
    d'.Sound := by
  cases hr with
  | idle | enter | miss => exact h
  | refuse turn waiting => exact h
  | begin | take | drop | giveUp => rfl
  | ask turn | fail turn | timeout turn | vain turn | dropped turn | serve turn =>
    rw [Sound, turn] at h
    exact h

theorem run_induction {P : List Event → Desk → Prop} {d : Desk} {t : List Event} (hd : d.Sound)
    (h : P t d) (os : List Op)
    (hr : ∀ o ∈ os, ∀ t d e d', d.Sound → Rule d o e d' → P t d → P (t ++ e.toList) d') :
    P (t ++ d.trace os) (d.after os) := by
  induction os generalizing d t with
  | nil => rwa [trace_nil, List.append_nil]
  | cons o os ih =>
    have ho := step_rule hd o
    rw [trace_cons, ← List.append_assoc]
    exact ih (ho.sound hd) (hr o List.mem_cons_self t d _ _ hd ho h)
      fun o hm => hr o (List.mem_cons_of_mem _ hm)

end Desk
end Seph
