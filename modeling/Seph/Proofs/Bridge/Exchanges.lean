import Seph.Proofs.Bridge.Run
import Seph.Proofs.Engine.Handling
import Seph.Proofs.Exchange.Response

/-!
# The exchanges of a bridge

On the exchanges each move of a bridge is a list of operations (`Bridge.calls`), so a run of the bridge
is a run of its exchanges (`desk_run`), and the exchanges that it ends are those that end there
(`ended_run`). As long as the bridge is not closed, the operations are those of an open session
(`open_runCalls`).
-/

namespace Seph

namespace Desk

theorem trace_delivers (d : Desk) (rs : List Bytes) :
    d.trace (rs.map .deliver) = rs.map .answered := by
  induction rs generalizing d with
  | nil => rfl
  | cons r rs ih => exact congrArg (Event.answered r :: ·) (ih _)

theorem settled_start (d : Desk) (closed : Bool) :
    settled (d.step (.start closed)).1.toList = (d.startTurn closed).1.toList := by
  simp only [step]
  generalize d.startTurn closed = r
  obtain ⟨_ | s, d'⟩ := r
  · dsimp only
    cases d.upNext? <;> rfl
  · rfl

theorem settled_leave (d : Desk) : settled (d.step .leave).1.toList = d.leave.1.toList := by
  simp only [step]
  cases d.leave.1 <;> rfl

end Desk

namespace Bridge

/-! ## What is carried out -/

/-- The outputs that are carried out: those before the first that is refused. -/
def carried (b : Bridge) : List Output → List Output
  | [] => []
  | o :: os =>
    match b.carryOut o with
    | .error _ => []
    | .ok b => o :: carried b os

theorem carried_prefix_outputs (b : Bridge) (os : List Output) : b.carried os <+: os := by
  induction os generalizing b with
  | nil => exact List.prefix_refl []
  | cons o os ih =>
    simp only [carried]
    split
    · exact List.nil_prefix
    · exact List.cons_prefix_cons.2 ⟨rfl, ih _⟩

theorem desk_carryOut {b b' : Bridge} {o : Output} (h : b.carryOut o = .ok b') :
    b'.desk = b.desk.after (o.response?.toList.map .deliver) := by
  cases o with
  | reply p =>
    rw [carryOut_reply] at h
    cases hr : b.pacer.reply p with
    | error e => rw [hr] at h; cases h
    | ok s => rw [hr] at h; cases h; rfl
  | statusReceived =>
    rw [carryOut_statusReceived] at h
    cases hr : b.pacer.statusReceived with
    | error e => rw [hr] at h; cases h
    | ok s => rw [hr] at h; cases h; rfl
  | apdu bs => cases h; exact desk_deliver b bs
  | action a => cases h; exact (perform_paced b a).2
  | event | text | screen | exit => cases h; rfl

theorem desk_carryOutAll (b : Bridge) (os : List Output) :
    (b.carryOutAll os).2.desk =
      b.desk.after (((b.carried os).filterMap Output.response?).map .deliver) := by
  induction os generalizing b with
  | nil => rfl
  | cons o os ih =>
    simp only [carryOutAll, carried]
    cases h : b.carryOut o with
    | error e => rfl
    | ok b' =>
      dsimp only
      rw [ih, desk_carryOut h, ← Desk.after_append, ← List.map_append]
      rw [List.filterMap_cons]
      cases o.response? <;> rfl

/-- The responses that a packet brings. -/
def responses (b : Bridge) (p : Packet) : List Bytes :=
  ((b.heed p).carried (b.outputs p)).filterMap Output.response?

/-! ## Operations -/

/-- What comes of a request that is sent now: a deadline or an error. -/
def attempt (b : Bridge) (x : Exchange) : Except BridgeError (Option Nat) :=
  match (b.engine.link.send x.apdu).1 with
  | .ok _ => .ok (x.limit.map (b.pacer.ticks.count + ·))
  | .error e => .error (.engine (.link e))

/-- The operations of a transmission on the exchanges. -/
def askCalls (b : Bridge) : List Desk.Op :=
  match b.desk.turn with
  | some ⟨x, .installed, _⟩ => [.ask (b.attempt x)]
  | _ => []

theorem askCalls_idle {b : Bridge} (hi : ∀ x rc, b.desk.turn ≠ some ⟨x, .installed, rc⟩) :
    b.askCalls = [] := by
  unfold askCalls
  split
  · rename_i x rc h
    exact absurd h (hi x rc)
  · rfl

/-- The operations of a move on the exchanges. -/
def calls (b : Bridge) : Move → List Desk.Op
  | .exchange caller apdu limit => [.enter caller apdu limit]
  | .startTurn => [.start b.pacer.ticks.closed]
  | .transmit => b.askCalls
  | .leave => [.leave]
  | .expire => [.expire b.pacer.waitCount]
  | .lapse => [.lapse b.pacer.waitCount]
  | .dispatch p => (b.responses p).map .deliver
  | .clear => if b.pacer.ticks.closed then [.clear] else []
  | .button _ _ | .touch _ | .note _ _ _ | .setRules _ | .listen | .requestTick | .forceTick | .pause
  | .resume | .send | .close => []

/-- **On the exchanges a move is its operations.** -/
theorem desk_move (b : Bridge) (m : Move) : (b.move m).desk = b.desk.after (b.calls m) := by
  cases m with
  | touch t => exact (move_touch b t).2
  | startTurn =>
    refine (conclude_frame b _).2.2.1.trans ?_
    simp only [calls, Desk.after_cons, Desk.after_nil, Desk.step]
    generalize b.desk.startTurn b.pacer.ticks.closed = r
    obtain ⟨_ | s, d⟩ := r <;> rfl
  | leave => exact (conclude_frame b _).2.2.1
  | transmit =>
    simp only [move, calls]
    rcases transmit_cases b with ⟨x, rc, u, ht, hs⟩ | ⟨x, rc, e, ht, hs⟩ | hi
    · rw [transmit_ok ht hs, askCalls, ht]
      simp [attempt, hs, Desk.step, ht]
    · rw [transmit_error ht hs, askCalls, ht]
      simp [attempt, hs, Desk.step, ht]
    · rw [transmit_idle hi, askCalls_idle hi]
      rfl
  | dispatch p =>
    simp only [move, calls, dispatch_snd]
    exact desk_carryOutAll _ _
  | send => exact (move_send b).desk
  | clear =>
    simp only [move, calls]
    split <;> rfl
  | button | note | setRules | listen | requestTick | forceTick | pause | resume | exchange | expire
    | lapse | close => rfl

theorem ends_eq (b : Bridge) (m : Move) :
    b.ends m = Desk.settled (b.desk.trace (b.calls m)) := by
  cases m with
  | startTurn =>
    simp only [ends, calls, Desk.trace_cons, Desk.trace_nil, List.append_nil]
    exact (Desk.settled_start _ _).symm
  | leave =>
    simp only [ends, calls, Desk.trace_cons, Desk.trace_nil, List.append_nil]
    exact (Desk.settled_leave _).symm
  | transmit =>
    simp only [ends, calls, askCalls]
    split
    · rename_i x rc ht
      simp only [Desk.trace_cons, Desk.trace_nil, List.append_nil, Desk.step, ht]
      cases b.attempt x <;> rfl
    · rfl
  | dispatch p =>
    simp only [ends, calls, Desk.trace_delivers, Desk.settled]
    symm
    rw [List.filterMap_eq_nil_iff]
    intro e he
    obtain ⟨r, -, rfl⟩ := List.mem_map.1 he
    rfl
  | clear =>
    simp only [ends, calls]
    split <;> rfl
  | button | touch | note | setRules | listen | requestTick | forceTick | pause | resume | exchange
    | expire | lapse | send | close => rfl

/-! ## Runs -/

/-- The operations of a run on the exchanges. -/
def runCalls (b : Bridge) : List Move → List Desk.Op
  | [] => []
  | m :: ms => b.calls m ++ runCalls (b.move m) ms

/-- What happens to the exchanges in a run. -/
def exchanges (b : Bridge) (ms : List Move) : List Desk.Event := b.desk.trace (b.runCalls ms)

/-- A run of a bridge is a run of its exchanges. -/
theorem desk_run (b : Bridge) (ms : List Move) : (b.run ms).desk = b.desk.after (b.runCalls ms) := by
  induction ms generalizing b with
  | nil => rfl
  | cons m ms ih => rw [run_cons, ih, desk_move, runCalls, Desk.after_append]

theorem exchanges_cons (b : Bridge) (m : Move) (ms : List Move) :
    b.exchanges (m :: ms) = b.desk.trace (b.calls m) ++ (b.move m).exchanges ms := by
  rw [exchanges, runCalls, Desk.trace_append, exchanges, desk_move]

theorem ended_run (b : Bridge) (ms : List Move) :
    (b.run ms).ended = b.ended ++ Desk.settled (b.exchanges ms) := by
  induction ms generalizing b with
  | nil => exact (List.append_nil _).symm
  | cons m ms ih =>
    rw [run_cons, ih, (seen_move b m).2, ends_eq, exchanges_cons, Desk.settled_append,
      List.append_assoc]

/-! ## An open session -/

theorem closed_move {b : Bridge} {m : Move} (h : (b.move m).pacer.ticks.closed = false) :
    b.pacer.ticks.closed = false := by
  cases hc : b.pacer.ticks.closed with
  | false => rfl
  | true =>
    rw [pacer_move] at h
    rw [Pacer.after_induction (fun s e s' hr hs => (hr.closed hs).1) hc (b.ops m)] at h
    cases h

theorem waitCount_ne_vain {s : Pacer} (h : s.ticks.closed = false) (n : Nat) :
    s.waitCount n ≠ .vain := by
  unfold Pacer.waitCount Pacer.wait
  rw [h]
  split <;> simp

theorem open_calls {b : Bridge} {m : Move} (h : b.pacer.ticks.closed = false) :
    ∀ o ∈ b.calls m, o.Open := by
  intro o ho
  cases m with
  | exchange | leave => cases List.mem_singleton.1 ho; trivial
  | startTurn => cases List.mem_singleton.1 ho; exact h
  | expire | lapse => cases List.mem_singleton.1 ho; exact waitCount_ne_vain h
  | transmit =>
    simp only [calls, askCalls] at ho
    split at ho
    · cases List.mem_singleton.1 ho; trivial
    · cases ho
  | dispatch p =>
    obtain ⟨r, -, rfl⟩ := List.mem_map.1 ho
    trivial
  | clear =>
    simp only [calls, h] at ho
    cases ho
  | button | touch | note | setRules | listen | requestTick | forceTick | pause | resume | send
    | close => cases ho

theorem open_runCalls {b : Bridge} {ms : List Move} (h : (b.run ms).pacer.ticks.closed = false) :
    b.pacer.ticks.closed = false ∧ ∀ o ∈ b.runCalls ms, o.Open := by
  induction ms generalizing b with
  | nil => exact ⟨h, by simp [runCalls]⟩
  | cons m ms ih =>
    obtain ⟨hm, ho⟩ := ih h
    have hb := closed_move hm
    refine ⟨hb, fun o hr => ?_⟩
    rcases List.mem_append.1 hr with hr | hr
    · exact open_calls hb o hr
    · exact ho o hr

end Bridge
end Seph
