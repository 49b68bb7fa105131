import Seph.Proofs.Bridge.Shutdown
import Seph.Proofs.Link.Lengths
import Seph.Proofs.Session.Moves

/-!
# The lengths of responses in a run

The firmware's packets are those that can be taken off a stream. So a response that comes of one, or of
several, has at most as many bytes as two bytes can tell (`length_of_mem_answers`), and so has a response
that an exchange ends with (`length_of_ended`).
-/

namespace Seph

open Apdu (maxLength)

namespace Desk

/-- The response that an operation brings. -/
def Op.response? : Op → Option Bytes
  | .deliver bs => some bs
  | _ => none

theorem answers_step (d : Desk) (o : Op) : answers (d.step o).1.toList = o.response?.toList := by
  cases o with
  | start closed =>
    simp only [step]
    split
    · rfl
    · cases d.upNext? <;> rfl
  | ask r =>
    simp only [step]
    split <;> rfl
  | leave =>
    simp only [step]
    cases d.leave.1 <;> rfl
  | enter | deliver | clear | expire | lapse => rfl

theorem answers_trace (d : Desk) (os : List Op) : answers (d.trace os) = os.filterMap Op.response? := by
  induction os generalizing d with
  | nil => rfl
  | cons o os ih =>
    rw [trace_cons, answers_append, answers_step, ih, List.filterMap_cons]
    cases o.response? <;> rfl

end Desk

namespace Bridge

variable {b : Bridge} {m : Move} {ms : List Move}

theorem fits_link_move (h : b.engine.link.Fits) (m : Move) : (b.move m).engine.link.Fits :=
  link_move (fun hl ht => ht.fits hl) (fun hl apdu => hl.send apdu) (fun hl => hl.setOutbox []) h m

theorem length_of_mem_responses (h : b.engine.link.Fits) {p : Packet}
    (hp : p.payload.length ≤ Packet.maxPayload) : ∀ r ∈ b.responses p, r.length ≤ maxLength := by
  intro r hr
  obtain ⟨o, ho, hr⟩ := List.mem_filterMap.1 hr
  cases o with
  | apdu bs =>
    cases hr
    have hm : .apdu r ∈ b.outputs p := (carried_prefix_outputs _ _).subset ho
    unfold outputs at hm
    split at hm
    · rename_i outs hs
      rcases Engine.taken_of_apdu hs hm with ht | ht
      · exact Link.length_respond h hp ht
      · exact Link.length_prepare h ht
    · cases hm
  | event | reply | statusReceived | text | action | screen | exit => cases hr

theorem length_of_mem_calls (h : b.engine.link.Fits) (hm : m.Fits) :
    ∀ r ∈ (b.calls m).filterMap Desk.Op.response?, r.length ≤ maxLength := by
  intro r hr
  cases m with
  | dispatch p =>
    obtain ⟨o, ho, hr⟩ := List.mem_filterMap.1 hr
    obtain ⟨r', hr', rfl⟩ := List.mem_map.1 ho
    cases hr
    exact length_of_mem_responses h hm r hr'
  | transmit =>
    simp only [calls, askCalls] at hr
    split at hr <;> cases hr
  | clear =>
    simp only [calls] at hr
    split at hr <;> cases hr
  | button | touch | note | setRules | listen | requestTick | forceTick | pause | resume | exchange
    | startTurn | leave | expire | lapse | send | close => cases hr

/-- **Every response that comes has a length of two bytes.** -/
theorem length_of_mem_answers (h : b.engine.link.Fits) (hm : ∀ m ∈ ms, m.Fits) :
    ∀ r ∈ b.answers ms, r.length ≤ maxLength := by
  induction ms generalizing b with
  | nil => exact nofun
  | cons m ms ih =>
    obtain ⟨hm, hms⟩ := List.forall_mem_cons.1 hm
    intro r hr
    rw [answers, exchanges_cons, Desk.answers_append, Desk.answers_trace] at hr
    rcases List.mem_append.1 hr with hr | hr
    · exact length_of_mem_calls h hm r hr
    · exact ih (fits_link_move h m) hms r hr

/-- **So has a response that an exchange ends with.** -/
theorem length_of_ended (hb : b.IsNew) (hm : ∀ m ∈ ms, m.Fits) {x : Exchange} {r : Bytes}
    (h : ⟨x, .ok r⟩ ∈ (b.run ms).ended) : r.length ≤ maxLength := by
  have hl : b.engine.link.Fits := by
    obtain ⟨k, hk⟩ := hb.link
    rw [hk]
    exact Link.fits_new k
  have hr : r ∈ (b.run ms).ended.filterMap Settled.response? := List.mem_filterMap.2 ⟨_, h, rfl⟩
  exact length_of_mem_answers hl hm r ((responses_of_ended hb ms).subset hr)

end Bridge
end Seph
