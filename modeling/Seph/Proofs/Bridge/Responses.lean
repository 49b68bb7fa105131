import Seph.Proofs.Bridge.Requests

/-!
# Responses and requests

The firmware answers the requests that it receives, each once and in order (`Answering`). Responses do
not say what they answer, so an exchange gets the answer to the oldest request that had none when its
turn began (`response_of_oldest_unanswered`). That is its own if every request before it had been
answered by then, and nothing but a timeout leaves a request without an answer. After a timeout a late
response goes to the next exchange (`late_response_to_next_exchange`).
-/

namespace Seph.Bridge

/-! ## The firmware -/

/-- The responses that a run brings, in order. -/
def answers (b : Bridge) (ms : List Move) : List Bytes := Desk.answers (b.exchanges ms)

/-- The number of requests that have come whole when so many packets have come. -/
def whole : List (List Packet) → List Packet → Nat
  | [], _ => 0
  | r :: rs, ps => if r.isPrefixOf ps then whole rs (ps.drop r.length) + 1 else 0

/-- The number of requests that the firmware has received in a run. -/
def received (b : Bridge) (ms : List Move) : Nat :=
  whole ((b.asked ms).map b.packets) ((b.run ms).written.filter Packet.carriesApdu)

theorem whole_le (rs : List (List Packet)) (ps : List Packet) : whole rs ps ≤ rs.length := by
  induction rs generalizing ps with
  | nil => exact Nat.le_refl 0
  | cons r rs ih =>
    unfold whole
    split
    · exact Nat.succ_le_succ (ih _)
    · exact Nat.zero_le _

theorem received_le (b : Bridge) (ms : List Move) : b.received ms ≤ (b.asked ms).length := by
  have h := whole_le ((b.asked ms).map b.packets) ((b.run ms).written.filter Packet.carriesApdu)
  rwa [List.length_map] at h

/-- The responses of a run are the answers to the first requests, and answer requests that have been
received. -/
def Answered (b : Bridge) (reply : Nat → Bytes) (ms : List Move) : Prop :=
  (b.answers ms).length ≤ b.received ms ∧
    b.answers ms = (List.range (b.answers ms).length).map reply

/-- Throughout a run the firmware answers the requests that it receives, each once and in order. -/
def Answering (b : Bridge) (reply : Nat → Bytes) (ms : List Move) : Prop :=
  ∀ pre, pre <+: ms → b.Answered reply pre

instance (b : Bridge) (reply : Nat → Bytes) (ms : List Move) : Decidable (b.Answered reply ms) :=
  inferInstanceAs (Decidable (_ ∧ _))

theorem answering_of_take {b : Bridge} {reply : Nat → Bytes} {ms : List Move}
    (h : ∀ i ≤ ms.length, b.Answered reply (ms.take i)) : b.Answering reply ms := by
  intro pre hp
  rw [List.prefix_iff_eq_take.1 hp]
  exact h _ hp.length_le

instance {ε α : Type} [DecidableEq ε] [DecidableEq α] : DecidableEq (Except ε α)
  | .ok a, .ok b => decidable_of_iff (a = b) ⟨congrArg _, Except.ok.inj⟩
  | .error a, .error b => decidable_of_iff (a = b) ⟨congrArg _, Except.error.inj⟩
  | .ok _, .error _ => isFalse nofun
  | .error _, .ok _ => isFalse nofun

deriving instance DecidableEq for Settled

/-! ## The beginning of a turn -/

/-- An exchange gets its turn by this move. -/
structure Begins (b : Bridge) (m : Move) (x : Exchange) : Prop where
  move : m = .startTurn
  running : b.pacer.ticks.closed = false
  idle : b.desk.turn = none
  turn : (b.move m).desk.turn = some ⟨x, .installed, .nothing⟩
  trace : b.desk.trace (b.calls m) = [.begun x]

theorem begins_startTurn {b : Bridge} {x : Exchange}
    (h : .begun x ∈ b.desk.trace (b.calls .startTurn)) : b.Begins .startTurn x := by
  have hr := Desk.start_rule b.desk b.pacer.ticks.closed
  have hd : (b.move .startTurn).desk = (b.desk.step (.start b.pacer.ticks.closed)).2 :=
    desk_move b .startTurn
  have ht : b.desk.trace (b.calls .startTurn) =
      (b.desk.step (.start b.pacer.ticks.closed)).1.toList := List.append_nil _
  rw [ht] at h
  generalize (b.desk.step (.start b.pacer.ticks.closed)).1 = e at hr ht h
  generalize (b.desk.step (.start b.pacer.ticks.closed)).2 = d at hr hd
  generalize hc : b.pacer.ticks.closed = c at hr
  cases hr with
  | idle | timeout | vain => cases h
  | refuse => cases List.mem_singleton.1 h
  | begin turn waiting =>
    cases List.mem_singleton.1 h
    exact ⟨rfl, hc, turn, by rw [hd], ht⟩

theorem begins_of_begun {b : Bridge} {m : Move} {x : Exchange}
    (h : .begun x ∈ b.desk.trace (b.calls m)) : b.Begins m x := by
  cases m with
  | startTurn => exact begins_startTurn h
  | leave =>
    simp only [calls, Desk.trace_cons, Desk.trace_nil, List.append_nil, Desk.step] at h
    cases hl : b.desk.leave.1 with
    | none => rw [hl] at h; cases h
    | some s => rw [hl] at h; cases List.mem_singleton.1 h
  | transmit =>
    simp only [calls, askCalls] at h
    split at h
    · rename_i y rc ht
      simp only [Desk.trace_cons, Desk.trace_nil, List.append_nil, Desk.step, ht] at h
      cases hr : b.attempt y with
      | ok deadline => rw [hr] at h; cases List.mem_singleton.1 h
      | error e => rw [hr] at h; cases h
    · cases h
  | dispatch p =>
    simp only [calls, Desk.trace_delivers] at h
    obtain ⟨r, -, hr⟩ := List.mem_map.1 h
    cases hr
  | clear =>
    simp only [calls] at h
    split at h <;> cases h
  | button | touch | note | setRules | listen | requestTick | forceTick | pause | resume | exchange
    | expire | lapse | send | close => cases h

theorem split_of_begun {b : Bridge} {ms : List Move} {t u : List Desk.Event} {x : Exchange}
    (h : b.exchanges ms = t ++ .begun x :: u) :
    ∃ pre post, ms = pre ++ .startTurn :: post ∧ b.exchanges pre = t ∧
      (b.run pre).Begins .startTurn x := by
  induction ms generalizing b t with
  | nil =>
    have := congrArg List.length h
    simp [exchanges, runCalls] at this
  | cons m ms ih =>
    rw [exchanges_cons] at h
    rcases List.append_eq_append_iff.1 h with ⟨v, rfl, hv⟩ | ⟨v, hm, hv⟩
    · obtain ⟨pre, post, rfl, hp, hb⟩ := ih hv
      exact ⟨m :: pre, post, rfl, by rw [exchanges_cons, hp], hb⟩
    · cases v with
      | nil =>
        obtain ⟨pre, post, rfl, hp, hb⟩ := ih (t := []) hv.symm
        refine ⟨m :: pre, post, rfl, ?_, hb⟩
        rw [exchanges_cons, hp, hm, List.append_nil, List.append_nil]
      | cons e v =>
        obtain ⟨rfl, -⟩ := List.cons.inj hv
        have hb : b.Begins m x := begins_of_begun (by rw [hm]; simp)
        obtain rfl := hb.move
        have ht : t = [] := by
          rw [hb.trace] at hm
          cases t with
          | nil => rfl
          | cons e t =>
            have := congrArg List.length hm
            simp at this
        exact ⟨[], ms, rfl, ht.symm, hb⟩

/-! ## Who gets what -/

theorem ended_new {b : Bridge} (hb : b.IsNew) (ms : List Move) :
    (b.run ms).ended = Desk.settled (b.exchanges ms) := by
  rw [ended_run, ended, hb.notices]
  rfl

/-- An exchange that ends with a response had its turn, and sent the next request in it and got the
next response. -/
theorem turn_of_ended {b : Bridge} (hb : b.IsNew) {ms : List Move} {x : Exchange} {r : Bytes}
    (h : ⟨x, .ok r⟩ ∈ (b.run ms).ended) :
    ∃ pre post, ms = pre ++ .startTurn :: post ∧ (b.run pre).Begins .startTurn x ∧
      (b.asked ms)[(b.asked pre).length]? = some x ∧
      (b.answers ms)[(b.answers pre).length]? = some r := by
  have hd : b.exchanges ms = Desk.trace {} (b.runCalls ms) := by rw [exchanges, hb.desk]
  rw [ended_new hb, Desk.mem_settled, hd] at h
  obtain ⟨t, u, ht, ha, hr⟩ := Desk.response_of_settled h
  rw [← hd] at ht ha hr
  obtain ⟨pre, post, hms, rfl, hx⟩ := split_of_begun ht
  exact ⟨pre, post, hms, hx, ha, hr⟩

/-- While the bridge is not closed and no exchange is in its turn, a request without an answer was left
by an exchange that ended because time was up. -/
theorem timeout_of_unanswered {b : Bridge} (hb : b.IsNew) {ms : List Move}
    (running : (b.run ms).pacer.ticks.closed = false) (idle : (b.run ms).desk.turn = none)
    (h : (b.answers ms).length < (b.asked ms).length) :
    ∃ y, ⟨y, .error .timeout⟩ ∈ (b.run ms).ended := by
  have hd : b.exchanges ms = Desk.trace {} (b.runCalls ms) := by rw [exchanges, hb.desk]
  rw [desk_run, hb.desk] at idle
  have hl := Desk.length_asked_le (open_runCalls running).2 idle
  rw [← hd] at hl
  have hc : 0 < (b.exchanges ms).countP Desk.Event.isTimeout := by
    unfold answers asked at h
    omega
  obtain ⟨e, he, ht⟩ := List.countP_pos_iff.1 hc
  unfold Desk.Event.isTimeout at ht
  split at ht
  · rename_i y
    exact ⟨y, by rw [ended_new hb, Desk.mem_settled]; exact he⟩
  · cases ht

theorem Answered.reply_of_getElem? {b : Bridge} {reply : Nat → Bytes} {ms : List Move}
    (h : b.Answered reply ms) {i : Nat} {r : Bytes} (hr : (b.answers ms)[i]? = some r) :
    r = reply i := by
  rw [h.2, List.getElem?_map] at hr
  obtain ⟨j, hj, rfl⟩ := Option.map_eq_some_iff.1 hr
  obtain ⟨-, rfl⟩ := List.getElem?_eq_some_iff.1 hj
  rw [List.getElem_range]

/-- **An exchange gets the answer to the oldest request that had none when its turn began.** The
packets of the requests reach the firmware in the order of the requests. If the firmware answers what
it receives, each request once and in order, and an exchange ends with a response, then its request was
the first one to be sent in its turn and its response the first one to come in its turn. So the
response is the answer to its own request if and only if no request was without an answer when its turn
began. One can be without an answer then only if an exchange before ended because time was up. -/
theorem response_of_oldest_unanswered {files : String → Option String} {o : Options} {b : Bridge}
    (options : ofOptions files o = .ok b) {reply : Nat → Bytes} {ms : List Move}
    (firmware : b.Answering reply ms) :
    (b.run ms).written.filter Packet.carriesApdu <+: (b.asked ms).flatMap b.packets ∧
    ∀ x r, ⟨x, .ok r⟩ ∈ (b.run ms).ended →
      ∃ pre post, ms = pre ++ .startTurn :: post ∧ (b.run pre).desk.turn = none ∧
        (b.run (pre ++ [.startTurn])).desk.turn = some ⟨x, .installed, .nothing⟩ ∧
        let own := (b.asked pre).length
        let oldest := (b.answers pre).length
        (b.asked ms)[own]? = some x ∧ oldest ≤ own ∧ r = reply oldest ∧
          (oldest = own → r = reply own) ∧
          ((∀ i j, reply i = reply j → i = j) → r = reply own → oldest = own) ∧
          (oldest ≠ own → ∃ y, ⟨y, .error .timeout⟩ ∈ (b.run pre).ended) := by
  have hb := isNew_of_ofOptions options
  refine ⟨⟨_, written_requests hb ms⟩, fun x r hx => ?_⟩
  obtain ⟨pre, post, hms, begins, hask, hresp⟩ := turn_of_ended hb hx
  have hr : r = reply (b.answers pre).length :=
    (firmware ms (List.prefix_refl ms)).reply_of_getElem? hresp
  have hle : (b.answers pre).length ≤ (b.asked pre).length :=
    Nat.le_trans (firmware pre ⟨_, hms.symm⟩).1 (received_le b pre)
  refine ⟨pre, post, hms, begins.idle, by rw [run_concat]; exact begins.turn, hask, hle, hr, ?_, ?_, ?_⟩
  · intro h
    rw [hr, h]
  · intro injective h
    exact injective _ _ (hr.symm.trans h)
  · intro h
    exact timeout_of_unanswered hb begins.running begins.idle (by omega)

/-- Two exchanges after each other, each of which gets the answer to its own request. -/
theorem response_to_own_request :
    let b : Bridge := { engine := Engine.new .nanoSP .nfc none }
    let first : Exchange := ⟨0, .call "a", [0x80, 0x01], some 1⟩
    let second : Exchange := ⟨1, .call "b", [0x80, 0x02], none⟩
    let reply : Nat → Bytes := fun i => if i = 0 then [0x61, 0xaa] else [0x61, 0xbb]
    let status : Packet := ⟨.generalStatus, [0, 0]⟩
    let ms : List Move := [.exchange first.caller first.apdu first.limit,
      .exchange second.caller second.apdu second.limit, .startTurn, .transmit, .dispatch status, .send,
      .dispatch ⟨.rapdu, [0, 0, 5, 0, 0, 0, 2, 0x61, 0xaa]⟩, .leave, .startTurn, .transmit,
      .dispatch status, .send, .dispatch ⟨.rapdu, [0, 0, 5, 0, 0, 0, 2, 0x61, 0xbb]⟩, .leave]
    ofOptions (fun _ => none) { link := .nfc } = .ok b ∧ b.Answering reply ms ∧
      (b.run ms).ended = [⟨first, .ok (reply 0)⟩, ⟨second, .ok (reply 1)⟩] ∧
      ∃ pre post, ms = pre ++ .startTurn :: post ∧
        (b.asked ms)[(b.asked pre).length]? = some second ∧ reply 1 = reply (b.answers pre).length := by
  intro b first second reply status ms
  have ho : ofOptions (fun _ => none) { link := .nfc } = .ok b := rfl
  have hf : b.Answering reply ms := answering_of_take (by decide +kernel)
  have he : (b.run ms).ended = [⟨first, .ok (reply 0)⟩, ⟨second, .ok (reply 1)⟩] := by decide +kernel
  obtain ⟨pre, post, hm, -, -, ha, -, hr, -⟩ :=
    (response_of_oldest_unanswered ho hf).2 second (reply 1) (by rw [he]; simp)
  exact ⟨ho, hf, he, pre, post, hm, ha, hr⟩

/-- **A late response goes to the next exchange.** The first exchange ends because time is up before
the firmware answers; the second sends its request, the firmware answers both, each once and in order,
and the second exchange ends with the answer to the first request. -/
theorem late_response_to_next_exchange :
    let b : Bridge := { engine := Engine.new .nanoSP .nfc none }
    let first : Exchange := ⟨0, .call "a", [0x80, 0x01], some 1⟩
    let second : Exchange := ⟨1, .call "b", [0x80, 0x02], none⟩
    let reply : Nat → Bytes := fun i => if i = 0 then [0x61, 0xaa] else [0x61, 0xbb]
    let status : Packet := ⟨.generalStatus, [0, 0]⟩
    let ms : List Move := [.exchange first.caller first.apdu first.limit, .startTurn, .transmit,
      .dispatch status, .send, .requestTick, .dispatch status, .send, .dispatch status, .expire, .leave,
      .exchange second.caller second.apdu second.limit, .startTurn, .transmit, .send,
      .dispatch ⟨.rapdu, [0, 0, 5, 0, 0, 0, 2, 0x61, 0xaa]⟩, .leave,
      .dispatch ⟨.rapdu, [0, 0, 5, 0, 0, 0, 2, 0x61, 0xbb]⟩]
    ofOptions (fun _ => none) { link := .nfc } = .ok b ∧ b.Answering reply ms ∧
      b.answers ms = [reply 0, reply 1] ∧ b.asked ms = [first, second] ∧
      (b.run ms).ended = [⟨first, .error .timeout⟩, ⟨second, .ok (reply 0)⟩] ∧ reply 0 ≠ reply 1 := by
  intro b first second reply status ms
  refine ⟨rfl, answering_of_take ?_, ?_, ?_, ?_, ?_⟩
  · decide +kernel
  · decide +kernel
  · decide +kernel
  · decide +kernel
  · decide

end Seph.Bridge
