import Seph.Proofs.Bridge.Shutdown

/-!
# The bridge and one client

What a client of the APDU channel is sent (`Bridge.sentTo`), the responses of its exchanges that ended
(`responsesTo`) and its exchanges that are held (`heldOf`).

1. `answered_move`: the bridge by itself sends nothing to a client.
2. `Still.of_apart`: moves that have nothing to do with the client leave all three as they were.
3. `serves`: when exchanges go on, nothing is seen but the ends of exchanges, and these come off the front
   of those that are held.
-/

namespace Seph

/-- What goes to a client of a side channel, if something does. -/
def Notice.answered? : Notice → Option (String × Bytes)
  | .answered client bs => some (client, bs)
  | _ => none

namespace Bridge

/-- What a move sends to a client. -/
def Move.answered? : Move → Option (String × Bytes)
  | .note n _ _ => n.answered?
  | _ => none

/-- What went to clients, in order. -/
def answered (b : Bridge) : List (String × Bytes) := b.notices.reverse.filterMap Notice.answered?

/-! ## What goes to clients -/

theorem answered_notify (b : Bridge) (n : Notice) :
    (b.notify n).answered = b.answered ++ n.answered?.toList := by
  unfold answered notify
  rw [List.reverse_cons, List.filterMap_append, List.filterMap_cons]
  cases n.answered? <;> rfl

theorem answered_quiet {n : Notice} (h : n.answered? = none) (b : Bridge) :
    (b.notify n).answered = b.answered := by
  rw [answered_notify, h]
  exact List.append_nil _

theorem answered_deliver (b : Bridge) (response : Bytes) : (b.deliver response).answered = b.answered := by
  have hd (d : Desk) : { b with
      desk := d
      notices := ((List.range b.listeners).map (Notice.heard · response)).reverse ++ b.notices
      }.answered = b.answered := by
    have hn : ((List.range b.listeners).map (Notice.heard · response)).filterMap Notice.answered? = [] := by
      rw [List.filterMap_map]
      exact List.filterMap_eq_nil_iff.2 fun _ _ => rfl
    unfold answered
    rw [List.reverse_append, List.reverse_reverse, List.filterMap_append, hn, List.append_nil]
  unfold deliver
  rw [foldl_heard]
  dsimp only
  split
  · exact hd _
  · exact (answered_quiet rfl _).trans (hd _)

theorem answered_queueTouch {b b' : Bridge} {t : Touch} (h : b.queueTouch t = .ok b') :
    b'.answered = b.answered := by
  unfold queueTouch at h
  dsimp only at h
  split at h <;> cases h
  rfl

theorem answered_tryTouch (b : Bridge) (refused : InputError → Remark) (t : Touch) :
    (b.tryTouch refused t).answered = b.answered := by
  unfold tryTouch
  split
  · rename_i h
    exact answered_queueTouch h
  · exact answered_quiet rfl b

theorem answered_perform (b : Bridge) (a : Action) : (b.perform a).answered = b.answered := by
  cases a with
  | button mask pressed =>
    simp only [perform]
    split
    · rfl
    · exact answered_quiet rfl b
  | finger x y pressed => exact answered_tryTouch b .actionFailed ⟨x, y, pressed⟩
  | setBool | exit => rfl

theorem answered_carryOut {b b' : Bridge} {o : Output} (h : b.carryOut o = .ok b') :
    b'.answered = b.answered := by
  cases o with
  | event p => cases h; rfl
  | reply p =>
    rw [carryOut_reply] at h
    cases hr : b.pacer.reply p <;> rw [hr] at h <;> cases h
    rfl
  | statusReceived =>
    rw [carryOut_statusReceived] at h
    cases hr : b.pacer.statusReceived <;> rw [hr] at h <;> cases h
    rfl
  | apdu bs => cases h; exact answered_deliver b bs
  | text ev => cases h; exact answered_quiet rfl b
  | action a => cases h; exact answered_perform b a
  | screen ps => cases h; exact answered_quiet rfl b
  | exit => cases h; rfl

theorem answered_carryOutAll (b : Bridge) (os : List Output) :
    (b.carryOutAll os).2.answered = b.answered := by
  induction os generalizing b with
  | nil => rfl
  | cons o os ih =>
    unfold carryOutAll
    cases h : b.carryOut o with
    | error e => rfl
    | ok b' => exact (ih b').trans (answered_carryOut h)

theorem answered_heed (b : Bridge) (p : Packet) : (b.heed p).answered = b.answered := by
  unfold heed
  generalize (b.engine.update p).engine = e
  generalize (b.engine.update p).log = log
  induction log generalizing b with
  | nil => rfl
  | cons line log ih => exact (ih (b.remark (.printed line))).trans (answered_quiet rfl b)

theorem answered_conclude (b : Bridge) (r : Option Settled × Desk) :
    (b.conclude r).answered = b.answered := by
  obtain ⟨_ | s, d⟩ := r
  · rfl
  · exact answered_quiet rfl _

theorem answered_send (b : Bridge) : b.send.2.answered = b.answered := by
  by_cases h : ∃ p, b.pacer.next.1 = .packet p
  · obtain ⟨p, hp⟩ := h
    rw [send_packet hp]
    split
    · rfl
    · exact answered_quiet rfl _
  · rw [(send_nothing fun p hp => h ⟨p, hp⟩).1]

theorem answered_transmit (b : Bridge) : b.transmit.answered = b.answered := by
  rcases transmit_cases b with ⟨x, rc, u, ht, hs⟩ | ⟨x, rc, e, ht, hs⟩ | hi
  · rw [transmit_ok ht hs]
    rfl
  · rw [transmit_error ht hs]
    rfl
  · rw [transmit_idle hi]

/-- **The bridge by itself sends nothing to a client.** -/
theorem answered_move (b : Bridge) (m : Move) :
    (b.move m).answered = b.answered ++ m.answered?.toList := by
  cases m with
  | note n => exact answered_notify b n
  | touch t =>
    refine Eq.trans ?_ (List.append_nil _).symm
    simp only [move]
    split
    · rename_i h
      exact answered_queueTouch h
    · rfl
  | dispatch p =>
    simp only [move, dispatch_snd]
    rw [answered_carryOutAll, answered_heed]
    exact (List.append_nil _).symm
  | startTurn | leave => exact (answered_conclude b _).trans (List.append_nil _).symm
  | transmit => exact (answered_transmit b).trans (List.append_nil _).symm
  | send => exact (answered_send b).trans (List.append_nil _).symm
  | clear =>
    refine Eq.trans ?_ (List.append_nil _).symm
    simp only [move]
    split <;> rfl
  | button | setRules | listen | requestTick | forceTick | pause | resume | exchange | expire | lapse
    | close => exact (List.append_nil _).symm

/-! ## One client -/

/-- The bytes that went to a client. -/
def sentTo (name : String) (b : Bridge) : Bytes :=
  (b.answered.filter fun a => a.1 = name).flatMap Prod.snd

def isOf (name : String) (x : Exchange) : Bool := x.caller = .client name

/-- The ends of a client's exchanges. -/
def endedOf (name : String) (b : Bridge) : List Settled := b.ended.filter (isOf name ·.exchange)

/-- The responses with which a client's exchanges ended. -/
def responsesTo (name : String) (b : Bridge) : List Bytes :=
  (b.endedOf name).filterMap Settled.response?

/-- The exchanges of a client that are held. -/
def heldOf (name : String) (b : Bridge) : List Exchange := b.desk.held.filter (isOf name)

/-- From one bridge to another nothing changes for a client. -/
structure Still (name : String) (b b' : Bridge) : Prop where
  sentTo : b'.sentTo name = b.sentTo name
  endedOf : b'.endedOf name = b.endedOf name
  heldOf : b'.heldOf name = b.heldOf name
  sound : b'.desk.Sound

section OneClient

variable {name : String} {b b' : Bridge}

theorem sentTo_notify (b : Bridge) (name : String) (bs : Bytes) :
    (b.notify (.answered name bs)).sentTo name = b.sentTo name ++ bs := by
  rw [sentTo, sentTo, answered_notify, List.filter_append, List.flatMap_append]
  simp [Notice.answered?]

theorem held_move (h : b.desk.Sound) (m : Move) :
    (b.ends m).map Settled.exchange ++ (b.move m).desk.held =
      b.desk.held ++ (m.entry? b.desk.issued).toList := by
  have hh := (Desk.held_after h (b.calls m)).1
  rwa [← ends_eq, ← desk_move, entries_calls] at hh

theorem sound_move (h : b.desk.Sound) (m : Move) : (b.move m).desk.Sound := by
  rw [desk_move]
  exact h.after _

theorem still_move (h : b.desk.Sound) {m : Move} (hm : m.Apart (· = name)) : Still name b (b.move m) := by
  have hends : b.ends m = [] := by
    cases m with
    | startTurn | leave => cases hm
    | button | touch | note | setRules | listen | requestTick | forceTick | pause | resume | exchange
      | transmit | expire | lapse | dispatch | send | close | clear => rfl
  refine ⟨?_, ?_, ?_, sound_move h m⟩
  · have hnote : m.answered?.toList.filter (fun a => a.1 = name) = [] := by
      cases m with
      | note n =>
        cases n with
        | answered client bs =>
          have hne : client ≠ name := hm
          exact List.filter_eq_nil_iff.2 (by simpa [Move.answered?, Notice.answered?] using hne)
        | sent | text | screen | heard | settled | finished | ended | shown | viewerClosed | hungUp
          | remark => rfl
      | button | touch | setRules | listen | requestTick | forceTick | pause | resume | exchange
        | startTurn | transmit | leave | expire | lapse | dispatch | send | close | clear => rfl
    rw [sentTo, sentTo, answered_move, List.filter_append, hnote, List.append_nil]
  · rw [endedOf, endedOf, (seen_move b m).2, hends, List.append_nil]
  · have hentry : (m.entry? b.desk.issued).toList.filter (isOf name) = [] := by
      cases m with
      | exchange caller apdu limit =>
        refine List.filter_eq_nil_iff.2 fun x hx => ?_
        obtain rfl := List.mem_singleton.1 hx
        cases caller with
        | call => simp [isOf]
        | client client =>
          have hne : client ≠ name := hm
          simpa [isOf] using hne
      | button | touch | note | setRules | listen | requestTick | forceTick | pause | resume
        | startTurn | transmit | leave | expire | lapse | dispatch | send | close | clear => rfl
    have hh := held_move h m
    rw [hends] at hh
    rw [heldOf, heldOf, ← List.nil_append (b.move m).desk.held]
    show (([] : List Settled).map Settled.exchange ++ _).filter _ = _
    rw [hh, List.filter_append, hentry, List.append_nil]

theorem Still.refl (h : b.desk.Sound) : Still name b b := ⟨rfl, rfl, rfl, h⟩

theorem Still.trans {c : Bridge} (h : Still name b b') (g : Still name b' c) : Still name b c :=
  ⟨g.sentTo.trans h.sentTo, g.endedOf.trans h.endedOf, g.heldOf.trans h.heldOf, g.sound⟩

/-- **Moves that have nothing to do with a client change nothing for it.** -/
theorem Still.of_apart (h : b.desk.Sound) (hr : ReachesBy (Move.Apart (· = name)) b b') :
    Still name b b' := by
  obtain ⟨ms, hm, rfl⟩ := hr
  induction ms generalizing b with
  | nil => exact .refl h
  | cons m ms ih =>
    obtain ⟨hm, hms⟩ := List.forall_mem_cons.1 hm
    have hs := still_move h hm
    exact hs.trans (ih hs.sound hms)

theorem Still.responsesTo (h : Still name b b') : b'.responsesTo name = b.responsesTo name := by
  rw [Bridge.responsesTo, Bridge.responsesTo, h.endedOf]

/-! ## Exchanges that go on -/

theorem notices_conclude (b : Bridge) (r : Option Settled × Desk) :
    (b.conclude r).notices = (r.1.toList.map Notice.settled).reverse ++ b.notices := by
  obtain ⟨_ | s, d⟩ := r <;> rfl

theorem notices_serves {m : Move} (hm : m.Serves) :
    (b.move m).notices = ((b.ends m).map Notice.settled).reverse ++ b.notices := by
  cases m with
  | startTurn | leave => exact notices_conclude b _
  | transmit =>
    simp only [move]
    rcases transmit_cases b with ⟨x, rc, u, ht, hs⟩ | ⟨x, rc, e, ht, hs⟩ | hi
    · rw [transmit_ok ht hs]
      rfl
    · rw [transmit_error ht hs]
      rfl
    · rw [transmit_idle hi]
      rfl
  | expire => rfl
  | button | touch | note | setRules | listen | requestTick | forceTick | pause | resume | exchange
    | lapse | dispatch | send | close | clear => cases hm

/-- What has come of exchanges that went on: the ends that could be seen. -/
structure Served (b b' : Bridge) (ends : List Settled) : Prop where
  notices : b'.notices = (ends.map Notice.settled).reverse ++ b.notices
  held : ends.map Settled.exchange ++ b'.desk.held = b.desk.held
  sound : b'.desk.Sound

/-- **When exchanges go on, nothing is seen but their ends**, and they end in the order in which they are
held. -/
theorem exists_served (h : b.desk.Sound) (hr : ReachesBy Move.Serves b b') : ∃ ends, Served b b' ends := by
  obtain ⟨ms, hm, rfl⟩ := hr
  induction ms generalizing b with
  | nil => exact ⟨[], rfl, rfl, h⟩
  | cons m ms ih =>
    obtain ⟨hm, hms⟩ := List.forall_mem_cons.1 hm
    obtain ⟨ends, hn, hh, hs⟩ := ih (sound_move h m) hms
    have hheld := held_move h m
    have hentry : m.entry? b.desk.issued = none := by
      cases m with
      | exchange => cases hm
      | button | touch | note | setRules | listen | requestTick | forceTick | pause | resume
        | startTurn | transmit | leave | expire | lapse | dispatch | send | close | clear => rfl
    refine ⟨b.ends m ++ ends, ?_, ?_, hs⟩
    · rw [run_cons, hn, notices_serves hm, List.map_append, List.reverse_append, List.append_assoc]
    · rw [run_cons, List.map_append, List.append_assoc, hh, hheld, hentry]
      exact List.append_nil _

section Served

variable {ends : List Settled} (h : Served b b' ends)

include h

theorem Served.sentTo : b'.sentTo name = b.sentTo name := by
  have hn : (ends.map Notice.settled).filterMap Notice.answered? = [] := by
    rw [List.filterMap_map]
    exact List.filterMap_eq_nil_iff.2 fun _ _ => rfl
  unfold Bridge.sentTo answered
  rw [h.notices, List.reverse_append, List.reverse_reverse, List.filterMap_append, hn, List.append_nil]

theorem Served.endedOf : b'.endedOf name = b.endedOf name ++ ends.filter (isOf name ·.exchange) := by
  have hn : (ends.map Notice.settled).filterMap Notice.settled? = ends := by
    rw [List.filterMap_map]
    exact List.filterMap_some
  unfold Bridge.endedOf ended
  rw [h.notices, List.reverse_append, List.reverse_reverse, List.filterMap_append, hn,
    List.filter_append]

theorem Served.heldOf :
    (ends.filter (isOf name ·.exchange)).map Settled.exchange ++ b'.heldOf name = b.heldOf name := by
  rw [Bridge.heldOf, Bridge.heldOf, ← h.held, List.filter_append, List.filter_map]
  rfl

end Served

end OneClient

end Bridge
end Seph
