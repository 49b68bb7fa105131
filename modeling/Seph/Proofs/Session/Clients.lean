import Seph.Proofs.Bridge.Answers
import Seph.Proofs.Bridge.Lengths
import Seph.Proofs.Channel.Apdu
import Seph.Proofs.Session.Moves

/-!
# Clients of the APDU channel

A client has one exchange at a time. It takes the end of its exchange when the exchanges have gone as far
as they can, and a response is sent to it.

1. `Account`: what a client was sent, and what it has yet to take, are the responses of its exchanges; and
   an exchange of its own is held only while it waits for it.
2. `Account.goOn`: the client takes what there is for it, and reads on.
3. `Ledger.step`: so it is after every input of a session, for a client with a name of its own.
4. `apdu_channel_in_step`: requests are read back, and so are responses if each has a status word.
-/

namespace Seph

open Bridge (ReachesBy Move Still Served isOf)
open ApduChannel (encodeRequest encodeResponse requests responses)

namespace Client

theorem name_readOut (c : Client) (rest : Bytes) (b : Bridge) : (c.readOut rest b).1.name = c.name := by
  unfold readOut
  split <;> rfl

theorem name_readFinger (c : Client) (ls : List Bytes) (rest : Bytes) (b : Bridge) :
    (if (readLines ls b).1 then c.readOut rest (readLines ls b).2
      else c.hangUp (readLines ls b).2).1.name = c.name := by
  split
  · exact c.name_readOut rest _
  · rfl

theorem name_read (c : Client) (b : Bridge) : (c.read b).1.name = c.name := by
  unfold read
  split
  · rfl
  · split
    · exact c.name_readOut _ _
    · exact c.name_readFinger _ _ b
    · split
      · rfl
      · split
        · exact c.name_readOut _ b
        · rfl
        · rfl

theorem name_goOn (c : Client) (seen : List Notice) (b : Bridge) : (c.goOn seen b).1.name = c.name :=
  (name_read _ _).trans (c.name_foldl_settled (seen.filterMap c.result?) b)

end Client

/-- A client and the bridge agree: what it was sent, and the ends it has yet to take, are the responses of
its exchanges; and only while it waits for one exchange is there one that is held or just ended. -/
structure Account (name : String) (own : Option Client) (due : List Settled) (b : Bridge) : Prop where
  sound : b.desk.Sound
  sent : b.sentTo name ++ (due.filterMap Settled.response?).flatMap encodeResponse =
    (b.responsesTo name).flatMap encodeResponse
  named : ∀ c, own = some c → c.name = name
  held : due.map Settled.exchange ++ b.heldOf name = [] ∨
    ∃ x c, due.map Settled.exchange ++ b.heldOf name = [x] ∧ own = some c ∧
      c.connected = true ∧ c.busy = true ∧ c.service = .apdu

namespace Account

variable {name : String} {own : Option Client} {due : List Settled} {b b' : Bridge} {c : Client}

theorem still (h : Account name own due b) (hs : Still name b b') : Account name own due b' where
  sound := hs.sound
  sent := by rw [hs.sentTo, hs.responsesTo, h.sent]
  named := h.named
  held := by rw [hs.heldOf]; exact h.held

/-- While none of its exchanges is held, anything may become of the client. -/
theorem idle (h : Account name own [] b) (hh : b.heldOf name = []) (hc : c.name = name) :
    Account name (some c) [] b where
  sound := h.sound
  sent := h.sent
  named := fun d hd => Option.some.inj hd ▸ hc
  held := .inl (by rw [hh]; rfl)

theorem served (h : Account name own [] b) {ends : List Settled} (hs : Served b b' ends) :
    Account name own (ends.filter (isOf name ·.exchange)) b' where
  sound := hs.sound
  sent := by
    have hsent : b.sentTo name = (b.responsesTo name).flatMap encodeResponse :=
      (List.append_nil _).symm.trans h.sent
    rw [hs.sentTo, hsent, Bridge.responsesTo, Bridge.responsesTo, hs.endedOf, List.filterMap_append,
      List.flatMap_append]
  named := h.named
  held := by rw [hs.heldOf]; exact h.held

/-! ## Reading -/

theorem heldOf_eq_nil (h : Account name (some c) [] b) (hc : c.busy = false ∨ c.service ≠ .apdu) :
    b.heldOf name = [] := by
  rcases h.held with hn | ⟨x, d, -, he, -, hb, hs⟩
  · exact hn
  · cases he
    rcases hc with hc | hc
    · rw [hb] at hc
      cases hc
    · exact absurd hs hc

/-- A client that waits for no exchange may hang up, or do without what it has read. -/
theorem readOut (h : Account name (some c) [] b) (hc : c.busy = false ∨ c.service ≠ .apdu)
    (hs : Still name b b') (rest : Bytes) :
    Account name (some (c.readOut rest b').1) [] (c.readOut rest b').2 := by
  have hr : Still name b' (c.readOut rest b').2 := .of_apart hs.sound (c.reaches_readOut rest b')
  have hheld : (c.readOut rest b').2.heldOf name = [] := by
    rw [hr.heldOf, hs.heldOf]
    exact h.heldOf_eq_nil hc
  exact ((h.still hs).still hr).idle hheld ((c.name_readOut rest b').trans (h.named c rfl))

theorem hangUp (h : Account name (some c) [] b) (hh : b.heldOf name = []) :
    Account name (some (c.hangUp b).1) [] (c.hangUp b).2 := by
  have hr : Still name b (c.hangUp b).2 := .of_apart h.sound (c.reaches_hangUp b)
  exact (h.still hr).idle (hr.heldOf.trans hh) (h.named c rfl)

theorem readFinger (h : Account name (some c) [] b) (hs : c.service ≠ .apdu) (ls : List Bytes)
    (rest : Bytes) :
    let b' := (Client.readLines ls b).2
    Account name
      (some (if (Client.readLines ls b).1 then c.readOut rest b' else c.hangUp b').1) []
      (if (Client.readLines ls b).1 then c.readOut rest b' else c.hangUp b').2 := by
  intro b'
  have hl : Still name b b' := .of_apart h.sound (Client.reaches_readLines ls b)
  split
  · exact h.readOut (.inr hs) hl rest
  · exact (h.still hl).hangUp (hl.heldOf.trans (h.heldOf_eq_nil (.inr hs)))

theorem exchange (h : Account name (some c) [] b) (hh : b.heldOf name = []) (hc : c.connected = true)
    (hs : c.service = .apdu) (rest apdu : Bytes) (limit : Option Nat) :
    Account name (some { c with unread := rest, busy := true }) []
      (b.exchange (.client c.name) apdu limit) where
  sound := Bridge.sound_move h.sound (.exchange (.client c.name) apdu limit)
  sent := h.sent
  named := fun d hd => Option.some.inj hd ▸ h.named c rfl
  held := by
    refine .inr ⟨⟨b.desk.issued, .client c.name, apdu, limit⟩, _, ?_, rfl, hc, rfl, hs⟩
    have hm := Bridge.held_move h.sound (.exchange (.client c.name) apdu limit)
    show ((b.move (.exchange (.client c.name) apdu limit)).desk.held).filter (isOf name) = _
    rw [show (b.move (.exchange (.client c.name) apdu limit)).desk.held = _ from hm, List.filter_append]
    show b.heldOf name ++ _ = _
    rw [hh]
    simp [Bridge.Move.entry?, isOf, h.named c rfl]

/-- **A client reads on.** -/
theorem read (h : Account name (some c) [] b) : Account name (some (c.read b).1) [] (c.read b).2 := by
  unfold Client.read
  split
  · exact h
  · rename_i hconn
    split
    · rename_i hs
      have hne : c.service ≠ .apdu := hs ▸ nofun
      exact h.readOut (.inr hne) (.of_apart h.sound (c.reaches_buttons b)) _
    · rename_i hs
      have hne : c.service ≠ .apdu := hs ▸ nofun
      exact h.readFinger hne _ _
    · rename_i hs
      split
      · exact h
      · rename_i hb
        have hb : c.busy = false := Bool.eq_false_iff.2 hb
        have hh : b.heldOf name = [] := h.heldOf_eq_nil (.inl hb)
        split
        · exact h.readOut (.inl hb) (.refl h.sound) _
        · exact h.hangUp hh
        · exact h.exchange hh (by simpa using hconn) hs _ _ _

/-! ## Taking an end -/

/-- A client takes the end of its exchange: a response is sent to it, and after an error it hangs up. -/
theorem settled {s : Settled} (h : Account name (some c) [s] b) :
    Account name (some (c.settled s.result b).1) [] (c.settled s.result b).2 := by
  obtain ⟨hheld, hconn, hs⟩ : b.heldOf name = [] ∧ c.connected = true ∧ c.service = .apdu := by
    rcases h.held with hn | ⟨x, d, hx, he, hconn, -, hs⟩
    · cases hn
    · cases he
      exact ⟨(List.cons.inj hx).2, hconn, hs⟩
  obtain ⟨x, r⟩ := s
  have hsent := h.sent
  unfold Client.settled
  rw [if_neg (by rw [hconn]; exact Bool.false_ne_true)]
  cases r with
  | error e =>
    -- the error is nothing to send
    have hi : Account name (some c) [] b :=
      ⟨h.sound, hsent, h.named, .inl hheld⟩
    exact hi.hangUp hheld
  | ok response =>
    refine ⟨h.sound, ?_, fun d hd => Option.some.inj hd ▸ h.named c rfl, .inl hheld⟩
    have hresp : (b.notify (.answered c.name (encodeResponse response))).responsesTo name =
        b.responsesTo name := by
      rw [Bridge.responsesTo, Bridge.responsesTo, Bridge.endedOf, Bridge.endedOf,
        (Bridge.quiet_notify rfl rfl b).ended]
    show (b.notify (.answered c.name (encodeResponse response))).sentTo name ++ [] =
      ((b.notify (.answered c.name (encodeResponse response))).responsesTo name).flatMap encodeResponse
    rw [hresp, ← hsent, h.named c rfl, Bridge.sentTo_notify]
    simp [Settled.response?]

/-- **A client takes what there is for it, and reads on.** -/
theorem goOn (h : Account name (some c) due b) {seen : List Notice}
    (hseen : seen.filterMap c.result? = due.map Settled.result) :
    Account name (some (c.goOn seen b).1) [] (c.goOn seen b).2 := by
  unfold Client.goOn
  rw [hseen]
  match due with
  | [] => exact h.read
  | [s] => exact h.settled.read
  | s :: s' :: more =>
    rcases h.held with hn | ⟨x, d, hx, -⟩
    · cases hn
    · cases hx

end Account

/-! ## Sessions -/

/-- A client of a given name connects. -/
def Input.connects (name : String) : Input → Bool
  | .connect c _ => c = name
  | _ => false

/-- The clients are alike but for what they have sent. -/
structure Client.Alike (c d : Client) : Prop where
  name : c.name = d.name
  connected : c.connected = d.connected
  busy : c.busy = d.busy
  service : c.service = d.service

namespace Session

/-- A client of the session and the bridge agree, or there is no client of this name and nothing of its
own. No other client has the name. -/
def Ledger (name : String) (known : Bool) (s : Session) : Prop :=
  ∃ own pre post, own.isSome = known ∧ s.clients = pre ++ own.toList ++ post ∧
    (∀ c ∈ pre ++ post, c.name ≠ name) ∧ Account name own [] s.bridge

section Ledger

variable {name : String} {known : Bool} {s s' : Session} {own : Option Client} {due : List Settled}
  {pre post : List Client} {seen : List Notice}

theorem goOnAll_append (seen : List Notice) (cs ds : List Client) (b : Bridge) :
    goOnAll seen (cs ++ ds) b =
      ((goOnAll seen cs b).1 ++ (goOnAll seen ds (goOnAll seen cs b).2).1,
        (goOnAll seen ds (goOnAll seen cs b).2).2) := by
  induction cs generalizing b with
  | nil => rfl
  | cons c cs ih => rw [List.cons_append, goOnAll, ih, goOnAll, List.cons_append]

theorem names_goOnAll (seen : List Notice) (cs : List Client) (b : Bridge) :
    (goOnAll seen cs b).1.map Client.name = cs.map Client.name := by
  induction cs generalizing b with
  | nil => rfl
  | cons c cs ih => rw [goOnAll, List.map_cons, c.name_goOn, ih, List.map_cons]

theorem others_goOnAll {cs : List Client} (hcs : ∀ c ∈ cs, c.name ≠ name) (seen : List Notice)
    (b : Bridge) : ∀ c ∈ (goOnAll seen cs b).1, c.name ≠ name := by
  intro c hc hn
  have hm := List.mem_map_of_mem (f := Client.name) hc
  rw [names_goOnAll] at hm
  obtain ⟨d, hd, he⟩ := List.mem_map.1 hm
  exact hcs d hd (he.trans hn)

theorem account_goOnAll {b : Bridge} (h : Account name own due b) {cs : List Client}
    (hcs : ∀ c ∈ cs, c.name ≠ name) (seen : List Notice) :
    Account name own due (goOnAll seen cs b).2 :=
  h.still (.of_apart h.sound (reaches_goOnAll hcs seen b))

/-- **Clients read on**, and what is due to one of them is sent to it. -/
theorem ledger_readClients (hs : s.clients = pre ++ own.toList ++ post)
    (hothers : ∀ c ∈ pre ++ post, c.name ≠ name) (h : Account name own due s.bridge)
    (hseen : ∀ c : Client, c.name = name → seen.filterMap c.result? = due.map Settled.result) :
    Ledger name own.isSome (s.readClients seen) := by
  obtain ⟨hpre, hpost⟩ := List.forall_mem_append.1 hothers
  have hp := account_goOnAll h hpre seen
  have hothers' {b : Bridge} :
      ∀ c ∈ (goOnAll seen pre s.bridge).1 ++ (goOnAll seen post b).1, c.name ≠ name :=
    List.forall_mem_append.2 ⟨others_goOnAll hpre seen _, others_goOnAll hpost seen _⟩
  rw [readClients_eq, hs, goOnAll_append, goOnAll_append]
  cases own with
  | none =>
    have hdue : due = [] := by
      rcases h.held with hn | ⟨x, c, -, hc, -⟩
      · exact List.map_eq_nil_iff.1 (List.append_eq_nil_iff.1 hn).1
      · cases hc
    subst hdue
    exact ⟨none, (goOnAll seen pre s.bridge).1, _, rfl, rfl, hothers', account_goOnAll hp hpost seen⟩
  | some c =>
    have ho := hp.goOn (hseen c (h.named c rfl))
    exact ⟨some (c.goOn seen (goOnAll seen pre s.bridge).2).1, (goOnAll seen pre s.bridge).1, _, rfl, rfl,
      hothers', account_goOnAll ho hpost seen⟩

theorem Ledger.still (h : Ledger name known s) (hc : s'.clients = s.clients)
    (hr : ReachesBy (Move.Apart (· = name)) s.bridge s'.bridge) : Ledger name known s' := by
  obtain ⟨own, pre, post, hk, hs, hothers, ha⟩ := h
  exact ⟨own, pre, post, hk, hc.trans hs, hothers, ha.still (.of_apart ha.sound hr)⟩

/-! ## Everything that goes on -/

theorem clients_display (s : Session) (seen : List Notice) : (s.display seen).clients = s.clients := by
  unfold display
  split <;> rfl

theorem clients_receive (s : Session) : s.receive.clients = s.clients := by
  unfold receive
  split
  · rfl
  · dsimp only
    split
    · exact clients_display _ _
    · exact clients_display _ _

theorem clients_send (s : Session) : s.send.clients = s.clients := by
  unfold send
  split
  · rfl
  · split <;> rfl

/-- The ends that could be seen since exchanges went on are those that there were. -/
theorem filterMap_seenSince {b b' : Bridge} {ends : List Settled} (h : Served b b' ends) {c : Client}
    (hc : c.name = name) : (seenSince b.notices.length b').filterMap c.result? =
      (ends.filter (isOf name ·.exchange)).map Settled.result := by
  have hseen : seenSince b.notices.length b' = ends.map Notice.settled := by
    have hl : b'.notices.length - b.notices.length = (ends.map Notice.settled).reverse.length := by
      rw [h.notices, List.length_append, Nat.add_sub_cancel]
    rw [seenSince, hl, h.notices, List.take_left, List.reverse_reverse]
  rw [hseen, List.filterMap_map]
  clear h hseen
  induction ends with
  | nil => rfl
  | cons e ends ih =>
    rw [List.filterMap_cons, List.filter_cons]
    by_cases he : e.exchange.caller = .client name
    · have hr : (c.result? ∘ Notice.settled) e = some e.result := if_pos (hc.symm ▸ he)
      rw [hr, if_pos (by simpa [isOf] using he), ih]
      rfl
    · have hr : (c.result? ∘ Notice.settled) e = none := if_neg (hc.symm ▸ he)
      rw [hr, if_neg (by simpa [isOf] using he), ih]

/-- **Exchanges go as far as they can, and clients read on.** -/
theorem Ledger.serve (h : Ledger name known s) (n : Nat) : Ledger name known (s.serve n) := by
  have hround {s : Session} (h : Ledger name known s) : Ledger name known
      ((s.withBridge s.bridge.serveAll).readClients
        (seenSince s.bridge.notices.length s.bridge.serveAll)) := by
    obtain ⟨own, pre, post, hk, hs, hothers, ha⟩ := h
    obtain ⟨ends, hserved⟩ := Bridge.exists_served ha.sound (Bridge.reaches_serve _ s.bridge)
    rw [← hk]
    exact ledger_readClients (s := s.withBridge s.bridge.serveAll) hs hothers (ha.served hserved)
      fun c hc => filterMap_seenSince hserved hc
  induction n generalizing s with
  | zero => exact hround h
  | succ n ih =>
    simp only [Session.serve]
    split
    · exact ih (hround h)
    · exact hround h

theorem Ledger.settle (h : Ledger name known s) : Ledger name known s.settle := by
  have receive := h.still (clients_receive s) s.reaches_receive
  have endCalls : Ledger name known s.receive.endCalls := receive.still rfl (reaches_endCalls _)
  have send := endCalls.still (clients_send _) (reaches_send _)
  have serve := send.serve (s.receive.endCalls.send.clients.foldl (fun n c => n + c.unread.length) 1)
  have last := serve.still (clients_send _) (reaches_send _)
  exact last.still rfl (reaches_endCalls _)

/-! ## Inputs -/

theorem Ledger.readClient (h : Ledger name known s) (client : String) {f : Client → Client}
    (hf : ∀ c, (f c).Alike c) : Ledger name known ((s.mapClient client f).readClients []) := by
  obtain ⟨own, pre, post, rfl, hs, hothers, ha⟩ := h
  let g : Client → Client := fun c => if c.name = client then f c else c
  have hg (c : Client) : (g c).Alike c := by
    simp only [g]
    split
    · exact hf c
    · exact ⟨rfl, rfl, rfl, rfl⟩
  have hclients : (s.mapClient client f).clients = pre.map g ++ (own.map g).toList ++ post.map g := by
    show s.clients.map g = _
    rw [hs, List.map_append, List.map_append]
    cases own <;> rfl
  have hothers' : ∀ c ∈ pre.map g ++ post.map g, c.name ≠ name := by
    rw [← List.map_append]
    intro c hc
    obtain ⟨d, hd, rfl⟩ := List.mem_map.1 hc
    exact (hg d).name ▸ hothers d hd
  have ha' : Account name (own.map g) [] s.bridge := by
    refine ⟨ha.sound, ha.sent, fun c hc => ?_, ha.held.imp_right ?_⟩
    · obtain ⟨d, hd, rfl⟩ := Option.map_eq_some_iff.1 hc
      exact (hg d).name.trans (ha.named d hd)
    · rintro ⟨x, c, hx, rfl, hconn, hbusy, hservice⟩
      exact ⟨x, g c, hx, rfl, (hg c).connected.trans hconn, (hg c).busy.trans hbusy,
        (hg c).service.trans hservice⟩
  have hl : Ledger name (own.map g).isSome ((s.mapClient client f).readClients []) :=
    ledger_readClients hclients hothers' ha' fun _ _ => rfl
  rwa [Option.isSome_map] at hl

theorem Ledger.connect (h : Ledger name known s) {client : String} (service : Service)
    (hc : known = true → client ≠ name) :
    Ledger name (known || client = name)
      { s with clients := s.clients ++ [{ name := client, service }] } := by
  obtain ⟨own, pre, post, rfl, hs, hothers, ha⟩ := h
  by_cases hn : client = name
  · cases own with
    | some c => exact absurd hn (hc rfl)
    | none =>
      have hh : s.bridge.heldOf name = [] := by
        rcases ha.held with hh | ⟨x, c, -, hc, -⟩
        · exact hh
        · cases hc
      refine ⟨some { name := client, service }, pre ++ post, [], by simp [hn], ?_, ?_, ha.idle hh hn⟩
      · simp [hs]
      · rwa [List.append_nil]
  · refine ⟨own, pre, post ++ [{ name := client, service }], by simp [hn], ?_, ?_, ha⟩
    · simp [hs]
    · rw [← List.append_assoc]
      exact List.forall_mem_append.2 ⟨hothers, List.forall_mem_singleton.2 hn⟩

/-- **Whatever comes to a session**, a client with a name of its own and the bridge agree. -/
theorem Ledger.take (h : Ledger name known s) (files : String → Option String) (i : Input)
    (hi : known = true → i.connects name = false) :
    Ledger name (known || i.connects name) (s.take files i).2 := by
  cases ho : i.isOfClients with
  | false =>
    have hn : i.connects name = false := by
      cases i with
      | connect => cases ho
      | client | clientEnd | firmware | firmwareEnd | button | touch | rules | resume | period | exchange
        | pause | tick | press | viewer | viewerEnd => rfl
    obtain ⟨hr, hc⟩ : ReachesBy (Move.Apart (· = name)) s.bridge (s.take files i).2.bridge ∧
        (s.take files i).2.clients = s.clients := reaches_take files s ho
    rw [hn, Bool.or_false]
    exact h.still hc hr
  | true =>
    cases i with
    | connect client service =>
      exact h.connect service fun hk => by simpa [Input.connects] using hi hk
    | client client bs =>
      rw [show (Input.client client bs).connects name = false from rfl, Bool.or_false]
      exact h.readClient client fun c => ⟨rfl, rfl, rfl, rfl⟩
    | clientEnd client =>
      rw [show (Input.clientEnd client).connects name = false from rfl, Bool.or_false]
      exact h.readClient client fun c => ⟨rfl, rfl, rfl, rfl⟩
    | firmware | firmwareEnd | button | touch | rules | resume | period | exchange | pause | tick | press
      | viewer | viewerEnd => cases ho

theorem Ledger.after (h : Ledger name known s) (files : String → Option String) {is : List Input}
    (hi : is.countP (Input.connects name) + known.toNat ≤ 1) :
    ∃ known', Ledger name known' (s.after files is) := by
  induction is generalizing s known with
  | nil => exact ⟨known, h⟩
  | cons i is ih =>
    rw [List.countP_cons] at hi
    have hk : known = true → i.connects name = false := by
      rintro rfl
      cases hn : i.connects name with
      | false => rfl
      | true =>
        rw [hn] at hi
        simp at hi
    refine ih ((h.take files i hk).settle) ?_
    cases known <;> cases hn : i.connects name <;> simp [hn] at hi hk ⊢ <;> omega

theorem ledger_start {b : Bridge} (hb : b.IsNew) (name : String) (period : Nat) (viewer : Bool) :
    Ledger name false (start b period viewer) := by
  have hb' : Account name none [] (b.move .requestTick) := by
    have hs : b.desk.Sound := Bridge.sound_run hb []
    have ha : Account name none [] b := by
      refine ⟨hs, ?_, fun _ hc => absurd hc (by simp), .inl ?_⟩
      · rw [Bridge.sentTo, Bridge.answered, Bridge.responsesTo, Bridge.endedOf, Bridge.ended, hb.notices]
        rfl
      · rw [Bridge.heldOf, hb.desk]
        rfl
    exact ha.still (Bridge.still_move hs trivial)
  exact Ledger.settle ⟨none, [], [], rfl, rfl, by simp, hb'⟩

end Ledger

/-! ## Both directions -/

/-- **A client is sent the responses of its exchanges**, each once and in order, and nothing else. -/
theorem sentTo_eq {b : Bridge} (hb : b.IsNew) (files : String → Option String) (period : Nat)
    (viewer : Bool) {is : List Input} {name : String} (hi : is.countP (Input.connects name) ≤ 1) :
    let c := ((start b period viewer).after files is).bridge
    c.sentTo name = (c.responsesTo name).flatMap encodeResponse := by
  obtain ⟨known, own, pre, post, -, -, -, ha⟩ := (ledger_start hb name period viewer).after files hi
  exact (List.append_nil _).symm.trans ha.sent

theorem length_of_mem_responsesTo {b : Bridge} (hb : b.IsNew) (files : String → Option String)
    (period : Nat) (viewer : Bool) (is : List Input) (name : String) :
    ∀ r ∈ (((start b period viewer).after files is).bridge).responsesTo name, r.length ≤ 65535 := by
  intro r hr
  obtain ⟨ms, hm, hrun⟩ := fits_after files b period viewer is
  obtain ⟨⟨x, result⟩, hx, hr⟩ := List.mem_filterMap.1 hr
  have hended := (List.mem_filter.1 hx).1
  rw [hrun] at hended
  cases result with
  | error e => cases hr
  | ok r =>
    cases hr
    exact Bridge.length_of_ended hb hm hended

/-- **The APDU channel stays in step.**

1. Requests that are not too long are read back from their encodings, and then the stream has ended. A
   greater length behind them is refused, and what follows its four bytes is not read.
2. Whatever comes to a session, a client is sent the responses of its exchanges and nothing else. A
   client that adds two to each length reads them back, with nothing left over, exactly if each of them
   has the two bytes of a status word. -/
theorem apdu_channel_in_step {apdus : List Bytes} (fitting : ∀ a ∈ apdus, a.length ≤ maxApdu)
    {files : String → Option String} {o : Options} {b : Bridge} (options : Bridge.ofOptions files o = .ok b)
    (period : Nat) (viewer : Bool) {is : List Input} {name : String}
    (once : is.countP (Input.connects name) ≤ 1) :
    requests.readAll (apdus.flatMap encodeRequest) = (apdus, .ended, []) ∧
    (∀ n rest, maxApdu < n → n < 2 ^ 32 →
      requests.readAll (apdus.flatMap encodeRequest ++ (Word.toBE 4 n ++ rest)) =
        (apdus, .refused (.apduTooLong n), rest)) ∧
    let c := ((start b period viewer).after files is).bridge
    c.sentTo name = (c.responsesTo name).flatMap encodeResponse ∧
    (responses.takeAll (c.sentTo name) = (c.responsesTo name, none, []) ↔
      ∀ r ∈ c.responsesTo name, 2 ≤ r.length) := by
  have hb := Bridge.isNew_of_ofOptions options
  have hsent := sentTo_eq hb files period viewer once
  refine ⟨ApduChannel.readAll_requests fitting, fun n rest hn hn' =>
    ApduChannel.readAll_requests_tooLong fitting hn hn' rest, hsent, ?_⟩
  dsimp only at hsent
  rw [hsent]
  refine ApduChannel.takeAll_responses_iff fun r hr => ?_
  have := length_of_mem_responsesTo hb files period viewer is name r hr
  omega

/-- Two requests of a client; both are answered with a response that has a status word. -/
theorem apdu_channel_in_step_twice :
    let apdus : List Bytes := [[0x80, 1], [0x80, 2]]
    let b : Bridge := { engine := Engine.new .nanoSP .hid none }
    let is : List Input := [.connect "a" .apdu, .client "a" (encodeRequest [0x80, 1]),
      .firmware [0x53, 0, 2, 0x90, 0], .client "a" (encodeRequest [0x80, 2]),
      .firmware [0x53, 0, 3, 0xaa, 0x90, 0]]
    let c := ((start b 100 false).after (fun _ => none) is).bridge
    (∀ a ∈ apdus, a.length ≤ maxApdu) ∧
      requests.readAll (apdus.flatMap encodeRequest) = (apdus, .ended, []) ∧
      requests.readAll (apdus.flatMap encodeRequest ++ (Word.toBE 4 65536 ++ [0x80])) =
        (apdus, .refused (.apduTooLong 65536), [0x80]) ∧
      Bridge.ofOptions (fun _ => none) {} = .ok b ∧ is.countP (Input.connects "a") ≤ 1 ∧
      c.responsesTo "a" = [[0x90, 0], [0xaa, 0x90, 0]] ∧
      responses.takeAll (c.sentTo "a") = ([[0x90, 0], [0xaa, 0x90, 0]], none, []) := by
  intro apdus b is c
  have hreq : ∀ a ∈ apdus, a.length ≤ maxApdu := by decide
  have ho : Bridge.ofOptions (fun _ => none) {} = .ok b := rfl
  have hi : is.countP (Input.connects "a") ≤ 1 := by decide
  have hr : c.responsesTo "a" = [[0x90, 0], [0xaa, 0x90, 0]] := by decide +kernel
  obtain ⟨requests_read, too_long, -, responses_read⟩ := apdu_channel_in_step hreq ho 100 false hi
  refine ⟨hreq, requests_read, too_long 65536 [0x80] (by decide) (by decide), ho, hi, hr, ?_⟩
  rw [← hr]
  exact responses_read.2 (by rw [hr]; decide)

/-- **A response without a status word brings a client out of step.** The firmware answers two requests of
a client, the first with one byte. The length that goes before it is 0, as if there were two; so the client
takes it together with the first byte of what follows, and can take no further response. -/
theorem short_response_out_of_step :
    let b : Bridge := { engine := Engine.new .nanoSP .hid none }
    let is : List Input := [.connect "a" .apdu, .client "a" (encodeRequest [0x80, 1]),
      .firmware [0x53, 0, 1, 0x61], .client "a" (encodeRequest [0x80, 2]),
      .firmware [0x53, 0, 3, 0xaa, 0x90, 0]]
    let c := ((start b 100 false).after (fun _ => none) is).bridge
    Bridge.ofOptions (fun _ => none) {} = .ok b ∧ is.countP (Input.connects "a") ≤ 1 ∧
      c.responsesTo "a" = [[0x61], [0xaa, 0x90, 0]] ∧
      c.sentTo "a" = [0, 0, 0, 0, 0x61, 0, 0, 0, 1, 0xaa, 0x90, 0] ∧
      responses.takeAll (c.sentTo "a") = ([[0x61, 0]], none, [0, 0, 1, 0xaa, 0x90, 0]) ∧
      (responses.takeAll (c.sentTo "a")).1 ≠ c.responsesTo "a" := by
  intro b is c
  have ho : Bridge.ofOptions (fun _ => none) {} = .ok b := rfl
  have hr : c.responsesTo "a" = [[0x61], [0xaa, 0x90, 0]] := by decide +kernel
  have hs : c.sentTo "a" = [0, 0, 0, 0, 0x61, 0, 0, 0, 1, 0xaa, 0x90, 0] := by decide +kernel
  have ht : responses.takeAll (c.sentTo "a") = ([[0x61, 0]], none, [0, 0, 1, 0xaa, 0x90, 0]) := by
    rw [hs]
    decide +kernel
  refine ⟨ho, by decide, hr, hs, ht, ?_⟩
  rw [ht, hr]
  decide

end Session
end Seph
